import SeedOrigin.Decimal

/-! Text of fields between separators, read with repeated getline calls: a
separator at the very end starts no further field. -/
namespace SeedOrigin.FieldText
open SeedOrigin.Octets SeedOrigin.Decimal

section
variable {separator : UInt8}

def fields (separator : UInt8) : Bytes → List Bytes
  | [] => []
  | b :: rest =>
    if b = separator then [] :: fields separator rest
    else match fields separator rest with
      | [] => [[b]]
      | piece :: pieces => (b :: piece) :: pieces

def joinFields (separator : UInt8) (first : Bytes) (rest : List Bytes) : Bytes :=
  first ++ rest.flatMap (fun piece => separator :: piece)

theorem joinAppend (first : Bytes) (rest more : List Bytes) :
    joinFields separator first (rest ++ more) =
      joinFields separator first rest ++ more.flatMap (fun piece => separator :: piece) := by
  simp [joinFields, List.append_assoc]

theorem fieldsStep {piece : Bytes} (free : separator ∉ piece) (rest : Bytes) :
    fields separator (piece ++ separator :: rest) = piece :: fields separator rest := by
  induction piece with
  | nil => simp [fields]
  | cons b piece ih =>
    have first : b ≠ separator := fun same => free (same ▸ List.mem_cons_self)
    have others : separator ∉ piece := fun there => free (List.mem_cons_of_mem _ there)
    rw [List.cons_append, fields, if_neg first, ih others]

theorem fieldsLast {piece : Bytes} (free : separator ∉ piece) (some : piece ≠ []) :
    fields separator piece = [piece] := by
  induction piece with
  | nil => contradiction
  | cons b piece ih =>
    have first : b ≠ separator := fun same => free (same ▸ List.mem_cons_self)
    have others : separator ∉ piece := fun there => free (List.mem_cons_of_mem _ there)
    rw [fields, if_neg first]
    cases piece with
    | nil => rfl
    | cons c piece => rw [ih others (List.cons_ne_nil _ _)]

theorem fieldsJoined {first : Bytes} {rest : List Bytes}
    (free : ∀ piece ∈ first :: rest, separator ∉ piece) (some : ∀ piece ∈ first :: rest, piece ≠ []) :
    fields separator (joinFields separator first rest) = first :: rest := by
  induction rest generalizing first with
  | nil =>
    rw [joinFields, List.flatMap_nil, List.append_nil]
    exact fieldsLast (free first List.mem_cons_self) (some first List.mem_cons_self)
  | cons second rest ih =>
    have next : joinFields separator first (second :: rest) =
        first ++ separator :: joinFields separator second rest := by
      simp [joinFields]
    rw [next, fieldsStep (free first List.mem_cons_self),
      ih (fun piece there => free piece (List.mem_cons_of_mem _ there))
        (fun piece there => some piece (List.mem_cons_of_mem _ there))]

end

theorem cutKey {separator : UInt8} {key : Bytes} (free : separator ∉ key) (value : Bytes) :
    cut separator (key ++ separator :: value) = some (key, value) := by
  have all : ∀ b ∈ key, (b != separator) = true := by
    intro b there
    have other : b ≠ separator := fun same => free (same ▸ there)
    simpa using other
  unfold cut
  rw [List.dropWhile_append_of_pos all, List.takeWhile_append_of_pos all]
  simp

theorem cutSplit {separator : UInt8} {raw key value : Bytes} (h : cut separator raw = some (key, value)) :
    raw = key ++ separator :: value := by
  have stops := List.head?_dropWhile_not (fun b => b != separator) raw
  unfold cut at h
  split at h
  · contradiction
  · rename_i c rest made
    cases Option.some.inj h
    rw [made] at stops
    have same : c = separator := by simpa using stops
    rw [same] at made
    rw [← made, List.takeWhile_append_dropWhile]

end SeedOrigin.FieldText
