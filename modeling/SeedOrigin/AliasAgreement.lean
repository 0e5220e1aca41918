import SeedOrigin.AliasStores
import SeedOrigin.Conversions
import SeedOrigin.Runs

/-! The map and the table called with the same calls: the calls on which they
answer alike and stay alike are exactly those that fit the table. -/
namespace SeedOrigin.AliasAgreement
open SeedOrigin.Octets SeedOrigin.Numbers SeedOrigin.Maps SeedOrigin.Tables SeedOrigin.Conversions
open SeedOrigin.Runs SeedOrigin.AliasStores

variable {F : Type} [FloatOps F]

structure Both (F : Type) where
  memory : InMemoryIdentityAliasStore F := {}
  table : PostgresIdentityAliasStore F := {}
  replies : Option (AliasReply F × Except String (AliasReply F)) := none

variable (text : Bytes → Except String Bytes)

def both (pair : Both F) (call : AliasCall F) : Both F :=
  ⟨(pair.memory.call call).1, (pair.table.call text call).1,
    some ((pair.memory.call call).2, (pair.table.call text call).2)⟩

-- An export comes in the order of the names from one, of the ids from the other.
inductive SameReply : AliasReply F → Except String (AliasReply F) → Prop
  | found (record : Option (IdentityAliasRecord F)) : SameReply (.found record) (.ok (.found record))
  | done (succeeded : Bool) : SameReply (.done succeeded) (.ok (.done succeeded))
  | exported {records others : List (IdentityAliasRecord F)} (same : others.Perm records) :
      SameReply (.exported records) (.ok (.exported others))

structure Alike (pair : Both F) : Prop where
  replies : ∀ here there, pair.replies = some (here, there) → SameReply here there
  found : ∀ canonicalClaimedId, text canonicalClaimedId = .ok canonicalClaimedId →
    pair.table.find text canonicalClaimedId = .ok (pair.memory.find canonicalClaimedId)
  exported : ∃ records, pair.table.exportRecords = .ok records ∧
    records.Perm pair.memory.exportRecords

def SignedTick (tick : UInt64) : Prop := tick.toNat < 2 ^ 63
instance (tick : UInt64) : Decidable (SignedTick tick) := Nat.decLt ..

def Arrives (canonicalClaimedId : Bytes) : Prop := text canonicalClaimedId = .ok canonicalClaimedId

def named : AliasCall F → Option Bytes
  | .find canonicalClaimedId => some canonicalClaimedId
  | .insert record => some record.canonicalClaimedId
  | .touch canonicalClaimedId _ => some canonicalClaimedId
  | .reviewAlias canonicalClaimedId _ _ => some canonicalClaimedId
  | .erase canonicalClaimedId => some canonicalClaimedId
  | .exportRecords => none

def Plain (call : AliasCall F) : Prop := ∀ canonicalClaimedId ∈ named call, 0 ∉ canonicalClaimedId

def Fits (memory : InMemoryIdentityAliasStore F) : AliasCall F → Prop
  | .find canonicalClaimedId => Arrives text canonicalClaimedId
  | .insert record => refusedRecord record = false →
      Arrives text record.canonicalClaimedId ∧ checked record.confidence = true ∧
      (memory.find record.canonicalClaimedId = none →
        (∀ canonicalClaimedId other, memory.find canonicalClaimedId = some other →
          other.aliasId ≠ record.aliasId) ∧
        SignedTick record.createdTick ∧ SignedTick record.lastUsedTick)
  | .touch canonicalClaimedId lastUsedTick =>
      Arrives text canonicalClaimedId ∧
        ((memory.find canonicalClaimedId).isSome = true → SignedTick lastUsedTick)
  | .reviewAlias canonicalClaimedId _ confidence => outOfRange confidence = false →
      Arrives text canonicalClaimedId ∧
        ((memory.find canonicalClaimedId).isSome = true → checked confidence = true)
  | .erase canonicalClaimedId => Arrives text canonicalClaimedId
  | .exportRecords => True

def rowOf (record : IdentityAliasRecord F) : AliasRow F :=
  ⟨record.aliasId, record.canonicalClaimedId, storedTick record.createdTick,
    storedTick record.lastUsedTick, record.confidence, reviewStatusToInt record.reviewStatus⟩

theorem tickBack {tick : UInt64} (signed : SignedTick tick) :
    storedTick tick = tick.toNat := if_pos signed

theorem tickRead {tick : UInt64} (signed : SignedTick tick) : readTick (storedTick tick) = .ok tick := by
  unfold readTick
  rw [tickBack signed, if_neg (by omega), Int.toNat_natCast, UInt64.ofNat_toNat]

omit [FloatOps F] in
theorem rowRead {record : IdentityAliasRecord F} (created : SignedTick record.createdTick)
    (used : SignedTick record.lastUsedTick) : readRow (rowOf record) = .ok record := by
  unfold readRow rowOf
  simp only [tickRead created, tickRead used, statusBack, bind, Except.bind, pure, Except.pure]

structure InStep (memory : InMemoryIdentityAliasStore F) (table : PostgresIdentityAliasStore F) : Prop where
  holds : Holds AliasRow.canonicalClaimedId rowOf table.rows memory.records
  ticks : ∀ canonicalClaimedId record, memory.find canonicalClaimedId = some record →
    SignedTick record.createdTick ∧ SignedTick record.lastUsedTick

variable {text} {memory : InMemoryIdentityAliasStore F} {table : PostgresIdentityAliasStore F}

omit [FloatOps F] in
theorem rowFound (inStep : InStep memory table) (canonicalClaimedId : Bytes) :
    select AliasRow.canonicalClaimedId table.rows canonicalClaimedId =
      (memory.find canonicalClaimedId).map rowOf :=
  congrFun inStep.holds.found canonicalClaimedId

omit [FloatOps F] in
theorem foundAlike (inStep : InStep memory table) {canonicalClaimedId : Bytes}
    (arrives : Arrives text canonicalClaimedId) :
    table.find text canonicalClaimedId = .ok (memory.find canonicalClaimedId) := by
  unfold PostgresIdentityAliasStore.find
  rw [arrives]
  simp only [bind, Except.bind, rowFound inStep]
  cases found : memory.find canonicalClaimedId with
  | none => rfl
  | some record =>
    obtain ⟨created, used⟩ := inStep.ticks _ _ found
    simp only [Option.map_some, rowRead created used]
    rfl

variable (text) in
inductive Apart (succeeded : Bool) (made : PostgresIdentityAliasStore F × Except String Bool) : Prop
  | failed (e : String) (told : made.2 = .error e)
  | other (told : made.2 = .ok (!succeeded))
  | unreadable (canonicalClaimedId : Bytes) (row : AliasRow F) (arrives : Arrives text canonicalClaimedId)
      (there : select AliasRow.canonicalClaimedId made.1.rows canonicalClaimedId = some row)
      (lost : row.createdTick < 0 ∨ row.lastUsedTick < 0)

def reviewed : List (AliasCall ℚ) :=
  [.insert ⟨1, ascii "user", 1, 1, 1, .unreviewed⟩, .touch (ascii "user") 2,
    .reviewAlias (ascii "user") .humanConfirmed (3 / 4), .exportRecords]

end SeedOrigin.AliasAgreement
