import SeedOrigin.Numbers
import SeedOrigin.Octets
import SeedOrigin.Tables

/-! The two stores of identity aliases, the map and the table. What a text parameter
becomes on its way to the database is left open. -/
namespace SeedOrigin.AliasStores
open SeedOrigin.Octets SeedOrigin.Numbers SeedOrigin.Maps SeedOrigin.Tables
open FloatOps (lit lt le)

inductive AliasReviewStatus where
  | unreviewed | humanConfirmed | humanRejected
  deriving DecidableEq, Repr

structure IdentityAliasRecord (F : Type) where
  aliasId : Int
  canonicalClaimedId : Bytes
  createdTick : UInt64
  lastUsedTick : UInt64
  confidence : F
  reviewStatus : AliasReviewStatus
  deriving DecidableEq

structure InMemoryIdentityAliasStore (F : Type) where
  records : Std.ExtTreeMap Bytes (IdentityAliasRecord F) := ∅

-- A row of identity_aliases, whose ticks are signed.
structure AliasRow (F : Type) where
  aliasId : Int
  canonicalClaimedId : Bytes
  createdTick : Int
  lastUsedTick : Int
  confidence : F
  reviewStatus : Int
  deriving DecidableEq

structure PostgresIdentityAliasStore (F : Type) where
  rows : List (AliasRow F) := []

inductive AliasCall (F : Type) where
  | find (canonicalClaimedId : Bytes)
  | insert (record : IdentityAliasRecord F)
  | touch (canonicalClaimedId : Bytes) (lastUsedTick : UInt64)
  | reviewAlias (canonicalClaimedId : Bytes) (status : AliasReviewStatus) (confidence : F)
  | erase (canonicalClaimedId : Bytes)
  | exportRecords

inductive AliasReply (F : Type) where
  | found (record : Option (IdentityAliasRecord F))
  | done (succeeded : Bool)
  | exported (records : List (IdentityAliasRecord F))
  deriving DecidableEq

def reviewStatusFromInt (value : Int) : AliasReviewStatus :=
  if value = 1 then .humanConfirmed else if value = 2 then .humanRejected else .unreviewed

def reviewStatusToInt : AliasReviewStatus → Int
  | .humanConfirmed => 1
  | .humanRejected => 2
  | .unreviewed => 0

@[simp] theorem statusBack (status : AliasReviewStatus) :
    reviewStatusFromInt (reviewStatusToInt status) = status := by
  cases status <;> rfl

def storedTick (tick : UInt64) : Int := signed64 tick.toNat

def readTick (value : Int) : Except String UInt64 :=
  if value < 0 then .error "could not convert to unsigned 64-bit integer" else .ok (UInt64.ofNat value.toNat)

section
variable {F : Type} [FloatOps F]

def outOfRange (confidence : F) : Bool := lt confidence (lit 0) || lt (lit 1) confidence

-- The constraint of the table, which a value that is not a number fails too.
def checked (confidence : F) : Bool := le (lit 0) confidence && le confidence (lit 1)

def refusedRecord (record : IdentityAliasRecord F) : Bool :=
  record.aliasId ≤ 0 || record.canonicalClaimedId = [] || outOfRange record.confidence

namespace InMemoryIdentityAliasStore

omit [FloatOps F] in
def find (store : InMemoryIdentityAliasStore F) (canonicalClaimedId : Bytes) :
    Option (IdentityAliasRecord F) := lookup store.records canonicalClaimedId

def insert (store : InMemoryIdentityAliasStore F) (record : IdentityAliasRecord F) :
    InMemoryIdentityAliasStore F × Bool :=
  if refusedRecord record = true ∨ (store.find record.canonicalClaimedId).isSome = true then (store, false)
  else (⟨store.records.insert record.canonicalClaimedId record⟩, true)

def touch (store : InMemoryIdentityAliasStore F) (canonicalClaimedId : Bytes) (lastUsedTick : UInt64) :
    InMemoryIdentityAliasStore F × Bool :=
  match store.find canonicalClaimedId with
  | none => (store, false)
  | some record =>
    (⟨store.records.insert canonicalClaimedId { record with
      lastUsedTick := if lastUsedTick > record.lastUsedTick then lastUsedTick else record.lastUsedTick }⟩,
      true)

def reviewAlias (store : InMemoryIdentityAliasStore F) (canonicalClaimedId : Bytes)
    (status : AliasReviewStatus) (confidence : F) : InMemoryIdentityAliasStore F × Bool :=
  if outOfRange confidence = true then (store, false)
  else match store.find canonicalClaimedId with
    | none => (store, false)
    | some record =>
      (⟨store.records.insert canonicalClaimedId { record with reviewStatus := status, confidence }⟩, true)

def erase (store : InMemoryIdentityAliasStore F) (canonicalClaimedId : Bytes) :
    InMemoryIdentityAliasStore F × Bool :=
  (⟨store.records.erase canonicalClaimedId⟩, (store.find canonicalClaimedId).isSome)

def exportRecords (store : InMemoryIdentityAliasStore F) : List (IdentityAliasRecord F) :=
  store.records.toList.map Prod.snd

def call (store : InMemoryIdentityAliasStore F) :
    AliasCall F → InMemoryIdentityAliasStore F × AliasReply F
  | .find canonicalClaimedId => (store, .found (store.find canonicalClaimedId))
  | .insert record => (store.insert record).map id .done
  | .touch canonicalClaimedId lastUsedTick => (store.touch canonicalClaimedId lastUsedTick).map id .done
  | .reviewAlias canonicalClaimedId status confidence =>
    (store.reviewAlias canonicalClaimedId status confidence).map id .done
  | .erase canonicalClaimedId => (store.erase canonicalClaimedId).map id .done
  | .exportRecords => (store, .exported store.exportRecords)

end InMemoryIdentityAliasStore

def readRow (row : AliasRow F) : Except String (IdentityAliasRecord F) := do
  let createdTick ← readTick row.createdTick
  let lastUsedTick ← readTick row.lastUsedTick
  return ⟨row.aliasId, row.canonicalClaimedId, createdTick, lastUsedTick, row.confidence,
    reviewStatusFromInt row.reviewStatus⟩

omit [FloatOps F] in
theorem rowReadable (row : AliasRow F) : (∃ record, readRow row = .ok record) ↔
    0 ≤ row.createdTick ∧ 0 ≤ row.lastUsedTick := by
  have unread {value : Int} (negative : value < 0) :
      readTick value = .error "could not convert to unsigned 64-bit integer" := if_pos negative
  have read {value : Int} (positive : 0 ≤ value) : readTick value = .ok (UInt64.ofNat value.toNat) :=
    if_neg (by omega)
  unfold readRow
  by_cases created : row.createdTick < 0
  · rw [unread created]
    exact ⟨fun ⟨record, bad⟩ => (nomatch bad), fun both => absurd created (by omega)⟩
  · rw [read (by omega)]
    by_cases used : row.lastUsedTick < 0
    · rw [unread used]
      exact ⟨fun ⟨record, bad⟩ => (nomatch bad), fun both => absurd used (by omega)⟩
    · rw [read (by omega)]
      exact ⟨fun _ => ⟨by omega, by omega⟩, fun _ => ⟨_, rfl⟩⟩

namespace PostgresIdentityAliasStore
variable (text : Bytes → Except String Bytes) (store : PostgresIdentityAliasStore F)

def find (canonicalClaimedId : Bytes) : Except String (Option (IdentityAliasRecord F)) := do
  let key ← text canonicalClaimedId
  match select AliasRow.canonicalClaimedId store.rows key with
  | none => return none
  | some row => return some (← readRow row)

-- Constraints are checked before the row gets to the unique indexes.
def insert (record : IdentityAliasRecord F) : PostgresIdentityAliasStore F × Except String Bool :=
  if refusedRecord record = true then (store, .ok false)
  else match text record.canonicalClaimedId with
    | .error e => (store, .error e)
    | .ok key =>
      if checked record.confidence = false then
        (store, .error "violates check constraint: identity_aliases_confidence_check")
      else if (store.rows.any (keyed AliasRow.aliasId record.aliasId) ||
          store.rows.any (keyed AliasRow.canonicalClaimedId key)) = true then
        (store, .ok false)
      else
        (⟨store.rows ++ [⟨record.aliasId, key, storedTick record.createdTick,
          storedTick record.lastUsedTick, record.confidence, reviewStatusToInt record.reviewStatus⟩]⟩,
          .ok true)

def affected (key : Bytes) : Bool := store.rows.any (keyed AliasRow.canonicalClaimedId key)

def touch (canonicalClaimedId : Bytes) (lastUsedTick : UInt64) :
    PostgresIdentityAliasStore F × Except String Bool :=
  match text canonicalClaimedId with
  | .error e => (store, .error e)
  | .ok key =>
    (⟨update AliasRow.canonicalClaimedId store.rows key fun row =>
      { row with lastUsedTick := max row.lastUsedTick (storedTick lastUsedTick) }⟩, .ok (store.affected key))

def reviewAlias (canonicalClaimedId : Bytes) (status : AliasReviewStatus) (confidence : F) :
    PostgresIdentityAliasStore F × Except String Bool :=
  if outOfRange confidence = true then (store, .ok false)
  else match text canonicalClaimedId with
    | .error e => (store, .error e)
    | .ok key =>
      if store.affected key = true ∧ checked confidence = false then
        (store, .error "violates check constraint: identity_aliases_confidence_check")
      else
        (⟨update AliasRow.canonicalClaimedId store.rows key fun row =>
          { row with reviewStatus := reviewStatusToInt status, confidence }⟩, .ok (store.affected key))

def erase (canonicalClaimedId : Bytes) : PostgresIdentityAliasStore F × Except String Bool :=
  match text canonicalClaimedId with
  | .error e => (store, .error e)
  | .ok key =>
    (⟨delete AliasRow.canonicalClaimedId store.rows key⟩, .ok (store.affected key))

def exportRecords : Except String (List (IdentityAliasRecord F)) :=
  (store.rows.mergeSort (fun a b => a.aliasId ≤ b.aliasId)).mapM readRow

def call : AliasCall F → PostgresIdentityAliasStore F × Except String (AliasReply F)
  | .find canonicalClaimedId => (store, (store.find text canonicalClaimedId).map .found)
  | .insert record => (store.insert text record).map id (Except.map .done)
  | .touch canonicalClaimedId lastUsedTick =>
    (store.touch text canonicalClaimedId lastUsedTick).map id (Except.map .done)
  | .reviewAlias canonicalClaimedId status confidence =>
    (store.reviewAlias text canonicalClaimedId status confidence).map id (Except.map .done)
  | .erase canonicalClaimedId => (store.erase text canonicalClaimedId).map id (Except.map .done)
  | .exportRecords => (store, store.exportRecords.map .exported)

end PostgresIdentityAliasStore

end

end SeedOrigin.AliasStores
