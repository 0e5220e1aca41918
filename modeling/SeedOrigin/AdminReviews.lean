import SeedOrigin.AdminSessions
import SeedOrigin.Conversions
import SeedOrigin.LastWrites

/-! What the review queue lists: the aliases that were left unreviewed by the last
change of their review. -/
namespace SeedOrigin.AdminReviews
open SeedOrigin.Octets SeedOrigin.Numbers SeedOrigin.Tables SeedOrigin.Conversions SeedOrigin.Runs
open SeedOrigin.LastWrites SeedOrigin.AliasStores SeedOrigin.AdminSurface

section
variable {F : Type}

def reviewOf (row : AliasRow F) : AliasReviewStatus × F := (reviewStatusFromInt row.reviewStatus, row.confidence)

def reviewIn (name : Bytes) (aliases : PostgresIdentityAliasStore F) : Option (AliasReviewStatus × F) :=
  (select AliasRow.canonicalClaimedId aliases.rows name).map reviewOf

def succeeded : Except String Bool → Bool
  | .ok true => true
  | _ => false

def saidOf {V : Type} (name : Bytes) (stored : Except String Bytes) (v : V) : Option V :=
  match stored with
  | .ok key => if key = name then some v else none
  | .error _ => none

variable [FloatOps F] (ports : AdminPorts F)

def callWrites (name : Bytes) (aliases : PostgresIdentityAliasStore F) :
    AliasCall F → Option (Option (AliasReviewStatus × F))
  | .insert record =>
    if succeeded (aliases.insert ports.text record).2 = true then
      saidOf name (ports.text record.canonicalClaimedId) (some (record.reviewStatus, record.confidence))
    else none
  | .reviewAlias canonicalClaimedId status confidence =>
    if succeeded (aliases.reviewAlias ports.text canonicalClaimedId status confidence).2 = true then
      saidOf name (ports.text canonicalClaimedId) (some (status, confidence))
    else none
  | .erase canonicalClaimedId =>
    if succeeded (aliases.erase ports.text canonicalClaimedId).2 = true then
      saidOf name (ports.text canonicalClaimedId) none
    else none
  | _ => none

def reviewCall (server : AdminServer F) (request : AdminRequest) : Option (AliasCall F) :=
  if request.route = .review ∧ (requireSession server.sessions request).isSome = true ∧
      request.paramValue "claimedId" ≠ [] then
    (parseReviewStatus (request.paramValue "status")).map fun status =>
      .reviewAlias (canonicalClaimedId (request.paramValue "claimedId")) status
        (((request.param "confidence").map ports.strtof).getD (FloatOps.lit 1))
  else none

def aliasCall (server : AdminServer F) : AdminEvent F → Option (AliasCall F)
  | .request request => reviewCall ports server request
  | .elsewhere call => some call

def writesReview (name : Bytes) (server : AdminServer F) (event : AdminEvent F) :
    Option (Option (AliasReviewStatus × F)) :=
  (aliasCall ports server event).bind (callWrites ports name server.aliases)

variable {ports} {name : Bytes} {aliases : PostgresIdentityAliasStore F} {server : AdminServer F}

omit [FloatOps F] in
theorem keyAbsent {key : Bytes} (none_ : aliases.affected key = false) :
    select AliasRow.canonicalClaimedId aliases.rows key = none := by
  unfold PostgresIdentityAliasStore.affected at none_
  rwa [← selectSome, Option.isSome_eq_false_iff, Option.isNone_iff_eq_none] at none_

theorem insertCases (text : Bytes → Except String Bytes) (aliases : PostgresIdentityAliasStore F)
    (record : IdentityAliasRecord F) :
    (succeeded (aliases.insert text record).2 = false ∧ (aliases.insert text record).1 = aliases) ∨
    ∃ key row, text record.canonicalClaimedId = .ok key ∧
      select AliasRow.canonicalClaimedId aliases.rows (AliasRow.canonicalClaimedId row) = none ∧
      row.canonicalClaimedId = key ∧ reviewOf row = (record.reviewStatus, record.confidence) ∧
      aliases.insert text record = (⟨aliases.rows ++ [row]⟩, .ok true) := by
  unfold PostgresIdentityAliasStore.insert
  split
  · exact .inl ⟨rfl, rfl⟩
  split
  · exact .inl ⟨rfl, rfl⟩
  · rename_i key stored
    split
    · exact .inl ⟨rfl, rfl⟩
    split
    · exact .inl ⟨rfl, rfl⟩
    · rename_i free
      have absent := keyAbsent (Bool.or_eq_false_iff.mp (Bool.eq_false_of_not_eq_true free)).2
      exact .inr ⟨key, _, stored, absent, rfl, by rw [reviewOf, statusBack], rfl⟩

omit [FloatOps F] in
theorem touchCases (text : Bytes → Except String Bytes) (aliases : PostgresIdentityAliasStore F)
    (canonicalClaimedId : Bytes) (lastUsedTick : UInt64) :
    (aliases.touch text canonicalClaimedId lastUsedTick).1 = aliases ∨
    ∃ key change, (∀ row : AliasRow F, (change row).canonicalClaimedId = row.canonicalClaimedId) ∧
      (∀ row, reviewOf (change row) = reviewOf row) ∧
      (aliases.touch text canonicalClaimedId lastUsedTick).1 =
        ⟨update AliasRow.canonicalClaimedId aliases.rows key change⟩ := by
  unfold PostgresIdentityAliasStore.touch
  split
  · exact .inl rfl
  · refine .inr ⟨_, _, ?_, ?_, rfl⟩
    · exact fun _ => rfl
    · exact fun _ => rfl

theorem reviewCases (text : Bytes → Except String Bytes) (aliases : PostgresIdentityAliasStore F)
    (canonicalClaimedId : Bytes) (status : AliasReviewStatus) (confidence : F) :
    (succeeded (aliases.reviewAlias text canonicalClaimedId status confidence).2 = false ∧
      (aliases.reviewAlias text canonicalClaimedId status confidence).1 = aliases) ∨
    ∃ key change, text canonicalClaimedId = .ok key ∧
      (∀ row : AliasRow F, (change row).canonicalClaimedId = row.canonicalClaimedId) ∧
      (∀ row, reviewOf (change row) = (status, confidence)) ∧
      aliases.reviewAlias text canonicalClaimedId status confidence =
        (⟨update AliasRow.canonicalClaimedId aliases.rows key change⟩, .ok (aliases.affected key)) := by
  unfold PostgresIdentityAliasStore.reviewAlias
  split
  · exact .inl ⟨rfl, rfl⟩
  split
  · exact .inl ⟨rfl, rfl⟩
  · rename_i key stored
    split
    · exact .inl ⟨rfl, rfl⟩
    · refine .inr ⟨key, _, stored, ?_, ?_, rfl⟩
      · exact fun _ => rfl
      · exact fun _ => congrArg (fun status => (status, confidence)) (statusBack status)

omit [FloatOps F] in
theorem eraseCases (text : Bytes → Except String Bytes) (aliases : PostgresIdentityAliasStore F)
    (canonicalClaimedId : Bytes) :
    (succeeded (aliases.erase text canonicalClaimedId).2 = false ∧
      (aliases.erase text canonicalClaimedId).1 = aliases) ∨
    ∃ key, text canonicalClaimedId = .ok key ∧ aliases.erase text canonicalClaimedId =
      (⟨delete AliasRow.canonicalClaimedId aliases.rows key⟩, .ok (aliases.affected key)) := by
  unfold PostgresIdentityAliasStore.erase
  split
  · exact .inl ⟨rfl, rfl⟩
  · rename_i key stored
    exact .inr ⟨key, stored, rfl⟩

omit [FloatOps F] in
theorem affectedCases (aliases : PostgresIdentityAliasStore F) (key : Bytes) :
    (aliases.affected key = false ∧ select AliasRow.canonicalClaimedId aliases.rows key = none) ∨
    ∃ row, aliases.affected key = true ∧ select AliasRow.canonicalClaimedId aliases.rows key = some row := by
  cases there : aliases.affected key with
  | false => exact .inl ⟨rfl, keyAbsent there⟩
  | true =>
    unfold PostgresIdentityAliasStore.affected at there
    rw [← selectSome] at there
    obtain ⟨row, found⟩ := Option.isSome_iff_exists.mp there
    exact .inr ⟨row, rfl, found⟩

theorem insertEach (record : IdentityAliasRecord F) :
    reviewIn name (aliases.insert ports.text record).1 =
      (callWrites ports name aliases (.insert record)).getD (reviewIn name aliases) := by
  obtain ⟨failed, same⟩ | ⟨key, row, stored, free, rfl, review, made⟩ := insertCases ports.text aliases record
  · simp only [callWrites, failed, same, Bool.false_eq_true, if_false, Option.getD_none]
  · have writes : callWrites ports name aliases (.insert record) =
        saidOf name (.ok row.canonicalClaimedId) (some (record.reviewStatus, record.confidence)) := by
      simp only [callWrites, made, stored, succeeded, if_true]
    rw [writes, made]
    unfold reviewIn saidOf
    dsimp only
    rw [selectAppend free]
    by_cases here : row.canonicalClaimedId = name
    · rw [here, Function.update_self, if_pos rfl, Option.map_some, review]
      rfl
    · rw [if_neg here, Function.update_of_ne (Ne.symm here)]
      rfl

omit [FloatOps F] in
theorem touchEach (text : Bytes → Except String Bytes) (canonicalClaimedId : Bytes) (lastUsedTick : UInt64) :
    reviewIn name (aliases.touch text canonicalClaimedId lastUsedTick).1 = reviewIn name aliases := by
  obtain same | ⟨key, change, keeps, review, made⟩ := touchCases text aliases canonicalClaimedId lastUsedTick
  · rw [same]
  · rw [made]
    unfold reviewIn
    dsimp only
    rw [selectUpdate keeps]
    by_cases here : name = key
    · subst here
      rw [Function.update_self, Option.map_map]
      congr 1
      funext row
      exact review row
    · rw [Function.update_of_ne here]

theorem reviewEach (canonicalClaimedId : Bytes) (status : AliasReviewStatus) (confidence : F) :
    reviewIn name (aliases.reviewAlias ports.text canonicalClaimedId status confidence).1 =
      (callWrites ports name aliases (.reviewAlias canonicalClaimedId status confidence)).getD
        (reviewIn name aliases) := by
  obtain ⟨failed, same⟩ | ⟨key, change, stored, keeps, review, made⟩ :=
    reviewCases ports.text aliases canonicalClaimedId status confidence
  · simp only [callWrites, failed, same, Bool.false_eq_true, if_false, Option.getD_none]
  · have writes : callWrites ports name aliases (.reviewAlias canonicalClaimedId status confidence) =
        if succeeded (.ok (aliases.affected key)) = true then saidOf name (.ok key) (some (status, confidence))
        else none := by
      simp only [callWrites, made, stored]
    rw [writes, made]
    unfold reviewIn saidOf
    dsimp only
    rw [selectUpdate keeps]
    by_cases here : key = name
    · subst here
      rw [Function.update_self, if_pos rfl]
      obtain ⟨none_, absent⟩ | ⟨row, some_, found⟩ := affectedCases aliases key
      · rw [none_, absent]
        rfl
      · rw [some_, found, Option.map_some, Option.map_some, review]
        rfl
    · rw [if_neg here, Function.update_of_ne (Ne.symm here), ite_self]
      rfl

theorem eraseEach (canonicalClaimedId : Bytes) :
    reviewIn name (aliases.erase ports.text canonicalClaimedId).1 =
      (callWrites ports name aliases (.erase canonicalClaimedId)).getD (reviewIn name aliases) := by
  obtain ⟨failed, same⟩ | ⟨key, stored, made⟩ := eraseCases ports.text aliases canonicalClaimedId
  · simp only [callWrites, failed, same, Bool.false_eq_true, if_false, Option.getD_none]
  · have writes : callWrites ports name aliases (.erase canonicalClaimedId) =
        if succeeded (.ok (aliases.affected key)) = true then saidOf name (.ok key) none else none := by
      simp only [callWrites, made, stored]
    rw [writes, made]
    unfold reviewIn saidOf
    dsimp only
    rw [selectDelete]
    by_cases here : key = name
    · subst here
      rw [Function.update_self, if_pos rfl]
      obtain ⟨none_, absent⟩ | ⟨row, some_, found⟩ := affectedCases aliases key
      · rw [none_, absent]
        rfl
      · rw [some_]
        rfl
    · rw [if_neg here, Function.update_of_ne (Ne.symm here), ite_self]
      rfl

theorem callEach (call : AliasCall F) : reviewIn name (aliases.call ports.text call).1 =
    (callWrites ports name aliases call).getD (reviewIn name aliases) := by
  cases call with
  | find canonicalClaimedId => rfl
  | insert record => exact insertEach record
  | touch canonicalClaimedId lastUsedTick => exact touchEach ports.text canonicalClaimedId lastUsedTick
  | reviewAlias canonicalClaimedId status confidence => exact reviewEach canonicalClaimedId status confidence
  | erase canonicalClaimedId => exact eraseEach canonicalClaimedId
  | exportRecords => rfl

theorem stepAliases (event : AdminEvent F) : (step ports server event).aliases =
    ((aliasCall ports server event).map fun call => (server.aliases.call ports.text call).1).getD
      server.aliases := by
  cases event with
  | elsewhere call => rfl
  | request request =>
    unfold step aliasCall reviewCall serve
    dsimp only
    cases route : request.route with
    | login =>
      unfold login
      dsimp only
      split <;> simp
    | logout => cases requireSession server.sessions request <;> simp
    | aliasesExport => cases requireSession server.sessions request <;> simp
    | reviewQueue => cases requireSession server.sessions request <;> simp
    | review =>
      cases requireSession server.sessions request with
      | none => simp
      | some adminUserId =>
        unfold review
        dsimp only
        cases parseReviewStatus (request.paramValue "status") with
        | none => simp
        | some status =>
          by_cases empty : request.paramValue "claimedId" = []
          · simp [empty]
          · simp [empty, PostgresIdentityAliasStore.call]

theorem writesEach (ports : AdminPorts F) (name : Bytes) :
    Writes (step ports) (fun server => reviewIn name server.aliases) (writesReview ports name) := by
  intro server event
  dsimp only
  rw [stepAliases]
  unfold writesReview
  cases aliasCall ports server event with
  | none => rfl
  | some call => exact callEach call

theorem callUnique (unique : Distinct AliasRow.canonicalClaimedId aliases.rows) (call : AliasCall F) :
    Distinct AliasRow.canonicalClaimedId (aliases.call ports.text call).1.rows := by
  cases call with
  | find canonicalClaimedId => exact unique
  | insert record =>
    change Distinct _ (aliases.insert ports.text record).1.rows
    obtain ⟨-, same⟩ | ⟨key, row, stored, free, -, -, made⟩ := insertCases ports.text aliases record
    · rwa [same]
    · rw [made]
      exact uniqueAppend unique free
  | touch canonicalClaimedId lastUsedTick =>
    change Distinct _ (aliases.touch ports.text canonicalClaimedId lastUsedTick).1.rows
    obtain same | ⟨key, change, keeps, -, made⟩ := touchCases ports.text aliases canonicalClaimedId lastUsedTick
    · rwa [same]
    · rw [made]
      exact uniqueUpdate unique keeps
  | reviewAlias canonicalClaimedId status confidence =>
    change Distinct _ (aliases.reviewAlias ports.text canonicalClaimedId status confidence).1.rows
    obtain ⟨-, same⟩ | ⟨key, change, -, keeps, -, made⟩ :=
      reviewCases ports.text aliases canonicalClaimedId status confidence
    · rwa [same]
    · rw [made]
      exact uniqueUpdate unique keeps
  | erase canonicalClaimedId =>
    change Distinct _ (aliases.erase ports.text canonicalClaimedId).1.rows
    obtain ⟨-, same⟩ | ⟨key, -, made⟩ := eraseCases ports.text aliases canonicalClaimedId
    · rwa [same]
    · rw [made]
      exact uniqueDelete unique
  | exportRecords => exact unique

omit [FloatOps F] in
theorem rowRead {row : AliasRow F} {record : IdentityAliasRecord F} (read : readRow row = .ok record) :
    record.canonicalClaimedId = row.canonicalClaimedId ∧
      record.reviewStatus = reviewStatusFromInt row.reviewStatus := by
  unfold readRow at read
  cases created : readTick row.createdTick with
  | error e =>
    rw [created] at read
    cases read
  | ok createdTick =>
    cases used : readTick row.lastUsedTick with
    | error e =>
      rw [created, used] at read
      cases read
    | ok lastUsedTick =>
      rw [created, used] at read
      obtain rfl := Except.ok.inj read
      exact ⟨rfl, rfl⟩

omit [FloatOps F] in
theorem readMembers {rows : List (AliasRow F)} {records : List (IdentityAliasRecord F)}
    (read : rows.mapM readRow = .ok records) {record : IdentityAliasRecord F} (there : record ∈ records) :
    ∃ row ∈ rows, readRow row = .ok record := by
  induction rows generalizing records with
  | nil =>
    cases read
    cases there
  | cons row rows ih =>
    obtain ⟨first, rest, here, later, rfl⟩ := mapMCons.mp read
    obtain rfl | inside := List.mem_cons.mp there
    · exact ⟨row, List.mem_cons_self, here⟩
    · obtain ⟨other, listed, same⟩ := ih later inside
      exact ⟨other, List.mem_cons_of_mem _ listed, same⟩

def Unreadable (aliases : PostgresIdentityAliasStore F) : Prop :=
  ∃ row ∈ aliases.rows, row.createdTick < 0 ∨ row.lastUsedTick < 0

def Pending (name : Bytes) (aliases : PostgresIdentityAliasStore F) : Prop :=
  ∃ row ∈ aliases.rows, row.canonicalClaimedId = name ∧
    reviewStatusFromInt row.reviewStatus = .unreviewed

omit [FloatOps F] in
theorem exportExact : (∃ records, aliases.exportRecords = .ok records) ↔ ¬ Unreadable aliases := by
  unfold PostgresIdentityAliasStore.exportRecords
  constructor
  · rintro ⟨records, readable⟩ ⟨row, there, lost⟩
    obtain ⟨k, place⟩ := List.mem_iff_getElem?.mp (List.mem_mergeSort.mpr there)
    obtain ⟨record, -, read⟩ := mapMAt readable place
    obtain ⟨created, used⟩ := (rowReadable row).mp ⟨record, read⟩
    omega
  · intro all
    refine mapMOk fun row there => (rowReadable row).mpr ?_
    by_contra lost
    exact all ⟨row, List.mem_mergeSort.mp there, by omega⟩

omit [FloatOps F] in
theorem pendingRow (unique : Distinct AliasRow.canonicalClaimedId aliases.rows) :
    Pending name aliases ↔ ∃ confidence, reviewIn name aliases = some (.unreviewed, confidence) := by
  unfold reviewIn reviewOf
  constructor
  · rintro ⟨row, there, rfl, unreviewed⟩
    refine ⟨row.confidence, ?_⟩
    rw [selectOf unique there, Option.map_some, unreviewed]
  · rintro ⟨confidence, is⟩
    obtain ⟨row, found, review⟩ := Option.map_eq_some_iff.mp is
    obtain ⟨there, named⟩ := selected found
    exact ⟨row, there, named, congrArg Prod.fst review⟩

omit [FloatOps F] in
theorem pendingListed {records : List (IdentityAliasRecord F)}
    (readable : aliases.exportRecords = .ok records) :
    (∃ record ∈ pending records, record.canonicalClaimedId = name) ↔ Pending name aliases := by
  constructor
  · rintro ⟨record, listed, rfl⟩
    obtain ⟨inside, unreviewed⟩ := List.mem_filter.mp listed
    obtain ⟨row, sorted, read⟩ := readMembers readable inside
    obtain ⟨named, status⟩ := rowRead read
    exact ⟨row, List.mem_mergeSort.mp sorted, named.symm, status.symm.trans (of_decide_eq_true unreviewed)⟩
  · rintro ⟨row, there, rfl, unreviewed⟩
    obtain ⟨k, place⟩ := List.mem_iff_getElem?.mp (List.mem_mergeSort.mpr there)
    obtain ⟨record, made, read⟩ := mapMAt readable place
    obtain ⟨named, status⟩ := rowRead read
    exact ⟨record, List.mem_filter.mpr ⟨List.mem_of_getElem? made, decide_eq_true (status.trans unreviewed)⟩,
      named⟩

inductive Leaves (ports : AdminPorts F) (name : Bytes) (aliases : PostgresIdentityAliasStore F) :
    AliasCall F → Prop
  | inserted (record : IdentityAliasRecord F) (stored : ports.text record.canonicalClaimedId = .ok name)
      (unreviewed : record.reviewStatus = .unreviewed)
      (done : (aliases.insert ports.text record).2 = .ok true) : Leaves ports name aliases (.insert record)
  | reset (canonicalClaimedId : Bytes) (confidence : F) (stored : ports.text canonicalClaimedId = .ok name)
      (done : (aliases.reviewAlias ports.text canonicalClaimedId .unreviewed confidence).2 = .ok true) :
      Leaves ports name aliases (.reviewAlias canonicalClaimedId .unreviewed confidence)

omit [FloatOps F] in
theorem saidExact {V : Type} {stored : Except String Bytes} {v w : V} :
    saidOf name stored v = some w ↔ stored = .ok name ∧ v = w := by
  unfold saidOf
  cases stored with
  | error e => simp
  | ok key =>
    by_cases same : key = name <;> simp [same]

omit [FloatOps F] in
theorem succeededExact {reply : Except String Bool} : succeeded reply = true ↔ reply = .ok true := by
  unfold succeeded
  split <;> simp_all

theorem leavesExact {call : AliasCall F} : Leaves ports name aliases call ↔
    ∃ confidence, callWrites ports name aliases call = some (some (.unreviewed, confidence)) := by
  constructor
  · rintro (⟨record, stored, unreviewed, done⟩ | ⟨canonicalClaimedId, confidence, stored, done⟩)
    · refine ⟨record.confidence, ?_⟩
      dsimp only [callWrites]
      rw [if_pos (succeededExact.mpr done)]
      exact saidExact.mpr ⟨stored, by rw [unreviewed]⟩
    · refine ⟨confidence, ?_⟩
      dsimp only [callWrites]
      rw [if_pos (succeededExact.mpr done)]
      exact saidExact.mpr ⟨stored, rfl⟩
  · rintro ⟨confidence, writes⟩
    cases call with
    | find canonicalClaimedId => cases writes
    | touch canonicalClaimedId lastUsedTick => cases writes
    | exportRecords => cases writes
    | insert record =>
      dsimp only [callWrites] at writes
      by_cases done : succeeded (aliases.insert ports.text record).2 = true
      · rw [if_pos done] at writes
        obtain ⟨stored, same⟩ := saidExact.mp writes
        exact .inserted record stored (congrArg Prod.fst (Option.some.inj same)) (succeededExact.mp done)
      · rw [if_neg done] at writes
        cases writes
    | reviewAlias canonicalClaimedId status given =>
      dsimp only [callWrites] at writes
      by_cases done : succeeded (aliases.reviewAlias ports.text canonicalClaimedId status given).2 = true
      · rw [if_pos done] at writes
        obtain ⟨stored, same⟩ := saidExact.mp writes
        obtain ⟨rfl, rfl⟩ := Prod.mk.inj (Option.some.inj same)
        exact .reset canonicalClaimedId given stored (succeededExact.mp done)
      · rw [if_neg done] at writes
        cases writes
    | erase canonicalClaimedId =>
      dsimp only [callWrites] at writes
      by_cases done : succeeded (aliases.erase ports.text canonicalClaimedId).2 = true
      · rw [if_pos done] at writes
        obtain ⟨-, same⟩ := saidExact.mp writes
        cases same
      · rw [if_neg done] at writes
        cases writes

theorem requestReviews {request : AdminRequest} {confidence : F} :
    writesReview ports name server (.request request) ≠ some (some (.unreviewed, confidence)) := by
  intro writes
  obtain ⟨call, is, tells⟩ := Option.bind_eq_some_iff.mp writes
  unfold aliasCall reviewCall at is
  dsimp only at is
  split at is
  · obtain ⟨status, parsed, rfl⟩ := Option.map_eq_some_iff.mp is
    have leaves := leavesExact.mpr ⟨confidence, tells⟩
    cases leaves
    unfold parseReviewStatus at parsed
    split at parsed
    · cases parsed
    split at parsed <;> cases parsed
  · cases is

theorem servedUnique (ports : AdminPorts F) (users : List AdminUser) (events : List (AdminEvent F)) :
    Distinct AliasRow.canonicalClaimedId
      (run (step ports) (AdminServer.fresh users {}) events).aliases.rows := by
  have always : Always (step ports)
      (fun server : AdminServer F => Distinct AliasRow.canonicalClaimedId server.aliases.rows)
      (AdminServer.fresh users {}) events := by
    refine alwaysOf (I := fun server : AdminServer F => Distinct AliasRow.canonicalClaimedId server.aliases.rows)
      (P := fun _ _ => True) (fun _ held => held) (fun server event held _ => ?_) ?_ (fun _ _ _ _ => trivial)
    swap
    · exact List.nodup_nil
    rw [stepAliases]
    cases aliasCall ports server event with
    | none => exact held
    | some call => exact callUnique held call
  exact always events [] (List.append_nil _).symm

theorem pendingSince (ports : AdminPorts F) (users : List AdminUser) (events : List (AdminEvent F))
    (name : Bytes) : Pending name (run (step ports) (AdminServer.fresh users {}) events).aliases ↔
      ∃ before call after, events = before ++ .elsewhere call :: after ∧
        Leaves ports name (run (step ports) (AdminServer.fresh users {}) before).aliases call ∧
        Quiet (step ports) (writesReview ports name)
          (run (step ports) (AdminServer.fresh users {}) (before ++ [.elsewhere call])) after := by
  rw [pendingRow (servedUnique ports users events)]
  constructor
  · rintro ⟨confidence, is⟩
    obtain ⟨initial, -⟩ | ⟨before, event, after, last⟩ := (valueSince (writesEach ports name)).mp is
    · cases initial
    · cases event with
      | request request => exact absurd last.wrote requestReviews
      | elsewhere call =>
        exact ⟨before, call, after, last.split, leavesExact.mpr ⟨confidence, last.wrote⟩, last.quiet⟩
  · rintro ⟨before, call, after, split, leaves, quiet⟩
    obtain ⟨confidence, tells⟩ := leavesExact.mp leaves
    exact ⟨confidence, wroteLast (writesEach ports name) ⟨split, tells, quiet⟩⟩

theorem queueServed {request : AdminRequest} (queue : request.route = .reviewQueue)
    (admitted : (serve ports server request).2.status ≠ 401) :
    (serve ports server request).2 =
      answer (server.aliases.exportRecords.map fun records => recordsToJson (pending records)) := by
  unfold serve at admitted ⊢
  rw [queue] at admitted ⊢
  dsimp only at admitted ⊢
  cases session : requireSession server.sessions request with
  | none =>
    rw [session] at admitted
    exact absurd rfl admitted
  | some adminUserId => rfl

end

theorem reviewsDue {F : Type} [FloatOps F] (ports : AdminPorts F) (users : List AdminUser)
    (events : List (AdminEvent F)) {request : AdminRequest} (queue : request.route = .reviewQueue)
    (admitted : (serve ports (run (step ports) (AdminServer.fresh users {}) events) request).2.status ≠ 401) :
    (Unreadable (run (step ports) (AdminServer.fresh users {}) events).aliases ∧
        (serve ports (run (step ports) (AdminServer.fresh users {}) events) request).2 = ⟨500, []⟩ ∨
      ¬ Unreadable (run (step ports) (AdminServer.fresh users {}) events).aliases ∧ ∃ records,
        (run (step ports) (AdminServer.fresh users {}) events).aliases.exportRecords = .ok records ∧
        (serve ports (run (step ports) (AdminServer.fresh users {}) events) request).2 =
          ⟨200, recordsToJson (pending records)⟩ ∧
        ∀ name, (∃ record ∈ pending records, record.canonicalClaimedId = name) ↔
          Pending name (run (step ports) (AdminServer.fresh users {}) events).aliases) ∧
    ∀ name, Pending name (run (step ports) (AdminServer.fresh users {}) events).aliases ↔
      ∃ before call after, events = before ++ .elsewhere call :: after ∧
        Leaves ports name (run (step ports) (AdminServer.fresh users {}) before).aliases call ∧
        Quiet (step ports) (writesReview ports name)
          (run (step ports) (AdminServer.fresh users {}) (before ++ [.elsewhere call])) after := by
  refine ⟨?_, pendingSince ports users events⟩
  rw [queueServed queue admitted]
  cases exported : (run (step ports) (AdminServer.fresh users {}) events).aliases.exportRecords with
  | error e =>
    refine .inl ⟨?_, rfl⟩
    by_contra readable
    obtain ⟨records, read⟩ := exportExact.mpr readable
    rw [read] at exported
    cases exported
  | ok records => exact .inr ⟨exportExact.mp ⟨records, exported⟩, records, rfl, rfl,
      fun name => pendingListed exported⟩

def waiting : List (AdminEvent ℚ) :=
  [.elsewhere (.insert ⟨1, ascii "user", 1, 1, 1, .unreviewed⟩), .request AdminSessions.adminLogin]

theorem waitingDue :
    (serve AdminSessions.plainPorts (run (step AdminSessions.plainPorts)
        (AdminServer.fresh AdminSessions.admins {}) waiting)
      { AdminSessions.lookIn with route := .reviewQueue }).2.status = 200 ∧
    ∃ before call after, waiting = before ++ .elsewhere call :: after ∧
      Leaves AdminSessions.plainPorts (ascii "user") (run (step AdminSessions.plainPorts)
        (AdminServer.fresh AdminSessions.admins {}) before).aliases call ∧
      Quiet (step AdminSessions.plainPorts) (writesReview AdminSessions.plainPorts (ascii "user"))
        (run (step AdminSessions.plainPorts) (AdminServer.fresh AdminSessions.admins {})
          (before ++ [.elsewhere call])) after := by
  have rows : (run (step AdminSessions.plainPorts) (AdminServer.fresh AdminSessions.admins {}) waiting).aliases.rows =
      [⟨1, ascii "user", 1, 1, 1, 0⟩] := by decide +kernel
  have readable : ¬ Unreadable (run (step AdminSessions.plainPorts)
      (AdminServer.fresh AdminSessions.admins {}) waiting).aliases := by
    unfold Unreadable
    rw [rows]
    simp
  have admitted : (requireSession (run (step AdminSessions.plainPorts)
      (AdminServer.fresh AdminSessions.admins {}) waiting).sessions
        { AdminSessions.lookIn with route := .reviewQueue }).isSome = true := by decide +kernel
  obtain ⟨answered, since⟩ := reviewsDue AdminSessions.plainPorts AdminSessions.admins waiting rfl
    ((AdminSessions.refusedExact (by decide)).mpr admitted)
  refine ⟨?_, (since (ascii "user")).mp ⟨_, by rw [rows]; exact List.mem_singleton_self _, rfl, rfl⟩⟩
  obtain ⟨unreadable, -⟩ | ⟨-, records, -, told, -⟩ := answered
  · exact absurd unreadable readable
  · rw [told]

end SeedOrigin.AdminReviews
