import DBPilot.Lib.HeadOfLine
import DBPilot.Spool.ActiveSegment

/-!
# The telemetry exporter

`internal/exporter/client.go` over the model of the spool, and the export loop of
`internal/agent/runtime.go`. The API is a function from requests to answers, and a
context lasts for a number of batches and for a number of attempts at each.
-/

namespace DBPilot.Exporter

open Spool HeadOfLine SegmentedLog KeyedSort

/-- `google.golang.org/grpc/codes`. -/
inductive Code where
  | ok
  | canceled
  | unknown
  | invalidArgument
  | deadlineExceeded
  | notFound
  | alreadyExists
  | permissionDenied
  | resourceExhausted
  | failedPrecondition
  | aborted
  | outOfRange
  | unimplemented
  | internal
  | unavailable
  | dataLoss
  | unauthenticated
  deriving DecidableEq

def Code.string : Code → String
  | .ok => "OK"
  | .canceled => "Canceled"
  | .unknown => "Unknown"
  | .invalidArgument => "InvalidArgument"
  | .deadlineExceeded => "DeadlineExceeded"
  | .notFound => "NotFound"
  | .alreadyExists => "AlreadyExists"
  | .permissionDenied => "PermissionDenied"
  | .resourceExhausted => "ResourceExhausted"
  | .failedPrecondition => "FailedPrecondition"
  | .aborted => "Aborted"
  | .outOfRange => "OutOfRange"
  | .unimplemented => "Unimplemented"
  | .internal => "Internal"
  | .unavailable => "Unavailable"
  | .dataLoss => "DataLoss"
  | .unauthenticated => "Unauthenticated"

structure ErrorInfo where
  domain : String
  reason : String

structure BatchAck where
  batchID : String
  accepted : Bool
  retryable : Bool
  errorCode : String

/-- What a call of the API comes back with; an error that carries no status has the code
`unknown` and no details. -/
inductive Answer where
  | ack (ack : Option BatchAck)
  | failed (code : Code) (details : List ErrorInfo)

/-- `MetricBatch`, or with a category `LogBatch`. -/
structure Request where
  category : Option DataClass
  batchID : String
  agentID : String
  sourceID : String
  payload : Bytes
  checksum : Bytes
  createdAtUnix : Int

inductive Failure where
  | context
  | configuration
  | store (err : SpoolError)
  | permanent (batchID reason : String) (code : Code)

/-- The spool, the health findings it was told of, and the requests made so far. -/
structure Machine where
  store : Store
  findings : List (String × String)
  pushed : List Request

/-- Seconds since 1970 of a time that counts from the year 1. -/
def unix (t : WallClock.Time) : Int := t.instant / 10 ^ 9 - 62135596800

def request (agentID : String) (class_ : DataClass) (batch : Batch) : Request where
  category := if class_ = .metric then none else some class_
  batchID := batch.id
  agentID := agentID
  sourceID := batch.sourceID
  payload := batch.payload
  checksum := Checksum.sha256 batch.payload
  createdAtUnix := unix batch.createdAt

def isPermanentRPC : Code → Bool
  | .permissionDenied | .unauthenticated | .invalidArgument | .failedPrecondition => true
  | _ => false

def permanentGatewayReason (code : Code) (details : List ErrorInfo) : Option String :=
  if code ≠ .resourceExhausted then none
  else (details.find? fun info => info.domain = "dbpilot.telemetry" && info.reason = "BATCH_TOO_LARGE").map
    ErrorInfo.reason

/-- The loop of `oldestPending` over the classes. -/
def oldest (queues : Queues DataClass Batch) (found : Option (DataClass × Batch)) (class_ : DataClass) :
    Option (DataClass × Batch) :=
  match queues class_, found with
  | [], found => found
  | batch :: _, none => some (class_, batch)
  | batch :: _, some oldest => if batch.createdAt.before oldest.2.createdAt then some (class_, batch) else some oldest

def scanned : List DataClass := [.auditLog, .log, .metric, .jobResult]

def oldestPending (s : Store) : Except SpoolError (Option (DataClass × Batch)) := do
  let mut found := none
  for class_ in scanned do
    let pending ← s.pending class_ 1
    found := oldest (fun _ => pending) found class_
  return found

section client

variable (J : Json) (api : Request → Answer) (agentID : String)

def Machine.permanent (m : Machine) (code : String) (detail : String) : Machine :=
  { m with findings := m.findings ++ [(code, detail)] }

def deliver : Nat → DataClass → Batch → Machine → Except Failure Unit × Machine
  | 0, _, _, m => (.error .context, m)
  | attempts + 1, class_, batch, m =>
    let m := { m with pushed := m.pushed ++ [request agentID class_ batch] }
    match api (request agentID class_ batch) with
    | .ack none =>
      (.error (.permanent batch.id "INVALID_ACK" .unknown), m.permanent "TELEMETRY_INVALID_ACK" "empty acknowledgement")
    | .ack (some ack) =>
      if ack.batchID ≠ batch.id then
        (.error (.permanent batch.id "INVALID_ACK" .unknown),
          m.permanent "TELEMETRY_INVALID_ACK" "ack batch_id does not match sent batch")
      else if ack.accepted then
        match m.store.ack J class_ batch.id with
        | (.ok (), s) => (.ok (), { m with store := s })
        | (.error err, s) => (.error (.store err), { m with store := s })
      else if !ack.retryable then
        let detail := if ack.errorCode = "" then "gateway rejected batch" else ack.errorCode
        (.error (.permanent batch.id detail .ok), m.permanent "TELEMETRY_PERMANENT_REJECTION" detail)
      else deliver attempts class_ batch m
    | .failed code details =>
      match permanentGatewayReason code details with
      | some reason =>
        (.error (.permanent batch.id reason code), m.permanent "TELEMETRY_PERMANENT_REJECTION" reason)
      | none =>
        if isPermanentRPC code then
          (.error (.permanent batch.id code.string code), m.permanent "TELEMETRY_PERMANENT_REJECTION" code.string)
        else deliver attempts class_ batch m

/-- The loop of `SendPending`. -/
def sendAll (attempts : Nat) : Nat → Machine → Except Failure Unit × Machine
  | 0, m => (.error .context, m)
  | batches + 1, m =>
    match oldestPending m.store with
    | .error err => (.error (.store err), m)
    | .ok none => (.ok (), m)
    | .ok (some (class_, batch)) =>
      match deliver J api agentID attempts class_ batch m with
      | (.error failure, m) => (.error failure, m)
      | (.ok (), m) => sendAll attempts batches m

def sendPending (attempts batches : Nat) (m : Machine) : Except Failure Unit × Machine :=
  if agentID = "" then (.error .configuration, m) else sendAll J api agentID attempts batches m

/-- So many turns of the export loop of the Agent, which drops the errors. -/
def exportLoop (attempts batches : Nat) : Nat → Machine → Machine
  | 0, m => m
  | calls + 1, m => exportLoop attempts batches calls (sendPending J api agentID attempts batches m).2

end client

/-! ## The order of delivery -/

section policy

variable {queues : Queues DataClass Batch} {found : Option (DataClass × Batch)} {class_ : DataClass}
  {l : List DataClass} {x : DataClass × Batch}

lemma oldest_cases (head : oldest queues found class_ = some x) :
    found = some x ∨ x.1 = class_ ∧ ∃ rest, queues class_ = x.2 :: rest := by
  unfold oldest at head
  split at head
  · exact .inl head
  · rename_i batch rest same
    cases head
    exact .inr ⟨rfl, rest, same⟩
  · rename_i batch rest previous same
    split at head
    · cases head
      exact .inr ⟨rfl, rest, same⟩
    · exact .inl head

lemma oldest_eq_none : oldest queues found class_ = none ↔ found = none ∧ queues class_ = [] := by
  unfold oldest
  split
  · simp_all
  · simp_all
  · split <;> simp_all

lemma foldl_oldest_cases (head : l.foldl (oldest queues) found = some x) :
    found = some x ∨ x.1 ∈ l ∧ ∃ rest, queues x.1 = x.2 :: rest := by
  induction l generalizing found with
  | nil => exact .inl head
  | cons class_ l ih =>
    rcases ih head with early | ⟨member, rest, same⟩
    · rcases oldest_cases early with before | ⟨rfl, rest, same⟩
      · exact .inl before
      · exact .inr ⟨List.mem_cons_self, rest, same⟩
    · exact .inr ⟨List.mem_cons_of_mem _ member, rest, same⟩

lemma foldl_oldest_none (nothing : l.foldl (oldest queues) found = none) :
    found = none ∧ ∀ class_ ∈ l, queues class_ = [] := by
  induction l generalizing found with
  | nil => exact ⟨nothing, nofun⟩
  | cons class_ l ih =>
    obtain ⟨first, rest⟩ := ih nothing
    obtain ⟨before, empty⟩ := oldest_eq_none.mp first
    exact ⟨before, List.forall_mem_cons.mpr ⟨empty, rest⟩⟩

end policy

/-- The batch that was created first among the heads of the classes. -/
def oldestFirst : Policy DataClass Batch scanned where
  pick queues := scanned.foldl (oldest queues) none
  head picked := (foldl_oldest_cases picked).resolve_left nofun
  empty nothing := (foldl_oldest_none nothing).2

lemma scanned_nodup : scanned.Nodup := by decide

variable {class_ : DataClass}

lemma mem_scanned : class_ ∈ scanned ↔ validClass class_ = true := by
  cases class_ <;> simp [scanned, validClass]

/-- The pending batches of the classes. -/
def batches (s : Store) : Queues DataClass Batch := fun class_ => (s.entries class_).map Entry.batch

lemma size_batches (s : Store) : size scanned (batches s) = s.all.length := by
  simp only [size, scanned, batches, Store.all, classes, List.map_cons, List.map_nil, List.sum_cons, List.sum_nil,
    List.length_map, List.flatMap_cons, List.flatMap_nil, List.length_append, List.length_nil]
  omega

lemma pending_one {s : Store} (valid : validClass class_ = true) :
    s.pending class_ 1 = .ok ((batches s class_).take 1) := by
  unfold Store.pending
  rw [valid]
  cases entries : s.entries class_ with
  | nil => simp [batches, entries]
  | cons e rest =>
    have more : ¬ (rest.length : Int) < 0 := by omega
    simp [batches, entries, more]

lemma oldest_take (queues : Queues DataClass Batch) (found : Option (DataClass × Batch)) (class_ : DataClass) :
    oldest (fun _ => (queues class_).take 1) found class_ = oldest queues found class_ := by
  unfold oldest
  cases queues class_ with
  | nil => rfl
  | cons => cases found <;> rfl

theorem oldestPending_eq (s : Store) : oldestPending s = .ok (oldestFirst.pick (batches s)) := by
  have scan : ∀ class_ ∈ scanned, s.pending class_ 1 = .ok ((batches s class_).take 1) :=
    fun class_ member => pending_one (mem_scanned.mp member)
  simp only [scanned, List.forall_mem_cons] at scan
  obtain ⟨one, two, three, four, _⟩ := scan
  simp only [oldestPending, scanned, oldestFirst]
  simp [one, two, three, four, oldest_take, bind, Except.bind, pure, Except.pure]

/-! ## Deliveries -/

/-- Every record can be written once more, as a compaction of its segment does. -/
def Rewritable (J : Json) (s : Store) : Prop := ∀ e ∈ s.all, ∃ record, encodeEntry J e = .ok record

lemma encodeEntries_of_all {J : Json} {items : List Entry} (all : ∀ e ∈ items, ∃ record, encodeEntry J e = .ok record) :
    ∃ contents, encodeEntries J items = .ok contents := by
  induction items with
  | nil => exact ⟨[], rfl⟩
  | cons e rest ih =>
    obtain ⟨record, here⟩ := all e List.mem_cons_self
    obtain ⟨contents, later⟩ := ih fun e' listed => all e' (List.mem_cons_of_mem e listed)
    exact ⟨record ++ contents, by rw [encodeEntries, here, later]; rfl⟩

lemma rewriteWithout_ok {J : Json} {s : Store} (rewritable : Rewritable J s) (item : Entry) :
    ∃ size disk, s.rewriteWithout J item = .ok (size, disk) := by
  have kept : ∀ e ∈ s.remaining item, ∃ record, encodeEntry J e = .ok record := by
    intro e listed
    exact rewritable e (List.mem_filter.mp (mem_sortOn.mp listed)).1
  obtain ⟨contents, encoded⟩ := encodeEntries_of_all kept
  unfold Store.rewriteWithout
  split
  · exact ⟨_, _, rfl⟩
  · rw [encoded]
    exact ⟨_, _, rfl⟩

/-- A store in which every acknowledgement succeeds. -/
structure Servable (J : Json) (s : Store) : Prop where
  coherent : ∃ log, Coherent J .clean log s
  rewritable : Rewritable J s

/-- The acknowledgement of the first batch of a class. -/
lemma ack_head {J : Json} {s : Store} (servable : Servable J s) {batch : Batch} {rest : List Batch}
    (first : batches s class_ = batch :: rest) :
    ∃ s', s.ack J class_ batch.id = (.ok (), s') ∧ Servable J s' ∧ batches s' = pop (batches s) class_ := by
  obtain ⟨⟨log, coherent⟩, rewritable⟩ := servable
  obtain ⟨e, es, entries, rfl, rfl⟩ := List.map_eq_cons_iff.mp first
  have listed : e ∈ s.entries class_ := by rw [entries]; exact List.mem_cons_self
  have found : s.find class_ e.batch.id = some e := by simp [Store.find, entries]
  have valid := coherent.entry_valid listed
  obtain ⟨size, disk, rewritten⟩ := rewriteWithout_ok rewritable e
  have deleted : s.delete J class_ e.batch.id = (.ok (), s.forget class_ e.batch.id e size disk) := by
    rw [Store.delete, found]
    dsimp only
    rw [rewritten]
  have known : validClass class_ = true := by
    rw [← (coherent.index.sound listed).1]
    exact valid.dataClass
  have acked : s.ack J class_ e.batch.id = (.ok (), s.forget class_ e.batch.id e size disk) := by
    have named : (e.batch.id == "") = false := beq_eq_false_iff_ne.mpr valid.id
    rw [Store.ack, known, named, deleted]
    rfl
  have left : (s.forget class_ e.batch.id e size disk).entries = Function.update s.entries class_ es := by
    rw [forget_entries, Store.removeEntry, entries]
    simp
  have smaller : ∀ e' ∈ (s.forget class_ e.batch.id e size disk).all, e' ∈ s.all := by
    intro e' member
    obtain ⟨other, listed', inside⟩ := List.mem_flatMap.mp member
    refine List.mem_flatMap.mpr ⟨other, listed', ?_⟩
    rw [left] at inside
    by_cases same : other = class_
    · subst same
      rw [Function.update_self] at inside
      rw [entries]
      exact List.mem_cons_of_mem e inside
    · rwa [Function.update_of_ne same] at inside
  refine ⟨_, acked, ⟨⟨_, coherent.forget found rewritten⟩, fun e' member => rewritable e' (smaller e' member)⟩, ?_⟩
  funext other
  unfold batches pop
  rw [left]
  by_cases same : other = class_
  · subst same
    simp [entries]
  · simp [same]

/-- An answer that takes the batch. -/
def Takes (id : String) : Answer → Prop
  | .ack (some ack) => ack.batchID = id ∧ ack.accepted = true
  | _ => False

/-- An answer that refuses the batch for good. -/
def Refuses (id : String) : Answer → Prop
  | .ack none => False
  | .ack (some ack) => ack.batchID = id ∧ ack.accepted = false ∧ ack.retryable = false
  | .failed code details => (permanentGatewayReason code details).isSome = true ∨ isPermanentRPC code = true

/-- A server with one verdict on each batch. -/
def Decides (api : Request → Answer) (verdict : String → Bool) : Prop :=
  ∀ r, if verdict r.batchID then Takes r.batchID (api r) else Refuses r.batchID (api r)

section deliveries

variable {J : Json} {api : Request → Answer} {agentID : String} {verdict : String → Bool}
  {class_ : DataClass} {batch : Batch} {m : Machine} {attempts : Nat}

lemma deliver_refused (decides : Decides api verdict) (refused : verdict batch.id = false) :
    ∃ failure findings, deliver J api agentID (attempts + 1) class_ batch m =
      (.error failure, ⟨m.store, findings, m.pushed ++ [request agentID class_ batch]⟩) := by
  have answer := decides (request agentID class_ batch)
  have same : (request agentID class_ batch).batchID = batch.id := rfl
  rw [same, refused] at answer
  unfold deliver
  cases replied : api (request agentID class_ batch) with
  | ack ack =>
    rw [replied] at answer
    rcases ack with _ | ack
    · exact answer.elim
    obtain ⟨named, rejected, final⟩ : ack.batchID = batch.id ∧ ack.accepted = false ∧ ack.retryable = false := answer
    dsimp only
    rw [if_neg (not_not_intro named), rejected, final]
    exact ⟨_, _, rfl⟩
  | failed code details =>
    rw [replied] at answer
    rcases reason : permanentGatewayReason code details with _ | reason
    · have permanent : isPermanentRPC code = true := by
        rcases answer with detailed | permanent
        · rw [reason] at detailed
          cases detailed
        · exact permanent
      dsimp only
      rw [reason, permanent]
      exact ⟨_, _, rfl⟩
    · dsimp only
      rw [reason]
      exact ⟨_, _, rfl⟩

lemma deliver_taken {s' : Store} (decides : Decides api verdict) (taken : verdict batch.id = true)
    (acked : m.store.ack J class_ batch.id = (.ok (), s')) :
    deliver J api agentID (attempts + 1) class_ batch m =
      (.ok (), { m with store := s', pushed := m.pushed ++ [request agentID class_ batch] }) := by
  have answer := decides (request agentID class_ batch)
  have same : (request agentID class_ batch).batchID = batch.id := rfl
  rw [same, taken] at answer
  unfold deliver
  cases replied : api (request agentID class_ batch) with
  | failed =>
    rw [replied] at answer
    exact answer.elim
  | ack ack =>
    rw [replied] at answer
    cases ack with
    | none => exact answer.elim
    | some ack =>
      obtain ⟨named, accepted⟩ : ack.batchID = batch.id ∧ ack.accepted = true := answer
      simp [named, accepted, acked]

/-- The verdict on a batch of a class. -/
def takes (verdict : String → Bool) : DataClass × Batch → Bool := fun x => verdict x.2.id

/-- What calls of the exporter have made of a machine. -/
structure Exported (J : Json) (agentID : String) (queues : Queues DataClass Batch) (m m' : Machine) : Prop where
  coherent : ∃ log, Coherent J .clean log m'.store
  rewritable : Rewritable J m'.store
  queues : batches m'.store = queues
  pushed : ∀ r ∈ m.pushed, r ∈ m'.pushed
  /-- What has left the spool was pushed. -/
  sent : ∀ class_, ∀ batch ∈ batches m.store class_, batch ∈ batches m'.store class_ ∨
    request agentID class_ batch ∈ m'.pushed

lemma Exported.trans {queues queues' : Queues DataClass Batch} {m' m'' : Machine}
    (first : Exported J agentID queues m m') (second : Exported J agentID queues' m' m'') :
    Exported J agentID queues' m m'' where
  coherent := second.coherent
  rewritable := second.rewritable
  queues := second.queues
  pushed r listed := second.pushed r (first.pushed r listed)
  sent class_ batch listed := by
    rcases first.sent class_ batch listed with still | sent
    · exact second.sent class_ batch still
    · exact .inr (second.pushed _ sent)

lemma Exported.servable {queues : Queues DataClass Batch} {m' : Machine} (exported : Exported J agentID queues m m') :
    Servable J m'.store := ⟨exported.coherent, exported.rewritable⟩

lemma exported_unchanged {m' : Machine} (servable : Servable J m.store) (same : m'.store = m.store)
    (pushed : ∀ r ∈ m.pushed, r ∈ m'.pushed) : Exported J agentID (batches m.store) m m' := by
  refine ⟨same ▸ servable.coherent, same ▸ servable.rewritable, by rw [same], pushed, ?_⟩
  intro class_ batch listed
  exact .inl (by rwa [same])

/-- One batch is pushed and leaves the spool. -/
lemma exported_popped {s' : Store} (servable : Servable J s') {rest : List Batch}
    (first : batches m.store class_ = batch :: rest) (popped : batches s' = pop (batches m.store) class_) :
    Exported J agentID (batches s') m { m with store := s', pushed := m.pushed ++ [request agentID class_ batch] } := by
  refine ⟨servable.coherent, servable.rewritable, rfl, fun r listed => List.mem_append_left _ listed, ?_⟩
  intro other b listed
  by_cases same : other = class_
  · subst same
    rw [first] at listed
    rcases List.mem_cons.mp listed with rfl | later
    · exact .inr (List.mem_append_right _ List.mem_cons_self)
    · left
      rwa [popped, pop, Function.update_self, first, List.tail_cons]
  · left
    rwa [popped, pop, Function.update_of_ne same]

section

variable (decides : Decides api verdict) (servable : Servable J m.store)
include decides servable

/-- `SendPending` serves the queues up to the first batch that is refused. -/
theorem sendAll_exported {turns : Nat} :
    Exported J agentID (drain oldestFirst (takes verdict) turns (batches m.store)) m
      (sendAll J api agentID (attempts + 1) turns m).2 := by
  induction turns generalizing m with
  | zero => exact exported_unchanged servable rfl fun _ listed => listed
  | succ turns ih =>
    unfold sendAll drain
    rw [oldestPending_eq]
    rcases picked : oldestFirst.pick (batches m.store) with _ | x
    · exact exported_unchanged servable rfl fun _ listed => listed
    obtain ⟨class_, batch⟩ := x
    rcases taken : verdict batch.id with _ | _
    · obtain ⟨failure, findings, delivered⟩ := @deliver_refused J api agentID verdict class_ batch m attempts decides taken
      dsimp only
      rw [delivered, if_neg (by simp [takes, taken])]
      exact exported_unchanged servable rfl fun r listed => List.mem_append_left _ listed
    obtain ⟨_, rest, first⟩ := oldestFirst.head picked
    obtain ⟨s', acked, servable', popped⟩ := ack_head servable first
    have here := @exported_popped J agentID class_ batch m s' servable' rest first popped
    dsimp only
    rw [deliver_taken decides taken acked, if_pos (by simp [takes, taken]), ← popped]
    exact here.trans (@ih { m with store := s', pushed := m.pushed ++ [request agentID class_ batch] } servable')

lemma sendPending_exported (named : agentID ≠ "") {turns : Nat} :
    Exported J agentID (drain oldestFirst (takes verdict) turns (batches m.store)) m
      (sendPending J api agentID (attempts + 1) turns m).2 := by
  rw [sendPending, if_neg named]
  exact sendAll_exported decides servable

/-- Later calls find the same batch at the front. -/
lemma exportLoop_blocked (named : agentID ≠ "") {turns calls : Nat}
    (blocked : Blocked oldestFirst (takes verdict) (batches m.store)) :
    Exported J agentID (batches m.store) m (exportLoop J api agentID (attempts + 1) turns calls m) := by
  induction calls generalizing m with
  | zero => exact exported_unchanged servable rfl fun _ listed => listed
  | succ calls ih =>
    have first := @sendPending_exported J api agentID verdict m attempts decides servable named turns
    rw [drain_of_blocked blocked] at first
    have rest := ih first.servable (first.queues ▸ blocked)
    rw [first.queues] at rest
    exact first.trans rest

/-- As many calls as there are batches do what one call does. -/
theorem exportLoop_exported (named : agentID ≠ "") {turns : Nat} (enough : m.store.all.length ≤ turns) :
    Exported J agentID (drain oldestFirst (takes verdict) turns (batches m.store)) m
      (exportLoop J api agentID (attempts + 1) turns m.store.all.length m) := by
  rw [← size_batches] at enough
  have blocked := @blocked_drain _ _ _ _ oldestFirst (takes verdict) (batches m.store) turns scanned_nodup enough
  cases count : m.store.all.length with
  | zero =>
    have empty : size scanned (batches m.store) = 0 := (size_batches m.store).trans count
    have idle : Blocked oldestFirst (takes verdict) (batches m.store) := by
      intro x picked
      rw [pick_of_size empty] at picked
      cases picked
    rw [drain_of_blocked idle]
    exact exported_unchanged servable rfl fun _ listed => listed
  | succ calls =>
    have first := @sendPending_exported J api agentID verdict m attempts decides servable named turns
    have rest := @exportLoop_blocked J api agentID verdict _ attempts decides first.servable named turns calls
      (first.queues ▸ blocked)
    rw [first.queues] at rest
    exact first.trans rest

end

end deliveries

/-- As many calls of `SendPending` as there are pending batches deliver every batch that
the server takes, exactly when none of them comes after a batch that it refuses, in the
order in which the heads of the classes are chosen. -/
theorem exported_iff (J : Json) (s : Store) (reachable : Reachable J (.up s)) (rewritable : Rewritable J s)
    (api : Request → Answer) (verdict : String → Bool) (decides : Decides api verdict) {agentID : String}
    (named : agentID ≠ "") {attempts turns : Nat} (attempted : 0 < attempts) (enough : s.all.length ≤ turns) :
    (∀ class_, ∀ batch ∈ batches s class_, verdict batch.id = true →
      request agentID class_ batch ∈ (exportLoop J api agentID attempts turns s.all.length ⟨s, [], []⟩).pushed ∧
        batch ∉ batches (exportLoop J api agentID attempts turns s.all.length ⟨s, [], []⟩).store class_) ↔
      (order oldestFirst turns (batches s)).Pairwise fun earlier later =>
        verdict later.2.id = true → verdict earlier.2.id = true := by
  obtain ⟨log, coherent⟩ := sound_of_reachable reachable
  obtain ⟨attempts, rfl⟩ : ∃ n, attempts = n + 1 := ⟨attempts - 1, by omega⟩
  have exported := @exportLoop_exported J api agentID verdict ⟨s, [], []⟩ attempts decides ⟨⟨log, coherent⟩, rewritable⟩
    named turns enough
  have drained := @drained_iff _ _ _ _ oldestFirst (takes verdict) (batches s) turns scanned_nodup
    ((size_batches s).trans_le enough)
  have known : ∀ class_, ∀ batch ∈ batches s class_, class_ ∈ scanned := by
    intro class_ batch listed
    obtain ⟨e, member, _⟩ := List.mem_map.mp listed
    rw [mem_scanned, ← (coherent.index.sound member).1]
    exact (coherent.entry_valid member).dataClass
  rw [exported.queues]
  refine Iff.trans ?_ drained
  constructor
  · intro delivered class_ _ batch left
    have before := mem_of_mem_drain left
    apply Bool.eq_false_iff.mpr
    intro taken
    exact (delivered class_ batch before taken).2 left
  · intro refused class_ batch listed taken
    have gone : batch ∉ drain oldestFirst (takes verdict) turns (batches s) class_ := by
      intro left
      have no := refused class_ (known class_ batch listed) batch left
      exact absurd taken (Bool.eq_false_iff.mp no)
    refine ⟨?_, gone⟩
    rcases exported.sent class_ batch listed with still | sent
    · rw [exported.queues] at still
      exact absurd still gone
    · exact sent

section samples

/-- A server that takes all batches but one. -/
def verdictWithout (id : String) : String → Bool := fun other => other != id

def apiWithout (id : String) : Request → Answer :=
  fun r => .ack (some ⟨r.batchID, verdictWithout id r.batchID, false, ""⟩)

lemma decides_without (id : String) : Decides (apiWithout id) (verdictWithout id) := by
  intro r
  cases verdict : verdictWithout id r.batchID with
  | true => exact ⟨rfl, verdict⟩
  | false => exact ⟨rfl, verdict, rfl⟩

lemma storeB_reachable : Reachable sampleJson (.up storeB) := by
  refine ⟨Disk.empty, [.opened, .call (.append .log (sampleBatch "a")) (.ok none), .call .sealActive (.ok none),
    .call (.append .log (sampleBatch "bb")) (.ok none)], vacant_empty, ?_⟩
  exact .cons (.opened (openSpool_empty _)) <| .cons (.of_step step_storeA) <|
    .cons (.of_step step_storeSealed) <| .single (.of_step step_storeB)

set_option maxRecDepth 100000 in
lemma storeB_rewritable : Rewritable sampleJson storeB := by
  have all : storeB.all = [sealedA, sampleEntry .log "bb" 2 none] := rfl
  intro e listed
  rw [all] at listed
  simp only [List.mem_cons, List.not_mem_nil, or_false] at listed
  rcases listed with rfl | rfl
  · exact ⟨_, rfl⟩
  · exact ⟨_, rfl⟩

end samples

theorem exported_iff_last_refused : storeB.all.length = 2 ∧
    (∀ class_, ∀ batch ∈ batches storeB class_, verdictWithout "bb" batch.id = true →
      request "agent" class_ batch ∈ (exportLoop sampleJson (apiWithout "bb") "agent" 1 2 2 ⟨storeB, [], []⟩).pushed ∧
        batch ∉ batches (exportLoop sampleJson (apiWithout "bb") "agent" 1 2 2 ⟨storeB, [], []⟩).store class_) :=
  ⟨rfl, (exported_iff sampleJson storeB storeB_reachable storeB_rewritable _ _ (decides_without "bb") (by decide)
    (by decide : 0 < 1) (by decide : storeB.all.length ≤ 2)).mpr (by decide)⟩

/-- Batch "bb" is taken by the server and stays behind batch "a", which it refuses. -/
theorem refused_head_blocks :
    Reachable sampleJson (.up storeB) ∧ Decides (apiWithout "a") (verdictWithout "a") ∧ storeB.all.length = 2 ∧
      verdictWithout "a" "bb" = true ∧ sampleBatch "bb" ∈ batches storeB .log ∧
      sampleBatch "bb" ∈
        batches (exportLoop sampleJson (apiWithout "a") "agent" 1 2 2 ⟨storeB, [], []⟩).store .log := by
  exact ⟨storeB_reachable, decides_without "a", rfl, by decide, by decide +kernel, by decide +kernel⟩

end DBPilot.Exporter
