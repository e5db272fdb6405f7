import DBPilot.Alerts.Dispatcher
import DBPilot.Alerts.Versions

/-!
# Attempts of a delivery

Any number of dispatchers reserve, claim, attempt and update deliveries, each
transaction by itself. A worker that has claimed a delivery carries it through the
stages of an attempt; it may stop at any of them. What a dispatcher has read before
it reserves may be anything.
-/

namespace DBPilot.Alerts

open Tables Transactions Runs
open Jobs (Instant timestamptz)

/-- What a worker does next with a delivery. -/
inductive Stage where
  /-- Record that a claimed delivery is tried again. -/
  | claimed
  /-- Call the channel. -/
  | delivering
  /-- Record what the channel has answered. -/
  | answered (answer : Option ChannelError)
  /-- Record that there is nothing to attempt. -/
  | closing (final : NotificationDelivery)

structure Attempt where
  worker : String
  delivery : NotificationDelivery
  now : Instant
  stage : Stage

structure World (F : Type) where
  db : Database F
  attempts : List Attempt

inductive Event where
  | reserve
  | claim (now : Instant)
  | retrying (attempt : Attempt)
  | deliver (attempt : Attempt)
  | record (attempt : Attempt)
  | close (attempt : Attempt)
  /-- The worker stops, or its transaction fails. -/
  | lose (attempt : Attempt)
  /-- The index of the retry table is out of range. -/
  | panic (attempt : Attempt)
  /-- A transaction on other tables. -/
  | other

/-- The reservation that a plan asks for. -/
def Plan.reservation (now : Instant) : Plan → Option (NotificationDelivery × Option AuditRecord)
  | .skip => none
  | .suppress delivery => some (delivery, some (notificationAudit delivery .suppressed now))
  | .misconfigured delivery _ | .attempt delivery => some (delivery, none)

/-- What follows a reservation that was made. -/
def Plan.attempts (worker : String) (now : Instant) : Plan → List Attempt
  | .skip | .suppress _ => []
  | .misconfigured delivery failureClass =>
    [⟨worker, delivery, now, .closing { delivery with status := .abandoned, failureClass }⟩]
  | .attempt delivery => [⟨worker, delivery, now, .delivering⟩]

/-- What `RetryDue` does with the answer of a claim. -/
def Dispatcher.taken (dispatcher : Dispatcher) (now claimAt : Instant) :
    Except AlertError (List NotificationDelivery) → List Attempt
  | .ok [delivery] =>
    if delivery.scope ≠ delivery.request.scope ∨ delivery.status ≠ .attempting ∨
        delivery.leaseOwner ≠ dispatcher.workerID then []
    else if dispatcher.channels.contains delivery.request.channel = false then
      [⟨dispatcher.workerID, delivery, now, .closing (unroutable delivery)⟩]
    else [⟨dispatcher.workerID, delivery, claimAt, .claimed⟩]
  | _ => []

variable {a : Attempt} {attempts front back : List Attempt} {delivery final : NotificationDelivery}
  {d : Scope × String} {e : Event} {dispatcher : Dispatcher} {now : Instant} {n : Nat}

section steps

variable {F : Type} [Float64 F] [TimeText]

inductive Advance : World F → Event → World F → Prop
  | reserve {dispatcher : Dispatcher} {rule : AlertRule F} {silences : List Silence} {event : AlertEvent}
      {state : EventState} {now : Instant} {route : NotificationRoute} {delivery : NotificationDelivery}
      {audit : Option AuditRecord} {reserved : Bool} {s s' : Session F} {attempts : List Attempt} :
      (dispatcher.plan rule silences event state now route).reservation now = some (delivery, audit) →
      Commits (reserveNotificationDelivery delivery audit) s reserved s' →
      Advance ⟨s.db, attempts⟩ .reserve ⟨s'.db, attempts ++ if reserved then
        (dispatcher.plan rule silences event state now route).attempts dispatcher.workerID now else []⟩
  | claim {dispatcher : Dispatcher} {now claimAt : Instant} {contention : Contention}
      {scanned : Except AlertError (List NotificationDelivery)} {s s' : Session F} {attempts : List Attempt} :
      Commits (claimDueNotificationDeliveries claimAt dispatcher.workerID (claimAt + dispatcher.lease) 1
        contention) s scanned s' →
      Advance ⟨s.db, attempts⟩ (.claim claimAt) ⟨s'.db, attempts ++ dispatcher.taken now claimAt scanned⟩
  | retrying {a : Attempt} {front back : List Attempt} {s s' : Session F} {u : Unit} :
      a.stage = .claimed →
      Commits (updateNotificationDelivery a.delivery (notificationAudit a.delivery .retrying a.now)) s u s' →
      Advance ⟨s.db, front ++ a :: back⟩ (.retrying a) ⟨s'.db, front ++ { a with stage := .delivering } :: back⟩
  | deliver {a : Attempt} {front back : List Attempt} {db : Database F} (answer : Option ChannelError) :
      a.stage = .delivering →
      Advance ⟨db, front ++ a :: back⟩ (.deliver a) ⟨db, front ++ { a with stage := .answered answer } :: back⟩
  | record {a : Attempt} {front back : List Attempt} {s s' : Session F} {u : Unit}
      {answer : Option ChannelError} {final : NotificationDelivery} {action : DeliveryAction} :
      a.stage = .answered answer → attemptOutcome a.delivery a.now answer = some (final, action) →
      Commits (updateNotificationDelivery final (notificationAudit final action a.now)) s u s' →
      Advance ⟨s.db, front ++ a :: back⟩ (.record a) ⟨s'.db, front ++ back⟩
  | close {a : Attempt} {front back : List Attempt} {s s' : Session F} {u : Unit} {final : NotificationDelivery} :
      a.stage = .closing final →
      Commits (updateNotificationDelivery final (notificationAudit final .abandoned a.now)) s u s' →
      Advance ⟨s.db, front ++ a :: back⟩ (.close a) ⟨s'.db, front ++ back⟩
  | lose {a : Attempt} {front back : List Attempt} {db : Database F} :
      Advance ⟨db, front ++ a :: back⟩ (.lose a) ⟨db, front ++ back⟩
  | panic {a : Attempt} {front back : List Attempt} {db : Database F} {answer : Option ChannelError} :
      a.stage = .answered answer → attemptOutcome a.delivery a.now answer = none →
      Advance ⟨db, front ++ a :: back⟩ (.panic a) ⟨db, front ++ back⟩
  | other {db db' : Database F} {attempts : List Attempt} : db'.deliveries = db.deliveries →
      Advance ⟨db, attempts⟩ .other ⟨db', attempts⟩

end steps

/-! What a step does to the attempts and to the row of a delivery. -/

/-- The claim under which a worker holds a delivery. -/
structure Attempt.Sound (a : Attempt) : Prop where
  owner : a.delivery.claimOwner = a.worker
  attempted : 1 ≤ a.delivery.attempts
  claimed : a.stage = .claimed → a.delivery.status = .attempting
  closing : ∀ final, a.stage = .closing final →
    final.status = .abandoned ∧ final.key = a.delivery.key ∧ final.claimOwner = a.delivery.claimOwner

lemma sound_replaced {b : Attempt} (sound : ∀ c ∈ front ++ a :: back, c.Sound) (kept : b.Sound) :
    ∀ c ∈ front ++ b :: back, c.Sound := by
  intro c listed
  simp only [List.mem_append, List.mem_cons] at listed
  rcases listed with old | rfl | old
  · exact sound c (List.mem_append_left _ old)
  · exact kept
  · exact sound c (by simp [old])

/-- What opens a delivery: its row, and the attempt that follows. -/
structure Opens (delivery : NotificationDelivery) (attempts : List Attempt) : Prop where
  first : delivery.attempts = 1
  follows : attempts = [] ∧ delivery.status = .suppressed ∨
    ∃ a, attempts = [a] ∧ a.delivery = delivery ∧ a.Sound ∧ delivery.status = .attempting

lemma sliceIndex_retryDelays {index : Int} (low : 0 ≤ index) (high : index < retryDelays.length) :
    ∃ delay, sliceIndex retryDelays index = some delay := by
  unfold sliceIndex
  rw [if_pos low]
  have inside : index.toNat < retryDelays.length := by omega
  exact ⟨_, List.getElem?_eq_getElem inside⟩

section outcomes

variable {answer : Option ChannelError} {action : DeliveryAction}

/-- The table is read only within its range. -/
lemma attemptOutcome_ne_none (attempted : 1 ≤ delivery.attempts) : attemptOutcome delivery now answer ≠ none := by
  rcases answer with _ | failure
  · simp [attemptOutcome]
  simp only [attemptOutcome]
  split
  · rename_i again
    simp only [Bool.and_eq_true, decide_eq_true_eq] at again
    obtain ⟨delay, found⟩ := @sliceIndex_retryDelays (delivery.attempts - 1) (by omega) (by omega)
    simp [found]
  · simp

/-- What is recorded about an attempt. -/
structure Outcome (delivery final : NotificationDelivery) : Prop where
  key : final.key = delivery.key
  owner : final.claimOwner = delivery.claimOwner
  ended : final.status ≠ .attempting
  again : final.status = .retryScheduled → delivery.attempts ≤ retryDelays.length

lemma attemptOutcome_outcome (recorded : attemptOutcome delivery now answer = some (final, action)) :
    Outcome delivery final := by
  rcases answer with _ | failure
  · cases recorded
    exact ⟨rfl, rfl, by simp, by simp⟩
  simp only [attemptOutcome] at recorded
  split at recorded
  · rename_i again
    simp only [Bool.and_eq_true, decide_eq_true_eq] at again
    obtain ⟨delay, _, same⟩ := Option.map_eq_some_iff.mp recorded
    cases same
    exact ⟨rfl, rfl, by simp, fun _ => again.2⟩
  · cases recorded
    exact ⟨rfl, rfl, by simp, by simp⟩

end outcomes

section rows

variable {F : Type} {db db' : Database F} {row : NotificationDelivery}

lemma Updates.find?_self (updates : Updates final db db' row) :
    db'.deliveries.find? final.key = some (updatedDelivery row final) := by
  have same : (updatedDelivery row final).key = final.key := (Table.find?_eq_some.mp updates.found).2
  rw [updates.put, ← same]
  apply Table.find?_put_self
  rw [same, updates.found]
  rfl

lemma Updates.find?_other (updates : Updates final db db' row) (other : d ≠ final.key) :
    db'.deliveries.find? d = db.deliveries.find? d := by
  have same : (updatedDelivery row final).key = final.key := (Table.find?_eq_some.mp updates.found).2
  rw [updates.put]
  refine Table.find?_put_of_ne ?_ (same ▸ other)
  rw [same, updates.found]
  rfl

variable {leaseUntil : Instant} {owner : String} {scanned : Except AlertError (List NotificationDelivery)}
  {keys : List (Scope × String)}

section

variable (claims : Claims now owner leaseUntil db db' scanned keys)
include claims

lemma Claims.find?_of_mem (listed : d ∈ keys) : ∃ row, db.deliveries.find? d = some row ∧ claimable now row = true ∧
      db'.deliveries.find? d = some (claimRow now owner leaseUntil row) := by
  obtain ⟨row, found, due⟩ := claims.due d listed
  refine ⟨row, found, due, ?_⟩
  have named : row.key = d := (Table.find?_eq_some.mp found).2
  rw [claims.claimed, Table.find?_update, found]
  simp [named, listed]

lemma Claims.find?_of_not_mem (unlisted : d ∉ keys) : db'.deliveries.find? d = db.deliveries.find? d := by
  rw [claims.claimed, Table.find?_update]
  cases found : db.deliveries.find? d with
  | none => rfl
  | some row =>
    have named : row.key = d := (Table.find?_eq_some.mp found).2
    simp [named, unlisted]

/-- A delivery that a claim returns is the row it has made. -/
lemma Claims.scanned_eq {rows : List NotificationDelivery} (ok : scanned = .ok rows) (listed : delivery ∈ rows) :
    delivery.key ∈ keys ∧ db'.deliveries.find? delivery.key = some delivery ∧ delivery.claimOwner = owner ∧
      1 ≤ delivery.attempts := by
  obtain ⟨mine, found, valid⟩ := claims.scans rows ok delivery listed
  obtain ⟨row, _, _, claimed⟩ := claims.find?_of_mem mine
  have same : delivery = claimRow now owner leaseUntil row := Option.some.inj (found.symm.trans claimed)
  simp only [validateNotificationDelivery, Bool.and_eq_true, decide_eq_true_eq] at valid
  refine ⟨mine, found, by rw [same]; rfl, by tauto⟩

end

end rows

section plans

variable {F : Type} [TimeText] {rule : AlertRule F} {silences : List Silence} {event : AlertEvent}
  {state : EventState} {route : NotificationRoute} {audit : Option AuditRecord}

lemma misconfigured_opens {failureClass : String}
    (asks : (dispatcher.misconfigured route event state now failureClass).reservation now = some (delivery, audit)) :
    Opens delivery ((dispatcher.misconfigured route event state now failureClass).attempts dispatcher.workerID now) := by
  cases asks
  exact ⟨rfl, .inr ⟨_, rfl, rfl, ⟨rfl, Int.le_refl 1, by simp, by rintro final ⟨⟩; exact ⟨rfl, rfl, rfl⟩⟩, rfl⟩⟩

lemma plan_opens
    (asks : (dispatcher.plan rule silences event state now route).reservation now = some (delivery, audit)) :
    Opens delivery ((dispatcher.plan rule silences event state now route).attempts dispatcher.workerID now) := by
  revert asks
  unfold Dispatcher.plan
  split
  · nofun
  split
  · rintro ⟨⟩
    exact ⟨rfl, .inl ⟨rfl, rfl⟩⟩
  split
  · exact misconfigured_opens
  split
  · exact misconfigured_opens
  split
  · exact misconfigured_opens
  split
  · exact misconfigured_opens
  · rintro ⟨⟩
    exact ⟨rfl, .inr ⟨_, rfl, rfl, ⟨rfl, Int.le_refl 1, by simp, by simp⟩, rfl⟩⟩

end plans

section rowSteps

variable {row : NotificationDelivery} {found : Option NotificationDelivery}

def DeliveryStatus.terminal : DeliveryStatus → Bool
  | .delivered | .suppressed | .abandoned => true
  | .attempting | .retryScheduled => false

/-- The attempt whose update of its delivery an event is. -/
def Event.update? : Event → Option Attempt
  | .retrying a | .record a | .close a => some a
  | _ => none

/-- A step leaves a row, opens it, takes it for a worker, or updates it by the worker
that holds its claim. -/
inductive RowStep (d : Scope × String) (attempts : List Attempt) :
    Event → Option NotificationDelivery → Option NotificationDelivery → Prop
  | stays {e : Event} {row : Option NotificationDelivery} : RowStep d attempts e row row
  | opens {delivery : NotificationDelivery} : RowStep d attempts .reserve none (some (storedDelivery delivery))
  | taken {now leaseUntil : Instant} {owner : String} {row : NotificationDelivery} : claimable now row = true →
      RowStep d attempts (.claim now) (some row) (some (claimRow now owner leaseUntil row))
  | updated {e : Event} {a : Attempt} {row final : NotificationDelivery} : e.update? = some a → a ∈ attempts →
      a.delivery.key = d → row.status = .attempting → row.leaseOwner = a.worker →
      RowStep d attempts e (some row) (some (updatedDelivery row final))

section

variable (step : RowStep d attempts e (some row) found)
include step

lemma RowStep.of_terminal (ended : row.status.terminal = true) : found = some row := by
  cases step with
  | stays => rfl
  | taken due =>
    simp only [claimable, Bool.and_eq_true, Bool.or_eq_true, decide_eq_true_eq] at due
    rcases due.1.1.1.1.1 with ⟨scheduled, _⟩ | ⟨attempting, _⟩
    · rw [scheduled] at ended
      cases ended
    · rw [attempting] at ended
      cases ended
  | updated _ _ _ attempting _ =>
    rw [attempting] at ended
    cases ended

lemma RowStep.attempts_le : ∃ row', found = some row' ∧ row.attempts ≤ row'.attempts := by
  cases step with
  | stays => exact ⟨row, rfl, Int.le_refl _⟩
  | taken => exact ⟨_, rfl, Int.le_add_one (Int.le_refl _)⟩
  | updated => exact ⟨_, rfl, Int.le_refl _⟩

end

end rowSteps

section steps

variable {F : Type} [Float64 F] [TimeText] {w w' : World F}

def World.row (w : World F) (d : Scope × String) : Option NotificationDelivery := w.db.deliveries.find? d

omit [Float64 F] [TimeText] in
lemma Updates.rowStep {db db' : Database F} {row : NotificationDelivery} (updates : Updates final db db' row)
    (by_ : e.update? = some a) (listed : a ∈ attempts) (sound : a.Sound) (key : final.key = a.delivery.key)
    (owner : final.claimOwner = a.delivery.claimOwner) :
    RowStep d attempts e (db.deliveries.find? d) (db'.deliveries.find? d) := by
  by_cases mine : d = final.key
  · subst mine
    rw [updates.found, updates.find?_self]
    exact .updated by_ listed key.symm updates.attempting (updates.owner.trans (owner.trans sound.owner))
  · rw [updates.find?_other mine]
    exact .stays

omit [Float64 F] [TimeText] in
/-- A claim returns to the worker what it has taken. -/
lemma taken_sound {claimAt leaseUntil : Instant} {db db' : Database F}
    {scanned : Except AlertError (List NotificationDelivery)} {keys : List (Scope × String)}
    (claims : Claims claimAt dispatcher.workerID leaseUntil db db' scanned keys)
    (listed : a ∈ dispatcher.taken now claimAt scanned) :
    dispatcher.taken now claimAt scanned = [a] ∧ a.Sound ∧ a.delivery.key ∈ keys ∧
      db'.deliveries.find? a.delivery.key = some a.delivery := by
  unfold Dispatcher.taken at listed ⊢
  split at listed
  · rename_i delivery
    obtain ⟨mine, found, owner, attempted⟩ := claims.scanned_eq rfl (List.mem_singleton_self delivery)
    split at listed
    · cases listed
    rename_i held
    simp only [not_or, not_not] at held
    rw [if_neg (by simpa using held)]
    split at listed
    · rename_i unknown
      rw [if_pos unknown, List.mem_singleton.mp listed]
      refine ⟨rfl, ⟨owner, attempted, by simp, ?_⟩, mine, found⟩
      rintro final ⟨⟩
      exact ⟨rfl, rfl, rfl⟩
    · rename_i known
      rw [if_neg known, List.mem_singleton.mp listed]
      exact ⟨rfl, ⟨owner, attempted, fun _ => held.2.1, by simp⟩, mine, found⟩
  · cases listed

/-- What one step does to a row, and that it keeps the attempts sound. -/
theorem Advance.sound (step : Advance w e w') (sound : ∀ a ∈ w.attempts, a.Sound) :
    (∀ a ∈ w'.attempts, a.Sound) ∧ ∀ d, RowStep d w.attempts e (w.row d) (w'.row d) := by
  unfold World.row
  cases step with
  | @reserve _ _ _ _ _ _ _ delivery _ _ _ _ _ asks commits =>
    obtain ⟨rfl, rfl⟩ | ⟨rfl, inserted⟩ := reserveNotificationDelivery_cases commits
    · exact ⟨by simpa using sound, fun d => .stays⟩
    constructor
    · intro a listed
      rcases List.mem_append.mp listed with old | new
      · exact sound a old
      rw [if_pos rfl] at new
      obtain ⟨none, _⟩ | ⟨b, one, _, fresh, _⟩ := (plan_opens asks).follows
      · rw [none] at new
        cases new
      · rw [one] at new
        rw [List.mem_singleton.mp new]
        exact fresh
    · intro d
      by_cases mine : d = (storedDelivery delivery).key
      · rw [mine, Table.find?_of_insert? inserted, Table.find?_insert?_self inserted]
        exact .opens
      · rw [Table.find?_insert?_of_ne inserted mine]
        exact .stays
  | claim commits =>
    obtain ⟨keys, claims⟩ := claimDueNotificationDeliveries_claims commits
    constructor
    · intro a listed
      rcases List.mem_append.mp listed with old | new
      · exact sound a old
      · exact (taken_sound claims new).2.1
    · intro d
      by_cases mine : d ∈ keys
      · obtain ⟨row, found, due, claimed⟩ := claims.find?_of_mem mine
        simp only [found, claimed]
        exact .taken due
      · simp only [claims.find?_of_not_mem mine]
        exact .stays
  | @retrying a _ _ _ _ _ _ commits =>
    obtain ⟨row, updates⟩ := updateNotificationDelivery_updates commits
    have held := sound a (by simp)
    exact ⟨sound_replaced sound ⟨held.owner, held.attempted, by simp, by simp⟩,
      fun d => updates.rowStep rfl (by simp) held rfl rfl⟩
  | @deliver a =>
    have held := sound a (by simp)
    exact ⟨sound_replaced sound ⟨held.owner, held.attempted, by simp, by simp⟩, fun d => .stays⟩
  | @record a _ _ _ _ _ _ _ _ _ recorded commits =>
    obtain ⟨row, updates⟩ := updateNotificationDelivery_updates commits
    have outcome := attemptOutcome_outcome recorded
    exact ⟨fun b listed => sound b (by simp at listed ⊢; tauto),
      fun d => updates.rowStep rfl (by simp) (sound a (by simp)) outcome.key outcome.owner⟩
  | @close a front back s s' u final stage commits =>
    obtain ⟨row, updates⟩ := updateNotificationDelivery_updates commits
    have held := sound a (by simp)
    obtain ⟨_, key, owner⟩ := held.closing final stage
    exact ⟨fun b listed => sound b (by simp at listed ⊢; tauto),
      fun d => updates.rowStep rfl (by simp) held key owner⟩
  | lose | panic => exact ⟨fun b listed => sound b (by simp at listed ⊢; tauto), fun d => .stays⟩
  | other same =>
    refine ⟨sound, fun d => ?_⟩
    simp only [same]
    exact .stays

end steps

/-! How often a delivery is attempted while its claims do not expire. -/

section pace

/-- The calls of a channel that an attempt still makes. -/
def Attempt.owed (a : Attempt) : Int :=
  match a.stage with
  | .claimed | .delivering => 1
  | .answered _ | .closing _ => 0

/-- The calls of its channel for a delivery so far, its row and the attempts at it. -/
inductive Paced : Nat → Option NotificationDelivery → List Attempt → Prop
  | absent : Paced 0 none []
  | held {n : Nat} {row : NotificationDelivery} {a : Attempt} : row.status = .attempting →
      row.attempts ≤ retryDelays.length + 1 → a.delivery.attempts = row.attempts → n + a.owed ≤ row.attempts →
      Paced n (some row) [a]
  | free {n : Nat} {row : NotificationDelivery} : row.attempts ≤ retryDelays.length + 1 →
      (row.status = .retryScheduled → row.attempts ≤ retryDelays.length) → n ≤ row.attempts →
      Paced n (some row) []

variable {row : NotificationDelivery} {found : Option NotificationDelivery}

lemma Attempt.owed_bounds : 0 ≤ a.owed ∧ a.owed ≤ 1 := by
  unfold Attempt.owed
  split <;> decide

/-- There is one attempt at a time. -/
lemma Paced.single (paced : Paced n found (front ++ a :: back)) :
    front = [] ∧ back = [] ∧ ∃ row, found = some row ∧ row.status = .attempting ∧
      row.attempts ≤ retryDelays.length + 1 ∧ a.delivery.attempts = row.attempts ∧ n + a.owed ≤ row.attempts := by
  generalize listed : front ++ a :: back = attempts at paced
  cases paced with
  | absent => simp at listed
  | free => simp at listed
  | held attempting bound same owed =>
    cases front with
    | nil =>
      injection listed with one rest
      subst one rest
      exact ⟨rfl, rfl, _, rfl, attempting, bound, same, owed⟩
    | cons => simp at listed

/-- The worker goes on, perhaps by calling the channel. -/
lemma Paced.goes {b : Attempt} (calls : Nat) (paced : Paced n found (front ++ a :: back))
    (same : b.delivery = a.delivery) (owed : b.owed + calls = a.owed) :
    Paced (n + calls) found (front ++ b :: back) := by
  obtain ⟨rfl, rfl, row, rfl, attempting, high, attempts, low⟩ := paced.single
  refine .held attempting high (same ▸ attempts) ?_
  push_cast
  omega

/-- The row under the attempt is rewritten with the attempt's own values. -/
lemma Paced.rewritten (paced : Paced n (some row) (front ++ a :: back)) (attempting : final.status = .attempting) :
    Paced n (some (updatedDelivery row final)) (front ++ a :: back) := by
  obtain ⟨rfl, rfl, _, ⟨⟩, _, high, same, owed⟩ := paced.single
  exact .held attempting high same owed

lemma Paced.bounds (paced : Paced n found attempts) :
    n ≤ retryDelays.length + 1 ∧ ∀ row, found = some row → row.attempts ≤ retryDelays.length + 1 := by
  cases paced with
  | absent => exact ⟨Nat.zero_le _, by rintro row ⟨⟩⟩
  | @held _ row a _ high _ owed =>
    have calls := Attempt.owed_bounds (a := a)
    exact ⟨by omega, by rintro _ ⟨⟩; exact high⟩
  | free high => exact ⟨by omega, by rintro _ ⟨⟩; exact high⟩

end pace

section mine

variable {attempts' : List Attempt}

def mine (d : Scope × String) (attempts : List Attempt) : List Attempt :=
  attempts.filter fun a => a.delivery.key = d

lemma mine_append : mine d (attempts ++ attempts') = mine d attempts ++ mine d attempts' := List.filter_append ..

lemma mine_self (here : a.delivery.key = d) : mine d (front ++ a :: back) = mine d front ++ a :: mine d back := by
  simp [mine, here]

lemma mine_other (other : a.delivery.key ≠ d) : mine d (front ++ a :: back) = mine d (front ++ back) := by
  simp [mine, other]

lemma mine_eq_nil (apart : ∀ a ∈ attempts, a.delivery.key ≠ d) : mine d attempts = [] := by
  simpa [mine] using apart

end mine

section runs

variable {F : Type} {w w' : World F}

lemma row_of_mem {db : Database F} {row : NotificationDelivery} (attempts : List Attempt)
    (member : row ∈ db.deliveries.rows) : World.row ⟨db, attempts⟩ row.key = some row :=
  Table.find?_of_mem member

def Event.delivers (d : Scope × String) : Event → Bool
  | .deliver a => a.delivery.key = d
  | _ => false

/-- A claim finds the delivery still being attempted, its lease expired. -/
def Event.expires (d : Scope × String) (w : World F) : Event → Prop
  | .claim now => ∃ row, w.row d = some row ∧ row.status = .attempting ∧
      row.leaseExpiresAt.any (· ≤ timestamptz now) = true
  | _ => False

def World.Paced (d : Scope × String) (n : Nat) (w : World F) : Prop := Alerts.Paced n (w.row d) (mine d w.attempts)

/-- The update at the end of an attempt. -/
lemma Updates.paced_ended {db db' : Database F} {row : NotificationDelivery} (updates : Updates final db db' row)
    (key : final.key = a.delivery.key)
    (again : final.status = .retryScheduled → a.delivery.attempts ≤ retryDelays.length)
    (paced : World.Paced d n ⟨db, front ++ a :: back⟩) : World.Paced d n ⟨db', front ++ back⟩ := by
  unfold World.Paced World.row at *
  by_cases here : a.delivery.key = d
  · subst here
    simp only [← key, updates.found] at paced
    simp only [← key, updates.find?_self]
    rw [key, mine_self rfl] at paced
    rw [key, mine_append]
    obtain ⟨none, alone, _, ⟨⟩, _, high, same, owed⟩ := paced.single
    have calls := Attempt.owed_bounds (a := a)
    rw [none, alone]
    refine .free high ?_ ?_
    · intro scheduled
      have low := again scheduled
      rw [same] at low
      exact low
    · change (n : Int) ≤ row.attempts
      omega
  · simp only [updates.find?_other (key ▸ Ne.symm here)]
    rwa [mine_other here] at paced

lemma paced_lost {db : Database F} (paced : World.Paced d n ⟨db, front ++ a :: back⟩) :
    World.Paced d n ⟨db, front ++ back⟩ := by
  unfold World.Paced World.row at *
  by_cases here : a.delivery.key = d
  · subst here
    rw [mine_self rfl] at paced
    rw [mine_append]
    obtain ⟨none, alone, row, found, attempting, high, _, owed⟩ := paced.single
    have calls := Attempt.owed_bounds (a := a)
    rw [none, alone, found]
    refine .free high ?_ (by omega)
    rw [attempting]
    simp
  · rwa [mine_other here] at paced

lemma paced_claim {claimAt leaseUntil : Instant} {db db' : Database F}
    {scanned : Except AlertError (List NotificationDelivery)} {keys : List (Scope × String)}
    (claims : Claims claimAt dispatcher.workerID leaseUntil db db' scanned keys)
    (holds : ¬ (Event.claim claimAt).expires d ⟨db, attempts⟩) (paced : World.Paced d n ⟨db, attempts⟩) :
    World.Paced d n ⟨db', attempts ++ dispatcher.taken now claimAt scanned⟩ := by
  unfold World.Paced at *
  rw [mine_append]
  by_cases listed : d ∈ keys
  · obtain ⟨row, found, due, claimed⟩ := claims.find?_of_mem listed
    have reads : World.row ⟨db, attempts⟩ d = some row := found
    have reads' : World.row ⟨db', attempts ++ dispatcher.taken now claimAt scanned⟩ d = _ := claimed
    rw [reads] at paced
    rw [reads']
    -- A claim that does not follow an expired lease follows a scheduled retry.
    have scheduled : row.status = .retryScheduled := by
      simp only [claimable, Bool.and_eq_true, Bool.or_eq_true, decide_eq_true_eq] at due
      rcases due.1.1.1.1.1 with ⟨scheduled, _⟩ | ⟨attempting, expired⟩
      · exact scheduled
      · exact absurd ⟨row, found, attempting, expired⟩ holds
    generalize mine d attempts = own at paced ⊢
    cases paced with
    | held attempting => rw [scheduled] at attempting; cases attempting
    | free _ again low =>
      have few := again scheduled
      rw [List.nil_append]
      have next : (claimRow claimAt dispatcher.workerID leaseUntil row).attempts = row.attempts + 1 := rfl
      rcases took : mine d (dispatcher.taken now claimAt scanned) with _ | ⟨a, rest⟩
      · exact .free (by rw [next]; omega) (by rintro ⟨⟩) (by rw [next]; omega)
      obtain ⟨member, key⟩ := List.mem_filter.mp (took ▸ List.mem_cons_self : a ∈ mine d _)
      have named : a.delivery.key = d := by simpa using key
      obtain ⟨single, _, _, found'⟩ := taken_sound claims member
      have alone : mine d (dispatcher.taken now claimAt scanned) = [a] := by simp [single, mine, named]
      have same : a.delivery = claimRow claimAt dispatcher.workerID leaseUntil row := by
        rw [named, claimed] at found'
        exact (Option.some.inj found').symm
      rw [← took, alone]
      refine .held rfl (by rw [next]; omega) (by rw [same]) ?_
      have bounds := Attempt.owed_bounds (a := a)
      rw [next]
      omega
  · have reads : World.row ⟨db', attempts ++ dispatcher.taken now claimAt scanned⟩ d = World.row ⟨db, attempts⟩ d :=
      claims.find?_of_not_mem listed
    have apart : mine d (dispatcher.taken now claimAt scanned) = [] := by
      refine mine_eq_nil ?_
      rintro a member rfl
      exact listed (taken_sound claims member).2.2.1
    rw [reads, apart, List.append_nil]
    exact paced

variable [Float64 F] [TimeText]

lemma paced_reserve {audit : Option AuditRecord} {reserved : Bool}
    {s s' : Session F} {opened : List Attempt} (opens : Opens delivery opened)
    (commits : Commits (reserveNotificationDelivery delivery audit) s reserved s')
    (paced : World.Paced d n ⟨s.db, attempts⟩) :
    World.Paced d n ⟨s'.db, attempts ++ if reserved then opened else []⟩ := by
  obtain ⟨rfl, rfl⟩ | ⟨rfl, inserted⟩ := reserveNotificationDelivery_cases commits
  · simpa using paced
  unfold World.Paced World.row at *
  rw [if_pos rfl, mine_append]
  by_cases here : (storedDelivery delivery).key = d
  · subst here
    simp only [Table.find?_of_insert? inserted] at paced
    simp only [Table.find?_insert?_self inserted]
    generalize mine _ attempts = own at paced ⊢
    cases paced
    have first : (storedDelivery delivery).attempts = 1 := opens.first
    obtain ⟨rfl, suppressed⟩ | ⟨a, rfl, rfl, _, attempting⟩ := opens.follows
    · refine .free (by rw [first]; decide) ?_ (by rw [first]; decide)
      intro scheduled
      exact absurd (suppressed.symm.trans scheduled) (by decide)
    · have alone : mine (storedDelivery a.delivery).key [a] = [a] := by simp [mine, storedDelivery, NotificationDelivery.key]
      have bounds := Attempt.owed_bounds (a := a)
      rw [alone]
      exact .held attempting (by rw [first]; decide) rfl (by rw [first]; push_cast; omega)
  · simp only [Table.find?_insert?_of_ne inserted (Ne.symm here)]
    have apart : mine d opened = [] := by
      refine mine_eq_nil ?_
      obtain ⟨rfl, _⟩ | ⟨a, rfl, rfl, _⟩ := opens.follows
      · simp
      · simpa [storedDelivery, NotificationDelivery.key] using here
    rw [apart, List.append_nil]
    exact paced

lemma Advance.paced (step : Advance w e w') (sound : ∀ a ∈ w.attempts, a.Sound) (holds : ¬ e.expires d w)
    (paced : w.Paced d n) : w'.Paced d (n + if e.delivers d then 1 else 0) := by
  cases step with
  | reserve asks commits =>
    exact paced_reserve (plan_opens asks) commits paced
  | claim commits =>
    obtain ⟨keys, claims⟩ := claimDueNotificationDeliveries_claims commits
    exact paced_claim claims holds paced
  | @retrying a front back s s' u stage commits =>
    obtain ⟨row, updates⟩ := updateNotificationDelivery_updates commits
    have attempting := (sound a (by simp)).claimed stage
    unfold World.Paced World.row at *
    by_cases here : a.delivery.key = d
    · subst here
      simp only [updates.found] at paced
      simp only [updates.find?_self]
      rw [mine_self rfl] at paced
      rw [mine_self (a := { a with stage := .delivering }) rfl]
      exact (paced.rewritten attempting).goes 0 rfl (by simp [Attempt.owed, stage])
    · simp only [updates.find?_other (Ne.symm here)]
      rw [mine_other here] at paced
      rw [mine_other (a := { a with stage := .delivering }) here]
      exact paced
  | @deliver a front back db answer stage =>
    unfold World.Paced at *
    by_cases here : a.delivery.key = d
    · rw [mine_self here] at paced
      rw [mine_self (a := { a with stage := .answered answer }) here]
      simp only [Event.delivers, here, decide_true, if_true]
      exact paced.goes 1 rfl (by simp [Attempt.owed, stage])
    · rw [mine_other here] at paced
      rw [mine_other (a := { a with stage := .answered answer }) here]
      simp only [Event.delivers, here, decide_false, Bool.false_eq_true, if_false, Nat.add_zero]
      exact paced
  | record _ recorded commits =>
    obtain ⟨row, updates⟩ := updateNotificationDelivery_updates commits
    have outcome := attemptOutcome_outcome recorded
    exact updates.paced_ended outcome.key outcome.again paced
  | @close a front back s s' u final stage commits =>
    obtain ⟨row, updates⟩ := updateNotificationDelivery_updates commits
    obtain ⟨abandoned, key, _⟩ := (sound a (by simp)).closing final stage
    exact updates.paced_ended key (by rw [abandoned]; rintro ⟨⟩) paced
  | lose | panic => exact paced_lost paced
  | other same =>
    unfold World.Paced World.row at *
    simp only [same]
    exact paced

section reachable

variable {es : List Event} {row : NotificationDelivery}

def World.Sound (w : World F) : Prop := ∀ a ∈ w.attempts, a.Sound

section

variable (run : Run Advance w es w') (sound : w.Sound)
include run sound

theorem run_sound : w'.Sound :=
  run.invariant World.Sound (fun step sound => (step.sound sound).1) sound

theorem run_terminal (found : w.row d = some row) (ended : row.status.terminal = true) : w'.row d = some row := by
  refine (run.invariant (fun w => w.Sound ∧ w.row d = some row) ?_ ⟨sound, found⟩).2
  rintro a e b step ⟨sound, found⟩
  obtain ⟨still, rows⟩ := step.sound sound
  have moved := rows d
  rw [found] at moved
  exact ⟨still, moved.of_terminal ended⟩

theorem run_attempts_le (found : w.row d = some row) : ∃ row', w'.row d = some row' ∧ row.attempts ≤ row'.attempts := by
  refine (run.invariant (fun w => w.Sound ∧ ∃ row', w.row d = some row' ∧ row.attempts ≤ row'.attempts) ?_
    ⟨sound, row, found, Int.le_refl _⟩).2
  rintro a e b step ⟨sound, row', found, grown⟩
  obtain ⟨still, rows⟩ := step.sound sound
  have moved := rows d
  rw [found] at moved
  obtain ⟨row'', found', more⟩ := moved.attempts_le
  exact ⟨still, row'', found', Int.le_trans grown more⟩

/-- The index of the retry table is in its range. -/
theorem not_panic : Event.panic a ∉ es := by
  intro listed
  obtain ⟨front, back, w₁, w₂, _, before, step, _⟩ := run.of_mem listed
  have held := run_sound before sound
  cases step with
  | panic stage none => exact attemptOutcome_ne_none (held a (by simp)).attempted none

end

theorem run_paced (run : Run (fun w e w' => Advance w e w' ∧ ¬ e.expires d w) w es w') (sound : w.Sound)
    (paced : w.Paced d n) : w'.Paced d (n + es.countP (·.delivers d)) := by
  induction run generalizing n with
  | nil => exact paced
  | @cons a b c e es step _ ih =>
    have next := ih (step.1.sound sound).1 (step.1.paced sound step.2 paced)
    rw [List.countP_cons]
    convert next using 1
    omega

/-- The state machine of a delivery, in every interleaving. -/
theorem delivery_state_machine {w₀ : World F} (start : w₀.attempts = []) (run : Run Advance w₀ es w)
    (d : Scope × String) :
    (∀ row, w.row d = some row → row.status.terminal = true → ∀ es' w', Run Advance w es' w' → w'.row d = some row) ∧
    (∀ e w' row, Advance w e w' → w.row d = some row → w'.row d ≠ some row →
      (∃ now, e = .claim now) ∨ ∃ a ∈ w.attempts, e.update? = some a ∧ a.delivery.key = d ∧
        row.status = .attempting ∧ row.leaseOwner = a.worker) ∧
    (∀ row, w.row d = some row → ∀ es' w', Run Advance w es' w' →
      ∃ row', w'.row d = some row' ∧ row.attempts ≤ row'.attempts) ∧
    (∀ a, Event.panic a ∉ es) ∧
    (w₀.row d = none → Run (fun w e w' => Advance w e w' ∧ ¬ e.expires d w) w₀ es w →
      es.countP (·.delivers d) ≤ retryDelays.length + 1 ∧
        ∀ row, w.row d = some row → row.attempts ≤ retryDelays.length + 1) := by
  have sound₀ : w₀.Sound := by simp [World.Sound, start]
  have sound := run_sound run sound₀
  refine ⟨?_, ?_, ?_, ?_, ?_⟩
  · intro row found ended es' w' more
    exact run_terminal more sound found ended
  · intro e w' row step found changes
    have moved := (step.sound sound).2 d
    rw [found] at moved
    generalize w'.row d = new at moved changes
    cases moved with
    | stays => exact absurd rfl changes
    | taken => exact .inl ⟨_, rfl⟩
    | updated by_ listed key attempting owner => exact .inr ⟨_, listed, by_, key, attempting, owner⟩
  · intro row found es' w' more
    exact run_attempts_le more sound found
  · intro a
    exact not_panic run sound₀
  · intro absent holds
    have fresh : w₀.Paced d 0 := by
      unfold World.Paced
      rw [absent, start]
      exact .absent
    have paced := run_paced holds sound₀ fresh
    rw [Nat.zero_add] at paced
    exact paced.bounds

end reachable

/-! The calls of a dispatcher are runs. -/

section calls

variable {rule : AlertRule F} {silences : List Silence} {event : AlertEvent} {state : EventState}
  {route : NotificationRoute} {db : Database F} {answer : DeliveryRequest → Option ChannelError}

/-- A database that a run reaches without leaving an attempt behind. -/
def Reaches (attempts : List Attempt) (db db' : Database F) : Prop :=
  ∃ es, Run Advance ⟨db, attempts⟩ es ⟨db', attempts⟩

lemma Reaches.refl : Reaches attempts db db := ⟨[], .nil _⟩

lemma Reaches.trans {db' db'' : Database F} (first : Reaches attempts db db') (second : Reaches attempts db' db'') :
    Reaches attempts db db'' := by
  obtain ⟨es, run⟩ := first
  obtain ⟨es', run'⟩ := second
  exact ⟨es ++ es', run.append run'⟩

/-- A database that a run reaches by carrying what was started to its end. -/
def Settles (attempts started : List Attempt) (db db' : Database F) : Prop :=
  ∃ es, Run Advance ⟨db, attempts ++ started⟩ es ⟨db', attempts⟩

lemma Settles.none : Settles attempts [] db db := by
  rw [Settles, List.append_nil]
  exact ⟨[], .nil _⟩

lemma Settles.after {w : World F} {started : List Attempt} {db' : Database F}
    (step : Advance w e ⟨db, attempts ++ started⟩) (ends : Settles attempts started db db') :
    ∃ es, Run Advance w es ⟨db', attempts⟩ := by
  obtain ⟨es, run⟩ := ends
  exact ⟨e :: es, .cons step run⟩

omit [Float64 F] [TimeText] in
lemma call_cases {α : Type} {tx : AlertTx F α} {db' : Database F} {result : Except DispatchError α}
    (called : call tx db = (db', result)) :
    (∃ a s', Commits tx ⟨db, []⟩ a s' ∧ db' = s'.db ∧ result = .ok a) ∨
      ∃ e, db' = db ∧ result = .error (.alert e) := by
  unfold call at called
  split at called
  · rename_i a s' committed
    cases called
    exact .inl ⟨a, s', committed, rfl, rfl⟩
  · cases called
    exact .inr ⟨_, rfl, rfl⟩

/-- A step that ends the last attempt. -/
lemma Advance.last {db' : Database F} (step : Advance ⟨db, attempts ++ [a]⟩ e ⟨db', attempts ++ []⟩) :
    Advance ⟨db, attempts ++ [a]⟩ e ⟨db', attempts⟩ := by
  rwa [List.append_nil] at step

/-- The last update of an attempt. -/
lemma record_reaches {action : DeliveryAction}
    (ends : ∀ {u : Unit} {s s' : Session F}, Commits (updateNotificationDelivery final (notificationAudit final action now)) s u s' →
      ∃ e, Advance ⟨s.db, attempts ++ [a]⟩ e ⟨s'.db, attempts⟩) :
    Settles attempts [a] db (record final action now db).1 := by
  cases recorded : record final action now db with
  | mk =>
    obtain ⟨u, s', commits, rfl, _⟩ | ⟨_, rfl, _⟩ := call_cases recorded
    · obtain ⟨e, step⟩ := ends commits
      exact ⟨[e], .single step⟩
    · exact ⟨_, .single (.last .lose)⟩

lemma finishAttempt_reaches {reply : Option ChannelError} (delivering : a.stage = .delivering) :
    Settles attempts [a] db (finishAttempt a.delivery a.now reply db).1 := by
  have called : Advance ⟨db, attempts ++ [a]⟩ (.deliver a)
    ⟨db, attempts ++ [{ a with stage := .answered reply }]⟩ := .deliver reply delivering
  unfold finishAttempt
  rcases outcome : attemptOutcome a.delivery a.now reply with _ | recorded
  · exact ⟨_, .cons called (.single (.last (.panic rfl outcome)))⟩
  obtain ⟨final, action⟩ := recorded
  refine (record_reaches ?_).after called
  intro u s s' commits
  exact ⟨_, .last (.record rfl outcome commits)⟩

lemma reserveThen_reaches {plan : Plan} {audit : Option AuditRecord}
    {next : Database F → Database F × Except DispatchError Unit}
    (planned : dispatcher.plan rule silences event state now route = plan)
    (asks : plan.reservation now = some (delivery, audit))
    (follows : ∀ db, Settles attempts (plan.attempts dispatcher.workerID now) db (next db).1) :
    Reaches attempts db (reserveThen delivery audit next db).1 := by
  subst planned
  unfold reserveThen
  cases called : call (reserveNotificationDelivery delivery audit) db with
  | mk =>
    obtain ⟨reserved, s', commits, rfl, rfl⟩ | ⟨e, rfl, rfl⟩ := call_cases called
    · have step : Advance (⟨_, attempts⟩ : World F) _ _ := .reserve asks commits
      rcases reserved with _ | _
      · rw [if_neg (by simp), List.append_nil] at step
        exact ⟨_, .single step⟩
      rw [if_pos rfl] at step
      exact (follows s'.db).after step
    · exact .refl

lemma execute_reaches :
    Reaches attempts db ((dispatcher.plan rule silences event state now route).execute now answer db).1 := by
  cases planned : dispatcher.plan rule silences event state now route with
  | skip => exact .refl
  | suppress => exact reserveThen_reaches planned rfl fun db => .none
  | misconfigured =>
    refine reserveThen_reaches planned rfl ?_
    intro db
    refine record_reaches ?_
    intro u s s' commits
    exact ⟨_, .last (.close rfl commits)⟩
  | attempt delivery =>
    refine reserveThen_reaches planned rfl ?_
    intro db
    exact finishAttempt_reaches (a := ⟨dispatcher.workerID, delivery, now, .delivering⟩) rfl

lemma dispatchRoutes_reaches {routes : List NotificationRoute} :
    Reaches attempts db (dispatchRoutes dispatcher rule silences event state now answer routes db).1 := by
  induction routes generalizing db with
  | nil => exact .refl
  | cons route rest ih =>
    unfold dispatchRoutes
    split
    · exact .refl
    have first : Reaches attempts db
      ((dispatcher.plan rule silences event state now route).execute now answer db).1 := execute_reaches
    split
    · rename_i stopped
      rw [stopped] at first
      exact first
    · rename_i went
      rw [went] at first
      exact first.trans ih

/-- `Dispatch` is a run that leaves no attempt behind. -/
theorem dispatch_reaches : Reaches attempts db (dispatch dispatcher event state now answer db).1 := by
  unfold dispatch
  split
  · exact .refl
  split
  · unfold recordOrphanedEvent
    split
    · exact .refl
    · dsimp only
      split
      · exact ⟨_, .single (.other rfl)⟩
      · exact .refl
  · exact .refl
  · split
    · exact .refl
    · split
      · exact .refl
      · exact .refl
      · exact dispatchRoutes_reaches

/-- A delivery that `RetryDue` has claimed. -/
lemma retryDelivery_reaches {claimAt : Instant} :
    Settles attempts (dispatcher.taken now claimAt (.ok [delivery])) db
      (retryDelivery dispatcher delivery now claimAt answer db).1 := by
  simp only [retryDelivery, Dispatcher.taken]
  split
  · exact .none
  split
  · refine record_reaches ?_
    intro u s s' commits
    exact ⟨_, .last (.close rfl commits)⟩
  · cases recorded : record delivery .retrying claimAt db with
    | mk =>
      obtain ⟨u, s', commits, rfl, rfl⟩ | ⟨e, rfl, rfl⟩ := call_cases recorded
      · have step : Advance (⟨_, attempts ++ [⟨dispatcher.workerID, delivery, claimAt, .claimed⟩]⟩ : World F) _
            ⟨s'.db, attempts ++ [⟨dispatcher.workerID, delivery, claimAt, .delivering⟩]⟩ := .retrying rfl commits
        exact .after step (finishAttempt_reaches rfl)
      · exact ⟨_, .single (.last .lose)⟩

lemma retryTurns_reaches {turns : List Turn} : Reaches attempts db (retryTurns dispatcher now turns db).1 := by
  induction turns generalizing db with
  | nil => exact .refl
  | cons turn rest ih =>
    unfold retryTurns
    dsimp only
    cases called : call (claimDueNotificationDeliveries (max turn.clock now) dispatcher.workerID
        (max turn.clock now + dispatcher.lease) 1 turn.contention) db with
    | mk db' result =>
      obtain ⟨scanned, s', commits, rfl, rfl⟩ | ⟨e, rfl, rfl⟩ := call_cases called
      · have step : Advance (⟨_, attempts⟩ : World F) _
            ⟨s'.db, attempts ++ dispatcher.taken now (max turn.clock now) scanned⟩ := .claim commits
        -- Only a claim of exactly one delivery is followed by an attempt.
        match scanned with
        | .error e | .ok [] | .ok (_ :: _ :: _) => exact ⟨_, .single (by simpa [Dispatcher.taken] using step)⟩
        | .ok [delivery] =>
          have tried : Reaches attempts db (retryDelivery dispatcher delivery now (max turn.clock now) turn.answer s'.db).1 :=
            Settles.after step retryDelivery_reaches
          dsimp only
          split
          · rename_i panicked
            rw [panicked] at tried
            exact tried
          all_goals
            rename_i went
            rw [went] at tried
            exact tried.trans ih
      · exact .refl

/-- `RetryDue` is a run that leaves no attempt behind. -/
theorem retryDue_reaches {turns : List Turn} : Reaches attempts db (retryDue dispatcher now turns db).1 := by
  unfold retryDue
  split
  · exact .refl
  · exact retryTurns_reaches

end calls

end runs

section sample

local instance dispatchTimes : TimeText := instTimeText

def samplePolicy : NotificationPolicy where
  id := "page"
  scope := sampleScope
  channel := "in_app"
  target := "oncall"
  secretRef := ""
  templateID := "short"
  severities := []
  matchLabels := []
  windowStartUTC := ""
  windowEndUTC := ""
  enabled := true
  createdAt := some newYear
  updatedAt := some newYear

def sampleTemplate : NotificationTemplate where
  id := "short"
  scope := sampleScope
  subject := "load"
  body := "load"
  revision := 1
  legacyVersionFromUpdatedAt := false
  createdAt := some newYear
  updatedAt := some newYear

/-- The sample rule notifies the sample policy. -/
def notifyingDatabase : Database Rat :=
  { sampleDatabase with
    rules := ⟨[{ sampleRule with notificationPolicyIDs := ["page"] }], by simp⟩
    policies := ⟨[samplePolicy], by simp⟩
    templates := ⟨[sampleTemplate], by simp⟩ }

def sampleDispatcher : Dispatcher where
  workerID := "dispatcher-1"
  channels := ["in_app"]
  eventURL _ := ""

def sampleFiring : AlertEvent :=
  { sampleResolved with state := .firing, firingAt := some newYear, resolvedAt := none }

/-- After a dispatch whose channel delivers at once. -/
def dispatched (event : AlertEvent) (db : Database Rat) : Database Rat :=
  (dispatch sampleDispatcher event event.state newYear (fun _ => none) db).1

def dispatchedDatabase : Database Rat := dispatched sampleFiring notifyingDatabase

instance dispatched_delivered : Fact (∃ row ∈ dispatchedDatabase.deliveries.rows, row.status = .delivered) where
  out := by decide +kernel

/-- The delivery of a dispatched event, delivered at the first attempt, stays as it is. -/
theorem delivery_state_machine_dispatched :
    ∃ row ∈ dispatchedDatabase.deliveries.rows, row.status = .delivered ∧
      ∀ es' w', Run Advance ⟨dispatchedDatabase, []⟩ es' w' → w'.row row.key = some row := by
  obtain ⟨es, run⟩ : Reaches [] notifyingDatabase dispatchedDatabase := dispatch_reaches
  obtain ⟨row, member, status⟩ := dispatched_delivered.out
  obtain ⟨stays, _⟩ := delivery_state_machine rfl run row.key
  exact ⟨row, member, status, stays row (row_of_mem [] member) (by rw [status]; rfl)⟩

end sample

end DBPilot.Alerts
