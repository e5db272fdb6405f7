import DBPilot.Lib.FiniteMap
import DBPilot.Lib.Runs

/-!
# The lanes of the observation dispatchers

The dispatchers of `internal/agentcontrol` keep a lane for each Agent: one report is with
the sink, and one waits. A lane has a worker; a delivery that takes too long ends the
worker and leaves the lane to a waiter. A turn of a goroutine is one section under the
dispatcher's lock, together with what it does alone up to the next one. Only an open
dispatcher is modelled.
-/

namespace DBPilot.AgentControl

open FiniteMaps

/-- What the lanes read of a report. A report without a revision is refused before. -/
structure Report (δ : Type) where
  revision : Nat
  digest : δ
  positive : 0 < revision
  deriving DecidableEq

structure Lane (δ : Type) where
  wake : Bool := false
  pending : Option (Report δ) := none
  /-- `activeRevision` and `activeDigest`; none stands for zero. -/
  active : Option (Report δ) := none
  quarantined : Bool := false

/-- Where a goroutine of a lane stands. -/
inductive Phase (δ : Type) where
  | idle
  | taking
  | retiring
  | delivering (report : Report δ)
  | acknowledging
  | awaitQuarantined (report : Report δ)
  | releasing

/-- What comes of a call of the sink. -/
inductive Answer where
  | persisted
  | refused
  | failed
  | expired
  deriving DecidableEq

/-- What the table of the last revisions says of a report. -/
inductive Admission where
  | invalid
  | known
  | admitted

/-- Where the dispatchers differ. -/
structure Rules (δ Λ : Type) where
  maximumPendingAgents : Nat
  admission : Λ → String → Report δ → Admission
  remember : Λ → String → Report δ → Λ
  /-- Nothing is queued on a quarantined lane. -/
  closesQuarantined : Bool
  /-- A report that the sink refuses is not delivered again. -/
  dropsRefused : Bool
  /-- The waiter starts a worker for what is pending. -/
  restarts : Bool

/-- What there is of one Agent, with the reports that `Submit` returned nil for and those that
were given to the sink. -/
structure Slot (δ : Type) where
  lane : Option (Lane δ) := none
  goroutines : List (Phase δ) := []
  accepted : List (Report δ) := []
  handed : List (Report δ) := []

structure Dispatcher (δ Λ : Type) where
  slots : FiniteMap String (Slot δ)
  last : Λ

inductive Event (δ : Type) where
  | submit (agent : String) (report : Report δ)
  | turn (agent : String) (index : Nat) (answer : Answer)

section lanes

variable {δ Λ : Type}

/-- What a turn of a goroutine makes of its lane (none: it leaves the table), where it
stands then, what it gives to the sink and what was persisted. -/
structure Outcome (δ : Type) where
  lane : Option (Lane δ)
  next : List (Phase δ) := []
  hand : Option (Report δ) := none
  persisted : Option (Report δ) := none

def Lane.turn (rules : Rules δ Λ) (lane : Lane δ) : Phase δ → Answer → Outcome δ
  | .idle, _ => if lane.wake then ⟨some { lane with wake := false }, [.taking], none, none⟩ else ⟨some lane, [.idle], none, none⟩
  | .taking, _ =>
    match lane.pending with
    | none => ⟨some lane, [.retiring], none, none⟩
    | some report =>
      ⟨some { lane with pending := none, active := some report }, [.delivering report], some report, none⟩
  | .retiring, _ =>
    if lane.pending.isSome || lane.active.isSome || lane.quarantined then ⟨some lane, [.idle], none, none⟩
    else ⟨none, [], none, none⟩
  | .delivering report, .persisted => ⟨some lane, [.acknowledging], none, some report⟩
  | .delivering report, .refused =>
    if rules.dropsRefused then ⟨some lane, [.acknowledging], none, none⟩
    else ⟨some lane, [.delivering report], some report, none⟩
  | .delivering report, .failed => ⟨some lane, [.delivering report], some report, none⟩
  | .delivering report, .expired => ⟨some { lane with quarantined := true }, [.awaitQuarantined report], none, none⟩
  | .acknowledging, _ => ⟨some { lane with active := none }, [.taking], none, none⟩
  | .awaitQuarantined report, answer =>
    ⟨some lane, [.releasing], none, if answer = .persisted then some report else none⟩
  | .releasing, _ =>
    if lane.pending.isNone then ⟨none, [], none, none⟩
    else if rules.restarts then ⟨some { lane with active := none, quarantined := false, wake := true }, [.idle], none, none⟩
    else ⟨some { lane with active := none, quarantined := false }, [], none, none⟩

/-- The newest report of a lane. -/
def Lane.highest (lane : Lane δ) : Option (Report δ) :=
  match lane.pending, lane.active with
  | some pending, some active => if pending.revision ≥ active.revision then some pending else some active
  | some pending, none => some pending
  | none, active => active

variable [DecidableEq δ]

def Lane.offer (lane : Lane δ) (report : Report δ) : Option (Lane δ) :=
  match lane.highest with
  | none => some { lane with pending := some report, wake := true }
  | some highest =>
    if report.revision < highest.revision then none
    else if report.revision = highest.revision then (if report.digest = highest.digest then some lane else none)
    else some { lane with pending := some report, wake := true }

/-- `Submit` for an Agent; a lane is made with its worker if there is room. -/
def Slot.submit (rules : Rules δ Λ) (room : Bool) (slot : Slot δ) (report : Report δ) : Slot δ :=
  let queue (slot : Slot δ) (lane : Lane δ) : Slot δ :=
    if rules.closesQuarantined && lane.quarantined then slot
    else
      match lane.offer report with
      | none => slot
      | some lane => { slot with lane := some lane, accepted := report :: slot.accepted }
  match slot.lane with
  | some lane => queue slot lane
  | none => if room then queue { slot with lane := some {}, goroutines := .idle :: slot.goroutines } {} else slot

def Slot.turn (rules : Rules δ Λ) (slot : Slot δ) (index : Nat) (answer : Answer) : Option (Slot δ × Option (Report δ)) :=
  match slot.goroutines[index]?, slot.lane with
  | some phase, some lane =>
    let outcome := lane.turn rules phase answer
    some ({ slot with
      lane := outcome.lane
      goroutines := outcome.next ++ slot.goroutines.eraseIdx index
      handed := outcome.hand.toList ++ slot.handed }, outcome.persisted)
  | _, _ => none

def Dispatcher.slot (d : Dispatcher δ Λ) (agent : String) : Slot δ := (d.slots.get agent).getD {}

def Dispatcher.lanes (d : Dispatcher δ Λ) : Nat := d.slots.entries.countP fun entry => entry.2.lane.isSome

def Dispatcher.step (rules : Rules δ Λ) (d : Dispatcher δ Λ) : Event δ → Option (Dispatcher δ Λ)
  | .submit agent report =>
    match rules.admission d.last agent report with
    | .invalid => some d
    | .known =>
      let slot := d.slot agent
      some { d with slots := d.slots.set agent { slot with accepted := report :: slot.accepted } }
    | .admitted =>
      let room := d.lanes < rules.maximumPendingAgents
      some { d with slots := d.slots.set agent ((d.slot agent).submit rules room report) }
  | .turn agent index answer =>
    match (d.slot agent).turn rules index answer with
    | none => none
    | some (slot, none) => some { d with slots := d.slots.set agent slot }
    | some (slot, some report) =>
      some { slots := d.slots.set agent slot, last := rules.remember d.last agent report }

/-! What holds of an attended lane. -/

def Phase.works : Phase δ → Bool
  | .awaitQuarantined _ | .releasing => false
  | _ => true

/-- The goroutine takes what is pending on the lane, or starts a worker that does. -/
def Phase.serves (rules : Rules δ Λ) (lane : Lane δ) : Phase δ → Prop
  | .idle | .retiring => lane.wake = true
  | .awaitQuarantined _ | .releasing => rules.restarts = true
  | _ => True

/-- The goroutines of an Agent, with its lane. -/
inductive Attended (rules : Rules δ Λ) : Option (Lane δ) → List (Phase δ) → Prop
  | absent : Attended rules none []
  | present {lane : Lane δ} {phase : Phase δ} (works : phase.works = !lane.quarantined)
      (serves : lane.pending.isSome = true → phase.serves rules lane) : Attended rules (some lane) [phase]

section turns

variable (rules : Rules δ Λ) {lane lane' : Lane δ} (phase : Phase δ) (answer : Answer) {report : Report δ}

omit [DecidableEq δ]

variable {rules phase} in
/-- A turn leaves the lane attended, unless a delivery expires in front of a pending report
that the waiter does not serve. -/
lemma Attended.turn (attended : Attended rules (some lane) [phase])
    (timely : ∀ report, phase = .delivering report → answer = .expired → lane.pending.isSome = true →
      rules.restarts = true) :
    Attended rules (lane.turn rules phase answer).lane (lane.turn rules phase answer).next := by
  obtain ⟨⟩ | ⟨works, serves⟩ := attended
  cases phase with
  | idle =>
    simp only [Lane.turn]
    split
    · exact .present works fun _ => trivial
    · exact .present works serves
  | taking =>
    simp only [Lane.turn]
    split
    · rename_i empty
      exact .present works (by simp [empty])
    · exact .present works nofun
  | retiring =>
    simp only [Lane.turn]
    split
    · exact .present works serves
    · exact .absent
  | delivering report =>
    cases answer with
    | persisted | failed => exact .present works fun _ => trivial
    | refused =>
      simp only [Lane.turn]
      split
      · exact .present works fun _ => trivial
      · exact .present works fun _ => trivial
    | expired => exact .present rfl (timely report rfl rfl)
  | acknowledging => exact .present works fun _ => trivial
  | awaitQuarantined => exact .present works serves
  | releasing =>
    simp only [Lane.turn]
    split
    · exact .absent
    · rename_i waiting
      have restarts : rules.restarts = true := serves (by simpa [Option.isSome_iff_ne_none] using waiting)
      rw [if_pos restarts]
      exact .present rfl fun _ => rfl

/-- What is pending stays so, or is given to the sink. -/
lemma pending_turn (waiting : lane.pending = some report) :
    (lane.turn rules phase answer).hand = some report ∨
      ∃ lane', (lane.turn rules phase answer).lane = some lane' ∧ lane'.pending = some report := by
  cases phase <;> cases answer <;> grind [Lane.turn]

variable {rules phase answer} in
/-- What is active was so before, or is given to the sink. -/
lemma active_turn (left : (lane.turn rules phase answer).lane = some lane') (active : lane'.active = some report) :
    lane.active = some report ∨ (lane.turn rules phase answer).hand = some report := by
  cases phase <;> cases answer <;> grind [Lane.turn]

end turns

variable {lane : Lane δ}

omit [DecidableEq δ] in
lemma highest_held {highest : Report δ} (newest : lane.highest = some highest) :
    lane.pending = some highest ∨ lane.active = some highest := by
  unfold Lane.highest at newest
  split at newest
  · rename_i waiting active
    split at newest
    · exact .inl (waiting.trans newest)
    · exact .inr (active.trans newest)
  · rename_i waiting _
    exact .inl (waiting.trans newest)
  · exact .inr newest

omit [DecidableEq δ] in
lemma le_highest {old : Report δ} (waiting : lane.pending = some old) :
    ∃ highest, lane.highest = some highest ∧ old.revision ≤ highest.revision := by
  unfold Lane.highest
  rw [waiting]
  cases lane.active with
  | none => exact ⟨old, rfl, Nat.le_refl _⟩
  | some active =>
    dsimp only
    split
    · exact ⟨old, rfl, Nat.le_refl _⟩
    · exact ⟨active, rfl, by omega⟩

/-- What a lane makes of a report: it has it already, or keeps it in place of older ones. -/
lemma offer_eq_some {lane' : Lane δ} {report : Report δ} (offered : lane.offer report = some lane') :
    lane' = lane ∧ (lane.pending = some report ∨ lane.active = some report) ∨
      lane' = { lane with pending := some report, wake := true } ∧
        ∀ old, lane.pending = some old → old.revision < report.revision := by
  unfold Lane.offer at offered
  cases newest : lane.highest with
  | none =>
    rw [newest] at offered
    cases offered
    refine .inr ⟨rfl, ?_⟩
    intro old waiting
    obtain ⟨_, found, _⟩ := le_highest waiting
    rw [newest] at found
    cases found
  | some highest =>
    rw [newest] at offered
    dsimp only at offered
    split at offered
    · cases offered
    split at offered
    · split at offered <;> cases offered
      have same : report = highest := by
        cases report
        cases highest
        simp_all
      rw [same]
      exact .inl ⟨rfl, highest_held newest⟩
    · cases offered
      refine .inr ⟨rfl, ?_⟩
      intro old waiting
      obtain ⟨_, found, older⟩ := le_highest waiting
      rw [newest] at found
      cases found
      omega

/-! Runs of a dispatcher. -/

/-- A report that was accepted went to the sink, gave way to a newer one, or is pending on a lane
whose goroutine serves it. -/
def Slot.Holds (rules : Rules δ Λ) (slot : Slot δ) (report : Report δ) : Prop :=
  report ∈ slot.handed ∨ (∃ newer ∈ slot.accepted, report.revision < newer.revision) ∨
    ∃ lane phase, slot.lane = some lane ∧ lane.pending = some report ∧
      phase ∈ slot.goroutines ∧ phase.serves rules lane

structure Slot.Sound (rules : Rules δ Λ) (slot : Slot δ) : Prop where
  attended : Attended rules slot.lane slot.goroutines
  active : ∀ lane report, slot.lane = some lane → lane.active = some report → report ∈ slot.handed
  pending : ∀ report ∈ slot.accepted, report ∈ slot.handed ∨
    (∃ newer ∈ slot.accepted, report.revision < newer.revision) ∨
    ∃ lane, slot.lane = some lane ∧ lane.pending = some report

/-- No delivery expires in front of a pending report that the waiter does not serve. -/
def Timely (rules : Rules δ Λ) (d : Dispatcher δ Λ) : Event δ → Prop
  | .turn agent index .expired => ∀ report lane, (d.slot agent).goroutines[index]? = some (.delivering report) →
      (d.slot agent).lane = some lane → lane.pending.isSome = true → rules.restarts = true
  | _ => True

variable {rules : Rules δ Λ} {slot slot' : Slot δ} {report : Report δ} {persisted : Option (Report δ)}

omit [DecidableEq δ] in
lemma Slot.Sound.holds (sound : slot.Sound rules) (accepted : report ∈ slot.accepted) : slot.Holds rules report := by
  rcases sound.pending report accepted with handed | newer | ⟨lane, found, waiting⟩
  · exact .inl handed
  · exact .inr (.inl newer)
  · obtain ⟨lane', phases, _, _⟩ := slot
    obtain rfl : lane' = some lane := found
    obtain ⟨⟩ | @⟨_, phase, works, serves⟩ := sound.attended
    refine .inr (.inr ⟨lane, phase, rfl, waiting, List.mem_singleton_self phase, serves ?_⟩)
    rw [waiting]
    rfl

omit [DecidableEq δ] in
lemma Slot.Sound.turn {index : Nat} {answer : Answer} (sound : slot.Sound rules)
    (timely : ∀ report lane, slot.goroutines[index]? = some (.delivering report) → answer = .expired →
      slot.lane = some lane → lane.pending.isSome = true → rules.restarts = true)
    (turned : slot.turn rules index answer = some (slot', persisted)) : slot'.Sound rules := by
  obtain ⟨attended, active, pending⟩ := sound
  obtain ⟨lane, phases, accepted, handed⟩ := slot
  -- The goroutine that goes on is the only one of its lane.
  obtain ⟨⟩ | @⟨lane, phase, works, serves⟩ := attended
  · cases turned
  cases index with
  | succ => cases turned
  | zero =>
    cases turned
    refine ⟨?_, ?_, ?_⟩
    · have after := (Attended.present works serves).turn answer ?_
      · simpa using after
      · rintro report rfl expired waiting
        exact timely report lane rfl expired rfl waiting
    · intro lane' report left now
      refine List.mem_append.mpr ?_
      rcases active_turn left now with before | hand
      · exact .inr (active lane report rfl before)
      · exact .inl (by simp [hand])
    · intro report member
      rcases pending report member with handed | newer | ⟨_, ⟨⟩, waiting⟩
      · exact .inl (List.mem_append.mpr (.inr handed))
      · exact .inr (.inl newer)
      · rcases pending_turn rules phase answer waiting with hand | stays
        · exact .inl (List.mem_append.mpr (.inl (by simp [hand])))
        · exact .inr (.inr stays)

lemma Slot.Sound.queue {lane' : Lane δ} (sound : slot.Sound rules) (found : slot.lane = some lane)
    (offered : lane.offer report = some lane') (served : lane.quarantined = true → rules.restarts = true) :
    Slot.Sound rules { slot with lane := some lane', accepted := report :: slot.accepted } := by
  obtain ⟨attended, active, pending⟩ := sound
  obtain ⟨_, phases, accepted, handed⟩ := slot
  obtain rfl := found
  obtain ⟨⟩ | @⟨_, phase, works, serves⟩ := attended
  obtain ⟨rfl, held⟩ | ⟨rfl, older⟩ := offer_eq_some offered
  · refine ⟨.present works serves, active, ?_⟩
    intro old member
    rcases List.mem_cons.mp member with rfl | before
    · rcases held with waiting | handed
      · exact .inr (.inr ⟨_, rfl, waiting⟩)
      · exact .inl (active _ old rfl handed)
    · rcases pending old before with handed | ⟨newer, there, later⟩ | waiting
      · exact .inl handed
      · exact .inr (.inl ⟨newer, List.mem_cons_of_mem _ there, later⟩)
      · exact .inr (.inr waiting)
  · refine ⟨.present works ?_, ?_, ?_⟩
    · -- A worker was woken, and a waiter has a quarantined lane.
      intro _
      cases phase with
      | idle => rfl
      | retiring => rfl
      | awaitQuarantined | releasing => exact served (by simpa [Phase.works] using works)
      | _ => trivial
    · rintro _ old ⟨⟩ now
      exact active lane old rfl now
    · intro old member
      rcases List.mem_cons.mp member with rfl | before
      · exact .inr (.inr ⟨_, rfl, rfl⟩)
      · rcases pending old before with handed | ⟨newer, there, later⟩ | ⟨_, ⟨⟩, waiting⟩
        · exact .inl handed
        · exact .inr (.inl ⟨newer, List.mem_cons_of_mem _ there, later⟩)
        · exact .inr (.inl ⟨report, List.mem_cons_self, older old waiting⟩)

omit [DecidableEq δ] in
/-- A lane is made. -/
lemma Slot.Sound.opened (sound : slot.Sound rules) (absent : slot.lane = none) :
    Slot.Sound rules { slot with lane := some {}, goroutines := .idle :: slot.goroutines } := by
  obtain ⟨attended, active, pending⟩ := sound
  obtain ⟨_, phases, accepted, handed⟩ := slot
  obtain rfl := absent
  obtain ⟨⟩ := attended
  refine ⟨.present rfl nofun, ?_, ?_⟩
  · rintro _ report ⟨⟩ ⟨⟩
  · intro report member
    rcases pending report member with handed | newer | ⟨_, ⟨⟩, _⟩
    · exact .inl handed
    · exact .inr (.inl newer)

lemma Slot.Sound.submit {room : Bool} (sound : slot.Sound rules)
    (covered : rules.closesQuarantined = false → rules.restarts = true) :
    (slot.submit rules room report).Sound rules := by
  have queued : ∀ {slot : Slot δ} {lane : Lane δ}, slot.Sound rules → slot.lane = some lane →
      Slot.Sound rules (if rules.closesQuarantined && lane.quarantined then slot else
        match lane.offer report with
        | none => slot
        | some lane => { slot with lane := some lane, accepted := report :: slot.accepted }) := by
    intro slot lane sound found
    split
    · exact sound
    rename_i allowed
    split
    · exact sound
    · rename_i lane' offered
      refine sound.queue found offered ?_
      intro quarantined
      exact covered (by simpa [quarantined] using allowed)
  unfold Slot.submit
  dsimp only
  split
  · rename_i lane found
    exact queued sound found
  · rename_i absent
    split
    · exact queued (sound.opened absent) rfl
    · exact sound

theorem Dispatcher.sound_step {d d' : Dispatcher δ Λ} {event : Event δ}
    (fresh : ∀ last agent report, rules.admission last agent report ≠ .known)
    (covered : rules.closesQuarantined = false → rules.restarts = true)
    (stepped : d.step rules event = some d') (timely : Timely rules d event)
    (sound : ∀ agent, (d.slot agent).Sound rules) (agent : String) : (d'.slot agent).Sound rules := by
  have set : ∀ {other : String} {slot : Slot δ} {last : Λ}, slot.Sound rules →
      (Dispatcher.slot ⟨d.slots.set other slot, last⟩ agent).Sound rules := by
    intro other slot last good
    unfold Dispatcher.slot
    by_cases same : agent = other
    · subst same
      simpa using good
    · rw [FiniteMap.get_set_of_ne same]
      exact sound agent
  cases event with
  | submit other =>
    simp only [Dispatcher.step] at stepped
    split at stepped
    · cases stepped
      exact sound agent
    · rename_i known
      exact absurd known (fresh _ _ _)
    · cases stepped
      exact set ((sound other).submit covered)
  | turn other index answer =>
    simp only [Dispatcher.step] at stepped
    have turned : ∀ {slot persisted}, (d.slot other).turn rules index answer = some (slot, persisted) →
        slot.Sound rules := by
      intro slot persisted turned
      refine (sound other).turn ?_ turned
      rintro report lane here rfl found waiting
      exact timely report lane here found waiting
    split at stepped
    · cases stepped
    · rename_i here
      cases stepped
      exact set (turned here)
    · rename_i here
      cases stepped
      exact set (turned here)

end lanes

end DBPilot.AgentControl
