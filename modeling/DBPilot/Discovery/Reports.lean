import DBPilot.Lib.Runs
import Mathlib.Algebra.Group.Int.Defs
import Mathlib.Logic.Function.Basic

/-!
# Recording discovery reports

`RecordReport` of the control plane, for one host: a report is one transaction under the
lock of the host. What a candidate's row copies from an observation and nothing here reads
(family, endpoint, evidence) is `δ`; the checks of `Report.Validate` and the digest of a
report are `Checks`. Other transactions ignore or accept a candidate.
-/

namespace DBPilot.DiscoveryReports

open Runs

inductive DiscoveryError where
  | invalid
  | encoding
  | conflict
  | staleRevision
  | database

inductive Source where
  | native
  | docker
  deriving DecidableEq

inductive SourceResultStatus where
  | completed
  | unavailable
  | notConfigured
  | notRequested
  deriving DecidableEq

structure SourceResult where
  source : Source
  status : SourceResultStatus

inductive Status where
  | discovered
  | awaitingConfirmation
  | accepted
  | provisioning
  | ignored
  | duplicate
  | disappeared
  deriving DecidableEq

abbrev Digest := BitVec 256

/-- In nanoseconds, as durations are. -/
abbrev Instant := Int

def minute : Int := 60 * 10 ^ 9

structure CandidateObservation (δ : Type) where
  observationID : String
  source : Source
  fingerprint : Digest
  details : δ

structure RuleAttestation where
  digest : Digest
  issuedAt : Instant
  expiresAt : Instant

structure Report (δ : Type) where
  agentID : String
  observationRevision : Nat
  ruleRevision : Nat
  candidates : List (CandidateObservation δ)
  observedAt : Instant
  ruleAttestation : RuleAttestation
  sourceResults : List SourceResult

/-- The row of the host in `discovery_scan_state`; rows of earlier releases lack two columns. -/
structure ScanState where
  agentID : String
  observationRevision : Nat
  ruleRevision : Nat
  reportDigest : Digest
  observedAt : Instant
  receivedAt : Instant
  ruleSetDigest : Option Digest
  disappearanceGraceSeconds : Int
  agentObservedAt : Option Instant

structure Candidate (δ : Type) where
  agentID : String
  observation : CandidateObservation δ
  ruleRevision : Nat
  observationRevision : Nat
  firstSeenAt : Instant
  lastSeenAt : Instant
  status : Status
  updatedAt : Instant

abbrev Rows (δ : Type) := Digest → Option (Candidate δ)

structure Host (δ : Type) where
  scan : Option ScanState := none
  candidates : Rows δ := fun _ => none
  /-- The reports recorded so far, with their times. -/
  recorded : List (Instant × Report δ) := []

structure Checks (δ : Type) where
  valid : Report δ → Bool
  digest : Report δ → Option Digest

section model

variable {δ : Type} (checks : Checks δ) (report : Report δ) (now : Instant) (grace : Int)

def newReportActiveAt : Bool :=
  report.ruleAttestation.issuedAt ≤ now && now < report.ruleAttestation.expiresAt &&
    now - 5 * minute ≤ report.observedAt && report.observedAt ≤ now + 5 * minute

def effectiveSourceResults : List SourceResult :=
  if report.sourceResults ≠ [] then report.sourceResults
  else (report.candidates.map (·.source)).eraseDups.map fun source => ⟨source, .completed⟩

/-- What is to be done with a report: nothing if it is stored already, or to store it with its digest. -/
def admission (host : Host δ) : Except DiscoveryError (Option Digest) :=
  if checks.valid report = false ∨ grace < minute ∨ 24 * 60 * minute < grace then .error .invalid
  else match checks.digest report, host.scan with
  | none, _ => .error .encoding
  | some digest, none => if newReportActiveAt report now then .ok (some digest) else .error .conflict
  | some digest, some previous =>
    if report.observationRevision = previous.observationRevision then
      if previous.reportDigest = digest then .ok none else .error .conflict
    else if newReportActiveAt report now = false then .error .conflict
    else if report.ruleRevision < previous.ruleRevision then .error .staleRevision
    else if report.ruleRevision = previous.ruleRevision ∧
        previous.ruleSetDigest.any (· ≠ report.ruleAttestation.digest) then .error .conflict
    else if previous.agentObservedAt.any (report.observedAt < ·) then .error .staleRevision
    else if report.observationRevision < previous.observationRevision then .error .staleRevision
    else .ok (some digest)

def scanState (digest : Digest) : ScanState where
  agentID := report.agentID
  observationRevision := report.observationRevision
  ruleRevision := report.ruleRevision
  reportDigest := digest
  observedAt := report.observedAt
  receivedAt := now
  ruleSetDigest := some report.ruleAttestation.digest
  disappearanceGraceSeconds := grace.tdiv (10 ^ 9)
  agentObservedAt := some report.observedAt

/-- The row of an observation: that of a known fingerprint keeps its source, its first time and most statuses. -/
def upsertedRow (observation : CandidateObservation δ) : Option (Candidate δ) → Candidate δ
  | none =>
    { agentID := report.agentID, observation, ruleRevision := report.ruleRevision,
      observationRevision := report.observationRevision, firstSeenAt := now, lastSeenAt := now,
      status := .awaitingConfirmation, updatedAt := now }
  | some row =>
    if row.observationRevision < report.observationRevision then
      { agentID := report.agentID, observation := { observation with source := row.observation.source },
        ruleRevision := report.ruleRevision, observationRevision := report.observationRevision,
        firstSeenAt := row.firstSeenAt, lastSeenAt := max row.lastSeenAt now,
        status := if row.status = .disappeared then .awaitingConfirmation else row.status, updatedAt := now }
    else row

def upsertCandidate (rows : Rows δ) (observation : CandidateObservation δ) : Rows δ :=
  Function.update rows observation.fingerprint
    (some (upsertedRow report now observation (rows observation.fingerprint)))

/-- What the update of a source result does to a row. -/
def vanish (row : Candidate δ) (result : SourceResult) : Candidate δ :=
  if result.status = .completed ∧ row.observation.source = result.source ∧
      (row.status = .discovered ∨ row.status = .awaitingConfirmation) ∧ row.lastSeenAt ≤ now - grace then
    { row with status := .disappeared, updatedAt := now }
  else row

def recordedRows (rows : Rows δ) : Rows δ := fun fingerprint =>
  (report.candidates.foldl (upsertCandidate report now) rows fingerprint).map
    ((effectiveSourceResults report).foldl (vanish now grace))

inductive Reply where
  | repeated
  | recorded

def recordReport (host : Host δ) : Except DiscoveryError Reply × Host δ :=
  match admission checks report now grace host with
  | .error err => (.error err, host)
  | .ok none => (.ok .repeated, host)
  | .ok (some digest) => (.ok .recorded,
      ⟨some (scanState report now grace digest), recordedRows report now grace host.candidates,
        (now, report) :: host.recorded⟩)

end model

variable {δ : Type}

def Host.status (host : Host δ) (fingerprint : Digest) : Option Status :=
  (host.candidates fingerprint).map (·.status)

def Report.contains (report : Report δ) (fingerprint : Digest) : Prop :=
  fingerprint ∈ report.candidates.map (·.fingerprint)

/-- Other transactions change statuses: candidates are ignored or accepted. -/
def Host.mark (host : Host δ) (change : Digest → Status → Status) : Host δ :=
  { host with candidates := fun fingerprint => (host.candidates fingerprint).map fun row =>
      { row with status := change fingerprint row.status } }

inductive Event (δ : Type) where
  | report (report : Report δ) (now : Instant) (grace : Int) (reply : Except DiscoveryError Reply)
  | marked

/-- A transaction that the database fails is rolled back. -/
inductive Step (checks : Checks δ) : Host δ → Event δ → Host δ → Prop
  | report (host : Host δ) (report : Report δ) (now : Instant) (grace : Int) :
      Step checks host (.report report now grace (recordReport checks report now grace host).1)
        (recordReport checks report now grace host).2
  | failed (host : Host δ) (report : Report δ) (now : Instant) (grace : Int) :
      Step checks host (.report report now grace (.error .database)) host
  | marked (host : Host δ) (change : Digest → Status → Status) : Step checks host .marked (host.mark change)

variable {checks : Checks δ} {report : Report δ} {now : Instant} {grace : Int} {host host' : Host δ}

/-! ## One report -/

section rows

variable {rows : Rows δ} {fingerprint : Digest} {old : Option (Candidate δ)} {row : Candidate δ}

/-- Of several observations of a fingerprint the first is stored. -/
lemma upserts_apply (observations : List (CandidateObservation δ)) :
    observations.foldl (upsertCandidate report now) rows fingerprint =
      match observations.find? (·.fingerprint = fingerprint) with
      | none => rows fingerprint
      | some observation => some (upsertedRow report now observation (rows fingerprint)) := by
  induction observations generalizing rows with
  | nil => rfl
  | cons observation rest ih =>
    rw [List.foldl_cons, ih]
    by_cases same : observation.fingerprint = fingerprint
    · rw [List.find?_cons_of_pos (by simpa using same), upsertCandidate, same, Function.update_self]
      split
      · rfl
      · refine congrArg some (if_neg (Nat.not_lt.mpr ?_))
        cases rows fingerprint with
        | none => exact Nat.le_refl _
        | some row =>
          rw [upsertedRow]
          split
          · exact Nat.le_refl _
          · omega
    · rw [List.find?_cons_of_neg (by simpa using same), upsertCandidate, Function.update_of_ne (Ne.symm same)]

def Older (report : Report δ) (old : Option (Candidate δ)) : Prop :=
  ∀ before, old = some before → before.observationRevision < report.observationRevision

/-- A row after a report. -/
structure RowAfter (report : Report δ) (now : Instant) (grace : Int) (fingerprint : Digest)
    (old : Option (Candidate δ)) (row : Candidate δ) : Prop where
  revision : row.observationRevision ≤ report.observationRevision
  seen : report.contains fingerprint → now ≤ row.lastSeenAt
  later : ∀ before, old = some before → before.lastSeenAt ≤ row.lastSeenAt
  settled : ∀ before, old = some before →
    before.status ∉ [.discovered, .awaitingConfirmation, .disappeared] → row.status = before.status
  gone : row.status = .disappeared → (∃ before, old = some before ∧ before.status = .disappeared) ∨
    row.lastSeenAt ≤ now - grace ∧ ∃ result ∈ effectiveSourceResults report,
      result.status = .completed ∧ row.observation.source = result.source

lemma RowAfter.vanish (after : RowAfter report now grace fingerprint old row) {result : SourceResult}
    (listed : result ∈ effectiveSourceResults report) :
    RowAfter report now grace fingerprint old (DiscoveryReports.vanish now grace row result) := by
  unfold DiscoveryReports.vanish
  split
  · rename_i due
    refine ⟨after.revision, after.seen, after.later, ?_, fun _ => .inr ⟨due.2.2.2, result, listed, due.1, due.2.1⟩⟩
    intro before present settled
    rw [after.settled before present settled] at due
    rcases due.2.2.1 with shown | shown
    · exact absurd (by simp [shown]) settled
    · exact absurd (by simp [shown]) settled
  · exact after

lemma rowAfter_upserted (observation : CandidateObservation δ) (older : Older report old) :
    RowAfter report now grace fingerprint old (upsertedRow report now observation old) := by
  cases old with
  | none => exact ⟨Nat.le_refl _, fun _ => Int.le_refl _, nofun, nofun, nofun⟩
  | some row =>
    rw [upsertedRow, if_pos (older row rfl)]
    refine ⟨Nat.le_refl _, fun _ => Int.le_max_right _ _, ?_, ?_, ?_⟩
    · rintro _ ⟨⟩
      exact Int.le_max_left _ _
    · rintro _ ⟨⟩ settled
      exact if_neg fun left => settled (by simp [left])
    · dsimp only
      split
      · exact nofun
      · rename_i shown
        exact fun left => absurd left shown

lemma recordedRows_after (older : Older report (rows fingerprint))
    (present : recordedRows report now grace rows fingerprint = some row) :
    RowAfter report now grace fingerprint (rows fingerprint) row := by
  obtain ⟨middle, held, rfl⟩ := Option.map_eq_some_iff.mp present
  refine List.foldlRecOn _ _ ?_ fun row after result listed => after.vanish listed
  rw [upserts_apply] at held
  split at held
  · rename_i missing
    have absent : ¬ report.contains fingerprint := by simpa [Report.contains] using missing
    rw [held]
    refine ⟨Nat.le_of_lt (older middle held), (absurd · absent), ?_, ?_, fun left => .inl ⟨middle, rfl, left⟩⟩
    · rintro _ ⟨⟩
      exact Int.le_refl _
    · rintro _ ⟨⟩ _
      rfl
  · cases held
    exact rowAfter_upserted _ older

lemma recordedRows_present (known : report.contains fingerprint ∨ ∃ before, rows fingerprint = some before) :
    ∃ row, recordedRows report now grace rows fingerprint = some row := by
  unfold recordedRows
  rw [upserts_apply]
  split
  · rename_i missing
    rcases known with contained | ⟨before, held⟩
    · exact absurd contained (by simpa [Report.contains] using missing)
    · exact ⟨_, congrArg (Option.map _) held⟩
  · exact ⟨_, rfl⟩

end rows

lemma admission_later {digest : Digest} (admitted : admission checks report now grace host = .ok (some digest))
    {previous : ScanState} (present : host.scan = some previous) :
    previous.observationRevision < report.observationRevision := by
  unfold admission at admitted
  rw [present] at admitted
  split at admitted
  · cases admitted
  cases encoded : checks.digest report with
  | none =>
    rw [encoded] at admitted
    cases admitted
  | some =>
    rw [encoded] at admitted
    dsimp only at admitted
    repeat' split at admitted
    all_goals first
      | cases admitted; done
      | omega

/-! ## Runs -/

/-- Rows are no newer than the last scan, and were last seen when a report last contained them. -/
structure Sound (host : Host δ) : Prop where
  revisions : ∀ fingerprint row, host.candidates fingerprint = some row →
    ∃ previous, host.scan = some previous ∧ row.observationRevision ≤ previous.observationRevision
  seen : ∀ at_ report, (at_, report) ∈ host.recorded → ∀ fingerprint, report.contains fingerprint →
    ∃ row, host.candidates fingerprint = some row ∧ at_ ≤ row.lastSeenAt

lemma Sound.older (sound : Sound host) {digest : Digest} {fingerprint : Digest}
    (admitted : admission checks report now grace host = .ok (some digest)) :
    Older report (host.candidates fingerprint) := by
  intro before present
  obtain ⟨previous, scanned, revision⟩ := sound.revisions fingerprint before present
  exact Nat.lt_of_le_of_lt revision (admission_later admitted scanned)

lemma Step.report_cases {reply : Except DiscoveryError Reply}
    (step : Step checks host (.report report now grace reply) host') : host' = host ∨
      reply = .ok .recorded ∧ ∃ digest, admission checks report now grace host = .ok (some digest) ∧
        host' = ⟨some (scanState report now grace digest), recordedRows report now grace host.candidates,
          (now, report) :: host.recorded⟩ := by
  cases step with
  | failed => exact .inl rfl
  | report =>
    unfold recordReport
    split
    · exact .inl rfl
    · exact .inl rfl
    · exact .inr ⟨rfl, _, ‹_›, rfl⟩

lemma Sound.step {e : Event δ} (step : Step checks host e host') (sound : Sound host) : Sound host' := by
  cases e with
  | report report now grace reply =>
    rcases step.report_cases with rfl | ⟨_, digest, admitted, rfl⟩
    · exact sound
    constructor
    · intro fingerprint row present
      exact ⟨_, rfl, (recordedRows_after (sound.older admitted) present).revision⟩
    · intro at_ given listed fingerprint contained
      rcases List.mem_cons.mp listed with same | early
      · cases same
        obtain ⟨row, present⟩ := recordedRows_present (.inl contained)
        exact ⟨row, present, (recordedRows_after (sound.older admitted) present).seen contained⟩
      · obtain ⟨before, held, seen⟩ := sound.seen at_ given early fingerprint contained
        obtain ⟨row, present⟩ := recordedRows_present (.inr ⟨before, held⟩)
        exact ⟨row, present, Int.le_trans seen ((recordedRows_after (sound.older admitted) present).later before held)⟩
  | marked =>
    cases step with
    | marked change =>
      constructor
      · intro fingerprint row present
        obtain ⟨before, held, rfl⟩ := Option.map_eq_some_iff.mp present
        exact sound.revisions fingerprint before held
      · intro at_ given listed fingerprint contained
        obtain ⟨row, held, seen⟩ := sound.seen at_ given listed fingerprint contained
        exact ⟨_, congrArg (Option.map _) held, seen⟩

/-- For every run of reports, and of candidates ignored or accepted between them: a report
makes a candidate disappear only if it is recorded, the candidate's source is completed in it
and no report recorded since the grace period contained the candidate; it changes no other
status than discovered, awaiting confirmation or disappeared; and one that is stored already
changes nothing. -/
theorem disappears_unseen {es : List (Event δ)} (run : Run (Step checks) {} es host)
    {reply : Except DiscoveryError Reply} (step : Step checks host (.report report now grace reply) host') :
    (∀ fingerprint, host'.status fingerprint = some .disappeared → host.status fingerprint ≠ some .disappeared →
      reply = .ok .recorded ∧
      (∃ row, host'.candidates fingerprint = some row ∧ ∃ result ∈ effectiveSourceResults report,
        result.status = .completed ∧ row.observation.source = result.source) ∧
      ∀ at_ given, (at_, given) ∈ host'.recorded → now - grace < at_ → ¬ given.contains fingerprint) ∧
    (∀ fingerprint status, host.status fingerprint = some status →
      status ∉ [.discovered, .awaitingConfirmation, .disappeared] → host'.status fingerprint = some status) ∧
    ∀ previous, host.scan = some previous → report.observationRevision = previous.observationRevision →
      checks.digest report = some previous.reportDigest → host' = host := by
  have sound : Sound host := run.invariant Sound Sound.step ⟨nofun, nofun⟩
  have times := sound.step step
  rcases step.report_cases with rfl | ⟨rfl, digest, admitted, rfl⟩
  · exact ⟨fun _ gone shown => absurd gone shown, fun _ _ same _ => same, fun _ _ _ _ => rfl⟩
  refine ⟨?_, ?_, ?_⟩
  · intro fingerprint gone shown
    obtain ⟨row, present, left⟩ := Option.map_eq_some_iff.mp gone
    rcases (recordedRows_after (sound.older admitted) present).gone left with ⟨before, held, same⟩ | ⟨unseen, completed⟩
    · exact absurd ((congrArg (Option.map _) held).trans (congrArg some same)) shown
    refine ⟨rfl, ⟨row, present, completed⟩, ?_⟩
    intro at_ given listed late contained
    obtain ⟨row', held, seen⟩ := times.seen at_ given listed fingerprint contained
    cases held.symm.trans present
    exact absurd (Int.le_trans seen unseen) (Int.not_le.mpr late)
  · intro fingerprint status same settled
    obtain ⟨before, held, rfl⟩ := Option.map_eq_some_iff.mp same
    obtain ⟨row, present⟩ := recordedRows_present (.inr ⟨before, held⟩)
    have after := recordedRows_after (sound.older admitted) present
    exact (congrArg (Option.map _) present).trans (congrArg some (after.settled before held settled))
  · intro previous scanned same _
    have later := admission_later admitted scanned
    omega

def sampleChecks : Checks Unit := ⟨fun _ => true, fun report => some (.ofNat 256 report.observationRevision)⟩

/-- The native source is completed. -/
def sampleReport (revision : Nat) (candidates : List (CandidateObservation Unit)) (now : Instant) : Report Unit where
  agentID := "agent"
  observationRevision := revision
  ruleRevision := 1
  candidates := candidates
  observedAt := now
  ruleAttestation := ⟨1, 0, 60 * minute⟩
  sourceResults := [⟨.native, .completed⟩]

/-- A candidate, and ten minutes later a report without it. -/
def seenOnce : Host Unit :=
  (recordReport sampleChecks (sampleReport 1 [⟨"observation", .native, 7, ()⟩] 0) 0 (10 * minute) {}).2

def unseen : Except DiscoveryError Reply × Host Unit :=
  recordReport sampleChecks (sampleReport 2 [] (10 * minute)) (10 * minute) (10 * minute) seenOnce

theorem disappears_unseen_candidate : seenOnce.status 7 = some .awaitingConfirmation ∧
    unseen.2.status 7 = some .disappeared ∧ unseen.2.recorded.length = 2 ∧
      ∀ at_ given, (at_, given) ∈ unseen.2.recorded → 0 < at_ → ¬ given.contains 7 := by
  have run : Run (Step sampleChecks) {} _ seenOnce := .single (.report {} _ _ _)
  have gone : unseen.2.status 7 = some .disappeared := by decide
  have alone := (disappears_unseen run (.report seenOnce _ _ _)).1 7 gone (by decide)
  exact ⟨by decide, gone, rfl, alone.2.2⟩

end DBPilot.DiscoveryReports
