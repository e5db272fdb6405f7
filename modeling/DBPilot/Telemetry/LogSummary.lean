import DBPilot.Inspection.Schedule
import DBPilot.Lib.FiniteMap
import Mathlib.Data.Finset.Card

/-!
# Log summaries

`LogSummaryIndex` of `internal/telemetry/log_summary.go`: counters of log records by
second, source, severity and category. A text is the list of its characters, an invalid
byte read as the replacement character.
-/

namespace DBPilot.LogSummaries

open FiniteMaps
open Inspection (minute zeroTime unix trimSpace)
open Jobs (Instant)

abbrev Chars := List Char

def maxLogSummarySources : Nat := 64

def maxLogSummaryCategories : Nat := 16

def maximumLogSummaryWindow : Int := 60 * minute

/-- In the order of their texts. -/
inductive Severity where
  | critical
  | debug
  | error
  | info
  | warning
  deriving DecidableEq

inductive Value where
  | str (text : Chars)
  | other

structure Record where
  severityNumber : Int
  severityText : Chars
  body : Value
  attributes : List (String × Value)
  timestamp : BitVec 64
  observedTimestamp : BitVec 64

structure ResourceLogs where
  attributes : List (String × Value)
  scopes : List (List Record)

def normalizedSeverity (number : Int) (text : Chars) : Option Severity :=
  if 21 ≤ number ∧ number ≤ 24 then some .critical
  else if 17 ≤ number ∧ number ≤ 20 then some .error
  else if 13 ≤ number ∧ number ≤ 16 then some .warning
  else if 9 ≤ number ∧ number ≤ 12 then some .info
  else if 1 ≤ number ∧ number ≤ 8 then some .debug
  else if number ≠ 0 then none
  else
    let value := Text.lower (trimSpace text)
    let begins (words : List String) := words.any fun word => (Text.strip word.toList value).isSome
    if begins ["fatal", "critical", "emerg", "alert"] then some .critical
    else if begins ["err"] then some .error
    else if begins ["warn"] then some .warning
    else if begins ["info", "notice"] then some .info
    else if begins ["debug", "trace"] then some .debug
    else none

def normalizedRecordSeverity (record : Record) : Option Severity :=
  let severity := normalizedSeverity record.severityNumber record.severityText
  match record.body with
  | .other => severity
  | .str body =>
    if severity.isSome || record.severityNumber ≠ 0 || !(trimSpace record.severityText).isEmpty then severity
    else normalizedSeverity 0 body

/-- The unsigned nanoseconds of a record are read as signed ones. -/
def logObservedAt (record : Record) (fallback : Instant) : Instant :=
  if record.timestamp ≠ 0 then record.timestamp.toInt
  else if record.observedTimestamp ≠ 0 then record.observedTimestamp.toInt
  else fallback

def summaryAttribute (attributes : List (String × Value)) (key : String) : Option Chars :=
  match attributes.lookup key with
  | some (.str value) => if (trimSpace value).isEmpty then none else some value
  | _ => none

def safeSummaryIdentifier (c : Char) : Bool := Text.isLetter c || Text.isDigit c || c ∈ ['_', '.', ':', '-']

/-- A run of unsafe characters becomes one underscore. -/
def replaceUnsafe : Bool → Chars → Chars
  | _, [] => []
  | inRun, c :: rest =>
    if safeSummaryIdentifier c then c :: replaceUnsafe false rest
    else if inRun then replaceUnsafe true rest
    else '_' :: replaceUnsafe true rest

def sanitizeSummaryIdentifier (value : Chars) (maximum : Nat) : Chars :=
  let replaced := (replaceUnsafe false (trimSpace value)).dropWhile (· = '_')
  (replaced.reverse.dropWhile (· = '_')).reverse.take maximum

def general : Chars := "general".toList

def oom : Chars := "oom".toList

/-- Two categories do not count against the limit. -/
def exempt (category : Chars) : Bool := category = general || category = oom

def logCategory (record : Record) : Chars :=
  let killed := match record.body with
    | .other => false
    | .str body => ["out of memory", "oom-killer", "oom killer", "killed process"].any fun marker =>
      Text.contains marker.toList (Text.lower body)
  if killed then oom
  else (["dbpilot.log.category", "event.category"].findSome? fun key => do
    let sanitized := sanitizeSummaryIdentifier (Text.lower (← summaryAttribute record.attributes key)) 32
    if sanitized.isEmpty then none else some sanitized).getD general

structure Key where
  second : Int
  source : Chars
  severity : Severity
  category : Chars
  deriving DecidableEq

structure Counter where
  count : UInt64 := 0
  observedAt : Instant := zeroTime

structure LogSummaryIndex where
  startedAt : Instant
  counters : FiniteMap Key Counter := .empty
  invalidMetadata : UInt64 := 0
  observerFailures : UInt64 := 0

/-- The variables of the loop over the records of a resource. -/
structure Progress where
  index : LogSummaryIndex
  knownSources : Finset Chars
  knownCategories : Finset Chars

structure LogSummary where
  sourceID : Chars
  severity : Severity
  category : Chars
  count : UInt64 := 0
  observedAt : Instant := zeroTime

namespace LogSummaryIndex

variable (index : LogSummaryIndex)

def keys : List Key := index.counters.entries.map Prod.fst

def pruneLocked (cutoff : Instant) : LogSummaryIndex :=
  { index with counters := index.counters.filter fun counter => cutoff ≤ counter.observedAt }

def sourcesLocked : Finset Chars := (index.keys.map Key.source).toFinset

/-- The categories that the counters of a source mention. -/
def categories (source : Chars) : Finset Chars :=
  ((index.keys.filter fun key => key.source = source).map Key.category).toFinset

def categoriesLocked (source : Chars) : Finset Chars :=
  (index.categories source).filter fun category => exempt category = false

def reject (records : Nat) : LogSummaryIndex :=
  { index with invalidMetadata := index.invalidMetadata + .ofNat records }

def count (key : Key) (observedAt : Instant) : LogSummaryIndex :=
  let counter := (index.counters.get key).getD {}
  { index with counters := index.counters.set key ⟨counter.count + 1, max counter.observedAt observedAt⟩ }

end LogSummaryIndex

/-- The body of the innermost loop. Its flag `knownSource` says that the set has the source. -/
def observeRecord (now : Instant) (source : Chars) (p : Progress) (record : Record) : Progress :=
  let observedAt := logObservedAt record now
  let rejected := { p with index := p.index.reject 1 }
  match normalizedRecordSeverity record with
  | none => rejected
  | some severity =>
    if observedAt < p.index.startedAt ∨ observedAt < now - maximumLogSummaryWindow ∨ now + minute < observedAt then
      rejected
    else
      let knownSources := insert source p.knownSources
      let category := logCategory record
      let index := p.index.count ⟨unix observedAt, source, severity, category⟩ observedAt
      if exempt category then ⟨index, knownSources, p.knownCategories⟩
      else if category ∉ p.knownCategories ∧ maxLogSummaryCategories - 2 ≤ p.knownCategories.card then
        { rejected with knownSources }
      else ⟨index, knownSources, insert category p.knownCategories⟩

/-- The body of the loop over the resources; the second component are the known sources. -/
def observeResource (now : Instant) (state : LogSummaryIndex × Finset Chars) (logs : ResourceLogs) :
    LogSummaryIndex × Finset Chars :=
  let (index, knownSources) := state
  let records := logs.scopes.flatten
  let rejected := (index.reject records.length, knownSources)
  match summaryAttribute logs.attributes "dbpilot.source.id" with
  | none => rejected
  | some value =>
    let source := sanitizeSummaryIdentifier value 64
    if source.isEmpty then rejected
    else if source ∉ knownSources ∧ maxLogSummarySources ≤ knownSources.card then rejected
    else
      let p := records.foldl (observeRecord now source) ⟨index, knownSources, index.categoriesLocked source⟩
      (p.index, p.knownSources)

def LogSummary.less (a b : LogSummary) : Bool :=
  if a.sourceID ≠ b.sourceID then a.sourceID < b.sourceID
  else if a.severity ≠ b.severity then a.severity.ctorIdx < b.severity.ctorIdx
  else a.category < b.category

/-- One counter more in the summary of its source, severity and category. -/
def aggregate (aggregated : FiniteMap (Chars × Severity × Chars) LogSummary) (entry : Key × Counter) :
    FiniteMap (Chars × Severity × Chars) LogSummary :=
  let (key, counter) := entry
  let group := (key.source, key.severity, key.category)
  let summary := (aggregated.get group).getD ⟨key.source, key.severity, key.category, 0, zeroTime⟩
  aggregated.set group { summary with
    count := summary.count + counter.count
    observedAt := max summary.observedAt counter.observedAt }

namespace LogSummaryIndex

variable (index : LogSummaryIndex)

/-- A call with an ended context does nothing. -/
def observe (ended : Bool) (now : Instant) (logs : List ResourceLogs) : LogSummaryIndex :=
  if ended then index
  else
    let pruned := index.pruneLocked (now - maximumLogSummaryWindow)
    (logs.foldl (observeResource now) (pruned, pruned.sourcesLocked)).1

def snapshot (now : Instant) (window : Int) : List LogSummary × LogSummaryIndex :=
  if window ≤ 0 then ([], index)
  else
    let start := now - min window maximumLogSummaryWindow
    let pruned := index.pruneLocked (now - maximumLogSummaryWindow)
    let shown := pruned.counters.entries.filter fun entry =>
      start ≤ entry.2.observedAt ∧ entry.2.observedAt ≤ now ∧ index.startedAt ≤ entry.2.observedAt
    let aggregated := shown.foldl aggregate .empty
    ((aggregated.entries.map Prod.snd).insertionSort fun a b => ¬ b.less a, pruned)

end LogSummaryIndex

inductive Call where
  | observe (ended : Bool) (now : Instant) (logs : List ResourceLogs)
  | snapshot (now : Instant) (window : Int)
  | recordObserverFailure

def perform (index : LogSummaryIndex) : Call → LogSummaryIndex
  | .observe ended now logs => index.observe ended now logs
  | .snapshot now window => (index.snapshot now window).2
  | .recordObserverFailure => { index with observerFailures := index.observerFailures + 1 }

section bounds

variable {index index' : LogSummaryIndex} {known : Finset Chars} {categories : Chars → Finset Chars}
  {key : Key} {p : Progress} {source category : Chars} {t now : Instant} {record : Record}

lemma mem_categories :
    category ∈ index.categories source ↔ ∃ key ∈ index.keys, key.source = source ∧ key.category = category := by
  simp [LogSummaryIndex.categories, and_assoc]

/-- Every counter is of a known source and, unless it is exempt, of a known category of the
source, and what is known is within the limits. -/
structure Bounded (index : LogSummaryIndex) (known : Finset Chars) (categories : Chars → Finset Chars) : Prop where
  sources : known.card ≤ maxLogSummarySources
  limit : ∀ source, (categories source).card ≤ maxLogSummaryCategories - 2
  covers : ∀ key ∈ index.keys, key.source ∈ known ∧ (exempt key.category = false → key.category ∈ categories key.source)

namespace Bounded

variable (bounded : Bounded index known categories)
include bounded

lemma mono (fewer : index'.keys ⊆ index.keys) : Bounded index' known categories :=
  ⟨bounded.sources, bounded.limit, fun key listed => bounded.covers key (fewer listed)⟩

lemma prune : Bounded (index.pruneLocked t) known categories :=
  bounded.mono (List.map_subset _ (List.filter_subset_self _))

/-- The sources that a call computes anew are within the limit. -/
lemma resource : Bounded index index.sourcesLocked categories where
  sources := by
    refine (Finset.card_le_card ?_).trans bounded.sources
    intro source mentioned
    obtain ⟨key, listed, rfl⟩ := List.mem_map.mp (List.mem_toFinset.mp mentioned)
    exact (bounded.covers key listed).1
  limit := bounded.limit
  covers key listed := ⟨List.mem_toFinset.mpr (List.mem_map_of_mem listed), (bounded.covers key listed).2⟩

/-- So are the categories that it computes anew for a source. -/
lemma recategorize : Bounded index known index.categoriesLocked where
  sources := bounded.sources
  limit source := by
    refine (Finset.card_le_card ?_).trans (bounded.limit source)
    intro category mentioned
    obtain ⟨mentioned, named⟩ := Finset.mem_filter.mp mentioned
    obtain ⟨key, listed, rfl, rfl⟩ := mem_categories.mp mentioned
    exact (bounded.covers key listed).2 named
  covers key listed :=
    ⟨(bounded.covers key listed).1, fun named => Finset.mem_filter.mpr ⟨mem_categories.mpr ⟨key, listed, rfl, rfl⟩, named⟩⟩

/-- A counter of a known source, under a category that is exempt or known by then. -/
lemma count {known' : Finset Chars} {categories' : Chars → Finset Chars} (sources : known'.card ≤ maxLogSummarySources)
    (limit : ∀ source, (categories' source).card ≤ maxLogSummaryCategories - 2) (more : known ⊆ known')
    (grows : ∀ source, categories source ⊆ categories' source) (seen : key.source ∈ known')
    (fits : exempt key.category = false → key.category ∈ categories' key.source) :
    Bounded (index.count key t) known' categories' := by
  refine ⟨sources, limit, ?_⟩
  intro k listed
  obtain ⟨entry, stored, rfl⟩ := List.mem_map.mp listed
  rcases FiniteMap.mem_set.mp stored with rfl | ⟨old, _⟩
  · exact ⟨seen, fits⟩
  · obtain ⟨known, covered⟩ := bounded.covers entry.1 (List.mem_map_of_mem old)
    exact ⟨more known, fun named => grows _ (covered named)⟩

/-- The exempt categories come on top of those that are counted. -/
lemma card_categories : (index.categories source).card ≤ maxLogSummaryCategories := by
  have covered : index.categories source ⊆ {general, oom} ∪ categories source := by
    intro category mentioned
    obtain ⟨key, listed, rfl, rfl⟩ := mem_categories.mp mentioned
    cases named : exempt key.category with
    | false => exact Finset.mem_union_right _ ((bounded.covers key listed).2 named)
    | true => exact Finset.mem_union_left _ (by simpa [exempt] using named)
  calc (index.categories source).card
    _ ≤ ({general, oom} ∪ categories source).card := Finset.card_le_card covered
    _ ≤ _ + (categories source).card := Finset.card_union_le _ _
    _ ≤ 2 + (maxLogSummaryCategories - 2) := Nat.add_le_add Finset.card_le_two (bounded.limit source)

end Bounded

/-- What the loop over the records of a source keeps: there is room for the source. -/
def Progress.Sound (source : Chars) (p : Progress) : Prop :=
  (insert source p.knownSources).card ≤ maxLogSummarySources ∧
    ∃ categories, categories source = p.knownCategories ∧ Bounded p.index p.knownSources categories

lemma Progress.Sound.observeRecord (sound : p.Sound source) : (observeRecord now source p record).Sound source := by
  obtain ⟨room, categories, own, bounded⟩ := sound
  have rejected : Bounded (p.index.reject 1) p.knownSources categories := bounded.mono (List.Subset.refl _)
  have room' : (insert source (insert source p.knownSources)).card ≤ maxLogSummarySources := by
    rwa [Finset.insert_idem]
  unfold LogSummaries.observeRecord
  dsimp only
  split
  · exact ⟨room, categories, own, rejected⟩
  split
  · exact ⟨room, categories, own, rejected⟩
  split
  · rename_i free
    refine ⟨room', categories, own, bounded.count room bounded.limit (Finset.subset_insert _ _) (fun _ => subset_rfl)
      (Finset.mem_insert_self _ _) ?_⟩
    intro named
    exact absurd (free.symm.trans named) nofun
  split
  · refine ⟨room', categories, own, room, bounded.limit, ?_⟩
    intro key listed
    exact (rejected.covers key listed).imp_left (Finset.mem_insert_of_mem ·)
  · rename_i fits
    refine ⟨room', Function.update categories source (insert (logCategory record) p.knownCategories),
      Function.update_self .., bounded.count room ?_ (Finset.subset_insert _ _) ?_ (Finset.mem_insert_self _ _) ?_⟩
    · intro other
      rw [Function.update_apply]
      split
      · -- A category that is not known yet finds fewer than fourteen others.
        by_cases old : logCategory record ∈ p.knownCategories
        · rw [Finset.card_insert_of_mem old, ← own]
          exact bounded.limit source
        · rw [Finset.card_insert_of_notMem old]
          exact Nat.lt_of_not_le fun full => fits ⟨old, full⟩
      · exact bounded.limit other
    · intro other
      rw [Function.update_apply]
      split
      · rename_i same
        rw [same, own]
        exact Finset.subset_insert _ _
      · exact subset_rfl
    · intro _
      rw [Function.update_self]
      exact Finset.mem_insert_self _ _

lemma Bounded.observeResource {logs : ResourceLogs} (bounded : Bounded index known categories) :
    ∃ categories, Bounded (observeResource now (index, known) logs).1 (observeResource now (index, known) logs).2
      categories := by
  have rejected : Bounded (index.reject logs.scopes.flatten.length) known categories :=
    bounded.mono (List.Subset.refl _)
  unfold LogSummaries.observeResource
  dsimp only
  split
  · exact ⟨_, rejected⟩
  split
  · exact ⟨_, rejected⟩
  split
  · exact ⟨_, rejected⟩
  · rename_i value _ _ full
    have room : (insert (sanitizeSummaryIdentifier value 64) known).card ≤ maxLogSummarySources := by
      by_cases seen : sanitizeSummaryIdentifier value 64 ∈ known
      · rw [Finset.card_insert_of_mem seen]
        exact bounded.sources
      · rw [Finset.card_insert_of_notMem seen]
        exact Nat.lt_of_not_le fun high => full ⟨seen, high⟩
    have start : Progress.Sound (sanitizeSummaryIdentifier value 64) ⟨index, known, _⟩ :=
      ⟨room, index.categoriesLocked, rfl, bounded.recategorize⟩
    obtain ⟨_, categories, _, bounded⟩ := List.foldlRecOn _ _ start fun _ sound _ _ => sound.observeRecord
    exact ⟨categories, bounded⟩

/-- Some sources and categories within the limits cover the counters. -/
def Within (index : LogSummaryIndex) : Prop := ∃ known categories, Bounded index known categories

lemma Within.perform {call : Call} (within : Within index) : Within (perform index call) := by
  obtain ⟨known, categories, bounded⟩ := within
  cases call with
  | observe ended now logs =>
    cases ended with
    | true => exact ⟨known, categories, bounded⟩
    | false =>
      let covered (state : LogSummaryIndex × Finset Chars) := ∃ categories, Bounded state.1 state.2 categories
      have start : covered (index.pruneLocked (now - maximumLogSummaryWindow), _) := ⟨categories, bounded.prune.resource⟩
      exact ⟨_, List.foldlRecOn (motive := covered) logs _ start fun _ ⟨_, bounded⟩ _ _ => bounded.observeResource⟩
  | snapshot now window =>
    refine ⟨known, categories, ?_⟩
    show Bounded (index.snapshot now window).2 known categories
    unfold LogSummaryIndex.snapshot
    split
    · exact bounded
    · exact bounded.prune
  | recordObserverFailure => exact ⟨known, categories, bounded.mono (List.Subset.refl _)⟩

/-- The counters mention at most 64 sources, and at most 16 categories of each. -/
theorem summary_cardinality (startedAt : Instant) (calls : List Call) :
    let index := calls.foldl perform { startedAt }
    index.sourcesLocked.card ≤ 64 ∧ ∀ source, (index.categories source).card ≤ 16 := by
  have start : Within { startedAt } := ⟨∅, fun _ => ∅, Nat.zero_le _, fun _ => Nat.zero_le _, nofun⟩
  obtain ⟨known, categories, bounded⟩ := List.foldlRecOn (motive := Within) calls perform start
    fun _ within _ _ => within.perform
  exact ⟨bounded.resource.sources, fun _ => bounded.card_categories⟩

end bounds

end DBPilot.LogSummaries
