import DBPilot.Jobs.Types
import DBPilot.Lib.Text
import Mathlib.Order.Bounds.Basic

/-!
# Missed occurrences of a schedule

`CoalescedScheduledOccurrences` of `internal/inspection/service.go`: from the occurrence
that was claimed to the last one that is due, by a search over the seconds in between.
The time zones and the cron expressions are the library's.
-/

namespace DBPilot.Inspection

open Jobs (Instant isSpace)

def second : Int := 1000000000

def minute : Int := 60 * second

/-- The zero `time.Time`, in nanoseconds from 1970. -/
def zeroTime : Instant := -62135596800 * second

/-- An instant, and whether it is given in UTC. -/
structure Moment where
  instant : Instant
  utc : Bool

def isUTC (value : Moment) : Bool := value.instant ≠ zeroTime && value.utc

structure Schedule where
  cron : String
  timezone : String

/-- The cron library and the time zone database. -/
class Calendar where
  Location : Type
  Expression : Type
  loadLocation : List Char → Option Location
  parse : String → Option Expression
  /-- The zero time where there is no occurrence. -/
  next : Expression → Location → Instant → Instant

inductive Failure where
  | invalidSchedule
  deriving DecidableEq

def trimSpace (s : List Char) : List Char := ((s.dropWhile isSpace).reverse.dropWhile isSpace).reverse

/-- `strings.Fields`. -/
def fields (s : List Char) : List (List Char) := (s.splitOnP isSpace).filter fun word => !word.isEmpty

section code

variable [Calendar]

def parseSchedule (schedule : Schedule) : Except Failure (Calendar.Expression × Calendar.Location) :=
  let zone := trimSpace schedule.timezone.toList
  if (fields schedule.cron.toList).length ≠ 5 || zone.isEmpty || Text.lower zone = "local".toList then
    .error .invalidSchedule
  else match Calendar.loadLocation zone with
    | none => .error .invalidSchedule
    | some location => match Calendar.parse schedule.cron with
      | none => .error .invalidSchedule
      | some parsed => .ok (parsed, location)

/-- `Time.Unix`. -/
def unix (t : Instant) : Int := t / second

/-- The loop: the last occurrence seen is the one after `low`. -/
def search (next : Instant → Instant) (now : Instant) (low high : Int) (latest : Instant) : Instant :=
  if high - low > 1 then
    let middle := low + (high - low) / 2
    let candidate := next (middle * second)
    if candidate > now then search next now low middle latest else search next now middle high candidate
  else latest
termination_by (high - low).toNat
decreasing_by all_goals omega

def coalescedScheduledOccurrences (schedule : Schedule) (claimed now : Moment) : Except Failure (Instant × Instant) :=
  if !isUTC claimed || !isUTC now || claimed.instant > now.instant then .error .invalidSchedule
  else match parseSchedule schedule with
    | .error err => .error err
    | .ok (parsed, location) =>
      let next := Calendar.next parsed location
      if next (claimed.instant - minute) ≠ claimed.instant then .error .invalidSchedule
      else
        let latest := search next now.instant (unix claimed.instant - 1) (unix now.instant) claimed.instant
        let following := next now.instant
        if latest < claimed.instant || latest > now.instant || following ≤ now.instant then .error .invalidSchedule
        else .ok (latest, following)

end code

/-! ## Occurrences -/

/-- The occurrences of a schedule, and `next` as the first of them after an instant. -/
structure Occurrences (next : Int → Int) (occurs : Int → Prop) : Prop where
  least : ∀ t, IsLeast { o | occurs o ∧ t < o } (next t)
  whole : ∀ o, occurs o → second ∣ o
  apart : ∀ a b, occurs a → occurs b → a < b → a + minute ≤ b

namespace Occurrences

variable {next : Int → Int} {occurs : Int → Prop} {now claimed low high : Int}

section

variable (h : Occurrences next occurs)
include h

lemma occurs_next (t : Int) : occurs (next t) := (h.least t).1.1

lemma lt_next (t : Int) : t < next t := (h.least t).1.2

lemma next_le {o t : Int} (there : occurs o) (later : t < o) : next t ≤ o :=
  (h.least t).2 ⟨there, later⟩

/-- An occurrence is the next one after any instant less than a minute before. -/
lemma next_eq (there : occurs claimed) {t : Int} (before : t < claimed) (near : claimed - minute ≤ t) :
    next t = claimed := by
  have first := h.next_le there before
  rcases Int.lt_or_eq_of_le first with earlier | same
  · have apart := h.apart _ _ (h.occurs_next t) there earlier
    have later := h.lt_next t
    omega
  · exact same

/-- Nothing occurs within the second of `now` after its start. -/
lemma now_lt_next (now : Int) : now < next (unix now * second) := by
  have later := h.lt_next (unix now * second)
  obtain ⟨n, same⟩ := h.whole _ (h.occurs_next (unix now * second))
  unfold unix second at *
  omega

/-- Between two seconds that follow each other lies the last occurrence that is due. -/
lemma greatest_of_adjacent (due : next (low * second) ≤ now) (beyond : now < next ((low + 1) * second)) :
    IsGreatest { o | occurs o ∧ o ≤ now } (next (low * second)) := by
  refine ⟨⟨h.occurs_next _, due⟩, ?_⟩
  rintro o ⟨there, before⟩
  by_contra later
  have first := h.lt_next (low * second)
  obtain ⟨n, same⟩ := h.whole _ (h.occurs_next (low * second))
  have reached : (low + 1) * second < o := by
    unfold second at *
    omega
  have missed := h.next_le there reached
  omega

/-- The search keeps `next low ≤ now < next high`, and ends with adjacent seconds. -/
theorem search_greatest (ordered : low < high) (due : next (low * second) ≤ now)
    (beyond : now < next (high * second)) :
    IsGreatest { o | occurs o ∧ o ≤ now } (search next now low high (next (low * second))) := by
  generalize same : next (low * second) = latest at due ⊢
  fun_induction search next now low high latest with
  | case1 low high latest wide middle candidate after ih => exact ih (by omega) after same due
  | case2 low high latest wide middle candidate after ih => exact ih (by omega) beyond rfl (not_lt.mp after)
  | case3 low high latest narrow =>
    obtain rfl : high = low + 1 := by omega
    rw [← same] at due ⊢
    exact h.greatest_of_adjacent due beyond

end

end Occurrences

section result

variable [Calendar]

/-- However many occurrences were missed, the last one that is due and the first one after
now are found. -/
theorem coalesced_occurrences {schedule : Schedule} {parsed : Calendar.Expression} {location : Calendar.Location}
    (valid : parseSchedule schedule = .ok (parsed, location)) {occurs : Instant → Prop}
    (library : Occurrences (Calendar.next parsed location) occurs) {claimed now : Moment}
    (claimedUTC : isUTC claimed = true) (nowUTC : isUTC now = true) (there : occurs claimed.instant)
    (due : claimed.instant ≤ now.instant) :
    ∃ latest following, coalescedScheduledOccurrences schedule claimed now = .ok (latest, following) ∧
      IsGreatest { o | occurs o ∧ o ≤ now.instant } latest ∧ IsLeast { o | occurs o ∧ now.instant < o } following := by
  obtain ⟨claimed, utc⟩ := claimed
  obtain ⟨now, utc'⟩ := now
  dsimp only at there due
  have minuteBefore : Calendar.next parsed location (claimed - minute) = claimed :=
    library.next_eq there (by unfold minute second; omega) (Int.le_refl _)
  have whole : unix claimed * second = claimed := Int.ediv_mul_cancel (library.whole claimed there)
  have start : Calendar.next parsed location ((unix claimed - 1) * second) = claimed := by
    refine library.next_eq there ?_ ?_ <;> unfold minute second at * <;> omega
  have seconds : unix claimed - 1 < unix now := by
    have ordered : unix claimed ≤ unix now := Int.ediv_le_ediv (by decide) due
    omega
  have latest := library.search_greatest seconds (start.trans_le due) (library.now_lt_next now)
  rw [start] at latest
  refine ⟨_, _, ?_, latest, library.least now⟩
  have early : claimed ≤ search (Calendar.next parsed location) now (unix claimed - 1) (unix now) claimed :=
    latest.2 ⟨there, due⟩
  have late := latest.1.2
  have following := library.lt_next now
  simp [coalescedScheduledOccurrences, claimedUTC, nowUTC, not_lt.mpr due, valid, minuteBefore, not_lt.mpr early,
    not_lt.mpr late, not_le.mpr following]

end result

/-! ## Every minute -/

@[reducible] def everyMinute : Calendar where
  Location := Unit
  Expression := Unit
  loadLocation _ := some ()
  parse _ := some ()
  next _ _ t := (t / minute + 1) * minute

lemma everyMinute_occurrences : Occurrences (fun t => (t / minute + 1) * minute) (fun o => minute ∣ o) where
  least t := by
    refine ⟨⟨Dvd.intro_left _ rfl, ?_⟩, ?_⟩
    · unfold minute second
      omega
    · rintro _ ⟨⟨n, rfl⟩, later⟩
      unfold minute second at *
      omega
  whole o there := dvd_trans (Dvd.intro_left _ rfl) there
  apart a b first second earlier := by
    obtain ⟨n, rfl⟩ := first
    obtain ⟨m, rfl⟩ := second
    unfold minute Inspection.second at *
    omega

/-- Sixty occurrences missed. -/
theorem coalesced_occurrences_hourly :
    ∃ latest following,
      @coalescedScheduledOccurrences everyMinute ⟨"* * * * *", "UTC"⟩ ⟨0, true⟩ ⟨3600 * second + 5, true⟩ =
        .ok (latest, following) ∧
      IsGreatest { o | minute ∣ o ∧ o ≤ 3600 * second + 5 } latest ∧
      IsLeast { o | minute ∣ o ∧ 3600 * second + 5 < o } following :=
  @coalesced_occurrences everyMinute ⟨"* * * * *", "UTC"⟩ () () (by rfl) _ everyMinute_occurrences ⟨0, true⟩
    ⟨3600 * second + 5, true⟩ (by decide) (by decide) (dvd_zero _) (by decide)

end DBPilot.Inspection
