import Mathlib.Tactic.Lemma

/-!
# Wall-clock times

A time is an instant together with the offset of the zone it is presented in.
Comparison looks at the instant only. Monotonic clock readings are not part of
the value: they never survive an encoding.
-/

namespace DBPilot.WallClock

structure Time where
  /-- Nanoseconds since the zero time, 1 January of year 1 in UTC. -/
  instant : Int
  /-- Seconds east of UTC. -/
  offset : Int
  deriving DecidableEq

namespace Time

def utc (t : Time) : Time := { t with offset := 0 }

def isZero (t : Time) : Bool := t.instant == 0

def equal (t u : Time) : Bool := t.instant == u.instant

def before (t u : Time) : Bool := t.instant < u.instant

@[simp] lemma utc_utc (t : Time) : t.utc.utc = t.utc := rfl

@[simp] lemma utc_instant (t : Time) : t.utc.instant = t.instant := rfl

lemma utc_eq_self {t : Time} (h : t.offset = 0) : t.utc = t := by
  cases t
  simp_all [utc]

end Time
end DBPilot.WallClock
