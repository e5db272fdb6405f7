import DBPilot.Spool.Audit

/-!
# Failing writes

An append may fail while it writes its record; part of the record then stays in
the active segment, behind the records that are there. Recovery cuts such an end
off if it can tell it is torn, but a record written behind it later makes the
whole segment corrupt. Where appends only write behind complete records, and
what a failed append leaves is recognisably torn, every pending batch is
recovered.
-/

namespace DBPilot.Spool

open SegmentedLog Runs

variable {J : Json} {log : Log Record} {s : Store} {c : DataClass} {batch : Batch}

variable {result : Except SpoolError CursorAppendResult}

/-- Disk and memory agree up to ends that recovery cuts off, and no record
carries a cursor. -/
def Recoverable (J : Json) : Process → Prop
  | .up s => (∃ log, Coherent J (.safe J) log s) ∧ ∀ c, ∀ r ∈ s.records c, r.cursor = none
  | .down d => ∃ log, Consistent J (.safe J) log d ∧ ∀ {f r}, Holds log f r → r.cursor = none

end DBPilot.Spool
