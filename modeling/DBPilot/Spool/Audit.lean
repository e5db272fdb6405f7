import DBPilot.Spool.Restart

/-!
# Audit batches

Audit records share segments with records that eviction may remove, but nothing
except their own acknowledgement takes them out of the queue.
-/

namespace DBPilot.Spool

open SegmentedLog Runs

lemma pending_all {s : Store} {c : DataClass} (valid : validClass c = true) :
    s.pending c 0 = .ok ((s.records c).map Record.batch) := by
  have hbatches : (s.records c).map Record.batch = (s.entries c).map Entry.batch := by
    rw [Store.records, List.map_map]
    rfl
  simp [Store.pending, valid, hbatches]

end DBPilot.Spool
