import DBPilot.Lib.LengthPrefix
import DBPilot.Plugins.State

/-!
# The IDs of plugin metric batches

The gateway names a batch after its assignment, configuration revision, template,
instance and sequence, joined with dashes. The spool and the ingest service take two
batches of one name for one batch. Dashes are legal in the three identifiers, so two
batches of one name are the same just when the dashes of their assignments and of their
templates are equally many.
-/

namespace DBPilot.Gateway

def identifier (value : String) : Bool := Plugins.resourcePattern value

def decimal (n : UInt64) : List Char := Nat.toDigits 10 n.toNat

/-- What a batch is named after, with the identifiers that the gateway accepts. -/
structure BatchKey where
  assignmentID : String
  configurationRevision : UInt64
  templateID : String
  instanceID : String
  sequence : UInt64
  assignment_ok : identifier assignmentID = true
  template_ok : identifier templateID = true
  instance_ok : identifier instanceID = true
  deriving DecidableEq

/-- `plugin-metrics-v1-%s-%d-%s-%s-%d`. -/
def canonicalBatchID (key : BatchKey) : String :=
  String.ofList ("plugin-metrics-v1-".toList ++ (key.assignmentID.toList ++ '-' ::
    (decimal key.configurationRevision ++ '-' :: (key.templateID.toList ++ '-' ::
      (key.instanceID.toList ++ '-' :: decimal key.sequence)))))

def dashes (text : List Char) : Nat := text.count '-'

lemma dashes_decimal (n : UInt64) : dashes (decimal n) = 0 := by
  refine List.count_eq_zero.mpr ?_
  intro digit
  have range := LengthPrefix.digit_range digit
  revert range
  decide

lemma decimal_injective : Function.Injective decimal := by
  intro n m same
  apply UInt64.toNat_inj.mp
  rw [← @Nat.ofDigitChars_ten_toDigits n.toNat, ← @Nat.ofDigitChars_ten_toDigits m.toNat]
  exact congrArg _ same

/-- Cutting the dashes off the end: the text after the last one is a number. -/
lemma dashes_before_decimal {text : List Char} {n : UInt64} :
    dashes (text ++ '-' :: decimal n) = dashes text + 1 := by
  have none_after := dashes_decimal n
  unfold dashes at none_after ⊢
  rw [List.count_append, List.count_cons_self, none_after]

theorem batchID_injective_iff (key other : BatchKey) :
    key = other ↔ canonicalBatchID key = canonicalBatchID other ∧
      dashes key.assignmentID.toList = dashes other.assignmentID.toList ∧
      dashes key.templateID.toList = dashes other.templateID.toList := by
  constructor
  · rintro rfl
    exact ⟨rfl, rfl, rfl⟩
  · rintro ⟨same, assignments, templates⟩
    have joined := List.append_cancel_left (String.ofList_injective same)
    -- Each part ends at a dash with as many dashes before it on both sides.
    obtain ⟨assignment, rest⟩ := LengthPrefix.separated_inj_of_count assignments joined
    obtain ⟨revision, rest⟩ := LengthPrefix.separated_inj_of_count
      ((dashes_decimal _).trans (dashes_decimal _).symm) rest
    obtain ⟨template, rest⟩ := LengthPrefix.separated_inj_of_count templates rest
    have instances : dashes key.instanceID.toList = dashes other.instanceID.toList := by
      have total := congrArg dashes rest
      rw [dashes_before_decimal, dashes_before_decimal] at total
      exact Nat.succ.inj total
    obtain ⟨inst, sequence⟩ := LengthPrefix.separated_inj_of_count instances rest
    obtain ⟨assignmentID, configurationRevision, templateID, instanceID, sequenceNumber, _, _, _⟩ := key
    cases other
    obtain rfl := String.toList_injective assignment
    obtain rfl := decimal_injective revision
    obtain rfl := String.toList_injective template
    obtain rfl := String.toList_injective inst
    obtain rfl := decimal_injective sequence
    rfl

def diskKey : BatchKey :=
  ⟨"a1", 1, "disk-io", "db1", 1, by decide +kernel, by decide +kernel, by decide +kernel⟩

def ioKey : BatchKey :=
  ⟨"a1", 1, "disk", "io-db1", 1, by decide +kernel, by decide +kernel, by decide +kernel⟩

/-- A dash of one template belongs to the instance of the other batch. -/
theorem batchID_shared : diskKey ≠ ioKey ∧ canonicalBatchID diskKey = canonicalBatchID ioKey := by
  refine ⟨?_, by decide +kernel⟩
  intro same
  have templates : "disk-io" = "disk" := congrArg BatchKey.templateID same
  revert templates
  decide +kernel

end DBPilot.Gateway
