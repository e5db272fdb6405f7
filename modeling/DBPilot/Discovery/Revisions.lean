import DBPilot.Inspection.Schedule
import DBPilot.Lib.LengthPrefix
import DBPilot.Lib.Threads
import DBPilot.Spool.Types

/-!
# Durable discovery revisions

`FileRevisionStore` of `internal/agent/discovery/revision_store.go`, on a file system
that is not Windows'. Every file operation is one command. It may fail, and the process
may stop after it; a file that was not synced then keeps some front part of its text.
-/

namespace DBPilot.Discovery

open Programs Runs
open Threads (Only only_bind only_perform)
open Inspection (trimSpace)
open Jobs (isSpace)
open Spool (parseUint)

inductive RevisionError where
  | context
  | exhausted
  | invalidState
  | io
  deriving DecidableEq

inductive Slot where
  | a
  | b
  deriving DecidableEq

def Slot.other : Slot → Slot
  | .a => .b
  | .b => .a

inductive Path where
  | slot (slot : Slot)
  | temporary (slot : Slot)
  deriving DecidableEq

structure File where
  text : List Char
  /-- Whether it was synced since it was last written. -/
  synced : Bool
  deriving DecidableEq

abbrev Disk := Path → Option File

/-- The text of `"%d\n"`. -/
def decimalLine (n : Nat) : List Char := Nat.toDigits 10 n ++ ['\n']

def readRevision (file : Option File) : Except RevisionError (Option Nat) :=
  match file with
  | none => .ok none
  | some file =>
    if 32 < (String.ofList file.text).utf8ByteSize then .error .invalidState
    else match parseUint (String.ofList (trimSpace file.text)) with
      | none => .error .invalidState
      | some value => if value = 0 then .error .invalidState else .ok (some value)

/-- The loop of `NewFileRevisionStore` over the two slots. -/
structure Loading where
  revision : Nat
  validSlots : Nat
  invalidSlot : Option RevisionError

def Loading.next (loading : Loading) : Except RevisionError (Option Nat) → Loading
  | .error e => { loading with invalidSlot := some e }
  | .ok none => loading
  | .ok (some value) => { loading with
      revision := if loading.revision < value then value else loading.revision
      validSlots := loading.validSlots + 1 }

def newFileRevisionStore (disk : Disk) : Except RevisionError Nat :=
  let loading := ((⟨0, 0, none⟩ : Loading).next (readRevision (disk (.slot .a)))).next (readRevision (disk (.slot .b)))
  match loading.validSlots, loading.invalidSlot with
  | 0, some e => .error e
  | _, _ => .ok loading.revision

/-! ## File operations -/

inductive Command where
  /-- Whether the context is done. -/
  | cancelled
  | read (slot : Slot)
  | openTruncated (slot : Slot)
  | createExclusive (path : Path)
  | write (path : Path) (text : List Char)
  | sync (path : Path)
  | close
  | remove (path : Path)
  | rename (slot : Slot)
  | syncParentDirectory

@[reducible] def Reply : Command → Type
  | .read _ => Option File
  | _ => Bool

/-- How an operation ends: whether it succeeds, whether the process stops after it, and
how much an unfinished write or a stop leaves of a text. -/
structure Answer where
  ok : Bool := true
  stop : Bool := false
  kept : Path → Nat := fun _ => 0

/-- What a stop leaves of a file. -/
def File.crashed (kept : Nat) (file : File) : File :=
  if file.synced then file else ⟨file.text.take kept, true⟩

def Disk.crashed (kept : Path → Nat) (disk : Disk) : Disk := fun path => (disk path).map (File.crashed (kept path))

def effect (answer : Answer) (disk : Disk) : (command : Command) → Reply command × Disk
  | .cancelled => (!answer.ok, disk)
  | .read slot => (disk (.slot slot), disk)
  | .openTruncated slot =>
    (answer.ok, if answer.ok then Function.update disk (.slot slot) (some ⟨[], false⟩) else disk)
  | .createExclusive path =>
    if answer.ok && (disk path).isNone then (true, Function.update disk path (some ⟨[], false⟩)) else (false, disk)
  | .write path text =>
    (answer.ok, Function.update disk path (some ⟨if answer.ok then text else text.take (answer.kept path), false⟩))
  | .sync path =>
    (answer.ok, if answer.ok then Function.update disk path ((disk path).map fun file => ⟨file.text, true⟩) else disk)
  | .close => (answer.ok, disk)
  | .remove path => (answer.ok, if answer.ok then Function.update disk path none else disk)
  | .rename slot =>
    (answer.ok, if answer.ok then
      Function.update (Function.update disk (.slot slot) (disk (.temporary slot))) (.temporary slot) none
      else disk)
  | .syncParentDirectory => (answer.ok, disk)

def handle (disk : Disk) (command : Command) (answer : Answer) : Option (Reply command) × Disk :=
  let (reply, disk) := effect answer disk command
  if answer.stop then (none, disk.crashed answer.kept) else (some reply, disk)

def fits (_ : Disk) (command : Command) (_ : Option (Reply command)) (_ : Disk) : Bool := true

abbrev moves : Moves Disk Command Reply := Handled handle fits

/-! ## The calls -/

def slotOf (revision : Nat) : Slot := if revision % 2 = 0 then .b else .a

/-- The result of writing, syncing and closing a file that is open. -/
def writeLine (path : Path) (value : Nat) : Prog Command Reply Bool := do
  let written ← perform (.write path (decimalLine value))
  let synced ← perform (.sync path)
  let closed ← perform .close
  return written && synced && closed

def next (revision : Nat) : Prog Command Reply (Except RevisionError Nat) := do
  if ← perform .cancelled then
    return .error .context
  let value := (revision + 1) % 2 ^ 64
  if value = 0 then
    return .error .exhausted
  if !(← perform (.openTruncated (slotOf value))) then
    return .error .io
  if !(← writeLine (.slot (slotOf value)) value) then
    return .error .io
  return .ok value

def olderRevisionSlot (left right : Except RevisionError (Option Nat)) : Except RevisionError Slot :=
  match left, right with
  | .error e, _ => .error e
  | _, .error e => .error e
  | .ok none, _ => .ok .a
  | _, .ok none => .ok .b
  | .ok (some left), .ok (some right) => if left ≤ right then .ok .a else .ok .b

/-- The replacement of a slot by way of its temporary file. -/
def replaceSlot (slot : Slot) (target : Nat) : Prog Command Reply (Except RevisionError Unit) := do
  let _ ← perform (.remove (.temporary slot))
  if !(← perform (.createExclusive (.temporary slot))) then
    return .error .io
  if !(← writeLine (.temporary slot) target) then
    return .error .io
  if !(← perform (.rename slot)) then
    return .error .io
  if !(← perform .syncParentDirectory) then
    return .error .io
  return .ok ()

/-- The revision of the store afterwards, when the call succeeds. -/
def ensureAtLeast (revision : Nat) (target : UInt64) : Prog Command Reply (Except RevisionError Nat) := do
  if ← perform .cancelled then
    return .error .context
  if target = 0 then
    return .ok revision
  if target.toNat ≤ revision then
    return .ok revision
  let left ← perform (.read .a)
  let right ← perform (.read .b)
  match olderRevisionSlot (readRevision left) (readRevision right) with
  | .error e => return .error e
  | .ok slot =>
    match ← replaceSlot slot target.toNat with
    | .error e => return .error e
    | .ok () => return .ok target.toNat

/-! ## What a slot holds -/

lemma trimSpace_decimalLine (n : Nat) : trimSpace (decimalLine n) = Nat.toDigits 10 n := by
  have digit : ∀ c ∈ Nat.toDigits 10 n, isSpace c = false := by
    intro c listed
    have range := LengthPrefix.digit_range listed
    simp [isSpace]
    omega
  have drop : ∀ s rest : List Char, (∀ c ∈ s, isSpace c = false) → s ≠ [] →
      (s ++ rest).dropWhile isSpace = s ++ rest := by
    intro s rest plain filled
    cases s with
    | nil => exact absurd rfl filled
    | cons c s => simp [plain c List.mem_cons_self]
  have first := drop _ ['\n'] digit Nat.toDigits_ne_nil
  have last := drop (Nat.toDigits 10 n).reverse [] (fun c listed => digit c (List.mem_reverse.mp listed))
    (List.reverse_ne_nil_iff.mpr Nat.toDigits_ne_nil)
  rw [List.append_nil] at last
  have newline : isSpace '\n' = true := by decide
  rw [trimSpace, decimalLine, first, List.reverse_append, List.reverse_singleton, List.singleton_append,
    List.dropWhile_cons_of_pos newline, last, List.reverse_reverse]

lemma parseUint_toDigits {n : Nat} (small : n < 2 ^ 64) : parseUint (String.ofList (Nat.toDigits 10 n)) = some n := by
  have digits : (Nat.toDigits 10 n).all Char.isDigit = true :=
    List.all_eq_true.mpr fun c listed => Nat.isDigit_of_mem_toDigits (by decide) (by decide) listed
  have value : (Nat.toDigits 10 n).foldl (fun value c => value * 10 + (c.toNat - '0'.toNat)) 0 = n := by
    have same := @Nat.ofDigitChars_ten_toDigits n
    simpa only [Nat.ofDigitChars, Nat.mul_comm 10] using same
  have filled : String.ofList (Nat.toDigits 10 n) ≠ "" := by
    intro empty
    exact Nat.toDigits_ne_nil (String.ofList_injective empty)
  rw [parseUint, String.toList_ofList, if_pos ⟨filled, digits⟩, value]
  exact if_pos small

lemma utf8Len_decimalLine (n : Nat) : String.utf8Len (decimalLine n) = (Nat.toDigits 10 n).length + 1 := by
  have ascii : ∀ s : List Char, (∀ c ∈ s, c.toNat ≤ 127) → String.utf8Len s = s.length := by
    intro s
    induction s with
    | nil => exact fun _ => rfl
    | cons c s ih =>
      intro plain
      have size : c.utf8Size = 1 := Char.utf8Size_eq_one_iff.mpr (plain c List.mem_cons_self)
      rw [String.utf8Len_cons, ih fun d listed => plain d (List.mem_cons_of_mem c listed), size]
      rfl
  rw [ascii _ ?_, decimalLine, List.length_append, List.length_singleton]
  intro c listed
  rcases List.mem_append.mp listed with digit | newline
  · have range := LengthPrefix.digit_range digit
    omega
  · rw [List.mem_singleton.mp newline]
    decide

lemma readRevision_decimalLine {n : Nat} {synced : Bool} (positive : 0 < n) (small : n < 2 ^ 64) :
    readRevision (some ⟨decimalLine n, synced⟩) = .ok (some n) := by
  have length : (Nat.toDigits 10 n).length ≤ 20 :=
    (Nat.length_toDigits_le_iff (by decide) (by decide)).mpr (lt_trans small (by decide))
  have short : ¬ 32 < (String.ofList (decimalLine n)).utf8ByteSize := by
    have bytes := utf8Len_decimalLine n
    rw [String.utf8ByteSize_ofList, bytes]
    omega
  rw [readRevision, if_neg short]
  dsimp only
  rw [trimSpace_decimalLine, parseUint_toDigits small]
  exact if_neg (Nat.ne_of_gt positive)

/-- A slot from which the value is read, now and after a stop. -/
def Reads (disk : Disk) (slot : Slot) (value : Nat) : Prop :=
  ∃ file, disk (.slot slot) = some file ∧ file.synced = true ∧ readRevision (some file) = .ok (some value)

/-- The slots give back at least that revision, now and after a stop. -/
def Holds (disk : Disk) (revision : Nat) : Prop :=
  (∃ slot value, Reads disk slot value ∧ revision ≤ value) ∨ revision = 0 ∧ ∀ slot, disk (.slot slot) = none

def Settled (disk : Disk) : Prop := ∀ path file, disk path = some file → file.synced = true

section disks

variable {disk disk' : Disk} {slot : Slot} {file : File} {revision value : Nat} {kept : Path → Nat} {path : Path}

lemma Holds.mono {lower : Nat} (holds : Holds disk revision) (le : lower ≤ revision) : Holds disk lower := by
  rcases holds with ⟨slot, value, reads, bound⟩ | ⟨zero, absent⟩
  · exact .inl ⟨slot, value, reads, le_trans le bound⟩
  · exact .inr ⟨by omega, absent⟩

lemma crashed_synced (found : disk path = some file) (synced : file.synced = true) :
    disk.crashed kept path = some file := by
  rw [Disk.crashed, found, Option.map_some, File.crashed, if_pos synced]

lemma Reads.crashed (reads : Reads disk slot value) : Reads (disk.crashed kept) slot value := by
  obtain ⟨file, found, synced, read⟩ := reads
  exact ⟨file, crashed_synced found synced, synced, read⟩

lemma Holds.crashed (holds : Holds disk revision) : Holds (disk.crashed kept) revision := by
  rcases holds with ⟨slot, value, reads, bound⟩ | ⟨zero, absent⟩
  · exact .inl ⟨slot, value, reads.crashed, bound⟩
  · refine .inr ⟨zero, fun slot => ?_⟩
    rw [Disk.crashed, absent slot, Option.map_none]

lemma settled_crashed : Settled (disk.crashed kept) := by
  intro path file found
  obtain ⟨before, _, rfl⟩ := Option.map_eq_some_iff.mp found
  by_cases synced : before.synced = true
  · rwa [File.crashed, if_pos synced]
  · rw [File.crashed, if_neg synced]

lemma Holds.congr (holds : Holds disk revision) (same : ∀ slot, disk' (.slot slot) = disk (.slot slot)) :
    Holds disk' revision := by
  rcases holds with ⟨slot, value, ⟨file, found, rest⟩, bound⟩ | ⟨zero, absent⟩
  · exact .inl ⟨slot, value, ⟨file, (same slot).trans found, rest⟩, bound⟩
  · exact .inr ⟨zero, fun slot => (same slot).trans (absent slot)⟩

section

variable (loading : Loading)

@[simp] lemma Loading.next_revision (value : Nat) :
    (loading.next (.ok (some value))).revision = max loading.revision value := by
  dsimp only [Loading.next]
  split <;> omega

@[simp] lemma Loading.next_none : loading.next (.ok none) = loading := rfl

@[simp] lemma Loading.next_error (e : RevisionError) : (loading.next (.error e)).revision = loading.revision := rfl

lemma Loading.le_next (read : Except RevisionError (Option Nat)) :
    loading.revision ≤ (loading.next read).revision ∧ loading.validSlots ≤ (loading.next read).validSlots := by
  rcases read with _ | _ | value
  · exact ⟨le_refl _, le_refl _⟩
  · exact ⟨le_refl _, le_refl _⟩
  · refine ⟨?_, Nat.le_succ _⟩
    rw [Loading.next_revision]
    exact le_max_left _ _

lemma Loading.next_reads (value : Nat) :
    value ≤ (loading.next (.ok (some value))).revision ∧ 0 < (loading.next (.ok (some value))).validSlots := by
  refine ⟨?_, Nat.succ_pos _⟩
  rw [Loading.next_revision]
  exact le_max_right _ _

end

/-- What the slots hold, opening the store finds. -/
theorem Holds.opens (holds : Holds disk revision) : ∃ found, newFileRevisionStore disk = .ok found ∧ revision ≤ found := by
  rcases holds with ⟨slot, value, ⟨file, present, _, read⟩, bound⟩ | ⟨zero, absent⟩
  · set first := (⟨0, 0, none⟩ : Loading).next (readRevision (disk (.slot .a))) with first_eq
    set last := first.next (readRevision (disk (.slot .b))) with last_eq
    have loaded : value ≤ last.revision ∧ 0 < last.validSlots := by
      cases slot with
      | a =>
        rw [present, read] at first_eq
        have here := Loading.next_reads ⟨0, 0, none⟩ value
        rw [← first_eq] at here
        have later := first.le_next (readRevision (disk (.slot .b)))
        rw [← last_eq] at later
        omega
      | b =>
        rw [present, read] at last_eq
        have here := first.next_reads value
        rwa [← last_eq] at here
    refine ⟨last.revision, ?_, by omega⟩
    rw [newFileRevisionStore, ← first_eq, ← last_eq]
    split
    · omega
    · rfl
  · refine ⟨0, ?_, by omega⟩
    rw [newFileRevisionStore, absent .a, absent .b]
    rfl

lemma absent_of_read {found : Option File} (read : readRevision found = .ok none) : found = none := by
  rcases found with _ | file
  · rfl
  unfold readRevision at read
  dsimp only at read
  split at read
  · cases read
  · split at read
    · cases read
    · split at read <;> cases read

lemma Settled.reads (settled : Settled disk) (read : readRevision (disk (.slot slot)) = .ok (some value)) :
    Reads disk slot value := by
  cases found : disk (.slot slot) with
  | none =>
    rw [found] at read
    cases read
  | some file =>
    rw [found] at read
    exact ⟨file, found, settled _ _ found, read⟩

lemma readRevision_lt {found : Option File} (read : readRevision found = .ok (some value)) : value < 2 ^ 64 := by
  unfold readRevision at read
  split at read
  · cases read
  split at read
  · cases read
  split at read
  · cases read
  rename_i parsed
  split at read
  · cases read
  cases read
  unfold parseUint at parsed
  split at parsed
  · dsimp only at parsed
    split at parsed
    · cases parsed
      assumption
    · cases parsed
  · cases parsed

lemma Holds.lt (holds : Holds disk revision) : revision < 2 ^ 64 := by
  rcases holds with ⟨slot, value, ⟨file, _, _, read⟩, bound⟩ | ⟨rfl, _⟩
  · exact lt_of_le_of_lt bound (readRevision_lt read)
  · decide

/-- The revision that opening the store finds is in the slots. -/
theorem Settled.holds (settled : Settled disk) (opened : newFileRevisionStore disk = .ok revision) :
    Holds disk revision := by
  unfold newFileRevisionStore at opened
  rcases left : readRevision (disk (.slot .a)) with e | _ | value <;>
    rcases right : readRevision (disk (.slot .b)) with e' | _ | value' <;>
    rw [left, right] at opened <;> cases opened
  · exact .inl ⟨.b, value', settled.reads right, by simp⟩
  · refine .inr ⟨rfl, fun slot => ?_⟩
    cases slot with
    | a => exact absent_of_read left
    | b => exact absent_of_read right
  · exact .inl ⟨.b, value', settled.reads right, by simp⟩
  · exact .inl ⟨.a, value, settled.reads left, by simp⟩
  · exact .inl ⟨.a, value, settled.reads left, by simp⟩
  · by_cases larger : value < value'
    · exact .inl ⟨.b, value', settled.reads right, by simp; omega⟩
    · exact .inl ⟨.a, value, settled.reads left, by simp; omega⟩

end disks

/-! ## What a call does to the slots -/

def Command.touches : Command → Path → Bool
  | .openTruncated slot, path => path = .slot slot
  | .createExclusive path', path => path = path'
  | .write path' _, path => path = path'
  | .sync path', path => path = path'
  | .remove path', path => path = path'
  | .rename slot, path => path = .slot slot || path = .temporary slot
  | _, _ => false

lemma effect_untouched {answer : Answer} {disk : Disk} {command : Command} {path : Path}
    (untouched : command.touches path = false) : (effect answer disk command).2 path = disk path := by
  cases command <;> simp only [Command.touches, Bool.or_eq_false_iff, decide_eq_false_iff_not] at untouched <;>
    simp only [effect]
  case openTruncated slot => split <;> simp [untouched]
  case createExclusive other => split <;> simp [untouched]
  case write other text => simp [untouched]
  case sync other => split <;> simp [untouched]
  case remove other => split <;> simp [untouched]
  case rename slot => split <;> simp [untouched.1, untouched.2]

section calls

variable {disk disk' : Disk} {slot : Slot} {file : File} {revision value : Nat} {path : Path} {command : Command}
  {reply : Option (Reply command)} {α : Type} {p : Prog Command Reply α} {result : Option α}
  {events : List (Disk × Command)}

lemma moves_cases (move : moves disk command reply disk') :
    ∃ answer, reply = some (effect answer disk command).1 ∧ disk' = (effect answer disk command).2 ∨
      reply = none ∧ disk' = (effect answer disk command).2.crashed answer.kept := by
  obtain ⟨⟨answer, handled⟩, _⟩ := move
  refine ⟨answer, ?_⟩
  unfold handle at handled
  dsimp only at handled
  split at handled
  · cases handled
    exact .inr ⟨rfl, rfl⟩
  · cases handled
    exact .inl ⟨rfl, rfl⟩

/-- A synced file stays where no command of the program touches it. -/
lemma exec_untouched (only : Only (fun command => command.touches path = false) p)
    (exec : Exec moves p disk events result disk') (found : disk path = some file) (synced : file.synced = true) :
    disk' path = some file := by
  induction exec with
  | pure => exact found
  | stop move =>
    obtain ⟨answer, ⟨some, _⟩ | ⟨_, rfl⟩⟩ := moves_cases move
    · cases some
    · exact crashed_synced ((effect_untouched only.1).trans found) synced
  | call move _ ih =>
    obtain ⟨answer, ⟨_, rfl⟩ | ⟨none, _⟩⟩ := moves_cases move
    · exact ih (only.2 _) ((effect_untouched only.1).trans found)
    · cases none

lemma Holds.moves (holds : Holds disk revision) (untouched : ∀ slot, command.touches (.slot slot) = false)
    (move : moves disk command reply disk') : Holds disk' revision := by
  obtain ⟨answer, ⟨_, rfl⟩ | ⟨_, rfl⟩⟩ := moves_cases move
  · exact holds.congr fun slot => effect_untouched (untouched slot)
  · exact (holds.congr fun slot => effect_untouched (untouched slot)).crashed

lemma moves_reply {answered : Reply command} (move : moves disk command (some answered) disk') :
    ∃ answer, answered = (effect answer disk command).1 ∧ disk' = (effect answer disk command).2 := by
  obtain ⟨answer, ⟨same, rfl⟩ | ⟨none, _⟩⟩ := moves_cases move
  · cases same
    exact ⟨answer, rfl, rfl⟩
  · cases none

/-- What no command on the file breaks. -/
def Beside (path : Path) (kept : Disk → Prop) : Prop :=
  ∀ {command disk reply disk'}, (∀ other, other ≠ path → command.touches other = false) →
    moves disk command reply disk' → kept disk → kept disk'

lemma beside_holds : Beside (.temporary slot) (Holds · revision) := by
  intro command disk reply disk' only move holds
  exact holds.moves (fun slot => only _ nofun) move

/-- A line that was written, synced and closed without an error is in the file. -/
lemma wp_writeLine {kept : Disk → Prop} (beside : Beside path kept) (start : kept disk) :
    wp moves (fun _ _ => True) kept (writeLine path value)
      (fun ok disk' => kept disk' ∧ (ok = true → disk' path = some ⟨decimalLine value, true⟩)) disk := by
  have one : ∀ other, other ≠ path → (Command.write path (decimalLine value)).touches other = false :=
    fun other apart => decide_eq_false apart
  have two : ∀ other, other ≠ path → (Command.sync path).touches other = false :=
    fun other apart => decide_eq_false apart
  refine wp_bind (wp_perform trivial ?_ fun _ move => beside one move start)
  intro written first move
  have kept₁ := beside one move start
  refine wp_bind (wp_perform trivial ?_ fun _ move => beside two move kept₁)
  intro synced second move'
  have kept₂ := beside two move' kept₁
  refine wp_bind (wp_perform trivial ?_ fun _ move => beside (fun _ _ => rfl) move kept₂)
  intro closed third move''
  refine ⟨beside (fun _ _ => rfl) move'' kept₂, ?_⟩
  intro ok
  obtain ⟨⟨wrote, made⟩, _⟩ : (written = true ∧ synced = true) ∧ closed = true := by
    rwa [Bool.and_eq_true, Bool.and_eq_true] at ok
  obtain ⟨answer, reply, rfl⟩ := moves_reply move
  obtain ⟨answer', reply', rfl⟩ := moves_reply move'
  obtain ⟨_, _, rfl⟩ := moves_reply move''
  have wrote : answer.ok = true := reply.symm.trans wrote
  have made : answer'.ok = true := reply'.symm.trans made
  simp [effect, wrote, made]

/-- A revision that `Next` returns is the next one, and its slot has it. -/
lemma wp_next (bound : revision < 2 ^ 64) : wp moves (fun _ _ => True) (fun _ => True) (next revision)
    (fun result disk' => ∀ value, result = .ok value →
      value = revision + 1 ∧ value < 2 ^ 64 ∧ Reads disk' (slotOf value) value) disk := by
  refine wp_bind (wp_perform trivial ?_ fun _ _ => trivial)
  intro cancelled disk₁ _
  cases cancelled with
  | true => exact wp_pure nofun
  | false =>
    by_cases zero : (revision + 1) % 2 ^ 64 = 0
    · simp only [zero]
      exact wp_pure nofun
    simp only [zero]
    refine wp_bind (wp_perform trivial ?_ fun _ _ => trivial)
    intro created disk₂ _
    rcases created with _ | _
    · exact wp_pure nofun
    refine wp_bind (wp_mono (wp_writeLine (fun _ _ _ => trivial) trivial) ?_)
    rintro written disk₃ ⟨_, line⟩
    rcases written with _ | _
    · exact wp_pure nofun
    refine wp_pure ?_
    rintro _ ⟨⟩
    have small : (revision + 1) % 2 ^ 64 < 2 ^ 64 := Nat.mod_lt _ (by decide)
    refine ⟨?_, small, _, line rfl, rfl, readRevision_decimalLine (Nat.pos_of_ne_zero zero) small⟩
    omega

lemma wp_replaceSlot (holds : Holds disk revision) {target : UInt64} (larger : revision < target.toNat) :
    wp moves (fun _ _ => True) (Holds · revision) (replaceSlot slot target.toNat)
      (fun result disk' => Holds disk' revision ∧ (result = .ok () → Holds disk' target.toNat)) disk := by
  have beside := @beside_holds slot revision
  have removal : ∀ other, other ≠ .temporary slot → (Command.remove (.temporary slot)).touches other = false :=
    fun other apart => decide_eq_false apart
  have creation : ∀ other, other ≠ .temporary slot → (Command.createExclusive (.temporary slot)).touches other = false :=
    fun other apart => decide_eq_false apart
  refine wp_bind (wp_perform trivial ?_ fun _ move => beside removal move holds)
  intro removed disk₁ move₁
  have holds₁ := beside removal move₁ holds
  refine wp_bind (wp_perform trivial ?_ fun _ move => beside creation move holds₁)
  intro created disk₂ move₂
  have holds₂ := beside creation move₂ holds₁
  rcases created with _ | _
  · exact wp_pure ⟨holds₂, nofun⟩
  refine wp_bind (wp_mono (wp_writeLine beside holds₂) ?_)
  rintro written disk₃ ⟨holds₃, line⟩
  rcases written with _ | _
  · exact wp_pure ⟨holds₃, nofun⟩
  have reads : readRevision (some ⟨decimalLine target.toNat, true⟩) = .ok (some target.toNat) :=
    readRevision_decimalLine (by omega) target.toNat_lt
  -- the renaming puts the line into the slot or leaves the slots alone
  have renamed : ∀ answer, answer.ok = true → Holds (effect answer disk₃ (.rename slot)).2 target.toNat :=
    fun answer ok => .inl ⟨slot, target.toNat, ⟨_, by simp [effect, ok, line rfl], rfl, reads⟩, le_refl _⟩
  have left : ∀ answer, answer.ok = false → Holds (effect answer disk₃ (.rename slot)).2 revision :=
    fun answer failed => by simpa [effect, failed] using holds₃
  have either : ∀ answer, Holds (effect answer disk₃ (.rename slot)).2 revision := by
    intro answer
    cases ok : answer.ok with
    | false => exact left answer ok
    | true => exact (renamed answer ok).mono (le_of_lt larger)
  refine wp_bind (wp_perform trivial ?_ ?_)
  · intro moved disk₄ move₄
    obtain ⟨answer, same, rfl⟩ := moves_reply move₄
    rcases moved with _ | _
    · exact wp_pure ⟨either answer, nofun⟩
    have holds₄ := renamed answer same.symm
    refine wp_bind (wp_perform trivial ?_ ?_)
    · intro synced disk₅ move₅
      have holds₅ := holds₄.moves (fun _ => rfl) move₅
      cases synced with
      | false => exact wp_pure ⟨holds₅.mono (le_of_lt larger), nofun⟩
      | true => exact wp_pure ⟨holds₅.mono (le_of_lt larger), fun _ => holds₅⟩
    · intro disk₅ move₅
      exact (holds₄.moves (fun _ => rfl) move₅).mono (le_of_lt larger)
  · intro disk₄ move₄
    obtain ⟨answer, ⟨some, _⟩ | ⟨_, rfl⟩⟩ := moves_cases move₄
    · cases some
    · exact (either answer).crashed

lemma wp_ensureAtLeast (holds : Holds disk revision) (target : UInt64) :
    wp moves (fun _ _ => True) (Holds · revision) (ensureAtLeast revision target)
      (fun result disk' => Holds disk' revision ∧ ∀ value, result = .ok value →
        revision ≤ value ∧ target.toNat ≤ value ∧ Holds disk' value) disk := by
  refine wp_bind (wp_perform trivial ?_ fun _ move => holds.moves (fun _ => rfl) move)
  intro cancelled disk₁ move₁
  have holds₁ := holds.moves (fun _ => rfl) move₁
  cases cancelled with
  | true => exact wp_pure ⟨holds₁, nofun⟩
  | false =>
    by_cases zero : target = 0
    · subst zero
      refine wp_pure ⟨holds₁, ?_⟩
      rintro _ ⟨⟩
      exact ⟨le_refl _, Nat.zero_le _, holds₁⟩
    · by_cases below : target.toNat ≤ revision
      · simp only [zero, below]
        refine wp_pure ⟨holds₁, ?_⟩
        rintro _ ⟨⟩
        exact ⟨le_refl _, below, holds₁⟩
      · simp only [zero, below]
        refine wp_bind (wp_perform trivial ?_ fun _ move => holds₁.moves (fun _ => rfl) move)
        intro left disk₂ move₂
        have holds₂ := holds₁.moves (fun _ => rfl) move₂
        refine wp_bind (wp_perform trivial ?_ fun _ move => holds₂.moves (fun _ => rfl) move)
        intro right disk₃ move₃
        have holds₃ := holds₂.moves (fun _ => rfl) move₃
        rcases olderRevisionSlot (readRevision left) (readRevision right) with e | slot
        · exact wp_pure ⟨holds₃, nofun⟩
        have larger : revision < target.toNat := Nat.lt_of_not_le below
        refine wp_bind (wp_mono (wp_replaceSlot holds₃ larger) ?_)
        rintro result disk₄ ⟨low, high⟩
        rcases result with e | _
        · exact wp_pure ⟨low, nofun⟩
        refine wp_pure ⟨low, ?_⟩
        rintro _ ⟨⟩
        exact ⟨le_of_lt larger, le_refl _, high rfl⟩

end calls

/-! ## Runs -/

/-- The slots, the revision of the store that is open, and the largest revision that a
call has returned or confirmed, which the source does not keep. -/
structure World where
  disk : Disk
  revision : Option Nat
  confirmed : Nat

inductive Event where
  | opened (result : Except RevisionError Nat)
  /-- No result is a stop of the process during the call. -/
  | next (result : Option (Except RevisionError Nat))
  | ensured (target : UInt64) (result : Option (Except RevisionError Nat))
  | stopped

/-- The revision that the caller may rely on. -/
def Event.confirms : Event → Option Nat
  | .next (some (.ok value)) => some value
  | .ensured target (some (.ok _)) => some target.toNat
  | _ => none

/-- The revision of the store after a call. -/
def after (revision : Nat) : Option (Except RevisionError Nat) → Option Nat
  | none => none
  | some (.error _) => some revision
  | some (.ok value) => some value

def confirm (confirmed : Nat) (event : Event) : Nat := max confirmed (event.confirms.getD 0)

inductive Step : World → Event → World → Prop
  | opened {disk : Disk} {confirmed : Nat} :
      Step ⟨disk, none, confirmed⟩ (.opened (newFileRevisionStore disk))
        ⟨disk, (newFileRevisionStore disk).toOption, confirmed⟩
  | next {disk disk' : Disk} {revision confirmed : Nat} {result : Option (Except RevisionError Nat)}
      {commands : List (Disk × Command)} (exec : Exec moves (next revision) disk commands result disk') :
      Step ⟨disk, some revision, confirmed⟩ (.next result)
        ⟨disk', after revision result, confirm confirmed (.next result)⟩
  | ensured {disk disk' : Disk} {revision confirmed : Nat} (target : UInt64)
      {result : Option (Except RevisionError Nat)} {commands : List (Disk × Command)}
      (exec : Exec moves (ensureAtLeast revision target) disk commands result disk') :
      Step ⟨disk, some revision, confirmed⟩ (.ensured target result)
        ⟨disk', after revision result, confirm confirmed (.ensured target result)⟩
  | stopped {disk : Disk} {revision confirmed : Nat} (kept : Path → Nat) :
      Step ⟨disk, some revision, confirmed⟩ .stopped ⟨disk.crashed kept, none, confirmed⟩

/-- The slot that the next revision does not go to has the current one. -/
def Sheltered (disk : Disk) (revision : Nat) : Prop :=
  ∃ value, Reads disk (slotOf ((revision + 1) % 2 ^ 64)).other value ∧ revision ≤ value

/-- A `Next` that returns no revision finds the current one sheltered. -/
def Careful (w : World) : Event → Prop
  | .next (some (.ok _)) => True
  | .next _ => ∃ revision, w.revision = some revision ∧ Sheltered w.disk revision
  | _ => True

/-- Where the store stands between two calls. -/
def Sound (w : World) : Prop :=
  match w.revision with
  | some revision => Holds w.disk revision ∧ w.confirmed ≤ revision
  | none => Holds w.disk w.confirmed ∧ Settled w.disk

section runs

variable {disk disk' : Disk} {revision : Nat} {w w' : World} {event : Event} {events : List Event}

lemma settled_of_stopped {α : Type} {p : Prog Command Reply α} {commands : List (Disk × Command)}
    {result : Option α} (exec : Exec moves p disk commands result disk') (stopped : result = none) :
    Settled disk' := by
  induction exec with
  | pure => cases stopped
  | stop move =>
    obtain ⟨answer, ⟨some, _⟩ | ⟨_, rfl⟩⟩ := moves_cases move
    · cases some
    · exact settled_crashed
  | call _ _ ih => exact ih stopped

lemma only_next (revision : Nat) :
    Only (fun command => command.touches (.slot (slotOf ((revision + 1) % 2 ^ 64)).other) = false) (next revision) := by
  have apart : Path.slot (slotOf ((revision + 1) % 2 ^ 64)).other ≠ .slot (slotOf ((revision + 1) % 2 ^ 64)) := by
    cases slotOf ((revision + 1) % 2 ^ 64) <;> nofun
  refine only_bind (only_perform rfl) fun cancelled => ?_
  cases cancelled with
  | true => trivial
  | false =>
    by_cases zero : (revision + 1) % 2 ^ 64 = 0
    · simp only [zero]
      trivial
    simp only [zero]
    refine only_bind (only_perform (decide_eq_false apart)) fun created => ?_
    rcases created with _ | _
    · trivial
    refine only_bind ?_ fun written => ?_
    · refine only_bind (only_perform (decide_eq_false apart)) fun _ => ?_
      refine only_bind (only_perform (decide_eq_false apart)) fun _ => ?_
      exact only_bind (only_perform rfl) fun _ => trivial
    · cases written <;> trivial

/-- The revision that is sheltered survives whatever becomes of `Next`. -/
lemma Sheltered.holds {commands : List (Disk × Command)} {result : Option (Except RevisionError Nat)}
    (sheltered : Sheltered disk revision) (exec : Exec moves (next revision) disk commands result disk') :
    Holds disk' revision := by
  obtain ⟨value, ⟨file, found, synced, read⟩, bound⟩ := sheltered
  exact .inl ⟨_, value, ⟨file, exec_untouched (only_next revision) exec found synced, synced, read⟩, bound⟩

/-- The slots after `Next` was stopped as soon as it had emptied its slot. -/
def emptied (disk : Disk) (slot : Slot) : Disk :=
  Disk.crashed (fun _ => 0) (Function.update disk (.slot slot) (some ⟨[], false⟩))

lemma exec_emptied (disk : Disk) (bound : revision + 1 < 2 ^ 64) :
    ∃ commands, Exec moves (next revision) disk commands none (emptied disk (slotOf ((revision + 1) % 2 ^ 64))) := by
  have positive : (revision + 1) % 2 ^ 64 ≠ 0 := by omega
  have issued : moves disk .cancelled (some false) disk := ⟨⟨{}, rfl⟩, rfl⟩
  refine ⟨[(disk, .cancelled), (disk, .openTruncated (slotOf ((revision + 1) % 2 ^ 64)))], .call issued ?_⟩
  simp only [Prog.bind, positive]
  exact .stop ⟨⟨{ stop := true }, rfl⟩, rfl⟩

lemma readRevision_empty {synced : Bool} : readRevision (some ⟨[], synced⟩) = .error .invalidState := by
  cases synced <;> rfl

/-- With its slot emptied, only the other slot counts. -/
lemma opened_emptied {slot : Slot} {found : Nat} (opened : newFileRevisionStore (emptied disk slot) = .ok found) :
    Reads disk slot.other found := by
  have here : readRevision (emptied disk slot (.slot slot)) = .error .invalidState := by
    rw [emptied, Disk.crashed, Function.update_self]
    exact readRevision_empty
  have there : readRevision (emptied disk slot (.slot slot.other)) = .ok (some found) := by
    cases slot with
    | a =>
      rcases right : readRevision (emptied disk .a (.slot .b)) with e | _ | value <;>
        rw [newFileRevisionStore, here, right] at opened <;> cases opened
      exact right.trans (by simp)
    | b =>
      rcases left : readRevision (emptied disk .b (.slot .a)) with e | _ | value <;>
        rw [newFileRevisionStore, here, left] at opened <;> cases opened
      exact left.trans (by simp)
  have apart : Path.slot slot.other ≠ .slot slot := by cases slot <;> nofun
  rw [emptied, Disk.crashed, Function.update_of_ne apart] at there
  rcases present : disk (.slot slot.other) with _ | file
  · rw [present] at there
    cases there
  rw [present, Option.map_some] at there
  by_cases synced : file.synced = true
  · rw [File.crashed, if_pos synced] at there
    exact ⟨file, present, synced, there⟩
  · rw [File.crashed, if_neg synced, List.take_zero, readRevision_empty] at there
    cases there

/-- Nothing less protects the current revision from a stop of `Next`. -/
theorem sheltered_iff (bound : revision + 1 < 2 ^ 64) : Sheltered disk revision ↔
    ∀ commands disk', Exec moves (next revision) disk commands none disk' →
      ∃ found, newFileRevisionStore disk' = .ok found ∧ revision ≤ found := by
  constructor
  · intro sheltered commands disk' exec
    exact (sheltered.holds exec).opens
  · intro recovers
    obtain ⟨commands, exec⟩ := exec_emptied disk bound
    obtain ⟨found, opened, enough⟩ := recovers commands _ exec
    exact ⟨found, opened_emptied opened, enough⟩

/-- Nothing shelters the first `Next` of a fresh path. -/
theorem sheltered_iff_fresh : ¬ ∀ commands disk', Exec moves (next 0) (fun _ => none) commands none disk' →
    ∃ found, newFileRevisionStore disk' = .ok found ∧ 0 ≤ found := by
  rw [← sheltered_iff (by decide)]
  rintro ⟨_, ⟨_, ⟨⟩, _⟩, _⟩

/-- What a step brings: an open store is found, a returned revision is new, and what is
confirmed stays confirmed. -/
structure Brings (w : World) (event : Event) (w' : World) : Prop where
  sound : Sound w'
  opens : ∀ e, event ≠ .opened (.error e)
  fresh : ∀ value, event = .next (some (.ok value)) → w.confirmed < value
  grows : w.confirmed ≤ w'.confirmed
  covers : ∀ value, event.confirms = some value → value ≤ w'.confirmed

lemma confirm_grows (confirmed : Nat) (event : Event) : confirmed ≤ confirm confirmed event := le_max_left _ _

lemma confirm_covers {confirmed value : Nat} (confirms : event.confirms = some value) :
    value ≤ confirm confirmed event := by
  rw [confirm, confirms]
  exact le_max_right _ _

theorem Step.brings (step : Step w event w') (careful : Careful w event) (sound : Sound w) : Brings w event w' := by
  cases step with
  | @opened disk confirmed =>
    obtain ⟨holds, settled⟩ : Holds disk confirmed ∧ Settled disk := sound
    obtain ⟨found, opened, bound⟩ := holds.opens
    rw [opened]
    exact ⟨⟨settled.holds opened, bound⟩, nofun, nofun, le_refl _, nofun⟩
  | @next disk disk' revision confirmed result commands exec =>
    obtain ⟨holds, bound⟩ : Holds disk revision ∧ confirmed ≤ revision := sound
    have spec := (exec.sound (wp_next holds.lt)).2
    refine ⟨?_, nofun, ?_, confirm_grows _ _, fun _ => confirm_covers⟩
    · rcases result with _ | e | value
      · obtain ⟨_, ⟨⟩, sheltered⟩ := careful
        refine ⟨(sheltered.holds exec).mono ?_, settled_of_stopped exec rfl⟩
        exact max_le bound (Nat.zero_le _)
      · obtain ⟨_, ⟨⟩, sheltered⟩ := careful
        exact ⟨sheltered.holds exec, max_le bound (Nat.zero_le _)⟩
      · obtain ⟨rfl, _, reads⟩ := spec value rfl
        exact ⟨.inl ⟨_, _, reads, le_refl _⟩, max_le (by omega) (le_refl _)⟩
    · rintro value ⟨⟩
      obtain ⟨rfl, _⟩ := spec value rfl
      exact Nat.lt_succ_of_le bound
  | @ensured disk disk' revision confirmed target result commands exec =>
    obtain ⟨holds, bound⟩ : Holds disk revision ∧ confirmed ≤ revision := sound
    have spec := (exec.sound (wp_ensureAtLeast holds target)).2
    refine ⟨?_, nofun, nofun, confirm_grows _ _, fun _ => confirm_covers⟩
    rcases result with _ | e | value
    · exact ⟨spec.mono (max_le bound (Nat.zero_le _)), settled_of_stopped exec rfl⟩
    · exact ⟨spec.1, max_le bound (Nat.zero_le _)⟩
    · obtain ⟨larger, covered, held⟩ := spec.2 value rfl
      exact ⟨held, max_le (le_trans bound larger) covered⟩
  | @stopped disk revision confirmed kept =>
    obtain ⟨holds, bound⟩ : Holds disk revision ∧ confirmed ≤ revision := sound
    exact ⟨⟨(holds.mono bound).crashed, settled_crashed⟩, nofun, nofun, le_refl _, nofun⟩

/-- A returned revision is larger than all that was returned or confirmed before. -/
def Increasing (events : List Event) : Prop :=
  events.Pairwise fun earlier later => ∀ low high, earlier.confirms = some low →
    later = .next (some (.ok high)) → low < high

lemma run_brings (run : Run (fun w event w' => Step w event w' ∧ Careful w event) w events w') (sound : Sound w) :
    Sound w' ∧ Increasing events ∧ (∀ e, .opened (.error e) ∉ events) ∧
      ∀ value, .next (some (.ok value)) ∈ events → w.confirmed < value := by
  induction run with
  | nil => exact ⟨sound, .nil, fun _ => List.not_mem_nil, fun _ member => absurd member List.not_mem_nil⟩
  | cons step _ ih =>
    have brings := step.1.brings step.2 sound
    obtain ⟨last, increasing, opens, fresh⟩ := ih brings.sound
    refine ⟨last, List.pairwise_cons.mpr ⟨?_, increasing⟩, ?_, ?_⟩
    · rintro later listed low high confirms rfl
      exact lt_of_le_of_lt (brings.covers low confirms) (fresh high listed)
    · intro e member
      rcases List.mem_cons.mp member with same | later
      · exact brings.opens e same.symm
      · exact opens e later
    · intro value member
      rcases List.mem_cons.mp member with same | later
      · exact brings.fresh value same.symm
      · exact lt_of_le_of_lt brings.grows (fresh value later)

end runs

section samples

lemma step_next {disk disk' : Disk} {revision confirmed : Nat} {commands : List (Disk × Command)}
    {result : Option (Except RevisionError Nat)} (answers : Nat → Answer)
    (ran : (next revision).run handle fits answers disk = some (commands, result, disk')) :
    Step ⟨disk, some revision, confirmed⟩ (.next result)
      ⟨disk', after revision result, confirm confirmed (.next result)⟩ :=
  .next (Prog.run_exec ran)

def blankDisk : Disk := fun _ => none

/-- Every operation succeeds. -/
def smooth : Nat → Answer := fun _ => {}

/-- The process stops at that operation. -/
def stopAt (n : Nat) : Nat → Answer := fun k => { stop := decide (k = n) }

end samples

/-- From a disk that opens, a run in which no `Next` without a result found the current
revision unsheltered never fails to open the store, and the revisions increase. -/
theorem revisions_increase {disk : Disk} {found : Nat} (settled : Settled disk)
    (opens : newFileRevisionStore disk = .ok found) {events : List Event} {w : World}
    (run : Run (fun w event w' => Step w event w' ∧ Careful w event) ⟨disk, none, 0⟩ events w) :
    Increasing events ∧ (∀ e, .opened (.error e) ∉ events) ∧
      (w.revision = none → ∃ revision, newFileRevisionStore w.disk = .ok revision) := by
  have start : Sound ⟨disk, none, 0⟩ := ⟨(settled.holds opens).mono (Nat.zero_le _), settled⟩
  obtain ⟨last, increasing, opened, _⟩ := run_brings run start
  refine ⟨increasing, opened, ?_⟩
  intro down
  unfold Sound at last
  rw [down] at last
  obtain ⟨revision, found, _⟩ := last.1.opens
  exact ⟨revision, found⟩

/-- A second `Next` that is stopped as soon as it has emptied its slot. -/
def shelteredEvents : List Event :=
  [.opened (.ok 0), .next (some (.ok 1)), .next none, .opened (.ok 1), .next (some (.ok 2))]

lemma sheltered_run :
    ∃ w, Run (fun w event w' => Step w event w' ∧ Careful w event) ⟨blankDisk, none, 0⟩ shelteredEvents w :=
  ⟨_, .cons ⟨.opened, trivial⟩ <| .cons ⟨step_next smooth rfl, trivial⟩ <|
    .cons ⟨step_next (stopAt 1) rfl, 1, rfl, 1, ⟨_, rfl, rfl, rfl⟩, le_refl _⟩ <|
    .cons ⟨.opened, trivial⟩ <| .single ⟨step_next smooth rfl, trivial⟩⟩

theorem revisions_increase_sheltered : Increasing shelteredEvents := by
  obtain ⟨w, run⟩ := sheltered_run
  exact (revisions_increase (nofun : Settled blankDisk) (rfl : newFileRevisionStore blankDisk = .ok 0) run).1

def repeatedEvents : List Event :=
  [.opened (.ok 0), .next (some (.ok 1)), .next (some (.ok 2)), .ensured 10 (some (.ok 10)), .next none,
    .opened (.ok 2), .next (some (.ok 3))]

/-- `EnsureAtLeast` puts 10 into the slot that `Next` empties for 11, and a first `Next`
that is stopped leaves a store that no longer opens. -/
theorem revision_repeated :
    (∃ w, Run Step ⟨blankDisk, none, 0⟩ repeatedEvents w) ∧ ¬ Increasing repeatedEvents ∧
      ∃ w, Run Step ⟨blankDisk, none, 0⟩ [.opened (.ok 0), .next none, .opened (.error .invalidState)] w := by
  refine ⟨⟨_, .cons .opened <| .cons (step_next smooth rfl) <| .cons (step_next smooth rfl) <|
    .cons (.ensured 10 (Prog.run_exec (rfl : (ensureAtLeast _ 10).run handle fits smooth _ = _))) <|
    .cons (step_next (stopAt 1) rfl) <| .cons .opened <| .single (step_next smooth rfl)⟩, ?_,
    ⟨_, .cons .opened <| .cons (step_next (stopAt 1) rfl) <| .cons .opened <| .nil _⟩⟩
  intro increasing
  have late : Event.next (some (.ok 3)) ∈ [.next none, .opened (.ok 2), .next (some (.ok 3))] := by simp
  have pair := (List.pairwise_cons.mp increasing.tail.tail.tail).1 _ late 10 3 rfl rfl
  exact absurd pair (by decide)

end DBPilot.Discovery
