import DBPilot.Lib.Directory
import DBPilot.Plugins.State

/-!
# The plugin state store

`FileStore` of `internal/agent/pluginstate/store.go`. Its two files are entries of
a directory that may lose what was not synced. The JSON text of a snapshot is a
value of a type `B`, and what the two directions of `encoding/json` do is what
`StateCodec` says: a text that was marshalled reads back, and a revision that is
read is a `uint64`. Every step of `writeSnapshot` may fail.
-/

namespace DBPilot.Plugins

open FiniteMaps Directories
open Jobs (Instant)

structure DiskSnapshot where
  revision : Nat
  observedAt : Time
  /-- Nothing is the nil map. -/
  families : Option (FiniteMap String FamilyState)
  deriving DecidableEq

class StateCodec (B : Type) where
  marshal : DiskSnapshot → Option B
  /-- The decoder that refuses unknown fields, up to the end of the text. -/
  unmarshal : B → Option DiskSnapshot
  size : B → Nat
  revision_unmarshal : ∀ {snapshot body}, unmarshal body = some snapshot → snapshot.revision < 2 ^ 64
  size_marshal : ∀ {snapshot body}, marshal snapshot = some body → 0 < size body
  unmarshal_marshal : ∀ {snapshot body}, marshal snapshot = some body → unmarshal body = some snapshot

inductive StateError where
  | invalidState
  | staleOperation
  | context
  | io
  deriving DecidableEq

inductive Suffix where
  | a
  | b
  deriving DecidableEq

inductive FileName where
  | state (suffix : Suffix)
  | temporary (suffix : Suffix)
  deriving DecidableEq

structure FileStore where
  revision : Nat
  observedAt : Time
  families : FiniteMap String FamilyState

/-- The root of a store and the store. -/
structure Machine (B : Type) where
  directory : Directory FileName B
  store : FileStore

/-- What goes wrong in a call: the context, the steps of `writeSnapshot`, and what an
unfinished write leaves behind. -/
structure Faults (B : Type) where
  cancelled : Bool := false
  cancelledLate : Bool := false
  removeTemporary : Bool := false
  create : Bool := false
  write : Bool := false
  sync : Bool := false
  close : Bool := false
  removeTarget : Bool := false
  rename : Bool := false
  syncDirectory : Bool := false
  cleanup : Bool := false
  left : B

def cloneFamilies (families : FiniteMap String FamilyState) : FiniteMap String FamilyState :=
  families.mapValues cloneFamily

def sortedFamilies (families : FiniteMap String FamilyState) : List FamilyState :=
  ((families.entries.insertionSort fun x y => x.1 ≤ y.1).map Prod.snd).map cloneFamily

namespace FileStore

def empty : FileStore := ⟨0, none, .empty⟩

def snapshot (store : FileStore) : Nat × Time × List FamilyState :=
  (store.revision, store.observedAt, sortedFamilies store.families)

def get (store : FileStore) (family : String) : Option FamilyState := (store.families.get family).map cloneFamily

def list (store : FileStore) : List FamilyState := sortedFamilies store.families

end FileStore

/-- The successor of a revision, which is a `uint64`. -/
def nextRevision (revision : Nat) : Nat := (revision + 1) % 2 ^ 64

def suffixOf (revision : Nat) : Suffix := if revision % 2 = 0 then .b else .a

section files

variable {B : Type} [StateCodec B]

def validSnapshot (snapshot : DiskSnapshot) : Bool :=
  snapshot.revision != 0 && snapshot.observedAt.isSome &&
    match snapshot.families with
    | none => false
    | some families => families.entries.all fun (family, state) =>
        family = state.databaseFamily && state.stateRevision != 0 && state.stateRevision ≤ snapshot.revision &&
          state.validate

def readSnapshot (file : Option B) : Except StateError (Option DiskSnapshot) :=
  match file with
  | none => .ok none
  | some body =>
    if StateCodec.size body = 0 ∨ 2 ^ 20 < StateCodec.size body then .error .invalidState
    else match StateCodec.unmarshal body with
      | none => .error .invalidState
      | some snapshot => if validSnapshot snapshot then .ok (some snapshot) else .error .invalidState

/-- The loop of `NewFileStore` over the two files. -/
structure Loading where
  store : FileStore
  valid : Nat
  invalid : Option StateError

def Loading.next (loading : Loading) (read : Except StateError (Option DiskSnapshot)) : Loading :=
  match read with
  | .error e => { loading with invalid := some e }
  | .ok none => loading
  | .ok (some snapshot) =>
    let loading := { loading with valid := loading.valid + 1 }
    if loading.store.revision < snapshot.revision then
      { loading with store :=
        ⟨snapshot.revision, snapshot.observedAt, cloneFamilies (snapshot.families.getD .empty)⟩ }
    else loading

def newFileStore (entries : Entries FileName B) : Except StateError FileStore :=
  let start : Loading := ⟨.empty, 0, none⟩
  let loading := (start.next (readSnapshot (entries (.state .a)))).next (readSnapshot (entries (.state .b)))
  match loading.valid, loading.invalid with
  | 0, some e => .error e
  | _, _ => .ok loading.store

/-- `removeRegularIfExists`. -/
def removeIfExists (directory : Directory FileName B) (name : FileName) : Directory FileName B :=
  if (directory.visible name).isSome then directory.perform (.unlink name) else directory

/-- The removal of the temporary file, whose failure is ignored. -/
def discard (faults : Faults B) (directory : Directory FileName B) (name : FileName) : Directory FileName B :=
  if faults.cleanup then directory else removeIfExists directory name

/-- `writeSnapshot` once the text is made. -/
def writeFile (faults : Faults B) (suffix : Suffix) (encoded : B) (directory : Directory FileName B) :
    Directory FileName B × Except StateError Unit :=
  if faults.removeTemporary then (directory, .error .io)
  else
    let directory := removeIfExists directory (.temporary suffix)
    if faults.create then (directory, .error .io)
    else
      let created := directory.perform (.link (.temporary suffix) faults.left)
      if faults.write || faults.sync || faults.close then
        (discard faults created (.temporary suffix), .error .io)
      else
        let written := created.perform (.link (.temporary suffix) encoded)
        if faults.removeTarget then (discard faults written (.temporary suffix), .error .io)
        else
          let removed := removeIfExists written (.state suffix)
          if faults.rename then (removed, .error .io)
          else
            let renamed := removed.perform (.rename (.temporary suffix) (.state suffix) encoded)
            if faults.syncDirectory then (renamed, .error .io) else (renamed.sync, .ok ())

def writeSnapshot (faults : Faults B) (snapshot : DiskSnapshot) (directory : Directory FileName B) :
    Directory FileName B × Except StateError Unit :=
  if faults.cancelledLate then (directory, .error .context)
  else match StateCodec.marshal snapshot with
    | none => (directory, .error .invalidState)
    | some encoded =>
      if 2 ^ 20 < StateCodec.size encoded then (directory, .error .invalidState)
      else writeFile faults (suffixOf snapshot.revision) encoded directory

def FileStore.disk (store : FileStore) : DiskSnapshot := ⟨store.revision, store.observedAt, some store.families⟩

/-- The end of `Put` and `Delete`: a snapshot is written, and the store follows it. -/
def commit (faults : Faults B) (next : FileStore) (machine : Machine B) : Machine B × Except StateError Unit :=
  match writeSnapshot faults next.disk machine.directory with
  | (directory, .error e) => ({ machine with directory }, .error e)
  | (directory, .ok ()) => (⟨directory, next⟩, .ok ())

/-- `Put` up to its write: the state with its revision, and what the store is to become. -/
def preparePut (cancelled : Bool) (now : Instant) (state : FamilyState) (store : FileStore) :
    Except StateError (FamilyState × FileStore) :=
  if cancelled ∨ state.validate = false then .error .invalidState
  else if (store.families.get state.databaseFamily).any fun current =>
      state.observedOperationRevision < current.observedOperationRevision then .error .staleOperation
  else
    let state := { state with stateRevision := nextRevision store.revision }
    if state.stateRevision = 0 then .error .invalidState
    else
      let next := (cloneFamilies store.families).set state.databaseFamily (cloneFamily state)
      .ok (state, ⟨state.stateRevision, some now, next⟩)

def put (faults : Faults B) (now : Instant) (state : FamilyState) (machine : Machine B) :
    Machine B × Except StateError FamilyState :=
  match preparePut faults.cancelled now state machine.store with
  | .error e => (machine, .error e)
  | .ok (state, next) =>
    match commit faults next machine with
    | (machine, .error e) => (machine, .error e)
    | (machine, .ok ()) => (machine, .ok (cloneFamily state))

/-- `Delete` up to its write; nothing when the family is unknown. -/
def prepareDelete (cancelled : Bool) (now : Instant) (family : String) (operationRevision : Nat)
    (store : FileStore) : Except StateError (Option FileStore) :=
  if cancelled ∨ identifierPattern family = false ∨ operationRevision = 0 then .error .invalidState
  else match store.families.get family with
    | none => .ok none
    | some current =>
      if operationRevision < current.observedOperationRevision then .error .staleOperation
      else
        let next := (cloneFamilies store.families).erase family
        if nextRevision store.revision = 0 then .error .invalidState
        else .ok (some ⟨nextRevision store.revision, some now, next⟩)

def delete (faults : Faults B) (now : Instant) (family : String) (operationRevision : Nat) (machine : Machine B) :
    Machine B × Except StateError Unit :=
  match prepareDelete faults.cancelled now family operationRevision machine.store with
  | .error e => (machine, .error e)
  | .ok none => (machine, .ok ())
  | .ok (some next) => commit faults next machine

end files

end DBPilot.Plugins
