import DBPilot.Plugins.Store
import DBPilot.Supervisor.Request

/-!
# The slot installer

`Installer` of `internal/agent/pluginsupervisor/install.go`. The directory of a
family holds the active marker and the two slots. A slot is its retained archive, as
the verifier reads it, and whether its tree is complete; what may go wrong in a call
comes from outside. The stage directories and the temporary file of the marker are
left out: nothing reads them. The name of the family has been checked, by `Validate`
of the request or of the stored state.
-/

namespace DBPilot.Supervisor

open Directories Text Plugins
open Wire (Bytes)

inductive SupervisorError where
  | invalidRequest
  | invalidFence
  | staleOperation
  | operationConflict
  | circuitOpen
  | artifactLease
  | artifactDownload
  | artifactDigest
  | manifestRejected
  | signatureRejected
  | platformMismatch
  | installFailed
  | processStart
  | healthHandshake
  | rollbackFailed
  | processExited
  | store (e : StateError)
  | other
  deriving DecidableEq

structure ManifestBinary where
  operatingSystem : String
  architecture : String
  sha256 : String
  deriving DecidableEq

/-- What the installer reads of a verified package. -/
structure VerifiedPackage where
  packageSHA256 : String
  manifestDigest : String
  pluginID : String
  databaseFamily : String
  version : String
  binaries : List ManifestBinary
  deriving DecidableEq

structure SlotTree where
  archive : VerifiedPackage
  complete : Bool
  deriving DecidableEq

structure FamilyTree where
  marker : Directory Unit Slot
  slots : Directory Slot SlotTree

def FamilyTree.empty : FamilyTree := ⟨⟨fun _ => none, []⟩, ⟨fun _ => none, []⟩⟩

/-- The slot that the active marker names. -/
def FamilyTree.active (tree : FamilyTree) : Option Slot := tree.marker.visible ()

structure InstallRequest where
  databaseFamily : String
  pluginID : String
  version : String
  artifactSHA256 : Bytes
  manifestDigest : Bytes
  /-- What the verifier makes of the archive. -/
  archive : Except SupervisorError VerifiedPackage
  archiveSize : Int

structure Platform where
  operatingSystem : String
  architecture : String

/-- What goes wrong in a call of the installer. -/
structure InstallerFaults where
  /-- The marker, or the tree of a slot, cannot be read. -/
  unreadable : Bool := false
  damaged : Bool := false
  /-- The retained archive or a file of the slot is not what it was. -/
  rejected : Option SupervisorError := none
  /-- A step before the last change of the directory fails. -/
  disk : Bool := false
  /-- The sync after it fails. -/
  unsynced : Bool := false
  /-- What a removal that breaks off leaves. -/
  leaves : Option (Bool × (Slot → Option SlotTree)) := none

def requireCompletedSlot (faults : InstallerFaults) (tree : FamilyTree) (slot : Slot) : Bool :=
  !faults.damaged && (tree.slots.visible slot).any (·.complete)

def activeSlot (faults : InstallerFaults) (tree : FamilyTree) : Except SupervisorError Slot :=
  if faults.unreadable then .error .installFailed
  else match tree.active with
    | none => .ok .none
    | some slot =>
      if slot = .none || !requireCompletedSlot faults tree slot then .error .installFailed else .ok slot

def platformBinary (binaries : List ManifestBinary) (platform : Platform) : Option ManifestBinary :=
  binaries.find? fun binary =>
    binary.operatingSystem = platform.operatingSystem && binary.architecture = platform.architecture

/-- `Installed`. -/
def installedSlot (platform : Platform) (faults : InstallerFaults) (expected : SlotIdentity) (slot : Slot)
    (tree : FamilyTree) : Except SupervisorError InstalledSlot :=
  if !identifierPattern expected.databaseFamily || !identifierPattern expected.pluginID ||
      !boundedVersion expected.version || expected.artifactSHA256.utf8ByteSize ≠ 64 ||
      expected.manifestDigest.utf8ByteSize ≠ 64 || slot = .none then .error .installFailed
  else if !requireCompletedSlot faults tree slot then .error .installFailed
  else match tree.slots.visible slot with
    | none => .error .installFailed
    | some found =>
      match faults.rejected with
      | some e => .error e
      | none =>
        if found.archive.packageSHA256 ≠ expected.artifactSHA256 ||
            found.archive.manifestDigest ≠ expected.manifestDigest ||
            found.archive.pluginID ≠ expected.pluginID ||
            found.archive.databaseFamily ≠ expected.databaseFamily ||
            found.archive.version ≠ expected.version then .error .manifestRejected
        else match platformBinary found.archive.binaries platform with
          | none => .error .installFailed
          | some binary =>
            .ok ⟨slot, expected.version, binary.sha256, expected.artifactSHA256, expected.manifestDigest⟩

/-- `InstallInactive`. -/
def installInactive (platform : Platform) (faults : InstallerFaults) (request : InstallRequest) (slot : Slot)
    (tree : FamilyTree) : Except SupervisorError InstalledSlot × FamilyTree :=
  if request.archiveSize ≤ 0 || !identifierPattern request.databaseFamily || !identifierPattern request.pluginID ||
      !boundedVersion request.version || request.artifactSHA256.length ≠ 32 || request.manifestDigest.length ≠ 32 ||
      slot = .none then (.error .installFailed, tree)
  else match activeSlot faults tree with
    | .error e => (.error e, tree)
    | .ok active =>
      if active = slot then (.error .installFailed, tree)
      else match request.archive with
        | .error e => (.error e, tree)
        | .ok verified =>
          if verified.packageSHA256 ≠ hex request.artifactSHA256 then (.error .artifactDigest, tree)
          else if verified.manifestDigest ≠ hex request.manifestDigest then (.error .manifestRejected, tree)
          else if verified.pluginID ≠ request.pluginID || verified.databaseFamily ≠ request.databaseFamily ||
              verified.version ≠ request.version then (.error .manifestRejected, tree)
          else match platformBinary verified.binaries platform with
            | none => (.error .platformMismatch, tree)
            | some binary =>
              if (tree.slots.visible slot).isSome || faults.disk then (.error .installFailed, tree)
              else
                let renamed := tree.slots.perform (.link slot ⟨verified, true⟩)
                if faults.unsynced then (.error .installFailed, { tree with slots := renamed })
                else (.ok ⟨slot, request.version, binary.sha256, hex request.artifactSHA256,
                  hex request.manifestDigest⟩, { tree with slots := renamed.sync })

/-- `Activate`. -/
def activateSlot (platform : Platform) (faults : InstallerFaults) (identity : SlotIdentity) (slot : Slot)
    (tree : FamilyTree) : Except SupervisorError Unit × FamilyTree :=
  match installedSlot platform faults identity slot tree with
  | .error e => (.error e, tree)
  | .ok _ =>
    if faults.disk then (.error .installFailed, tree)
    else
      let renamed := tree.marker.perform (.link () slot)
      if faults.unsynced then (.error .installFailed, { tree with marker := renamed })
      else (.ok (), { tree with marker := renamed.sync })

/-- `RemoveInactive`. -/
def removeInactiveSlot (faults : InstallerFaults) (slot : Slot) (tree : FamilyTree) :
    Except SupervisorError Unit × FamilyTree :=
  if slot = .none then (.error .installFailed, tree)
  else match activeSlot faults tree with
    | .error e => (.error e, tree)
    | .ok active =>
      if active = slot || faults.disk then (.error .installFailed, tree)
      else
        let present := (tree.slots.visible slot).isSome
        match present, faults.leaves with
        | true, some (_, left) =>
          match left slot with
          | none => (.error .installFailed, { tree with slots := tree.slots.perform (.unlink slot) })
          | some rest => (.error .installFailed, { tree with slots := tree.slots.perform (.link slot rest) })
        | _, _ =>
          let removed := if present then tree.slots.perform (.unlink slot) else tree.slots
          if faults.unsynced then (.error .installFailed, { tree with slots := removed })
          else (.ok (), { tree with slots := removed.sync })

/-- What a removal leaves under a slot. -/
def leave (left : Slot → Option SlotTree) (slots : Directory Slot SlotTree) (slot : Slot) : Directory Slot SlotTree :=
  if (slots.visible slot).isNone then slots
  else match left slot with
    | none => slots.perform (.unlink slot)
    | some rest => slots.perform (.link slot rest)

/-- `RemoveFamily`. -/
def removeFamilyTree (faults : InstallerFaults) (tree : FamilyTree) : Except SupervisorError Unit × FamilyTree :=
  if faults.disk then (.error .installFailed, tree)
  else match faults.leaves with
    | some (keeps, left) =>
      (.error .installFailed,
        ⟨if keeps then tree.marker else tree.marker.perform (.unlink ()), leave left (leave left tree.slots .a) .b⟩)
    | none =>
      if faults.unsynced then
        (.error .installFailed,
          ⟨tree.marker.perform (.unlink ()), leave (fun _ => none) (leave (fun _ => none) tree.slots .a) .b⟩)
      else (.ok (), .empty)

/-- `Recover`. -/
def recoverTree (faults : InstallerFaults) (tree : FamilyTree) : Except SupervisorError Unit × FamilyTree :=
  if faults.disk then (.error .installFailed, tree)
  else match activeSlot faults tree with
    | .error e => (.error e, tree)
    | .ok _ =>
      if faults.unsynced then (.error .installFailed, tree)
      else (.ok (), { tree with marker := tree.marker.sync })

end DBPilot.Supervisor
