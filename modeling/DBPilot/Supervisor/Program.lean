import DBPilot.Lib.Programs
import DBPilot.Supervisor.Installer

/-!
# The plugin supervisor

`PluginSupervisor` of `internal/agent/pluginsupervisor/supervisor.go`. Every section
under the supervisor's lock is a program whose commands read and write the world:
the state store, the directories of the installer, the table of running processes and
the tasks that were started. The answers of everything outside, and where the Agent
stops, come with each command. A task waits for any time, so the delays between
restarts are left out.
-/

namespace DBPilot.Supervisor

open FiniteMaps Programs Plugins
open Jobs (Instant)

structure Process where
  pid : Int
  startTicks : Nat
  startedAt : Time
  deriving DecidableEq

/-- The number of the launch tells managed processes apart, as pointers do. -/
structure ManagedProcess where
  launch : Nat
  process : Process
  request : ReconcileRequest
  installed : InstalledSlot
  deriving DecidableEq

inductive Task where
  | monitorProcess (family : String) (launch : Nat)
  /-- `monitorProcess` once it has seen the exit and waits for the lock. -/
  | processExited (family : String) (launch : Nat)
  | restartPersisted (family fingerprint : String)
  deriving DecidableEq

structure ArtifactLeaseRequest where
  assignmentID : String
  artifactID : String
  operationRevision : Nat
  deriving DecidableEq

structure DownloadedArtifact where
  archive : Except SupervisorError VerifiedPackage
  size : Int

structure Config where
  platform : Platform
  failureWindow : Nat
  failureThreshold : Nat
  /-- Which interfaces the health checker has. -/
  appliesConfiguration : Bool
  appliesTypedConfiguration : Bool
  reportsActivation : Bool

/-! Commands. -/

inductive Command where
  | get (family : String)
  | list
  | put (state : FamilyState)
  | running (family : String)
  | runningFor (assignmentID : String)
  | manage (family : String) (process : ManagedProcess)
  | forget (family : String)
  | spawn (task : Task)
  | expected (launch : Nat)
  | now
  | lease (request : ArtifactLeaseRequest)
  | download (lease : ArtifactLeaseRequest)
  | installInactive (request : InstallRequest) (slot : Slot)
  | installed (identity : SlotIdentity) (slot : Slot)
  | activate (identity : SlotIdentity) (slot : Slot)
  | removeInactive (family : String) (slot : Slot)
  | removeFamily (family : String)
  | recover (family : String)
  | startProcess (request : ReconcileRequest) (installed : InstalledSlot) (configurationRevision : Nat)
  | drainProcess (process : ManagedProcess)
  | handshake (process : ManagedProcess) (configurationRevision : Nat)
  | applyConfiguration (process : ManagedProcess) (request : ReconcileRequest) (installed : InstalledSlot)
  | applyTypedConfiguration (process : ManagedProcess) (request : ReconcileRequest)
      (command : ApplyPluginConfiguration)
  | activationState (process : ManagedProcess)

abbrev Reply : Command → Type
  | .get _ => Option FamilyState
  | .list => List FamilyState
  | .put _ => Except StateError FamilyState
  | .running _ => Option ManagedProcess
  | .runningFor _ => Option (String × ManagedProcess)
  | .manage _ _ | .forget _ | .spawn _ => Unit
  | .expected _ => Bool
  | .now => Instant
  | .lease _ => Except SupervisorError ArtifactLeaseRequest
  | .download _ => Except SupervisorError DownloadedArtifact
  | .installInactive _ _ | .installed _ _ => Except SupervisorError InstalledSlot
  | .startProcess _ _ _ => Except SupervisorError ManagedProcess
  | .activate _ _ | .removeInactive _ _ | .removeFamily _ | .recover _ | .drainProcess _ | .handshake _ _
  | .applyConfiguration _ _ _ | .applyTypedConfiguration _ _ _ => Except SupervisorError Unit
  | .activationState _ => HealthState × String

structure World (B : Type) where
  machine : Machine B
  packages : FiniteMap String FamilyTree
  running : FiniteMap String ManagedProcess
  launches : Nat
  /-- The launches that are being drained. -/
  expected : List Nat
  tasks : List Task

/-- What the outside answers to a command. -/
structure Answer (B : Type) where
  /-- The Agent stops at the command. -/
  crash : Bool := false
  faults : Faults B
  installer : InstallerFaults := {}
  now : Instant := 0
  error : Option SupervisorError := none
  lease : ArtifactLeaseRequest := ⟨"", "", 0⟩
  artifact : DownloadedArtifact := ⟨.error .installFailed, 0⟩
  process : Process := ⟨1, 1, some 0⟩
  health : HealthState × String := (.healthy, "")
  /-- Which of several families the iteration over the table finds first. -/
  family : String := ""

section handler

variable {B : Type} [StateCodec B]

def World.tree (w : World B) (family : String) : FamilyTree := (w.packages.get family).getD .empty

def World.setTree (w : World B) (family : String) (tree : FamilyTree) : World B :=
  { w with packages := w.packages.set family tree }

/-- A call of the installer on the directory of a family. -/
def World.install {α : Type} (w : World B) (family : String) (result : Except SupervisorError α × FamilyTree) :
    Except SupervisorError α × World B := (result.1, w.setTree family result.2)

def answered (error : Option SupervisorError) : Except SupervisorError Unit :=
  match error with
  | none => .ok ()
  | some e => .error e

def World.respond (config : Config) (w : World B) : (c : Command) → Answer B → Reply c × World B
  | .get family, _ => (w.machine.store.get family, w)
  | .list, _ => (w.machine.store.list, w)
  | .put state, a =>
    let (machine, result) := Plugins.put a.faults a.now state w.machine
    (result, { w with machine })
  | .running family, _ => (w.running.get family, w)
  | .runningFor assignmentID, a =>
    let found := w.running.entries.filter fun entry => entry.2.request.assignmentID = assignmentID
    ((found.find? fun entry => entry.1 = a.family).or found.head?, w)
  | .manage family process, _ => ((), { w with running := w.running.set family process })
  | .forget family, _ => ((), { w with running := w.running.erase family })
  | .spawn task, _ => ((), { w with tasks := w.tasks ++ [task] })
  | .expected launch, _ => (w.expected.contains launch, w)
  | .now, a => (a.now, w)
  | .lease _, a =>
    (match a.error with
      | some e => .error e
      | none => .ok a.lease, w)
  | .download _, a =>
    (match a.error with
      | some e => .error e
      | none => .ok a.artifact, w)
  | .installInactive request slot, a =>
    w.install request.databaseFamily
      (Supervisor.installInactive config.platform a.installer request slot (w.tree request.databaseFamily))
  | .installed identity slot, a =>
    (installedSlot config.platform a.installer identity slot (w.tree identity.databaseFamily), w)
  | .activate identity slot, a =>
    w.install identity.databaseFamily
      (activateSlot config.platform a.installer identity slot (w.tree identity.databaseFamily))
  | .removeInactive family slot, a => w.install family (removeInactiveSlot a.installer slot (w.tree family))
  | .removeFamily family, a => w.install family (removeFamilyTree a.installer (w.tree family))
  | .recover family, a => w.install family (recoverTree a.installer (w.tree family))
  | .startProcess request installed _, a =>
    match a.error with
    | some _ => (.error .processStart, w)
    | none => (.ok ⟨w.launches, a.process, request, installed⟩, { w with launches := w.launches + 1 })
  | .drainProcess process, a => (answered a.error, { w with expected := process.launch :: w.expected })
  | .handshake _ _, a | .applyConfiguration _ _ _, a | .applyTypedConfiguration _ _ _, a => (answered a.error, w)
  | .activationState _, a => (a.health, w)

def World.handle (config : Config) (w : World B) (c : Command) (a : Answer B) : Option (Reply c) × World B :=
  let (reply, next) := w.respond config c a
  (if a.crash then none else some reply, next)

end handler

abbrev Sup := Prog Command Reply

namespace Sup

def issue (c : Command) : Sup (Reply c) := perform c

def get (family : String) : Sup (Option FamilyState) := issue (.get family)
def list : Sup (List FamilyState) := issue .list
def put (state : FamilyState) : Sup (Except StateError FamilyState) := issue (.put state)
def running (family : String) : Sup (Option ManagedProcess) := issue (.running family)
def runningFor (assignmentID : String) : Sup (Option (String × ManagedProcess)) := issue (.runningFor assignmentID)
def manage (family : String) (process : ManagedProcess) : Sup Unit := issue (.manage family process)
def forget (family : String) : Sup Unit := issue (.forget family)
def spawn (task : Task) : Sup Unit := issue (.spawn task)
def expected (launch : Nat) : Sup Bool := issue (.expected launch)
def now : Sup Instant := issue .now
def lease (request : ArtifactLeaseRequest) : Sup (Except SupervisorError ArtifactLeaseRequest) :=
  issue (.lease request)
def download (lease : ArtifactLeaseRequest) : Sup (Except SupervisorError DownloadedArtifact) :=
  issue (.download lease)
def installInactive (request : InstallRequest) (slot : Slot) : Sup (Except SupervisorError InstalledSlot) :=
  issue (.installInactive request slot)
def installed (identity : SlotIdentity) (slot : Slot) : Sup (Except SupervisorError InstalledSlot) :=
  issue (.installed identity slot)
def activate (identity : SlotIdentity) (slot : Slot) : Sup (Except SupervisorError Unit) :=
  issue (.activate identity slot)
def removeInactive (family : String) (slot : Slot) : Sup (Except SupervisorError Unit) :=
  issue (.removeInactive family slot)
def removeFamily (family : String) : Sup (Except SupervisorError Unit) := issue (.removeFamily family)
def recover (family : String) : Sup (Except SupervisorError Unit) := issue (.recover family)
def startProcess (request : ReconcileRequest) (installed : InstalledSlot) (configurationRevision : Nat) :
    Sup (Except SupervisorError ManagedProcess) := issue (.startProcess request installed configurationRevision)
def drainProcess (process : ManagedProcess) : Sup (Except SupervisorError Unit) := issue (.drainProcess process)
def handshake (process : ManagedProcess) (configurationRevision : Nat) : Sup (Except SupervisorError Unit) :=
  issue (.handshake process configurationRevision)
def applyConfiguration (process : ManagedProcess) (request : ReconcileRequest) (installed : InstalledSlot) :
    Sup (Except SupervisorError Unit) := issue (.applyConfiguration process request installed)
def applyTypedConfiguration (process : ManagedProcess) (request : ReconcileRequest)
    (command : ApplyPluginConfiguration) : Sup (Except SupervisorError Unit) :=
  issue (.applyTypedConfiguration process request command)
def activationState (process : ManagedProcess) : Sup (HealthState × String) := issue (.activationState process)

end Sup

/-! The supervisor. -/

/-- The two results of a call. -/
structure Result where
  state : Option FamilyState
  error : Option SupervisorError

def processStateForError : SupervisorError → ProcessState
  | .artifactDownload | .artifactLease => .downloadFailed
  | .signatureRejected => .signatureRejected
  | .platformMismatch => .platformMismatch
  | .manifestRejected | .artifactDigest => .manifestRejected
  | .healthHandshake => .handshakeFailed
  | _ => .startFailed

def errorCode : SupervisorError → String
  | .artifactLease => "artifact_lease_rejected"
  | .artifactDownload => "artifact_download_failed"
  | .artifactDigest => "artifact_digest_rejected"
  | .signatureRejected => "signature_rejected"
  | .platformMismatch => "platform_mismatch"
  | .manifestRejected => "manifest_rejected"
  | .healthHandshake => "handshake_failed"
  | _ => "plugin_start_failed"

/-- `ProcessID, ProcessStartTicks, StartedAt = 0, 0, time.Time{}`. -/
def clearProcess (state : FamilyState) : FamilyState :=
  { state with processID := 0, processStartTicks := 0, startedAt := none }

def setProcess (state : FamilyState) (process : Process) : FamilyState :=
  { state with processID := process.pid, processStartTicks := process.startTicks, startedAt := process.startedAt }

def advanceObservation (state : FamilyState) : FamilyState :=
  { state with observationRevision := nextRevision state.observationRevision }

/-- The failures inside the window that ends now. -/
def recentFailures (config : Config) (now : Instant) (failures : List Time) : List Time :=
  failures.filter fun failure => failure.any fun failure => decide (now - config.failureWindow < failure)

/-- `recordFailure` at a given time. -/
def recordFailureAt (config : Config) (now : Instant) (state : FamilyState) (code : String) : FamilyState :=
  let failures := recentFailures config now state.failures ++ [some now]
  let state := { state with failures, restartCount := (state.restartCount + 1) % 2 ^ 32, lastErrorCode := code }
  if config.failureThreshold ≤ failures.length then { state with circuitState := .opened, processState := .circuitOpen }
  else state

/-- The slot that `install` writes to. -/
def inactiveSlot (active : Slot) : Slot := if active = .a then .b else .a

section programs

variable [Hash] (config : Config)

def recordFailure (state : FamilyState) (code : String) : Sup FamilyState := do
  let now ← Sup.now
  pure (recordFailureAt config now state code)

def fail (state : FamilyState) (processState : ProcessState) (code : String) (cause : SupervisorError) :
    Sup Result := do
  let state := clearProcess { state with processState := processState, healthState := .unhealthy }
  let state ← recordFailure config state code
  match ← Sup.put state with
  | .error e => pure ⟨none, some (.store e)⟩
  | .ok saved => pure ⟨some saved, some cause⟩

/-- A state that is stored at the end of a call. -/
def finish (state : FamilyState) : Sup Result := do
  match ← Sup.put state with
  | .error e => pure ⟨none, some (.store e)⟩
  | .ok saved => pure ⟨some saved, none⟩

def stopFamily (family : String) : Sup (Except SupervisorError Unit) := do
  match ← Sup.running family with
  | none => pure (.ok ())
  | some process =>
    match ← Sup.drainProcess process with
    | .error e => pure (.error e)
    | .ok () => do
      Sup.forget family
      pure (.ok ())

def activation (process : ManagedProcess) : Sup (HealthState × String) := do
  if config.reportsActivation then
    let (health, code) ← Sup.activationState process
    if health = .degraded ∧
        (code = "waiting_templates" ∨ code = "waiting_credentials" ∨ code = "plugin_reconcile_unavailable") then
      pure (health, code)
    else pure (.healthy, "")
  else pure (.healthy, "")

def absentState (state : FamilyState) : FamilyState :=
  clearProcess { state with
    processState := .absent, activeSlot := .none, installedVersion := "", slots := .empty
    activeArtifactID := "", activeArtifactSHA256 := "", activeManifestDigest := ""
    activeInstanceIDs := [], activeInstanceDescriptors := [], activeTemplateIDs := []
    activeTemplateConfigurations := [], boundInstanceCount := 0
    activeTemplateLeaseCommandID := "", activeTemplateReferences := [], activeInstanceTemplateRefs := []
    activeCredentialsComplete := false, restartCount := 0, failures := [], lastErrorCode := "" }

def makeAbsent (request : ReconcileRequest) (state : FamilyState) : Sup Result := do
  match ← stopFamily request.databaseFamily with
  | .error e => fail config state .startFailed "plugin_stop_failed" e
  | .ok () => do
    let state := { state with processState := .uninstalling, healthState := .unknown, circuitState := .closed }
    match ← Sup.put state with
    | .error e => pure ⟨none, some (.store e)⟩
    | .ok _ => do
      match ← Sup.removeFamily request.databaseFamily with
      | .error e => fail config state .uninstalling "plugin_uninstall_failed" e
      | .ok () => finish (absentState state)

def makeStopped (request : ReconcileRequest) (state : FamilyState) : Sup Result := do
  match ← stopFamily request.databaseFamily with
  | .error e => fail config state .startFailed "plugin_stop_failed" e
  | .ok () => finish (clearProcess { state with
      processState := .stopped, healthState := .unknown, lastErrorCode := "" })

/-- The state is the one of the last step that was taken. -/
def install (request : ReconcileRequest) (state : FamilyState) :
    Sup (FamilyState × Except SupervisorError InstalledSlot) := do
  let state := { state with processState := .downloading, healthState := .unknown }
  match ← Sup.put state with
  | .error e => pure (state, .error (.store e))
  | .ok _ => do
    let wanted : ArtifactLeaseRequest := ⟨request.assignmentID, request.artifactID, request.operationRevision⟩
    match ← Sup.lease wanted with
    | .error _ => pure (state, .error .artifactLease)
    | .ok lease =>
      if lease ≠ wanted then pure (state, .error .artifactLease)
      else do
        match ← Sup.download lease with
        | .error _ => pure (state, .error .artifactDownload)
        | .ok download => do
          let inactive := inactiveSlot state.activeSlot
          match ← Sup.removeInactive request.databaseFamily inactive with
          | .error e => pure (state, .error e)
          | .ok () => do
            let state := { state with processState := .verifying }
            match ← Sup.put state with
            | .error e => pure (state, .error (.store e))
            | .ok _ => do
              let archived : InstallRequest := ⟨request.databaseFamily, request.pluginID, request.desiredVersion,
                request.artifactSHA256, request.manifestDigest, download.archive, download.size⟩
              match ← Sup.installInactive archived inactive with
              | .error e => pure (state, .error e)
              | .ok _ => do
                match ← Sup.installed (identityFromRequest request) inactive with
                | .error e => pure (state, .error e)
                | .ok installed => do
                  let now ← Sup.now
                  let completed : SlotState :=
                    ⟨installed.version, installed.artifactSHA256, installed.manifestDigest, some now⟩
                  pure ({ state with slots := state.slots.set inactive completed }, .ok installed)

def installOnly (request : ReconcileRequest) (state : FamilyState) (final : ProcessState) : Sup Result := do
  let (next, result) ← install request state
  match result with
  | .error e => fail config next (processStateForError e) (errorCode e) e
  | .ok installed => do
    match ← Sup.activate (identityFromRequest request) installed.slot with
    | .error e => fail config next .manifestRejected "plugin_activate_failed" e
    | .ok () =>
      let next := applyActiveConfiguration
        { next with activeSlot := installed.slot, installedVersion := installed.version } request installed
      finish (clearProcess { next with
        processState := final, healthState := .unknown, circuitState := .closed, lastErrorCode := "", failures := [] })

def makeInstalled (request : ReconcileRequest) (state : FamilyState) : Sup Result := do
  match ← stopFamily request.databaseFamily with
  | .error e => fail config state .startFailed "plugin_stop_failed" e
  | .ok () =>
    if state.installedVersion = request.desiredVersion ∧ state.activeSlot ≠ .none then
      finish (clearProcess { state with
        processState := .installed, healthState := .unknown, lastErrorCode := "" })
    else installOnly config request state .installed

def rollback (request : ReconcileRequest) (old : FamilyState) (hadOldProcess : Bool) (failed : FamilyState)
    (cause : SupervisorError) : Sup Result :=
  if !hadOldProcess || old.activeSlot = .none || old.installedVersion = "" then
    fail config failed (processStateForError cause) (errorCode cause) cause
  else do
    match ← Sup.installed (identityFromActiveState old) old.activeSlot with
    | .error _ => fail config failed .rollback "plugin_rollback_failed" .rollbackFailed
    | .ok oldInstalled => do
      let rollbackRequest := { requestFromActiveState old with
        configurationRevision := request.configurationRevision
        operationRevision := request.operationRevision
        templateLeaseCommandID := if request.templateLeaseCommandID ≠ "" then request.templateLeaseCommandID
          else old.activeTemplateLeaseCommandID }
      match ← Sup.startProcess rollbackRequest oldInstalled request.configurationRevision with
      | .error _ => fail config failed .rollback "plugin_rollback_failed" .rollbackFailed
      | .ok process => do
        match ← Sup.handshake process request.configurationRevision with
        | .error _ => do
          let _ ← Sup.drainProcess process
          fail config failed .rollback "plugin_rollback_failed" .rollbackFailed
        | .ok () => do
          Sup.manage request.databaseFamily process
          let (health, _) ← activation config process
          let old := { old with
            activeConfigurationRevision := request.configurationRevision
            activeTemplateLeaseCommandID := rollbackRequest.templateLeaseCommandID
            processState := .running
            healthState := health }
          let old := advanceObservation (setProcess old process.process)
          let old := recordDesired old request (request.desiredState.getD .running)
          let old ← recordFailure config old "plugin_upgrade_rolled_back"
          match ← Sup.put old with
          | .error e => pure ⟨none, some (.store e)⟩
          | .ok saved => do
            Sup.spawn (.monitorProcess request.databaseFamily process.launch)
            pure ⟨some saved, some cause⟩

/-- The part of `makeRunning` that hands a configuration to the process that runs. -/
def reconfigure (request : ReconcileRequest) (state oldState : FamilyState) (oldProcess : ManagedProcess)
    (installed : InstalledSlot) : Sup Result := do
  let kept := { state with
    processState := oldState.processState, healthState := oldState.healthState, processID := oldState.processID
    processStartTicks := oldState.processStartTicks, startedAt := oldState.startedAt }
  let refused (cause : SupervisorError) : Sup Result := do
    match ← Sup.put { kept with lastErrorCode := "plugin_configuration_apply_failed" } with
    | .error e => pure ⟨none, some (.store e)⟩
    | .ok saved => pure ⟨some saved, some cause⟩
  if !config.appliesConfiguration then refused .healthHandshake
  else do
    match ← Sup.applyConfiguration oldProcess request installed with
    | .error e => refused e
    | .ok () => do
      let (health, code) ← activation config oldProcess
      let next := { applyActiveConfiguration kept request installed with
        processState := .running, healthState := health, circuitState := .closed, lastErrorCode := code, failures := [] }
      Sup.manage request.databaseFamily { oldProcess with request, installed }
      finish next

/-- The part of `makeRunning` after the old process is gone. -/
def launch (request : ReconcileRequest) (state oldState : FamilyState) (hadOldProcess : Bool)
    (installed : InstalledSlot) : Sup Result := do
  let state := { state with processState := .starting }
  match ← Sup.put state with
  | .error e => pure ⟨none, some (.store e)⟩
  | .ok _ => do
    match ← Sup.startProcess request installed request.configurationRevision with
    | .error e => rollback config request oldState hadOldProcess state e
    | .ok process => do
      let state := { state with processState := .handshaking }
      match ← Sup.put state with
      | .error e => do
        let _ ← Sup.drainProcess process
        pure ⟨none, some (.store e)⟩
      | .ok _ => do
        match ← Sup.handshake process request.configurationRevision with
        | .error _ => do
          let _ ← Sup.drainProcess process
          rollback config request oldState hadOldProcess state .healthHandshake
        | .ok () => do
          match ← Sup.activate (identityFromRequest request) installed.slot with
          | .error e => do
            let _ ← Sup.drainProcess process
            rollback config request oldState hadOldProcess state e
          | .ok () => do
            Sup.manage request.databaseFamily process
            let state := applyActiveConfiguration
              { state with activeSlot := installed.slot, installedVersion := installed.version } request installed
            let (health, code) ← activation config process
            let state := setProcess { state with
              processState := .running, healthState := health, circuitState := .closed
              lastErrorCode := code, failures := [] } process.process
            match ← Sup.put state with
            | .error e => pure ⟨none, some (.store e)⟩
            | .ok saved => do
              Sup.spawn (.monitorProcess request.databaseFamily process.launch)
              pure ⟨some saved, none⟩

omit [Hash] in
/-- The part of `makeRunning` that finds or installs the version. -/
def prepareSlot (request : ReconcileRequest) (state : FamilyState) :
    Sup (FamilyState × Except SupervisorError InstalledSlot) :=
  if state.installedVersion = request.desiredVersion ∧ state.activeSlot ≠ .none then do
    let result ← Sup.installed (identityFromRequest request) state.activeSlot
    pure (state, result)
  else install request state

def makeRunning (request : ReconcileRequest) (state previous : FamilyState) : Sup Result := do
  let oldProcess ← Sup.running request.databaseFamily
  if oldProcess.isSome ∧ previous.requestFingerprint = request.fingerprint ∧ previous.processState = .running then
    pure ⟨some previous, none⟩
  else do
    let (state, result) ← prepareSlot request state
    match result with
    | .error e => fail config state (processStateForError e) (errorCode e) e
    | .ok installed => do
      match oldProcess with
      | none => launch config request state previous false installed
      | some process =>
        if previous.processState = .running ∧ previous.installedVersion = request.desiredVersion ∧
            previous.activeSlot ≠ .none then reconfigure config request state previous process installed
        else do
          let state := { state with processState := .draining }
          match ← Sup.put state with
          | .error e => pure ⟨none, some (.store e)⟩
          | .ok _ => do
            match ← Sup.drainProcess process with
            | .error e => fail config state .startFailed "plugin_drain_failed" e
            | .ok () => do
              Sup.forget request.databaseFamily
              launch config request state previous true installed

/-- The requests that `Start` answers at once. -/
def refusal (request : ReconcileRequest) (current : FamilyState) (hasProcess : Bool) : Option Result :=
  if request.operationRevision < current.observedOperationRevision then some ⟨some current, some .staleOperation⟩
  else if current.observedOperationRevision < request.operationRevision then none
  else if current.requestFingerprint ≠ request.fingerprint then some ⟨some current, some .operationConflict⟩
  else if current.circuitState = .opened then some ⟨some current, some .circuitOpen⟩
  else if stateConverged current request.desiredState hasProcess then some ⟨some current, none⟩
  else none

/-- The state that a request starts from. -/
def startingState (request : ReconcileRequest) (desired : DesiredState) : Option FamilyState → FamilyState
  | none => baseState request desired
  | some current =>
    if current.observedOperationRevision < request.operationRevision then
      { current with failures := [], circuitState := .closed }
    else current

/-- The state in which the request is known and nothing is done. -/
def intendedState (request : ReconcileRequest) (desired : DesiredState) (previous : FamilyState) : FamilyState :=
  advanceObservation (recordDesired
    { previous with
      assignmentID := request.assignmentID, pluginID := request.pluginID, databaseFamily := request.databaseFamily }
    request desired)

def start (request : ReconcileRequest) (fence : ExecutionFence) : Sup Result :=
  match request.validate && fence.validate, request.desiredState with
  | true, some desired => do
    let found ← Sup.get request.databaseFamily
    let process ← Sup.running request.databaseFamily
    match found.bind fun current => refusal request current process.isSome with
    | some result => pure result
    | none => do
      let previous := startingState request desired found
      let current := intendedState request desired previous
      if current.observationRevision = 0 then pure ⟨none, some .invalidRequest⟩
      else do
        match ← Sup.put current with
        | .error e => pure ⟨none, some (.store e)⟩
        | .ok current =>
          match desired with
          | .absent => makeAbsent config request current
          | .stopped => makeStopped config request current
          | .installed => makeInstalled config request current
          | .running => makeRunning config request current previous
  | _, _ => pure ⟨none, some .invalidFence⟩

/-- `runningAssignment`. -/
def runningAssignment (assignmentID : String) : Sup (Option (String × ManagedProcess × FamilyState)) :=
  if !resourcePattern assignmentID then pure none
  else do
    match ← Sup.runningFor assignmentID with
    | none => pure none
    | some (family, process) => do
      match ← Sup.get family with
      | none => pure none
      | some state =>
        if state.assignmentID ≠ assignmentID ∨ state.databaseFamily ≠ family ∨
            state.pluginID ≠ process.request.pluginID ∨ state.installedVersion ≠ process.request.desiredVersion ∨
            state.processState ≠ .running ∨ state.processID ≠ process.process.pid ∨
            state.activeConfigurationRevision ≠ process.request.configurationRevision ∨
            state.observedOperationRevision ≠ process.request.operationRevision then pure none
        else pure (some (family, process, state))

def applyPluginConfiguration (command : ApplyPluginConfiguration) (fence : ExecutionFence) :
    Sup (Option SupervisorError) :=
  if !fence.validate then pure (some .invalidFence)
  else do
    match ← runningAssignment command.assignmentID with
    | none => pure (some .invalidFence)
    | some (family, process, state) =>
      if command.configurationRevision ≠ nextRevision state.activeConfigurationRevision ∨
          matchingTypedConfiguration process.request command = false then pure (some .invalidFence)
      else if !config.appliesTypedConfiguration then pure (some .healthHandshake)
      else do
        let next := { process.request with configurationRevision := command.configurationRevision }
        match ← Sup.applyTypedConfiguration process next command with
        | .error e => pure (some e)
        | .ok () => do
          Sup.manage family { process with request := next }
          let state := advanceObservation { state with
            desiredConfigurationRevision := next.configurationRevision
            requestFingerprint := next.fingerprint
            lastErrorCode := "" }
          match ← Sup.put (applyActiveConfiguration state next process.installed) with
          | .error e => pure (some (.store e))
          | .ok _ => pure none

omit [Hash] in
/-- `DrainPlugin`. -/
def drainPlugin (command : DrainPlugin) (fence : ExecutionFence) : Sup (Option SupervisorError) :=
  if !fence.validate ∨ command.timeoutSeconds = 0 ∨ 60 < command.timeoutSeconds then pure (some .invalidFence)
  else do
    match ← runningAssignment command.assignmentID with
    | none => pure (some .invalidFence)
    | some (family, process, state) =>
      if command.operationRevision ≠ state.observedOperationRevision then pure (some .invalidFence)
      else do
        let state := advanceObservation { state with processState := .draining }
        match ← Sup.put state with
        | .error e => pure (some (.store e))
        | .ok _ => do
          let drained ← Sup.drainProcess process
          Sup.forget family
          let state := advanceObservation (clearProcess state)
          match drained with
          | .error e => do
            let _ ← Sup.put { state with
              processState := .degraded, healthState := .unhealthy, lastErrorCode := "plugin_drain_failed" }
            pure (some e)
          | .ok () => do
            match ← Sup.put { state with
              processState := .stopped, healthState := .unknown, lastErrorCode := "" } with
            | .error e => pure (some (.store e))
            | .ok _ => pure none

/-- `monitorProcess` after `Wait`, up to the lock. -/
def monitorProcess (family : String) (launch : Nat) : Sup Unit := do
  let expected ← Sup.expected launch
  if expected then pure () else Sup.spawn (.processExited family launch)

/-- `monitorProcess` under the lock. -/
def processExited (family : String) (launch : Nat) : Sup Unit := do
  match ← Sup.running family with
  | none => pure ()
  | some process =>
    if process.launch ≠ launch then pure ()
    else do
      Sup.forget family
      match ← Sup.get family with
      | none => pure ()
      | some state =>
        if state.desiredState ≠ .running then pure ()
        else do
          let state := clearProcess { state with processState := .restarting, healthState := .unhealthy }
          let state ← recordFailure config state "plugin_process_exited"
          let _ ← Sup.put state
          if state.circuitState = .opened then pure ()
          else Sup.spawn (.restartPersisted family state.requestFingerprint)

/-- A restart that did not succeed, and the next one unless the circuit has opened. -/
def restartFailed (family fingerprint : String) (state : FamilyState) (code : String) (processState : ProcessState) :
    Sup Unit := do
  let state ← recordFailure config state code
  let state := { state with processState := processState }
  let _ ← Sup.put state
  if state.circuitState ≠ .opened then Sup.spawn (.restartPersisted family fingerprint) else pure ()

def restartPersisted (family fingerprint : String) : Sup Unit := do
  match ← Sup.running family with
  | some _ => pure ()
  | none => do
    match ← Sup.get family with
    | none => pure ()
    | some state =>
      if state.requestFingerprint ≠ fingerprint ∨ state.desiredState ≠ .running ∨ state.circuitState = .opened ∨
          state.activeSlot = .none then pure ()
      else do
        match ← Sup.installed (identityFromActiveState state) state.activeSlot with
        | .error _ => restartFailed config family fingerprint state "plugin_slot_rejected" .startFailed
        | .ok installed => do
          let request := requestFromActiveState state
          match ← Sup.startProcess request installed state.activeConfigurationRevision with
          | .error _ => restartFailed config family fingerprint state "plugin_restart_failed" .restarting
          | .ok process => do
            match ← Sup.handshake process state.activeConfigurationRevision with
            | .error _ => do
              let _ ← Sup.drainProcess process
              restartFailed config family fingerprint state "plugin_restart_failed" .restarting
            | .ok () => do
              Sup.manage family process
              let (health, code) ← activation config process
              let state := setProcess { state with
                processState := .running, healthState := health, lastErrorCode := code } process.process
              let _ ← Sup.put state
              Sup.spawn (.monitorProcess family process.launch)

omit [Hash] in
/-- The loop of `recoverDeferredPluginsOnce`: the restarts to be made, and whether to try
again. -/
def recoverStates (pending : Bool) (restarts : List Task) : List FamilyState → Sup (List Task × Bool)
  | [] => pure (restarts, pending)
  | state :: states => do
    if state.desiredState ≠ .running then recoverStates pending restarts states
    else do
      let process ← Sup.running state.databaseFamily
      match process, state.processState with
      | some process, .running =>
        if state.healthState ≠ .degraded ∨ state.lastErrorCode ≠ "waiting_credentials" then
          recoverStates pending restarts states
        else do
          match ← Sup.drainProcess process with
          | .error _ => pure ([], pending)
          | .ok () => do
            Sup.forget state.databaseFamily
            let next := advanceObservation (clearProcess { state with
              processState := .restarting, healthState := .unhealthy })
            if next.observationRevision = 0 then pure ([], pending)
            else do
              match ← Sup.put next with
              | .error _ => pure ([], pending)
              | .ok _ =>
                let restart := Task.restartPersisted state.databaseFamily state.requestFingerprint
                recoverStates pending (restarts ++ [restart]) states
      | _, _ => recoverStates true restarts states

omit [Hash] in
def spawnAll : List Task → Sup Unit
  | [] => pure ()
  | task :: tasks => do
    Sup.spawn task
    spawnAll tasks

omit [Hash] in
/-- One round of the worker of `RecoverDeferredPlugins`. -/
def recoverDeferredPluginsOnce : Sup Unit := do
  let states ← Sup.list
  let (restarts, _) ← recoverStates false [] states
  spawnAll restarts

/-- `reconcilePersistedProcess` on Linux; what it kills is outside. -/
def reconcilePersistedProcess (state : FamilyState) : Option FamilyState :=
  if state.processID ≤ 0 ∧ state.processStartTicks = 0 then none
  else some (clearProcess { state with
    processState := .stopped, healthState := .unknown, lastErrorCode := "agent_restart_reconciled" })

omit [Hash] in
def checkSlots (state : FamilyState) : List (Slot × SlotState) → Sup Bool
  | [] => pure true
  | (slot, slotState) :: rest => do
    let identity : SlotIdentity := ⟨state.databaseFamily, state.pluginID, slotState.version,
      slotState.artifactSHA256, slotState.manifestDigest⟩
    match ← Sup.installed identity slot with
    | .error _ => pure false
    | .ok _ => checkSlots state rest

omit [Hash] in
/-- The first loop of `NewPluginSupervisor`. -/
def recoverFamilies : List FamilyState → Sup Bool
  | [] => pure true
  | state :: states => do
    if state.validate = false then pure false
    else do
      match ← Sup.recover state.databaseFamily with
      | .error _ => pure false
      | .ok () => do
        if !(← checkSlots state state.slots.entries) then pure false
        else
          match reconcilePersistedProcess state with
          | none => recoverFamilies states
          | some reconciled => do
            match ← Sup.put (advanceObservation reconciled) with
            | .error _ => pure false
            | .ok _ => recoverFamilies states

omit [Hash] in
/-- `NewPluginSupervisor` on a configuration that is valid. -/
def newPluginSupervisor : Sup Bool := do
  if !(← recoverFamilies (← Sup.list)) then pure false
  else do
    let states ← Sup.list
    spawnAll ((states.filter fun state =>
      state.desiredState = .running && state.activeSlot != .none && state.circuitState != .opened).map
      fun state => .restartPersisted state.databaseFamily state.requestFingerprint)
    pure true

end programs

end DBPilot.Supervisor
