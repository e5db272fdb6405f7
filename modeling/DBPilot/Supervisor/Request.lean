import DBPilot.Plugins.State

/-!
# Requests to the plugin supervisor

`ReconcileRequest` of `internal/agent/pluginsupervisor/model.go` with its checks and
its fingerprint, and what the supervisor makes of a request and of a stored state. The
copies that the code makes of slices and messages are the values themselves, and the
instance descriptors of the two packages are one type. SHA-256 is a parameter.
-/

namespace DBPilot.Supervisor

open FiniteMaps Text Plugins
open Jobs (isTrimmed)
open Wire (Bytes utf8)

/-- `sha256.Sum256`. -/
class Hash where
  sum256 : Bytes → Bytes

structure TemplateReference where
  templateID : String
  revisionID : String
  queryDigest : Bytes
  timeoutSeconds : Nat
  maxRows : Nat
  maxColumns : Nat
  cardinalityLimit : Nat
  deriving DecidableEq

structure InstanceTemplateReferences where
  instanceID : String
  templates : List TemplateReference
  deriving DecidableEq

structure ReconcileRequest where
  assignmentID : String
  pluginID : String
  databaseFamily : String
  desiredVersion : String := ""
  /-- Nothing is the unspecified state. -/
  desiredState : Option DesiredState
  artifactID : String := ""
  artifactSHA256 : Bytes := []
  manifestDigest : Bytes := []
  configurationRevision : Nat
  operationRevision : Nat
  instanceIDs : List String := []
  instanceDescriptors : List InstanceDescriptor := []
  templateIDs : List String := []
  templateConfigurations : List (Option MetricTemplateConfiguration) := []
  templateLeaseCommandID : String := ""
  templateReferences : List TemplateReference := []
  instanceTemplateRefs : List InstanceTemplateReferences := []
  credentialsComplete : Bool := false
  deriving DecidableEq

structure ExecutionFence where
  commandID : String
  executionToken : Bytes
  leaseRevision : Nat
  startedAt : Time

/-! The projection of a request to the stored state, and back. -/

def TemplateReference.stored (value : TemplateReference) : Plugins.TemplateReference where
  templateID := value.templateID
  revisionID := value.revisionID
  queryDigest := hex value.queryDigest
  timeoutSeconds := value.timeoutSeconds
  maxRows := value.maxRows
  maxColumns := value.maxColumns
  cardinalityLimit := value.cardinalityLimit

def stateTemplateReferences (values : List TemplateReference) : List Plugins.TemplateReference := values.map (·.stored)

def stateInstanceTemplateReferences (values : List InstanceTemplateReferences) :
    List Plugins.InstanceTemplateReferences :=
  values.map fun value => ⟨value.instanceID, stateTemplateReferences value.templates⟩

def hexValue (c : Char) : Option Nat :=
  if isDigit c then some (c.toNat - '0'.toNat)
  else if 'a' ≤ c && c ≤ 'f' then some (c.toNat - 'a'.toNat + 10)
  else if 'A' ≤ c && c ≤ 'F' then some (c.toNat - 'A'.toNat + 10)
  else none

/-- `hex.DecodeString`, whose error is ignored: what comes before it is returned. -/
def unhex : List Char → Bytes
  | high :: low :: rest =>
    match hexValue high, hexValue low with
    | some high, some low => UInt8.ofNat (16 * high + low) :: unhex rest
    | _, _ => []
  | _ => []

def supervisorTemplateReferences (values : List Plugins.TemplateReference) : List TemplateReference :=
  values.map fun value => ⟨value.templateID, value.revisionID, unhex value.queryDigest.toList, value.timeoutSeconds,
    value.maxRows, value.maxColumns, value.cardinalityLimit⟩

def supervisorInstanceTemplateReferences (values : List Plugins.InstanceTemplateReferences) :
    List InstanceTemplateReferences :=
  values.map fun value => ⟨value.instanceID, supervisorTemplateReferences value.templates⟩

/-! Checks. -/

def boundedVersion (value : String) : Bool :=
  value != "" && (utf8 value).length ≤ 64 && isTrimmed value &&
    value.toList.all fun c => !(c = '\x00' || c = '\r' || c = '\n' || c = '\t' || c = '/' || c = '\\' || c = ':')

def validInstanceDescriptors (instanceIDs : List String) (descriptors : List InstanceDescriptor) : Bool :=
  descriptors.isEmpty ||
    descriptors.length = instanceIDs.length && descriptors.length ≤ 128 &&
      (descriptors.all fun descriptor =>
        resourcePattern descriptor.instanceID && identifierPattern descriptor.databaseVariant &&
          (descriptor.endpoint == "") != (descriptor.unixSocket == "") &&
          (utf8 descriptor.endpoint).length ≤ 512 && (utf8 descriptor.unixSocket).length ≤ 512 &&
          (descriptor.endpoint = "" || isTrimmed descriptor.endpoint &&
            descriptor.endpoint.toList.all fun c => !(c = '/' || c = '?' || c = '#' || c = '@')) &&
          (descriptor.unixSocket = "" || descriptor.unixSocket.toList.head? = some '/' &&
            !Text.contains ['.', '.'] descriptor.unixSocket.toList) &&
          instanceIDs.contains descriptor.instanceID) &&
      decide (descriptors.map (·.instanceID)).Nodup

/-- The checks of the two packages are the same, up to the text of a digest. -/
def validTemplateReferences (templateIDs instanceIDs : List String) (commandID : String)
    (references : List TemplateReference) (instances : List InstanceTemplateReferences) : Bool :=
  validPublicTemplateReferences templateIDs instanceIDs commandID (stateTemplateReferences references)
    (stateInstanceTemplateReferences instances)

def ReconcileRequest.completeArtifactIdentity (request : ReconcileRequest) : Bool :=
  boundedVersion request.desiredVersion && resourcePattern request.artifactID &&
    request.artifactSHA256.length = 32 && request.manifestDigest.length = 32

def optionalArtifactIdentity (request : ReconcileRequest) : Bool :=
  request.desiredVersion = "" && request.artifactID = "" && request.artifactSHA256.isEmpty &&
    request.manifestDigest.isEmpty || request.completeArtifactIdentity

def ReconcileRequest.validate (request : ReconcileRequest) : Bool :=
  resourcePattern request.assignmentID && identifierPattern request.pluginID &&
    identifierPattern request.databaseFamily && request.configurationRevision != 0 &&
    request.operationRevision != 0 && request.instanceIDs.length ≤ 128 && request.templateIDs.length ≤ 128 &&
    validIDs request.instanceIDs && validIDs request.templateIDs &&
    validInstanceDescriptors request.instanceIDs request.instanceDescriptors &&
    validTemplateProjection request.templateIDs request.templateConfigurations &&
    validTemplateReferences request.templateIDs request.instanceIDs request.templateLeaseCommandID
      request.templateReferences request.instanceTemplateRefs &&
    (request.templateReferences.isEmpty || request.templateConfigurations.isEmpty) &&
    match request.desiredState with
    | some .absent | some .stopped => optionalArtifactIdentity request
    | some .installed | some .running => request.completeArtifactIdentity
    | none => false

def ExecutionFence.validate (fence : ExecutionFence) : Bool :=
  resourcePattern fence.commandID && fence.executionToken.length = 32 && fence.leaseRevision != 0 &&
    fence.startedAt.isSome

/-! The fingerprint. -/

section fingerprint

open Wire in
/-- `proto.Marshal`. -/
def templateBytes (template : MetricTemplateConfiguration) : Bytes :=
  encode (text 1 template.templateID ++ number 2 template.revision ++ blob 3 template.queryDigest ++
    text 4 template.queryKind ++ text 5 template.readOnlyStatement ++
    number 6 template.collectionIntervalSeconds ++ number 7 template.timeoutSeconds ++ number 8 template.maxRows ++
    number 9 template.maxColumns ++ embedded 10 (template.valueMappings.map (·.encoded)) ++
    embedded 11 (template.labelMappings.map (·.encoded)) ++ number 12 template.cardinalityLimit)

def sortStrings (values : List String) : List String := values.insertionSort (· ≤ ·)

def desiredNumber : Option DesiredState → Nat
  | none => 0
  | some .absent => 1
  | some .installed => 2
  | some .running => 3
  | some .stopped => 4

def TemplateReference.parts (reference : TemplateReference) : List String :=
  [reference.templateID, reference.revisionID, hex reference.queryDigest, toString reference.timeoutSeconds,
    toString reference.maxRows, toString reference.maxColumns, toString reference.cardinalityLimit]

def ReconcileRequest.parts (request : ReconcileRequest) : List String :=
  let instances := sortStrings request.instanceIDs
  let templates := sortStrings request.templateIDs
  let descriptors := request.instanceDescriptors.insertionSort fun x y => x.instanceID ≤ y.instanceID
  let configurations := request.templateConfigurations.insertionSort fun x y =>
    (x.elim "" (·.templateID)) ≤ (y.elim "" (·.templateID))
  [request.assignmentID, request.pluginID, request.databaseFamily, request.desiredVersion,
    toString (desiredNumber request.desiredState), request.artifactID, hex request.artifactSHA256,
    hex request.manifestDigest, toString request.configurationRevision, toString request.operationRevision] ++
  ["instances", toString instances.length] ++ instances ++
  ["descriptors", toString descriptors.length] ++
  (descriptors.flatMap fun d => [d.instanceID, d.databaseVariant, d.endpoint, d.unixSocket]) ++
  ["templates", toString templates.length] ++ templates ++
  ["credentials_complete", toString request.credentialsComplete] ++
  ["template_configurations", toString configurations.length] ++
  (configurations.map fun configuration => hex (configuration.elim [] templateBytes)) ++
  ["template_lease_command", request.templateLeaseCommandID, "template_references",
    toString request.templateReferences.length] ++
  request.templateReferences.flatMap (·.parts) ++
  request.instanceTemplateRefs.flatMap fun refs =>
    ["instance_templates", refs.instanceID] ++ refs.templates.map (·.revisionID)

/-- Every part after its length. -/
def lengthPrefixed (parts : List String) : Bytes :=
  parts.flatMap fun part => utf8 (toString (utf8 part).length ++ ":" ++ part)

def ReconcileRequest.fingerprint [Hash] (request : ReconcileRequest) : String :=
  hex (Hash.sum256 (lengthPrefixed request.parts))

end fingerprint

/-! Stored states. -/

section states

variable [Hash]

/-- What `Start`, `rollback` and `baseState` store of the request. -/
def recordDesired (state : FamilyState) (request : ReconcileRequest) (desired : DesiredState) : FamilyState :=
  { state with
    desiredState := desired
    desiredVersion := request.desiredVersion
    desiredArtifactID := request.artifactID
    desiredArtifactSHA256 := hex request.artifactSHA256
    desiredManifestDigest := hex request.manifestDigest
    desiredConfigurationRevision := request.configurationRevision
    desiredInstanceIDs := sortStrings request.instanceIDs
    desiredInstanceDescriptors := request.instanceDescriptors
    desiredTemplateIDs := sortStrings request.templateIDs
    desiredTemplateConfigurations := request.templateConfigurations
    desiredTemplateLeaseCommandID := request.templateLeaseCommandID
    desiredTemplateReferences := stateTemplateReferences request.templateReferences
    desiredInstanceTemplateRefs := stateInstanceTemplateReferences request.instanceTemplateRefs
    desiredCredentialsComplete := request.credentialsComplete
    requestFingerprint := request.fingerprint
    observedOperationRevision := request.operationRevision }

def baseState (request : ReconcileRequest) (desired : DesiredState) : FamilyState :=
  recordDesired
    { assignmentID := request.assignmentID
      pluginID := request.pluginID
      databaseFamily := request.databaseFamily
      activeSlot := .none
      desiredState := desired
      desiredConfigurationRevision := request.configurationRevision
      requestFingerprint := request.fingerprint
      processState := .absent
      healthState := .unknown
      circuitState := .closed
      activeConfigurationRevision := request.configurationRevision
      observedOperationRevision := request.operationRevision } request desired

omit [Hash]

/-- What the supervisor keeps of a slot: the paths and the lists of the manifest only go
to the process and to the health checker. -/
structure InstalledSlot where
  slot : Slot
  version : String
  executableSHA256 : String
  artifactSHA256 : String
  manifestDigest : String
  deriving DecidableEq

def applyActiveConfiguration (state : FamilyState) (request : ReconcileRequest) (installed : InstalledSlot) :
    FamilyState :=
  { state with
    activeConfigurationRevision := request.configurationRevision
    activeArtifactID := request.artifactID
    activeArtifactSHA256 := installed.artifactSHA256
    activeManifestDigest := installed.manifestDigest
    activeInstanceIDs := sortStrings request.instanceIDs
    activeInstanceDescriptors := request.instanceDescriptors
    activeTemplateIDs := sortStrings request.templateIDs
    activeTemplateConfigurations := request.templateConfigurations
    activeTemplateLeaseCommandID := request.templateLeaseCommandID
    activeTemplateReferences := stateTemplateReferences request.templateReferences
    activeInstanceTemplateRefs := stateInstanceTemplateReferences request.instanceTemplateRefs
    activeCredentialsComplete := request.credentialsComplete
    boundInstanceCount := request.instanceIDs.length % 2 ^ 32 }

def requestFromActiveState (state : FamilyState) : ReconcileRequest where
  assignmentID := state.assignmentID
  pluginID := state.pluginID
  databaseFamily := state.databaseFamily
  desiredVersion := state.installedVersion
  desiredState := some .running
  artifactID := state.activeArtifactID
  artifactSHA256 := unhex state.activeArtifactSHA256.toList
  manifestDigest := unhex state.activeManifestDigest.toList
  configurationRevision := state.activeConfigurationRevision
  operationRevision := state.observedOperationRevision
  instanceIDs := state.activeInstanceIDs
  instanceDescriptors := state.activeInstanceDescriptors
  templateIDs := state.activeTemplateIDs
  templateConfigurations := state.activeTemplateConfigurations
  templateLeaseCommandID := state.activeTemplateLeaseCommandID
  templateReferences := supervisorTemplateReferences state.activeTemplateReferences
  instanceTemplateRefs := supervisorInstanceTemplateReferences state.activeInstanceTemplateRefs
  credentialsComplete := state.activeCredentialsComplete

structure SlotIdentity where
  databaseFamily : String
  pluginID : String
  version : String
  artifactSHA256 : String
  manifestDigest : String
  deriving DecidableEq

def identityFromRequest (request : ReconcileRequest) : SlotIdentity where
  databaseFamily := request.databaseFamily
  pluginID := request.pluginID
  version := request.desiredVersion
  artifactSHA256 := hex request.artifactSHA256
  manifestDigest := hex request.manifestDigest

def identityFromActiveState (state : FamilyState) : SlotIdentity where
  databaseFamily := state.databaseFamily
  pluginID := state.pluginID
  version := state.installedVersion
  artifactSHA256 := state.activeArtifactSHA256
  manifestDigest := state.activeManifestDigest

def stateConverged (state : FamilyState) (desired : Option DesiredState) (hasProcess : Bool) : Bool :=
  match desired with
  | some .absent => state.processState = .absent
  | some .stopped => state.processState = .stopped && !hasProcess
  | some .installed =>
    (state.processState = .installed || state.processState = .stopped) && state.activeSlot != .none
  | some .running => state.processState = .running && hasProcess
  | none => false

end states

/-! The commands of the control plane for a running plugin. -/

structure TypedTemplate where
  templateID : String
  revision : Nat
  queryDigest : Bytes
  deriving DecidableEq

structure PluginInstanceConfiguration where
  instanceID : String
  credentialRevision : Nat
  databaseVariant : String
  endpoint : String
  unixSocket : String
  templates : List TypedTemplate
  deriving DecidableEq

structure ApplyPluginConfiguration where
  assignmentID : String
  configurationRevision : Nat
  instances : List PluginInstanceConfiguration
  deriving DecidableEq

structure DrainPlugin where
  assignmentID : String
  operationRevision : Nat
  timeoutSeconds : Nat
  deriving DecidableEq

/-- The loop that takes every value off a map, under its key and when it matches. -/
def takeAll {α β : Type} (key : β → String) (fits : α → β → Bool) : FiniteMap String α → List β → Bool
  | left, [] => left.entries.isEmpty
  | left, value :: rest =>
    match left.get (key value) with
    | none => false
    | some wanted => fits wanted value && takeAll key fits (left.erase (key value)) rest

def indexed {α : Type} (key : α → String) (values : List α) : FiniteMap String α :=
  values.foldl (fun m value => m.set (key value) value) .empty

def matchingTypedTemplates (request : ReconcileRequest) (configuration : PluginInstanceConfiguration) : Bool :=
  if !request.instanceTemplateRefs.isEmpty then
    let references := match request.instanceTemplateRefs.find? (·.instanceID = configuration.instanceID) with
      | some refs => refs.templates
      | none => []
    let ids := indexed (·.templateID) references
    ids.entries.length = configuration.templates.length &&
      takeAll (·.templateID) (fun reference template =>
        template.revision != 0 && template.queryDigest = reference.queryDigest) ids configuration.templates
  else
    request.templateConfigurations.length = configuration.templates.length &&
      takeAll (·.templateID)
        (fun current template => current.any fun current =>
          current.revision = template.revision && current.queryDigest = template.queryDigest)
        (indexed (fun current => current.elim "" (·.templateID)) request.templateConfigurations)
        configuration.templates

def matchingTypedConfiguration (request : ReconcileRequest) (command : ApplyPluginConfiguration) : Bool :=
  command.assignmentID = request.assignmentID && command.instances.length = request.instanceDescriptors.length &&
    !command.instances.isEmpty &&
    takeAll (·.instanceID)
      (fun descriptor configuration => configuration.credentialRevision != 0 &&
        configuration.databaseVariant = descriptor.databaseVariant &&
        configuration.endpoint = descriptor.endpoint && configuration.unixSocket = descriptor.unixSocket &&
        matchingTypedTemplates request configuration)
      (indexed (·.instanceID) request.instanceDescriptors) command.instances

end DBPilot.Supervisor
