import DBPilot.Jobs.Types
import DBPilot.Lib.FiniteMap
import DBPilot.Lib.Text
import DBPilot.Lib.Wire

/-!
# The durable state of a plugin family

`FamilyState` of `internal/agent/pluginstate/store.go` with `Validate` and
`cloneFamily`. Strings are valid UTF-8, a slice is its list of values, and the
string types with a closed set of values are types: a stored text outside the set is
one that does not decode. A `time.Time` is `none` when it is the zero time.
-/

namespace DBPilot.Plugins

open FiniteMaps Text
open Jobs (Instant)
open Wire (Bytes utf8)

abbrev Time := Option Instant

inductive Slot where
  | none
  | a
  | b
  deriving DecidableEq

inductive DesiredState where
  | absent
  | installed
  | running
  | stopped
  deriving DecidableEq

inductive ProcessState where
  | absent
  | downloading
  | verifying
  | installed
  | starting
  | handshaking
  | running
  | degraded
  | restarting
  | draining
  | stopped
  | uninstalling
  | downloadFailed
  | signatureRejected
  | manifestRejected
  | platformMismatch
  | startFailed
  | handshakeFailed
  | upgrading
  | rollback
  | circuitOpen
  deriving DecidableEq

inductive HealthState where
  | unknown
  | healthy
  | degraded
  | unhealthy
  deriving DecidableEq

inductive CircuitState where
  | closed
  | opened
  | halfOpen
  deriving DecidableEq

structure SlotState where
  version : String
  artifactSHA256 : String
  manifestDigest : String
  completedAt : Time
  deriving DecidableEq

structure InstanceDescriptor where
  instanceID : String
  databaseVariant : String
  endpoint : String
  unixSocket : String
  deriving DecidableEq

structure TemplateReference where
  templateID : String
  revisionID : String
  queryDigest : String
  timeoutSeconds : Nat
  maxRows : Nat
  maxColumns : Nat
  cardinalityLimit : Nat
  deriving DecidableEq

structure InstanceTemplateReferences where
  instanceID : String
  templates : List TemplateReference
  deriving DecidableEq

structure MetricValueMapping where
  sourceColumn : String
  metricName : String
  metricType : String
  unit : String
  deriving DecidableEq

structure MetricLabelMapping where
  sourceColumn : String
  label : String
  deriving DecidableEq

structure MetricTemplateConfiguration where
  templateID : String
  revision : Nat
  queryDigest : Bytes
  queryKind : String
  readOnlyStatement : String
  collectionIntervalSeconds : Nat
  timeoutSeconds : Nat
  maxRows : Nat
  maxColumns : Nat
  valueMappings : List MetricValueMapping
  labelMappings : List MetricLabelMapping
  cardinalityLimit : Nat
  deriving DecidableEq

structure FamilyState where
  stateRevision : Nat := 0
  assignmentID : String
  pluginID : String
  databaseFamily : String
  installedVersion : String := ""
  activeArtifactID : String := ""
  activeArtifactSHA256 : String := ""
  activeManifestDigest : String := ""
  activeInstanceIDs : List String := []
  activeInstanceDescriptors : List InstanceDescriptor := []
  activeTemplateIDs : List String := []
  activeTemplateConfigurations : List (Option MetricTemplateConfiguration) := []
  activeTemplateLeaseCommandID : String := ""
  activeTemplateReferences : List TemplateReference := []
  activeInstanceTemplateRefs : List InstanceTemplateReferences := []
  activeCredentialsComplete : Bool := false
  desiredVersion : String := ""
  desiredArtifactID : String := ""
  desiredArtifactSHA256 : String := ""
  desiredManifestDigest : String := ""
  desiredConfigurationRevision : Nat
  desiredInstanceIDs : List String := []
  desiredInstanceDescriptors : List InstanceDescriptor := []
  desiredTemplateIDs : List String := []
  desiredTemplateConfigurations : List (Option MetricTemplateConfiguration) := []
  desiredTemplateLeaseCommandID : String := ""
  desiredTemplateReferences : List TemplateReference := []
  desiredInstanceTemplateRefs : List InstanceTemplateReferences := []
  desiredCredentialsComplete : Bool := false
  requestFingerprint : String
  activeSlot : Slot
  slots : FiniteMap Slot SlotState := .empty
  desiredState : DesiredState
  processState : ProcessState
  processID : Int := 0
  processStartTicks : Nat := 0
  startedAt : Time := none
  restartCount : Nat := 0
  failures : List Time := []
  circuitState : CircuitState
  healthState : HealthState
  activeConfigurationRevision : Nat
  observedOperationRevision : Nat
  observationRevision : Nat := 0
  boundInstanceCount : Nat := 0
  lastErrorCode : String := ""
  deriving DecidableEq

/-! `Validate`. -/

def isLower (c : Char) : Bool := 'a' ≤ c && c ≤ 'z'

/-- `^[a-z][a-z0-9_.-]{0,127}$`. -/
def identifierPattern (value : String) : Bool :=
  match value.toList with
  | [] => false
  | first :: rest => isLower first && rest.length ≤ 127 &&
      rest.all fun c => isLower c || isDigit c || c = '_' || c = '.' || c = '-'

/-- `^[A-Za-z0-9][A-Za-z0-9_.:-]{0,127}$`. -/
def resourcePattern (value : String) : Bool :=
  match value.toList with
  | [] => false
  | first :: rest => (isLetter first || isDigit first) && rest.length ≤ 127 &&
      rest.all fun c => isLetter c || isDigit c || c = '_' || c = '.' || c = ':' || c = '-'

def hexDigest (value : String) : Bool :=
  (utf8 value).length = 64 && value.toList.all fun c => isDigit c || 'a' ≤ c && c ≤ 'f'

/-- `filepath.Base` of a Unix path. -/
def pathBase (path : List Char) : List Char :=
  if path.isEmpty then ['.']
  else
    let last := (path.reverse.dropWhile (· = '/')).takeWhile (· ≠ '/')
    if last.isEmpty then ['/'] else last.reverse

def boundedText (value : String) (maximum : Nat) : Bool :=
  value != "" && (utf8 value).length ≤ maximum && value.toList = pathBase value.toList &&
    value.toList.all fun c => c != '\x00' && c != '\r' && c != '\n' && c != '\t'

def validOptionalArtifact (id artifactDigest manifestDigest : String) : Bool :=
  id = "" && artifactDigest = "" && manifestDigest = "" ||
    resourcePattern id && hexDigest artifactDigest && hexDigest manifestDigest

def validIDs (values : List String) : Bool := values.all resourcePattern && decide values.Nodup

def validDescriptors (instanceIDs : List String) (values : List InstanceDescriptor) : Bool :=
  values.isEmpty ||
    values.length = instanceIDs.length && values.length ≤ 128 &&
      (values.all fun value =>
        instanceIDs.contains value.instanceID && resourcePattern value.instanceID &&
          identifierPattern value.databaseVariant && (value.endpoint == "") != (value.unixSocket == "") &&
          (utf8 value.endpoint).length ≤ 512 && (utf8 value.unixSocket).length ≤ 512) &&
      decide (values.map (·.instanceID)).Nodup

def validReference (reference : TemplateReference) : Bool :=
  resourcePattern reference.templateID && resourcePattern reference.revisionID && hexDigest reference.queryDigest &&
    reference.timeoutSeconds != 0 && reference.timeoutSeconds ≤ 30 && reference.maxRows != 0 &&
    reference.maxRows ≤ 100 && reference.maxColumns != 0 && reference.maxColumns ≤ 32 &&
    reference.cardinalityLimit != 0 && reference.cardinalityLimit ≤ 10000

def validPublicTemplateReferences (templateIDs instanceIDs : List String) (commandID : String)
    (references : List TemplateReference) (instances : List InstanceTemplateReferences) : Bool :=
  if references.isEmpty then commandID = "" && instances.isEmpty
  else
    resourcePattern commandID && references.length ≤ 128 && instances.length = instanceIDs.length &&
      references.all validReference && decide (references.map (·.revisionID)).Nodup &&
      (references.map (·.templateID)).dedup.length = templateIDs.length &&
      (templateIDs.all fun id => (references.map (·.templateID)).contains id) &&
      (instances.all fun instanceRefs =>
        instanceIDs.contains instanceRefs.instanceID &&
          (instanceRefs.templates.all fun reference => references.contains reference) &&
          decide (instanceRefs.templates.map (·.templateID)).Nodup) &&
      decide (instances.map (·.instanceID)).Nodup &&
      -- Every reference is used by an instance.
      references.all fun reference => instances.any fun instanceRefs => instanceRefs.templates.contains reference

section sizes

open Wire

def MetricValueMapping.encoded (mapping : MetricValueMapping) : Bytes :=
  encode (text 1 mapping.sourceColumn ++ text 2 mapping.metricName ++ text 3 mapping.metricType ++
    text 4 mapping.unit)

def MetricLabelMapping.encoded (mapping : MetricLabelMapping) : Bytes :=
  encode (text 1 mapping.sourceColumn ++ text 2 mapping.label)

/-- `proto.Size`. -/
def MetricTemplateConfiguration.size (template : MetricTemplateConfiguration) : Nat :=
  (encode (text 1 template.templateID ++ number 2 template.revision ++ blob 3 template.queryDigest ++
    text 4 template.queryKind ++ text 5 template.readOnlyStatement ++
    number 6 template.collectionIntervalSeconds ++ number 7 template.timeoutSeconds ++ number 8 template.maxRows ++
    number 9 template.maxColumns ++ embedded 10 (template.valueMappings.map (·.encoded)) ++
    embedded 11 (template.labelMappings.map (·.encoded)) ++ number 12 template.cardinalityLimit)).length

end sizes

def validTemplate (template : MetricTemplateConfiguration) : Bool :=
  template.revision != 0 && template.queryDigest.length = 32 && template.queryKind = "sql" &&
    template.readOnlyStatement != "" && (utf8 template.readOnlyStatement).length ≤ 65536 &&
    (template.readOnlyStatement.toList.all fun c => c != '\x00' && c != '\r') &&
    10 ≤ template.collectionIntervalSeconds && template.timeoutSeconds != 0 && template.timeoutSeconds ≤ 30 &&
    template.maxRows != 0 && template.maxRows ≤ 100 && template.maxColumns != 0 && template.maxColumns ≤ 32 &&
    !template.valueMappings.isEmpty && template.valueMappings.length ≤ 32 && template.labelMappings.length ≤ 16

def validTemplateProjection (templateIDs : List String) (values : List (Option MetricTemplateConfiguration)) :
    Bool :=
  values.isEmpty ||
    values.length = templateIDs.length && values.length ≤ 128 &&
      match values.allSome with
      | none => false
      | some templates => templates.all validTemplate &&
          (templates.map (·.size)).sum ≤ 262144 &&
          (templates.all fun template => templateIDs.contains template.templateID) &&
          decide (templates.map (·.templateID)).Nodup

def validSlot (slot : Slot) (value : SlotState) : Bool :=
  slot != .none && boundedText value.version 64 && hexDigest value.artifactSHA256 &&
    hexDigest value.manifestDigest && value.completedAt.isSome

def FamilyState.validate (state : FamilyState) : Bool :=
  resourcePattern state.assignmentID && identifierPattern state.pluginID && identifierPattern state.databaseFamily &&
    state.observedOperationRevision != 0 && state.activeConfigurationRevision != 0 &&
    state.desiredConfigurationRevision != 0 && state.boundInstanceCount ≤ 128 && state.failures.length ≤ 32 &&
    hexDigest state.requestFingerprint && state.activeInstanceIDs.length ≤ 128 &&
    state.activeTemplateIDs.length ≤ 128 && state.desiredInstanceIDs.length ≤ 128 &&
    state.desiredTemplateIDs.length ≤ 128 &&
    0 ≤ state.processID && (state.processID == 0) == (state.processStartTicks == 0) &&
    (state.installedVersion = "" || boundedText state.installedVersion 64) &&
    (state.desiredVersion = "" || boundedText state.desiredVersion 64) &&
    (state.lastErrorCode = "" || identifierPattern state.lastErrorCode) &&
    state.boundInstanceCount = state.activeInstanceIDs.length &&
    validOptionalArtifact state.activeArtifactID state.activeArtifactSHA256 state.activeManifestDigest &&
    validOptionalArtifact state.desiredArtifactID state.desiredArtifactSHA256 state.desiredManifestDigest &&
    validIDs state.activeInstanceIDs && validIDs state.activeTemplateIDs && validIDs state.desiredInstanceIDs &&
    validIDs state.desiredTemplateIDs &&
    validDescriptors state.activeInstanceIDs state.activeInstanceDescriptors &&
    validDescriptors state.desiredInstanceIDs state.desiredInstanceDescriptors &&
    validTemplateProjection state.activeTemplateIDs state.activeTemplateConfigurations &&
    validTemplateProjection state.desiredTemplateIDs state.desiredTemplateConfigurations &&
    validPublicTemplateReferences state.activeTemplateIDs state.activeInstanceIDs state.activeTemplateLeaseCommandID
      state.activeTemplateReferences state.activeInstanceTemplateRefs &&
    validPublicTemplateReferences state.desiredTemplateIDs state.desiredInstanceIDs
      state.desiredTemplateLeaseCommandID state.desiredTemplateReferences state.desiredInstanceTemplateRefs &&
    (state.activeTemplateReferences.isEmpty || state.activeTemplateConfigurations.isEmpty) &&
    (state.desiredTemplateReferences.isEmpty || state.desiredTemplateConfigurations.isEmpty) &&
    (state.slots.entries.all fun entry => validSlot entry.1 entry.2) &&
    state.failures.all (·.isSome)

/-! Copies. -/

def cloneTemplates (values : List (Option MetricTemplateConfiguration)) : List (Option MetricTemplateConfiguration) :=
  values.map fun value => match value with
    | some template => some { template with }
    | none => none

def cloneInstanceTemplateRefs (values : List InstanceTemplateReferences) : List InstanceTemplateReferences :=
  values.map fun value => { value with templates := [] ++ value.templates }

/-- The loop over the slots ranges over the map that was just made. -/
def cloneFamily (state : FamilyState) : FamilyState :=
  { state with
    failures := [] ++ state.failures
    activeInstanceIDs := [] ++ state.activeInstanceIDs
    activeInstanceDescriptors := [] ++ state.activeInstanceDescriptors
    activeTemplateIDs := [] ++ state.activeTemplateIDs
    activeTemplateConfigurations := cloneTemplates state.activeTemplateConfigurations
    activeTemplateReferences := [] ++ state.activeTemplateReferences
    activeInstanceTemplateRefs := cloneInstanceTemplateRefs state.activeInstanceTemplateRefs
    desiredInstanceIDs := [] ++ state.desiredInstanceIDs
    desiredInstanceDescriptors := [] ++ state.desiredInstanceDescriptors
    desiredTemplateIDs := [] ++ state.desiredTemplateIDs
    desiredTemplateConfigurations := cloneTemplates state.desiredTemplateConfigurations
    desiredTemplateReferences := [] ++ state.desiredTemplateReferences
    desiredInstanceTemplateRefs := cloneInstanceTemplateRefs state.desiredInstanceTemplateRefs
    slots :=
      let made : FiniteMap Slot SlotState := .empty
      made.entries.foldl (fun slots entry => slots.set entry.1 entry.2) made }

end DBPilot.Plugins
