import DBPilot.Catalog.Extraction

/-!
# What is signed is what is installed

The verifier and the installer walk the archive one after the other, with different
rules for names and for what they accept. Where both accept, the regular files that
are written are those of the manifest beside the manifest and the signature, and the
content digest, which the signature covers, determines them.
-/

namespace DBPilot.Catalog

open Paths Text
open Supervisor (Hash)
open Wire (Bytes utf8)

/-- The place of the signature file in a stage. -/
def signatureName : List Path := [utf8 "SIGNATURE.ed25519"]

def manifestName : List Path := [utf8 "manifest.json"]

lemma holds_manifestPath (stage : Stage) : stage.holds manifestPath = stage.parts ++ manifestName := by
  rw [stage.holds_eq (by decide +kernel)]
  have name : components (relativePath manifestPath) = manifestName := by decide +kernel
  rw [name]

lemma holds_signaturePath (stage : Stage) : stage.holds signaturePath = stage.parts ++ signatureName := by
  rw [stage.holds_eq (by decide +kernel)]
  have name : components (relativePath signaturePath) = signatureName := by decide +kernel
  rw [name]

section installations

/-- A package that `Verify` accepted and that was unpacked into a stage. -/
structure Installation [Hash] [Formats] where
  verifier : StreamingPackageVerifier
  source : Bytes
  declaredBytes : Int
  verified : VerifiedPackage
  accepted : verifier.verify source declaredBytes = .ok verified
  stage : Stage
  before : Tree
  after : Tree
  unpacked : extractVerifiedArchive verified.archive stage before = some after

variable [Hash] [Formats]

variable {content : Bytes}

namespace Installation

/-- The call wrote a regular file. -/
def Writes (one : Installation) (path : List Path) (content : Bytes) : Prop :=
  one.before path = none ∧ ∃ mode, one.after path = some (.regular mode content)

/-- What is hashed for the content digest: the files, and the text that lists them. -/
def hashed (one : Installation) : List Bytes :=
  match Formats.gunzip one.source with
  | none => []
  | some (stream, _) =>
    let files := (Formats.tar stream).regular
    logicalContent (files.map entryOf) :: files.map (·.2)

def Collisionless (one other : Installation) : Prop :=
  ∀ text ∈ one.hashed, ∀ text' ∈ other.hashed, Hash.sum256 text = Hash.sum256 text' → text = text'

instance (one other : Installation) : Decidable (Collisionless one other) :=
  inferInstanceAs (Decidable (∀ _ ∈ _, ∀ _ ∈ _, _ → _))

/-- The two walks see the same regular files. -/
structure Reads (one : Installation) (files : List (Path × Bytes)) : Prop where
  canonical : ∀ file ∈ files, canonicalArchivePath file.1 false = some file.1
  manifest : ∃ content, (manifestPath, content) ∈ files
  signature : ∃ content, (signaturePath, content) ∈ files
  covers : Covers one.verified.manifest (files.map entryOf)
  content : one.verified.contentDigest = hex (logicalContentDigest (files.map entryOf))
  hashed : one.hashed = logicalContent (files.map entryOf) :: files.map (·.2)
  unpacks : Unpacks one.stage files one.before one.after

theorem reads (one : Installation) : ∃ files, one.Reads files := by
  obtain ⟨archive, stream, accepted⟩ := StreamingPackageVerifier.verify_accepted one.accepted
  obtain ⟨trailing, expands⟩ := accepted.expands
  have unpacked := one.unpacked
  unfold extractVerifiedArchive at unpacked
  rw [archive, expands] at unpacked
  refine ⟨(Formats.tar stream).regular, accepted.canonical, accepted.manifest, accepted.signature, accepted.covers,
    accepted.content, ?_, extractEntries_unpacks accepted.canonical unpacked⟩
  unfold hashed
  rw [expands]

variable {one other : Installation} {files files' : List (Path × Bytes)}

section

variable (reads : one.Reads files)
include reads

lemma Reads.writes_iff {path : List Path} :
    one.Writes path content ↔ ∃ file ∈ files, path = one.stage.holds file.1 ∧ content = file.2 := by
  constructor
  · rintro ⟨fresh, mode, written⟩
    rcases reads.unpacks.only path mode content written with old | new
    · rw [fresh] at old
      cases old
    · exact new
  · rintro ⟨file, member, rfl, rfl⟩
    exact reads.unpacks.writes file member

/-- Every file has its own place. -/
lemma Reads.content_eq {file : Path × Bytes} (member : file ∈ files)
    (written : one.Writes (one.stage.holds file.1) content) : content = file.2 := by
  obtain ⟨mode, there⟩ := written.2
  obtain ⟨mode', here⟩ := (reads.unpacks.writes file member).2
  rw [there] at here
  cases here
  rfl

lemma Reads.below {path : List Path} (written : one.Writes path content) :
    ∃ below, path = one.stage.parts ++ below ∧ below ≠ [] ∧ ∀ part ∈ below, Proper part := by
  obtain ⟨file, member, rfl, _⟩ := reads.writes_iff.mp written
  have canonical := reads.canonical file member
  exact ⟨components (relativePath file.1), one.stage.holds_eq canonical, List.splitOnP_ne_nil _ _,
    (components_relativePath canonical).2⟩

/-- A file other than the signature whose entry is listed is written. -/
lemma Reads.transfer (reads' : other.Reads files') (collisionless : Collisionless one other)
    (same : one.verified.contentDigest = other.verified.contentDigest) {file : Path × Bytes} (member : file ∈ files)
    (plain : file.1 ≠ signaturePath) : file ∈ files' := by
  have text : logicalContent (files.map entryOf) ∈ one.hashed := by
    rw [reads.hashed]
    exact List.mem_cons_self
  have text' : logicalContent (files'.map entryOf) ∈ other.hashed := by
    rw [reads'.hashed]
    exact List.mem_cons_self
  rw [reads.content, reads'.content] at same
  have texts := collisionless _ text _ text' (hex_injective same)
  obtain ⟨file', member', entry⟩ := List.mem_map.mp
    (logicalContent_mem texts (List.mem_map_of_mem member) plain : entryOf file ∈ files'.map entryOf)
  have hashed : file.2 ∈ one.hashed := by
    rw [reads.hashed]
    exact List.mem_cons_of_mem _ (List.mem_map_of_mem member)
  have hashed' : file'.2 ∈ other.hashed := by
    rw [reads'.hashed]
    exact List.mem_cons_of_mem _ (List.mem_map_of_mem member')
  obtain ⟨path, _, digest⟩ := VerifiedEntry.mk.inj entry
  have contents := collisionless _ hashed _ hashed' digest.symm
  have whole : file = file' := Prod.ext path.symm contents
  rw [whole]
  exact member'

end

lemma Collisionless.symm (collisionless : Collisionless one other) : Collisionless other one :=
  fun text member text' member' same => (collisionless text' member' text member same.symm).symm

end Installation

open Installation in
/-- The same file written from the other archive. -/
lemma writes_of_writes {one other : Installation} (collisionless : Collisionless one other)
    (same : one.verified.contentDigest = other.verified.contentDigest) {below : List Path}
    (plain : below ≠ signatureName) (written : one.Writes (one.stage.parts ++ below) content) :
    other.Writes (other.stage.parts ++ below) content := by
  obtain ⟨files, reads⟩ := one.reads
  obtain ⟨files', reads'⟩ := other.reads
  obtain ⟨file, member, place, rfl⟩ := reads.writes_iff.mp written
  have canonical := reads.canonical file member
  have named : file.1 ≠ signaturePath := by
    intro signature
    rw [signature, holds_signaturePath] at place
    exact plain (List.append_cancel_left place)
  rw [one.stage.holds_eq canonical] at place
  rw [List.append_cancel_left place, ← other.stage.holds_eq canonical]
  exact reads'.writes_iff.mpr ⟨file, reads.transfer reads' collisionless same member named, rfl, rfl⟩

open Installation in
/-- Every file that is written lies strictly below the stage. The files are the
manifest, the signature and those that the manifest lists, with their sizes and
digests. Two packages with the same digests write the same files, the signature apart,
unless SHA-256 collides on what they hash. -/
theorem signed_is_installed (one : Installation) :
    (∀ path content, one.Writes path content →
      ∃ below, path = one.stage.parts ++ below ∧ below ≠ [] ∧ ∀ part ∈ below, Proper part) ∧
    (∀ path, (∃ content, one.Writes path content) ↔
      path = one.stage.parts ++ manifestName ∨ path = one.stage.parts ++ signatureName ∨
        ∃ file ∈ one.verified.manifest.files, path = one.stage.holds (utf8 file.path)) ∧
    (∀ file ∈ one.verified.manifest.files, ∀ content, one.Writes (one.stage.holds (utf8 file.path)) content →
      (content.length : Int) = file.sizeBytes ∧ hex (Hash.sum256 content) = file.sha256) ∧
    ∀ other : Installation, Collisionless one other →
      one.verified.manifestDigest = other.verified.manifestDigest →
      one.verified.contentDigest = other.verified.contentDigest →
      ∀ below content, below ≠ signatureName →
        (one.Writes (one.stage.parts ++ below) content ↔ other.Writes (other.stage.parts ++ below) content) := by
  obtain ⟨files, reads⟩ := one.reads
  refine ⟨fun path content written => reads.below written, ?_, ?_, ?_⟩
  · intro path
    constructor
    · rintro ⟨content, written⟩
      obtain ⟨file, member, rfl, _⟩ := reads.writes_iff.mp written
      rcases reads.covers.listed _ (List.mem_map_of_mem member) with manifest | signature | listed
      · exact .inl ((congrArg one.stage.holds manifest).trans (holds_manifestPath one.stage))
      · exact .inr (.inl ((congrArg one.stage.holds signature).trans (holds_signaturePath one.stage)))
      · obtain ⟨declared, inside, path⟩ := listed
        exact .inr (.inr ⟨declared, inside, congrArg one.stage.holds path⟩)
    · rintro (rfl | rfl | ⟨declared, inside, rfl⟩)
      · obtain ⟨content, member⟩ := reads.manifest
        exact ⟨content, reads.writes_iff.mpr ⟨_, member, (holds_manifestPath one.stage).symm, rfl⟩⟩
      · obtain ⟨content, member⟩ := reads.signature
        exact ⟨content, reads.writes_iff.mpr ⟨_, member, (holds_signaturePath one.stage).symm, rfl⟩⟩
      · obtain ⟨entry, member, path, _⟩ := reads.covers.declared declared inside
        obtain ⟨file, inFiles, rfl⟩ := List.mem_map.mp member
        exact ⟨file.2, reads.writes_iff.mpr ⟨file, inFiles, congrArg one.stage.holds path.symm, rfl⟩⟩
  · intro declared inside content written
    obtain ⟨entry, member, path, size, digest⟩ := reads.covers.declared declared inside
    obtain ⟨file, inFiles, rfl⟩ := List.mem_map.mp member
    rw [← path] at written
    rw [reads.content_eq inFiles written]
    exact ⟨size, digest⟩
  · intro other collisionless _ same below content plain
    exact ⟨writes_of_writes collisionless same plain, writes_of_writes collisionless.symm same.symm plain⟩

end installations

lemma eq_ok_of_toOption {ε α : Type} {result : Except ε α} (done : result.toOption.isSome = true) :
    result = .ok (result.toOption.get done) := by
  cases result with
  | error err => cases done
  | ok => rfl

/-! A package with one binary, a bare ELF header. The archive is not compressed, and
the formats answer as the standard library does on this archive. -/

def sampleElf : Bytes :=
  [0x7f, 0x45, 0x4c, 0x46, 2, 1, 1, 0, 0, 0, 0, 0, 0, 0, 0, 0, 2, 0, 62, 0, 1] ++ List.replicate 31 0 ++ [64] ++
    List.replicate 11 0

def sampleSignature : Bytes :=
  BigEndian.put 64 0x6f5e178897d36165e20ffae3cb4edd098b1e113145b50c9618cad8dbdb6273f23001b75392c439687870d50fe7296a89f55cbfb8c90e3a9d4cad5474bb9d7005

def sampleBinaryPath : String := "plugin-package/bin/linux-amd64/p"

def sampleDigest : String := "be79ffb15701bfd8095f8a8bba26a9746d8f2748622f3a86035be4c410e2a5d9"

def sampleManifest : Manifest where
  pluginID := "pg"
  databaseFamily := "pg"
  version := "1"
  protocolVersion := "1"
  publisherID := "p"
  signingKeyID := "k"
  minimumAgentProtocolVersion := "1"
  maximumAgentProtocolVersion := "1"
  supportedVariants := ["pg"]
  databaseVersionRange := "1"
  capabilities := ["m"]
  metricTemplateSchemaVersion := 1
  binaries := [⟨"linux", "amd64", sampleBinaryPath, sampleDigest, 64⟩]
  files := [⟨sampleBinaryPath, sampleDigest, 64⟩]

def sampleJson : Json := .object
  [("binaries", .array [.object [("architecture", .string "amd64"), ("operating_system", .string "linux"),
      ("path", .string sampleBinaryPath), ("sha256", .string sampleDigest), ("size_bytes", .number "64")]]),
    ("capabilities", .array [.string "m"]), ("database_family", .string "pg"),
    ("database_version_range", .string "1"),
    ("files", .array [.object [("path", .string sampleBinaryPath), ("sha256", .string sampleDigest),
      ("size_bytes", .number "64")]]),
    ("maximum_agent_protocol_version", .string "1"), ("metric_template_schema_version", .number "1"),
    ("minimum_agent_protocol_version", .string "1"), ("plugin_id", .string "pg"), ("protocol_version", .string "1"),
    ("publisher_id", .string "p"), ("signing_key_id", .string "k"), ("supported_variants", .array [.string "pg"]),
    ("version", .string "1")]

/-- `json.Marshal`, for texts without anything to escape. -/
def quote (text : String) : Bytes := 0x22 :: utf8 text ++ [0x22]

mutual

def render : Json → Bytes
  | .null => utf8 "null"
  | .bool value => utf8 (if value then "true" else "false")
  | .number value => utf8 value
  | .string value => quote value
  | .array values => 0x5b :: renderValues values ++ [0x5d]
  | .object members => 0x7b :: renderMembers members ++ [0x7d]

def renderValues : List Json → Bytes
  | [] => []
  | [value] => render value
  | value :: rest => render value ++ 0x2c :: renderValues rest

def renderMembers : List (String × Json) → Bytes
  | [] => []
  | [(key, value)] => quote key ++ 0x3a :: render value
  | (key, value) :: rest => quote key ++ 0x3a :: render value ++ 0x2c :: renderMembers rest

end

/-- A block of the archive: the header of a regular file, or a part of its content. -/
def block (content : Bytes) : Bytes := content ++ List.replicate ((512 - content.length % 512) % 512) 0

def sampleHeader (name : Path) (size checksum : String) : Bytes :=
  block (name ++ List.replicate (100 - name.length) 0 ++ utf8 "0000644\x00" ++ List.replicate 16 0 ++
    utf8 size ++ List.replicate 13 0 ++ utf8 checksum ++ [0, 0x20, 0x30])

structure SampleFile where
  name : Path
  content : Bytes
  /-- In octal. -/
  size : String
  checksum : String

def SampleFile.bytes (file : SampleFile) : Bytes :=
  sampleHeader file.name file.size file.checksum ++ block file.content

def sampleFiles : List SampleFile :=
  [⟨manifestPath, render sampleJson, "00000001212", "007632"⟩, ⟨signaturePath, sampleSignature, "00000000100", "007405"⟩,
    ⟨utf8 sampleBinaryPath, sampleElf, "00000000100", "010126"⟩]

def sampleTar : Bytes := sampleFiles.flatMap (·.bytes) ++ List.replicate 1024 0

/-- A stored block between the header of the file and its checksum and length. -/
def samplePackage : Bytes :=
  [0x1f, 0x8b, 8, 0, 0, 0, 0, 0, 0, 0xff, 1, 0x00, 0x12, 0xff, 0xed] ++ sampleTar ++
    [0x0b, 0xce, 0x58, 0xd6, 0x00, 0x12, 0, 0]

def sampleWalk : List SampleFile → Walk
  | [] => .eof ⟨[], false⟩
  | file :: rest =>
    .entry ⟨file.name, 0x30, file.content.length, 0o644⟩ file.content ⟨rest.flatMap (·.bytes), false⟩ (sampleWalk rest)

@[reducible] def sampleFormats : Formats where
  gunzip _ := some (⟨sampleTar, false⟩, [])
  tar _ := sampleWalk sampleFiles
  elf _ := some ⟨2, 1, 62, 2, [], []⟩
  decodeJSON _ := some sampleJson
  marshal value := some (render value)
  strictDecode _ := some sampleManifest
  ed25519Verify _ _ _ := true
  toLower name := name.map fun b => if 65 ≤ b && b ≤ 90 then b + 32 else b
  isLetterOrDigit c := isLetter c || isDigit c
  lowerRune := lowerChar

/-- The digests of the texts that are hashed, by their lengths. -/
@[reducible] def sampleHash : Hash where
  sum256 bytes := BigEndian.put 32 (match bytes.length with
    | 64 => if bytes.head? = some 0x7f then 0xbe79ffb15701bfd8095f8a8bba26a9746d8f2748622f3a86035be4c410e2a5d9
      else 0xf8afd25056d1440c1f6d13cd0c9fbebf4a7a23e3c6f08d609d8ff35a43ca3832
    | 650 => 0x19dc759571e5486427b2f5a70129f277d05381f473558e054198aed9a17c0588
    | 235 => 0x4612a5277930e69a883222a1e32b0929cdadb2141525835968d724b391bdb6e0
    | _ => 0x372a4ab373a69c9027864a2aecea76eb6f5701cc0e70b8282d6b9c9f8a1fead3)

def sampleVerifier : StreamingPackageVerifier where
  publicKey _ _ := .ok (BigEndian.put 32 0x03a107bff3ce10be1d70dd18e74bc09967e4d6309ba50d5f1ddc8664125531b8)
  limits := defaultPackageLimits
  valid := by decide

def stageA : Stage := ⟨[utf8 "a"], by decide⟩

def stageB : Stage := ⟨[utf8 "b"], by decide⟩

def emptyTree : Tree := fun _ => none

section sample

local instance sampleFormatsInst : Formats := sampleFormats
local instance sampleHashInst : Hash := sampleHash

set_option maxRecDepth 8000 in
instance samplePackage_accepted : Fact ((sampleVerifier.verify samplePackage 4631).toOption.isSome = true) where
  out := by decide +kernel

lemma samplePackage_unpacked : (extractVerifiedArchive samplePackage stageA emptyTree).isSome = true ∧
    (extractVerifiedArchive samplePackage stageB emptyTree).isSome = true := by decide +kernel

/-- The package, unpacked into an empty stage. -/
def sampleInstallation (stage : Stage)
    (done : (extractVerifiedArchive samplePackage stage emptyTree).isSome = true) : Installation where
  verifier := sampleVerifier
  source := samplePackage
  declaredBytes := 4631
  verified := (sampleVerifier.verify samplePackage 4631).toOption.get samplePackage_accepted.out
  accepted := eq_ok_of_toOption _
  stage := stage
  before := emptyTree
  after := (extractVerifiedArchive samplePackage stage emptyTree).get done
  unpacked := by
    rw [(StreamingPackageVerifier.verify_accepted (eq_ok_of_toOption samplePackage_accepted.out)).1]
    exact (Option.some_get done).symm

theorem signed_is_installed_sample :
    let one := sampleInstallation stageA samplePackage_unpacked.1
    let other := sampleInstallation stageB samplePackage_unpacked.2
    Installation.Collisionless one other ∧ ∀ below content, below ≠ signatureName →
      (one.Writes (stageA.parts ++ below) content ↔ other.Writes (stageB.parts ++ below) content) := by
  have collisionless : Installation.Collisionless (sampleInstallation stageA samplePackage_unpacked.1)
      (sampleInstallation stageB samplePackage_unpacked.2) := by decide +kernel
  exact ⟨collisionless, (signed_is_installed _).2.2.2 _ collisionless rfl rfl⟩

end sample

end DBPilot.Catalog
