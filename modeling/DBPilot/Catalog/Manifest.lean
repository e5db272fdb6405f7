import DBPilot.Lib.Paths
import DBPilot.Plugins.State

/-!
# Manifests of plugin packages

`Manifest` of `internal/plugincatalog/model.go` and its checks in `package.go`.
Names in an archive are byte strings, the texts of a manifest are valid UTF-8. The
formats that the standard library reads are parameters: gzip, tar, ELF, JSON, Ed25519
and the Unicode tables.
-/

namespace DBPilot.Catalog

open Paths Text
open Jobs (isTrimmed)
open Plugins (identifierPattern hexDigest)
open Wire (Bytes utf8)

inductive PackageError where
  | manifestRejected
  | packageTooLarge
  | platformMismatch
  /-- With `ErrUnknownPublisher` beside it, or without. -/
  | signatureRejected (unknownPublisher : Bool)
  | beforeSideEffect (err : PackageError)
  deriving DecidableEq

structure ManifestBinary where
  operatingSystem : String
  architecture : String
  path : String
  sha256 : String
  sizeBytes : Int
  deriving DecidableEq

structure ManifestFile where
  path : String
  sha256 : String
  sizeBytes : Int
  deriving DecidableEq

structure Manifest where
  pluginID : String
  databaseFamily : String
  version : String
  protocolVersion : String
  publisherID : String
  signingKeyID : String
  minimumAgentProtocolVersion : String
  maximumAgentProtocolVersion : String
  supportedVariants : List String
  databaseVersionRange : String
  capabilities : List String
  metricTemplateSchemaVersion : Int
  binaries : List ManifestBinary
  files : List ManifestFile
  deriving DecidableEq

/-! What the standard library reads. -/

/-- The bytes that a reader delivers, and whether it fails after them. -/
structure Stream where
  bytes : Bytes
  fails : Bool := false

structure Header where
  name : Path
  typeflag : UInt8
  size : Int
  mode : UInt64

/-- What `tar.Reader` hands out, one `Next` after the other, with what the stream
under it then has left. -/
inductive Walk where
  | eof (rest : Stream)
  | failed (rest : Stream)
  | entry (header : Header) (body : Bytes) (unread : Stream) (next : Walk)

structure ElfFile where
  fileClass : Nat
  data : Nat
  machine : Nat
  fileType : Nat
  programs : List Nat
  /-- Type and name. -/
  sections : List (Nat × String)

inductive Json where
  | null
  | bool (value : Bool)
  | number (value : String)
  | string (value : String)
  | array (values : List Json)
  | object (members : List (String × Json))

class Formats where
  /-- `gzip.NewReader` without multistream: what it expands to, and what follows. -/
  gunzip : Bytes → Option (Stream × Bytes)
  tar : Stream → Walk
  elf : Bytes → Option ElfFile
  /-- One JSON value and nothing after it. -/
  decodeJSON : Bytes → Option Json
  marshal : Json → Option Bytes
  /-- The same, into a manifest, where unknown fields are errors. -/
  strictDecode : Bytes → Option Manifest
  ed25519Verify (publicKey message signature : Bytes) : Bool
  /-- `strings.ToLower`. -/
  toLower : Bytes → Bytes
  isLetterOrDigit : Char → Bool
  lowerRune : Char → Char

def manifestPath : Path := utf8 "plugin-package/manifest.json"

def signaturePath : Path := utf8 "plugin-package/SIGNATURE.ed25519"

def packageRootName : Path := utf8 "plugin-package"

/-- `strings.HasPrefix(path, "plugin-package/")`. -/
def belowPackageRoot (path : Path) : Bool := (packageRootName ++ [slash]).isPrefixOf path

/-- `strings.TrimSuffix(path, "/")`. -/
def trimSlash (path : Path) : Path := if path.getLast? = some slash then path.dropLast else path

def canonicalArchivePath (value : Path) (directory : Bool) : Option Path :=
  if value = [] || value.contains 0x5c || value.contains 0 || value.head? = some slash then none
  else
    let trimmed := if directory then trimSlash value else value
    if trimmed = [] || clean trimmed ≠ trimmed || trimmed ≠ packageRootName && !belowPackageRoot trimmed ||
        trimmed = packageRootName && !directory then none
    else if (components trimmed).all fun part => decide (Proper part) then some trimmed
    else none

def forbiddenPackagePath [Formats] (value : Path) : Bool :=
  let lower := Formats.toLower value
  (components lower).any (fun part => part ∈ ["scripts", "hooks", "script", "hook"].map utf8) ||
    [".sh", ".bash", ".zsh", ".ps1", ".bat", ".cmd"].any fun suffix => (utf8 suffix).isSuffixOf lower

section sensitive

variable [Formats]

def sensitiveKey (key : String) : Bool :=
  let normalized := (key.toList.filter Formats.isLetterOrDigit).map Formats.lowerRune
  ["password", "passwd", "credential", "secret", "privatekey", "accesstoken", "refreshtoken", "downloadurl",
    "externaldownload", "script", "hook"].any fun marker => Text.contains marker.toList normalized

mutual

def containsSensitiveManifestKey : Json → Bool
  | .object members => sensitiveMembers members
  | .array values => sensitiveValues values
  | _ => false

def sensitiveMembers : List (String × Json) → Bool
  | [] => false
  | (key, child) :: rest => sensitiveKey key || containsSensitiveManifestKey child || sensitiveMembers rest

def sensitiveValues : List Json → Bool
  | [] => false
  | child :: rest => containsSensitiveManifestKey child || sensitiveValues rest

end

/-- The manifest, and its bytes in canonical form. -/
def decodeCanonicalManifest (encoded : Bytes) : Option (Manifest × Bytes) :=
  match Formats.decodeJSON encoded with
  | none => none
  | some .null => none
  | some generic =>
    if containsSensitiveManifestKey generic then none
    else match Formats.marshal generic with
      | none => none
      | some canonical =>
        if canonical ≠ encoded then none
        else (Formats.strictDecode encoded).map fun manifest => (manifest, canonical)

end sensitive

structure VerifiedEntry where
  path : Path
  size : Int
  digest : Bytes
  deriving DecidableEq

structure PackageLimits where
  maxCompressedBytes : Int
  maxExpandedBytes : Int
  maxFileBytes : Int
  maxFiles : Int
  maxManifestBytes : Int
  deriving DecidableEq

def defaultPackageLimits : PackageLimits where
  maxCompressedBytes := 256 * 2 ^ 20
  maxExpandedBytes := 2 ^ 30
  maxFileBytes := 512 * 2 ^ 20
  maxFiles := 4096
  maxManifestBytes := 2 ^ 20

def validPackageLimits (value : PackageLimits) : Bool :=
  0 < value.maxCompressedBytes && value.maxCompressedBytes ≤ 256 * 2 ^ 20 &&
    0 < value.maxExpandedBytes && value.maxExpandedBytes ≤ 2 ^ 30 &&
    0 < value.maxFileBytes && value.maxFileBytes ≤ 2 ^ 30 &&
    3 ≤ value.maxFiles && value.maxFiles ≤ 4096 &&
    0 < value.maxManifestBytes && value.maxManifestBytes ≤ 2 ^ 20 && value.maxManifestBytes ≤ value.maxFileBytes

example : validPackageLimits defaultPackageLimits = true := by decide

def canonicalText (value : String) (maximum : Nat) : Bool :=
  value != "" && (utf8 value).length ≤ maximum && isTrimmed value &&
    value.toList.all fun c => !(c = '\r' || c = '\n' || c = '\t' || c = '\x00')

def uniqueCanonicalIdentifiers (values : List String) (maximum : Nat) : Bool :=
  !values.isEmpty && values.length ≤ maximum && values.all identifierPattern && decide values.Nodup

def Manifest.wellFormed (manifest : Manifest) (limits : PackageLimits) : Bool :=
  identifierPattern manifest.pluginID && identifierPattern manifest.databaseFamily &&
    identifierPattern manifest.publisherID && identifierPattern manifest.signingKeyID &&
    canonicalText manifest.version 64 && canonicalText manifest.protocolVersion 32 &&
    canonicalText manifest.minimumAgentProtocolVersion 32 && canonicalText manifest.maximumAgentProtocolVersion 32 &&
    canonicalText manifest.databaseVersionRange 128 &&
    1 ≤ manifest.metricTemplateSchemaVersion && manifest.metricTemplateSchemaVersion ≤ 65535 &&
    !manifest.binaries.isEmpty && manifest.binaries.length ≤ 16 &&
    !manifest.files.isEmpty && manifest.files.length ≤ limits.maxFiles &&
    uniqueCanonicalIdentifiers manifest.supportedVariants 16 && uniqueCanonicalIdentifiers manifest.capabilities 64

abbrev Declared := List (Path × ManifestFile)

section validate

variable [Formats]

/-- The entry of that name, the last one where there are several. -/
def actual (entries : List VerifiedEntry) (name : Path) : Option VerifiedEntry :=
  entries.reverse.find? fun entry => entry.path = name

def declareFile (limits : PackageLimits) (entries : List VerifiedEntry) (declared : Declared) (file : ManifestFile) :
    Option Declared :=
  match canonicalArchivePath (utf8 file.path) false with
  | none => none
  | some name =>
    if name = manifestPath || name = signaturePath || forbiddenPackagePath name || !hexDigest file.sha256 ||
        file.sizeBytes ≤ 0 || limits.maxFileBytes < file.sizeBytes then none
    else if (declared.lookup name).isSome then none
    else match actual entries name with
      | none => none
      | some entry =>
        if entry.size ≠ file.sizeBytes || hex entry.digest ≠ file.sha256 then none
        else some ((name, file) :: declared)

def declareFiles (limits : PackageLimits) (entries : List VerifiedEntry) : Declared → List ManifestFile → Option Declared
  | declared, [] => some declared
  | declared, file :: rest =>
    match declareFile limits entries declared file with
    | none => none
    | some declared => declareFiles limits entries declared rest

/-- Whether some platform is supported; nothing where a binary is refused. -/
def checkBinaries (declared : Declared) : List String → Bool → List ManifestBinary → Option Bool
  | _, supported, [] => some supported
  | seen, supported, binary :: rest =>
    let platform := binary.operatingSystem ++ "-" ++ binary.architecture
    if platform ∈ seen then none
    else if binary.operatingSystem ≠ "linux" || binary.architecture ≠ "amd64" && binary.architecture ≠ "arm64" then
      checkBinaries declared (platform :: seen) supported rest
    else if !(utf8 ("plugin-package/bin/" ++ platform ++ "/")).isPrefixOf (utf8 binary.path) ||
        !hexDigest binary.sha256 || binary.sizeBytes ≤ 0 then none
    else match declared.lookup (utf8 binary.path) with
      | none => none
      | some file =>
        if file.sha256 ≠ binary.sha256 || file.sizeBytes ≠ binary.sizeBytes then none
        else checkBinaries declared (platform :: seen) true rest

def validateManifest (manifest : Manifest) (entries : List VerifiedEntry) (limits : PackageLimits) :
    Except PackageError Unit :=
  if !manifest.wellFormed limits then .error .manifestRejected
  else match declareFiles limits entries [] manifest.files with
    | none => .error .manifestRejected
    | some declared =>
      if !entries.all fun entry =>
          entry.path = manifestPath || entry.path = signaturePath || (declared.lookup entry.path).isSome then
        .error .manifestRejected
      else match checkBinaries declared [] false manifest.binaries with
        | none => .error .manifestRejected
        | some supported => if supported then .ok () else .error .platformMismatch

end validate

/-! ## What the checks establish -/

lemma canonicalArchivePath_file {value name : Path} (canonical : canonicalArchivePath value false = some name) :
    name = value ∧ belowPackageRoot value = true ∧ ∀ part ∈ components value, Proper part := by
  unfold canonicalArchivePath at canonical
  split at canonical
  · cases canonical
  simp only [Bool.false_eq_true, ↓reduceIte] at canonical
  split at canonical
  · cases canonical
  rename_i placed
  split at canonical
  · rename_i proper
    cases canonical
    refine ⟨rfl, ?_, ?_⟩
    · simp only [Bool.not_false, Bool.and_true, Bool.or_eq_true, decide_eq_true_eq, not_or, Bool.and_eq_true,
        Bool.not_eq_true', not_and] at placed
      simpa using placed.1.2 placed.2
    · intro part member
      exact of_decide_eq_true (List.all_eq_true.mp proper part member)
  · cases canonical

variable {limits : PackageLimits} {entries : List VerifiedEntry}

/-- A declared file has an entry of its path, size and digest. -/
def Matches (entries : List VerifiedEntry) (file : ManifestFile) : Prop :=
  ∃ entry ∈ entries, entry.path = utf8 file.path ∧ entry.size = file.sizeBytes ∧ hex entry.digest = file.sha256

variable [Formats]

lemma declareFile_spec {declared declared' : Declared} {file : ManifestFile}
    (done : declareFile limits entries declared file = some declared') :
    declared' = (utf8 file.path, file) :: declared ∧ Matches entries file := by
  unfold declareFile at done
  split at done
  · cases done
  rename_i name canonical
  obtain ⟨rfl, _, _⟩ := canonicalArchivePath_file canonical
  split at done
  · cases done
  split at done
  · cases done
  split at done
  · cases done
  rename_i entry found
  split at done
  · cases done
  rename_i same
  cases done
  have member := List.mem_reverse.mp (List.mem_of_find?_eq_some found)
  have path := List.find?_some found
  simp only [ne_eq, Bool.or_eq_true, decide_eq_true_eq, not_or, not_not] at same
  exact ⟨rfl, entry, member, by simpa using path, same.1, same.2⟩

lemma declareFiles_spec {files : List ManifestFile} {declared declared' : Declared}
    (done : declareFiles limits entries declared files = some declared') :
    (∀ file ∈ files, Matches entries file) ∧
      ∀ path file, (path, file) ∈ declared' → (path, file) ∈ declared ∨ file ∈ files ∧ path = utf8 file.path := by
  induction files generalizing declared with
  | nil =>
    cases done
    exact ⟨nofun, fun _ _ member => .inl member⟩
  | cons file files ih =>
    unfold declareFiles at done
    split at done
    · cases done
    rename_i next step
    obtain ⟨rfl, matched⟩ := declareFile_spec step
    obtain ⟨rest, origin⟩ := ih done
    refine ⟨List.forall_mem_cons.mpr ⟨matched, rest⟩, ?_⟩
    intro path other member
    rcases origin path other member with early | ⟨listed, at_path⟩
    · rcases List.mem_cons.mp early with here | before
      · cases here
        exact .inr ⟨List.mem_cons_self, rfl⟩
      · exact .inl before
    · exact .inr ⟨List.mem_cons_of_mem _ listed, at_path⟩

/-- What an accepted manifest says of the entries, in both directions. -/
structure Covers (manifest : Manifest) (entries : List VerifiedEntry) : Prop where
  declared : ∀ file ∈ manifest.files, Matches entries file
  listed : ∀ entry ∈ entries, entry.path = manifestPath ∨ entry.path = signaturePath ∨
    ∃ file ∈ manifest.files, entry.path = utf8 file.path

theorem validateManifest_covers {manifest : Manifest} (valid : validateManifest manifest entries limits = .ok ()) :
    Covers manifest entries := by
  unfold validateManifest at valid
  split at valid
  · cases valid
  split at valid
  · cases valid
  rename_i declared done
  split at valid
  · cases valid
  rename_i complete
  obtain ⟨matched, origin⟩ := declareFiles_spec done
  refine ⟨matched, ?_⟩
  intro entry member
  rw [Bool.not_eq_true', Bool.not_eq_false] at complete
  have here := List.all_eq_true.mp complete entry member
  simp only [Bool.or_eq_true, decide_eq_true_eq] at here
  rcases here with (isManifest | isSignature) | found
  · exact .inl isManifest
  · exact .inr (.inl isSignature)
  · obtain ⟨file, found⟩ := Option.isSome_iff_exists.mp found
    have stored := List.lookup_eq_some_iff.mp found
    obtain ⟨before, after, split, _⟩ := stored
    have inside : (entry.path, file) ∈ declared := by
      rw [split]
      exact List.mem_append_right _ List.mem_cons_self
    rcases origin _ _ inside with none | ⟨listed, path⟩
    · cases none
    · exact .inr (.inr ⟨file, listed, path⟩)

end DBPilot.Catalog
