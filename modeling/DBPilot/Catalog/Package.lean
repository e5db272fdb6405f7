import DBPilot.Catalog.Manifest
import DBPilot.Lib.LengthPrefix
import DBPilot.Supervisor.Request

/-!
# Verification of plugin packages

`StreamingPackageVerifier.Verify` of `internal/plugincatalog/package.go` and the
signature check of `signature.go`. An upload is its bytes. The temporary files, and
with them the failures of the disk, and the cancellation of the context are left out.
-/

namespace DBPilot.Catalog

open Paths Text
open LengthPrefix (signed fields)
open Supervisor (Hash)
open Wire (Bytes utf8)

structure VerifiedPackage where
  manifest : Manifest
  packageSHA256 : String
  manifestDigest : String
  contentDigest : String
  sizeBytes : Int
  /-- The file behind `Open`. -/
  archive : Bytes
  deriving DecidableEq

inductive KeyError where
  | unknownPublisher
  | other

structure StreamingPackageVerifier where
  /-- `PublisherKeyStore.PublicKey`, by publisher and key. -/
  publicKey : String → String → Except KeyError Bytes
  limits : PackageLimits
  valid : validPackageLimits limits = true

/-! The walk through the archive. -/

def typeDir : UInt8 := 0x35

def isRegular (typeflag : UInt8) : Bool := typeflag = 0x30 || typeflag = 0

def copyN (body : Bytes) (count : Int) : Option Bytes :=
  if count.toNat ≤ body.length then some (body.take count.toNat) else none

/-- An `io.LimitedReader` of one byte more than may be expanded. -/
def limitStream (limits : PackageLimits) (stream : Stream) : Stream :=
  if limits.maxExpandedBytes < stream.bytes.length then
    ⟨stream.bytes.take (limits.maxExpandedBytes + 1).toNat, false⟩
  else stream

/-- The limited reader has nothing left to give out. -/
def exhausted (limits : PackageLimits) (limited rest : Stream) : Bool :=
  limits.maxExpandedBytes < limited.bytes.length && rest.bytes.isEmpty

structure Inspection where
  seen : List Path := []
  entries : List VerifiedEntry := []
  manifestBytes : Bytes := []
  signature : Bytes := []
  expanded : Int := 0

section inspect

variable [Hash] [Formats]

def wantMachine (platform : Path) : Option Nat :=
  if platform = utf8 "linux-amd64" then some 62
  else if platform = utf8 "linux-arm64" then some 183
  else none

def validateStaticExecutable (content : Bytes) (name : Path) : Except PackageError Unit :=
  match components name with
  | root :: directory :: platform :: _ :: _ =>
    if root ≠ packageRootName || directory ≠ utf8 "bin" then .error .manifestRejected
    else match wantMachine platform with
      | none => .error .platformMismatch
      | some machine =>
        match Formats.elf content with
        | none => .error .manifestRejected
        | some value =>
          if value.fileClass ≠ 2 || value.data ≠ 1 || value.machine ≠ machine || value.fileType ≠ 2 then
            .error .manifestRejected
          else if value.programs.any fun kind => kind = 3 || kind = 2 then .error .manifestRejected
          else if value.sections.any fun part =>
              part.1 = 6 || part.2 ∈ [".interp", ".dynamic", ".dynstr", ".dynsym"] then .error .manifestRejected
          else .ok ()
  | _ => .error .manifestRejected

def inspectContent (name : Path) (content : Bytes) : Except PackageError Unit :=
  if name ≠ manifestPath && name ≠ signaturePath && (utf8 "plugin-package/bin/").isPrefixOf name then
    validateStaticExecutable content name
  else .ok ()

/-- One entry of the archive; `drained` says that the stream has nothing left. -/
def inspectEntry (limits : PackageLimits) (drained : Bool) (header : Header) (body : Bytes) (state : Inspection) :
    Except PackageError Inspection :=
  match canonicalArchivePath header.name (header.typeflag = typeDir) with
  | none => .error .manifestRejected
  | some name =>
    if name ∈ state.seen then .error .manifestRejected
    else if header.typeflag = typeDir then
      if header.size ≠ 0 then .error .manifestRejected else .ok { state with seen := name :: state.seen }
    else if !isRegular header.typeflag || forbiddenPackagePath name then .error .manifestRejected
    else if header.size < 0 || limits.maxFileBytes < header.size then .error .packageTooLarge
    else if limits.maxExpandedBytes - header.size < state.expanded then .error .packageTooLarge
    else if name = manifestPath && limits.maxManifestBytes < header.size then .error .packageTooLarge
    else match copyN body header.size with
      | none => .error (if drained then .packageTooLarge else .manifestRejected)
      | some content =>
        match inspectContent name content with
        | .error err => .error err
        | .ok () => .ok
          { seen := name :: state.seen
            entries := state.entries ++ [⟨name, header.size, Hash.sum256 content⟩]
            manifestBytes := if name = manifestPath then content else state.manifestBytes
            signature := if name = signaturePath then content else state.signature
            expanded := state.expanded + header.size }

/-- All entries, and what the stream has left after them. -/
def inspectEntries (limits : PackageLimits) (limited : Stream) :
    Walk → Int → Inspection → Except PackageError (Inspection × Stream)
  | .eof rest, _, state => .ok (state, rest)
  | .failed rest, count, _ =>
    .error (if exhausted limits limited rest || limits.maxFiles ≤ count then .packageTooLarge else .manifestRejected)
  | .entry header body unread next, count, state =>
    if limits.maxFiles ≤ count then .error .packageTooLarge
    else match inspectEntry limits (exhausted limits limited unread) header body state with
      | .error err => .error err
      | .ok state => inspectEntries limits limited next (count + 1) state

/-- The manifest, the signature and the entries. What follows the last entry is read
to its end and is all zero. Where it is not, the code stops in the middle of it, and
which of the two errors it reports depends on the sizes of the reads. -/
def inspectArchive (limits : PackageLimits) (package : Bytes) :
    Except PackageError (Bytes × Bytes × List VerifiedEntry) :=
  if !([0x1f, 0x8b, 8, 0] : Bytes).isPrefixOf package || package.length < 10 then .error .manifestRejected
  else match Formats.gunzip package with
    | none => .error .manifestRejected
    | some (stream, trailing) =>
      let limited := limitStream limits stream
      match inspectEntries limits limited (Formats.tar limited) 0 {} with
      | .error err => .error err
      | .ok (state, rest) =>
        if state.manifestBytes.isEmpty || state.signature.length ≠ 64 then .error .manifestRejected
        else if !rest.bytes.all (· = 0) then .error .manifestRejected
        else if limits.maxExpandedBytes < limited.bytes.length then .error .packageTooLarge
        else if rest.fails || !trailing.isEmpty then .error .manifestRejected
        else .ok (state.manifestBytes, state.signature, state.entries)

/-! What is signed. -/

/-- The text that the content digest is the digest of. -/
def logicalContent (entries : List VerifiedEntry) : Bytes :=
  let content := (entries.filter fun entry => entry.path ≠ signaturePath).insertionSort fun l r => l.path ≤ r.path
  utf8 "dbpilot-plugin-content-v1\n" ++
    fields (content.flatMap fun entry => [entry.path, signed entry.size, utf8 (hex entry.digest)])

def logicalContentDigest (entries : List VerifiedEntry) : Bytes := Hash.sum256 (logicalContent entries)

def signatureMessage (manifestDigest contentDigest : Bytes) : Bytes :=
  utf8 ("dbpilot-plugin-signature-v1\nmanifest-sha256:" ++ hex manifestDigest ++ "\ncontent-sha256:" ++
    hex contentDigest ++ "\n")

def verifyPublisherSignature (verifier : StreamingPackageVerifier) (manifest : Manifest)
    (signature manifestDigest contentDigest : Bytes) : Except PackageError Unit :=
  if signature.length ≠ 64 then .error (.signatureRejected false)
  else match verifier.publicKey manifest.publisherID manifest.signingKeyID with
    | .error .unknownPublisher => .error (.signatureRejected true)
    | .error .other => .error (.signatureRejected false)
    | .ok publicKey =>
      if publicKey.length ≠ 32 ||
          !Formats.ed25519Verify publicKey (signatureMessage manifestDigest contentDigest) signature then
        .error (.signatureRejected false)
      else .ok ()

/-- `Verify` once the upload is in its temporary file. -/
def verifyPackage (verifier : StreamingPackageVerifier) (package : Bytes) : Except PackageError VerifiedPackage :=
  match inspectArchive verifier.limits package with
  | .error err => .error err
  | .ok (manifestBytes, signature, entries) =>
    match decodeCanonicalManifest manifestBytes with
    | none => .error .manifestRejected
    | some (manifest, canonical) =>
      match validateManifest manifest entries verifier.limits with
      | .error err => .error err
      | .ok () =>
        let manifestDigest := Hash.sum256 canonical
        let contentDigest := logicalContentDigest entries
        match verifyPublisherSignature verifier manifest signature manifestDigest contentDigest with
        | .error err => .error err
        | .ok () => .ok
          { manifest, packageSHA256 := hex (Hash.sum256 package), manifestDigest := hex manifestDigest
            contentDigest := hex contentDigest, sizeBytes := package.length, archive := package }

def StreamingPackageVerifier.verify (verifier : StreamingPackageVerifier) (source : Bytes) (declaredBytes : Int) :
    Except PackageError VerifiedPackage :=
  if declaredBytes ≤ 0 then .error (.beforeSideEffect .manifestRejected)
  else if verifier.limits.maxCompressedBytes < declaredBytes then .error (.beforeSideEffect .packageTooLarge)
  else if declaredBytes < source.length then .error (.beforeSideEffect .packageTooLarge)
  else if source.length < declaredBytes then .error (.beforeSideEffect .manifestRejected)
  else (verifyPackage verifier source).mapError .beforeSideEffect

end inspect

/-! ## The regular files of an archive -/

/-- The name and the content of every regular file, in the order of the archive. -/
def Walk.regular : Walk → List (Path × Bytes)
  | .eof _ => []
  | .failed _ => []
  | .entry header body _ next =>
    if isRegular header.typeflag then (header.name, body.take header.size.toNat) :: next.regular else next.regular

lemma copyN_eq_some {body content : Bytes} {count : Int} (copied : copyN body count = some content) :
    content = body.take count.toNat ∧ content.length = count.toNat := by
  unfold copyN at copied
  split at copied
  · cases copied
    exact ⟨rfl, List.length_take_of_le ‹_›⟩
  · cases copied

section spec

variable [Hash]

def entryOf (file : Path × Bytes) : VerifiedEntry := ⟨file.1, file.2.length, Hash.sum256 file.2⟩

variable [Formats] {limits : PackageLimits} {limited : Stream} {state state' : Inspection}

/-- What an accepted entry adds: a directory nothing, a regular file its entry. -/
lemma inspectEntry_cases {drained : Bool} {header : Header} {body : Bytes}
    (done : inspectEntry limits drained header body state = .ok state') :
    (isRegular header.typeflag = false ∧ state'.entries = state.entries ∧
      state'.manifestBytes = state.manifestBytes ∧ state'.signature = state.signature) ∨
    ∃ content, isRegular header.typeflag = true ∧ content = body.take header.size.toNat ∧
      canonicalArchivePath header.name false = some header.name ∧
      state'.entries = state.entries ++ [entryOf (header.name, content)] ∧
      state'.manifestBytes = (if header.name = manifestPath then content else state.manifestBytes) ∧
      state'.signature = if header.name = signaturePath then content else state.signature := by
  unfold inspectEntry at done
  split at done
  · cases done
  rename_i name canonical
  split at done
  · cases done
  split at done
  · rename_i directory
    split at done
    · cases done
    · cases done
      refine .inl ⟨?_, rfl, rfl, rfl⟩
      rw [directory]
      decide
  rename_i file
  rw [decide_eq_false file] at canonical
  obtain ⟨rfl, _, _⟩ := canonicalArchivePath_file canonical
  split at done
  · cases done
  rename_i regular
  split at done
  · cases done
  rename_i size
  split at done
  · cases done
  split at done
  · cases done
  split at done
  · cases done
  rename_i content copied
  split at done
  · cases done
  cases done
  obtain ⟨rfl, length⟩ := copyN_eq_some copied
  have known : isRegular header.typeflag = true := by
    simp only [Bool.or_eq_true, not_or, Bool.not_eq_true', Bool.not_eq_false] at regular
    exact regular.1
  have same : header.size = (body.take header.size.toNat).length := by
    simp only [Bool.or_eq_true, decide_eq_true_eq, not_or] at size
    rw [length]
    omega
  refine .inr ⟨_, known, rfl, canonical, ?_, rfl, rfl⟩
  simp only [entryOf]
  rw [← same]

/-- What an accepted archive has established of its regular files. -/
structure Inspected (walk : Walk) (state state' : Inspection) : Prop where
  entries : state'.entries = state.entries ++ walk.regular.map entryOf
  canonical : ∀ file ∈ walk.regular, canonicalArchivePath file.1 false = some file.1
  manifest : state'.manifestBytes = state.manifestBytes ∨ (manifestPath, state'.manifestBytes) ∈ walk.regular
  signature : state'.signature = state.signature ∨ (signaturePath, state'.signature) ∈ walk.regular

lemma inspectEntries_spec {walk : Walk} {count : Int} {rest : Stream}
    (done : inspectEntries limits limited walk count state = .ok (state', rest)) : Inspected walk state state' := by
  induction walk generalizing count state with
  | eof =>
    cases done
    exact ⟨(List.append_nil _).symm, nofun, .inl rfl, .inl rfl⟩
  | failed => cases done
  | entry header body unread next ih =>
    unfold inspectEntries at done
    split at done
    · cases done
    split at done
    · cases done
    rename_i middle step
    obtain ⟨entries, canonical, manifest, signature⟩ := ih done
    rcases inspectEntry_cases step with ⟨other, sameEntries, sameManifest, sameSignature⟩ |
      ⟨content, regular, rfl, name, added, manifestAt, signatureAt⟩
    · have skip : (Walk.entry header body unread next).regular = next.regular := if_neg (by simp [other])
      rw [sameEntries] at entries
      rw [sameManifest] at manifest
      rw [sameSignature] at signature
      constructor <;> rw [skip] <;> assumption
    · have keep : (Walk.entry header body unread next).regular =
          (header.name, body.take header.size.toNat) :: next.regular := if_pos regular
      constructor
      · rw [entries, added, keep, List.append_assoc, List.map_cons, List.singleton_append]
      · rw [keep]
        exact List.forall_mem_cons.mpr ⟨name, canonical⟩
      · rw [keep]
        rcases manifest with same | later
        · rw [manifestAt] at same
          split at same
          · rename_i here
            rw [same, here]
            exact .inr List.mem_cons_self
          · exact .inl same
        · exact .inr (List.mem_cons_of_mem _ later)
      · rw [keep]
        rcases signature with same | later
        · rw [signatureAt] at same
          split at same
          · rename_i here
            rw [same, here]
            exact .inr List.mem_cons_self
          · exact .inl same
        · exact .inr (List.mem_cons_of_mem _ later)

/-- What an accepted package is: its files have canonical names, the manifest and
the signature are among them, the manifest covers the others, and the content digest
is that of all of them. -/
structure Accepted (source : Bytes) (verified : VerifiedPackage) (stream : Stream) : Prop where
  expands : ∃ trailing, Formats.gunzip source = some (stream, trailing)
  canonical : ∀ file ∈ (Formats.tar stream).regular, canonicalArchivePath file.1 false = some file.1
  manifest : ∃ content, (manifestPath, content) ∈ (Formats.tar stream).regular
  signature : ∃ content, (signaturePath, content) ∈ (Formats.tar stream).regular
  covers : Covers verified.manifest ((Formats.tar stream).regular.map entryOf)
  content : verified.contentDigest = hex (logicalContentDigest ((Formats.tar stream).regular.map entryOf))

/-- An archive that is not too large was read without the limit in the way. -/
lemma inspectArchive_spec {package manifestBytes signature : Bytes} {entries : List VerifiedEntry}
    (done : inspectArchive limits package = .ok (manifestBytes, signature, entries)) :
    ∃ stream, (∃ trailing, Formats.gunzip package = some (stream, trailing)) ∧
      entries = (Formats.tar stream).regular.map entryOf ∧
      (∀ file ∈ (Formats.tar stream).regular, canonicalArchivePath file.1 false = some file.1) ∧
      (manifestPath, manifestBytes) ∈ (Formats.tar stream).regular ∧
      (signaturePath, signature) ∈ (Formats.tar stream).regular := by
  unfold inspectArchive at done
  split at done
  · cases done
  split at done
  · cases done
  rename_i stream trailing expanded
  dsimp only at done
  split at done
  · cases done
  rename_i state rest walked
  split at done
  · cases done
  rename_i present
  split at done
  · cases done
  split at done
  · cases done
  rename_i small
  split at done
  · cases done
  cases done
  have whole : limitStream limits stream = stream := by
    unfold limitStream at small ⊢
    split at small
    · rename_i large
      exfalso
      rw [List.length_take] at small
      omega
    · exact if_neg ‹_›
  rw [whole] at walked
  obtain ⟨entries, canonical, manifest, signature⟩ := inspectEntries_spec walked
  simp only [Bool.or_eq_true, ne_eq, decide_eq_true_eq, not_or, not_not] at present
  refine ⟨stream, ⟨trailing, expanded⟩, entries, canonical, ?_, ?_⟩
  · refine manifest.resolve_left fun same => ?_
    rw [same] at present
    exact present.1 rfl
  · refine signature.resolve_left fun same => ?_
    rw [same] at present
    cases present.2

theorem StreamingPackageVerifier.verify_accepted {verifier : StreamingPackageVerifier} {source : Bytes}
    {declaredBytes : Int} {verified : VerifiedPackage}
    (accepted : verifier.verify source declaredBytes = .ok verified) :
    verified.archive = source ∧ ∃ stream, Accepted source verified stream := by
  unfold StreamingPackageVerifier.verify at accepted
  split at accepted
  · cases accepted
  split at accepted
  · cases accepted
  split at accepted
  · cases accepted
  split at accepted
  · cases accepted
  cases checked : verifyPackage verifier source with
  | error err =>
    rw [checked] at accepted
    cases accepted
  | ok =>
    rw [checked] at accepted
    cases accepted
    unfold verifyPackage at checked
    split at checked
    · cases checked
    rename_i manifestBytes signature entries inspected
    split at checked
    · cases checked
    split at checked
    · cases checked
    rename_i valid
    dsimp only at checked
    split at checked
    · cases checked
    cases checked
    obtain ⟨stream, expands, rfl, canonical, manifest, signed⟩ := inspectArchive_spec inspected
    exact ⟨rfl, stream, expands, canonical, ⟨_, manifest⟩, ⟨_, signed⟩, validateManifest_covers valid, rfl⟩

end spec

/-! ## The content digest -/

/-- The entries outside the signature are determined by the text. -/
theorem logicalContent_mem {left right : List VerifiedEntry} (same : logicalContent left = logicalContent right)
    {entry : VerifiedEntry} (member : entry ∈ left) (content : entry.path ≠ signaturePath) : entry ∈ right := by
  have listed := LengthPrefix.fields_injective (List.append_cancel_left same)
  have triples : Function.Injective (List.flatMap fun entry : VerifiedEntry =>
      [entry.path, signed entry.size, utf8 (hex entry.digest)]) := by
    apply flatMap_injective fun _ => List.cons_ne_nil _ _
    intro entry other s t same
    simp only [List.cons_append, List.nil_append, List.cons.injEq] at same
    obtain ⟨path, size, digest, rest⟩ := same
    cases entry
    cases other
    cases path
    cases LengthPrefix.signed_injective size
    cases hex_injective (Wire.utf8_injective digest)
    exact ⟨rfl, rest⟩
  have sorted := triples listed
  have inLeft : entry ∈ left.filter fun entry => entry.path ≠ signaturePath :=
    List.mem_filter.mpr ⟨member, decide_eq_true content⟩
  have inRight := sorted ▸ (List.mem_insertionSort _).mpr inLeft
  exact (List.mem_filter.mp ((List.mem_insertionSort _).mp inRight)).1

end DBPilot.Catalog
