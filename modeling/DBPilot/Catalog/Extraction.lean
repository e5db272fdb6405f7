import DBPilot.Catalog.Package

/-!
# Unpacking of plugin packages

`extractVerifiedArchive` of `internal/agent/pluginsupervisor/install.go`. A path of
the file system is the list of its components from the root on, and a tree says what
is at each path. The stage directory is private to the Agent, so nothing else writes
below it and it holds no links. Failures of the disk are left out: they only make the
call fail.
-/

namespace DBPilot.Catalog

open Paths
open Wire (Bytes utf8)

inductive Node where
  | directory
  | regular (mode : Nat) (content : Bytes)
  deriving DecidableEq

abbrev Tree := List Path → Option Node

def Tree.put (tree : Tree) (path : List Path) (node : Node) : Tree :=
  fun other => if other = path then some node else tree other

/-- An absolute clean path. -/
structure Stage where
  parts : List Path
  proper : ∀ part ∈ parts, Proper part

/-- `filepath.Join(target, relative)`. -/
def Stage.join (stage : Stage) (relative : Path) : List Path :=
  cleanComponents true (stage.parts ++ components relative)

/-- `filepath.Rel`, for absolute clean paths. -/
def rel : List Path → List Path → List Path
  | root :: roots, target :: targets =>
    if root = target then rel roots targets
    else (root :: roots).map (fun _ => dots) ++ target :: targets
  | roots, targets => roots.map (fun _ => dots) ++ targets

def withinRoot (root target : List Path) : Bool := (rel root target).head? ≠ some dots

def mkdirs (tree : Tree) (current : List Path) : List Path → Option Tree
  | [] => some tree
  | component :: rest =>
    let current := current ++ [component]
    match tree current with
    | none => mkdirs (tree.put current .directory) current rest
    | some .directory => mkdirs tree current rest
    | some (.regular _ _) => none

def secureMkdir (tree : Tree) (root target : List Path) : Option Tree :=
  if withinRoot root target then mkdirs tree root (rel root target) else none

/-- `os.OpenFile` with `O_CREATE|O_EXCL`, and the copy of the content. -/
def createExclusive (tree : Tree) (path : List Path) (mode : Nat) (content : Bytes) : Option Tree :=
  match tree path with
  | none => some (tree.put path (.regular mode content))
  | some _ => none

def installArchivePath (value : Path) (directory : Bool) : Option Path :=
  if value = [] || value.contains 0x5c || value.contains 0x3a || value.contains 0 || value.head? = some slash then none
  else
    let trimmed := if directory then trimSlash value else value
    if trimmed = [] || clean trimmed ≠ trimmed || trimmed ≠ packageRootName && !belowPackageRoot trimmed then none
    else if (components trimmed).all fun part =>
        decide (Proper part) && part.getLast? ≠ some 0x2e && part.getLast? ≠ some 0x20 then some trimmed
    else none

def trimPrefix (front value : Path) : Path := if front.isPrefixOf value then value.drop front.length else value

/-- The name without the root of the package. -/
def relativePath (name : Path) : Path := trimPrefix [slash] (trimPrefix packageRootName name)

def fileMode (relative : Path) : Nat := if (utf8 "bin/").isPrefixOf relative then 0o500 else 0o400

structure Extraction where
  seen : List Path := []
  caseFolded : List Path := []

section extract

variable [Formats]

/-- One entry: the tree after it, or nothing where it is refused. -/
def extractEntry (stage : Stage) (header : Header) (body : Bytes) (tree : Tree) (name : Path) : Option Tree :=
  let relative := relativePath name
  if relative = [] then some tree
  else
    let destination := stage.join relative
    if !withinRoot stage.parts destination then none
    else if header.typeflag = typeDir then
      if header.size ≠ 0 then none else secureMkdir tree stage.parts destination
    else if isRegular header.typeflag then
      if header.size ≤ 0 then none
      else match secureMkdir tree stage.parts destination.dropLast with
        | none => none
        | some tree =>
          match copyN body header.size with
          | none => none
          | some content => createExclusive tree destination (fileMode relative) content
    else none

def extractEntries (stage : Stage) : Walk → Extraction → Tree → Option Tree
  | .eof _, _, tree => some tree
  | .failed _, _, _ => none
  | .entry header body _ next, state, tree =>
    if header.mode &&& 0o7000 ≠ 0 then none
    else match installArchivePath header.name (header.typeflag = typeDir) with
      | none => none
      | some name =>
        let folded := Formats.toLower name
        if name ∈ state.seen || folded ∈ state.caseFolded then none
        else match extractEntry stage header body tree name with
          | none => none
          | some tree => extractEntries stage next ⟨name :: state.seen, folded :: state.caseFolded⟩ tree

def extractVerifiedArchive (source : Bytes) (stage : Stage) (tree : Tree) : Option Tree :=
  match Formats.gunzip source with
  | none => none
  | some (stream, _) => extractEntries stage (Formats.tar stream) {} tree

end extract

/-! ## Where a file goes -/

lemma trimPrefix_append (front value : Path) : trimPrefix front (front ++ value) = value := by
  have isFront : front.isPrefixOf (front ++ value) = true :=
    List.isPrefixOf_iff_prefix.mpr (List.prefix_append front value)
  rw [trimPrefix, if_pos isFront, List.drop_left]

variable {name : Path}

/-- The parts of a canonical name below the root of the package. -/
lemma components_relativePath (canonical : canonicalArchivePath name false = some name) :
    components name = packageRootName :: components (relativePath name) ∧
      ∀ part ∈ components (relativePath name), Proper part := by
  obtain ⟨_, below, proper⟩ := canonicalArchivePath_file canonical
  obtain ⟨rest, rfl⟩ := List.isPrefixOf_iff_prefix.mp below
  have relative : relativePath (packageRootName ++ [slash] ++ rest) = rest := by
    rw [relativePath, List.append_assoc, trimPrefix_append, trimPrefix_append]
  have split : components (packageRootName ++ [slash] ++ rest) = packageRootName :: components rest := by
    rw [List.append_assoc]
    exact components_append (by decide) rest
  rw [relative]
  refine ⟨split, fun part member => proper part ?_⟩
  rw [split]
  exact List.mem_cons_of_mem _ member

/-- Where the stage holds a file of the package. -/
def Stage.holds (stage : Stage) (name : Path) : List Path := stage.join (relativePath name)

lemma Stage.holds_eq (stage : Stage) (canonical : canonicalArchivePath name false = some name) :
    stage.holds name = stage.parts ++ components (relativePath name) := by
  refine cleanComponents_of_proper (List.forall_mem_append.mpr ?_) true
  exact ⟨stage.proper, (components_relativePath canonical).2⟩

/-! ## What a step does to the tree -/

/-- Nothing that is there changes, and only directories are added. -/
structure Furnishes (tree tree' : Tree) : Prop where
  keeps : ∀ path node, tree path = some node → tree' path = some node
  adds : ∀ path mode content, tree' path = some (.regular mode content) → tree path = some (.regular mode content)

lemma Furnishes.refl (tree : Tree) : Furnishes tree tree := ⟨fun _ _ h => h, fun _ _ _ h => h⟩

lemma Furnishes.trans {a b c : Tree} (first : Furnishes a b) (second : Furnishes b c) : Furnishes a c :=
  ⟨fun path node h => second.keeps path node (first.keeps path node h),
    fun path mode content h => first.adds path mode content (second.adds path mode content h)⟩

variable {tree : Tree}

lemma furnishes_put {path : List Path} (fresh : tree path = none) :
    Furnishes tree (tree.put path .directory) := by
  constructor
  · intro other node there
    have elsewhere : other ≠ path := by
      rintro rfl
      rw [fresh] at there
      cases there
    rw [Tree.put, if_neg elsewhere]
    exact there
  · intro other mode content there
    unfold Tree.put at there
    split at there
    · cases there
    · exact there

lemma mkdirs_furnishes {parts current : List Path} {tree' : Tree}
    (done : mkdirs tree current parts = some tree') : Furnishes tree tree' := by
  induction parts generalizing tree current with
  | nil =>
    cases done
    exact .refl _
  | cons part parts ih =>
    simp only [mkdirs] at done
    split at done
    · rename_i fresh
      exact (furnishes_put fresh).trans (ih done)
    · exact ih done
    · cases done

lemma secureMkdir_furnishes {root target : List Path} {tree' : Tree}
    (done : secureMkdir tree root target = some tree') : Furnishes tree tree' := by
  unfold secureMkdir at done
  split at done
  · exact mkdirs_furnishes done
  · cases done

/-- What unpacking the files `files` does to the tree. -/
structure Unpacks (stage : Stage) (files : List (Path × Bytes)) (tree tree' : Tree) : Prop where
  keeps : ∀ path node, tree path = some node → tree' path = some node
  writes : ∀ file ∈ files, tree (stage.holds file.1) = none ∧
    ∃ mode, tree' (stage.holds file.1) = some (.regular mode file.2)
  only : ∀ path mode content, tree' path = some (.regular mode content) →
    tree path = some (.regular mode content) ∨ ∃ file ∈ files, path = stage.holds file.1 ∧ content = file.2

lemma Furnishes.unpacks {stage : Stage} {tree' : Tree} (furnishes : Furnishes tree tree') :
    Unpacks stage [] tree tree' :=
  ⟨furnishes.keeps, nofun, fun path mode content there => .inl (furnishes.adds path mode content there)⟩

lemma unpacks_put {stage : Stage} {file : Path × Bytes} (mode : Nat)
    (fresh : tree (stage.holds file.1) = none) :
    Unpacks stage [file] tree (tree.put (stage.holds file.1) (.regular mode file.2)) := by
  constructor
  · intro path node there
    have elsewhere : path ≠ stage.holds file.1 := by
      rintro rfl
      rw [fresh] at there
      cases there
    rw [Tree.put, if_neg elsewhere]
    exact there
  · intro other member
    rw [List.mem_singleton.mp member]
    exact ⟨fresh, mode, if_pos rfl⟩
  · intro path mode' content there
    unfold Tree.put at there
    split at there
    · rename_i here
      cases there
      exact .inr ⟨file, List.mem_singleton_self file, here, rfl⟩
    · exact .inl there

lemma Unpacks.append {stage : Stage} {files files' : List (Path × Bytes)} {a b c : Tree}
    (first : Unpacks stage files a b) (second : Unpacks stage files' b c) : Unpacks stage (files ++ files') a c := by
  constructor
  · exact fun path node there => second.keeps path node (first.keeps path node there)
  · intro file member
    rcases List.mem_append.mp member with early | late
    · obtain ⟨fresh, mode, written⟩ := first.writes file early
      exact ⟨fresh, mode, second.keeps _ _ written⟩
    · obtain ⟨fresh, written⟩ := second.writes file late
      refine ⟨?_, written⟩
      cases before : a (stage.holds file.1) with
      | none => rfl
      | some =>
        rw [first.keeps _ _ before] at fresh
        cases fresh
  · intro path mode content there
    rcases second.only path mode content there with between | ⟨file, member, found⟩
    · rcases first.only path mode content between with before | ⟨file, member, found⟩
      · exact .inl before
      · exact .inr ⟨file, List.mem_append_left _ member, found⟩
    · exact .inr ⟨file, List.mem_append_right _ member, found⟩

lemma installArchivePath_file {value : Path} (installed : installArchivePath value false = some name) :
    name = value := by
  unfold installArchivePath at installed
  split at installed
  · cases installed
  simp only [Bool.false_eq_true, ↓reduceIte] at installed
  split at installed
  · cases installed
  split at installed
  · cases installed
    rfl
  · cases installed

section run

variable {stage : Stage} {tree tree' : Tree}

/-- A directory writes no file, a regular file itself. -/
lemma extractEntry_unpacks {header : Header} {body : Bytes}
    (canonical : isRegular header.typeflag = true → canonicalArchivePath header.name false = some header.name)
    (named : isRegular header.typeflag = true → name = header.name)
    (done : extractEntry stage header body tree name = some tree') :
    Unpacks stage (if isRegular header.typeflag then [(header.name, body.take header.size.toNat)] else []) tree tree' := by
  unfold extractEntry at done
  dsimp only at done
  by_cases regular : isRegular header.typeflag = true
  · rw [if_pos regular]
    obtain rfl := named regular
    have notDirectory : header.typeflag ≠ typeDir := by
      intro directory
      rw [directory] at regular
      cases regular
    split at done
    · rename_i rootName
      -- A canonical name is not the root of the package itself.
      have proper := (components_relativePath (canonical regular)).2
      rw [rootName] at proper
      exact absurd rfl (proper [] List.mem_cons_self).1
    split at done
    · cases done
    split at done
    · cases done
    split at done
    · cases done
    rename_i middle made
    split at done
    · cases done
    rename_i content copied
    obtain ⟨rfl, _⟩ := copyN_eq_some copied
    unfold createExclusive at done
    split at done
    · rename_i fresh
      cases done
      have written : Unpacks stage [(header.name, body.take header.size.toNat)] middle
          (middle.put (stage.holds header.name)
            (.regular (fileMode (relativePath header.name)) (body.take header.size.toNat))) := unpacks_put _ fresh
      exact (secureMkdir_furnishes made).unpacks.append written
    · cases done
  · rw [if_neg regular]
    split at done
    · cases done
      exact (Furnishes.refl tree).unpacks
    split at done
    · cases done
    split at done
    · split at done
      · cases done
      · exact (secureMkdir_furnishes done).unpacks
    · cases done

/-- Unpacking an archive whose file names are canonical writes its regular files. -/
theorem extractEntries_unpacks [Formats] {walk : Walk} {state : Extraction}
    (canonical : ∀ file ∈ walk.regular, canonicalArchivePath file.1 false = some file.1)
    (done : extractEntries stage walk state tree = some tree') : Unpacks stage walk.regular tree tree' := by
  induction walk generalizing state tree with
  | eof =>
    cases done
    exact (Furnishes.refl _).unpacks
  | failed => cases done
  | entry header body unread next ih =>
    unfold extractEntries at done
    split at done
    · cases done
    split at done
    · cases done
    rename_i name installed
    dsimp only at done
    split at done
    · cases done
    split at done
    · cases done
    rename_i middle step
    have listed : (Walk.entry header body unread next).regular =
        (if isRegular header.typeflag then [(header.name, body.take header.size.toNat)] else []) ++ next.regular := by
      rw [Walk.regular]
      split <;> rfl
    rw [listed] at canonical ⊢
    refine Unpacks.append (extractEntry_unpacks ?_ ?_ step)
      (ih (fun file member => canonical file (List.mem_append_right _ member)) done)
    · intro regular
      rw [if_pos regular] at canonical
      exact canonical (header.name, body.take header.size.toNat) (List.mem_append_left _ List.mem_cons_self)
    · intro regular
      have notDirectory : header.typeflag ≠ typeDir := by
        intro directory
        rw [directory] at regular
        cases regular
      rw [decide_eq_false notDirectory] at installed
      exact installArchivePath_file installed

end run

end DBPilot.Catalog
