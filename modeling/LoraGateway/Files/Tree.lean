import LoraGateway.Bytes
import LoraGateway.Files.Error
import LoraGateway.Files.Path

/-!
# Trees of files

The files a command can see, as a value: each file with its place, and the directories that were
made on their own. What lies on the way to a file is a directory too.

A path is followed step by step (`walk`): each step starts from a directory that must be there,
also if the next one leaves it again. Reading fails in the ways a file system does (`read`). Writing
makes the missing directories first (`write`), and what was made before a fault stays.
-/

namespace LoraGateway

/-- A tree of files. -/
structure FileTree where
  files : List (Place × Bytes) := []
  /-- Directories that were made on their own. -/
  directories : List Place := []
  deriving Inhabited

namespace FileTree

/-- What is found at a place. -/
inductive Node
  | file (content : Bytes)
  | directory
  deriving DecidableEq, Repr

/-- True if there is a directory at a place. -/
def isDirectory (t : FileTree) (place : Place) : Bool :=
  place.isBase || t.files.any (fun f => f.1 != place && place.isPrefixOf f.1) ||
    t.directories.any place.isPrefixOf

/-- What stands at a place. -/
def node? (t : FileTree) (place : Place) : Option Node :=
  match t.files.lookup place with
  | some content => some (.file content)
  | none => if t.isDirectory place then some .directory else none

/-- The longest name, in bytes. -/
def nameLimit : Nat := 255

/-- Goes a step from a place, at which a directory must be. -/
def step (t : FileTree) (place : Place) (name : String) : Except FileError Place :=
  match t.node? place with
  | none => throw .notFound
  | some (.file _) => throw .notADirectory
  | some .directory =>
    if nameLimit < name.utf8ByteSize then throw .nameTooLong else pure (place.enter name)

/-- Goes along a path. At its end there may be nothing. -/
def walk (t : FileTree) (p : Path) : Except FileError Place :=
  if p.isEmpty then throw .notFound else p.steps.foldlM t.step p.start

/-- What a path leads to. -/
def find (t : FileTree) (p : Path) : Except FileError Node := do
  match t.node? (← t.walk p) with
  | none => throw .notFound
  | some .directory => pure .directory
  | some (.file content) => if p.slashed then throw .notADirectory else pure (.file content)

/-- True if a path leads to a file or to a directory. -/
def hasPath (t : FileTree) (path : String) : Bool :=
  (t.find (.ofText path)).isOk

/-- True if a path leads to a directory. -/
def hasDirectory (t : FileTree) (p : Path) : Bool :=
  match t.find p with
  | .ok .directory => true
  | _ => false

/-- The content of a file. -/
def read (t : FileTree) (path : String) : Except FileError Bytes := do
  match ← t.find (.ofText path) with
  | .file content => pure content
  | .directory => throw .isADirectory

/-- The text of a file. -/
def readText (t : FileTree) (path : String) : Except FileError String := do
  let bytes ← t.read path
  match String.fromUTF8? ⟨bytes.toArray⟩ with
  | some s => pure s
  | none => throw .notText

/-- Makes a directory where there is nothing. -/
def makeDirectory (t : FileTree) (p : Path) : Except FileError FileTree := do
  let place ← t.walk p
  if p.endsInBase ∨ (t.node? place).isSome then
    throw .alreadyExists
  pure { t with directories := t.directories ++ [place] }

/-- Stores the content of a file in a directory that is there. Of a path that ends with a slash the
    last step is not taken. -/
def store (t : FileTree) (p : Path) (content : Bytes) : Except FileError FileTree := do
  let place ← t.walk (if p.slashed then p.containing else p)
  if p.slashed ∨ p.endsInBase then
    throw .isADirectory
  match t.node? place with
  | some .directory => throw .isADirectory
  | _ => pure { t with files := (place, content) :: t.files.filter (·.1 != place) }

/-- A tree after a change, and the fault that ended the change early, if one did. -/
structure Change where
  after : FileTree
  fault : Option FileError := none

/-- Makes a directory, unless it is there. -/
def ensureDirectory (t : FileTree) (p : Path) : Change :=
  match t.makeDirectory p with
  | .ok after => { after }
  | .error e => { after := t, fault := if t.hasDirectory p then none else some e }

/-- Makes the directory that steps lead to, the last one first in the list, and before it those on
    the way that are missing. -/
def makeDirectories (t : FileTree) (start : Place) : (reversed : List String) → Change
  | [] => { after := t }
  | last :: before =>
    let p : Path := { start, steps := (last :: before).reverse }
    match t.ensureDirectory p with
    | { fault := some .notFound, .. } =>
      match t.makeDirectories start before with
      | { after, fault := none } => after.ensureDirectory p
      | failed => failed
    | change => change

/-- Writes a file, and before it makes the directories on the way that are missing. -/
def write (t : FileTree) (path : String) (content : Bytes) : Change :=
  let p := Path.ofText path
  match t.makeDirectories p.start p.parentSteps.reverse with
  | { after, fault := none } =>
    match after.store p content with
    | .ok stored => { after := stored }
    | .error e => { after, fault := some e }
  | failed => failed

end FileTree

end LoraGateway
