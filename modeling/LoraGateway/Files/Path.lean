/-!
# Paths

A path is what is written: steps, one after the other, from the working directory or from the root.
A step is a name, or `.` for staying, or `..` for the directory above. A place is where steps lead
if every directory on the way is there: the names from the working directory on, or from the root,
or from above the working directory.

Two paths may lead to one place and still not be the same to a file system, which goes all the way
(see `FileTree.walk`).
-/

namespace LoraGateway

/-- The names on the way to a file or directory. -/
abbrev Place := List String

namespace Place

/-- The name that absolute places start with. -/
def root : String := "/"

/-- The step to the directory above, and the first names of places above the working directory. -/
def above : String := ".."

/-- The step that stays where it is. -/
def here : String := "."

/-- The directory that a place is in. The root is in itself. -/
def parent (place : Place) : Place :=
  match place.getLast? with
  | none => [above]
  | some name =>
    if name = above then place ++ [above]
    else if place = [root] then place
    else place.dropLast

/-- The place a step further. -/
def enter (place : Place) (step : String) : Place :=
  if step = here then place
  else if step = above then place.parent
  else place ++ [step]

/-- True for the places where a directory is known to be: the working directory, those above it and
    the root. -/
def isBase (place : Place) : Bool :=
  place == [root] || place.all (· == above)

/-- The places that are passed on the way from a place along steps, both ends included. -/
def way (place : Place) : (steps : List String) → List Place
  | [] => [place]
  | step :: rest => place :: way (place.enter step) rest

/-- The shortest path to a place. -/
def path : Place → String
  | [] => here
  | first :: rest =>
    if first = root then root ++ "/".intercalate rest else "/".intercalate (first :: rest)

end Place

/-- A path. -/
structure Path where
  /-- The working directory or the root. -/
  start : Place := []
  steps : List String
  /-- True if the path ends with a slash, so that it can only lead to a directory. -/
  slashed : Bool := false
  deriving DecidableEq, Repr

namespace Path

/-- Reads a path: its steps stand between slashes, of which several count as one. -/
def ofText (s : String) : Path where
  start := if s.startsWith "/" then [Place.root] else []
  steps := (s.splitOn "/").filter (!·.isEmpty)
  slashed := s.endsWith "/"

/-- True for the path without any character. -/
def isEmpty (p : Path) : Bool :=
  p.start.isEmpty && p.steps.isEmpty

/-- The place that a path leads to. -/
def place (p : Path) : Place :=
  p.steps.foldl Place.enter p.start

/-- The places that a path passes. -/
def places (p : Path) : List Place :=
  p.start.way p.steps

/-- True if the last step is no name, so that a path cannot lead to anything new. -/
def endsInBase (p : Path) : Bool :=
  match p.steps.getLast? with
  | none => true
  | some step => step == Place.here || step == Place.above

/-- The path to where the last step starts from. -/
def containing (p : Path) : Path :=
  { p with steps := p.steps.dropLast ++ [Place.here] }

/-- The steps to the directory that a path is in. Steps that stay count for nothing here. -/
def parentSteps (p : Path) : List String :=
  (p.steps.filter (· != Place.here)).dropLast

end Path

end LoraGateway
