/-!
# Paths

A path is a root and a list of parts. Empty parts and parts that are a single dot are no parts, a
double dot stays. Exactly two slashes in front are a root of their own; more count as one. Joining
puts the parts of the second path behind those of the first, unless the second is rooted, when it
stands alone.

## Main definitions

* `Path`, `Path.Root`
* `Path.ofText`, `Path.text`
* `Path.join`, `Path.parent`, `Path.name`
* `Path.key` — parts with the root in front, by which paths are ordered
* `Path.Location`, `Path.resolve` — the place that a path names in a tree without links
-/

namespace Introspection

/-- Where a path starts. -/
inductive Path.Root where
  | relative
  | slash
  | doubleSlash
deriving DecidableEq, Inhabited, Repr

/-- A root and the parts below it. -/
structure Path where
  root : Path.Root
  parts : List String
deriving DecidableEq, Inhabited, Repr

namespace Path

/-- The slashes of a root. -/
def Root.text : Root → String
  | .relative => ""
  | .slash => "/"
  | .doubleSlash => "//"

/-- The stretches between slashes. -/
def segments : List Char → List (List Char)
  | [] => [[]]
  | c :: rest =>
    if c = '/' then [] :: segments rest
    else
      match segments rest with
      | [] => [[c]]
      | segment :: more => (c :: segment) :: more

/-- Whether a stretch between slashes is a part. -/
def isPart (segment : List Char) : Bool :=
  segment ≠ [] ∧ segment ≠ ['.']

/-- The root of a text, from the slashes it starts with. -/
def rootOf (text : List Char) : Root :=
  match (text.takeWhile (· = '/')).length with
  | 0 => .relative
  | 2 => .doubleSlash
  | _ => .slash

/-- The path that a text names. -/
def ofText (text : String) : Path where
  root := rootOf text.toList
  parts := ((segments text.toList).filter isPart).map String.ofList

/-- The path of no parts and no root. -/
def here : Path := ⟨.relative, []⟩

/-- The second path as seen from the first. -/
def join (base path : Path) : Path :=
  match path.root with
  | .relative => ⟨base.root, base.parts ++ path.parts⟩
  | _ => path

/-- The second path, given as a text, as seen from the first. -/
def child (base : Path) (text : String) : Path :=
  base.join (ofText text)

/-- The text of a path. The path of no parts and no root is a dot. -/
def text (path : Path) : String :=
  match path.root, path.parts with
  | .relative, [] => "."
  | root, parts => root.text ++ "/".intercalate parts

/-- The path without its last part. -/
def parent (path : Path) : Path :=
  { path with parts := path.parts.dropLast }

/-- The last part, or nothing. -/
def name (path : Path) : String :=
  path.parts.getLast?.getD ""

/-- Whether a part has a null character, which no name can have. -/
def hasNull (path : Path) : Bool :=
  path.parts.any fun part => part.toList.contains '\x00'

/-- The parts, with the root as a part in front if there is one. -/
def key (path : Path) : List String :=
  match path.root with
  | .relative => path.parts
  | root => root.text :: path.parts

-- Texts and lists have the order of their own types, also where a linear order is in scope.
attribute [local instance (high)] String.instLT String.decidableLT List.instLE List.decidableLE

/-- Paths are ordered by their parts, and parts by code points. -/
def le (first second : Path) : Bool :=
  decide (first.key ≤ second.key)

/-- A place in a tree of directories: the names on the way to it from the top. -/
abbrev Location := List String

/-- The path of a place. -/
def ofLocation (location : Location) : Path := ⟨.slash, location⟩

/-- The place that a path starts from. -/
def start (path : Path) (working : Location) : Location :=
  match path.root with
  | .relative => working
  | _ => []

/-- The place that a path names, where every double dot takes back the part before it. Nothing is
said about what is there. -/
def resolve (path : Path) (working : Location) : Location :=
  path.parts.foldl (fun here part => if part = ".." then here.dropLast else here ++ [part])
    (path.start working)

/-- A path below a directory as seen from there; any other path stays as it is. -/
def relativeTo (path directory : Path) : Path :=
  if path.root = directory.root ∧ directory.parts.isPrefixOf path.parts then
    ⟨.relative, path.parts.drop directory.parts.length⟩
  else path

end Path

end Introspection
