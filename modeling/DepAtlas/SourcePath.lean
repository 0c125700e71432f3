/-!
# Paths of source files

A path is a root and a list of segments.  Reading a path drops empty and `.` segments
and keeps `..`, so that two spellings of one path read alike; `normalPath` is the text
of a path after reading, and it is its own normal form.

The top-level directory of a path is its layer.
-/

namespace DepAtlas

/-- Where a path starts.  Two leading slashes are a root of their own; one slash and
three or more slashes are the ordinary root. -/
inductive Root where
  | relative
  | single
  | double
  deriving DecidableEq, Repr

/-- The text of a root. -/
def Root.text : Root → String
  | .relative => ""
  | .single => "/"
  | .double => "//"

/-- A path: a root and the segments behind it. -/
structure SourcePath where
  root : Root
  segments : List String
  deriving DecidableEq, Repr

namespace SourcePath

/-- The pieces of a text between its slashes. -/
def pieces : List Char → List (List Char)
  | [] => [[]]
  | c :: cs =>
      if c = '/' then [] :: pieces cs
      else
        match pieces cs with
        | [] => [[c]]
        | piece :: rest => (c :: piece) :: rest

/-- The root that a text starts with. -/
def rootOf (cs : List Char) : Root :=
  match (cs.takeWhile (· == '/')).length with
  | 0 => .relative
  | 2 => .double
  | _ => .single

/-- A piece that names something: neither empty nor a single dot. -/
def isSegment (piece : List Char) : Bool :=
  piece != [] && piece != ['.']

/-- Read a path. -/
def ofString (text : String) : SourcePath :=
  let cs := text.toList
  ⟨rootOf cs, ((pieces cs).filter isSegment).map String.ofList⟩

/-- The text of a path.  The relative path without segments is a single dot. -/
def text (path : SourcePath) : String :=
  match path.root, path.segments with
  | .relative, [] => "."
  | root, segments => root.text ++ "/".intercalate segments

/-- The layer of the files that stand at the top level. -/
def topLevel : String := "root"

/-- The layer of a path: its first directory.  The ordinary root does not count as a
directory; the double root does. -/
def layer (path : SourcePath) : String :=
  let parts := match path.root with
    | .double => Root.double.text :: path.segments
    | _ => path.segments
  match parts with
  | top :: _ :: _ => top
  | _ => topLevel

end SourcePath

/-- The normal form of a path's text. -/
def normalPath (text : String) : String :=
  (SourcePath.ofString text).text

/-- The layer that a file belongs to. -/
def fileLayer (file : String) : String :=
  (SourcePath.ofString file).layer

end DepAtlas
