import DepAtlas.SourcePath
import DepAtlas.Text.FileName

/-!
# Files that a path leads to

A path leads to a file, to a directory, or to nothing, and then it matters where the way
ends: whether something could be put there, and if not, why.  Names and paths have a
greatest length, and a NUL character ends a path where it should go on.  Paths are spelled
out, and may be uneven.

A file tree holds files below a working directory.  It shows what every path, taken from
the working directory or from the root, leads to, and can take a new file.  Under the root
it knows the directories that every system has, and the file that stays empty whatever is
put there.

A place is a list of names.  It is counted from the working directory unless its first name
is the root's.
-/

namespace DepAtlas.CommandLine

/-- What a path leads to. -/
inductive Entry where
  | file (content : ByteArray)
  | directory
  /-- Nothing is there, in a directory that exists. -/
  | vacant
  /-- A directory on the way does not exist. -/
  | astray
  /-- A file stands on the way, where a directory has to be. -/
  | blocked
  /-- A name on the way, or the whole path, is longer than any file's. -/
  | tooLong
  /-- The path holds a NUL character, so that nothing can be asked about it. -/
  | cutShort
  /-- The path has no bytes, so that nothing can be asked about it. -/
  | unencodable

/-- The most bytes that a name in a directory has. -/
def maxNameBytes : Nat := 255

/-- The most bytes that a path has. -/
def maxPathBytes : Nat := 4095

/-- Files by the names that lead to them from the working directory. -/
structure FileTree where
  files : List (List String × ByteArray) := []

namespace FileTree

/-- The name of the root. -/
def rootName : String := "/"

/-- The names of the directories in the root. -/
def systemNames : List String :=
  ["bin", "boot", "dev", "etc", "home", "lib", "media", "mnt", "opt", "proc", "root", "run",
    "sbin", "srv", "sys", "tmp", "usr", "var"]

/-- Whether a place is the root or one of the directories in it. -/
def isSystemDirectory : List String → Bool
  | [root] => root = rootName
  | [root, name] => root = rootName && systemNames.contains name
  | _ => false

/-- The place of the file that stays empty. -/
def emptyPlace : List String := [rootName, "dev", "null"]

/-- Go on from a place by one piece of a path. -/
def enter (place : List String) (piece : String) : List String :=
  if piece = "" ∨ piece = "." then place
  else if piece = ".." then
    match place.getLast? with
    | none | some ".." => place ++ [".."]
    | some last => if last = rootName then place else place.dropLast
  else place ++ [piece]

/-- What is at a place.  Above the working directory there are directories only. -/
def entryAt (tree : FileTree) (place : List String) : Entry :=
  if place = emptyPlace then .file ByteArray.empty
  else
    match tree.files.find? fun file => file.1 = place with
    | some file => .file file.2
    | none =>
        if place.all (· = "..") || isSystemDirectory place ||
            tree.files.any fun file => place.isPrefixOf file.1 then
          .directory
        else .vacant

/-- What the pieces of a path lead to from a place. -/
def walk (tree : FileTree) (place : List String) : List String → Entry
  | [] => tree.entryAt place
  | piece :: pieces =>
      match tree.entryAt place with
      | .directory =>
          if maxNameBytes < Text.nameLength piece then .tooLong
          else tree.walk (enter place piece) pieces
      | .file _ => .blocked
      | _ => .astray

/-- The place that a path starts from. -/
def start (path : String) : List String :=
  match (SourcePath.ofString path).root with
  | .relative => []
  | _ => [rootName]

/-- What a path leads to. -/
def entry (tree : FileTree) (path : String) : Entry :=
  match Text.nameBytes? path with
  | none => .unencodable
  | some bytes =>
      if bytes.contains 0 then .cutShort
      else if bytes.isEmpty then .astray
      else if maxPathBytes < bytes.length then .tooLong
      else
        let pieces := SourcePath.pieces (Text.usualName path).toList
        tree.walk (start path) (pieces.map String.ofList)

/-- The place of a file that a path names. -/
def place (path : String) : List String :=
  (SourcePath.ofString (Text.usualName path)).segments.foldl enter (start path)

/-- Put a file into the tree, in place of the file that is there. -/
def put (tree : FileTree) (path : String) (content : ByteArray) : FileTree where
  files := (place path, content) :: tree.files.filter fun file => file.1 != place path

/-- The text of the file that a path leads to. -/
def text? (tree : FileTree) (path : String) : Option String :=
  match tree.entry path with
  | .file content => String.fromUTF8? content
  | _ => none

end FileTree

end DepAtlas.CommandLine
