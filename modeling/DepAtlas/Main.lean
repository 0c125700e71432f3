import DepAtlas.CommandLine

/-!
# Program

Looks up the paths that the words on the command line mention, runs the command, writes
the file that it saves, and prints what it says.
-/

namespace DepAtlas.CommandLine

/-- What a path that is spelled out leads to in the file system.  A directory can be opened
but not read. -/
def lookUp (path : String) : IO Entry := do
  let some name := Text.unspelled? path | return .unencodable
  if name.toList.contains '\x00' then
    return .cutShort
  try
    return .file (← IO.FS.readBinFile name)
  catch
    | .invalidArgument .. => return .tooLong
    | .inappropriateType none .. => return .directory
    | .inappropriateType (some _) .. => return .blocked
    | _ => return .vacant

/-- The texts in a word that can be paths: the word itself, and a value that is attached to
an option. -/
def pathsIn (word : String) : List String :=
  let spellings := [word, String.ofList (word.toList.drop 2)] ++
    (attachedValue? word.toList).toList
  spellings ++ spellings.map normalPath

/-- Look up all paths that a line of words can mention. -/
def lookUpAll (line : List String) : IO (List (String × Entry)) :=
  (line.flatMap pathsIn).eraseDups.mapM fun path => do
    return (path, ← lookUp path)

/-- What a path leads to among those that were looked up. -/
def entryIn (entries : List (String × Entry)) (path : String) : Entry :=
  ((entries.find? fun entry => entry.1 = path).map (·.2)).getD .vacant

end DepAtlas.CommandLine

open DepAtlas.CommandLine in
/-- Run the command line. -/
def main (words : List String) : IO UInt32 := do
  let line := words.map DepAtlas.Text.spelled
  let entries ← lookUpAll line
  let outcome := run (entryIn entries) line
  if let some (path, text) := outcome.written? then
    if let some name := DepAtlas.Text.unspelled? path then
      IO.FS.writeFile name text
  IO.print outcome.stdout
  IO.eprint outcome.stderr
  if let some breakdown := outcome.breakdown? then
    IO.eprintln s!"Error: {breakdown.message}"
  return outcome.exitCode.toUInt32
