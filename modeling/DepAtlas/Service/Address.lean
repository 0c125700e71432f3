import DepAtlas.SourcePath
import DepAtlas.Text.Percent
import DepAtlas.Text.Uneven

/-!
# Addresses

What a request is addressed to: a path that leads to an endpoint, and a query of parameters
behind a question mark.  A fragment, which a number sign begins, is not sent.

An address may begin with a scheme, and with the name of a host behind two slashes.  With
both, the path is what follows; otherwise the path is taken from the root, and slashes at
its beginning do not count.  Dots in a path are followed before it is decoded, so that an
escaped dot is a name.  The texts that an address holds are spelled out.
-/

namespace DepAtlas.Service

/-- Where an address leads. -/
structure Address where
  /-- The path, decoded. -/
  path : List Char
  /-- The query, as it is written. -/
  query : List Char := []
  deriving DecidableEq, Repr

namespace Address

/-- The parts of an address that are sent: what stands in front of its question mark, and
its query. -/
def parts (written : List Char) : List Char × List Char :=
  let sent := written.takeWhile (· != '#')
  (sent.takeWhile (· != '?'), (sent.dropWhile (· != '?')).drop 1)

/-- A character that a scheme may hold. -/
def isSchemeChar (c : Char) : Bool :=
  c.isAlphanum || c == '+' || c == '-' || c == '.'

/-- The scheme of an address, which a colon ends, and the rest.  A scheme begins with a
letter; it may also be empty. -/
def splitScheme (written : List Char) : List Char × List Char :=
  let name := written.takeWhile isSchemeChar
  match written.drop name.length with
  | ':' :: rest => if name.head?.all Char.isAlpha then (name, rest) else ([], written)
  | _ => ([], written)

/-- The authority of an address behind its scheme, and the path. -/
def splitAuthority : List Char → List Char × List Char
  | '/' :: '/' :: rest => (rest.takeWhile (· != '/'), rest.dropWhile (· != '/'))
  | path => ([], path)

/-- The name of the host and the port of an authority, without the user in front of the last
at sign. -/
def hostAndPort (authority : List Char) : List Char :=
  (authority.reverse.takeWhile (· != '@')).reverse

/-- Whether an authority names a host. -/
def hasHost (authority : List Char) : Bool :=
  (hostAndPort authority).head?.any (· != ':')

/-- Whether an authority names nothing: no user, no host and no port. -/
def isEmptyAuthority (authority : List Char) : Bool :=
  [[], ['@'], [':'], ['@', ':']].contains authority

/-- Follow one piece of a path: a dot stays, and two dots go back, but not beyond the
root. -/
def follow (way : List (List Char)) (piece : List Char) : List (List Char) :=
  if piece == ['.'] then way
  else if piece == ['.', '.'] then (if way == [[]] then way else way.dropLast)
  else way ++ [piece]

/-- A path without dots among its pieces. -/
def withoutDots (path : List Char) : List Char :=
  ['/'].intercalate ((SourcePath.pieces path).foldl follow [])

/-- A path taken from the root. -/
def fromRoot (path : List Char) : List Char :=
  withoutDots ('/' :: path.dropWhile (· == '/'))

/-- The path of what stands in front of the question mark. -/
def pathOf (front : List Char) : List Char :=
  let (scheme, rest) := splitScheme front
  let (authority, path) := splitAuthority rest
  if !scheme.isEmpty && hasHost authority then withoutDots path
  else if scheme.isEmpty && isEmptyAuthority authority then fromRoot path
  else fromRoot (withoutDots path)

/-- Read an address. -/
def read (written : List Char) : Address :=
  let (front, query) := parts written
  ⟨Text.percentDecode (pathOf front), query⟩

/-- The segments of a path, spelled out. -/
def segmentsOf (path : List Char) : List String :=
  ((SourcePath.pieces path).drop 1).map fun piece => Text.spelled (String.ofList piece)

/-- The segments of an address. -/
def segments (address : Address) : List String :=
  segmentsOf address.path

/-! ## Parameters -/

/-- A name or a value among the parameters, where a plus sign stands for a blank. -/
def parameterText (cs : List Char) : String :=
  Text.spelled
    (String.ofList (Text.percentDecode (cs.map fun c => if c == '+' then ' ' else c)))

/-- A parameter: a name, and a value behind an equals sign. -/
def parameter (cs : List Char) : String × String :=
  (parameterText (cs.takeWhile (· != '=')), parameterText ((cs.dropWhile (· != '=')).drop 1))

/-- The parameters of an address. -/
def parameters (address : Address) : List (String × String) :=
  ((address.query.splitOn '&').filter (· != [])).map parameter

/-- The query that holds parameters. -/
def queryOf (parameters : List (String × String)) : List Char :=
  ['&'].intercalate (parameters.map fun (name, value) =>
    Text.percentEncode name.toList ++ '=' :: Text.percentEncode value.toList)

/-! ## Slashes at the end -/

/-- A path without the slashes at its end. -/
def withoutLastSlashes (path : List Char) : List Char :=
  (path.reverse.dropWhile (· == '/')).reverse

/-- The address without the slashes at the end of its path, read again.  As it is read from
the decoded path, what was escaped twice is decoded twice. -/
def shortened (address : Address) : Address :=
  read (withoutLastSlashes address.path ++
    if address.query.isEmpty then [] else '?' :: address.query)

end Address

end DepAtlas.Service
