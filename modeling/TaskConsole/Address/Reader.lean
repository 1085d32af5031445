import TaskConsole.Address.Host

/-!
# Reading addresses

`Address.read` reads an address from a text, without the blanks around it and without
the characters that addresses do not see.  The address has to begin with a scheme.
Dots in the path are resolved, and what may not stand in its place is percent encoded.
-/

namespace TaskConsole.Address

/-- Whether a character stands around an address without being part of it. -/
def isAround (c : Char) : Bool := c.toNat ≤ 0x20

/-- The characters of an address. -/
def clean (cs : List Char) : List Char :=
  ((cs.dropWhile isAround).reverse.dropWhile isAround).reverse.filter fun c => !isUnseen c

/-- Whether a character may stand in a scheme behind the first one. -/
def inScheme (c : Char) : Bool := c.isAlphanum || c = '+' || c = '-' || c = '.'

/-- The scheme at the front, in lower case, and what follows its colon. -/
def scheme? (cs : List Char) : Option (List Char × List Char) :=
  match cs.dropWhile inScheme with
  | ':' :: rest =>
    let scheme := cs.takeWhile inScheme
    if scheme.head?.any Char.isAlpha then some (scheme.map Char.toLower, rest) else none
  | _ => none

/-- Cuts characters at the first one of a kind; `none` behind it if there is none. -/
def cutAt (mark : Char) (cs : List Char) : List Char × Option (List Char) :=
  match cs.dropWhile (· != mark) with
  | _ :: rest => (cs.takeWhile (· != mark), some rest)
  | [] => (cs, none)

/-- Cuts characters at the last one of a kind; `none` in front of it if there is none. -/
def cutAtLast (mark : Char) (cs : List Char) : Option (List Char) × List Char :=
  match cutAt mark cs.reverse with
  | (back, some front) => (some front.reverse, back.reverse)
  | (_, none) => (none, cs)

/-- Whether a character separates the segments of a path. -/
def isSlash (web : Bool) (c : Char) : Bool := c = '/' || (web && c = '\\')

/-- Resolves the dots among segments; `above` holds the segments so far, the last one
first, and `root` makes the first one of the path from the first that is met. -/
def resolve (root : List Char → List Char) (above : List (List Char)) :
    List (List Char) → List (List Char)
  | [] => above.reverse
  | segment :: rest =>
    let last := rest.isEmpty
    if isAbove segment then
      let left := if above.head?.any startsWithDrive then above else above.drop 1
      resolve root (if last then [] :: left else left) rest
    else if isHere segment then resolve root (if last then [] :: above else above) rest
    else resolve root ((if above.isEmpty then root segment else segment) :: above) rest

/-- The segments behind the first slash of a path. -/
def segmentsOf (scheme cs : List Char) : List (List Char) :=
  resolve (if scheme = fileScheme then asRoot else id) []
    ((Name.pieces (isSlash (isWeb scheme)) cs).map (Percent.encode Percent.inPath))

/-- The segments behind a host.  A path that does not begin with a slash gets one. -/
def segmentsBehindHost (scheme : List Char) : List Char → List (List Char)
  | [] => if isWeb scheme then [[]] else []
  | c :: rest => segmentsOf scheme (if isSlash (isWeb scheme) c then rest else c :: rest)

/-- Reads the port of an address, unless it is the one that the scheme has of itself. -/
def readPort (scheme digits : List Char) : Except AddressFault (Option Nat) :=
  if digits.isEmpty then .ok none
  else
    match (Host.numeral? 10 digits).filter (· ≤ 65535) with
    | some port => .ok (if some port = defaultPort? scheme then none else some port)
    | none => .error .badPort

/-- Cuts the port from a host; a colon in brackets does not count. -/
def cutPort : (bracketed : Bool) → List Char → List Char × Option (List Char)
  | _, [] => ([], none)
  | bracketed, c :: rest =>
    if c = ':' && !bracketed then ([], some rest)
    else
      let cut := cutPort (c = '[' || (bracketed && c != ']')) rest
      (c :: cut.1, cut.2)

/-- Reads an address whose host stands in front of its path; `more` says that a query or a
fragment follows.  The port may end at a backslash, which then begins the path. -/
def readAuthority (scheme : List Char) (more : Bool) (cs : List Char) :
    Except AddressFault Address := do
  let web := isWeb scheme
  let path := cs.dropWhile fun c => !isSlash web c
  let (user, place) := cutAtLast '@' (cs.takeWhile fun c => !isSlash web c)
  let (name, password) := cutAt ':' (user.getD [])
  let named := !name.isEmpty || password.any (!·.isEmpty)
  let (host, port) := cutPort false place
  if user = some [] && place.isEmpty && (more || !path.isEmpty) then throw .emptyHost
  if host.isEmpty && (web || port.isSome) then throw .emptyHost
  let host ← if web then Host.read host else Host.readPlain host
  let digits := (port.getD []).takeWhile Char.isDigit
  let behind := (port.getD []).dropWhile Char.isDigit
  let port ← readPort scheme digits
  if behind.head?.any (· != '\\') then throw .badPort
  if named && host = .name [] then throw .emptyHost
  return {
    scheme := scheme
    user := Percent.encode Percent.inUser name
    password := Percent.encode Percent.inUser (password.getD [])
    host := some host
    port := port
    path := .segments (segmentsBehindHost scheme (behind ++ path)) }

/-- Reads the host of a file and the path behind it.  This computer is the host without a
name; it is meant too where a drive stands in the place of the host, or behind it. -/
def readFileHost (cs : List Char) : Except AddressFault (Host × List (List Char)) := do
  let name := cs.takeWhile fun c => !isSlash true c
  if isDrive name then return (.name [], segmentsOf fileScheme cs)
  let host ← if name.isEmpty then .ok (.name []) else Host.read name
  let list := segmentsBehindHost fileScheme (cs.dropWhile fun c => !isSlash true c)
  if host = .name "localhost".toList || list.head?.any isDrive then return (.name [], list)
  else return (host, list)

/-- Reads the address of a file. -/
def readFileAddress (cs : List Char) : Except AddressFault Address := do
  let (host, list) ←
    match cs with
    | a :: b :: rest =>
      if isSlash true a && isSlash true b then readFileHost rest
      else .ok (.name [], segmentsOf fileScheme (if isSlash true a then b :: rest else cs))
    | cs => .ok (.name [], segmentsOf fileScheme (cs.dropWhile (isSlash true)))
  return { scheme := fileScheme, host := some host, path := .segments (withoutEmptyStart list) }

/-- Reads an address behind its scheme, without its query and its fragment; `more` says
that there is one. -/
def readPlace (scheme : List Char) (more : Bool) (cs : List Char) : Except AddressFault Address :=
  if scheme = fileScheme then readFileAddress cs
  else if isWeb scheme then readAuthority scheme more (cs.dropWhile (isSlash true))
  else match cs with
    | '/' :: '/' :: rest => readAuthority scheme more rest
    | '/' :: rest =>
      let path := AddressPath.segments (segmentsOf scheme rest)
      .ok { scheme := scheme, guarded := path.looksLikeHost, path := path }
    | cs => .ok { scheme := scheme, path := .bare (Percent.encode Percent.inRest cs) }

/-- Reads an address. -/
def read (text : String) : Except AddressFault Address :=
  match scheme? (clean text.toList) with
  | none => .error .noScheme
  | some (scheme, rest) => do
    let (rest, fragment) := cutAt '#' rest
    let (rest, query) := cutAt '?' rest
    let a ← readPlace scheme (query.isSome || fragment.isSome) rest
    return { a with
      query := query.map (Percent.encode (Percent.inQuery (isWeb scheme)))
      fragment := fragment.map (Percent.encode Percent.inFragment) }

end TaskConsole.Address
