import TaskConsole.Address.Percent

/-!
# Addresses

An `Address` names a place on the net by the WHATWG rules: a scheme, perhaps a host
with a user and a port, a path, perhaps a query and a fragment.  Its pieces are kept
as they are written, and `Address.text` puts them together.  `Address.extend?` adds
segments to the path.
-/

namespace TaskConsole

/-- The host of an address. -/
inductive Host where
  | name (cs : List Char)
  | ipv4 (value : Nat)
  | ipv6 (pieces : List Nat)
deriving DecidableEq, Inhabited

/-- The path of an address: one that has no segments, or the segments that stand behind
slashes. -/
inductive AddressPath where
  | bare (cs : List Char)
  | segments (list : List (List Char))
deriving DecidableEq, Inhabited

/-- A place on the net. -/
structure Address where
  scheme : List Char
  user : List Char := []
  password : List Char := []
  host : Option Host := none
  port : Option Nat := none
  /-- Whether a point keeps the path from being taken for a host. -/
  guarded : Bool := false
  path : AddressPath
  query : Option (List Char) := none
  fragment : Option (List Char) := none
deriving DecidableEq, Inhabited

namespace Host

/-- The four bytes of a number with points between them. -/
def ipv4Chars (value : Nat) : List Char :=
  let byte (weight : Nat) : List Char := (toString (value / weight % 256)).toList
  byte 0x1000000 ++ '.' :: byte 0x10000 ++ '.' :: byte 0x100 ++ '.' :: byte 1

/-- The number of zeros at the front. -/
def zeros (pieces : List Nat) : Nat := (pieces.takeWhile fun p => p = 0).length

/-- The place and the length of the first of the longest runs of zeros. -/
def longestZeros : (index : Nat) → List Nat → Nat × Nat
  | _, [] => (0, 0)
  | index, piece :: rest =>
    let later := longestZeros (index + 1) rest
    let here := zeros (piece :: rest)
    if later.2 ≤ here then (index, here) else later

/-- Pieces in hexadecimal digits with colons between them. -/
def piecesChars (pieces : List Nat) : List Char :=
  List.intercalate [':'] (pieces.map fun p => Nat.toDigits 16 p)

/-- The pieces of an address in brackets; two colons stand for the longest run of zeros
if it has two at least. -/
def ipv6Chars (pieces : List Nat) : List Char :=
  let (start, length) := longestZeros 0 pieces
  let inner :=
    if length < 2 then piecesChars pieces
    else piecesChars (pieces.take start) ++ ':' :: ':' :: piecesChars (pieces.drop (start + length))
  '[' :: inner ++ [']']

/-- A host as it is written. -/
def chars : Host → List Char
  | name cs => cs
  | ipv4 value => ipv4Chars value
  | ipv6 pieces => ipv6Chars pieces

end Host

namespace AddressPath

/-- A path as it is written. -/
def chars : AddressPath → List Char
  | bare cs => cs
  | segments list => list.flatMap fun segment => '/' :: segment

/-- Whether a path without a host in front of it would be taken for one. -/
def looksLikeHost : AddressPath → Bool
  | segments ([] :: _ :: _) => true
  | _ => false

end AddressPath

namespace Address

/-- The port of each scheme for the web; a file has none. -/
def webSchemes : List (String × Option Nat) :=
  [("http", some 80), ("https", some 443), ("ws", some 80), ("wss", some 443),
   ("ftp", some 21), ("file", none)]

/-- The scheme of files. -/
def fileScheme : List Char := "file".toList

/-- Whether a scheme is one for the web. -/
def isWeb (scheme : List Char) : Bool :=
  webSchemes.any fun s => s.1.toList = scheme

/-- The port that a scheme has of itself. -/
def defaultPort? (scheme : List Char) : Option Nat :=
  (webSchemes.find? fun s => s.1.toList = scheme).bind Prod.snd

/-- The user and the password in front of the host. -/
def userChars (a : Address) : List Char :=
  if a.user.isEmpty && a.password.isEmpty then []
  else a.user ++ (if a.password.isEmpty then [] else ':' :: a.password) ++ ['@']

/-- The port behind the host. -/
def portChars (a : Address) : List Char :=
  match a.port with
  | some port => ':' :: (toString port).toList
  | none => []

/-- The host with all that belongs to it. -/
def authorityChars (a : Address) : List Char :=
  match a.host with
  | some host => '/' :: '/' :: a.userChars ++ host.chars ++ a.portChars
  | none => if a.guarded then ['/', '.'] else []

/-- A part of an address behind its mark, if it has it. -/
def marked (mark : Char) : Option (List Char) → List Char
  | some cs => mark :: cs
  | none => []

/-- The path and the query, which is what a request asks the host for. -/
def target (a : Address) : String :=
  String.ofList (a.path.chars ++ marked '?' a.query)

/-- An address as it is written. -/
def text (a : Address) : String :=
  String.ofList (a.scheme ++ ':' :: a.authorityChars ++ a.path.chars
    ++ marked '?' a.query ++ marked '#' a.fragment)

/-- The characters that addresses do not see. -/
def isUnseen (c : Char) : Bool := c = '\t' || c = '\n' || c = '\r'

/-- Whether a segment names the place it stands in. -/
def isHere (segment : List Char) : Bool :=
  segment.map Char.toLower ∈ ["." , "%2e"].map String.toList

/-- Whether a segment names the place above. -/
def isAbove (segment : List Char) : Bool :=
  segment.map Char.toLower ∈ ["..", ".%2e", "%2e.", "%2e%2e"].map String.toList

/-- Whether a segment begins as the name of a drive does: a letter with a colon or a bar,
and nothing behind them that belongs to the name. -/
def startsWithDrive : List Char → Bool
  | [letter, mark] => letter.isAlpha && (mark = ':' || mark = '|')
  | letter :: mark :: '\\' :: _ => letter.isAlpha && (mark = ':' || mark = '|')
  | _ => false

/-- Whether a segment is the name of a drive. -/
def isDrive (segment : List Char) : Bool := segment.length = 2 && startsWithDrive segment

/-- The segments without the last one; that of a drive stays. -/
def dropAbove (list : List (List Char)) : List (List Char) :=
  if list.getLast?.any startsWithDrive then list else list.dropLast

/-- The first segment of a file; that of a drive has a colon. -/
def asRoot (segment : List Char) : List Char :=
  if isDrive segment then segment.take 1 ++ [':'] else segment

/-- The segments of a file without empty ones in front of the first that has a name. -/
def withoutEmptyStart (list : List (List Char)) : List (List Char) :=
  match list.dropWhile List.isEmpty with
  | [] => [[]]
  | rest => rest

/-- The segments without an empty one at the end, unless it is the only one. -/
def withoutEmptyEnd : List (List Char) → List (List Char)
  | [] => []
  | [segment] => [segment]
  | first :: rest =>
    if (first :: rest).getLast? = some [] then (first :: rest).dropLast else first :: rest

/-- The segments with one more behind them; the root takes it as its first. -/
def addSegment (file : Bool) (list : List (List Char)) (segment : List Char) :
    List (List Char) :=
  if list = [[]] then [if file then asRoot segment else segment] else list ++ [segment]

/-- The segments with a text behind them.  A text of dots alone adds nothing.  Dots that
appear only once the unseen characters are gone name a place: the one here, or the one
above. -/
def push (scheme : List Char) (list : List (List Char)) (segment : List Char) :
    List (List Char) :=
  if segment = ['.'] || segment = ['.', '.'] then list
  else
    let file : Bool := scheme = fileScheme
    let seen := segment.filter fun c => !isUnseen c
    let longer :=
      if seen = ['.', '.'] then dropAbove list ++ [[]]
      else if seen = ['.'] then addSegment file list []
      else addSegment file list (Percent.encode (Percent.inSegment (isWeb scheme)) seen)
    if file then withoutEmptyStart longer else longer

/-- The address with texts as further segments of its path, unless its path has no
segments.  An empty segment at the end of the path gives way to them. -/
def extend? (a : Address) (texts : List String) : Option Address :=
  match a.path with
  | .bare _ => none
  | .segments list =>
    let list := (texts.map String.toList).foldl (push a.scheme) (withoutEmptyEnd list)
    some { a with path := .segments list }

end Address

end TaskConsole
