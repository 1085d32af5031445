import TaskConsole.Address.Basic
import TaskConsole.Address.Name
import TaskConsole.Text.Utf8

/-!
# Reading hosts

`Host.read` reads the host of a web address: an IPv6 address in brackets, an IPv4
address in any of its spellings, or a name, which is written in lower case and in
ASCII.  `Host.readPlain` reads the host of any other address, which stays as it is.
`AddressFault` says what is wrong with one that cannot be read.
-/

namespace TaskConsole

/-- What is wrong with an address. -/
inductive AddressFault where
  | noScheme | emptyHost | badName | badPort | badIpv4 | badIpv6 | badCharacter
deriving DecidableEq, Inhabited

/-- A fault in words. -/
def AddressFault.message : AddressFault → String
  | noScheme => "relative URL without a base"
  | emptyHost => "empty host"
  | badName => "invalid international domain name"
  | badPort => "invalid port number"
  | badIpv4 => "invalid IPv4 address"
  | badIpv6 => "invalid IPv6 address"
  | badCharacter => "invalid domain character"

namespace Host

/-- The number that digits of a base name. -/
def numeral? (base : Nat) (cs : List Char) : Option Nat :=
  cs.foldl (fun n c => do
    let n ← n
    let d ← Number.hexValue? c
    if d < base then some (n * base + d) else none) (some 0)

/-- A part of an IPv4 address: hexadecimal behind `0x`, octal behind `0`, decimal
otherwise. -/
def ipv4Part? : List Char → Option Nat
  | [] => none
  | '0' :: 'x' :: rest => numeral? 16 rest
  | '0' :: 'X' :: rest => numeral? 16 rest
  | '0' :: c :: rest => numeral? 8 (c :: rest)
  | cs => numeral? 10 cs

/-- The parts of a name that lie between its points; a point at the end closes the last
one. -/
def nameParts (cs : List Char) : List (List Char) :=
  let parts := Name.pieces (fun c => c = '.') cs
  if parts.getLast? = some [] && 1 < parts.length then parts.dropLast else parts

/-- Whether a name has to be an IPv4 address, since it ends in a number. -/
def endsInNumber (cs : List Char) : Bool :=
  match (nameParts cs).getLast? with
  | some part => (!part.isEmpty && part.all Char.isDigit) || (ipv4Part? part).isSome
  | none => false

/-- The value of an IPv4 address: the last part fills the bytes that are left. -/
def ipv4? (cs : List Char) : Option Nat := do
  let parts ← (nameParts cs).mapM ipv4Part?
  let last ← parts.getLast?
  let front := parts.dropLast
  if parts.length ≤ 4 && front.all (· < 256) && last < Nat.pow 256 (5 - parts.length) then
    return (front.zipIdx.foldl (fun sum p => sum + p.1 * Nat.pow 256 (3 - p.2)) 0) + last
  else none

/-- The two pieces of an IPv4 address within an IPv6 address, in strict decimal
digits. -/
def embedded? (cs : List Char) : Option (List Nat) := do
  let parts := Name.pieces (fun c => c = '.') cs
  let bytes ← parts.mapM fun part =>
    if part.isEmpty || 3 < part.length || (part.head? = some '0' && 1 < part.length) then none
    else (numeral? 10 part).filter (· < 256)
  match bytes with
  | [a, b, c, d] => some [a * 256 + b, c * 256 + d]
  | _ => none

/-- The pieces of one side of an IPv6 address, of which the last may be an IPv4
address. -/
def ipv6Side? : List (List Char) → Option (List Nat)
  | [] => some []
  | [last] =>
    if '.' ∈ last then embedded? last
    else if last.isEmpty || 4 < last.length then none
    else (numeral? 16 last).map ([·])
  | piece :: rest => do
    if piece.isEmpty || 4 < piece.length then none
    else return (← numeral? 16 piece) :: (← ipv6Side? rest)

/-- Cuts characters at the first two colons in a row. -/
def cutColons : List Char → Option (List Char × List Char)
  | ':' :: ':' :: rest => some ([], rest)
  | c :: rest => (cutColons rest).map fun r => (c :: r.1, r.2)
  | [] => none

/-- The pieces of a side that has none if it is empty. -/
def sidePieces (cs : List Char) : List (List Char) :=
  if cs.isEmpty then [] else Name.pieces (fun c => c = ':') cs

/-- The eight pieces of an IPv6 address; two colons stand for one zero at least. -/
def ipv6? (cs : List Char) : Option (List Nat) :=
  match cutColons cs with
  | none => (ipv6Side? (sidePieces cs)).filter fun l => l.length = 8
  | some (left, right) => do
    if '.' ∈ left then none
    else
      let left ← ipv6Side? (sidePieces left)
      let right ← ipv6Side? (sidePieces right)
      if left.length + right.length < 8 then
        return left ++ List.replicate (8 - left.length - right.length) 0 ++ right
      else none

/-- Reads the address in brackets behind the first one. -/
def readBracketed (rest : List Char) : Except AddressFault Host :=
  if rest.getLast? = some ']' then
    match ipv6? rest.dropLast with
    | some pieces => .ok (.ipv6 pieces)
    | none => .error .badIpv6
  else .error .badIpv6

/-- Reads the host of a web address. -/
def read : List Char → Except AddressFault Host
  | '[' :: rest => readBracketed rest
  | cs =>
    match (Utf8.decode? (Percent.decode (Utf8.encode (String.ofList cs)))).bind
        fun text => Name.ascii? text.toList with
    | none => .error .badName
    | some [] => .error .emptyHost
    | some ascii =>
      if endsInNumber ascii then
        match ipv4? ascii with
        | some value => .ok (.ipv4 value)
        | none => .error .badIpv4
      else .ok (.name ascii)

/-- Reads the host of an address that is not for the web. -/
def readPlain : List Char → Except AddressFault Host
  | '[' :: rest => readBracketed rest
  | cs =>
    if cs.any fun c => c.toNat = 0 || c = ' ' || Name.hostMarks.contains c then
      .error .badCharacter
    else .ok (.name (Percent.encode Percent.inRest cs))

end Host

end TaskConsole
