import TaskConsole.Address.Direction
import TaskConsole.Address.Joiner
import TaskConsole.Address.NameMapping
import TaskConsole.Address.Punycode

/-!
# Host names

A name is a list of labels with points between them.  `Name.ascii?` writes a name in ASCII
by the rules of UTS 46: it is spelled, each label is checked, and a label beyond ASCII is
written in Punycode behind the mark `xn--`.  A label that has the mark already has to be
what this would write.
-/

namespace TaskConsole.Name

/-- The pieces of characters between separators. -/
def pieces (separates : Char → Bool) (cs : List Char) : List (List Char) :=
  cs.foldr (fun c found =>
    if separates c then [] :: found
    else match found with
      | piece :: rest => (c :: piece) :: rest
      | [] => [[c]]) [[]]

/-- A label: the characters that it shows, and how it is written. -/
structure Label where
  shown : List Char
  written : List Char

/-- Whether characters are all in ASCII. -/
def isAscii (cs : List Char) : Bool := cs.all fun c => c.toNat < 0x80

/-- The marks of addresses that may not stand in any host. -/
def hostMarks : List Char :=
  ['#', '/', ':', '<', '>', '?', '@', '[', '\\', ']', '^', '|']

/-- What may not stand in a name. -/
def isBarred (c : Char) : Bool :=
  c.toNat ≤ 0x20 || c.toNat = 0x7F || c = '%' || hostMarks.contains c

/-- The mark of a label that stands for one beyond ASCII. -/
def foreignMark : List Char := ['x', 'n', '-', '-']

/-- The most characters that a label beyond ASCII may show. -/
def maxShown : Nat := 1000

/-- The most characters that may stand behind the mark. -/
def maxWritten : Nat := 2000

/-- What a label with the mark shows. -/
def shown? (label : List Char) : Option (List Char) :=
  let inner := label.drop foreignMark.length
  if !isAscii inner || label.getLast? = some '-' || maxWritten < inner.length then none
  else
    (Punycode.decode? inner).filter fun shown => NameMapping.spelling? shown = some shown

/-- Whether a label beyond ASCII may be shown: it begins with no mark, its joiners are in
their places, and it is not too long. -/
def isSound (shown : List Char) : Bool :=
  !shown.head?.any Text.isMark && Joiner.joinersFit shown && shown.length ≤ maxShown

/-- A spelled label with how it is written. -/
def label? (spelled : List Char) : Option Label :=
  let marked := foreignMark.isPrefixOf spelled
  if isAscii spelled && !marked then some ⟨spelled, spelled⟩
  else do
    let shown ← if marked then shown? spelled else some spelled
    if isSound shown then
      return ⟨shown, if marked then spelled else foreignMark ++ Punycode.encode spelled⟩
    else none

/-- The spelling of a name; in ASCII small letters are all there is to it. -/
def spelling? (cs : List Char) : Option (List Char) :=
  if isAscii cs then some (cs.map Char.toLower) else NameMapping.spelling? cs

/-- Whether the labels of a name run one way each, as they have to if one of them has
characters that run to the left. -/
def runOneWay (labels : List Label) : Bool :=
  if labels.any (·.shown.any Direction.isLeftward) then
    labels.all (Direction.runsOneWay ·.shown)
  else true

/-- The name of labels. -/
def join? (labels : List Label) : Option (List Char) :=
  let written := List.intercalate ['.'] (labels.map Label.written)
  if written.any isBarred then none else if runOneWay labels then some written else none

/-- A name in ASCII. -/
def ascii? (cs : List Char) : Option (List Char) :=
  (spelling? cs).bind fun spelled => ((pieces (· = '.') spelled).mapM label?).bind join?

end TaskConsole.Name
