/-!
# Cutting a text to a budget of characters

`truncateEnd` keeps the front of a text and `truncateStart` its back.  A text
within the budget is kept whole; a cut text shows an ellipsis where it was cut,
provided the budget is larger than the ellipsis.
-/

namespace TaskConsole.Text

/-- What stands where a text was cut. -/
def ellipsis : List Char := ['.', '.', '.']

/-- The front of the characters, at most `budget` of them, the ellipsis included. -/
def keepFront (budget : Nat) (cs : List Char) : List Char :=
  if cs.length ≤ budget then cs
  else if budget ≤ ellipsis.length then cs.take budget
  else cs.take (budget - ellipsis.length) ++ ellipsis

/-- The back of the characters, at most `budget` of them, the ellipsis included. -/
def keepBack (budget : Nat) (cs : List Char) : List Char :=
  if cs.length ≤ budget then cs
  else if budget ≤ ellipsis.length then cs.drop (cs.length - budget)
  else ellipsis ++ cs.drop (cs.length - (budget - ellipsis.length))

/-- The front of a text within a budget of characters. -/
def truncateEnd (text : String) (budget : Nat) : String :=
  String.ofList (keepFront budget text.toList)

/-- The back of a text within a budget of characters. -/
def truncateStart (text : String) (budget : Nat) : String :=
  String.ofList (keepBack budget text.toList)

end TaskConsole.Text
