/-!
# Areas of the screen

An `Area` is a rectangle of cells.  `Area.padded` takes a border from it, `centred`
puts a box into its middle, and `bands` divides a screen into the header, the feed,
the input and the footer.
-/

namespace TaskConsole

/-- A rectangle of cells, by its left upper corner and its size. -/
structure Area where
  x : Nat
  y : Nat
  width : Nat
  height : Nat
deriving DecidableEq, Inhabited

/-- The number of cells that a border takes at each side. -/
structure Padding where
  left : Nat := 0
  right : Nat := 0
  top : Nat := 0
  bottom : Nat := 0

namespace Padding

/-- A border at the left and the right. -/
def horizontal (n : Nat) : Padding := { left := n, right := n }

/-- A border all around. -/
def uniform (n : Nat) : Padding := { left := n, right := n, top := n, bottom := n }

end Padding

namespace Area

/-- The area of a whole screen. -/
def screen (width height : Nat) : Area := ⟨0, 0, width, height⟩

/-- Whether an area has no cell. -/
def isEmpty (a : Area) : Bool := a.width = 0 || a.height = 0

/-- The area within a border, without cells if the border does not fit. -/
def padded (a : Area) (p : Padding) : Area where
  x := a.x + p.left
  y := a.y + p.top
  width := a.width - (p.left + p.right)
  height := a.height - (p.top + p.bottom)

/-- A box of at most the given size in the middle of an area. -/
def centred (a : Area) (maxWidth height : Nat) : Area :=
  let width := min a.width maxWidth
  let height := min height a.height
  ⟨a.x + (a.width - width) / 2, a.y + (a.height - height) / 2, width, height⟩

end Area

/-- The number of rows of the header. -/
def headerHeight : Nat := 3

/-- The number of rows of the input. -/
def inputHeight : Nat := 3

/-- The number of rows of the footer. -/
def footerHeight : Nat := 1

/-- The heights of the header, the feed, the input and the footer.  The feed gives way
first, then the header, then the input down to a row, then the footer. -/
def bandHeights (height : Nat) : Nat × Nat × Nat × Nat :=
  let input := min height 1
  let footer := min (height - input) footerHeight
  let header := min (height - input - footer) headerHeight
  let moreInput := min (height - input - footer - header) (inputHeight - 1)
  (header, height - input - footer - header - moreInput, input + moreInput, footer)

/-- The areas of the header, the feed, the input and the footer on a screen. -/
structure Bands where
  header : Area
  feed : Area
  input : Area
  footer : Area

/-- Divides a screen into its bands. -/
def bands (width height : Nat) : Bands :=
  let (header, feed, input, footer) := bandHeights height
  { header := ⟨0, 0, width, header⟩
    feed := ⟨0, header, width, feed⟩
    input := ⟨0, header + feed, width, input⟩
    footer := ⟨0, header + feed + input, width, footer⟩ }

/-- The part of the screen that the feed is laid out for. -/
structure Viewport where
  feedWidth : Nat
  feedHeight : Nat
deriving DecidableEq, Inhabited

namespace Viewport

/-- The number of columns between the feed and the edge of the screen. -/
def feedPadding : Nat := 1

/-- The smallest number of rows that the feed is laid out for. -/
def minFeedHeight : Nat := 3

/-- The viewport of a screen. -/
def ofScreen (width height : Nat) : Viewport where
  feedWidth := max (width - feedPadding * 2) 1
  feedHeight := max (height - (headerHeight + inputHeight + footerHeight)) minFeedHeight

/-- Half a page of the feed, one row at least. -/
def halfPage (v : Viewport) : Nat := max (v.feedHeight / 2) 1

end Viewport

/-- The number of tasks that the picker shows on a screen. -/
def pickerRows (screenHeight : Nat) : Nat := max (screenHeight - 8) 3

end TaskConsole
