import TaskConsole.Key

/-!
# The picker

A `Picker` is a list to choose from with one item selected.  `Picker.handle` moves the
selection within the list, confirms it or gives up; a picker that is no longer open
does not change.
-/

namespace TaskConsole

/-- How far a choice has come. -/
inductive Choice where
  | pending
  | confirmed (index : Nat)
  | cancelled
deriving DecidableEq, Inhabited

/-- A list to choose from. -/
structure Picker (α : Type) where
  items : List α
  selected : Nat := 0
  pageSize : Nat
  choice : Choice := .pending

namespace Picker

variable {α : Type}

/-- A picker at its first item; a page has one item at least. -/
def ofItems (items : List α) (pageSize : Nat) : Picker α :=
  { items := items, pageSize := max pageSize 1 }

/-- The index of the last item, 0 if there is none. -/
def lastIndex (p : Picker α) : Nat := p.items.length - 1

/-- Moves the selection up, as far as the first item. -/
def up (p : Picker α) (count : Nat) : Picker α :=
  { p with selected := min (p.selected - count) p.lastIndex }

/-- Moves the selection down, as far as the last item. -/
def down (p : Picker α) (count : Nat) : Picker α :=
  { p with selected := min (p.selected + count) p.lastIndex }

/-- Confirms the selected item, if there is one. -/
def confirm (p : Picker α) : Picker α :=
  if p.items.isEmpty then p else { p with choice := .confirmed p.selected }

/-- What a key does to an open picker. -/
def handleOpen (p : Picker α) : KeyAction → Picker α
  | .moveUp => p.up 1
  | .insert 'k' => p.up 1
  | .moveDown => p.down 1
  | .insert 'j' => p.down 1
  | .pageUp => p.up p.pageSize
  | .pageDown => p.down p.pageSize
  | .home => { p with selected := 0 }
  | .toEnd => { p with selected := p.lastIndex }
  | .submit => p.confirm
  | .escape => { p with choice := .cancelled }
  | .clearOrQuit => { p with choice := .cancelled }
  | .insert 'q' => { p with choice := .cancelled }
  | _ => p

/-- What a key does. -/
def handle (p : Picker α) (action : KeyAction) : Picker α :=
  if p.choice = .pending then p.handleOpen action else p

/-- The picker with pages of another size. -/
def setPageSize (p : Picker α) (pageSize : Nat) : Picker α :=
  { p with pageSize := max pageSize 1 }

/-- The first item to show so that the selected one is among so many rows. -/
def windowStart (p : Picker α) (rows : Nat) : Nat := p.selected - (max rows 1 - 1)

/-- The item that was confirmed. -/
def confirmed? (p : Picker α) : Option α :=
  match p.choice with
  | .confirmed index => p.items[index]?
  | .pending => none
  | .cancelled => none

end Picker

end TaskConsole
