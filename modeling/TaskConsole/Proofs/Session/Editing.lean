import TaskConsole.Proofs.Session.Gesture
import TaskConsole.Proofs.Text.Splice
import TaskConsole.Proofs.Text.Trim

/-!
# Editing the prompt

Two other views of the prompt say what a key does to it.  The `Sides` of the cursor are the
characters in front of it and those behind it, and each key works where they meet (`Sides.press`).
A `Draft` is the text itself, of which a key replaces bytes if these begin and end with a character
(`Draft.press?`).  A key does to the prompt what it does to its sides (`Sides.prompt_press`), and
what it does to its draft, where it never fails (`Prompt.press?_draft`).  So the prompt of a session
is what both become through the keys that are pressed while the prompt has them
(`Session.prompt_eq_sides_and_draft`).
-/

namespace TaskConsole

/-- What a key makes of the prompt, while the prompt has the keys: the key that clears or quits
leaves nothing of it. -/
def Prompt.press (p : Prompt) (action : KeyAction) : Prompt :=
  if action = .clearOrQuit then {} else p.edited action

theorem Prompt.press_eq_edited (p : Prompt) {action : KeyAction} (h : action ≠ .clearOrQuit) :
  p.press action = p.edited action
  := if_neg h

/-! ### The sides of the cursor -/

/-- The characters in front of the cursor and those behind it. -/
structure Sides where
  left : List Char := []
  right : List Char := []
deriving DecidableEq

namespace Sides

/-- The prompt with these sides. -/
def prompt (s : Sides) : Prompt := ⟨s.left ++ s.right, s.left.length⟩

/-- What a key makes of the sides. -/
def press (s : Sides) : KeyAction → Sides
  | .insert c => ⟨s.left ++ [c], s.right⟩
  | .backspace => ⟨s.left.dropLast, s.right⟩
  | .delete => ⟨s.left, s.right.tail⟩
  | .cursorLeft => ⟨s.left.dropLast, s.left.getLast?.toList ++ s.right⟩
  | .cursorRight => ⟨s.left ++ s.right.head?.toList, s.right.tail⟩
  | .home => ⟨[], s.left ++ s.right⟩
  | .toEnd => ⟨s.left ++ s.right, []⟩
  | .submit => if (s.left ++ s.right).all Text.isBlank then s else {}
  | .clearOrQuit => {}
  | .escape | .nextAgent | .help | .pageUp | .pageDown | .moveUp | .moveDown | .ignored => s

theorem prompt_insert (s : Sides) (c : Char) :
  (s.press (.insert c)).prompt = s.prompt.insert c
  := by
  rw [press, prompt, prompt, Prompt.insert, List.take_left, List.drop_left, List.append_assoc,
    List.length_append]
  rfl

theorem prompt_backspace (s : Sides) :
  (s.press .backspace).prompt = s.prompt.backspace
  := by
  obtain ⟨left, right⟩ := s
  rcases List.eq_nil_or_concat' left with rfl | ⟨front, last, rfl⟩
  · rfl
  · have hlength : (front ++ [last]).length = front.length + 1 := List.length_append
    rw [press, List.dropLast_concat, prompt, prompt, Prompt.backspace, if_neg (by simp [hlength]),
      List.drop_left, hlength, Nat.add_sub_cancel, List.append_assoc, List.take_left]

theorem prompt_delete (s : Sides) :
  (s.press .delete).prompt = s.prompt.delete
  := by
  rw [press, prompt, prompt, Prompt.delete, List.take_left, List.drop_append, List.drop_eq_nil_of_le
    (Nat.le_succ _), Nat.add_sub_cancel_left, List.drop_one, List.nil_append]

theorem prompt_cursorLeft (s : Sides) :
  (s.press .cursorLeft).prompt = s.prompt.left
  := by
  obtain ⟨left, right⟩ := s
  rcases List.eq_nil_or_concat' left with rfl | ⟨front, last, rfl⟩
  · rfl
  · rw [press, List.dropLast_concat, List.getLast?_concat, prompt, prompt, Prompt.left,
      List.length_append, List.length_singleton, Nat.add_sub_cancel, List.append_assoc]
    rfl

theorem prompt_cursorRight (s : Sides) :
  (s.press .cursorRight).prompt = s.prompt.right
  := by
  obtain ⟨left, right⟩ := s
  rw [press, prompt, prompt, Prompt.right]
  cases right with
  | nil =>
    have hend : min (left.length + 1) left.length = left.length :=
      Nat.min_eq_right (Nat.le_succ _)
    simp only [List.append_nil, List.head?_nil, Option.toList_none, List.tail_nil, hend]
  | cons c right =>
    have hnext : min (left.length + 1) (left ++ c :: right).length = left.length + 1 := by
      rw [List.length_append, List.length_cons]
      omega
    rw [hnext, List.head?_cons, Option.toList_some, List.length_append, List.append_assoc]
    rfl

theorem prompt_submit (s : Sides) :
  (s.press .submit).prompt = s.prompt.press .submit
  := by
  have hblank : (Text.trim s.prompt.text).isEmpty = (s.left ++ s.right).all Text.isBlank := by
    rw [Text.isEmpty_trim, Text.isBlankText, Prompt.text, String.toList_ofList]
    rfl
  rw [press, Prompt.press_eq_edited _ (by decide), Prompt.edited, hblank]
  split
  · rfl
  · rfl

/-- A key does the same to the sides as to their prompt. -/
theorem prompt_press (s : Sides) (action : KeyAction) :
  (s.press action).prompt = s.prompt.press action
  := by
  cases action with
  | clearOrQuit => rfl
  | submit => apply prompt_submit
  | insert c => apply prompt_insert
  | backspace => apply prompt_backspace
  | delete => apply prompt_delete
  | cursorLeft => apply prompt_cursorLeft
  | cursorRight => apply prompt_cursorRight
  | toEnd => rw [press, prompt, List.append_nil]; rfl
  | _ => rfl

/-- Keys do the same to the sides as to their prompt. -/
theorem prompt_foldl_press (s : Sides) (keys : List KeyAction) :
  (keys.foldl press s).prompt = keys.foldl Prompt.press s.prompt
  := by
  induction keys generalizing s with
  | nil => rfl
  | cons action keys ih => rw [List.foldl_cons, List.foldl_cons, ih, prompt_press]

end Sides

/-! ### The bytes of the text -/

/-- A text with the number of characters in front of the cursor. -/
structure Draft where
  text : String := ""
  cursor : Nat := 0
deriving DecidableEq

namespace Draft

/-- Replaces the bytes between the characters with two indices. -/
def replace? (d : Draft) (start stop : Nat) (between : List UInt8) : Option String :=
  Text.splice? d.text (Text.offset d.text start) (Text.offset d.text stop) between

/-- What a key makes of the draft, if the bytes that it replaces are those of characters. -/
def press? (d : Draft) : KeyAction → Option Draft
  | .insert c =>
    (d.replace? d.cursor d.cursor (String.utf8EncodeChar c)).map fun text => ⟨text, d.cursor + 1⟩
  | .backspace =>
    if d.cursor = 0 then some d
    else (d.replace? (d.cursor - 1) d.cursor []).map fun text => ⟨text, d.cursor - 1⟩
  | .delete =>
    if d.text.length ≤ d.cursor then some d
    else (d.replace? d.cursor (d.cursor + 1) []).map fun text => ⟨text, d.cursor⟩
  | .cursorLeft => some ⟨d.text, d.cursor - 1⟩
  | .cursorRight => some ⟨d.text, min (d.cursor + 1) d.text.length⟩
  | .home => some ⟨d.text, 0⟩
  | .toEnd => some ⟨d.text, d.text.length⟩
  | .submit => some (if (Text.trim d.text).isEmpty then d else {})
  | .clearOrQuit => some {}
  | .escape | .nextAgent | .help | .pageUp | .pageDown | .moveUp | .moveDown | .ignored => some d

end Draft

namespace Prompt

/-- The draft of a prompt. -/
def draft (p : Prompt) : Draft := ⟨p.text, p.cursor⟩

theorem length_text (p : Prompt) :
  p.text.length = p.chars.length
  := String.length_ofList

/-- Between two characters of a prompt, others can be put in the place of those that are there. -/
theorem replace?_draft (p : Prompt) {start stop : Nat} (h : start ≤ stop) (between : List Char) :
  p.draft.replace? start stop (between.flatMap String.utf8EncodeChar)
    = some (String.ofList (p.chars.take start ++ between ++ p.chars.drop stop))
  := by
  have hbytes : Utf8.encode (String.ofList between)
      = between.flatMap String.utf8EncodeChar := by
    rw [Utf8.encode_eq, String.toList_ofList]
  rw [Draft.replace?, ← hbytes, Text.splice?_offset _ h, draft, text, String.toList_ofList,
    ← String.ofList_append, ← String.ofList_append]

/-- A key that replaces bytes of the draft does so. -/
theorem press?_draft (p : Prompt) (action : KeyAction) :
  p.draft.press? action = some (p.press action).draft
  := by
  cases action with
  | insert c =>
    have hreplace := p.replace?_draft (Nat.le_refl p.cursor) [c]
    rw [List.flatMap_singleton] at hreplace
    have hcursor : p.draft.cursor = p.cursor := rfl
    rw [Draft.press?, hcursor, hreplace, List.append_assoc]
    rfl
  | backspace =>
    have hreplace := p.replace?_draft (Nat.sub_le p.cursor 1) []
    rw [List.flatMap_nil, List.append_nil] at hreplace
    have hcursor : p.draft.cursor = p.cursor := rfl
    rw [Draft.press?, hcursor, hreplace, press_eq_edited _ (by decide), edited, backspace]
    split
    · rfl
    · rfl
  | delete =>
    have hreplace := p.replace?_draft (Nat.le_succ p.cursor) []
    rw [List.flatMap_nil, List.append_nil] at hreplace
    have hcursor : p.draft.cursor = p.cursor := rfl
    have hlength : p.draft.text.length = p.chars.length := p.length_text
    rw [Draft.press?, hcursor, hlength, hreplace, press_eq_edited _ (by decide), edited, delete]
    split
    · next hend =>
      rw [List.take_of_length_le hend, List.drop_eq_nil_of_le (by omega), List.append_nil]
    · rfl
  | cursorRight =>
    rw [Draft.press?, draft, length_text]
    rfl
  | toEnd =>
    rw [Draft.press?, draft, length_text]
    rfl
  | submit =>
    rw [Draft.press?, press_eq_edited _ (by decide), edited, draft]
    split
    · rfl
    · rfl
  | _ => rfl

/-- No key fails to replace bytes of the draft. -/
theorem foldlM_press?_draft (p : Prompt) (keys : List KeyAction) :
  keys.foldlM Draft.press? p.draft = some (keys.foldl press p).draft
  := by
  induction keys generalizing p with
  | nil => rfl
  | cons action keys ih =>
    rw [List.foldlM_cons, press?_draft, Option.bind_eq_bind, Option.bind_some, ih, List.foldl_cons]

end Prompt

/-! ### Sessions -/

/-- Whether nothing is left of the prompt where a first press of the key that clears or quits is
remembered. -/
def Typing.IsCleared (t : Typing) : Prop := t.armedAt ≠ none → t.prompt = {}

/-- A key keeps the prompt cleared where a first press is remembered, and is pressed on the prompt
if that has the keys. -/
theorem Typing.IsCleared.press {t : Typing} (h : t.IsCleared) (now : Nat) (action : KeyAction) :
  (t.press now action).IsCleared
    ∧ (t.press now action).prompt = if t.mode = .input then t.prompt.press action else t.prompt
  := by
  rw [Typing.press]
  split
  · next hignored =>
    rw [hignored]
    refine ⟨h, ?_⟩
    split
    · rfl
    · rfl
  split
  · next hmode =>
    have hhelp : t.mode ≠ .input := by
      rw [hmode]
      decide
    rw [if_neg hhelp]
    refine ⟨?_, rfl⟩
    intro harmed
    apply h
    intro hnone
    apply harmed
    simp only [hnone, ite_self]
  · next hmode =>
    rw [if_pos hmode, Prompt.press]
    split
    · rw [clearOrQuit]
      split
      · -- a press that quits follows one that cleared the prompt
        next harmed =>
        have hsome : t.armedAt ≠ none := by
          intro hnone
          rw [isArmed, hnone] at harmed
          cases harmed
        exact ⟨h, h hsome⟩
      · exact ⟨fun _ => rfl, rfl⟩
    · exact ⟨fun harmed => absurd rfl harmed, rfl⟩

namespace Session

/-- The key that an event presses on the prompt, if it is a key and the prompt has the keys. -/
def promptKeys (s : Session) (_now : Nat) (e : Event) : List KeyAction :=
  if s.mode = .input then e.key?.toList else []

/-- An event presses its key on the prompt, if it is a key and the prompt has the keys. -/
theorem prompt_handle {s : Session} (h : s.typing.IsCleared) (now : Nat) (e : Event) :
  (s.handle now e).1.typing.IsCleared
    ∧ (s.handle now e).1.prompt = (s.promptKeys now e).foldl Prompt.press s.prompt
  := by
  have hprompt : (s.handle now e).1.prompt = (s.handle now e).1.typing.prompt := rfl
  rw [hprompt, typing_handle, promptKeys]
  cases e.key? with
  | none =>
    rw [Option.toList_none, ite_self]
    exact ⟨h, rfl⟩
  | some action =>
    obtain ⟨hcleared, hpress⟩ := h.press now action
    refine ⟨hcleared, hpress.trans ?_⟩
    have hmode : s.typing.mode = s.mode := rfl
    rw [hmode]
    split
    · rfl
    · rfl

/-- After a run, the prompt is what the keys that were pressed on it make of it. -/
theorem prompt_run {s : Session} (h : s.typing.IsCleared) (events : List (Nat × Event)) :
  (s.run events).prompt = (s.along promptKeys events).foldl Prompt.press s.prompt
  := by
  induction events generalizing s with
  | nil => rfl
  | cons event events ih =>
    obtain ⟨now, e⟩ := event
    obtain ⟨hcleared, hprompt⟩ := prompt_handle h now e
    rw [along, List.foldl_append, ← hprompt, ← ih hcleared]
    rfl

section Start

variable (snapshot : Snapshot) (agent : Agent) (agents : List Agent) (theme : Theme)
  (viewport : Viewport)

/-- Whatever happens in a session, the keys that are pressed while the prompt has them make the same
of the prompt as of the two sides of a cursor: its text has the characters of both, and its cursor
stands behind those on the left, so never beyond the end.  And they make the same of a draft: each
key finds the bytes that it replaces between borders of characters, and leaves a text.  This is so
because the offset of every character of the prompt is a border within its bytes. -/
theorem prompt_eq_sides_and_draft (events : List (Nat × Event)) :
  let opened := start snapshot agent agents theme viewport
  let keys := opened.along promptKeys events
  let sides := keys.foldl Sides.press {}
  let p := (opened.run events).prompt
  p.text = String.ofList (sides.left ++ sides.right)
    ∧ p.cursor = sides.left.length ∧ p.cursor ≤ p.text.length
    ∧ keys.foldlM Draft.press? {} = some ⟨p.text, p.cursor⟩
    ∧ ∀ index, Text.offset p.text index ≤ (Utf8.encode p.text).length
      ∧ Text.isBorder (Utf8.encode p.text) (Text.offset p.text index) = true
  := by
  intro opened keys sides p
  have htyping : opened.typing = {} := typing_start snapshot agent agents theme viewport
  have hcleared : opened.typing.IsCleared := by
    rw [htyping]
    exact fun _ => rfl
  have hempty : opened.prompt = {} := congrArg Typing.prompt htyping
  have hrun : p = keys.foldl Prompt.press {} := by
    rw [← hempty]
    exact prompt_run hcleared events
  have hsides : p = sides.prompt := hrun.trans (Sides.prompt_foldl_press {} keys).symm
  have hdraft := Prompt.foldlM_press?_draft {} keys
  rw [← hrun] at hdraft
  have hcursor : p.cursor = sides.left.length := congrArg Prompt.cursor hsides
  refine ⟨?_, hcursor, ?_, hdraft, ?_⟩
  · rw [hsides]
    rfl
  · rw [hcursor, p.length_text, hsides, Sides.prompt, List.length_append]
    apply Nat.le_add_right
  · intro index
    exact ⟨Text.offset_le_length _ _, Text.isBorder_offset _ _⟩

end Start

/-- Characters of several bytes are put in and taken away as a whole. -/
example :
  let keys : List KeyAction := "héllo".toList.map .insert
    ++ [.home, .cursorRight, .delete, .insert 'ë', .toEnd, .backspace]
  keys.foldlM Draft.press? {} = some ⟨"hëll", 4⟩
    ∧ keys.foldl Sides.press {} = ⟨"hëll".toList, []⟩
  := by decide +kernel

end Session

end TaskConsole
