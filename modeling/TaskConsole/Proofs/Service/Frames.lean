import Mathlib.Data.List.DropRight
import TaskConsole.Proofs.Json.Written
import TaskConsole.Service.EventStream

/-!
# Streams of events as they are written

A `Written` stream consists of frames, each with lines of payload, comments and lines of other
fields, and with a blank line at least behind them; the last frame may be cut off.  Its tasks are
those that its frames name.  From each of its lines the reading takes what the line says
(`EventStream.Content.payload?_trimFeeds`), and an event that tells the task that was updated is
understood under each of the names (`EventStream.updatedTask?_updateText`).
-/

namespace TaskConsole.EventStream

/-! ### What is written -/

/-- How a line ends. -/
inductive LineEnd where
  | feed
  | returnFeed
deriving DecidableEq

/-- The characters at the end of a line. -/
def LineEnd.chars : LineEnd → List Char
  | feed => ['\n']
  | returnFeed => ['\r', '\n']

/-- The mark of a line that carries a payload. -/
def dataMark : List Char := ['d', 'a', 't', 'a', ':']

/-- What a line says. -/
inductive Content where
  /-- A payload, behind blank characters. -/
  | data (blanks payload : List Char)
  | comment (text : List Char)
  /-- Any other field. -/
  | other (text : List Char)
deriving DecidableEq

namespace Content

/-- The characters of a line but for its end. -/
def chars : Content → List Char
  | data blanks payload => dataMark ++ (blanks ++ payload)
  | comment text => ':' :: text
  | other text => text

/-- The payload of a line that carries one. -/
def payload? : Content → Option String
  | data _ payload => some (String.ofList payload)
  | comment _ => none
  | other _ => none

/-- A payload stands on one line and begins with a character that is not blank, a comment stands
on one line, and another field stands on one line that is not blank and carries no payload. -/
def IsProper : Content → Prop
  | data blanks payload =>
    (∀ c ∈ blanks, Text.isBlank c = true) ∧ (∀ c ∈ payload.head?, Text.isBlank c = false)
      ∧ ∀ c ∈ blanks ++ payload, c ≠ '\r' ∧ c ≠ '\n'
  | comment text => '\n' ∉ text
  | other text => '\n' ∉ text ∧ (∃ c ∈ text, c ≠ '\r') ∧ ¬dataMark <+: text

end Content

/-- A line of a frame. -/
structure FrameLine where
  content : Content
  ending : LineEnd
  proper : content.IsProper

/-- The characters of a line with its end. -/
def FrameLine.chars (line : FrameLine) : List Char :=
  line.content.chars ++ line.ending.chars

/-- The payload lines among lines. -/
def payloadOf (lines : List FrameLine) : List String :=
  lines.filterMap fun line => line.content.payload?

/-- A frame: its lines and the blank lines behind them, of which there is one at least. -/
structure Frame where
  lines : List FrameLine
  blank : LineEnd
  blanks : List LineEnd

/-- The characters of a frame. -/
def Frame.chars (frame : Frame) : List Char :=
  frame.lines.flatMap FrameLine.chars
    ++ (frame.blank.chars ++ frame.blanks.flatMap LineEnd.chars)

/-- A stream: its frames, and the lines of one that is cut off. -/
structure Written where
  frames : List Frame
  /-- The whole lines of the frame that is cut off. -/
  rest : List FrameLine
  /-- The line that is cut off. -/
  cut : Option { content : Content // content.IsProper }

namespace Written

/-- The characters of a stream. -/
def chars (w : Written) : List Char :=
  w.frames.flatMap Frame.chars
    ++ (w.rest.flatMap FrameLine.chars ++ (w.cut.map fun cut => cut.val.chars).getD [])

/-- The bytes of a stream. -/
def bytes (w : Written) : List UInt8 :=
  Utf8.encode (String.ofList w.chars)

/-- The payload lines of each frame. -/
def payloads (w : Written) : List (List String) :=
  w.frames.map (fun frame => payloadOf frame.lines)
    ++ [payloadOf w.rest ++ (w.cut.bind fun cut => cut.val.payload?).toList]

/-- The tasks that the frames with a payload name. -/
def tasks (w : Written) : List String :=
  (w.payloads.filter fun payload => !payload.isEmpty).filterMap fun payload =>
    updatedTask? ("\n".intercalate payload)

end Written

/-! ### What is read from a line -/

/-- The feeds and returns at the back of a line are what the library calls so. -/
theorem trimFeeds_eq (line : List Char) :
  trimFeeds line = line.rdropWhile fun c => c = '\r' || c = '\n'
  := rfl

/-- A line ends with a line feed, with nothing but a return before it. -/
theorem LineEnd.exists_chars_eq (ending : LineEnd) :
  ∃ returns, ending.chars = returns ++ ['\n'] ∧ '\n' ∉ returns
    ∧ ∀ line, trimFeeds (line ++ ending.chars) = trimFeeds line
  := by
  cases ending with
  | feed =>
    use [], rfl, List.not_mem_nil
    intro line
    apply List.rdropWhile_concat_pos _ _ _ rfl
  | returnFeed =>
    use ['\r'], rfl, by decide
    intro line
    have hchars : line ++ returnFeed.chars = line ++ ['\r'] ++ ['\n'] :=
      (List.append_assoc line ['\r'] ['\n']).symm
    rw [hchars, trimFeeds_eq, List.rdropWhile_concat_pos _ _ _ rfl,
      List.rdropWhile_concat_pos _ _ _ rfl, trimFeeds_eq]

/-- What a marked line carries. -/
theorem payload?_mark (carried : List Char) :
  payload? (dataMark ++ carried) = some (String.ofList (Text.dropBlankStart carried))
  := by
  have hmark : dataMark.isPrefixOf (dataMark ++ carried) = true := by
    rw [List.isPrefixOf_iff_prefix]
    apply List.prefix_append
  rw [payload?]
  exact if_pos hmark

namespace Content

/-- A line that is not blank and is not marked as payload carries none. -/
theorem payload?_other {text : List Char} (h : (other text).IsProper) :
  trimFeeds text ≠ [] ∧ EventStream.payload? (trimFeeds text) = none
  := by
  obtain ⟨hfeed, ⟨c, hc, hreturn⟩, hmark⟩ := h
  constructor
  · intro hnil
    have hdropped := List.rdropWhile_eq_nil_iff.mp hnil c hc
    rw [Bool.or_eq_true, decide_eq_true_iff, decide_eq_true_iff] at hdropped
    rcases hdropped with hc' | hc'
    · exact hreturn hc'
    · rw [hc'] at hc
      exact hfeed hc
  · apply if_neg
    intro hprefix
    apply hmark
    apply (List.isPrefixOf_iff_prefix.mp hprefix).trans
    apply List.rdropWhile_prefix

/-- A payload is read without the blank characters in front of it. -/
theorem payload?_data {blanks payload : List Char} (h : (data blanks payload).IsProper) :
  trimFeeds (data blanks payload).chars = (data blanks payload).chars
    ∧ EventStream.payload? (data blanks payload).chars = some (String.ofList payload)
  := by
  obtain ⟨hblanks, hpayload, hline⟩ := h
  have hmark : ∀ c ∈ dataMark, c ≠ '\r' ∧ c ≠ '\n' := by simp [dataMark]
  have hplain : ∀ c ∈ (data blanks payload).chars, c ≠ '\r' ∧ c ≠ '\n' := by
    intro c hc
    rcases List.mem_append.mp hc with hc' | hc'
    · apply hmark c hc'
    · apply hline c hc'
  constructor
  · rw [trimFeeds_eq, List.rdropWhile_eq_self_iff]
    intro hsome
    have hlast := hplain _ (List.getLast_mem hsome)
    rw [Bool.or_eq_true, decide_eq_true_iff, decide_eq_true_iff]
    apply not_or.mpr hlast
  · have hstart : Text.dropBlankStart (blanks ++ payload) = payload := by
      rw [Text.dropBlankStart, List.dropWhile_append_of_pos hblanks]
      cases payload with
      | nil => rfl
      | cons c payload =>
        apply List.dropWhile_cons_of_neg
        rw [hpayload c rfl]
        apply Bool.false_ne_true
    rw [chars, payload?_mark, hstart]

/-- What a proper line says is read from it, and it is not taken for a blank line. -/
theorem payload?_trimFeeds {content : Content} (h : content.IsProper) :
  '\n' ∉ content.chars ∧ trimFeeds content.chars ≠ []
    ∧ EventStream.payload? (trimFeeds content.chars) = content.payload?
  := by
  cases content with
  | data blanks payload =>
    obtain ⟨htrim, hpayload⟩ := payload?_data h
    rw [htrim]
    refine ⟨?_, List.cons_ne_nil _ _, hpayload⟩
    intro hfeed
    rcases List.mem_append.mp hfeed with hmark | hrest
    · revert hmark
      decide
    · exact (h.2.2 _ hrest).2 rfl
  | comment text =>
    have hfeed : '\n' ∉ ':' :: text :=
      List.mem_cons.not.mpr (not_or.mpr ⟨by decide, h⟩)
    have hother : (other (':' :: text)).IsProper := by
      refine ⟨hfeed, ⟨':', List.mem_cons_self, by decide⟩, ?_⟩
      rintro ⟨rest, hrest⟩
      exact absurd (List.head_eq_of_cons_eq hrest) (by decide)
    exact ⟨hfeed, payload?_other hother⟩
  | other text => exact ⟨h.1, payload?_other h⟩

end Content

/-! ### Tasks that were updated -/

/-- The tasks of a stream are those of its frames that the reading looks for. -/
theorem Written.tasks_eq (w : Written) :
  w.tasks = w.payloads.filterMap frameTask?
  := by
  rw [tasks, List.filterMap_filter]
  apply List.filterMap_congr
  intro payload _
  rw [frameTask?]
  cases payload with
  | nil => rfl
  | cons data payload => rfl

/-- The names under which an event may tell its task. -/
def taskNames : List String := ["task_id", "taskId", "taskID"]

/-- The text of an event that tells the task that was updated. -/
def updateText (name task : String) : String :=
  Json.compact (.object (Json.textMembers [("type", "task.updated"), (name, task)]))

/-- The text of an event that tells the task that was updated is understood. -/
theorem updatedTask?_updateText {name : String} (h : name ∈ taskNames) (task : String) :
  updatedTask? (updateText name task) = some task
  := by
  rw [updatedTask?, updateText, Json.read?_compact_object]
  simp only [taskNames, List.mem_cons, List.not_mem_nil, or_false] at h
  rcases h with rfl | rfl | rfl
  · rfl
  · rfl
  · rfl

/-- The text of an event stands on one line and does not begin with a blank character. -/
theorem isProper_update (name task : String) :
  (Content.data [' '] (updateText name task).toList).IsProper
  := by
  have hline := List.all_eq_true.mp
    (Json.feedless_compact_object [("type", "task.updated"), (name, task)])
  refine ⟨?_, ?_, ?_⟩
  · intro c hc
    rw [List.mem_singleton.mp hc]
    rfl
  · rw [updateText, Json.toList_compact_object]
    intro c hc
    rw [← Option.some.inj hc]
    rfl
  · intro c hc
    rcases List.mem_cons.mp hc with rfl | htext
    · decide
    · have hc' := hline c htext
      rw [Json.isFeedless, Bool.and_eq_true, bne_iff_ne, bne_iff_ne] at hc'
      apply hc'

/-- The frame of an event that tells the task that was updated. -/
def updateFrame (name task : String) : Frame where
  lines := [{
    content := .data [' '] (updateText name task).toList
    ending := .feed
    proper := isProper_update name task }]
  blank := .feed
  blanks := []

/-- The stream of the events that tell tasks that were updated, each under one of the names. -/
def updates (told : List ({ name : String // name ∈ taskNames } × String)) : Written where
  frames := told.map fun t => updateFrame t.1 t.2
  rest := []
  cut := none

/-- The tasks that were told are those of the stream. -/
theorem tasks_updates (told : List ({ name : String // name ∈ taskNames } × String)) :
  (updates told).tasks = told.map Prod.snd
  := by
  have hframe : ∀ t : { name : String // name ∈ taskNames } × String,
      frameTask? (payloadOf (updateFrame t.1 t.2).lines) = some t.2 := by
    intro t
    have hpayload : payloadOf (updateFrame t.1 t.2).lines = [updateText t.1 t.2] := by
      rw [← String.ofList_toList (s := updateText t.1 t.2)]
      rfl
    rw [hpayload]
    apply updatedTask?_updateText t.1.property
  have hpayloads : (updates told).payloads
      = (told.map fun t => payloadOf (updateFrame t.1 t.2).lines) ++ [[]] := by
    rw [Written.payloads, updates, List.map_map]
    rfl
  rw [Written.tasks_eq, hpayloads, List.filterMap_append, List.filterMap_map,
    ← List.filterMap_eq_map]
  apply (List.append_nil _).trans
  apply List.filterMap_congr
  intro t _
  apply hframe t

end TaskConsole.EventStream
