import TaskConsole.Proofs.Service.Frames
import TaskConsole.Proofs.Text.Utf8
import TaskConsole.Service.Client

/-!
# Reading the events that were written

Reading the bytes of a stream that was written gives the tasks that its frames name, each once
and in their order (`EventStream.read_written`).

The reading is followed in `readOn`, which begins in the midst of a frame.  A line adds to the
payload of the open frame what it carries (`readOn_line`), and a blank line hands the frame over
and leaves nothing of it behind (`readOn_blank`).  A stream that comes in pieces brings out the
tasks that reading it at once gives (`EventStream.total_run_pieces`), and so does the content of an
answer to a request for events (`EventStream.eventTasks_eq_total`).
-/

namespace TaskConsole.EventStream

/-! ### Lines of bytes -/

/-- The bytes of characters. -/
def bytesOf (chars : List Char) : List UInt8 :=
  Utf8.encode (String.ofList chars)

theorem bytesOf_append (chars chars' : List Char) :
  bytesOf (chars ++ chars') = bytesOf chars ++ bytesOf chars'
  := by
  rw [bytesOf, String.ofList_append, Utf8.encode_append]
  rfl

/-- Characters are written as the bytes of each. -/
theorem bytesOf_eq (chars : List Char) :
  bytesOf chars = chars.flatMap String.utf8EncodeChar
  := by
  rw [bytesOf, Utf8.encode_eq, String.toList_ofList]

theorem bytesOf_nil :
  bytesOf [] = []
  := by
  rw [bytesOf_eq, List.flatMap_nil]

/-- The byte of a line feed is written for a line feed only. -/
theorem feed_mem_bytesOf_iff (chars : List Char) :
  feed ∈ bytesOf chars ↔ '\n' ∈ chars
  := by
  rw [bytesOf_eq, List.mem_flatMap]
  constructor
  · rintro ⟨c, hc, hfeed⟩
    rw [← (Utf8.lineFeed_mem_encodeChar_iff c).mp hfeed]
    apply hc
  · intro h
    use '\n', h
    rw [feed, Utf8.lineFeed_mem_encodeChar_iff]

/-- Bytes without a line feed belong to the first line of what follows. -/
theorem splitLines_append {part : List UInt8} (hsome : part ≠ []) (h : feed ∉ part)
    (rest : List UInt8) :
  splitLines (part ++ rest)
    = match splitLines rest with
      | line :: lines => (part ++ line) :: lines
      | [] => [part]
  := by
  induction part with
  | nil => exact absurd rfl hsome
  | cons b part ih =>
    obtain ⟨hb, hpart⟩ := not_or.mp (List.mem_cons.not.mp h)
    have hfirst : splitLines (b :: (part ++ rest))
        = match splitLines (part ++ rest) with
          | line :: lines => (b :: line) :: lines
          | [] => [[b]] :=
      if_neg (Ne.symm hb)
    rw [List.cons_append, hfirst]
    cases part with
    | nil => rfl
    | cons b' part =>
      rw [ih (List.cons_ne_nil b' part) hpart]
      cases splitLines rest with
      | nil => rfl
      | cons line lines => rfl

/-- A line ends with its line feed. -/
theorem splitLines_feed {line : List UInt8} (h : feed ∉ line) (rest : List UInt8) :
  splitLines (line ++ feed :: rest) = (line ++ [feed]) :: splitLines rest
  := by
  cases line with
  | nil => rfl
  | cons b line =>
    rw [splitLines_append (List.cons_ne_nil b line) h]
    rfl

/-- The last line may have no line feed. -/
theorem splitLines_of_notMem {line : List UInt8} (hsome : line ≠ []) (h : feed ∉ line) :
  splitLines line = [line]
  := by
  have hline := splitLines_append hsome h []
  rw [List.append_nil] at hline
  apply hline

/-! ### Reading on -/

/-- Reads bytes in the midst of a frame; `payload` holds the payload lines of it that were read,
the last one first. -/
def readOn (payload : List String) (bytes : List UInt8) : Outcome :=
  readLines true payload (splitLines bytes)

/-- A frame that is handed over to somebody brings its task in front of the later ones. -/
theorem forward_eq (payload tasks : List String) :
  forward true payload ⟨tasks, true⟩ = ⟨(frameTask? payload).toList ++ tasks, true⟩
  := by
  rw [forward]
  cases frameTask? payload with
  | none => rfl
  | some task => rfl

/-- As long as somebody listens, the reading goes on. -/
theorem alive_readLines (payload : List String) (lines : List (List UInt8)) :
  (readLines true payload lines).alive = true
  := by
  have hforward : ∀ frame go, go.alive = true → (forward true frame go).alive = true := by
    intro frame go hgo
    rw [forward]
    cases frameTask? frame with
    | none => exact hgo
    | some task => exact hgo
  induction lines generalizing payload with
  | nil =>
    apply hforward
    rfl
  | cons line lines ih =>
    rw [readLines]
    split
    · rfl
    · apply ih
    · apply hforward
      apply ih

/-- What is read, while somebody listens. -/
theorem readOn_eq (payload : List String) (bytes : List UInt8) :
  readOn payload bytes = ⟨(readOn payload bytes).tasks, true⟩
  := by
  rw [← alive_readLines payload (splitLines bytes)]
  rfl

/-- What a line of text does to the payload of the open frame. -/
theorem lineStep_bytesOf (payload : List String) (chars : List Char) :
  lineStep payload (bytesOf chars)
    = if (trimFeeds chars).isEmpty then some ([], some payload.reverse)
      else some ((payload? (trimFeeds chars)).toList ++ payload, none)
  := by
  rw [lineStep, bytesOf, Utf8.decode?_encode]
  simp only [Option.bind_eq_bind, Option.bind_some, String.toList_ofList]
  split
  · rfl
  · cases payload? (trimFeeds chars) with
    | none => rfl
    | some data => rfl

/-- A line that is read first. -/
theorem readOn_append {line : List Char} (h : '\n' ∉ line) (payload : List String)
    (rest : List UInt8) :
  readOn payload (bytesOf (line ++ ['\n']) ++ rest)
    = if (trimFeeds (line ++ ['\n'])).isEmpty then forward true payload.reverse (readOn [] rest)
      else readOn ((payload? (trimFeeds (line ++ ['\n']))).toList ++ payload) rest
  := by
  have hfeed : bytesOf ['\n'] = [feed] := by
    rw [bytesOf_eq]
    decide
  have hline : feed ∉ bytesOf line := by
    rw [feed_mem_bytesOf_iff]
    apply h
  rw [readOn, bytesOf_append, List.append_assoc, hfeed, List.singleton_append,
    splitLines_feed hline, ← hfeed, ← bytesOf_append, readLines, lineStep_bytesOf]
  by_cases hblank : (trimFeeds (line ++ ['\n'])).isEmpty
  · rw [if_pos hblank, if_pos hblank]
    rfl
  · rw [if_neg hblank, if_neg hblank]
    rfl

/-! ### Lines and frames -/

/-- What may be there, backwards. -/
theorem reverse_toList {α : Type} (o : Option α) :
  o.toList.reverse = o.toList
  := by
  cases o with
  | none => rfl
  | some a => rfl

/-- A line of a frame adds its payload to that of the open frame. -/
theorem readOn_line (payload : List String) (line : FrameLine) (rest : List UInt8) :
  readOn payload (bytesOf line.chars ++ rest)
    = readOn (line.content.payload?.toList ++ payload) rest
  := by
  obtain ⟨hfeed, hsome, hpayload⟩ := Content.payload?_trimFeeds line.proper
  obtain ⟨returns, hending, hreturns, htrim⟩ := line.ending.exists_chars_eq
  have hchars : line.chars = (line.content.chars ++ returns) ++ ['\n'] := by
    rw [FrameLine.chars, hending, List.append_assoc]
  have hpart : '\n' ∉ line.content.chars ++ returns :=
    List.mem_append.not.mpr (not_or.mpr ⟨hfeed, hreturns⟩)
  have hshown : ¬(trimFeeds line.content.chars).isEmpty := by
    rw [List.isEmpty_iff]
    apply hsome
  rw [hchars, readOn_append hpart, ← hchars, FrameLine.chars, htrim, if_neg hshown, hpayload]

/-- Lines of a frame add their payload to that of the open frame, in their order. -/
theorem readOn_lines (payload : List String) (lines : List FrameLine) (rest : List UInt8) :
  readOn payload (bytesOf (lines.flatMap FrameLine.chars) ++ rest)
    = readOn ((payloadOf lines).reverse ++ payload) rest
  := by
  induction lines generalizing payload with
  | nil =>
    rw [List.flatMap_nil, bytesOf_nil]
    rfl
  | cons line lines ih =>
    have hpayload : payloadOf (line :: lines)
        = line.content.payload?.toList ++ payloadOf lines := by
      rw [payloadOf, List.filterMap_cons]
      cases line.content.payload? with
      | none => rfl
      | some data => rfl
    rw [List.flatMap_cons, bytesOf_append, List.append_assoc, readOn_line, ih, hpayload,
      List.reverse_append, reverse_toList, List.append_assoc]

/-- A blank line hands the open frame over, and nothing of it is left. -/
theorem readOn_blank (payload : List String) (blank : LineEnd) (rest : List UInt8) :
  readOn payload (bytesOf blank.chars ++ rest) = forward true payload.reverse (readOn [] rest)
  := by
  obtain ⟨returns, hending, hreturns, htrim⟩ := blank.exists_chars_eq
  have hblank : (trimFeeds (returns ++ ['\n'])).isEmpty = true := by
    rw [← hending, ← List.nil_append blank.chars, htrim]
    rfl
  rw [hending, readOn_append hreturns, if_pos hblank]

/-- Blank lines between frames are nothing. -/
theorem readOn_blanks (blanks : List LineEnd) (rest : List UInt8) :
  readOn [] (bytesOf (blanks.flatMap LineEnd.chars) ++ rest) = readOn [] rest
  := by
  induction blanks with
  | nil => rw [List.flatMap_nil, bytesOf_nil, List.nil_append]
  | cons blank blanks ih =>
    rw [List.flatMap_cons, bytesOf_append, List.append_assoc, readOn_blank, ih]
    rfl

/-- A frame is handed over in front of what follows. -/
theorem readOn_frame (frame : Frame) (rest : List UInt8) :
  readOn [] (bytesOf frame.chars ++ rest) = forward true (payloadOf frame.lines) (readOn [] rest)
  := by
  rw [Frame.chars, bytesOf_append, bytesOf_append, List.append_assoc, List.append_assoc,
    readOn_lines, readOn_blank, readOn_blanks, List.append_nil, List.reverse_reverse]

/-- At the end of a stream the open frame is handed over, with the line that is cut off. -/
theorem readOn_cut (payload : List String)
    (cut : Option { content : Content // content.IsProper }) :
  readOn payload (bytesOf ((cut.map fun cut => cut.val.chars).getD []))
    = forward true (payload.reverse ++ (cut.bind fun cut => cut.val.payload?).toList) ⟨[], true⟩
  := by
  cases cut with
  | none =>
    rw [Option.bind_none, Option.toList_none, List.append_nil, Option.map_none, Option.getD_none,
      bytesOf_nil]
    rfl
  | some cut =>
    obtain ⟨hfeed, hsome, hpayload⟩ := Content.payload?_trimFeeds cut.property
    have hchars : cut.val.chars ≠ [] := by
      intro hnil
      rw [hnil] at hsome
      exact hsome rfl
    have hbytes : bytesOf cut.val.chars ≠ [] := by
      rw [bytesOf_eq]
      intro hnil
      obtain ⟨c, hc⟩ := List.exists_mem_of_ne_nil _ hchars
      exact String.utf8EncodeChar_ne_nil (List.flatMap_eq_nil_iff.mp hnil c hc)
    have hline : feed ∉ bytesOf cut.val.chars := by
      rw [feed_mem_bytesOf_iff]
      apply hfeed
    have hshown : ¬(trimFeeds cut.val.chars).isEmpty := by
      rw [List.isEmpty_iff]
      apply hsome
    rw [Option.map_some, Option.getD_some, Option.bind_some, readOn,
      splitLines_of_notMem hbytes hline, readLines, lineStep_bytesOf, if_neg hshown, hpayload]
    have hreverse : (cut.val.payload?.toList ++ payload).reverse
        = payload.reverse ++ cut.val.payload?.toList := by
      rw [List.reverse_append, reverse_toList]
    rw [← hreverse]
    rfl

/-- Frames are handed over one after another in front of what follows. -/
theorem readOn_frames (frames : List Frame) (rest : List UInt8) :
  readOn [] (bytesOf (frames.flatMap Frame.chars) ++ rest)
    = ⟨(frames.map fun frame => payloadOf frame.lines).filterMap frameTask?
        ++ (readOn [] rest).tasks, true⟩
  := by
  induction frames with
  | nil =>
    rw [List.flatMap_nil, bytesOf_nil, List.nil_append]
    apply readOn_eq
  | cons frame frames ih =>
    rw [List.flatMap_cons, bytesOf_append, List.append_assoc, readOn_frame, ih, forward_eq,
      List.map_cons, List.filterMap_eq_flatMap_toList, List.filterMap_eq_flatMap_toList,
      List.flatMap_cons, List.append_assoc]

/-- Reading a stream that was written gives the tasks of its frames. -/
theorem read_bytes (w : Written) :
  read true w.bytes = ⟨w.tasks, true⟩
  := by
  have hread : read true w.bytes = readOn [] (bytesOf w.chars) := rfl
  have hlast : ∀ payload, [payload].filterMap frameTask? = (frameTask? payload).toList := by
    intro payload
    rw [List.filterMap_eq_flatMap_toList, List.flatMap_singleton]
  rw [hread, Written.chars, bytesOf_append, bytesOf_append, readOn_frames, readOn_lines, readOn_cut,
    List.append_nil, List.reverse_reverse, forward_eq, List.append_nil, Written.tasks_eq,
    Written.payloads, List.filterMap_append, hlast]

/-! ### Streams one behind the other -/

/-- Characters that end with a line feed, if there are any, form lines. -/
theorem exists_lines_eq {chars : List Char} (h : ∀ c ∈ chars.getLast?, c = '\n') :
  ∃ lines : List (List Char), (∀ line ∈ lines, '\n' ∉ line)
    ∧ chars = lines.flatMap fun line => line ++ ['\n']
  := by
  induction chars with
  | nil => exact ⟨[], List.forall_mem_nil _, rfl⟩
  | cons c chars ih =>
    cases chars with
    | nil =>
      rw [h c rfl]
      exact ⟨[[]], by decide, rfl⟩
    | cons c' chars =>
      obtain ⟨lines, hlines, hchars⟩ := ih h
      by_cases hc : c = '\n'
      · use [] :: lines, List.forall_mem_cons.mpr ⟨List.not_mem_nil, hlines⟩
        rw [List.flatMap_cons, ← hchars, hc]
        rfl
      · cases lines with
        | nil => cases hchars
        | cons line lines =>
          obtain ⟨hline, hrest⟩ := List.forall_mem_cons.mp hlines
          have hmore : '\n' ∉ c :: line :=
            List.mem_cons.not.mpr (not_or.mpr ⟨Ne.symm hc, hline⟩)
          use (c :: line) :: lines, List.forall_mem_cons.mpr ⟨hmore, hrest⟩
          rw [hchars]
          rfl

/-- Behind lines of which the last is blank, the reading begins anew. -/
theorem readOn_lines_blank {lines : List (List Char)} (h : ∀ line ∈ lines, '\n' ∉ line)
    (payload : List String) (blank : LineEnd) (rest : List UInt8) :
  readOn payload (bytesOf ((lines.flatMap fun line => line ++ ['\n']) ++ blank.chars) ++ rest)
    = ⟨(readOn payload
          (bytesOf ((lines.flatMap fun line => line ++ ['\n']) ++ blank.chars))).tasks
        ++ (readOn [] rest).tasks, true⟩
  := by
  induction lines generalizing payload with
  | nil =>
    have halone := readOn_blank payload blank []
    rw [List.append_nil] at halone
    rw [List.flatMap_nil, List.nil_append, readOn_blank, halone, readOn_eq [] rest,
      readOn_eq [] [], forward_eq, forward_eq]
    have hnothing : (readOn [] []).tasks = [] := rfl
    rw [hnothing, List.append_nil]
  | cons line lines ih =>
    obtain ⟨hline, hrest⟩ := List.forall_mem_cons.mp h
    rw [List.flatMap_cons, List.append_assoc, bytesOf_append, List.append_assoc,
      readOn_append hline, readOn_append hline]
    split
    · rw [ih hrest, forward_eq, readOn_eq [] (bytesOf _), forward_eq, List.append_assoc]
    · rw [ih hrest]

/-! ### Streams in pieces -/

namespace Progress

/-- Takes pieces of bytes, one after another: the tasks of the frames that they end, and how the
reading goes on. -/
def run (p : Progress) : List (List UInt8) → List String × Option Progress
  | [] => ([], some p)
  | piece :: pieces =>
    match p.feed piece with
    | (tasks, none) => (tasks, none)
    | (tasks, some p) => (tasks ++ (p.run pieces).1, (p.run pieces).2)

/-- The tasks that were brought out, and those that the end of the stream brings out. -/
def total (brought : List String × Option Progress) : List String :=
  brought.1 ++ (brought.2.map close).getD []

/-- At the end of a stream the line that has begun is read. -/
theorem close_eq {p : Progress} (h : EventStream.feed ∉ p.line) :
  p.close = (readOn p.payload p.line.reverse).tasks
  := by
  rw [close, readOn]
  cases hline : p.line with
  | nil => rfl
  | cons b line =>
    have hsome : p.line.reverse ≠ [] := by simp [hline]
    rw [← hline, splitLines_of_notMem hsome (List.mem_reverse.not.mpr h), hline]
    rfl

/-- Bytes that come bring out the tasks of the frames that they end, and the reading goes on with
what follows, unless a line cannot be read. -/
theorem readOn_feed {p : Progress} (h : EventStream.feed ∉ p.line) (bytes rest : List UInt8) :
  (readOn p.payload (p.line.reverse ++ (bytes ++ rest))).tasks
      = (p.feed bytes).1
        ++ ((p.feed bytes).2.map fun q => (readOn q.payload (q.line.reverse ++ rest)).tasks).getD []
    ∧ ∀ q ∈ (p.feed bytes).2, EventStream.feed ∉ q.line
  := by
  induction bytes generalizing p with
  | nil =>
    use rfl
    intro q hq
    rw [← Option.some.inj hq]
    apply h
  | cons b bytes ih =>
    rw [feed]
    by_cases hb : b = EventStream.feed
    · have hline : EventStream.feed ∉ p.line.reverse := List.mem_reverse.not.mpr h
      rw [if_pos hb, hb, readOn, List.cons_append, splitLines_feed hline, readLines,
        List.reverse_cons]
      cases lineStep p.payload (p.line.reverse ++ [EventStream.feed]) with
      | none => exact ⟨rfl, nofun⟩
      | some read =>
        obtain ⟨payload, frame⟩ := read
        obtain ⟨hrest, hq⟩ := ih (p := { payload := payload }) List.not_mem_nil
        rw [List.reverse_nil, List.nil_append] at hrest
        refine ⟨?_, hq⟩
        cases frame with
        | none => exact hrest
        | some frame =>
          have hforward : (forward true frame (readOn payload (bytes ++ rest))).tasks
              = (frameTask? frame).toList ++ (readOn payload (bytes ++ rest)).tasks := by
            rw [readOn_eq, forward_eq]
          apply hforward.trans
          rw [hrest, ← List.append_assoc]
          rfl
    · have hline : EventStream.feed ∉ b :: p.line :=
        List.mem_cons.not.mpr (not_or.mpr ⟨Ne.symm hb, h⟩)
      have hrest := ih (p := { p with line := b :: p.line }) hline
      rw [if_neg hb]
      rw [List.reverse_cons, List.append_assoc, List.singleton_append] at hrest
      exact hrest

/-- Pieces bring out the tasks that their bytes do. -/
theorem total_run {p : Progress} (h : EventStream.feed ∉ p.line) (pieces : List (List UInt8)) :
  total (p.run pieces) = (readOn p.payload (p.line.reverse ++ pieces.flatten)).tasks
  := by
  induction pieces generalizing p with
  | nil =>
    rw [List.flatten_nil, List.append_nil, ← close_eq h]
    rfl
  | cons piece pieces ih =>
    obtain ⟨hrest, hq⟩ := readOn_feed h piece pieces.flatten
    rw [List.flatten_cons, hrest, run]
    rcases hfeed : p.feed piece with ⟨tasks, _ | q⟩
    · rfl
    · rw [hfeed] at hq
      have hmore := ih (hq q rfl)
      rw [total] at hmore ⊢
      simp only [Option.map_some, Option.getD_some]
      rw [List.append_assoc, hmore]

end Progress

/-- Whatever pieces the bytes of a stream come in, the tasks are those that reading the stream
gives. -/
theorem total_run_pieces (pieces : List (List UInt8)) :
  Progress.total (Progress.run {} pieces) = (read true pieces.flatten).tasks
  := by
  apply Progress.total_run
  apply List.not_mem_nil

/-- The tasks that the answer to a request for events names are those that its content brings out,
in whatever pieces it comes; the content of an answer that is no success is not read. -/
theorem eventTasks_eq_total (reply : Reply) {pieces : List (List UInt8)}
    (h : pieces.flatten = reply.content) :
  Client.eventTasks reply
    = if reply.isSuccess then Progress.total (Progress.run {} pieces) else []
  := by
  rw [Client.eventTasks, total_run_pieces, h]

/-! ### The reading -/

/-- A text ends with a blank line if a line end stands behind nothing, or behind a line feed. -/
def EndsBlank (text : String) : Prop :=
  ∃ (front : List Char) (blank : LineEnd),
    text.toList = front ++ blank.chars ∧ ∀ c ∈ front.getLast?, c = '\n'

/-- Reading a stream that was written gives the tasks that its frames name, in their order and
each once, and the reading goes on.  So tasks that are told as updated are read as they were
told, whatever they are called; and behind a text that ends with a blank line, whatever it says,
what follows is read as if it stood alone. -/
theorem read_written :
  (∀ w : Written, read true w.bytes = ⟨w.tasks, true⟩)
    ∧ (∀ told : List ({ name : String // name ∈ taskNames } × String),
      read true (updates told).bytes = ⟨told.map Prod.snd, true⟩)
    ∧ ∀ (text : String) (rest : List UInt8), EndsBlank text →
      read true (Utf8.encode text ++ rest)
        = ⟨(read true (Utf8.encode text)).tasks ++ (read true rest).tasks, true⟩
  := by
  refine ⟨read_bytes, ?_, ?_⟩
  · intro told
    rw [read_bytes, tasks_updates]
  · rintro text rest ⟨front, blank, htext, hfront⟩
    obtain ⟨lines, hlines, hfront⟩ := exists_lines_eq hfront
    have hbytes : Utf8.encode text
        = bytesOf ((lines.flatMap fun line => line ++ ['\n']) ++ blank.chars) := by
      rw [← hfront, ← htext, bytesOf, String.ofList_toList]
    rw [hbytes]
    apply readOn_lines_blank hlines

/-- Two streams of one event each, one behind the other. -/
theorem read_written_of_two_streams :
  EndsBlank (String.ofList (updates [(⟨"taskID", by decide⟩, "one")]).chars)
    ∧ read true (Utf8.encode (String.ofList (updates [(⟨"taskID", by decide⟩, "one")]).chars)
        ++ (updates [(⟨"task_id", by decide⟩, "two")]).bytes)
      = ⟨["one", "two"], true⟩
  := by
  have hends : EndsBlank (String.ofList (updates [(⟨"taskID", by decide⟩, "one")]).chars) := by
    have hlast : (updates [(⟨"taskID", by decide⟩, "one")]).chars.dropLast.getLast?
        = some '\n' := by decide
    use (updates [(⟨"taskID", by decide⟩, "one")]).chars.dropLast, .feed
    rw [String.toList_ofList, hlast]
    constructor
    · decide
    · intro c hc
      rw [← Option.some.inj hc]
  use hends
  rw [read_written.2.2 _ _ hends, ← Written.bytes, read_written.2.1, read_written.2.1]
  rfl

end TaskConsole.EventStream
