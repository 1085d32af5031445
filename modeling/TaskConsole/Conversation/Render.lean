import TaskConsole.Conversation.Entry
import TaskConsole.Markdown.Render
import TaskConsole.Theme

/-!
# Showing entries

`Entry.render` shows an entry as styled lines: what the user said behind a mark, what
the agent said as Markdown, a call on one line, a result behind a connector with a
preview of at most four lines, and a notice with its hints.
-/

namespace TaskConsole

/-- A number with a noun, in the form for one or for any other number. -/
def counted (digits : String) (count : Nat) (one many : String) : String :=
  digits ++ " " ++ if count = 1 then one else many

/-- The number of lines that a preview shows. -/
def previewLimit : Nat := 4

/-- The lines of a text that the user wrote. -/
def renderUserText (theme : Theme) (text : String) : List Line :=
  (Text.lines text).zipIdx.map fun line =>
    let mark := if line.2 = 0 then "› " else "  "
    { spans :=
        [{ text := mark, style := theme.user.bold }, { text := line.1, style := theme.user }] }

/-- The lines of a preview: those that are not blank, as far as the limit goes, and
how many more there are. -/
def renderPreview (style : Style) (lines : List String) : List Line :=
  let shown := lines.filter fun line => !Text.isBlankText line
  let hidden := shown.length - previewLimit
  (shown.take previewLimit).map (fun line => Line.ofStyled ("    " ++ line) style)
    ++ if hidden = 0 then []
      else [Line.ofStyled ("    … " ++ counted (toString hidden) hidden "more line" "more lines")
        (style.add { dim := true })]

/-- The first line of a result. -/
def headline (theme : Theme) (text : String) (style : Style) : Line :=
  { spans := [{ text := "  ⎿ ", style := theme.muted }, { text := text, style := style }] }

/-- The lines of a result. -/
def renderOutput (theme : Theme) : ToolOutput → List Line
  | .read lines =>
    [headline theme ("Read " ++ counted lines.text lines.toNat "line" "lines") theme.muted]
  | .write bytes => [headline theme s!"Wrote {bytes.text} bytes" theme.muted]
  | .edit added removed =>
    [{ spans := [
        { text := "  ⎿ ", style := theme.muted },
        { text := "+" ++ added.text, style := theme.user },
        { text := " " },
        { text := "-" ++ removed.text, style := theme.error }] }]
  | .run exitCode output =>
    headline theme s!"Exit code {exitCode}" (if exitCode = 0 then theme.muted else theme.error)
      :: renderPreview theme.muted (Text.lines output)
  | .search hits =>
    [headline theme ("Found " ++ counted hits.text hits.toNat "match" "matches") theme.muted]
  | .list entries =>
    let count := counted (toString entries.length) entries.length "entry" "entries"
    headline theme ("Listed " ++ count) theme.muted :: renderPreview theme.muted entries
  | .handoff agent => [headline theme ("Handed off to " ++ agent) theme.muted]
  | .failed kind message =>
    [headline theme s!"{kind.verb} failed: {Text.singleLine message}" theme.error]

/-- The lines of a notice. -/
def renderNotice (theme : Theme) (notice : Notice) : List Line :=
  { spans := [
      { text := "✗ ", style := theme.error.bold },
      { text := notice.message, style := theme.error }] }
    :: notice.hints.map fun hint => Line.ofStyled ("  " ++ hint) theme.muted

/-- The lines of an entry. -/
def Entry.render (theme : Theme) (e : Entry) : List Line :=
  match e.kind with
  | .userText text => renderUserText theme text
  | .assistantText text =>
    match Markdown.render text with
    | [] => [Line.ofText ""]
    | lines => lines
  | .call call =>
    [{ spans := [
        { text := "● ", style := theme.tool },
        { text := call.invocation.summary, style := theme.plainText.bold }] }]
  | .result result => renderOutput theme result.output
  | .notice notice => renderNotice theme notice

end TaskConsole
