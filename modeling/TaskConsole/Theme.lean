import TaskConsole.Styled.Basic

/-!
# Themes

A `Theme` names the nine colours of the screen.
-/

namespace TaskConsole

/-- The colours of the screen: the grounds of the header, the feed and the input, and
the letters of each kind of text. -/
structure Theme where
  headerBg : Color := .rgb 36 36 36
  feedBg : Color := .rgb 24 24 24
  inputBg : Color := .rgb 44 44 44
  textFg : Color := .rgb 225 225 225
  mutedFg : Color := .rgb 150 150 150
  accentFg : Color := .rgb 90 145 200
  userFg : Color := .rgb 80 190 100
  toolFg : Color := .rgb 230 150 60
  errorFg : Color := .rgb 220 90 90
deriving DecidableEq, Inhabited

namespace Theme

/-- Letters that stay in the background. -/
def muted (t : Theme) : Style := .ofFg t.mutedFg

/-- Ordinary letters. -/
def plainText (t : Theme) : Style := .ofFg t.textFg

/-- Letters that draw the eye. -/
def accent (t : Theme) : Style := .ofFg t.accentFg

/-- Letters of what the user says. -/
def user (t : Theme) : Style := .ofFg t.userFg

/-- Letters of what the tools do. -/
def tool (t : Theme) : Style := .ofFg t.toolFg

/-- Letters of what went wrong. -/
def error (t : Theme) : Style := .ofFg t.errorFg

end Theme

end TaskConsole
