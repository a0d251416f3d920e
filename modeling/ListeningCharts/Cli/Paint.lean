import ListeningCharts.Diff.Lines

/-! # Colored text

Output for a terminal, with or without colors.
-/

namespace ListeningCharts.Cli

/-- How a stretch of text stands out. -/
inductive Style where
  | red | green | yellow | bold
  deriving DecidableEq, Repr

namespace Style

/-- The code that turns the style on. -/
def on : Style → Text
  | red => "31"
  | green => "32"
  | yellow => "33"
  | bold => "1"

/-- The code that turns the style off. -/
def off : Style → Text
  | red | green | yellow => "39"
  | bold => "0"

end Style

/-- A text in a style, if there are colors. -/
def paint (colors : Bool) (style : Style) (t : Text) : Text :=
  if colors then "\x1b[" ++ style.on ++ "m" ++ t ++ "\x1b[" ++ style.off ++ "m" else t

/-! ## Differences -/

/-- A line with a line feed at its end if it has no line end of its own. -/
def endLine (line : Text) : Text :=
  if line.getLast? = some '\n' ∨ line.getLast? = some '\r' then line else line ++ "\n"

/-- A stretch of a line difference: a line that goes has a minus in front of it and one that comes a
plus, both after two spaces; a line that stays comes after three. -/
def printEdit (colors : Bool) : Diff.Edit Text → Text
  | .keep lines => lines.flatMap fun l => "   " ++ endLine l
  | .delete lines => lines.flatMap fun l => "  " ++ paint colors .red ("-" ++ endLine l)
  | .insert lines => lines.flatMap fun l => "  " ++ paint colors .green ("+" ++ endLine l)

/-- A line difference. -/
def printScript (colors : Bool) (s : Diff.Script Text) : Text := s.flatMap (printEdit colors)

end ListeningCharts.Cli
