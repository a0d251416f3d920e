import ListeningCharts.Diff.Compact
import ListeningCharts.Diff.Divide
import ListeningCharts.Text.Basic

/-! # Line difference

Two texts compared line by line. A line keeps its end: a line feed, a carriage return with a line feed,
or a carriage return alone.
-/

namespace ListeningCharts.Diff

/-- The text cut after every line end; `line` is what stands in front of the text on its line, its last
character first. -/
def cutLines (line : List Char) : Text → List Text
  | [] => if line.isEmpty then [] else [line.reverse]
  | '\r' :: '\n' :: rest => ('\n' :: '\r' :: line).reverse :: cutLines [] rest
  | '\r' :: rest => ('\r' :: line).reverse :: cutLines [] rest
  | '\n' :: rest => ('\n' :: line).reverse :: cutLines [] rest
  | c :: rest => cutLines (c :: line) rest

/-- The lines of a text, each with its end. -/
def linesOf (t : Text) : List Text := cutLines [] t

theorem flatten_cutLines (line : List Char) (t : Text) :
    (cutLines line t).flatten = line.reverse ++ t := by
  fun_induction cutLines line t with
  | case1 line h => simp_all
  | case2 => simp
  | case3 line rest ih => simp [ih]
  | case4 line rest _ ih => simp [ih]
  | case5 line rest ih => simp [ih]
  | case6 line c rest _ _ _ ih => simp [ih]

/-- The lines of a text, one after the other, are the text. -/
theorem flatten_linesOf (t : Text) : (linesOf t).flatten = t := flatten_cutLines [] t

/-- How one text becomes another, in compact form. -/
def ofTexts (current expected : Text) : Script Text :=
  compact (divide (linesOf current) (linesOf expected))

end ListeningCharts.Diff
