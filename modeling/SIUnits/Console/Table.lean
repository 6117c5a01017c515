import SIUnits.Console.Basic

/-! Tables and panels in box-drawing characters. A column is as wide as its widest cell, the title
stands in the middle above, and the first row is set off from the others. -/
namespace SIUnits.Console

/-- The four strokes of a horizontal rule: its left end, its line, its crossings and its right
end. -/
structure Rule where
  left : String
  stroke : Char
  crossing : String
  right : String

def spaces (n : Nat) : String := String.ofList (List.replicate n ' ')

def align (alignment : Alignment) (width : Nat) (cell : String) : String :=
  let padding := spaces (width - cell.length)
  match alignment with
  | .left => cell ++ padding
  | .right => padding ++ cell

/-- The text in the middle of a line, the odd space after it. -/
def center (width : Nat) (s : String) : String :=
  let free := width - s.length
  spaces (free / 2) ++ s ++ spaces (free - free / 2)

namespace Rule

def draw (rule : Rule) (widths : List Nat) : String :=
  rule.left ++
    rule.crossing.intercalate
      (widths.map fun w => String.ofList (List.replicate (w + 2) rule.stroke)) ++
    rule.right ++ "\n"

end Rule

namespace Table

def width (t : Table) (i : Nat) (column : Column) : Nat :=
  (t.rows.map fun row => (row.getD i "").length).foldl max column.heading.length

def widths (t : Table) : List Nat := t.columns.mapIdx t.width

def row (t : Table) (bar : String) (cells : List String) : String :=
  let padded := (t.columns.zip (t.widths.zip cells)).map fun (column, width, cell) =>
    " " ++ align column.alignment width cell ++ " "
  bar ++ bar.intercalate padded ++ bar ++ "\n"

def text (t : Table) : String :=
  let total := t.widths.foldl (fun n w => n + (w + 3)) 1
  center total t.title ++ "\n" ++
    Rule.draw ⟨"┏", '━', "┳", "┓"⟩ t.widths ++
    t.row "┃" (t.columns.map Column.heading) ++
    Rule.draw ⟨"┡", '━', "╇", "┩"⟩ t.widths ++
    String.join (t.rows.map (t.row "│")) ++
    Rule.draw ⟨"└", '─', "┴", "┘"⟩ t.widths

end Table

def framed (s : String) : String :=
  Rule.draw ⟨"╭", '─', "", "╮"⟩ [s.length] ++ "│ " ++ s ++ " │\n" ++
    Rule.draw ⟨"╰", '─', "", "╯"⟩ [s.length]

end SIUnits.Console
