/-! The console that a program shows its texts on. It is a parameter of all that is shown: what it
makes of line ends, control characters, codes and long lines is its own affair. Of a text without
any of these it makes the text itself (`Console.Literal`). -/
namespace SIUnits

namespace Console

inductive Alignment where
  | left
  | right
deriving DecidableEq

structure Column where
  heading : String
  alignment : Alignment

structure Table where
  title : String
  columns : List Column
  rows : List (List String)

/-- Why a console cannot show a prompt. -/
structure Fault where
  message : String
deriving DecidableEq

end Console

/-- What a console makes of the texts that it is given: headings and other texts, each with the end
of its line, prompts, tables, and texts in a frame. -/
structure Console where
  announce : String → String
  line : String → String
  prompt : String → Except Console.Fault String
  table : Console.Table → String
  panel : String → String

namespace Console

/-- A character that stands for itself wherever it is shown: a letter or a digit of ASCII, a sign, a
full stop, an equals sign or a space. -/
def isLiteral (c : Char) : Bool := c.isAlphanum || ['+', '-', '.', '=', ' '].contains c

/-- Texts of such characters are shown as they are. -/
def Literal (console : Console) : Prop :=
  ∀ s : String, s.toList.all isLiteral = true → console.line s = s ++ "\n"

/-- A console that shows every text as it is, with a table in rows of cells. -/
def bare : Console where
  announce s := s ++ "\n"
  line s := s ++ "\n"
  prompt := .ok
  table t := "\n".intercalate (t.title :: t.rows.map " ".intercalate) ++ "\n"
  panel s := s ++ "\n"

end Console

end SIUnits
