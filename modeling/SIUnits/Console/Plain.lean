import SIUnits.Text.Cluster

/-! Text as a plain console shows it: control characters that would move the cursor are left out,
tabs are replaced by spaces up to the next stop, and a backslash that would take the meaning of
markup from what follows it is put in or left out. Codes between colons stay as they are. -/
namespace SIUnits.Console

/-- Bell, backspace, vertical tab, form feed and carriage return. -/
def isDropped (c : Char) : Bool := [7, 8, 11, 12, 13].contains c.toNat

/-- The text with a second backslash after a single one at its end. -/
def closeBackslash (cs : List Char) : List Char :=
  match cs.reverse with
  | '\\' :: '\\' :: _ => cs
  | '\\' :: _ => cs ++ ['\\']
  | _ => cs

/-- The text after an opening bracket makes a tag with it: a small letter or one of three signs, and
a closing bracket before the next opening one. -/
def isTag : List Char → Bool
  | [] => false
  | c :: cs =>
    (('a' ≤ c && c ≤ 'z') || ['#', '/', '@'].contains c) &&
      cs.find? (fun d => d = '[' || d = ']') = some ']'

/-- The text without the backslash before each opening bracket of no tag. -/
def openBrackets : List Char → List Char
  | '\\' :: '[' :: cs =>
    if isTag cs then '\\' :: '[' :: openBrackets cs else '[' :: openBrackets cs
  | c :: cs => c :: openBrackets cs
  | [] => []

/-- A stretch of a line that a tab ended: the tab is a space, and as many more as fill the stretch
up to a multiple of eight columns. -/
def tabbed (stretch : List Char) : List Char :=
  let stretch := stretch ++ [' ']
  stretch ++ List.replicate ((8 - Text.width stretch % 8) % 8) ' '

def joinStretches : List (List Char) → List Char
  | [] => []
  | [last] => last
  | stretch :: rest => tabbed stretch ++ joinStretches rest

def shown (s : String) : List Char :=
  (openBrackets (closeBackslash s.toList)).filter fun c => !isDropped c

def joinLines (lines : List (List Char)) : String := String.ofList (['\n'].intercalate lines)

def plain (s : String) : String :=
  joinLines (((shown s).splitOn '\n').map fun line => joinStretches (line.splitOn '\t'))

end SIUnits.Console
