import SIUnits.Console.Crop
import SIUnits.Console.Highlight
import SIUnits.Console.Plain
import SIUnits.Text.Blank

/-! Lines that are broken where they would be wider than the console. A line ends after the white
space that follows a word; a word that is too wide for any line is cut between clusters. -/
namespace SIUnits.Console

/-- The words of a line, each with the white space after it, and the first also with the white space
before it. -/
def words (line : List Char) : List (List Char) :=
  match line.splitBy fun c d => !(Text.isBlank c && !Text.isBlank d) with
  | first :: second :: rest =>
    if first.all Text.isBlank then (first ++ second) :: rest else first :: second :: rest
  | groups => groups

def cutClusters (limit : Nat) (piece : List Char) (column : Nat) :
    List Text.Cluster → List (List Char)
  | [] => [piece]
  | c :: rest =>
    if limit < column + c.size then piece :: cutClusters limit c.chars c.size rest
    else cutClusters limit (piece ++ c.chars) (column + c.size) rest

def cutWord (limit : Nat) (word : List Char) : List (List Char) :=
  cutClusters limit [] 0 (Text.clusters word)

/-- Lines that are filled one after the other: those that are full, and the one that is being filled
with its columns. -/
structure Filling where
  full : List (List Char)
  current : List Char
  column : Nat

namespace Filling

def startLine (f : Filling) (text : List Char) : Filling :=
  ⟨if f.current = [] then f.full else f.full ++ [f.current], text, Text.width text⟩

/-- The word on the current line if it fits there, the white space after it aside, else on lines of
its own. -/
def place (limit : Nat) (f : Filling) (word : List Char) : Filling :=
  let needed := Text.width (Text.stripEnd word)
  if f.column + needed ≤ limit then
    ⟨f.full, f.current ++ word, f.column + Text.width word⟩
  else if needed ≤ limit then f.startLine word
  else (cutWord limit word).foldl startLine f

def lines (f : Filling) : List (List Char) := f.full ++ [f.current]

end Filling

/-- A line of more than `limit` characters without the white space at its end that is too much. -/
def trimEnd (limit : Nat) (line : List Char) : List Char :=
  let blanks := line.length - (Text.stripEnd line).length
  line.take (line.length - min blanks (line.length - limit))

def wrapLine (limit : Nat) (line : List Char) : List (List Char) :=
  ((words line).foldl (Filling.place limit) ⟨[], [], 0⟩).lines

/-- The parts of a list of cuts that belong to the pieces of a text; `gap` characters of the text
stand between two pieces. -/
def shareOut (gap : Nat) (pieces : List (List Char)) (cuts : List Bool) :
    List (List Char × List Bool) :=
  match pieces with
  | [] => []
  | p :: rest => (p, cuts.take p.length) :: shareOut gap rest (cuts.drop (p.length + gap))

def spreadCuts : List (List Char) → List Bool → List Bool
  | stretch :: next :: rest, cuts =>
    let n := stretch.length + 1
    cuts.take n ++ List.replicate ((tabbed stretch).length - n) false ++
      spreadCuts (next :: rest) (cuts.drop n)
  | _, cuts => cuts

/-- For each character of a text whether a segment starts with it, as far as it matters. Only a
joiner at the end of a segment can make segments wider than their line. -/
def cutsThatMatter (text : List Char) : List Bool :=
  if text.contains Text.joiner then Highlight.cuts text else text.map fun _ => false

/-- The lines that a text is broken into, with their cuts. They may still be too wide, by white
space or by a cluster that is wider than it seems. -/
def brokenLines (limit : Nat) (s : String) : List (List Char × List Bool) :=
  let text := shown s
  (shareOut 1 (text.splitOn '\n') (cutsThatMatter text)).flatMap fun (line, cuts) =>
    let stretches := line.splitOn '\t'
    (shareOut 0 (wrapLine limit (joinStretches stretches)) (spreadCuts stretches cuts)).map
      fun (piece, cuts) => (trimEnd limit piece, cuts)

def lineSegments (limit : Nat) (line : List Char × List Bool) : List (List Char) :=
  segments (crop limit line.1) line.2

def wrapped (limit : Nat) (s : String) : String :=
  joinLines ((brokenLines limit s).map fun line =>
    (cropSegments limit (lineSegments limit line)).flatten)

/-- What keeps a text from being shown in this way. All lines are cropped as wholes before the
segments of the first are. -/
def wrapFault? (limit : Nat) (s : String) : Option CropFault :=
  let lines := brokenLines limit s
  (lines.findSome? fun line => CropFault.ofText? limit line.1).or
    (lines.findSome? fun line => CropFault.ofSegments? limit (lineSegments limit line))

end SIUnits.Console
