import SIUnits.Text.Cluster

/-! Lines cut off at the width of the console. A line consists of segments, and the columns of each
are counted by itself, so that a joiner at the end of one has nothing to join. A segment is cut
between clusters. -/
namespace SIUnits.Console

open Text (Cluster clusters width)

/-- The first clusters up to `room` columns; half of a wide one is replaced by a space. -/
def takeColumns (room : Nat) : List Cluster → List Char
  | [] => []
  | c :: rest =>
    if c.size ≤ room then c.chars ++ takeColumns (room - c.size) rest
    else List.replicate room ' '

def crop (room : Nat) (text : List Char) : List Char :=
  if room < width text then takeColumns room (clusters text) else text

/-- The segments of a line, given for each character whether a segment starts with it. -/
def segments (line : List Char) (cuts : List Bool) : List (List Char) :=
  ((line.zip cuts).splitBy fun _ next => !next.2).map (·.map Prod.fst)

def fitSegments (room : Nat) : List (List Char) → List (List Char)
  | [] => []
  | s :: rest =>
    if width s < room then s :: fitSegments (room - width s) rest else [crop room s]

def widthInSegments (segments : List (List Char)) : Nat :=
  segments.foldl (fun n s => n + width s) 0

def cropSegments (room : Nat) (segments : List (List Char)) : List (List Char) :=
  if room < widthInSegments segments then fitSegments room segments else segments

/-- Why a text cannot be cut. A joiner at its start hides the next character, and a second one there
does not; so a text that starts with two of them may be wider than its clusters. -/
inductive CropFault where
  /-- No cluster takes a column. -/
  | noColumns
  /-- The clusters end before the columns do. -/
  | tooFewColumns
deriving DecidableEq

namespace CropFault

def message : CropFault → String
  | .noColumns => "division by zero"
  | .tooFewColumns => "list index out of range"

def ofText? (room : Nat) (text : List Char) : Option CropFault :=
  let size := (clusters text).foldl (fun n c => n + c.size) 0
  if room < width text && size < room then
    some (if size = 0 then .noColumns else .tooFewColumns)
  else
    none

def ofSegments? (room : Nat) (segments : List (List Char)) : Option CropFault :=
  if room < widthInSegments segments then go room segments else none
where
  /-- The first segment that does not fit is the one that is cut. -/
  go (room : Nat) : List (List Char) → Option CropFault
    | [] => none
    | s :: rest => if width s < room then go (room - width s) rest else ofText? room s

end CropFault

end SIUnits.Console
