import SIUnits.Text.Columns

/-! Clusters: the stretches of a text that are shown as one sign and cannot be cut. A character that
takes no column belongs to the cluster before it, and so does the one after a joiner; a selector
makes a narrow emoji wide. -/
namespace SIUnits.Text

def joiner : Char := '\u200d'

/-- The variation selector that asks for an emoji. -/
def emojiSelector : Char := '\ufe0f'

structure Cluster where
  chars : List Char
  size : Nat

namespace Cluster

def cons (c : Char) (size : Nat) (x : Cluster) : Cluster := ⟨c :: x.chars, size + x.size⟩

/-- The rest of the cluster that goes on here, and the clusters after it; `widens` says that the
cluster would become wider by a selector. What a joiner joins adds no column. -/
def continued (widens : Bool) : List Char → Cluster × List Cluster
  | [] => (⟨[], 0⟩, [])
  | c :: cs =>
    if c = joiner then
      match cs with
      | [] => (⟨[c], 0⟩, [])
      | d :: cs =>
        let (here, later) := continued widens cs
        (cons c 0 (cons d 0 here), later)
    else if c = emojiSelector then
      let (here, later) := continued false cs
      (cons c (if widens then 1 else 0) here, later)
    else if columns c = 0 then
      let (here, later) := continued widens cs
      (cons c 0 here, later)
    else
      let (next, later) := continued (isEmojiBase c) cs
      (⟨[], 0⟩, cons c (columns c) next :: later)

end Cluster

/-- The clusters of a text. The first character always starts one, even a joiner. -/
def clusters : List Char → List Cluster
  | [] => []
  | c :: cs =>
    let (next, later) := Cluster.continued (isEmojiBase c) cs
    Cluster.cons c (columns c) next :: later

/-- The columns that a text takes in all. A joiner at its start hides the character after it. -/
def width (cs : List Char) : Nat :=
  let (here, later) := Cluster.continued false cs
  later.foldl (fun n x => n + x.size) here.size

end SIUnits.Text
