import Mathlib.Data.List.DropRight
import SIUnits.Text.Blank
import SIUnits.Text.Lines

/-! Lines of a text and the white space around them. Stripping takes nothing but characters of the
ends away (`strip_strip`, `mem_of_mem_strip`); the lines of a text hold no line end, and a text
without line ends is one line (`lines_eq_singleton`). -/
namespace SIUnits.Text

theorem stripEnd_eq_rdropWhile (cs : List Char) : stripEnd cs = cs.rdropWhile isBlank := rfl

theorem toList_strip (s : String) : (strip s).toList = stripEnd (s.toList.dropWhile isBlank) :=
  String.toList_ofList

theorem mem_of_mem_strip {c : Char} {s : String} (h : c ∈ (strip s).toList) : c ∈ s.toList := by
  rw [toList_strip, stripEnd_eq_rdropWhile] at h
  have hdrop : c ∈ s.toList.dropWhile isBlank := (List.rdropWhile_prefix _ _).subset h
  exact (List.dropWhile_suffix _).subset hdrop

/-- What is left at the front stays when the end is stripped. -/
theorem dropWhile_stripEnd {cs : List Char} (h : cs.dropWhile isBlank = cs) :
    (stripEnd cs).dropWhile isBlank = stripEnd cs := by
  rw [stripEnd_eq_rdropWhile]
  obtain ⟨rest, hrest⟩ := List.rdropWhile_prefix isBlank cs
  cases hfront : cs.rdropWhile isBlank with
  | nil => rfl
  | cons c front =>
    rw [hfront] at hrest
    have hc : isBlank c = false := by
      rw [← hrest, List.cons_append, List.dropWhile_eq_self_iff] at h
      simpa using h
    rw [List.dropWhile_cons_of_neg (by simp [hc])]

@[simp] theorem strip_strip (s : String) : strip (strip s) = strip s := by
  have hfront := dropWhile_stripEnd (List.dropWhile_idempotent isBlank s.toList)
  rw [← String.toList_inj, toList_strip, toList_strip, hfront, stripEnd_eq_rdropWhile,
    stripEnd_eq_rdropWhile, List.rdropWhile_idempotent]

theorem strip_eq_self {s : String} (hfirst : ∀ c ∈ s.toList.head?, isBlank c = false)
    (hlast : ∀ c ∈ s.toList.getLast?, isBlank c = false) : strip s = s := by
  have hfront : s.toList.dropWhile isBlank = s.toList := by
    cases hcs : s.toList with
    | nil => rfl
    | cons c cs => rw [List.dropWhile_cons_of_neg (by simp [hfirst c (by simp [hcs])])]
  have hend : stripEnd s.toList = s.toList := by
    rw [stripEnd_eq_rdropWhile, List.rdropWhile_eq_self_iff]
    intro hne
    rw [hlast _ (List.getLast?_eq_some_getLast hne), Bool.not_eq_true]
  rw [strip, hfront, hend, String.ofList_toList]

/-- A line end is a line feed or a carriage return. -/
def IsLineEnd (c : Char) : Prop := c = '\n' ∨ c = '\r'

instance (c : Char) : Decidable (IsLineEnd c) := inferInstanceAs (Decidable (_ ∨ _))

theorem not_isLineEnd_of_mem_pushChar {c : Char} {ls : List (List Char)} (hc : ¬ IsLineEnd c)
    (h : ∀ l ∈ ls, ∀ d ∈ l, ¬ IsLineEnd d) : ∀ l ∈ pushChar c ls, ∀ d ∈ l, ¬ IsLineEnd d := by
  cases ls with
  | nil => simpa [pushChar] using hc
  | cons first rest =>
    rw [pushChar, List.forall_mem_cons, List.forall_mem_cons]
    exact ⟨⟨hc, h first List.mem_cons_self⟩, fun l hl => h l (List.mem_cons_of_mem _ hl)⟩

theorem not_isLineEnd_of_mem_splitLines (cs : List Char) :
    ∀ l ∈ splitLines cs, ∀ c ∈ l, ¬ IsLineEnd c := by
  fun_induction splitLines cs with
  | case1 => simp
  | case2 cs ih => simpa using ih
  | case3 c cs _ hc ih => simpa using ih
  | case4 c cs _ hc ih => exact not_isLineEnd_of_mem_pushChar hc ih

theorem not_isLineEnd_of_mem_lines {s line : String} (h : line ∈ lines s) :
    ∀ c ∈ line.toList, ¬ IsLineEnd c := by
  obtain ⟨l, hl, rfl⟩ := List.mem_map.mp h
  rw [String.toList_ofList]
  exact not_isLineEnd_of_mem_splitLines s.toList l hl

theorem splitLines_cons {c : Char} (cs : List Char) (h : ¬ IsLineEnd c) :
    splitLines (c :: cs) = pushChar c (splitLines cs) := by
  rw [splitLines]
  · exact if_neg h
  · rintro _ rfl -
    exact h (Or.inr rfl)

theorem splitLines_eq_singleton {c : Char} {cs : List Char} (h : ∀ d ∈ c :: cs, ¬ IsLineEnd d) :
    splitLines (c :: cs) = [c :: cs] := by
  rw [splitLines_cons cs (h c List.mem_cons_self)]
  induction cs generalizing c with
  | nil => rfl
  | cons d ds ih =>
    have hrest : ∀ e ∈ d :: ds, ¬ IsLineEnd e := fun e he => h e (List.mem_cons_of_mem _ he)
    rw [splitLines_cons ds (hrest d List.mem_cons_self), ih hrest]
    rfl

theorem lines_eq_singleton {s : String} (hs : s ≠ "") (h : ∀ c ∈ s.toList, ¬ IsLineEnd c) :
    lines s = [s] := by
  cases hcs : s.toList with
  | nil => exact absurd (String.toList_eq_nil_iff.mp hcs) hs
  | cons c cs =>
    rw [hcs] at h
    rw [lines, hcs, splitLines_eq_singleton h, ← hcs, List.map_singleton, String.ofList_toList]

theorem splitLines_append_lineFeed {cs : List Char} (h : ∀ c ∈ cs, ¬ IsLineEnd c) :
    splitLines (cs ++ ['\n']) = [cs] := by
  induction cs with
  | nil => rfl
  | cons c cs ih =>
    rw [List.forall_mem_cons] at h
    rw [List.cons_append, splitLines_cons _ h.1, ih h.2]
    rfl

/-- A line that was ended with a line feed is read as it was typed. -/
theorem lines_lineFeed {s : String} (h : ∀ c ∈ s.toList, ¬ IsLineEnd c) :
    lines (s ++ "\n") = [s] := by
  have hfeed : (s ++ "\n").toList = s.toList ++ ['\n'] := String.toList_append
  rw [lines, hfeed, splitLines_append_lineFeed h, List.map_singleton, String.ofList_toList]

end SIUnits.Text
