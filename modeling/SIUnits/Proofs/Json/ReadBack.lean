import Mathlib.Data.List.DropRight
import SIUnits.Proofs.Json.Number
import SIUnits.Proofs.Json.Text

/-! Written values are read back (`Json.read?_render`), whatever they hold and whichever characters
their text may hold as they are. The reader never sees the indentation (`readValue_congr`), and
needs no more steps than the text of a value has characters. -/
namespace SIUnits.Json

/-! ### Space between the parts -/

theorem skipSpace_append {space : List Char} (h : space.all isSpace = true) (cs : List Char) :
    skipSpace (space ++ cs) = skipSpace cs :=
  List.dropWhile_append_of_pos (List.all_eq_true.mp h)

theorem skipSpace_newline (depth : ℕ) (cs : List Char) :
    skipSpace (newline depth ++ cs) = skipSpace cs := by
  apply skipSpace_append
  simp [newline, isSpace]

theorem skipSpace_string (charset : Charset) (s : String) (rest : List Char) :
    skipSpace (string charset s ++ rest) = '"' :: ((string charset s).tail ++ rest) := rfl

theorem noNumber_cons {c : Char} (h : isNumberChar c = false) (cs : List Char) :
    NoNumber (c :: cs) := by
  intro d hd
  cases hd
  exact h

theorem noNumber_newline (depth : ℕ) (cs : List Char) : NoNumber (newline depth ++ cs) :=
  noNumber_cons (by decide) _

theorem noNumber_space {space : List Char} (h : space.all isSpace = true) : NoNumber space := by
  intro c hc
  have hspace := List.all_eq_true.mp h c (List.mem_of_mem_head? hc)
  simp only [isSpace, Bool.or_eq_true, decide_eq_true_eq] at hspace
  rcases hspace with ((rfl | rfl) | rfl) | rfl <;> decide

section Congr

variable {cs cs' : List Char} (h : skipSpace cs = skipSpace cs') (n : ℕ)

include h

theorem readValue_congr : readValue n cs = readValue n cs' := by
  cases n with
  | zero => rfl
  | succ n => rw [readValue, h, readValue]

theorem readItems_congr : readItems n cs = readItems n cs' := by
  cases n with
  | zero => rfl
  | succ n => rw [readItems, readValue_congr h, readItems]

theorem readEntries_congr : readEntries n cs = readEntries n cs' := by
  cases n with
  | zero => rfl
  | succ n => rw [readEntries, h, readEntries]

end Congr

/-! ### One step of the reader -/

section Step

variable {n : ℕ} {cs cs' rest : List Char} {v : Value}

theorem readItems_last (hv : readValue n cs = some (v, cs'))
    (hend : skipSpace cs' = ']' :: rest) : readItems (n + 1) cs = some ([v], rest) := by
  simp [readItems, hv, hend]

theorem readItems_comma (hv : readValue n cs = some (v, cs'))
    (hcomma : skipSpace cs' = ',' :: rest) :
    readItems (n + 1) cs = (readItems n rest).map fun read => (v :: read.1, read.2) := by
  simp only [readItems, hv, hcomma, Option.bind_eq_bind, Option.bind_some]
  cases readItems n rest <;> rfl

theorem readEntries_last (charset : Charset) (key : String) (hv : readValue n cs = some (v, cs'))
    (hend : skipSpace cs' = '\x7d' :: rest) :
    readEntries (n + 1) (string charset key ++ ':' :: cs) = some ([(key, v)], rest) := by
  have hcolon : skipSpace (':' :: cs) = ':' :: cs := rfl
  simp [readEntries, skipSpace_string, readString_string, hcolon, hv, hend]

theorem readEntries_comma (charset : Charset) (key : String) (hv : readValue n cs = some (v, cs'))
    (hcomma : skipSpace cs' = ',' :: rest) :
    readEntries (n + 1) (string charset key ++ ':' :: cs) =
      (readEntries n rest).map fun read => ((key, v) :: read.1, read.2) := by
  have hcolon : skipSpace (':' :: cs) = ':' :: cs := rfl
  simp only [readEntries, skipSpace_string, readString_string, hcolon, hv, hcomma,
    Option.bind_eq_bind, Option.bind_some]
  cases readEntries n rest <;> rfl

/-- No value starts with a closing bracket. -/
theorem readValue_closing (n : ℕ) (h : skipSpace cs = ']' :: rest) : readValue n cs = none := by
  cases n with
  | zero => rfl
  | succ n =>
    rw [readValue, h]
    rfl

theorem readValue_list {items : List Value} (h : readItems n cs = some (items, rest)) :
    readValue (n + 1) ('[' :: cs) = some (.list items, rest) := by
  have hopening : skipSpace ('[' :: cs) = '[' :: cs := rfl
  have hskip : skipSpace (skipSpace cs) = skipSpace cs := List.dropWhile_idempotent ..
  simp only [readValue, hopening]
  split
  · next cs' hclosing =>
    cases n with
    | zero => cases h
    | succ n =>
      rw [readItems, readValue_closing n hclosing] at h
      cases h
  · rw [readItems_congr hskip, h]
    rfl

theorem readValue_record {entries : Entries} (h : readEntries n cs = some (entries, rest)) :
    readValue (n + 1) ('\x7b' :: cs) = some (.record entries, rest) := by
  have hopening : skipSpace ('\x7b' :: cs) = '\x7b' :: cs := rfl
  have hskip : skipSpace (skipSpace cs) = skipSpace cs := List.dropWhile_idempotent ..
  simp only [readValue, hopening]
  split
  · next cs' hclosing =>
    cases n with
    | zero => cases h
    | succ n =>
      rw [readEntries, hclosing] at h
      cases h
  · rw [readEntries_congr hskip, h]
    rfl

end Step

/-! ### A whole value -/

theorem length_newline_pos (depth : ℕ) : 1 ≤ (newline depth).length := by simp [newline]

/-- Written items with what stands between any two of them. -/
def separated (depth : ℕ) (items : List (List Char)) : List Char :=
  (',' :: newline depth).intercalate items

section Separated

variable (depth : ℕ) (item : List Char)

theorem separated_singleton : separated depth [item] = item := List.intercalate_singleton

theorem separated_cons {items : List (List Char)} (h : items ≠ []) :
    separated depth (item :: items) =
      item ++ (',' :: (newline depth ++ separated depth items)) := by
  simp [separated, List.intercalate_cons_of_ne_nil h]

theorem bracketed_cons (opening closing : Char) (items : List (List Char)) (rest : List Char) :
    bracketed opening closing depth (item :: items) ++ rest =
      opening :: (newline (depth + 1) ++
        (separated (depth + 1) (item :: items) ++ (newline depth ++ closing :: rest))) := by
  simp [bracketed, separated]

theorem length_bracketed_cons (opening closing : Char) (items : List (List Char)) :
    (separated (depth + 1) (item :: items)).length + 2 ≤
      (bracketed opening closing depth (item :: items)).length := by
  simp only [bracketed, separated, List.length_cons, List.length_append]
  omega

end Separated

theorem values_ne_nil (charset : Charset) (depth : ℕ) (v : Value) (items : List Value) :
    values charset depth (v :: items) ≠ [] := by
  rw [values]
  exact List.cons_ne_nil _ _

theorem fields_ne_nil (charset : Charset) (depth : ℕ) (entry : String × Value)
    (entries : Entries) : fields charset depth (entry :: entries) ≠ [] := by
  rw [fields]
  exact List.cons_ne_nil _ _

-- The induction is on the value: each item takes one step of the reader, and the number of steps
-- stays above the length of the text that is left, so it never runs out.
mutual

/-- The text of a value is read as the value wherever it stands. -/
theorem readValue_value (charset : Charset) : ∀ (v : Value) (depth n : ℕ) (rest : List Char),
    (value charset depth v).length ≤ n → NoNumber rest →
      readValue (n + 1) (value charset depth v ++ rest) = some (v, rest)
  | .null, _, n, rest, _, _ => readValue_word ("null", .null) (by simp [words]) n rest
  | .boolean true, _, n, rest, _, _ =>
    readValue_word ("true", .boolean true) (by simp [words]) n rest
  | .boolean false, _, n, rest, _, _ =>
    readValue_word ("false", .boolean false) (by simp [words]) n rest
  | .integer i, _, n, _, _, hrest => by
    rw [value]
    exact readValue_integer i n hrest
  | .number x, _, n, _, _, hrest => by
    rw [value]
    exact readValue_number x n hrest
  | .text s, _, _, rest, _, _ => by
    simp [value, readValue, skipSpace_string, readString_string]
  | .list [], _, _, _, _, _ => rfl
  | .list (v :: items), depth, n, rest, hn, _ => by
    rw [value, values] at hn ⊢
    have hlength := length_bracketed_cons depth (value charset (depth + 1) v) '[' ']'
      (values charset (depth + 1) items)
    have hitems := readItems_values charset (v :: items) (depth + 1) depth n rest
      (List.cons_ne_nil _ _) (by rw [values]; omega)
    rw [values] at hitems
    rw [bracketed_cons]
    exact readValue_list ((readItems_congr (skipSpace_newline _ _) n).trans hitems)
  | .record [], _, _, _, _, _ => rfl
  | .record ((key, v) :: entries), depth, n, rest, hn, _ => by
    rw [value, fields] at hn ⊢
    have hlength := length_bracketed_cons depth
      (string charset key ++ ':' :: ' ' :: value charset (depth + 1) v) '\x7b' '\x7d'
      (fields charset (depth + 1) entries)
    have hentries := readEntries_fields charset ((key, v) :: entries) (depth + 1) depth n rest
      (List.cons_ne_nil _ _) (by rw [fields]; omega)
    rw [fields] at hentries
    rw [bracketed_cons]
    exact readValue_record ((readEntries_congr (skipSpace_newline _ _) n).trans hentries)

theorem readItems_values (charset : Charset) :
    ∀ (items : List Value) (depth outer n : ℕ) (rest : List Char), items ≠ [] →
      (separated depth (values charset depth items)).length + 2 ≤ n →
      readItems n (separated depth (values charset depth items) ++
        (newline outer ++ ']' :: rest)) = some (items, rest)
  | [], _, _, _, _, hne, _ => absurd rfl hne
  | [v], depth, outer, n, rest, _, hn => by
    obtain ⟨m, rfl⟩ : ∃ m, n = m + 2 := ⟨n - 2, by omega⟩
    simp only [values, separated_singleton] at hn ⊢
    have hv := readValue_value charset v depth m (newline outer ++ ']' :: rest) (by omega)
      (noNumber_newline outer _)
    exact readItems_last hv (skipSpace_newline outer _)
  | v :: w :: items, depth, outer, n, rest, _, hn => by
    obtain ⟨m, rfl⟩ : ∃ m, n = m + 2 := ⟨n - 2, by omega⟩
    have hspace := length_newline_pos depth
    rw [values, separated_cons _ _ (values_ne_nil charset depth w items)] at hn ⊢
    simp only [List.length_append, List.length_cons] at hn
    rw [List.append_assoc, List.cons_append, List.append_assoc]
    have hitems := readItems_values charset (w :: items) depth outer (m + 1) rest
      (List.cons_ne_nil _ _) (by omega)
    have hv : ∀ cs, readValue (m + 1) (value charset depth v ++ ',' :: cs) = some (v, ',' :: cs) :=
      fun cs => readValue_value charset v depth m _ (by omega) (noNumber_cons (by decide) cs)
    rw [readItems_comma (hv _) rfl, readItems_congr (skipSpace_newline depth _), hitems]
    rfl

theorem readEntries_fields (charset : Charset) :
    ∀ (entries : Entries) (depth outer n : ℕ) (rest : List Char), entries ≠ [] →
      (separated depth (fields charset depth entries)).length + 2 ≤ n →
      readEntries n (separated depth (fields charset depth entries) ++
        (newline outer ++ '\x7d' :: rest)) = some (entries, rest)
  | [], _, _, _, _, hne, _ => absurd rfl hne
  | [(key, v)], depth, outer, n, rest, _, hn => by
    obtain ⟨m, rfl⟩ : ∃ m, n = m + 2 := ⟨n - 2, by omega⟩
    simp only [fields, separated_singleton, List.length_append, List.length_cons] at hn ⊢
    rw [List.append_assoc, List.cons_append, List.cons_append]
    have hv := readValue_value charset v depth m (newline outer ++ '\x7d' :: rest) (by omega)
      (noNumber_newline outer _)
    exact readEntries_last charset key ((readValue_congr rfl _).trans hv)
      (skipSpace_newline outer _)
  | (key, v) :: entry :: entries, depth, outer, n, rest, _, hn => by
    obtain ⟨m, rfl⟩ : ∃ m, n = m + 2 := ⟨n - 2, by omega⟩
    have hspace := length_newline_pos depth
    rw [fields, separated_cons _ _ (fields_ne_nil charset depth entry entries)] at hn ⊢
    simp only [List.length_append, List.length_cons] at hn
    rw [List.append_assoc, List.append_assoc, List.cons_append, List.cons_append, List.cons_append,
      List.append_assoc]
    have hentries := readEntries_fields charset (entry :: entries) depth outer (m + 1) rest
      (List.cons_ne_nil _ _) (by omega)
    have hv : ∀ cs, readValue (m + 1) (' ' :: (value charset depth v ++ ',' :: cs)) =
        some (v, ',' :: cs) := fun cs =>
      (readValue_congr rfl _).trans
        (readValue_value charset v depth m _ (by omega) (noNumber_cons (by decide) cs))
    rw [readEntries_comma charset key (hv _) rfl,
      readEntries_congr (skipSpace_newline depth _), hentries]
    rfl

end

/-- A written value is read back, whatever space follows it. -/
theorem read?_render (charset : Charset) (v : Value) {space : String}
    (h : space.toList.all isSpace = true) : read? (render charset v ++ space) = some v := by
  have htext : (render charset v ++ space).toList = value charset 0 v ++ space.toList := by
    rw [String.toList_append, render, String.toList_ofList]
  have hrest : skipSpace space.toList = [] := by
    have hskip := skipSpace_append h []
    rwa [List.append_nil] at hskip
  have hread := readValue_value charset v 0 (2 * (value charset 0 v ++ space.toList).length)
    space.toList (by rw [List.length_append]; omega) (noNumber_space h)
  simp only [read?, htext, hread, Option.bind_eq_bind, Option.bind_some, hrest, if_true]
  rfl

end SIUnits.Json
