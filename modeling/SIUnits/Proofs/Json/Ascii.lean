import SIUnits.Proofs.Json.ReadBack

/-! JSON in ASCII. Whatever a value holds, its text has only printable characters of ASCII and the
ends of its lines (`Json.plain_value`), as every other character of a string is escaped; the ones
above `0xffff` are escaped as two surrogates (`Json.char_surrogates`). -/
namespace SIUnits.Json

/-- The end of a line, or a printable character of ASCII. -/
def isPlain (c : Char) : Bool := c = '\n' || 0x20 ≤ c.toNat && c.toNat < 0x7f

theorem isPlain_iff {c : Char} :
    isPlain c = true ↔ c = '\n' ∨ 0x20 ≤ c.toNat ∧ c.toNat < 0x7f := by
  simp [isPlain]

/-! ### Strings -/

theorem plain_hexEscape (n : ℕ) : (hexEscape n).all isPlain = true := by
  have hdigit : ∀ d < 16, isPlain (Nat.digitChar d) = true := by decide
  have hlast : ∀ k, isPlain (Nat.digitChar (k % 16)) = true := fun k =>
    hdigit _ (Nat.mod_lt k (by decide))
  have hstart : isPlain '\\' = true ∧ isPlain 'u' = true := by decide
  simp [hexEscape, hlast, hstart]

theorem plain_escape (n : ℕ) : (escape n).all isPlain = true := by
  unfold escape
  split
  · exact plain_hexEscape n
  · rw [List.all_append, plain_hexEscape, plain_hexEscape]
    rfl

theorem plain_char (c : Char) : (char .ascii c).all isPlain = true := by
  unfold char
  split
  · next h => rcases h with rfl | rfl <;> decide
  split
  · decide
  split
  · decide
  split
  · decide
  split
  · decide
  split
  · decide
  split
  · exact plain_hexEscape _
  next hcontrol =>
  split
  · next h =>
    have hlt : c.toNat < 0x7f := h.resolve_right (by decide)
    have hplain : isPlain c = true := isPlain_iff.mpr (Or.inr ⟨Nat.not_lt.mp hcontrol, hlt⟩)
    rw [List.all_cons, hplain]
    rfl
  · exact plain_escape _

theorem plain_string (s : String) : (string .ascii s).all isPlain = true := by
  have hquote : isPlain '"' = true := by decide
  have hchars : (s.toList.flatMap (char .ascii)).all isPlain = true := by
    rw [List.all_flatMap, List.all_eq_true]
    exact fun c _ => plain_char c
  simp [string, hquote, hchars]

/-- A character above `0xffff` is written as the escapes of a high and a low surrogate, which
together give its code. -/
theorem char_surrogates {c : Char} (h : 0x10000 ≤ c.toNat) : ∃ high low,
    char .ascii c = hexEscape high ++ hexEscape low ∧
      isHighSurrogate high = true ∧ isLowSurrogate low = true ∧
      0x10000 + 0x400 * (high - 0xd800) + (low - 0xdc00) = c.toNat := by
  have hne : ∀ d : Char, d.toNat < 0x10000 → c ≠ d := by
    rintro d hd rfl
    omega
  have hchar : char .ascii c = escape c.toNat := by
    have hlarge : c.toNat ≠ 8 ∧ c.toNat ≠ 12 ∧ ¬ c.toNat < 0x20 ∧ ¬ c.toNat < 0x7f := by omega
    simp [char, hne, hlarge]
  rw [hchar]
  exact escape_surrogates h (toNat_lt c)

/-! ### Numbers -/

theorem plain_toChars (l : Decimal.Literal) : l.toChars.all isPlain = true := by
  have halphabet : Decimal.Literal.alphabet.all isPlain = true := by decide
  rw [List.all_eq_true] at halphabet ⊢
  exact fun c hc => halphabet c (l.toChars_subset_alphabet hc)

theorem plain_integer (n : ℤ) : (Decimal.integer n).all isPlain = true := by
  rw [← Decimal.Literal.toChars_ofInt]
  exact plain_toChars _

theorem plain_number (x : Binary64) : (number x).all isPlain = true := by
  match x with
  | .nan => decide
  | .infinite false => decide
  | .infinite true => decide
  | .finite s size =>
    have htext : number (.finite s size) = (Binary64.literal s size).toChars :=
      Binary64.text_finite s size
    rw [htext]
    exact plain_toChars _

/-! ### Whole values -/

theorem plain_newline (depth : ℕ) : (newline depth).all isPlain = true := by
  have hspace : isPlain '\n' = true ∧ isPlain ' ' = true := by decide
  simp [newline, hspace]

theorem plain_separated (depth : ℕ) {items : List (List Char)}
    (h : ∀ item ∈ items, item.all isPlain = true) :
    (separated depth items).all isPlain = true := by
  have hcomma : isPlain ',' = true := by decide
  induction items with
  | nil => rfl
  | cons item rest ih =>
    rw [List.forall_mem_cons] at h
    by_cases hnil : rest = []
    · rw [hnil, separated_singleton]
      exact h.1
    · rw [separated_cons depth item hnil, List.all_append, List.all_cons, List.all_append, h.1,
        hcomma, plain_newline, ih h.2]
      rfl

theorem plain_bracketed {opening closing : Char} (ho : isPlain opening = true)
    (hc : isPlain closing = true) (depth : ℕ) {items : List (List Char)}
    (h : ∀ item ∈ items, item.all isPlain = true) :
    (bracketed opening closing depth items).all isPlain = true := by
  cases items with
  | nil => simp [bracketed, ho, hc]
  | cons item rest =>
    have hitems := plain_separated (depth + 1) h
    rw [← List.append_nil (bracketed opening closing depth (item :: rest)), bracketed_cons]
    simp only [List.all_cons, List.all_append, ho, hc, hitems, plain_newline, List.all_nil,
      Bool.and_self]

-- The induction is on the value, through its items and entries.
mutual

/-- The text of a value is plain, however deep it goes. -/
theorem plain_value : ∀ (v : Value) (depth : ℕ), (value .ascii depth v).all isPlain = true
  | .null, _ => by rw [value]; decide
  | .boolean true, _ => by rw [value]; decide
  | .boolean false, _ => by rw [value]; decide
  | .integer n, _ => by rw [value]; exact plain_integer n
  | .number x, _ => by rw [value]; exact plain_number x
  | .text s, _ => by rw [value]; exact plain_string s
  | .list items, depth => by
    rw [value]
    exact plain_bracketed (by decide) (by decide) depth (plain_values items (depth + 1))
  | .record entries, depth => by
    rw [value]
    exact plain_bracketed (by decide) (by decide) depth (plain_fields entries (depth + 1))

theorem plain_values : ∀ (items : List Value) (depth : ℕ),
    ∀ item ∈ values .ascii depth items, item.all isPlain = true
  | [], _ => by rw [values]; exact List.forall_mem_nil _
  | v :: items, depth => by
    rw [values, List.forall_mem_cons]
    exact ⟨plain_value v depth, plain_values items depth⟩

theorem plain_fields : ∀ (entries : Entries) (depth : ℕ),
    ∀ item ∈ fields .ascii depth entries, item.all isPlain = true
  | [], _ => by rw [fields]; exact List.forall_mem_nil _
  | (key, v) :: entries, depth => by
    have hcolon : isPlain ':' = true ∧ isPlain ' ' = true := by decide
    rw [fields, List.forall_mem_cons]
    refine ⟨?_, plain_fields entries depth⟩
    rw [List.all_append, List.all_cons, List.all_cons, plain_string, hcolon.1, hcolon.2,
      plain_value v depth]
    rfl

end

end SIUnits.Json
