import SIUnits.Json.Printer
import SIUnits.Json.Reader

/-! Written strings are read back (`Json.readString_string`). A character is written as itself or as
a backslash and an escape that stands for it (`Json.char_cases`), whichever characters the text may
hold as they are; so the reader takes one step for each of them. -/
namespace SIUnits.Json

theorem hexValue?_digitChar : ∀ d < 16, hexValue? (Nat.digitChar d) = some d := by decide

/-- The four digits of a code give the code back. -/
theorem readCode_hexEscape {n : Nat} (h : n < 0x10000) (rest : List Char) :
    readCode ((hexEscape n).drop 2 ++ rest) = some (n, rest) := by
  have hdigit : ∀ k, hexValue? (Nat.digitChar (n / k % 16)) = some (n / k % 16) :=
    fun k => hexValue?_digitChar _ (Nat.mod_lt _ (by decide))
  have hlast := hexValue?_digitChar (n % 16) (Nat.mod_lt _ (by decide))
  have hvalue :
      4096 * (n / 4096 % 16) + 256 * (n / 256 % 16) + 16 * (n / 16 % 16) + n % 16 = n := by
    omega
  simp only [hexEscape, List.drop_succ_cons, List.drop_zero, List.cons_append, List.nil_append,
    readCode, hdigit, hlast, Option.bind_eq_bind, Option.bind_some, hvalue]
  rfl

/-- A code that is no surrogate is that of a character. -/
theorem readEscape_hexEscape {c : Char} (h : c.toNat < 0x10000) (rest : List Char) :
    readEscape ('u' :: ((hexEscape c.toNat).drop 2 ++ rest)) = some (c, rest) := by
  have hvalid : c.toNat < 0xd800 ∨ 0xdfff < c.toNat := c.valid.imp id And.left
  have hhigh : isHighSurrogate c.toNat = false := by
    simp only [isHighSurrogate, Bool.and_eq_false_iff, decide_eq_false_iff_not]; omega
  have hlow : isLowSurrogate c.toNat = false := by
    simp only [isLowSurrogate, Bool.and_eq_false_iff, decide_eq_false_iff_not]; omega
  simp [readEscape, readCode_hexEscape h, hhigh, hlow]

/-- The numbers stay variables here, so that no large one is unfolded. -/
theorem readEscape_pair {high low : Nat} (hhigh : high < 0x10000) (hlow : low < 0x10000)
    (hisHigh : isHighSurrogate high = true) (hisLow : isLowSurrogate low = true)
    (rest : List Char) :
    readEscape ('u' :: ((hexEscape high).drop 2 ++ (hexEscape low ++ rest))) =
      some (Char.ofNat (0x10000 + 0x400 * (high - 0xd800) + (low - 0xdc00)), rest) := by
  have hlowCode : hexEscape low ++ rest = '\\' :: 'u' :: ((hexEscape low).drop 2 ++ rest) := rfl
  simp [readEscape, readCode_hexEscape hhigh, readCode_hexEscape hlow, hisHigh, hisLow, hlowCode]

/-- A large code is escaped as a high and a low surrogate, which together give it back. -/
theorem escape_surrogates {n : Nat} (h : 0x10000 ≤ n) (hlt : n < 0x110000) : ∃ high low,
    escape n = hexEscape high ++ hexEscape low ∧
      isHighSurrogate high = true ∧ isLowSurrogate low = true ∧
      0x10000 + 0x400 * (high - 0xd800) + (low - 0xdc00) = n := by
  refine ⟨0xd800 + (n - 0x10000) / 0x400, 0xdc00 + (n - 0x10000) % 0x400,
    if_neg (Nat.not_lt.mpr h), ?_, ?_, ?_⟩
  · simp only [isHighSurrogate, Bool.and_eq_true, decide_eq_true_eq]; omega
  · simp only [isLowSurrogate, Bool.and_eq_true, decide_eq_true_eq]; omega
  · omega

theorem toNat_lt (c : Char) : c.toNat < 0x110000 := by
  rcases c.valid with hvalid | hvalid
  · exact Nat.lt_trans hvalid (by decide)
  · exact hvalid.2

/-- The surrogates of a large code give its character back. -/
theorem readEscape_surrogates {c : Char} (h : 0x10000 ≤ c.toNat) (rest : List Char) :
    readEscape ('u' :: ((escape c.toNat).drop 2 ++ rest)) = some (c, rest) := by
  obtain ⟨high, low, hescape, hhigh, hlow, hcode⟩ := escape_surrogates h (toNat_lt c)
  have hpair : (hexEscape high ++ hexEscape low).drop 2 ++ rest =
      (hexEscape high).drop 2 ++ (hexEscape low ++ rest) := rfl
  have hhigh' : high < 0x10000 := by
    simp only [isHighSurrogate, Bool.and_eq_true, decide_eq_true_eq] at hhigh; omega
  have hlow' : low < 0x10000 := by
    simp only [isLowSurrogate, Bool.and_eq_true, decide_eq_true_eq] at hlow; omega
  rw [hescape, hpair, readEscape_pair hhigh' hlow' hhigh hlow, hcode, Char.ofNat_toNat]

/-- A character stands for itself, or a backslash and an escape stand for it. -/
theorem char_cases (charset : Charset) (c : Char) :
    (char charset c = [c] ∧ c ≠ '"' ∧ c ≠ '\\' ∧ ¬c.toNat < 0x20) ∨
      ∃ code, char charset c = '\\' :: code ∧
        ∀ rest, readEscape (code ++ rest) = some (c, rest) := by
  unfold char
  split
  · next h =>
    refine .inr ⟨[c], rfl, fun rest => ?_⟩
    rcases h with rfl | rfl <;> rfl
  next hquoted =>
  split
  · next h => subst h; exact .inr ⟨['n'], rfl, fun _ => rfl⟩
  split
  · next h => subst h; exact .inr ⟨['r'], rfl, fun _ => rfl⟩
  split
  · next h => subst h; exact .inr ⟨['t'], rfl, fun _ => rfl⟩
  split
  · next h =>
    obtain rfl : c = '\x08' := Char.toNat_inj.mp h
    exact .inr ⟨['b'], rfl, fun _ => rfl⟩
  split
  · next h =>
    obtain rfl : c = '\x0c' := Char.toNat_inj.mp h
    exact .inr ⟨['f'], rfl, fun _ => rfl⟩
  split
  · next h =>
    exact .inr ⟨'u' :: (hexEscape c.toNat).drop 2, rfl,
      readEscape_hexEscape (Nat.lt_trans h (by decide))⟩
  next hcontrol =>
  split
  · rw [not_or] at hquoted
    exact .inl ⟨rfl, hquoted.1, hquoted.2, hcontrol⟩
  · by_cases h : c.toNat < 0x10000
    · refine .inr ⟨'u' :: (hexEscape c.toNat).drop 2, ?_, readEscape_hexEscape h⟩
      rw [escape, if_pos h]
      rfl
    · refine .inr ⟨'u' :: (escape c.toNat).drop 2, ?_, readEscape_surrogates (Nat.not_lt.mp h)⟩
      rw [escape, if_neg h]
      rfl

theorem readChars_char (charset : Charset) (c : Char) (n : Nat) (cs : List Char) :
    readChars (n + 1) (char charset c ++ cs) =
      (readChars n cs).map fun read => (c :: read.1, read.2) := by
  rcases char_cases charset c with ⟨hself, hquote, hbackslash, hcontrol⟩ | ⟨code, hcode, hread⟩
  · rw [hself, List.singleton_append, readChars]
    · rw [if_neg hcontrol]
      cases readChars n cs <;> rfl
    · exact fun h => hquote h
    · exact fun h => hbackslash h
  · rw [hcode, List.cons_append, readChars, hread, Option.bind_eq_bind, Option.bind_some]
    dsimp only
    cases readChars n cs <;> rfl

theorem readChars_flatMap (charset : Charset) (s : List Char) {n : Nat} (hn : s.length < n)
    (rest : List Char) :
    readChars n (s.flatMap (char charset) ++ '"' :: rest) = some (s, rest) := by
  induction s generalizing n with
  | nil =>
    obtain ⟨n, rfl⟩ : ∃ m, n = m + 1 := ⟨n - 1, by simp at hn; omega⟩
    rfl
  | cons c s ih =>
    obtain ⟨n, rfl⟩ : ∃ m, n = m + 1 := ⟨n - 1, by simp at hn; omega⟩
    rw [List.flatMap_cons, List.append_assoc, readChars_char, ih (by simpa using hn)]
    rfl

theorem length_char_pos (charset : Charset) (c : Char) : 0 < (char charset c).length := by
  rcases char_cases charset c with ⟨hself, -⟩ | ⟨code, hcode, -⟩
  · simp [hself]
  · simp [hcode]

theorem length_le_length_flatMap (charset : Charset) (s : List Char) :
    s.length ≤ (s.flatMap (char charset)).length := by
  induction s with
  | nil => exact Nat.le_refl 0
  | cons c s ih =>
    have := length_char_pos charset c
    simp only [List.flatMap_cons, List.length_cons, List.length_append]
    omega

/-- A written string is read back, from after its opening quote. -/
theorem readString_string (charset : Charset) (s : String) (rest : List Char) :
    readString ((string charset s).tail ++ rest) = some (s, rest) := by
  have hbody : (string charset s).tail ++ rest =
      s.toList.flatMap (char charset) ++ '"' :: rest := by
    simp [string]
  have hlength := length_le_length_flatMap charset s.toList
  rw [readString, hbody, readChars_flatMap charset s.toList
    (by simp only [List.length_append, List.length_cons]; omega)]
  simp

end SIUnits.Json
