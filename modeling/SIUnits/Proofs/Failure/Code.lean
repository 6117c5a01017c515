import SIUnits.Failure.Basic

/-! The codes that are made for kinds of failure. An underscore of a code marks a capital of the
name, so the name can be read off it (`nameOfCode_code`), and failures of one stem whose codes were
made for them have different codes unless their kinds have one name (`Failure.name_of_code`). -/
namespace SIUnits.Failure

/-- A capital, and then letters and digits, all of ASCII. -/
def IsCamelCase (name : String) : Prop :=
  ∃ c cs, name.toList = c :: cs ∧ isCapital c = true ∧ cs.all Char.isAlphanum = true

/-- The words of a code put together again: what follows an underscore stays a capital, and every
other letter becomes small. -/
def joinWords : List Char → List Char
  | [] => []
  | '_' :: c :: cs => c :: joinWords cs
  | c :: cs => c.toLower :: joinWords cs

/-- The name that a code with this stem was made for. -/
def nameOfCode (stem code : String) : String :=
  match code.toList.drop (stem.length + 1) with
  | [] => ""
  | c :: cs => String.ofList (c :: joinWords cs)

theorem joinWords_of_ne {c : Char} (h : c ≠ '_') (cs : List Char) :
    joinWords (c :: cs) = c.toLower :: joinWords cs := by
  rw [joinWords]
  intro _ _ hc
  exact absurd hc h

/-! ### One character of a name -/

private theorem toNat_lt_of_isAlphanum {c : Char} (h : c.isAlphanum = true) : c.toNat < 128 := by
  change (decide (65 ≤ c.val ∧ c.val ≤ 90) || (decide (97 ≤ c.val) && decide (c.val ≤ 122)) ||
    (decide (48 ≤ c.val) && decide (c.val ≤ 57))) = true at h
  simp only [Bool.or_eq_true, Bool.and_eq_true, decide_eq_true_eq, UInt32.le_iff_toNat_le] at h
  change ((65 ≤ c.toNat ∧ c.toNat ≤ 90) ∨ (97 ≤ c.toNat ∧ c.toNat ≤ 122)) ∨
    (48 ≤ c.toNat ∧ c.toNat ≤ 57) at h
  omega

theorem isAlphanum_of_isCapital {c : Char} (h : isCapital c = true) : c.isAlphanum = true := by
  obtain ⟨hlow, hhigh⟩ := Bool.and_eq_true_iff.mp h
  have hupper : c.isUpper = true :=
    decide_eq_true ⟨of_decide_eq_true hlow, of_decide_eq_true hhigh⟩
  show (c.isUpper || c.isLower || c.isDigit) = true
  rw [hupper, Bool.true_or, Bool.true_or]

/-- Upper case keeps a capital, and of any other character it makes one that is no underscore and
whose small letter is that character. -/
private theorem case_of_isAlphanum : ∀ n < 128, (Char.ofNat n).isAlphanum = true →
    if isCapital (Char.ofNat n) then (Char.ofNat n).toUpper = Char.ofNat n
    else (Char.ofNat n).toUpper ≠ '_' ∧ (Char.ofNat n).toUpper.toLower = Char.ofNat n := by
  decide

variable {c : Char}

theorem upperChar_of_isAlphanum (h : c.isAlphanum = true) : Text.upperChar c = [c.toUpper] :=
  if_pos (toNat_lt_of_isAlphanum h)

theorem toUpper_of_isCapital (h : isCapital c = true) : c.toUpper = c := by
  have ha := isAlphanum_of_isCapital h
  have hcase := case_of_isAlphanum c.toNat (toNat_lt_of_isAlphanum ha)
  rw [Char.ofNat_toNat, if_pos h] at hcase
  exact hcase ha

theorem toLower_toUpper_of_not_isCapital (ha : c.isAlphanum = true) (h : isCapital c = false) :
    c.toUpper ≠ '_' ∧ c.toUpper.toLower = c := by
  have hcase := case_of_isAlphanum c.toNat (toNat_lt_of_isAlphanum ha)
  rw [Char.ofNat_toNat, h] at hcase
  exact hcase ha

/-- What a character of a name after the first one becomes in the code. -/
def codeChars (c : Char) : List Char :=
  (if isCapital c then ['_', c] else [c]).flatMap Text.upperChar

theorem joinWords_codeChars_append (h : c.isAlphanum = true) (cs : List Char) :
    joinWords (codeChars c ++ cs) = c :: joinWords cs := by
  unfold codeChars
  cases hc : isCapital c with
  | true =>
    have hunderscore : Text.upperChar '_' = ['_'] := by decide
    simp [upperChar_of_isAlphanum h, toUpper_of_isCapital hc, hunderscore, joinWords]
  | false =>
    obtain ⟨hne, hlower⟩ := toLower_toUpper_of_not_isCapital h hc
    simp [upperChar_of_isAlphanum h, joinWords_of_ne hne, hlower]

/-! ### The whole code -/

theorem joinWords_flatMap_codeChars {cs : List Char} (h : cs.all Char.isAlphanum = true) :
    joinWords (cs.flatMap codeChars) = cs := by
  induction cs with
  | nil => rfl
  | cons c cs ih =>
    rw [List.all_cons, Bool.and_eq_true] at h
    rw [List.flatMap_cons, joinWords_codeChars_append h.1, ih h.2]

/-- A code is its stem, an underscore, the first capital, and what the other characters become. -/
theorem toList_code {k : Kind} {cs : List Char} (hname : k.name.toList = c :: cs)
    (hc : isCapital c = true) :
    k.code.toList = k.stem.toList ++ '_' :: c :: cs.flatMap codeChars := by
  have hfirst : Text.upperChar c = [c] := by
    rw [upperChar_of_isAlphanum (isAlphanum_of_isCapital hc), toUpper_of_isCapital hc]
  have hunderscore : "_".toList = ['_'] := rfl
  simp only [Kind.code, Text.upper, String.toList_append, String.toList_ofList, hname,
    separateWords, List.flatMap_cons, hfirst, List.flatMap_assoc, hunderscore,
    List.append_assoc, List.singleton_append]
  rfl

theorem nameOfCode_code {k : Kind} (h : IsCamelCase k.name) :
    nameOfCode k.stem k.code = k.name := by
  obtain ⟨c, cs, hname, hc, hcs⟩ := h
  have hdrop : k.code.toList.drop (k.stem.length + 1) = c :: cs.flatMap codeChars := by
    rw [toList_code hname hc, ← String.length_toList, ← List.drop_drop, List.drop_left]
    rfl
  unfold nameOfCode
  rw [hdrop]
  dsimp only
  rw [joinWords_flatMap_codeChars hcs, ← hname, String.ofList_toList]

/-- The failure was given no code of its own, so that one is made for it. -/
def HasMadeCode (f : Failure) : Prop :=
  ∀ kind message code token, f.cause = .other kind message code token → code.getD "" = ""

theorem HasMadeCode.code_eq {f : Failure} (h : f.HasMadeCode) : f.code = f.kind.code := by
  obtain ⟨cause, details⟩ := f
  cases cause with
  | other kind message code token =>
    have hempty := h kind message code token rfl
    cases code with
    | none => rfl
    | some code => exact if_pos hempty
  | malformedQuery | invalidNumber | negativeNumber | unknownRootUnit | unknownPrefix
  | rootUnitMismatch | conversionOverflow | refined => rfl

/-- The code that is made for a failure spells the name of its kind: behind the stem and its
underscore, an underscore marks that a capital follows, and every other letter after the first is a
small one. So two failures with one stem and one code have one name. -/
theorem name_of_code {f : Failure} (hf : f.HasMadeCode) (hname : IsCamelCase f.kind.name) :
    nameOfCode f.kind.stem f.code = f.kind.name ∧
    ∀ g : Failure, g.HasMadeCode → IsCamelCase g.kind.name → g.kind.stem = f.kind.stem →
      g.code = f.code → g.kind.name = f.kind.name := by
  have hspelt : nameOfCode f.kind.stem f.code = f.kind.name := by
    rw [hf.code_eq]
    exact nameOfCode_code hname
  refine ⟨hspelt, fun g hg hgname hstem hcode => ?_⟩
  rw [← hspelt, ← hstem, ← hcode, hg.code_eq]
  exact (nameOfCode_code hgname).symm

/-- Two failures of one kind, whose name starts with several capitals and has a digit before
another. -/
theorem name_of_code_acronym :
    let f : Failure := .ofCause (.other (Family.unit.kind "HTTP2Error") "no answer" none none)
    let g : Failure := .ofCause (.refined (Family.unit.kind "HTTP2Error") (.invalidNumber "x"))
    f.HasMadeCode ∧ g.HasMadeCode ∧ IsCamelCase f.kind.name ∧ g.kind.stem = f.kind.stem ∧
      g.code = f.code ∧ f.code = "MC_UNIT_H_T_T_P2_ERROR" ∧
      nameOfCode "MC_UNIT" "MC_UNIT_H_T_T_P2_ERROR" = "HTTP2Error" ∧ g.kind.name = f.kind.name := by
  intro f g
  have hf : f.HasMadeCode := by
    intro kind message code token h
    cases h
    rfl
  have hg : g.HasMadeCode := by
    intro kind message code token h
    cases h
  have hname : IsCamelCase f.kind.name :=
    ⟨'H', "TTP2Error".toList, by decide, by decide, by decide⟩
  have hstem : g.kind.stem = f.kind.stem := rfl
  have hcode : g.code = f.code := rfl
  have hspelt : f.code = "MC_UNIT_H_T_T_P2_ERROR" := by decide
  obtain ⟨hback, hsame⟩ := name_of_code hf hname
  rw [hspelt] at hback
  exact ⟨hf, hg, hname, hstem, hcode, hspelt, hback, hsame g hg hname hstem hcode⟩

/-- Without a capital at the start there is no telling. -/
example : (Family.query.kind "aB").code = (Family.query.kind "AB").code := by decide

end SIUnits.Failure
