import SIUnits.Proofs.Binary64.Signed
import SIUnits.Query.Basic

/-! The rules of fields, apart from how they are read: which values a field takes, and what it holds
then (`FieldRule.Takes`). For each rule, the reader of its fields finds just that. -/
namespace SIUnits

open Magnitude

/-- The value is a number and stands for this double: it is the double, a whole number that the
double is nearest to, the truth value for one or zero, or a text that is read as the double. -/
inductive Value.IsNumber (numerals : Numerals) : Value → Binary64 → Prop where
  | number (x : Binary64) : IsNumber numerals (.number x) x
  | integer {n : ℤ} {x : Magnitude} (h : Binary64.IsNearest n (decide (n < 0)) x) :
      IsNumber numerals (.integer n) (.finite (decide (n < 0)) x)
  | boolean {b : Bool} {x : Binary64} (h : IsNumber numerals (.integer b.toInt) x) :
      IsNumber numerals (.boolean b) x
  | text {s : String} {x : Binary64} (h : numerals.number s = .ok x) :
      IsNumber numerals (.text s) x

/-- The value is a whole number, maybe as a double, as a truth value or as a text. -/
inductive Value.IsInteger (numerals : Numerals) : Value → ℤ → Prop where
  | integer (n : ℤ) : IsInteger numerals (.integer n) n
  | number {s : Bool} {x : Magnitude} {n : ℤ} (h : Binary64.signedRat s x = n) :
      IsInteger numerals (.number (.finite s x)) n
  | boolean (b : Bool) : IsInteger numerals (.boolean b) b.toInt
  | text {s : String} {n : ℤ} (h : numerals.integer s = .ok n) : IsInteger numerals (.text s) n

/-- The rules that fields keep. -/
inductive FieldRule where
  | text
  | quantity
  | multiplier
  | exponent
  | root
  | query
deriving DecidableEq

/-- A field of the rule takes the first value, and holds the second one then. -/
inductive FieldRule.Takes (numerals : Numerals) : FieldRule → Value → Value → Prop where
  | text (s : String) : Takes numerals .text (.text s) (.text s)
  | quantity {v : Value} {s : Bool} {x : Magnitude} (hv : v.IsNumber numerals (.finite s x))
      (h : 0 ≤ Binary64.signedRat s x) : Takes numerals .quantity v (.number (.finite s x))
  | multiplier {v : Value} {s : Bool} {x : Magnitude} (hv : v.IsNumber numerals (.finite s x))
      (h : 0 < Binary64.signedRat s x) : Takes numerals .multiplier v (.number (.finite s x))
  | infinite {v : Value} (hv : v.IsNumber numerals (.infinite false)) :
      Takes numerals .multiplier v (.number (.infinite false))
  | exponent {v : Value} {n : ℤ} (hv : v.IsInteger numerals n) (hl : -24 ≤ n) (hh : n ≤ 24) :
      Takes numerals .exponent v (.integer n)
  | root (root : Root) : Takes numerals .root (.text root.symbol) (.text root.symbol)
  | query {inner : Entries} {q : Query} (h : Query.ofFields numerals inner = .ok q) :
      Takes numerals .query (.record inner) (.record q.toFields)

/-! ### Numbers -/

namespace Binary64

variable {s : Bool} {x : Magnitude} {n : ℤ}

theorem isFinite_iff {y : Binary64} : y.isFinite = true ↔ ∃ s x, y = .finite s x := by
  cases y <;> simp [isFinite]

theorem signedRat_nonneg_iff : 0 ≤ signedRat s x ↔ (finite s x).isBelowZero = false := by
  have hx := x.toRat_nonneg
  cases s with
  | false => simp [signedRat, isBelowZero, hx]
  | true =>
    have hle : x.toRat ≤ 0 ↔ x.significand = 0 := by
      rw [← not_lt, toRat_pos_iff, not_not]
    simp [signedRat, isBelowZero, hle]

theorem signedRat_pos_iff : 0 < signedRat s x ↔ (finite s x).isAboveZero = true := by
  cases s with
  | false => simp [signedRat, isAboveZero, toRat_pos_iff]
  | true => simp [signedRat, isAboveZero, x.toRat_nonneg]

private theorem natAbs_cast (n : ℤ) : ((n.natAbs : ℕ) : ℚ) = |(n : ℚ)| := by
  rw [Nat.cast_natAbs, Int.cast_abs]

private theorem decide_cast_neg (n : ℤ) : decide ((n : ℚ) < 0) = decide (n < 0) := by
  simp

theorem ofInt_of_isNearest (h : IsNearest n s x) (hs : s = decide (n < 0)) :
    ofInt n = .finite s x := by
  rw [ofInt_eq_round, natAbs_cast, ← hs]
  exact round_of_some s ((round?_eq_some_iff (abs_nonneg _)).mpr h.isNearest_abs)

theorem isNearest_of_ofInt (h : ofInt n = .finite s x) :
    s = decide (n < 0) ∧ IsNearest n s x := by
  rw [ofInt_eq_round, natAbs_cast] at h
  cases hr : round? |(n : ℚ)| with
  | none =>
    rw [round_of_none _ hr] at h
    cases h
  | some y =>
    rw [round_of_some _ hr] at h
    cases h
    have hnear := IsNearest.of_abs ((round?_eq_some_iff (abs_nonneg _)).mp hr)
    rw [decide_cast_neg] at hnear
    exact ⟨rfl, hnear⟩

theorem steps_eq_mul_iff {k : ℕ} : x.steps = k * stepsInOne ↔ x.toRat = k := by
  rw [toRat, div_eq_iff stepsInOne_cast_pos.ne']
  norm_cast

theorem toInt?_eq_some_iff {y : Binary64} :
    y.toInt? = some n ↔ ∃ s x, y = .finite s x ∧ signedRat s x = n := by
  constructor
  · intro h
    match y with
    | .finite s x =>
      unfold toInt? at h
      dsimp only at h
      split at h
      · next hmod =>
        have hx : x.toRat = (x.steps / stepsInOne : ℕ) :=
          steps_eq_mul_iff.mp (Nat.div_mul_cancel (Nat.dvd_of_mod_eq_zero hmod)).symm
        refine ⟨s, x, rfl, ?_⟩
        rw [signedRat, hx, ← Option.some.inj h]
        split <;> push_cast <;> rfl
      · cases h
    | .infinite _ => cases h
    | .nan => cases h
  · rintro ⟨s, x, rfl, h⟩
    have habs : x.toRat = n.natAbs := by
      rw [natAbs_cast, ← h, signedRat]
      split
      · rw [abs_neg, abs_of_nonneg x.toRat_nonneg]
      · rw [abs_of_nonneg x.toRat_nonneg]
    generalize n.natAbs = k at habs
    have hsteps := steps_eq_mul_iff.mpr habs
    have hn : (if s = true then -(k : ℤ) else k) = n := by
      rw [signedRat, habs] at h
      split at h
      · next hs => rw [if_pos hs]; exact_mod_cast h
      · next hs => rw [if_neg hs]; exact_mod_cast h
    unfold toInt?
    dsimp only
    rw [hsteps, Nat.mul_mod_left, if_pos rfl, Nat.mul_div_cancel _ stepsInOne_pos, hn]

end Binary64

namespace Checked

variable {numerals : Numerals} {v w : Value} {x : Binary64} {n : ℤ}

theorem readNumber_integer (n : ℤ) : readNumber numerals (.integer n) =
    if (Binary64.ofInt n).isFinite = true then .ok (.ofInt n) else .error .notNumber := by
  simp only [readNumber]

theorem readNumber_boolean (b : Bool) :
    readNumber numerals (.boolean b) = readNumber numerals (.integer b.toInt) := by
  have hf : (Binary64.ofInt b.toInt).isFinite = true := by cases b <;> decide +kernel
  rw [readNumber_integer, if_pos hf]
  rfl

theorem readNumber_integer_eq_ok_iff :
    readNumber numerals (.integer n) = .ok x ↔ (Value.integer n).IsNumber numerals x := by
  rw [readNumber_integer]
  constructor
  · intro h
    split_ifs at h with hf
    obtain ⟨s, y, hy⟩ := Binary64.isFinite_iff.mp hf
    obtain ⟨rfl, hnear⟩ := Binary64.isNearest_of_ofInt hy
    rw [← Except.ok.inj h, hy]
    exact .integer hnear
  · intro h
    cases h with
    | integer h =>
      rw [Binary64.ofInt_of_isNearest h rfl]
      rfl

theorem readNumber_eq_ok_iff : readNumber numerals v = .ok x ↔ v.IsNumber numerals x := by
  constructor
  · intro h
    match v with
    | .number y =>
      obtain rfl := Except.ok.inj h
      exact .number y
    | .integer n => exact readNumber_integer_eq_ok_iff.mp h
    | .boolean b =>
      rw [readNumber_boolean] at h
      exact .boolean (readNumber_integer_eq_ok_iff.mp h)
    | .text s => exact .text h
  · intro h
    cases h with
    | number => rfl
    | integer h => exact readNumber_integer_eq_ok_iff.mpr (.integer h)
    | boolean h =>
      rw [readNumber_boolean]
      exact readNumber_integer_eq_ok_iff.mpr h
    | text h => exact h

theorem readInteger_eq_ok_iff (hl : -24 ≤ n) (hh : n ≤ 24) :
    readInteger numerals v = .ok n ↔ v.IsInteger numerals n := by
  constructor
  · intro h
    unfold readInteger at h
    split at h
    · cases h
      exact .integer _
    · cases h
      exact .boolean _
    · split at h
      · next hm =>
        split at h
        · obtain ⟨s, x, rfl, hx⟩ := Binary64.toInt?_eq_some_iff.mp hm
          cases h
          exact .number hx
        · cases h
      · cases h
    · exact .text h
    · cases h
  · intro h
    cases h with
    | integer => rfl
    | boolean => rfl
    | number h =>
      have hn := Binary64.toInt?_eq_some_iff.mpr ⟨_, _, rfl, h⟩
      have hlt : n.natAbs < 0x8000000000000000 := by omega
      simp only [readInteger, hn, if_pos hlt]
    | text h => exact h

theorem readQuantity_eq_ok_iff : readQuantity numerals v = .ok x ↔
    v.IsNumber numerals x ∧ x.isFinite = true ∧ x.isBelowZero = false := by
  rw [← readNumber_eq_ok_iff]
  unfold readQuantity
  cases readNumber numerals v with
  | error fault => simp [bind, Except.bind]
  | ok y =>
    simp only [bind, Except.bind, Except.ok.injEq]
    constructor
    · intro h
      split_ifs at h with hf hb
      obtain rfl := Except.ok.inj h
      exact ⟨rfl, by simpa using hf, by simpa using hb⟩
    · rintro ⟨rfl, hf, hb⟩
      simp [hf, hb]

theorem readMultiplier_eq_ok_iff :
    readMultiplier numerals v = .ok x ↔ v.IsNumber numerals x ∧ x.isAboveZero = true := by
  rw [← readNumber_eq_ok_iff]
  unfold readMultiplier
  cases readNumber numerals v with
  | error fault => simp [bind, Except.bind]
  | ok y =>
    simp only [bind, Except.bind, Except.ok.injEq]
    constructor
    · intro h
      split_ifs at h with hb
      obtain rfl := Except.ok.inj h
      exact ⟨rfl, hb⟩
    · rintro ⟨rfl, hb⟩
      rw [if_pos hb]

theorem readExponent_eq_ok_iff :
    readExponent numerals v = .ok n ↔ v.IsInteger numerals n ∧ -24 ≤ n ∧ n ≤ 24 := by
  have hbind : readExponent numerals v = .ok n ↔
      readInteger numerals v = .ok n ∧ -24 ≤ n ∧ n ≤ 24 := by
    unfold readExponent
    cases readInteger numerals v with
    | error fault => simp [bind, Except.bind]
    | ok m =>
      simp only [bind, Except.bind, Except.ok.injEq]
      constructor
      · intro h
        split_ifs at h with hl hh
        obtain rfl := Except.ok.inj h
        exact ⟨rfl, not_lt.mp hl, not_lt.mp hh⟩
      · rintro ⟨rfl, hl, hh⟩
        rw [if_neg (not_lt.mpr hl), if_neg (not_lt.mpr hh)]
  rw [hbind]
  exact and_congr_left fun hb => readInteger_eq_ok_iff hb.1 hb.2

theorem readRoot_eq_ok_iff {root : Root} : readRoot v = .ok root ↔ v = .text root.symbol := by
  constructor
  · intro h
    unfold readRoot at h
    split at h
    · next s =>
      split at h
      · next hs =>
        obtain rfl := Except.ok.inj h
        have hsymbol := List.find?_some hs
        rw [of_decide_eq_true hsymbol]
      · cases h
    · cases h
  · rintro rfl
    cases root <;> rfl

end Checked

/-! ### The readers keep the rules -/

namespace FieldRule

open Checked

variable {numerals : Numerals} {v w : Value}

/-- The reader takes what a field of the rule takes, and finds what that holds then. -/
def ReadBy {α : Type} (numerals : Numerals) (rule : FieldRule) (read : Value → Except FieldFault α)
    (embed : α → Value) : Prop :=
  ∀ v w, rule.Takes numerals v w ↔ ∃ a, read v = .ok a ∧ embed a = w

/-- A field of the rule takes the value. -/
def Admits (numerals : Numerals) (rule : FieldRule) (v : Value) : Prop :=
  ∃ w, rule.Takes numerals v w

theorem ReadBy.admits_iff {α : Type} {rule : FieldRule} {read : Value → Except FieldFault α}
    {embed : α → Value} (h : rule.ReadBy numerals read embed) :
    rule.Admits numerals v ↔ ∃ a, read v = .ok a := by
  unfold Admits
  constructor
  · rintro ⟨w, hw⟩
    obtain ⟨a, ha, -⟩ := (h v w).mp hw
    exact ⟨a, ha⟩
  · rintro ⟨a, ha⟩
    exact ⟨embed a, (h v _).mpr ⟨a, ha, rfl⟩⟩

theorem readBy_text : ReadBy numerals .text readText .text := by
  intro v w
  constructor
  · intro h
    cases h with
    | text s => exact ⟨s, rfl, rfl⟩
  · rintro ⟨s, hs, rfl⟩
    unfold readText at hs
    split at hs
    · cases hs
      exact .text s
    · cases hs

theorem readBy_quantity :
    ReadBy numerals .quantity (readQuantity numerals) .number := by
  intro v w
  constructor
  · intro h
    cases h with
    | quantity hv h =>
      exact ⟨_, readQuantity_eq_ok_iff.mpr ⟨hv, rfl, Binary64.signedRat_nonneg_iff.mp h⟩, rfl⟩
  · rintro ⟨x, hx, rfl⟩
    obtain ⟨hv, hf, hb⟩ := readQuantity_eq_ok_iff.mp hx
    obtain ⟨s, y, rfl⟩ := Binary64.isFinite_iff.mp hf
    exact .quantity hv (Binary64.signedRat_nonneg_iff.mpr hb)

theorem readBy_multiplier :
    ReadBy numerals .multiplier (readMultiplier numerals) .number := by
  intro v w
  constructor
  · intro h
    cases h with
    | multiplier hv h =>
      exact ⟨_, readMultiplier_eq_ok_iff.mpr ⟨hv, Binary64.signedRat_pos_iff.mp h⟩, rfl⟩
    | infinite hv => exact ⟨_, readMultiplier_eq_ok_iff.mpr ⟨hv, rfl⟩, rfl⟩
  · rintro ⟨x, hx, rfl⟩
    obtain ⟨hv, hb⟩ := readMultiplier_eq_ok_iff.mp hx
    match x with
    | .finite s y => exact .multiplier hv (Binary64.signedRat_pos_iff.mpr hb)
    | .infinite false => exact .infinite hv

theorem readBy_exponent :
    ReadBy numerals .exponent (readExponent numerals) .integer := by
  intro v w
  constructor
  · intro h
    cases h with
    | exponent hv hl hh => exact ⟨_, readExponent_eq_ok_iff.mpr ⟨hv, hl, hh⟩, rfl⟩
  · rintro ⟨n, hn, rfl⟩
    obtain ⟨hv, hl, hh⟩ := readExponent_eq_ok_iff.mp hn
    exact .exponent hv hl hh

theorem readBy_root : ReadBy numerals .root readRoot fun root => .text root.symbol := by
  intro v w
  constructor
  · intro h
    cases h with
    | root root => exact ⟨root, readRoot_eq_ok_iff.mpr rfl, rfl⟩
  · rintro ⟨root, hroot, rfl⟩
    rw [readRoot_eq_ok_iff.mp hroot]
    exact .root root

theorem admits_query_iff : FieldRule.query.Admits numerals v ↔
    ∃ inner q, v = .record inner ∧ Query.ofFields numerals inner = .ok q := by
  constructor
  · rintro ⟨w, hw⟩
    cases hw with
    | query h => exact ⟨_, _, rfl, h⟩
  · rintro ⟨inner, q, rfl, h⟩
    exact ⟨_, .query h⟩

/-- Whether a field of the rule takes the value. -/
def accepts (numerals : Numerals) (rule : FieldRule) (v : Value) : Bool :=
  match rule, v with
  | .text, v => (readText v).isOk
  | .quantity, v => (readQuantity numerals v).isOk
  | .multiplier, v => (readMultiplier numerals v).isOk
  | .exponent, v => (readExponent numerals v).isOk
  | .root, v => (readRoot v).isOk
  | .query, .record inner => (Query.ofFields numerals inner).isOk
  | .query, _ => false

private theorem isOk_iff {ε α : Type} {c : Except ε α} : c.isOk = true ↔ ∃ a, c = .ok a := by
  cases c <;> simp [Except.isOk, Except.toBool]

theorem accepts_iff {rule : FieldRule} :
    rule.accepts numerals v = true ↔ rule.Admits numerals v := by
  cases rule with
  | text => exact isOk_iff.trans readBy_text.admits_iff.symm
  | quantity => exact isOk_iff.trans readBy_quantity.admits_iff.symm
  | multiplier => exact isOk_iff.trans readBy_multiplier.admits_iff.symm
  | exponent => exact isOk_iff.trans readBy_exponent.admits_iff.symm
  | root => exact isOk_iff.trans readBy_root.admits_iff.symm
  | query =>
    rw [admits_query_iff]
    cases v <;> simp [accepts, isOk_iff]

instance (rule : FieldRule) (v : Value) : Decidable (rule.Admits numerals v) :=
  decidable_of_iff _ accepts_iff

end FieldRule

end SIUnits
