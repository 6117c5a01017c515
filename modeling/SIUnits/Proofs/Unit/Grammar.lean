import SIUnits.Proofs.Field.Valid
import SIUnits.Proofs.Unit.Multiplier
import SIUnits.Unit.Prefixed

/-! The grammar of unit tokens: a prefix symbol followed by a root symbol. A token ends with the
symbol of one root at most, because no root symbol is the end of another, so it can be spelled in
one way only (`Spells.unique`), and resolving finds that way (`resolve_of_spells`). -/
namespace SIUnits

open Magnitude

namespace UnitTables

/-- The list by powers of ten has the rows of the tables, each once, as powers in order differ. -/
theorem prefixes_sorted : standard.prefixes.Pairwise fun p q => p.exponent < q.exponent := by decide

theorem mem_prefixes_iff {p : SIPrefix} :
    p ∈ standard.prefixes ↔ p ∈ standard.prefixTables.flatten := by
  constructor
  · exact (by decide : ∀ q ∈ standard.prefixes, q ∈ standard.prefixTables.flatten) p
  · exact (by decide : ∀ q ∈ standard.prefixTables.flatten, q ∈ standard.prefixes) p

end UnitTables

namespace SIPrefix

variable {p q : SIPrefix} {s : String}

/-- Where the tables overlap they agree: two rows with one symbol have one power of ten. -/
theorem rows_agree : ∀ p ∈ UnitTables.standard.prefixTables.flatten,
    ∀ q ∈ UnitTables.standard.prefixTables.flatten, p.symbol = q.symbol → p = q := by
  decide

theorem symbol_injective (hp : p ∈ UnitTables.standard.prefixes)
    (hq : q ∈ UnitTables.standard.prefixes) (h : p.symbol = q.symbol) : p = q :=
  rows_agree p (UnitTables.mem_prefixes_iff.mp hp) q (UnitTables.mem_prefixes_iff.mp hq) h

/-- Table after table is row after row. -/
theorem ofSymbol?_eq_find?_flatten (tables : List (List SIPrefix)) (s : String) :
    ofSymbol? tables s = tables.flatten.find? (·.symbol = s) :=
  List.find?_flatten.symm

theorem ofSymbol?_symbol (h : p ∈ UnitTables.standard.prefixes) :
    ofSymbol? UnitTables.standard.prefixTables p.symbol = some p := by
  have hp := UnitTables.mem_prefixes_iff.mp h
  rw [ofSymbol?_eq_find?_flatten]
  cases hs : UnitTables.standard.prefixTables.flatten.find? (·.symbol = p.symbol) with
  | none => simpa using List.find?_eq_none.mp hs p hp
  | some q =>
    have hq := List.mem_of_find?_eq_some hs
    rw [rows_agree q hq p hp (by simpa using List.find?_some hs)]

theorem ofSymbol?_eq_none (h : ∀ p ∈ UnitTables.standard.prefixes, p.symbol ≠ s) :
    ofSymbol? UnitTables.standard.prefixTables s = none := by
  rw [ofSymbol?_eq_find?_flatten, List.find?_eq_none]
  intro p hp
  simpa using h p (UnitTables.mem_prefixes_iff.mpr hp)

end SIPrefix

namespace Root

theorem mem_all (root : Root) : root ∈ all := by cases root <;> decide

theorem eq_of_symbol_suffix : ∀ r ∈ all, ∀ r' ∈ all,
    r.symbol.toList <:+ r'.symbol.toList → r = r' := by
  decide

/-- Two ends of one token: the shorter is the end of the longer. -/
theorem eq_of_ends {r r' : Root} {token : String} (h : r.Ends token) (h' : r'.Ends token) :
    r = r' := by
  rcases List.suffix_or_suffix_of_suffix h h' with hs | hs
  · exact eq_of_symbol_suffix r r.mem_all r' r'.mem_all hs
  · exact (eq_of_symbol_suffix r' r'.mem_all r r.mem_all hs).symm

theorem ends_iff {root : Root} {token : String} :
    root.Ends token ↔ ∃ front, token = front ++ root.symbol := by
  constructor
  · rintro ⟨front, h⟩
    refine ⟨String.ofList front, String.toList_inj.mp ?_⟩
    rw [String.toList_append, String.toList_ofList, h]
  · rintro ⟨front, rfl⟩
    exact ⟨front.toList, String.toList_append.symm⟩

theorem ends_append (root : Root) (front : String) : root.Ends (front ++ root.symbol) :=
  ends_iff.mpr ⟨front, rfl⟩

theorem front_append (root : Root) (front : String) :
    root.front (front ++ root.symbol) = front := by
  rw [Root.front, String.toList_append, List.length_append, Nat.add_sub_cancel, List.take_left,
    String.ofList_toList]

/-- The first hit of the search is the only one there is. -/
theorem ending?_eq_some_iff {roots : List Root} {root : Root} {token : String}
    (hr : root ∈ roots) : ending? roots token = some root ↔ root.Ends token := by
  constructor
  · intro h
    simpa using List.find?_some h
  · intro h
    cases hf : ending? roots token with
    | none => exact absurd h (by simpa using List.find?_eq_none.mp hf root hr)
    | some root' =>
      have he : root'.Ends token := by simpa using List.find?_some hf
      rw [eq_of_ends he h]

theorem ending?_eq_none_iff {roots : List Root} {token : String} :
    ending? roots token = none ↔ ∀ root ∈ roots, ¬ root.Ends token := by
  simp [ending?, List.find?_eq_none]

end Root

/-- The token is the symbol of a listed prefix followed by that of a root unit. -/
structure Spells (p : SIPrefix) (root : Root) (token : String) : Prop where
  prefix_mem : p ∈ UnitTables.standard.prefixes
  root_mem : root ∈ UnitTables.standard.roots
  token_eq : token = p.symbol ++ root.symbol

namespace Spells

variable {p p' : SIPrefix} {root root' : Root} {token : String}

theorem intro (hp : p ∈ UnitTables.standard.prefixes) (root : Root) :
    Spells p root (p.symbol ++ root.symbol) :=
  ⟨hp, root.mem_all, rfl⟩

theorem ends (h : Spells p root token) : root.Ends token := Root.ends_iff.mpr ⟨_, h.token_eq⟩

theorem front (h : Spells p root token) : root.front token = p.symbol := by
  rw [h.token_eq, Root.front_append]

/-- A token is spelled in one way only. -/
theorem unique (h : Spells p root token) (h' : Spells p' root' token) : p' = p ∧ root' = root := by
  obtain rfl : root' = root := Root.eq_of_ends h'.ends h.ends
  exact ⟨SIPrefix.symbol_injective h'.prefix_mem h.prefix_mem (h'.front.symm.trans h.front),
    rfl⟩

end Spells

namespace PrefixedUnit

/-- The unit that a prefix and a root make. -/
def ofParts (p : SIPrefix) (root : Root) : PrefixedUnit :=
  ⟨p.symbol ++ root.symbol, p.symbol, root, p.exponent, .powerOfTen p.exponent⟩

theorem valid_ofParts {p : SIPrefix} (hp : p ∈ UnitTables.standard.prefixes) (root : Root) :
    (ofParts p root).Valid := by
  obtain ⟨hl, hh⟩ := p.exponent_bounds hp
  obtain ⟨m, hm, hn⟩ := exists_multiplier hh
  refine ⟨rfl, hl, hh, ?_⟩
  have hpos := toRat_pos_iff.mp (hn.pos_of_ten_zpow hl)
  simp [ofParts, hm, Binary64.isAboveZero, hpos]

theorem exponentOf?_symbol {p : SIPrefix} (hp : p ∈ UnitTables.standard.prefixes) :
    UnitTables.standard.exponentOf? p.symbol = some p.exponent := by
  rw [UnitTables.exponentOf?, SIPrefix.ofSymbol?_symbol hp, Option.map_some]

theorem exponentOf?_eq_none {s : String}
    (h : ∀ p ∈ UnitTables.standard.prefixes, p.symbol ≠ s) :
    UnitTables.standard.exponentOf? s = none := by
  rw [UnitTables.exponentOf?, SIPrefix.ofSymbol?_eq_none h, Option.map_none]

variable {p : SIPrefix} {root : Root} {token : String}

theorem resolve_of_spells (h : Spells p root token) :
    (resolve token).result = .ok (ofParts p root) := by
  have hroot := (Root.ending?_eq_some_iff h.root_mem).mpr h.ends
  have hbuilt := (valid_ofParts h.prefix_mem root).ofFields_toFields .plain
  rw [ofParts, ← h.token_eq] at hbuilt ⊢
  simp [resolve, resolveIn, hroot, h.front, exponentOf?_symbol h.prefix_mem, hbuilt]

theorem resolve_of_no_root (h : ∀ root ∈ UnitTables.standard.roots, ¬ root.Ends token) :
    (resolve token).result = .error (.failure ⟨.unknownRootUnit token
      (.list (UnitTables.standard.roots.map fun root => .text root.symbol)), []⟩) := by
  have hroot := Root.ending?_eq_none_iff.mpr h
  simp [resolve, resolveIn, hroot]

theorem resolve_of_unknownPrefix (hr : root ∈ UnitTables.standard.roots) (h : root.Ends token)
    (hp : ∀ p ∈ UnitTables.standard.prefixes, p.symbol ≠ root.front token) :
    (resolve token).result = .error (.failure ⟨.unknownPrefix token (root.front token), []⟩) := by
  have hroot := (Root.ending?_eq_some_iff hr).mpr h
  simp [resolve, resolveIn, hroot, exponentOf?_eq_none hp]

/-- A token is spelled, or it ends with no root, or what is in front of its root is no prefix. -/
theorem spells_cases (token : String) :
    (∃ p root, Spells p root token) ∨ (∀ root ∈ UnitTables.standard.roots, ¬ root.Ends token) ∨
      ∃ root ∈ UnitTables.standard.roots, root.Ends token ∧
        ∀ p ∈ UnitTables.standard.prefixes, p.symbol ≠ root.front token := by
  by_cases hr : ∃ root : Root, root.Ends token
  · obtain ⟨root, hroot⟩ := hr
    obtain ⟨front, rfl⟩ := Root.ends_iff.mp hroot
    by_cases hp : ∃ p ∈ UnitTables.standard.prefixes, p.symbol = front
    · obtain ⟨p, hmem, rfl⟩ := hp
      exact Or.inl ⟨p, root, Spells.intro hmem root⟩
    · refine Or.inr (Or.inr ⟨root, root.mem_all, hroot, fun p hmem h => hp ⟨p, hmem, ?_⟩⟩)
      rw [h, Root.front_append]
  · exact Or.inr (Or.inl fun root _ h => hr ⟨root, h⟩)

/-- The failure says of the token that it has no root unit, or that its prefix is unknown. -/
def Unresolved (token : String) (f : Failure) : Prop :=
  (∃ units, f = ⟨.unknownRootUnit token units, []⟩) ∨
    ∃ front, f = ⟨.unknownPrefix token front, []⟩

theorem resolve_cases (token : String) :
    (∃ u, (resolve token).result = .ok u) ∨
      ∃ f, (resolve token).result = .error (.failure f) ∧ Unresolved token f := by
  rcases spells_cases token with ⟨p, root, h⟩ | h | ⟨root, hr, h, hp⟩
  · exact Or.inl ⟨_, resolve_of_spells h⟩
  · exact Or.inr ⟨_, resolve_of_no_root h, Or.inl ⟨_, rfl⟩⟩
  · exact Or.inr ⟨_, resolve_of_unknownPrefix hr h hp, Or.inr ⟨_, rfl⟩⟩

/-- A short test of the same search. -/
theorem isValid_eq (token : String) :
    isValid token = match (resolve token).result with
      | .ok _ => true
      | .error _ => false := by
  rcases spells_cases token with ⟨p, root, h⟩ | h | ⟨root, hr, h, hp⟩
  · have hroot := (Root.ending?_eq_some_iff h.root_mem).mpr h.ends
    rw [resolve_of_spells h]
    simp [isValid, isValidIn, hroot, h.front, exponentOf?_symbol h.prefix_mem]
  · rw [resolve_of_no_root h]
    simp [isValid, isValidIn, Root.ending?_eq_none_iff.mpr h]
  · have hroot := (Root.ending?_eq_some_iff hr).mpr h
    rw [resolve_of_unknownPrefix hr h hp]
    simp [isValid, isValidIn, hroot, exponentOf?_eq_none hp]

theorem isValid_iff : isValid token = true ↔ ∃ u, (resolve token).result = .ok u := by
  rw [isValid_eq]
  cases (resolve token).result <;> simp

theorem resolve_eq_ok_iff {u : PrefixedUnit} :
    (resolve token).result = .ok u ↔ ∃ p root, Spells p root token ∧ u = ofParts p root := by
  constructor
  · intro hu
    rcases spells_cases token with ⟨p, root, h⟩ | h | ⟨root, hr, h, hp⟩
    · rw [resolve_of_spells h] at hu
      exact ⟨p, root, h, (Except.ok.inj hu).symm⟩
    · rw [resolve_of_no_root h] at hu
      cases hu
    · rw [resolve_of_unknownPrefix hr h hp] at hu
      cases hu
  · rintro ⟨p, root, h, rfl⟩
    exact resolve_of_spells h

theorem resolve_unknownRootUnit_iff :
    (∃ units, (resolve token).result = .error (.failure ⟨.unknownRootUnit token units, []⟩)) ↔
      ∀ root ∈ UnitTables.standard.roots, ¬ root.Ends token := by
  constructor
  · rintro ⟨units, hu⟩
    rcases spells_cases token with ⟨p, root, h⟩ | h | ⟨root, hr, h, hp⟩
    · rw [resolve_of_spells h] at hu
      cases hu
    · exact h
    · rw [resolve_of_unknownPrefix hr h hp] at hu
      cases hu
  · intro h
    exact ⟨_, resolve_of_no_root h⟩

/-- With a root at its end a token can only have a wrong prefix. -/
theorem eq_unknownPrefix_of_resolve {fault : Fault} (h : root.Ends token)
    (hf : (resolve token).result = .error fault) :
    fault = .failure ⟨.unknownPrefix token (root.front token), []⟩ := by
  rcases spells_cases token with ⟨p, root', h'⟩ | h' | ⟨root', hr', h', hp⟩
  · rw [resolve_of_spells h'] at hf
    cases hf
  · exact absurd h (h' root root.mem_all)
  · obtain rfl : root' = root := Root.eq_of_ends h' h
    rw [resolve_of_unknownPrefix hr' h' hp] at hf
    exact (Except.error.inj hf).symm

/-- What a resolved unit is made of. -/
theorem multiplier_of_resolve {u : PrefixedUnit} (h : (resolve token).result = .ok u) :
    -24 ≤ u.exponent ∧ u.exponent ≤ 24 ∧
      ∃ m, u.multiplier = .finite false m ∧ m.IsNearest (10 ^ u.exponent) := by
  obtain ⟨p, root, hs, rfl⟩ := resolve_eq_ok_iff.mp h
  obtain ⟨hl, hh⟩ := p.exponent_bounds hs.prefix_mem
  exact ⟨hl, hh, exists_multiplier hh⟩

theorem isMultiplier_of_resolve {u : PrefixedUnit} (h : (resolve token).result = .ok u) :
    ∃ m, u.multiplier = .finite false m ∧ IsMultiplier u.exponent m := by
  obtain ⟨hl, hh, m, hm, hn⟩ := multiplier_of_resolve h
  exact ⟨m, hm, hl, hh, hn⟩

theorem valid_of_resolve {u : PrefixedUnit} (h : (resolve token).result = .ok u) : u.Valid := by
  obtain ⟨p, root, hs, rfl⟩ := resolve_eq_ok_iff.mp h
  exact valid_ofParts hs.prefix_mem root

theorem symbol_of_resolve {u : PrefixedUnit} (h : (resolve token).result = .ok u) :
    u.symbol = token := by
  obtain ⟨p, root, hs, rfl⟩ := resolve_eq_ok_iff.mp h
  exact hs.token_eq.symm

theorem ne_empty_of_resolve {u : PrefixedUnit}
    (h : (resolve token).result = .ok u) : token ≠ "" := by
  obtain ⟨p, root, hs, -⟩ := resolve_eq_ok_iff.mp h
  have hroot : root.symbol ≠ "" := by cases root <;> decide
  rw [hs.token_eq]
  simp [hroot]

theorem space_not_mem_of_resolve {u : PrefixedUnit} (h : (resolve token).result = .ok u) :
    ' ' ∉ token.toList := by
  obtain ⟨p, root, hs, -⟩ := resolve_eq_ok_iff.mp h
  have hp : ' ' ∉ p.symbol.toList :=
    (by decide : ∀ q ∈ UnitTables.standard.prefixes, ' ' ∉ q.symbol.toList) p hs.prefix_mem
  have hr : ' ' ∉ root.symbol.toList := by cases root <;> decide
  rw [hs.token_eq, String.toList_append, List.mem_append, not_or]
  exact ⟨hp, hr⟩

/-- Resolving is reading the grammar: it succeeds on the spelled tokens, gives back the one way in
which a token is spelled, and says on every other token which half of the grammar it misses. -/
theorem resolve_iff_spelled (token : String) :
    ((∃ u, (resolve token).result = .ok u) ↔ ∃ p root, Spells p root token) ∧
    (∀ p root, Spells p root token →
      (∀ p' root', Spells p' root' token → p' = p ∧ root' = root) ∧
      ∃ m : Magnitude, m.IsNearest (10 ^ p.exponent) ∧
        (resolve token).result = .ok ⟨token, p.symbol, root, p.exponent, .finite false m⟩) ∧
    ((∃ units, (resolve token).result = .error (.failure ⟨.unknownRootUnit token units, []⟩)) ↔
      ∀ root ∈ UnitTables.standard.roots, ∀ front, token ≠ front ++ root.symbol) ∧
    (∀ root ∈ UnitTables.standard.roots, ∀ front, token = front ++ root.symbol →
      (∀ root' ∈ UnitTables.standard.roots, ∀ front', token = front' ++ root'.symbol →
        root' = root) ∧
      ∀ fault, (resolve token).result = .error fault →
        fault = .failure ⟨.unknownPrefix token front, []⟩) ∧
    (isValid token = true ↔ ∃ u, (resolve token).result = .ok u) := by
  refine ⟨?_, ?_, ?_, ?_, ?_⟩
  · constructor
    · rintro ⟨u, hu⟩
      obtain ⟨p, root, h, _⟩ := resolve_eq_ok_iff.mp hu
      exact ⟨p, root, h⟩
    · rintro ⟨p, root, h⟩
      exact ⟨_, resolve_of_spells h⟩
  · intro p root h
    obtain ⟨m, hm, hn⟩ := exists_multiplier (p.exponent_bounds h.prefix_mem).2
    refine ⟨fun p' root' h' => h.unique h', m, hn, ?_⟩
    rw [resolve_of_spells h, ofParts, hm, ← h.token_eq]
  · rw [resolve_unknownRootUnit_iff]
    simp only [Root.ends_iff, not_exists]
  · rintro root _ front rfl
    have he := root.ends_append front
    refine ⟨fun root' _ front' h' => Root.eq_of_ends (Root.ends_iff.mpr ⟨front', h'⟩) he, ?_⟩
    intro fault hf
    rw [eq_unknownPrefix_of_resolve he hf, Root.front_append]
  · rw [isValid_eq]
    cases (resolve token).result <;> simp

end PrefixedUnit

end SIUnits
