import SIUnits.Proofs.Query.Line

/-! The syntax of query lines, and reading as its inverse (`Query.parse_iff_hasFields`). The tokens
of a line are what single spaces separate, empty ones among them, so a line has one more token than
spaces and no other white space matters. -/
namespace SIUnits

namespace Text

variable {s : String} {parts : List String}

private theorem length_splitOn (c : Char) (cs : List Char) :
    (cs.splitOn c).length = 1 + cs.count c := by
  induction cs with
  | nil => rfl
  | cons d ds ih =>
    rw [List.splitOn_cons_eq_if_modifyHead, List.count_cons]
    -- A separator starts another part, and any other character belongs to the first one.
    split
    · rw [List.length_cons, ih, Nat.add_assoc]
    · rw [List.length_modifyHead, ih, Nat.add_zero]

theorem length_splitSpaces (s : String) : (splitSpaces s).length = 1 + s.toList.count ' ' := by
  rw [splitSpaces, List.length_map, length_splitOn]

/-- The parts hold no space, and with one space between any two of them they make up the text. -/
structure IsTokens (s : String) (parts : List String) : Prop where
  ne_nil : parts ≠ []
  join : " ".intercalate parts = s
  noSpace : ∀ p ∈ parts, ' ' ∉ p.toList

/-- Splitting finds the tokens, and there is one way only to take a text apart. -/
theorem isTokens_iff : IsTokens s parts ↔ splitSpaces s = parts := by
  constructor
  · rintro ⟨hne, rfl, hspace⟩
    exact splitSpaces_intercalate hne hspace
  · rintro rfl
    refine ⟨?_, intercalate_splitSpaces s, fun _ => space_not_mem_of_mem_splitSpaces⟩
    apply List.ne_nil_of_length_pos
    rw [length_splitSpaces]
    omega

end Text

namespace Query

variable {line n a b n' a' b' : String}

/-- The line is that of a query with these texts, none of which holds a space. -/
structure HasFields (line n a b : String) : Prop where
  line_eq : line = n ++ " " ++ a ++ " = " ++ b
  number : ' ' ∉ n.toList
  source : ' ' ∉ a.toList
  target : ' ' ∉ b.toList

theorem hasFields_iff : HasFields line n a b ↔ Text.splitSpaces line = [n, a, "=", b] := by
  constructor
  · rintro ⟨rfl, hn, ha, hb⟩
    exact splitSpaces_queryLine hn ha hb
  · intro h
    obtain ⟨-, hjoin, hspace⟩ := Text.isTokens_iff.mpr h
    refine ⟨?_, hspace n (by simp), hspace a (by simp), hspace b (by simp)⟩
    rw [← hjoin]
    exact (queryLine_eq_intercalate n a b).symm

instance (line n a b : String) : Decidable (HasFields line n a b) :=
  decidable_of_iff _ hasFields_iff.symm

theorem HasFields.unique (h : HasFields line n a b) (h' : HasFields line n' a' b') :
    n' = n ∧ a' = a ∧ b' = b := by
  have heq := hasFields_iff.mp h
  rw [hasFields_iff.mp h'] at heq
  simpa using heq

theorem parse_eq_ok_iff {x : Binary64} :
    (parse line).result = .ok ⟨x, n, a, b⟩ ↔ HasFields line n a b ∧ quantityOf n = .ok x := by
  constructor
  · intro h
    obtain ⟨hs, hq⟩ := fields_of_parse h
    exact ⟨hasFields_iff.mpr hs, hq⟩
  · rintro ⟨h, hq⟩
    rw [parse_of_fields (hasFields_iff.mp h), hq]

/-! ### Lines that are no queries -/

/-- The failure reports that the line is malformed: with the line, its number of tokens, and the
third one of four. -/
structure ReportsMalformed (line : String) (f : Failure) : Prop where
  kind : f.kind.name = "MalformedQuery"
  text : f.context.get? "line" = some (.text line)
  tokenCount : f.context.get? "token_count" = some (.integer (1 + line.toList.count ' ' : ℕ))
  separator (v : Value) : f.context.get? "separator" = some v ↔
    ∃ n a e b, Text.IsTokens line [n, a, e, b] ∧ v = .text e

theorem reportsMalformed_of_separator {e : String} (hs : Text.splitSpaces line = [n, a, e, b]) :
    ReportsMalformed line ⟨.malformedQuery line (some (.integer 4)), [("separator", .text e)]⟩ := by
  have hcount : 4 = 1 + line.toList.count ' ' := by
    rw [← Text.length_splitSpaces, hs]
    rfl
  refine ⟨rfl, rfl, ?_, fun v => ?_⟩
  · rw [← hcount]
    rfl
  · change some (Value.text e) = some v ↔ _
    simp only [Text.isTokens_iff, hs]
    constructor
    · intro h
      exact ⟨n, a, e, b, rfl, (Option.some.inj h).symm⟩
    · rintro ⟨_, _, _, _, heq, rfl⟩
      cases heq
      rfl

theorem reportsMalformed_of_fieldCount (h : (Text.splitSpaces line).length ≠ 4) :
    ReportsMalformed line
      ⟨.malformedQuery line (some (.integer (Text.splitSpaces line).length)), []⟩ := by
  refine ⟨rfl, rfl, ?_, fun v => ?_⟩
  · rw [Text.length_splitSpaces]
    rfl
  · change none = some v ↔ _
    simp only [Text.isTokens_iff, reduceCtorEq, false_iff]
    rintro ⟨n, a, e, b, hs, -⟩
    rw [hs] at h
    exact h rfl

theorem parse_of_not_hasFields (h : ¬ ∃ n a b, HasFields line n a b) :
    ∃ f, (parse line).result = .error (.failure f) ∧ ReportsMalformed line f := by
  by_cases hfour : (Text.splitSpaces line).length = 4
  · match hs : Text.splitSpaces line, hfour with
    | [n, a, e, b], _ =>
      have he : e ≠ "=" := by
        rintro rfl
        exact h ⟨n, a, b, hasFields_iff.mpr hs⟩
      exact ⟨_, parse_of_separator hs he, reportsMalformed_of_separator hs⟩
  · exact ⟨_, parse_of_fieldCount hfour, reportsMalformed_of_fieldCount hfour⟩

/-- A number that is refused is reported as a number. -/
theorem kind_of_quantityOf {f : Failure} (h : quantityOf n = .error (.failure f)) :
    f.kind = Failure.Family.query.kind "InvalidNumber" ∨
      f.kind = Failure.Family.query.kind "NegativeNumber" := by
  unfold quantityOf at h
  split at h
  · cases h
    exact Or.inl rfl
  · split at h
    · cases h
    · split_ifs at h
      · cases h
        exact Or.inl rfl
      · cases h
        exact Or.inr rfl

theorem not_hasFields_of_malformed {f : Failure}
    (hf : (parse line).result = .error (.failure f)) (hk : f.kind.name = "MalformedQuery") :
    ¬ ∃ n a b, HasFields line n a b := by
  rintro ⟨n, a, b, h⟩
  rw [parse_of_fields (hasFields_iff.mp h)] at hf
  cases hq : quantityOf n with
  | ok x =>
    rw [hq] at hf
    cases hf
  | error g =>
    rw [hq] at hf
    cases hf
    rcases kind_of_quantityOf hq with hkind | hkind <;> simp [hkind, Failure.Family.kind] at hk

/-- Reading inverts the syntax. A line is read as the query with these texts and this quantity if
and only if it is the line of the texts and the number is read as the quantity; no line has the
texts of two queries. A line of texts whose number is refused is refused for the number, and any
other line is refused as malformed. -/
theorem parse_iff_hasFields (line : String) :
    (∀ x n a b, (parse line).result = .ok ⟨x, n, a, b⟩ ↔
      HasFields line n a b ∧ quantityOf n = .ok x) ∧
    (∀ n a b n' a' b', HasFields line n a b → HasFields line n' a' b' →
      n' = n ∧ a' = a ∧ b' = b) ∧
    (∀ q, (parse line).result = .ok q →
      q.quantityText ++ " " ++ q.sourceUnit ++ " = " ++ q.targetUnit = line) ∧
    (∀ n a b fault, HasFields line n a b → quantityOf n = .error fault →
      (parse line).result = .error fault) ∧
    ((∃ f, (parse line).result = .error (.failure f) ∧ f.kind.name = "MalformedQuery") ↔
      ¬ ∃ n a b, HasFields line n a b) ∧
    ∀ f, (parse line).result = .error (.failure f) → f.kind.name = "MalformedQuery" →
      ReportsMalformed line f := by
  refine ⟨fun _ _ _ _ => parse_eq_ok_iff, fun _ _ _ _ _ _ => HasFields.unique, ?_, ?_, ?_, ?_⟩
  · intro q hq
    exact (parse_eq_ok_iff.mp hq).1.line_eq.symm
  · intro n a b fault h hf
    rw [parse_of_fields (hasFields_iff.mp h), hf]
  · constructor
    · rintro ⟨f, hf, hk⟩
      exact not_hasFields_of_malformed hf hk
    · intro h
      obtain ⟨f, hf, hreport⟩ := parse_of_not_hasFields h
      exact ⟨f, hf, hreport.kind⟩
  · intro f hf hk
    obtain ⟨g, hg, hreport⟩ := parse_of_not_hasFields (not_hasFields_of_malformed hf hk)
    obtain rfl : f = g := by simpa [hf] using hg
    exact hreport

-- Units may be empty, and a tab is a character like any other.
example : HasFields "1  = " "1" "" "" ∧ HasFields "1 k\tg = g" "1" "k\tg" "g" := by decide

end Query

end SIUnits
