import Mathlib.Data.List.Nodup
import SIUnits.Failure.Basic

/-! What the context of a failure holds. The cause puts its own entries into the details that it was
given, in their places where the keys are there already and at the end where they are not, and the
token comes last unless it is there. Nothing else of the details changes
(`Failure.context_merges`). -/
namespace SIUnits

namespace Entries

variable {key : String} {value : Value} {entries news : Entries}

theorem keys_cons (entry : String × Value) (entries : Entries) :
    keys (entry :: entries) = entry.1 :: keys entries := rfl

theorem get?_cons (entry : String × Value) (entries : Entries) (key : String) :
    get? (entry :: entries) key = if key = entry.1 then some entry.2 else entries.get? key := by
  unfold get?
  rw [List.lookup_cons]
  by_cases h : key = entry.1
  · rw [h, beq_self_eq_true, if_pos rfl]
  · rw [beq_false_of_ne h, if_neg h]

theorem get?_eq_none_iff : entries.get? key = none ↔ key ∉ entries.keys := by
  unfold get? keys
  rw [List.lookup_eq_none_iff, List.mem_map]
  simp only [bne_iff_ne, not_exists, not_and]
  exact forall₂_congr fun _ _ => ne_comm

theorem get?_of_mem (hd : entries.keys.Nodup) (h : (key, value) ∈ entries) :
    entries.get? key = some value := by
  induction entries with
  | nil => cases h
  | cons entry rest ih =>
    rw [keys_cons, List.nodup_cons] at hd
    rw [get?_cons]
    rcases List.mem_cons.mp h with rfl | hmem
    · exact if_pos rfl
    · have hne : key ≠ entry.1 := by
        intro heq
        exact hd.1 (List.mem_map.mpr ⟨(key, value), hmem, heq⟩)
      rw [if_neg hne, ih hd.2 hmem]

theorem nodup_keys_insert (key : String) (value : Value) (hd : entries.keys.Nodup) :
    (entries.insert key value).keys.Nodup := by
  rw [keys_insert]
  split
  · exact hd
  · next hnew =>
    rw [← List.concat_eq_append]
    exact hd.concat hnew

/-! ### Several entries at once -/

theorem insertAll_cons (entries : Entries) (entry : String × Value) (news : Entries) :
    entries.insertAll (entry :: news) = (entries.insert entry.1 entry.2).insertAll news := rfl

theorem nodup_keys_insertAll (news : Entries) (hd : entries.keys.Nodup) :
    (entries.insertAll news).keys.Nodup := by
  induction news generalizing entries with
  | nil => exact hd
  | cons entry rest ih => exact ih (nodup_keys_insert entry.1 entry.2 hd)

/-- Keys that are there keep their places, and the others follow in the order of the new entries. -/
theorem keys_insertAll (hn : news.keys.Nodup) : (entries.insertAll news).keys =
    entries.keys ++ news.keys.filter (· ∉ entries.keys) := by
  induction news generalizing entries with
  | nil => exact (List.append_nil _).symm
  | cons entry rest ih =>
    rw [keys_cons, List.nodup_cons] at hn
    rw [insertAll_cons, ih hn.2, keys_insert, keys_cons]
    split
    · next hmem => rw [List.filter_cons_of_neg (by simp [hmem])]
    · next hnew =>
      rw [List.filter_cons_of_pos (by simp [hnew]), List.append_assoc, List.singleton_append]
      -- The key just put in counts as there from now on, but it does not come again.
      congr 2
      apply List.filter_congr
      intro k hk
      have hne : k ≠ entry.1 := by
        intro heq
        exact hn.1 (heq ▸ hk)
      simp [hne]

/-- The new entries have the say about their keys. -/
theorem get?_insertAll (key : String) (hn : news.keys.Nodup) :
    (entries.insertAll news).get? key = (news.get? key).or (entries.get? key) := by
  induction news generalizing entries with
  | nil => rfl
  | cons entry rest ih =>
    rw [keys_cons, List.nodup_cons] at hn
    rw [insertAll_cons, ih hn.2, get?_cons]
    by_cases heq : key = entry.1
    · subst heq
      rw [get?_eq_none_iff.mpr hn.1, get?_insert_self, if_pos rfl]
      rfl
    · rw [get?_insert_of_ne entry.2 entries heq, if_neg heq]

/-! ### An entry that gives way -/

theorem nodup_keys_insertIfNew (key : String) (value : Value) (hd : entries.keys.Nodup) :
    (entries.insertIfNew key value).keys.Nodup := by
  unfold insertIfNew
  split
  · exact hd
  · exact nodup_keys_insert key value hd

theorem keys_insertIfNew (key : String) (value : Value) (entries : Entries) :
    (entries.insertIfNew key value).keys =
      entries.keys ++ if key ∈ entries.keys then [] else [key] := by
  unfold insertIfNew
  split
  · exact (List.append_nil _).symm
  · next hnew => rw [keys_insert, if_neg hnew]

theorem get?_insertIfNew_self (value : Value) (h : key ∉ entries.keys) :
    (entries.insertIfNew key value).get? key = some value := by
  rw [insertIfNew, if_neg h, get?_insert_self]

/-- What is there already stays as it is. -/
theorem get?_insertIfNew_of_mem (other : String) (v : Value) (h : entries.get? key = some value) :
    (entries.insertIfNew other v).get? key = some value := by
  have hkey : key ∈ entries.keys := by
    by_contra hnew
    rw [get?_eq_none_iff.mpr hnew] at h
    cases h
  unfold insertIfNew
  split
  · exact h
  · next hnew =>
    have hne : key ≠ other := fun heq => hnew (heq ▸ hkey)
    rw [get?_insert_of_ne v entries hne, h]

/-- The entries that have a value, in order. -/
def given (arguments : List (String × Option Value)) : Entries :=
  arguments.filterMap fun argument => argument.2.map (argument.1, ·)

theorem keys_given_sublist (arguments : List (String × Option Value)) :
    (given arguments).keys.Sublist (arguments.map Prod.fst) := by
  induction arguments with
  | nil => exact .slnil
  | cons argument rest ih =>
    obtain ⟨key, value⟩ := argument
    cases value with
    | none => exact ih.cons key
    | some v => exact ih.cons_cons key

theorem mem_given {arguments : List (String × Option Value)} :
    (key, value) ∈ given arguments ↔ (key, some value) ∈ arguments := by
  unfold given
  rw [List.mem_filterMap]
  constructor
  · rintro ⟨⟨k, v⟩, hmem, heq⟩
    obtain ⟨v, rfl, hpair⟩ := Option.map_eq_some_iff.mp heq
    cases hpair
    exact hmem
  · intro hmem
    exact ⟨(key, some value), hmem, rfl⟩

end Entries

namespace Failure

/-- The seven causes, each with the arguments that it puts into the context, in order and with a
value if there is one, and with the token that it is about. -/
inductive Cause.Brings : Cause → List (String × Option Value) → String → Prop
  | malformedQuery (line : String) (tokenCount : Option Value) :
    Brings (.malformedQuery line tokenCount)
      [("line", some (.text line)), ("token_count", tokenCount)] line
  | invalidNumber (token : String) : Brings (.invalidNumber token) [] token
  | negativeNumber (token : String) (value : Option Value) :
    Brings (.negativeNumber token value) [("value", value)] token
  | unknownRootUnit (token : String) (validUnits : Value) :
    Brings (.unknownRootUnit token validUnits)
      [("valid_units", if validUnits.isVoid then none else some validUnits)] token
  | unknownPrefix (token front : String) :
    Brings (.unknownPrefix token front) [("prefix", some (.text front))] token
  | rootUnitMismatch (sourceRoot targetRoot : String) (sourceUnit targetUnit : Option String) :
    Brings (.rootUnitMismatch sourceRoot targetRoot sourceUnit targetUnit)
      [("source_root", some (.text sourceRoot)), ("target_root", some (.text targetRoot))]
      (nonemptyOr targetUnit targetRoot)
  | conversionOverflow (quantityText sourceUnit targetUnit : String) :
    Brings (.conversionOverflow quantityText sourceUnit targetUnit)
      [("source_unit", some (.text sourceUnit)), ("target_unit", some (.text targetUnit))]
      quantityText

variable {cause : Cause} {own : List (String × Option Value)} {token : String}

theorem Cause.Brings.token_eq (h : cause.Brings own token) : cause.token = some token := by
  cases h <;> rfl

theorem Cause.Brings.entries_eq (h : cause.Brings own token) :
    cause.entries = Entries.given own := by
  cases h with
  | malformedQuery line tokenCount => cases tokenCount <;> rfl
  | negativeNumber token value => cases value <;> rfl
  | unknownRootUnit token validUnits =>
    unfold Cause.entries
    cases validUnits.isVoid <;> rfl
  | _ => rfl

/-- No cause has two entries for one key, or one for the key of the token. -/
theorem Cause.Brings.keys (h : cause.Brings own token) :
    (Entries.given own).keys.Nodup ∧ "token" ∉ (Entries.given own).keys := by
  have hsublist := Entries.keys_given_sublist own
  have hown : (own.map Prod.fst).Nodup ∧ "token" ∉ own.map Prod.fst := by
    cases h <;> simp
  exact ⟨hsublist.nodup hown.1, fun hmem => hown.2 (hsublist.subset hmem)⟩

theorem context_eq (h : cause.Brings own token) (details : Entries) : context ⟨cause, details⟩ =
    (details.insertAll (Entries.given own)).insertIfNew "token" (.text token) := by
  unfold context Failure.token
  simp only [h.token_eq, h.entries_eq]

/-- A failure keeps what it is told. Its context has the keys of the details in their order, then
the keys of the cause's own entries that are new, and last the token if nothing is under that key.
The own entries have the say about their keys, and all other details stay as they are, a token of
theirs among them; the token of the failure itself is the cause's. -/
theorem context_merges (h : cause.Brings own token) {details : Entries}
    (hd : details.keys.Nodup) :
    Failure.token ⟨cause, details⟩ = some token ∧
    (context ⟨cause, details⟩).keys.Nodup ∧
    (context ⟨cause, details⟩).keys =
      details.keys ++ (Entries.given own).keys.filter (· ∉ details.keys) ++
        (if "token" ∈ details.keys then [] else ["token"]) ∧
    (∀ key value, (key, some value) ∈ own →
      (context ⟨cause, details⟩).get? key = some value) ∧
    (∀ key value, (key, value) ∈ details → (∀ v, (key, some v) ∉ own) →
      (context ⟨cause, details⟩).get? key = some value) ∧
    ("token" ∉ details.keys →
      (context ⟨cause, details⟩).get? "token" = some (.text token)) := by
  obtain ⟨hown, htoken⟩ := h.keys
  have hkeys : (details.insertAll (Entries.given own)).keys =
      details.keys ++ (Entries.given own).keys.filter (· ∉ details.keys) :=
    Entries.keys_insertAll hown
  rw [context_eq h]
  have hpresent : "token" ∈ (details.insertAll (Entries.given own)).keys ↔
      "token" ∈ details.keys := by
    rw [hkeys, List.mem_append, List.mem_filter]
    exact or_iff_left fun hmem => htoken hmem.1
  refine ⟨h.token_eq, ?_, ?_, ?_, ?_, ?_⟩
  · exact Entries.nodup_keys_insertIfNew _ _ (Entries.nodup_keys_insertAll _ hd)
  · rw [Entries.keys_insertIfNew, if_congr hpresent rfl rfl, hkeys]
  · intro key value hmem
    apply Entries.get?_insertIfNew_of_mem
    rw [Entries.get?_insertAll key hown, Entries.get?_of_mem hown (Entries.mem_given.mpr hmem)]
    rfl
  · intro key value hmem hnone
    apply Entries.get?_insertIfNew_of_mem
    have hnew : (Entries.given own).get? key = none := by
      rw [Entries.get?_eq_none_iff]
      intro hkey
      obtain ⟨entry, hentry, rfl⟩ := List.mem_map.mp hkey
      exact hnone entry.2 (Entries.mem_given.mp hentry)
    rw [Entries.get?_insertAll key hown, hnew, Option.none_or, Entries.get?_of_mem hd hmem]
  · intro hnew
    exact Entries.get?_insertIfNew_self _ (mt hpresent.mp hnew)

/-- The number of tokens replaces what was said of it before, in its place. -/
theorem context_merges_malformed :
    Cause.Brings (.malformedQuery "1 kg g" (some (.integer 3)))
      [("line", some (.text "1 kg g")), ("token_count", some (.integer 3))] "1 kg g" ∧
    (Entries.keys [("token_count", .text "few"), ("request", .text "r1")]).Nodup ∧
    (context ⟨.malformedQuery "1 kg g" (some (.integer 3)),
        [("token_count", .text "few"), ("request", .text "r1")]⟩).keys =
      ["token_count", "request", "line", "token"] ∧
    (context ⟨.malformedQuery "1 kg g" (some (.integer 3)),
        [("token_count", .text "few"), ("request", .text "r1")]⟩).get? "token_count" =
      some (.integer 3) := by
  have hbrings := Cause.Brings.malformedQuery "1 kg g" (some (.integer 3))
  have hdistinct :
      (Entries.keys [("token_count", .text "few"), ("request", .text "r1")]).Nodup := by
    decide
  obtain ⟨-, -, hkeys, hown, -⟩ := context_merges hbrings hdistinct
  exact ⟨hbrings, hdistinct, hkeys.trans (by decide), hown _ _ (by simp)⟩

end Failure

end SIUnits
