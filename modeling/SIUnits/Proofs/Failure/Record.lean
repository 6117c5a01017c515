import SIUnits.Failure.Report
import SIUnits.Proofs.Json.Ascii

/-! The JSON text of a failure. There is one unless a whole number in the context is too long to be
written. It is plain ASCII, and reading it gives the record of the failure back
(`Failure.toJson_lossless`). -/
namespace SIUnits.Failure

variable {f : Failure} {time : Timestamp} {text : String}

theorem toRecord_eq (f : Failure) (time : Timestamp) : f.toRecord time =
    [("error_type", .text f.kind.name), ("error_code", .text f.code), ("message", .text f.message),
      ("token", (f.token.map Value.text).getD .null), ("context", .record f.context),
      ("timestamp", .text time.text)] := by
  unfold toRecord
  cases f.token <;> rfl

/-- The only whole numbers of the record are those of the context. -/
theorem integers_toRecord (f : Failure) (time : Timestamp) :
    (Value.record (f.toRecord time)).integers = (Value.record f.context).integers := by
  have htoken : ((f.token.map Value.text).getD .null).integers = [] := by
    cases f.token <;> simp [Value.integers]
  rw [toRecord_eq]
  simp [Value.integers, integersOfEntries, htoken]

/-- No whole number of the context is too long to be written. -/
def Writable (f : Failure) : Prop :=
  ∀ n ∈ (Value.record f.context).integers, n.natAbs < 10 ^ digitLimit

theorem toJson_of_writable (h : f.Writable) :
    f.toJson time = .ok (Json.render .ascii (.record (f.toRecord time))) := by
  unfold toJson
  rw [integers_toRecord]
  apply if_pos
  rw [List.all_eq_true]
  exact fun n hn => decide_eq_true (h n hn)

theorem toJson_of_not_writable (h : ¬ f.Writable) : f.toJson time = .error .tooManyDigits := by
  unfold toJson
  rw [integers_toRecord]
  apply if_neg
  rw [List.all_eq_true]
  exact fun hall => h fun n hn => of_decide_eq_true (hall n hn)

theorem toJson_eq_ok_iff : f.toJson time = .ok text ↔
    f.Writable ∧ Json.render .ascii (.record (f.toRecord time)) = text := by
  by_cases h : f.Writable
  · rw [toJson_of_writable h, Except.ok.injEq, and_iff_right h]
  · simp [toJson_of_not_writable h, h]

theorem read?_render_toRecord (f : Failure) (time : Timestamp) :
    Json.read? (Json.render .ascii (.record (f.toRecord time))) =
      some (.record (f.toRecord time)) := by
  have hspace : "".toList.all Json.isSpace = true := by decide
  have hread := Json.read?_render .ascii (.record (f.toRecord time)) hspace
  rwa [String.append_empty] at hread

theorem plain_render_toRecord (f : Failure) (time : Timestamp) :
    ∀ c ∈ (Json.render .ascii (.record (f.toRecord time))).toList,
      c = '\n' ∨ 0x20 ≤ c.toNat ∧ c.toNat < 0x7f := by
  intro c hc
  rw [Json.render, String.toList_ofList] at hc
  have hplain := Json.plain_value (.record (f.toRecord time)) 0
  exact Json.isPlain_iff.mp (List.all_eq_true.mp hplain c hc)

/-- A failure has a JSON text exactly if no whole number of its context has too many digits. The
text has only printable characters of ASCII and ends of lines, and it is read as the six entries of
the failure's record, in order and with everything in them as it is. A character that is too large
for one escape is written as those of a high and a low surrogate. -/
theorem toJson_lossless (f : Failure) (time : Timestamp) :
    ((∃ text, f.toJson time = .ok text) ↔
      ∀ n ∈ (Value.record f.context).integers, n.natAbs < 10 ^ digitLimit) ∧
    (∀ text, f.toJson time = .ok text →
      (∀ c ∈ text.toList, c = '\n' ∨ 0x20 ≤ c.toNat ∧ c.toNat < 0x7f) ∧
      Json.read? text = some (.record (f.toRecord time))) ∧
    f.toRecord time =
      [("error_type", .text f.kind.name), ("error_code", .text f.code),
        ("message", .text f.message), ("token", (f.token.map Value.text).getD .null),
        ("context", .record f.context), ("timestamp", .text time.text)] ∧
    ∀ c : Char, 0x10000 ≤ c.toNat → ∃ high low,
      Json.char .ascii c = Json.hexEscape high ++ Json.hexEscape low ∧
        (0xd800 ≤ high ∧ high < 0xdc00) ∧ (0xdc00 ≤ low ∧ low < 0xe000) ∧
        0x10000 + 0x400 * (high - 0xd800) + (low - 0xdc00) = c.toNat := by
  refine ⟨?_, ?_, toRecord_eq f time, ?_⟩
  · constructor
    · rintro ⟨text, h⟩
      exact (toJson_eq_ok_iff.mp h).1
    · intro h
      exact ⟨_, toJson_of_writable h⟩
  · intro text h
    obtain ⟨-, rfl⟩ := toJson_eq_ok_iff.mp h
    exact ⟨plain_render_toRecord f time, read?_render_toRecord f time⟩
  · intro c hc
    obtain ⟨high, low, hchar, hhigh, hlow, hcode⟩ := Json.char_surrogates hc
    simp only [Json.isHighSurrogate, Json.isLowSurrogate, Bool.and_eq_true,
      decide_eq_true_eq] at hhigh hlow
    exact ⟨high, low, hchar, hhigh, hlow, hcode⟩

/-- The least whole number with too many digits is not written. Two codes of a pair of surrogates,
one after the other, are escaped as the one character that the pair stands for. -/
theorem toJson_of_unwritable :
    let f : Failure := ⟨.invalidNumber "x", [("n", .integer (10 ^ digitLimit))]⟩
    f.toJson ⟨2000, 1, 2, 3, 4, 5, 678901⟩ = .error .tooManyDigits ∧
      Json.escape 0xd83d ++ Json.escape 0xde00 = Json.escape 0x1f600 := by
  intro f
  have hcontext : f.context = [("n", .integer (10 ^ digitLimit)), ("token", .text "x")] := rfl
  refine ⟨toJson_of_not_writable fun h => ?_, by decide⟩
  have hmem : (10 ^ digitLimit : ℤ) ∈ (Value.record f.context).integers := by
    rw [hcontext, Value.integers, integersOfEntries, Value.integers]
    exact List.mem_cons_self
  have hten : (10 : ℤ).natAbs = 10 := rfl
  have hlt := h _ hmem
  rw [Int.natAbs_pow, hten] at hlt
  exact lt_irrefl _ hlt

end SIUnits.Failure
