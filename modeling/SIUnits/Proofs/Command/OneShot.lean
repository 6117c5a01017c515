import SIUnits.Proofs.Command.Logging
import SIUnits.Proofs.Conversion.Answer
import SIUnits.Proofs.Conversion.Totality
import SIUnits.Proofs.Failure.Record

/-! The conversion of one query from the command line. Its arguments are a query and the request for
JSON before or after it (`Command.Request.ofArguments?_query`), and the exit code and the output
depend on nothing but these and the console (`Command.shown_convert`). Text and JSON tell the same:
they come with one exit code, and what the JSON is read as is the result that the text shows or the
failure that it complains about (`Command.shown_query`). -/
namespace SIUnits.Command

/-- The text can stand for a query on the command line: it is none of the options of the conversion,
and it does not give one of them a value. -/
structure IsQuery (q : String) : Prop where
  ne_dashes : q ≠ "--"
  ne_json : q ≠ "--json"
  ne_help : q ≠ "--help"
  not_jsonValue : ¬"--json=".toList <+: q.toList
  not_helpValue : ¬"--help=".toList <+: q.toList

theorem IsQuery.not_isRefused {q : String} (h : IsQuery q) : isRefused q = false := by
  rw [← Bool.not_eq_true]
  simp only [isRefused, Bool.or_eq_true, decide_eq_true_eq, List.isPrefixOf_iff_prefix, not_or]
  exact ⟨⟨h.ne_help, h.not_jsonValue⟩, h.not_helpValue⟩

theorem takeRequest_cons {q : String} (h : IsQuery q) (json : Bool) (rest : List String) :
    takeRequest json (q :: rest) =
      (takeRequest json rest).map fun taken => (taken.1, q :: taken.2) := by
  simp only [takeRequest, if_neg h.ne_dashes, if_neg h.ne_json, h.not_isRefused, Bool.false_eq_true,
    if_false]

/-- A query asks for text, or for JSON where that is asked for on either side of it. -/
theorem Request.ofArguments?_query {q : String} (h : IsQuery q) :
    ofArguments? [q] = some ⟨q, false⟩ ∧ ofArguments? ["--json", q] = some ⟨q, true⟩ ∧
      ofArguments? [q, "--json"] = some ⟨q, true⟩ := by
  have htext : takeRequest false [q] = some (false, [q]) := takeRequest_cons h false []
  have hbefore : takeRequest false ["--json", q] = some (true, [q]) := takeRequest_cons h true []
  have hafter : takeRequest false [q, "--json"] = some (true, [q]) :=
    takeRequest_cons h false ["--json"]
  simp only [ofArguments?, htext, hbefore, hafter, and_self]

/-- After two dashes any text is a query. -/
theorem Request.ofArguments?_dashes (q : String) : ofArguments? ["--", q] = some ⟨q, false⟩ := by
  simp [ofArguments?, takeRequest]

theorem read?_jsonLine (entries : Entries) :
    Json.read? (jsonLine entries) = some (.record entries) :=
  Json.read?_render .unicode (.record entries) (by decide)

/-- The three runs that convert a query end with one exit code. Asked for text the conversion shows
one, and asked for JSON in either place a document that is read as one record. -/
structure Shows (s : Surroundings) (q : String) (exit : Nat) (text : String) (record : Entries) :
    Prop where
  asText : shown s ["convert", q] = .ok (exit, text)
  asJson : ∃ document, shown s ["convert", "--json", q] = .ok (exit, document) ∧
    shown s ["convert", q, "--json"] = .ok (exit, document) ∧
    Json.read? document = some (.record record)

section Shown

variable (console : Console) (names : Log.Names) (env : Environment) (input : String)
  (now : Timestamp) (logTime : String)

/-- What a conversion shows is up to its request. -/
theorem shown_convert {args : List String} {request : Request}
    (h : Request.ofArguments? args = some request) :
    shown (atStart console names env input now logTime) ("convert" :: args) =
      .ok (convertEffect console request now).shown := by
  have hinvocation : Invocation.ofArguments? ("convert" :: args) =
      some ⟨⟨false, false⟩, some .convert, args⟩ := by
    have hoption : isOption "convert" = false := by decide
    simp [Invocation.ofArguments?, takeOptions, hoption, Name.ofString?]
  rw [shown_eq, hinvocation]
  simp [shownOf, Invocation.isSession, effect?, h, atStart, Except.map]

theorem shown_convertEffect_of_ok (request : Request) {r : Conversion}
    (h : (convertLine (Text.strip request.query)).result = .ok r) :
    (convertEffect console request now).shown =
      (0, if request.json then jsonLine r.toFields else console.line r.text) := by
  simp only [convertEffect, h, Effect.shown]

theorem shown_convertEffect_of_failure (request : Request) {f : Failure}
    (h : (convertLine (Text.strip request.query)).result = .error (.failure f)) :
    (convertEffect console request now).shown =
      (1, if request.json then jsonLine (f.toRecord now) else Session.complaint console f) := by
  simp only [convertEffect, h, Effect.shown]

variable {q : String} {exit : Nat} {text : String} {entries : Entries}

theorem shows_of_convertEffect (h : IsQuery q) (heffect : ∀ json,
    (convertEffect console ⟨q, json⟩ now).shown =
      (exit, if json then jsonLine entries else text)) :
    Shows (atStart console names env input now logTime) q exit text entries := by
  obtain ⟨htext, hbefore, hafter⟩ := Request.ofArguments?_query h
  refine ⟨?_, jsonLine entries, ?_, ?_, read?_jsonLine entries⟩
  · rw [shown_convert console names env input now logTime htext, heffect,
      if_neg Bool.false_ne_true]
  · rw [shown_convert console names env input now logTime hbefore, heffect, if_pos rfl]
  · rw [shown_convert console names env input now logTime hafter, heffect, if_pos rfl]

end Shown

/-- A query that can be given is answered in both forms, and one command line says no more than the
other. The conversion of the query succeeds, with exit code zero, the fields of the result as JSON,
and a text whose last number is read as the very quantity among the fields; or it fails, with exit
code one, the record of the failure as JSON, and its message after the heading. Of the console this
takes only that it shows plain texts as they are. -/
theorem shown_query {console : Console} (hconsole : console.Literal) (names : Log.Names)
    (env : Environment) (input : String) (now : Timestamp) (logTime : String) {q : String}
    (h : IsQuery q) :
    (∃ r v, (convertLine (Text.strip q)).result = .ok r ∧
      r.text = r.query.quantityText ++ " " ++ r.query.sourceUnit ++ " = " ++ v ++ " " ++ r.unit ∧
      (Decimal.Literal.ofString? v).map Decimal.Literal.toBinary64 = some r.quantity ∧
      Shows (atStart console names env input now logTime) q 0 (r.text ++ "\n")
        [("quantity", .number r.quantity), ("unit", .text r.unit),
          ("query", .record
            [("quantity", .number r.query.quantity),
              ("quantity_text", .text r.query.quantityText),
              ("source_unit", .text r.query.sourceUnit),
              ("target_unit", .text r.query.targetUnit)])]) ∨
    ∃ f, (convertLine (Text.strip q)).result = .error (.failure f) ∧
      Shows (atStart console names env input now logTime) q 1
        (console.announce Session.errorHeading ++ console.line f.message)
        [("error_type", .text f.kind.name), ("error_code", .text f.code),
          ("message", .text f.message), ("token", (f.token.map Value.text).getD .null),
          ("context", .record f.context), ("timestamp", .text now.text)] := by
  rcases convertLine_cases (Text.strip q) with ⟨r, hr, -, z, hz⟩ | ⟨f, hf⟩
  · left
    have hquantity : (Decimal.Literal.ofString? r.quantity.text).map Decimal.Literal.toBinary64 =
        some r.quantity := by
      rw [hz, Binary64.ofString?_text, Option.map_some, Binary64.toBinary64_literal]
    refine ⟨r, r.quantity.text, hr, rfl, hquantity, ?_⟩
    rw [← (Conversion.answers_of_convertLine hr).line_text hconsole]
    exact shows_of_convertEffect console names env input now logTime h
      fun json => shown_convertEffect_of_ok console now ⟨q, json⟩ hr
  · right
    refine ⟨f, hf, ?_⟩
    rw [← f.toRecord_eq now]
    exact shows_of_convertEffect console names env input now logTime h
      fun json => shown_convertEffect_of_failure console now ⟨q, json⟩ hf

/-- Below zero by its sign only, and not taken for an option. -/
theorem shown_query_negativeZero : IsQuery "-0 kg = g" ∧ Console.bare.Literal ∧
    ∃ r, (convertLine (Text.strip "-0 kg = g")).result = .ok r ∧
      Shows (atStart .bare (fun _ => none) .empty "" ⟨2000, 1, 2, 3, 4, 5, 0⟩ "") "-0 kg = g" 0
        "-0 kg = 0.0 g\n" r.toFields := by
  have hquery : IsQuery "-0 kg = g" :=
    ⟨by decide, by decide, by decide, by decide, by decide⟩
  have hconsole : Console.bare.Literal := fun _ _ => rfl
  obtain ⟨r, hr, htext⟩ : ∃ r, (convertLine (Text.strip "-0 kg = g")).result = .ok r ∧
      r.text = "-0 kg = 0.0 g" :=
    Conversion.exists_of_text (by decide +kernel)
  refine ⟨hquery, hconsole, ?_⟩
  rcases shown_query hconsole (fun _ => none) .empty "" ⟨2000, 1, 2, 3, 4, 5, 0⟩ "" hquery with
    ⟨r', -, hr', -, -, hshows⟩ | ⟨f, hf, -⟩
  · obtain rfl : r = r' := Except.ok.inj (hr.symm.trans hr')
    rw [htext] at hshows
    exact ⟨r, hr, hshows⟩
  · rw [hf] at hr
    cases hr

end SIUnits.Command
