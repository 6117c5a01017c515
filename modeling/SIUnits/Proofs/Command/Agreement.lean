import SIUnits.Proofs.Command.OneShot
import SIUnits.Proofs.Session.QuitToken

/-! A session and the conversion of one query agree. A line that can be converted has no white space
but the spaces between its parts (`Conversion.Answers.eq_space_of_isBlank`), so it is a line of the
input as it stands, stripping leaves it alone, and it is no quit token that the environment can set,
as there is a space in it. So no such line is lost, and every line that is neither blank nor the
quit token is answered in the same words both ways (`Command.answered_both_ways`). -/
namespace SIUnits

open Text (IsLineEnd isBlank)

theorem PrefixedUnit.not_isBlank_of_resolve {token : String} {u : PrefixedUnit}
    (h : (resolve token).result = .ok u) : ∀ c ∈ token.toList, isBlank c = false := by
  have hall := all_of_resolve (P := fun c => !isBlank c) (by decide)
    (fun root => by cases root <;> decide) h
  simpa using hall

theorem Query.not_isBlank_of_quantityOf {n : String} {x : Binary64} (h : quantityOf n = .ok x) :
    ∀ c ∈ n.toList, isBlank c = false := by
  have hall := all_of_quantityOf (P := fun c => !isBlank c) (by decide) h
  simpa using hall

theorem Query.ne_empty_of_quantityOf {n : String} {x : Binary64} (h : quantityOf n = .ok x) :
    n ≠ "" := by
  rintro rfl
  rw [quantityOf_of_not_literal (by decide)] at h
  cases h

theorem Text.not_isBlank_of_isLineEnd {c : Char} (h : IsLineEnd c) : isBlank c = true := by
  rcases h with rfl | rfl <;> decide

namespace Conversion.Answers

variable {r : Conversion} {line : String}

/-- The only white space in the line of a result is the space. -/
theorem eq_space_of_isBlank (h : r.Answers line) :
    ∀ c ∈ line.toList, isBlank c = true → c = ' ' := by
  obtain ⟨u, hu⟩ := h.source
  obtain ⟨v, hv⟩ := h.target
  have hseparator : isBlank '=' = false := by decide
  intro c hc hblank
  have hne : isBlank c ≠ false := by simp [hblank]
  rw [← h.line_eq, queryLine] at hc
  simp only [String.toList_append, List.mem_append] at hc
  rcases hc with (((hc | hc) | hc) | hc) | hc
  · exact absurd (Query.not_isBlank_of_quantityOf h.number c hc) hne
  · exact List.mem_singleton.mp hc
  · exact absurd (PrefixedUnit.not_isBlank_of_resolve hu c hc) hne
  · have hmem : c = ' ' ∨ c = '=' ∨ c = ' ' := by simpa using hc
    rcases hmem with rfl | rfl | rfl
    · rfl
    · exact absurd hseparator hne
    · rfl
  · exact absurd (PrefixedUnit.not_isBlank_of_resolve hv c hc) hne

theorem not_isLineEnd (h : r.Answers line) : ∀ c ∈ line.toList, ¬IsLineEnd c := by
  intro c hc hend
  obtain rfl := h.eq_space_of_isBlank c hc (Text.not_isBlank_of_isLineEnd hend)
  revert hend
  decide

/-- The line starts with its number and ends with a unit, and there is white space in neither. -/
theorem strip_line (h : r.Answers line) : Text.strip line = line := by
  obtain ⟨v, hv⟩ := h.target
  have hnumber : r.query.quantityText.toList ≠ [] :=
    fun hnil => Query.ne_empty_of_quantityOf h.number (String.toList_eq_nil_iff.mp hnil)
  have htarget : r.query.targetUnit.toList ≠ [] :=
    fun hnil => PrefixedUnit.ne_empty_of_resolve hv (String.toList_eq_nil_iff.mp hnil)
  have hline : line.toList = r.query.quantityText.toList ++
      ((" " ++ r.query.sourceUnit ++ " = ").toList ++ r.query.targetUnit.toList) := by
    rw [← h.line_eq, queryLine]
    simp
  apply Text.strip_eq_self
  · intro c hc
    rw [hline, List.head?_append_of_ne_nil _ hnumber] at hc
    exact Query.not_isBlank_of_quantityOf h.number c (List.mem_of_mem_head? hc)
  · intro c hc
    rw [hline, List.getLast?_append_of_ne_nil _ (by simp),
      List.getLast?_append_of_ne_nil _ htarget] at hc
    exact PrefixedUnit.not_isBlank_of_resolve hv c (List.mem_of_mem_getLast? hc)

theorem space_mem_line (h : r.Answers line) : ' ' ∈ line.toList := by
  rw [← h.line_eq, queryLine]
  simp

/-- No quit token that the environment sets is the line of a result. -/
theorem ne_quitToken (h : r.Answers line) (env : Environment) :
    line ≠ (Settings.ofEnvironment env).1.quitToken := by
  intro hquit
  have htoken := (Settings.readQuitToken_spec (env Settings.quitVariable)).1
  rw [← Settings.quitToken_ofEnvironment, ← hquit] at htoken
  exact (Settings.isQuitToken_iff.mp htoken).2 h.space_mem_line

theorem ne_empty (h : r.Answers line) : line ≠ "" := by
  rintro rfl
  cases h.space_mem_line

end Conversion.Answers

namespace Session

variable {console : Console} {settings : Settings} {prompt line : String}

/-- The session that is given one line and then no more. -/
theorem output_run_singleton (hprompt : console.prompt settings.prompt = .ok prompt)
    (h : ¬Stops settings line) :
    (run console settings [line]).output = opening console settings ++ prompt ++
      reply console line ++ prompt ++ console.announce farewell := by
  have hanswered : answered settings [line] = [line] :=
    List.takeWhile_cons_of_pos (by simpa using h)
  rw [(run_eq hprompt [line]).2, hanswered]
  simp [exchange, String.append_assoc]

end Session

namespace Command

/-- The command lines that start a session. -/
def sessionForms : List (List String) := [[], ["repl"]]

section Answered

variable (console : Console) (names : Log.Names) (env : Environment) (now : Timestamp)
  (logTime prompt : String)

/-- The line is answered with the output and the exit code by the command for one query, and with
the same output by a session: whenever it is read, and between two prompts where it is all the
input. -/
structure Answered (line : String) (exit : Nat) (output : String) : Prop where
  oneShot : ∀ input, shown (atStart console names env input now logTime) ["convert", "--", line] =
    .ok (exit, output)
  respond : ∃ records o, Session.respond (Settings.ofEnvironment env).1 line =
    .answered records o ∧ Session.answer console o = output
  session : ∀ args ∈ sessionForms,
    shown (atStart console names env (line ++ "\n") now logTime) args =
      .ok (0, Session.opening console (Settings.ofEnvironment env).1 ++ prompt ++ output ++
        prompt ++ console.announce Session.farewell)

variable {console env prompt}
  (hprompt : console.prompt (Settings.ofEnvironment env).1.prompt = .ok prompt)
include hprompt

theorem shown_session (input : String) {args : List String} (hargs : args ∈ sessionForms) :
    shown (atStart console names env input now logTime) args =
      .ok (0, (Session.run console (Settings.ofEnvironment env).1 (Text.lines input)).output) := by
  obtain ⟨i, hi, hsession⟩ : ∃ i, Invocation.ofArguments? args = some i ∧
      i.isSession = true := by
    simp only [sessionForms, List.mem_cons, List.not_mem_nil, or_false] at hargs
    rcases hargs with rfl | rfl
    · exact ⟨⟨⟨false, false⟩, none, []⟩, by decide, by decide⟩
    · exact ⟨⟨⟨false, false⟩, some .repl, []⟩, by decide, by decide⟩
  have heffect := Session.effect?_of_isSession hprompt hsession
    (show (atStart console names env input now logTime).console = console from rfl)
  rw [shown_eq, hi, Option.map_some, Option.getD_some, shownOf, heffect]
  rfl

variable {line : String} {exit : Nat}

theorem answered_of_shown (hline : ∀ c ∈ line.toList, ¬IsLineEnd c)
    (hblank : Text.strip line ≠ "")
    (hquit : Text.strip line ≠ (Settings.ofEnvironment env).1.quitToken)
    (hshown : (convertEffect console ⟨line, false⟩ now).shown =
      (exit, Session.reply console line)) :
    Answered console names env now logTime prompt line exit (Session.reply console line) where
  oneShot input := by
    rw [shown_convert console names env input now logTime (Request.ofArguments?_dashes line),
      hshown]
  respond := Session.respond_of_query hblank hquit console
  session args hargs := by
    rw [shown_session names now logTime hprompt _ hargs, Text.lines_lineFeed hline,
      Session.output_run_singleton hprompt fun hstops => hquit hstops.2]

theorem answered_of_ok (hconsole : console.Literal) (hline : ∀ c ∈ line.toList, ¬IsLineEnd c)
    (hblank : Text.strip line ≠ "")
    (hquit : Text.strip line ≠ (Settings.ofEnvironment env).1.quitToken) {r : Conversion}
    (hr : (convertLine (Text.strip line)).result = .ok r) :
    Answered console names env now logTime prompt line 0 (r.text ++ "\n") := by
  rw [← Session.reply_of_literal hconsole hblank hr]
  apply answered_of_shown names now logTime hprompt hline hblank hquit
  rw [shown_convertEffect_of_ok console now ⟨line, false⟩ hr, Session.reply_of_ok hblank hr,
    if_neg Bool.false_ne_true]

theorem answered_of_failure (hline : ∀ c ∈ line.toList, ¬IsLineEnd c)
    (hblank : Text.strip line ≠ "")
    (hquit : Text.strip line ≠ (Settings.ofEnvironment env).1.quitToken) {f : Failure}
    (hf : (convertLine (Text.strip line)).result = .error (.failure f)) :
    Answered console names env now logTime prompt line 1 (Session.complaint console f) := by
  rw [← Session.reply_of_failure hblank hf]
  apply answered_of_shown names now logTime hprompt hline hblank hquit
  rw [shown_convertEffect_of_failure console now ⟨line, false⟩ hf,
    Session.reply_of_failure hblank hf, if_neg Bool.false_ne_true]

end Answered

/-- No line that can be converted is lost, whatever the environment is, on a console that shows its
prompt and plain texts as they are. The line is all its own: stripping leaves it as it is, its only
white space is the space, and a session that reads it neither passes over it nor ends but shows the
text of the result, as does the command for one query. Both show the same for every other line too,
unless it is blank or the quit token. -/
theorem answered_both_ways {console : Console} (hconsole : console.Literal) (names : Log.Names)
    (env : Environment) (now : Timestamp) (logTime : String) {prompt : String}
    (hprompt : console.prompt (Settings.ofEnvironment env).1.prompt = .ok prompt) :
    (∀ line r, (convertLine line).result = .ok r →
      Text.strip line = line ∧ (∀ c ∈ line.toList, isBlank c = true → c = ' ') ∧
      (∀ c ∈ line.toList, ¬IsLineEnd c) ∧
      Answered console names env now logTime prompt line 0 (r.text ++ "\n")) ∧
    ∀ line, (∀ c ∈ line.toList, ¬IsLineEnd c) → Text.strip line ≠ "" →
      Text.strip line ≠ (Settings.ofEnvironment env).1.quitToken →
      ∃ exit output, Answered console names env now logTime prompt line exit output := by
  constructor
  · intro line r hr
    have ha := Conversion.answers_of_convertLine hr
    have hstrip := ha.strip_line
    refine ⟨hstrip, ha.eq_space_of_isBlank, ha.not_isLineEnd, ?_⟩
    apply answered_of_ok names now logTime hprompt hconsole ha.not_isLineEnd
    · rw [hstrip]
      exact ha.ne_empty
    · rw [hstrip]
      exact ha.ne_quitToken env
    · rw [hstrip]
      exact hr
  · intro line hline hblank hquit
    rcases convertLine_cases (Text.strip line) with ⟨r, hr, -⟩ | ⟨f, hf⟩
    · exact ⟨_, _, answered_of_ok names now logTime hprompt hconsole hline hblank hquit hr⟩
    · exact ⟨_, _, answered_of_failure names now logTime hprompt hline hblank hquit hf⟩

/-- The quit token is one of the units of the line. -/
theorem answered_both_ways_kilogram :
    let env := Environment.empty.set Settings.quitVariable "kg"
    Console.bare.Literal ∧
      Console.bare.prompt (Settings.ofEnvironment env).1.prompt = .ok "> " ∧
      (∃ r, (convertLine "1 kg = g").result = .ok r) ∧
      Answered .bare (fun _ => none) env ⟨2000, 1, 2, 3, 4, 5, 0⟩ "" "> " "1 kg = g" 0
        "1 kg = 1000.0 g\n" := by
  intro env
  have hconsole : Console.bare.Literal := fun _ _ => rfl
  have hprompt : Console.bare.prompt (Settings.ofEnvironment env).1.prompt = .ok "> " := rfl
  obtain ⟨r, hr, htext⟩ : ∃ r, (convertLine "1 kg = g").result = .ok r ∧
      r.text = "1 kg = 1000.0 g" :=
    Conversion.exists_of_text (by decide +kernel)
  have hanswered := ((answered_both_ways hconsole (fun _ => none) env
    ⟨2000, 1, 2, 3, 4, 5, 0⟩ "" hprompt).1 _ r hr).2.2.2
  rw [htext] at hanswered
  exact ⟨hconsole, hprompt, ⟨r, hr⟩, hanswered⟩

end Command

end SIUnits
