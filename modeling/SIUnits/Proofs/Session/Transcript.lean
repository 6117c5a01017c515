import SIUnits.Command.Run
import SIUnits.Proofs.Conversion.Answer
import SIUnits.Proofs.Conversion.Totality

/-! What a session shows on a console that shows its prompt. Every line up to the one that stops it
is answered by itself, after a prompt of its own (`Session.answerAll_append`), so a session is its
opening, these answers, a last prompt and the farewell (`Session.run_answers`). -/
namespace SIUnits.Session

/-- The line ends a session: without the white space around it, it is the quit token, and it is not
empty. -/
def Stops (settings : Settings) (line : String) : Prop :=
  Text.strip line ≠ "" ∧ Text.strip line = settings.quitToken

instance (settings : Settings) (line : String) : Decidable (Stops settings line) :=
  inferInstanceAs (Decidable (_ ∧ _))

/-- What may be shown after the prompt for a line that does not stop the session. -/
inductive Replies (console : Console) (line : String) : String → Prop where
  | blank (h : Text.strip line = "") : Replies console line ""
  | result (h : Text.strip line ≠ "") {r : Conversion}
      (hr : (convertLine (Text.strip line)).result = .ok r) :
      Replies console line (console.line r.text)
  | failure (h : Text.strip line ≠ "") {f : Failure}
      (hf : (convertLine (Text.strip line)).result = .error (.failure f)) :
      Replies console line (console.announce errorHeading ++ console.line f.message)

/-- What is shown for a line that does not stop the session, whatever the other lines are. -/
def reply (console : Console) (line : String) : String :=
  if Text.strip line = "" then ""
  else match (convertLine (Text.strip line)).result with
    | .ok r => console.line r.text
    | .error (.failure f) => complaint console f
    | .error _ => ""

variable {console : Console} {settings : Settings} {prompt line z : String}

theorem reply_of_blank (h : Text.strip line = "") : reply console line = "" := by
  simp only [reply, if_pos h]

theorem reply_of_ok (h : Text.strip line ≠ "") {r : Conversion}
    (hr : (convertLine (Text.strip line)).result = .ok r) :
    reply console line = console.line r.text := by
  simp only [reply, if_neg h, hr]

theorem reply_of_failure (h : Text.strip line ≠ "") {f : Failure}
    (hf : (convertLine (Text.strip line)).result = .error (.failure f)) :
    reply console line = complaint console f := by
  simp only [reply, if_neg h, hf]

theorem replies_reply (console : Console) (line : String) :
    Replies console line (reply console line) := by
  by_cases h : Text.strip line = ""
  · rw [reply_of_blank h]
    exact .blank h
  · rcases convertLine_cases (Text.strip line) with ⟨r, hr, -⟩ | ⟨f, hf⟩
    · rw [reply_of_ok h hr]
      exact .result h hr
    · rw [reply_of_failure h hf]
      exact .failure h hf

/-- A result is shown as it is on a console that does so with plain texts. -/
theorem reply_of_literal (hconsole : console.Literal) (h : Text.strip line ≠ "") {r : Conversion}
    (hr : (convertLine (Text.strip line)).result = .ok r) :
    reply console line = r.text ++ "\n" := by
  rw [reply_of_ok h hr]
  exact (Conversion.answers_of_convertLine hr).line_text hconsole

/-! ### One line -/

theorem respond_of_stops (h : Stops settings line) : respond settings line = .stop := by
  simp only [respond, if_neg h.1, if_pos h.2]

theorem respond_of_blank (h : Text.strip line = "") : respond settings line = .skipped := by
  simp only [respond, if_pos h]

/-- A line that is neither blank nor the quit token is answered. -/
theorem respond_of_query (hblank : Text.strip line ≠ "")
    (hquit : Text.strip line ≠ settings.quitToken) (console : Console) :
    ∃ records o, respond settings line = .answered records o ∧
      answer console o = reply console line := by
  unfold respond
  simp only [if_neg hblank, if_neg hquit]
  rcases convertLine_cases (Text.strip line) with ⟨r, hr, -⟩ | ⟨f, hf⟩
  · rw [Outcome.ofLine_of_ok hr, reply_of_ok hblank hr]
    exact ⟨_, _, rfl, rfl⟩
  · rw [Outcome.ofLine_of_failure hf, reply_of_failure hblank hf]
    exact ⟨_, _, rfl, rfl⟩

theorem respond_eq_stop_iff : respond settings line = .stop ↔ Stops settings line := by
  constructor
  · intro h
    by_cases hblank : Text.strip line = ""
    · rw [respond_of_blank hblank] at h
      cases h
    · refine ⟨hblank, ?_⟩
      by_contra hquit
      obtain ⟨_, _, hanswered, -⟩ := respond_of_query hblank hquit .bare
      rw [hanswered] at h
      cases h
  · exact respond_of_stops

theorem turn_of_stops (h : Stops settings line) :
    turn console settings line = .ends ⟨console.announce farewell, [], .finished⟩ := by
  simp only [turn, respond_of_stops h]

theorem turn_of_not_stops (h : ¬ Stops settings line) :
    ∃ records, turn console settings line = .goesOn (reply console line) records := by
  unfold turn
  by_cases hblank : Text.strip line = ""
  · rw [respond_of_blank hblank, reply_of_blank hblank]
    exact ⟨[], rfl⟩
  · obtain ⟨records, o, hanswered, hanswer⟩ :=
      respond_of_query hblank (fun hquit => h ⟨hblank, hquit⟩) console
    rw [hanswered, ← hanswer]
    exact ⟨records, rfl⟩

/-! ### All lines -/

theorem Transcript.after_after (t : Transcript) (later earlier : String)
    (records records' : List Log.Record) :
    (t.after later records).after earlier records' =
      t.after (earlier ++ later) (records' ++ records) := by
  simp only [after, String.append_assoc, List.append_assoc]

/-- The prompt for a line and the reply to it. -/
def exchange (console : Console) (prompt line : String) : String := prompt ++ reply console line

theorem answerAll_cons_of_stops (h : Stops settings z) (rest : List String) :
    answerAll console settings prompt (z :: rest) =
      ⟨prompt ++ console.announce farewell, [], .finished⟩ := by
  simp only [answerAll, turn_of_stops h, Transcript.after, List.nil_append]

/-- What a line adds to the transcript does not depend on the lines after it. -/
theorem answerAll_cons_of_not_stops (h : ¬ Stops settings line) : ∃ records, ∀ rest,
    answerAll console settings prompt (line :: rest) =
      (answerAll console settings prompt rest).after (exchange console prompt line) records := by
  obtain ⟨records, hturn⟩ : ∃ records,
      turn console settings line = .goesOn (reply console line) records := turn_of_not_stops h
  exact ⟨records, fun rest => by simp only [answerAll, hturn, exchange]⟩

theorem answerAll_append {xs : List String} (h : ∀ x ∈ xs, ¬ Stops settings x) :
    ∃ records, ∀ rest, answerAll console settings prompt (xs ++ rest) =
      (answerAll console settings prompt rest).after
        (String.join (xs.map (exchange console prompt))) records := by
  induction xs with
  | nil => exact ⟨[], fun rest => by simp [Transcript.after]⟩
  | cons x xs ih =>
    obtain ⟨first, hfirst⟩ := answerAll_cons_of_not_stops (h x List.mem_cons_self)
    obtain ⟨later, hlater⟩ := ih fun y hy => h y (List.mem_cons_of_mem _ hy)
    refine ⟨first ++ later, fun rest => ?_⟩
    rw [List.cons_append, hfirst, hlater, Transcript.after_after, List.map_cons, String.join_cons]

/-- Nothing after the line that stops the session is looked at. -/
theorem answerAll_append_stop (h : Stops settings z) (xs ys : List String) :
    answerAll console settings prompt (xs ++ z :: ys) =
      answerAll console settings prompt (xs ++ [z]) := by
  induction xs with
  | nil => rw [List.nil_append, List.nil_append, answerAll_cons_of_stops h,
      answerAll_cons_of_stops h]
  | cons x xs ih =>
    by_cases hx : Stops settings x
    · rw [List.cons_append, List.cons_append, answerAll_cons_of_stops hx,
        answerAll_cons_of_stops hx]
    · obtain ⟨records, hstep⟩ := answerAll_cons_of_not_stops hx
      rw [List.cons_append, List.cons_append, hstep, hstep, ih]

/-- The lines that are answered: those before the one that stops the session. -/
def answered (settings : Settings) (lines : List String) : List String :=
  lines.takeWhile fun line => ¬ Stops settings line

theorem not_stops_of_mem_answered {lines : List String} (h : line ∈ answered settings lines) :
    ¬ Stops settings line := by
  simpa using List.all_eq_true.mp List.all_takeWhile line h

/-- After the answers there is only one more prompt and the farewell, whether a line stops the
session or the input ends. -/
theorem exists_ending (console : Console) (settings : Settings) (prompt : String)
    (lines : List String) :
    ∃ rest, lines = answered settings lines ++ rest ∧
      (answerAll console settings prompt rest).output = prompt ++ console.announce farewell ∧
      (answerAll console settings prompt rest).ending = .finished := by
  refine ⟨_, List.takeWhile_append_dropWhile.symm, ?_⟩
  cases hrest : lines.dropWhile fun line => ¬ Stops settings line with
  | nil => exact ⟨rfl, rfl⟩
  | cons z ys =>
    have hz : Stops settings z := by
      have hhead := List.head?_dropWhile_not (fun line => ¬ Stops settings line) lines
      rw [hrest] at hhead
      simpa using hhead
    rw [answerAll_cons_of_stops hz]
    exact ⟨rfl, rfl⟩

section Prompted

variable (h : console.prompt settings.prompt = .ok prompt)
include h

theorem run_of_prompt (lines : List String) : run console settings lines =
    (answerAll console settings prompt lines).after (opening console settings) [] := by
  simp only [run, h]

theorem run_eq (lines : List String) :
    (run console settings lines).ending = .finished ∧
      (run console settings lines).output = opening console settings ++
        String.join ((answered settings lines).map (exchange console prompt)) ++
        prompt ++ console.announce farewell := by
  obtain ⟨rest, hlines, houtput, hending⟩ := exists_ending console settings prompt lines
  obtain ⟨records, hbody⟩ := answerAll_append
    fun x hx => not_stops_of_mem_answered hx
  have hall : answerAll console settings prompt lines = _ := hlines ▸ hbody rest
  rw [run_of_prompt h, hall, Transcript.after_after]
  exact ⟨hending, by simp only [Transcript.after, houtput, String.append_assoc]⟩

end Prompted

section Command

variable {s : Command.Surroundings} {i : Command.Invocation}
  (h : console.prompt settings.prompt = .ok prompt) (hi : i.isSession = true)
  (hconsole : s.console = console)
include h hi hconsole

theorem effect?_of_isSession : Command.effect? settings s i =
    .ok (some ⟨0, (run console settings (Text.lines s.input)).output,
      (run console settings (Text.lines s.input)).records⟩) := by
  have hversion := Command.Invocation.showVersion_of_isSession hi
  have hending := (run_eq h (Text.lines s.input)).1
  unfold Command.effect? Command.sessionEffect
  rw [hversion, if_neg Bool.false_ne_true, if_pos hi, hconsole]
  simp only [hending]
  rfl

/-- A command that runs a session exits with zero and shows what the session shows. -/
theorem run_command {args : List String} {channel : Log.Channel}
    (hargs : Command.Invocation.ofArguments? args = some i)
    (hsettings : (Command.settingsOf s).1 = settings)
    (hlevel : Log.Channel.ofLevel s.logNames i.options.verbose settings.logLevel = .ok channel) :
    ∃ diagnostics, Command.run s args =
      .ok ⟨0, (run console settings (Text.lines s.input)).output, diagnostics⟩ := by
  have hchannel := Command.channelFor_of_level hlevel
  have heffect := effect?_of_isSession h hi hconsole
  unfold Command.run
  simp only [hargs, hsettings, hchannel, heffect]
  exact ⟨_, rfl⟩

end Command

/-- What a session shows on a console that shows its prompt, whatever its settings and its lines
are: the welcome, the instructions if they are asked for, for each line before the first that stops
it a prompt and the reply to that line alone, and in the end one more prompt and the farewell. So
the lines after the one that stops the session have no influence, and without such a line the end of
the input does the same. A command that runs a session exits with zero if its logging can be set
up. -/
theorem run_answers {console : Console} {settings : Settings} {prompt : String}
    (hprompt : console.prompt settings.prompt = .ok prompt) :
    (∀ lines, (run console settings lines).ending = .finished ∧
      (run console settings lines).output =
        console.announce welcome ++
          (if settings.showInstructions then console.line ("\n" ++ instructions settings.quitToken)
            else "") ++
          String.join ((lines.takeWhile fun line => ¬ Stops settings line).map fun line =>
            prompt ++ reply console line) ++
          prompt ++ console.announce farewell) ∧
    (∀ line, Replies console line (reply console line)) ∧
    (console.Literal → ∀ line r, Text.strip line ≠ "" →
      (convertLine (Text.strip line)).result = .ok r → reply console line = r.text ++ "\n") ∧
    (∀ xs ys z, Stops settings z →
      run console settings (xs ++ z :: ys) = run console settings (xs ++ [z])) ∧
    (∀ xs z, (∀ x ∈ xs, ¬ Stops settings x) → Stops settings z →
      (run console settings (xs ++ [z])).output = (run console settings xs).output) ∧
    ∀ (s : Command.Surroundings) args i channel,
      Command.Invocation.ofArguments? args = some i → i.isSession = true →
      s.console = console → (Command.settingsOf s).1 = settings →
      Log.Channel.ofLevel s.logNames i.options.verbose settings.logLevel = .ok channel →
      ∃ diagnostics, Command.run s args =
        .ok ⟨0, (run console settings (Text.lines s.input)).output, diagnostics⟩ := by
  refine ⟨?_, replies_reply console, ?_, ?_, ?_, ?_⟩
  · intro lines
    exact run_eq hprompt lines
  · intro hconsole line r hblank hr
    exact reply_of_literal hconsole hblank hr
  · intro xs ys z hz
    rw [run_of_prompt hprompt, run_of_prompt hprompt, answerAll_append_stop hz]
  · intro xs z hxs hz
    obtain ⟨records, hbody⟩ := answerAll_append hxs
    have hend := hbody []
    rw [List.append_nil] at hend
    rw [run_of_prompt hprompt, run_of_prompt hprompt, hbody, hend, answerAll_cons_of_stops hz]
    rfl
  · intro s args i channel hargs hi hconsole hsettings hlevel
    exact run_command hprompt hi hconsole hargs hsettings hlevel

/-- The session goes on after a blank line and a line that is none, and no line after the quit token
is read. -/
theorem run_answers_quit :
    let settings : Settings := ⟨"q", "> ", false, ""⟩
    Console.bare.prompt settings.prompt = .ok "> " ∧
      (run .bare settings ["", "1 kg = g", "kg", " q", "1 g = kg"]).output =
        "\nWelcome to the Metric Unit Converter!\n" ++ "> " ++ "> 1 kg = 1000.0 g\n" ++
          "> Your input is not currently handled by this app.\n" ++
          (Failure.ofCause (.malformedQuery "kg" (some (.integer 1)))).message ++ "\n" ++
          "> \nThank you for using the Metric Unit Converter. Goodbye!\n" := by
  intro settings
  have hprompt : Console.bare.prompt settings.prompt = .ok "> " := rfl
  refine ⟨hprompt, ?_⟩
  rw [((run_answers hprompt).1 _).2]
  decide +kernel

/-- Settings with an empty quit token. -/
def blankQuit : Settings := ⟨"", "> ", false, ""⟩

/-- An empty quit token stops no session, although a blank line is equal to it once stripped. -/
theorem run_of_blankQuit :
    Text.strip "" = blankQuit.quitToken ∧
    (run .bare blankQuit [""]).output =
      Console.bare.announce welcome ++ "> > " ++ Console.bare.announce farewell ∧
    (run .bare blankQuit [""]).output ≠ opening .bare blankQuit ++
      String.join (([""].takeWhile fun line => Text.strip line ≠ blankQuit.quitToken).map
        (exchange .bare "> ")) ++ "> " ++ Console.bare.announce farewell := by
  refine ⟨?_, ?_, ?_⟩ <;> decide +kernel

end SIUnits.Session
