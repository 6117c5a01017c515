import SIUnits.Proofs.Session.Transcript
import SIUnits.Proofs.Settings.Environment

/-! Quit tokens that the environment sets. What is taken from the environment is stripped and has no
space, but it may hold a line end, and no line of an input does: a session can be ended by such a
line exactly if there is no line end in the token (`Session.canBeTyped_ofEnvironment`). -/
namespace SIUnits

open Text (IsLineEnd)

namespace Session

variable {settings : Settings}

/-- Some line that can be typed ends the session. -/
def CanBeTyped (settings : Settings) : Prop :=
  ∃ line : String, (∀ c ∈ line.toList, ¬ IsLineEnd c) ∧ respond settings line = .stop

theorem not_isLineEnd_of_stops {line : String} (h : Stops settings line)
    (hline : ∀ c ∈ line.toList, ¬ IsLineEnd c) :
    ∀ c ∈ settings.quitToken.toList, ¬ IsLineEnd c := by
  intro c hc
  rw [← h.2] at hc
  exact hline c (Text.mem_of_mem_strip hc)

section Stripped

variable (hne : settings.quitToken ≠ "")
  (hstrip : Text.strip settings.quitToken = settings.quitToken)
include hne hstrip

theorem stops_quitToken : Stops settings settings.quitToken := by
  rw [Stops, hstrip]
  exact ⟨hne, rfl⟩

theorem canBeTyped_iff :
    CanBeTyped settings ↔ ∀ c ∈ settings.quitToken.toList, ¬ IsLineEnd c := by
  constructor
  · rintro ⟨line, hline, hstop⟩
    exact not_isLineEnd_of_stops (respond_eq_stop_iff.mp hstop) hline
  · intro htoken
    exact ⟨_, htoken, respond_of_stops (stops_quitToken hne hstrip)⟩

/-- No input at all ends the session by one of its lines if none can be typed. -/
theorem exists_input_iff :
    (∃ input, ∃ line ∈ Text.lines input, respond settings line = .stop) ↔ CanBeTyped settings := by
  constructor
  · rintro ⟨input, line, hline, hstop⟩
    exact ⟨line, Text.not_isLineEnd_of_mem_lines hline, hstop⟩
  · intro htyped
    have htoken := (canBeTyped_iff hne hstrip).mp htyped
    have hlines := Text.lines_eq_singleton hne htoken
    exact ⟨settings.quitToken, settings.quitToken, by rw [hlines]; exact List.mem_singleton_self _,
      respond_of_stops (stops_quitToken hne hstrip)⟩

end Stripped

/-- The quit token of settings from the environment is not empty, has no space and no white space
around it. A line that can be typed, or any input, ends a session with these settings if and only if
the token has no line end within. -/
theorem canBeTyped_ofEnvironment (env : Environment) :
    (Settings.ofEnvironment env).1.quitToken ≠ "" ∧
    ' ' ∉ (Settings.ofEnvironment env).1.quitToken.toList ∧
    Text.strip (Settings.ofEnvironment env).1.quitToken =
      (Settings.ofEnvironment env).1.quitToken ∧
    (CanBeTyped (Settings.ofEnvironment env).1 ↔
      ∀ c ∈ (Settings.ofEnvironment env).1.quitToken.toList, ¬ IsLineEnd c) ∧
    ((∃ input, ∃ line ∈ Text.lines input,
        respond (Settings.ofEnvironment env).1 line = .stop) ↔
      ∀ c ∈ (Settings.ofEnvironment env).1.quitToken.toList, ¬ IsLineEnd c) := by
  obtain ⟨htoken, hstrip⟩ := Settings.readQuitToken_spec (env Settings.quitVariable)
  rw [← Settings.quitToken_ofEnvironment] at htoken hstrip
  obtain ⟨hne, hspace⟩ := Settings.isQuitToken_iff.mp htoken
  have htyped := canBeTyped_iff hne hstrip
  exact ⟨hne, hspace, hstrip, htyped, (exists_input_iff hne hstrip).trans htyped⟩

/-- A line feed between two letters is taken as it is, without a warning. -/
theorem not_canBeTyped_lineFeed :
    let env := Environment.empty.set Settings.quitVariable "a\nb"
    (Settings.ofEnvironment env).1.quitToken = "a\nb" ∧
      (∀ r ∈ (Settings.ofEnvironment env).2, r.level ≠ .warning) ∧
      ¬ CanBeTyped (Settings.ofEnvironment env).1 := by
  intro env
  have hquit : (Settings.ofEnvironment env).1.quitToken = "a\nb" := by decide +kernel
  refine ⟨hquit, by decide +kernel, ?_⟩
  rintro ⟨line, hline, hstop⟩
  have htoken := not_isLineEnd_of_stops (respond_eq_stop_iff.mp hstop) hline
  rw [hquit] at htoken
  exact htoken '\n' (by decide) (Or.inl rfl)

end Session

end SIUnits
