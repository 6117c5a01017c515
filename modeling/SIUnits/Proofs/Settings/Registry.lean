import Mathlib.Data.List.Induction
import Mathlib.Tactic.ByContra
import SIUnits.Settings.Registry

/-! The settings in force against the history of the registry. What a `get` gives is a matter of the
steps before it alone (`Registry.Due`): the settings that were put in force last, or, if none were
since the last reset, those that the environment asked for at the first `get` since then. Each time
settings are put in force they get a serial number of their own, so it is also known which answers
are the very same settings (`Registry.run_due`). -/
namespace SIUnits.Registry

/-! ### The history of the steps -/

/-- The step leaves the settings in force as they are. -/
def Step.Keeps : Step → Prop
  | .replace _ | .reset => False
  | .setVariable .. | .unsetVariable _ | .get => True

/-- The step only sets or unsets a variable. -/
def Step.IsAssignment : Step → Prop
  | .setVariable .. | .unsetVariable _ => True
  | .replace _ | .reset | .get => False

/-- What a step does to the environment. -/
def Step.onEnvironment (env : Environment) : Step → Environment
  | .setVariable name value => env.set name value
  | .unsetVariable name => env.unset name
  | .replace _ | .reset | .get => env

/-- The environment after some steps, of which no variable was set before. -/
def environmentAfter (steps : List Step) : Environment :=
  steps.foldl Step.onEnvironment .empty

/-- No settings were put in force after the last reset, or there was no step at all. -/
inductive Dropped : List Step → Prop
  | start : Dropped []
  | reset (before : List Step) : Dropped (before ++ [.reset])

/-- The settings that a `get` after these steps owes, and the records that it writes. -/
inductive Due : List Step → Settings → List Log.Record → Prop
  /-- Settings that were put in force stay so until the next reset. -/
  | replaced (before : List Step) (settings : Settings) {between : List Step}
      (hbetween : ∀ s ∈ between, s.Keeps) : Due (before ++ .replace settings :: between) settings []
  /-- Settings that an earlier `get` has read stay what the environment was then. -/
  | read {start assignments between : List Step} (hstart : Dropped start)
      (hassignments : ∀ s ∈ assignments, s.IsAssignment) (hbetween : ∀ s ∈ between, s.Keeps) :
      Due (start ++ assignments ++ .get :: between)
        (Settings.ofEnvironment (environmentAfter (start ++ assignments))).1 []
  /-- The first `get` since a reset reads the environment as it is. -/
  | reading {start assignments : List Step} (hstart : Dropped start)
      (hassignments : ∀ s ∈ assignments, s.IsAssignment) :
      Due (start ++ assignments)
        (Settings.ofEnvironment (environmentAfter (start ++ assignments))).1
        (Settings.ofEnvironment (environmentAfter (start ++ assignments))).2

/-! ### What one step does -/

/-- The settings that a `get` gives: those in force, or those that it puts in force. -/
def offered (r : Registry) : Installed :=
  r.inForce.getD ⟨r.nextSerial, (Settings.ofEnvironment r.environment).1⟩

variable {r : Registry} {x : Installed} {s : Step}

theorem load_of_none (h : r.inForce = none) :
    r.load = (r.install (Settings.ofEnvironment r.environment).1,
      (Settings.ofEnvironment r.environment).2) := by
  simp only [load, h]

theorem load_of_some (h : r.inForce = some x) : r.load = (r, []) := by simp only [load, h]

theorem offered_of_none (h : r.inForce = none) :
    r.offered = ⟨r.nextSerial, (Settings.ofEnvironment r.environment).1⟩ := by
  rw [offered, h, Option.getD_none]

theorem offered_of_some (h : r.inForce = some x) : r.offered = x := by
  rw [offered, h, Option.getD_some]

/-- With no settings in force the environment is read, settings and records alike. -/
theorem of_none (h : r.inForce = none) :
    r.offered.settings = (Settings.ofEnvironment r.environment).1 ∧
      r.load.2 = (Settings.ofEnvironment r.environment).2 := by
  constructor
  · rw [offered_of_none h]
  · rw [load_of_none h]

theorem inForce_load (r : Registry) : r.load.1.inForce = some r.offered := by
  cases h : r.inForce with
  | none => rw [load_of_none h, offered_of_none h]; rfl
  | some x => rw [load_of_some h, offered_of_some h, h]

theorem lastGiven_load (r : Registry) : r.load.1.lastGiven = r.lastGiven := by
  cases h : r.inForce with
  | none => rw [load_of_none h]; rfl
  | some x => rw [load_of_some h]

/-- A `get` gives what is in force and remembers it, after reading the environment if need be. -/
theorem step_get (r : Registry) : r.step .get =
    ({ r.load.1 with lastGiven := some r.offered.serial },
      ⟨r.load.2, some (r.offered, decide (r.lastGiven = some r.offered.serial))⟩) := by
  have hforce := inForce_load r
  have hlast := lastGiven_load r
  simp only [step]
  split
  · next given hgiven =>
    obtain rfl : r.offered = given := Option.some.inj (hforce.symm.trans hgiven)
    rw [hlast]
  · next hgiven =>
    rw [hforce] at hgiven
    cases hgiven

theorem inForce_get (r : Registry) : (r.step .get).1.inForce = some r.offered := by
  rw [step_get]
  exact inForce_load r

theorem environment_step (r : Registry) (s : Step) :
    (r.step s).1.environment = s.onEnvironment r.environment := by
  cases s with
  | get =>
    rw [step_get]
    cases h : r.inForce with
    | none => rw [load_of_none h]; rfl
    | some x => rw [load_of_some h]; rfl
  | _ => rfl

/-- Settings in force stay the same ones, serial number included. -/
theorem inForce_of_keeps (h : r.inForce = some x) (hs : s.Keeps) :
    (r.step s).1.inForce = some x := by
  cases s with
  | setVariable name value => exact h
  | unsetVariable name => exact h
  | replace settings => exact hs.elim
  | reset => exact hs.elim
  | get => rw [inForce_get, offered_of_some h]

theorem of_isAssignment (hs : s.IsAssignment) :
    (r.step s).1.inForce = r.inForce ∧ (r.step s).1.lastGiven = r.lastGiven := by
  cases s with
  | setVariable name value => exact ⟨rfl, rfl⟩
  | unsetVariable name => exact ⟨rfl, rfl⟩
  | _ => exact hs.elim

theorem Step.IsAssignment.keeps (hs : s.IsAssignment) : s.Keeps := by
  cases s <;> trivial

/-- Only `get` gives settings, and only replacing them leaves a record besides. -/
theorem reply_of_ne_get (h : s ≠ .get) : (r.step s).2.given = none ∧
    ((r.step s).2.records = [] ∨ ∃ settings, s = .replace settings ∧ (r.step s).2.records =
      [⟨.debug, .settings, "MetricConverterConfig replaced programmatically"⟩]) := by
  cases s with
  | replace settings => exact ⟨rfl, Or.inr ⟨settings, rfl, rfl⟩⟩
  | get => exact absurd rfl h
  | _ => exact ⟨rfl, Or.inl rfl⟩

/-! ### What a sequence of steps does -/

/-- The registry after some steps. -/
def after (r : Registry) (steps : List Step) : Registry :=
  steps.foldl (fun r s => (r.step s).1) r

@[simp] theorem after_nil (r : Registry) : r.after [] = r := rfl

@[simp] theorem after_cons (r : Registry) (s : Step) (steps : List Step) :
    r.after (s :: steps) = (r.step s).1.after steps := rfl

@[simp] theorem after_append (r : Registry) (first second : List Step) :
    r.after (first ++ second) = (r.after first).after second := List.foldl_append

/-- A reply depends on the steps before it only. -/
theorem run_append (r : Registry) (steps : List Step) (s : Step) (later : List Step) :
    (r.run (steps ++ s :: later))[steps.length]? = some ((r.after steps).step s).2 := by
  induction steps generalizing r with
  | nil => rfl
  | cons t steps ih => exact ih (r.step t).1

theorem environment_after (steps : List Step) :
    (empty.after steps).environment = environmentAfter steps := by
  have h : ∀ (r : Registry) (steps : List Step),
      (r.after steps).environment = steps.foldl Step.onEnvironment r.environment := by
    intro r steps
    induction steps generalizing r with
    | nil => rfl
    | cons s steps ih => rw [after_cons, ih, environment_step, List.foldl_cons]
  exact h empty steps

theorem inForce_after_of_keeps {steps : List Step} (h : r.inForce = some x)
    (hsteps : ∀ s ∈ steps, s.Keeps) : (r.after steps).inForce = some x := by
  induction steps generalizing r with
  | nil => exact h
  | cons s steps ih =>
    rw [List.forall_mem_cons] at hsteps
    exact ih (inForce_of_keeps h hsteps.1) hsteps.2

theorem after_of_isAssignment {steps : List Step} (hsteps : ∀ s ∈ steps, s.IsAssignment) :
    (r.after steps).inForce = r.inForce ∧ (r.after steps).lastGiven = r.lastGiven := by
  induction steps generalizing r with
  | nil => exact ⟨rfl, rfl⟩
  | cons s steps ih =>
    rw [List.forall_mem_cons] at hsteps
    obtain ⟨hforce, hgiven⟩ := of_isAssignment (r := r) hsteps.1
    rw [after_cons, (ih hsteps.2).1, (ih hsteps.2).2]
    exact ⟨hforce, hgiven⟩

/-! ### What a `get` owes -/

theorem inForce_of_dropped {start : List Step} (h : Dropped start) :
    (empty.after start).inForce = none := by
  cases h with
  | start => rfl
  | reset before => rw [after_append]; rfl

theorem Due.offered {steps : List Step} {settings : Settings} {records : List Log.Record}
    (h : Due steps settings records) :
    (empty.after steps).offered.settings = settings ∧ (empty.after steps).load.2 = records := by
  cases h with
  | replaced before settings hbetween =>
    rw [after_append, after_cons]
    have hforce := inForce_after_of_keeps
      (r := ((empty.after before).step (.replace settings)).1) rfl hbetween
    rw [offered_of_some hforce, load_of_some hforce]
    exact ⟨rfl, rfl⟩
  | @read start assignments between hstart hassignments hbetween =>
    rw [after_append, after_cons]
    have hnone : (empty.after (start ++ assignments)).inForce = none := by
      rw [after_append, (after_of_isAssignment hassignments).1, inForce_of_dropped hstart]
    have hforce := inForce_after_of_keeps (inForce_get (empty.after (start ++ assignments)))
      hbetween
    rw [offered_of_some hforce, load_of_some hforce, (of_none hnone).1, environment_after]
    exact ⟨rfl, rfl⟩
  | @reading start assignments hstart hassignments =>
    have hnone : (empty.after (start ++ assignments)).inForce = none := by
      rw [after_append, (after_of_isAssignment hassignments).1, inForce_of_dropped hstart]
    rw [← environment_after]
    exact of_none hnone

/-- One more step decides which of the three cases it is from then on. -/
theorem exists_due (steps : List Step) : ∃ settings records, Due steps settings records := by
  have hempty : ∀ {P : Step → Prop}, ∀ t ∈ ([] : List Step), P t := by simp
  induction steps using List.reverseRecOn with
  | nil => exact ⟨_, _, .reading .start hempty⟩
  | append_singleton steps s ih =>
    have hmore : ∀ {P : Step → Prop} {between : List Step}, (∀ t ∈ between, P t) → P s →
        ∀ t ∈ between ++ [s], P t := by
      intro P between hbetween hs t ht
      rcases List.mem_append.mp ht with ht | ht
      · exact hbetween t ht
      · rwa [List.mem_singleton.mp ht]
    obtain ⟨settings, records, h⟩ := ih
    by_cases hs : s.Keeps
    · cases h with
      | replaced before settings hbetween =>
        rw [List.append_assoc, List.cons_append]
        exact ⟨_, _, .replaced before settings (hmore hbetween hs)⟩
      | read hstart hassignments hbetween =>
        rw [List.append_assoc, List.cons_append]
        exact ⟨_, _, .read hstart hassignments (hmore hbetween hs)⟩
      | reading hstart hassignments =>
        cases s with
        | get => exact ⟨_, _, .read hstart hassignments hempty⟩
        | setVariable name value =>
          rw [List.append_assoc]
          exact ⟨_, _, .reading hstart (hmore hassignments trivial)⟩
        | unsetVariable name =>
          rw [List.append_assoc]
          exact ⟨_, _, .reading hstart (hmore hassignments trivial)⟩
        | _ => exact hs.elim
    · cases s with
      | replace settings => exact ⟨_, _, .replaced steps settings hempty⟩
      | reset =>
        rw [← List.append_nil (steps ++ _)]
        exact ⟨_, _, .reading (.reset steps) hempty⟩
      | _ => exact absurd trivial hs

/-- What is owed is known, and it is what is given. -/
theorem due_iff {steps : List Step} {settings : Settings} {records : List Log.Record} :
    Due steps settings records ↔ settings = (empty.after steps).offered.settings ∧
      records = (empty.after steps).load.2 := by
  constructor
  · intro h
    exact ⟨h.offered.1.symm, h.offered.2.symm⟩
  · rintro ⟨rfl, rfl⟩
    obtain ⟨settings, records, h⟩ := exists_due steps
    rw [h.offered.1, h.offered.2]
    exact h

/-! ### Which answers are the same settings -/

/-- The settings in force have a number that was used already. -/
def Numbered (r : Registry) : Prop := ∀ x ∈ r.inForce, x.serial < r.nextSerial

/-- The settings in force, now and from here on, have numbers of `n` or more. -/
def Since (n : Nat) (r : Registry) : Prop := n ≤ r.nextSerial ∧ ∀ x ∈ r.inForce, n ≤ x.serial

theorem numbered_install (r : Registry) (settings : Settings) :
    (r.install settings).Numbered := by
  rintro x hx
  cases hx
  exact Nat.lt_succ_self _

theorem Numbered.step (h : r.Numbered) (s : Step) : (r.step s).1.Numbered := by
  cases s with
  | setVariable name value => exact h
  | unsetVariable name => exact h
  | replace settings => exact numbered_install r settings
  | reset => exact fun x hx => nomatch hx
  | get =>
    have hload : r.load.1.Numbered := by
      cases hforce : r.inForce with
      | none => rw [load_of_none hforce]; exact numbered_install r _
      | some x => rw [load_of_some hforce]; exact h
    rw [step_get]
    exact fun x hx => hload x hx

theorem numbered_after (steps : List Step) : (empty.after steps).Numbered := by
  induction steps using List.reverseRecOn with
  | nil => exact fun x hx => nomatch hx
  | append_singleton steps s ih => rw [after_append]; exact ih.step s

variable {n : Nat}

theorem since_install (h : n ≤ r.nextSerial) (settings : Settings) :
    (r.install settings).Since n := by
  refine ⟨Nat.le_succ_of_le h, ?_⟩
  rintro x hx
  cases hx
  exact h

theorem since_step_of_not_keeps (h : n ≤ r.nextSerial) (hs : ¬ s.Keeps) :
    (r.step s).1.Since n := by
  cases s with
  | replace settings => exact since_install h settings
  | reset => exact ⟨h, fun x hx => nomatch hx⟩
  | _ => exact absurd trivial hs

theorem Since.step (h : r.Since n) (s : Step) : (r.step s).1.Since n := by
  cases s with
  | setVariable name value => exact h
  | unsetVariable name => exact h
  | replace settings => exact since_install h.1 settings
  | reset => exact ⟨h.1, fun x hx => nomatch hx⟩
  | get =>
    have hload : r.load.1.Since n := by
      cases hforce : r.inForce with
      | none => rw [load_of_none hforce]; exact since_install h.1 _
      | some x => rw [load_of_some hforce]; exact h
    rw [step_get]
    exact ⟨hload.1, fun x hx => hload.2 x hx⟩

theorem nextSerial_le_step (r : Registry) (s : Step) : r.nextSerial ≤ (r.step s).1.nextSerial := by
  cases s with
  | get =>
    rw [step_get]
    cases hforce : r.inForce with
    | none => rw [load_of_none hforce]; exact Nat.le_succ _
    | some x => exact Nat.le_of_eq (by rw [load_of_some hforce])
  | replace settings => exact Nat.le_succ _
  | _ => exact Nat.le_refl _

theorem Since.after (h : r.Since n) (steps : List Step) : (r.after steps).Since n := by
  induction steps generalizing r with
  | nil => exact h
  | cons s steps ih => exact ih (h.step s)

/-- Once the settings in force were replaced or dropped, their number is never seen again. -/
theorem since_after {steps : List Step} (h : n ≤ r.nextSerial)
    (hsteps : ¬ ∀ s ∈ steps, s.Keeps) : (r.after steps).Since n := by
  induction steps generalizing r with
  | nil => exact absurd (by simp) hsteps
  | cons s steps ih =>
    rw [after_cons]
    by_cases hs : s.Keeps
    · refine ih (Nat.le_trans h (nextSerial_le_step r s)) fun hrest => hsteps ?_
      exact List.forall_mem_cons.mpr ⟨hs, hrest⟩
    · exact (since_step_of_not_keeps h hs).after steps

theorem Since.le_offered (h : r.Since n) : n ≤ r.offered.serial := by
  cases hforce : r.inForce with
  | none => rw [offered_of_none hforce]; exact h.1
  | some x => rw [offered_of_some hforce]; exact h.2 x hforce

section Between

variable (before between : List Step)

theorem keeps_of_serial_eq (h : (empty.after before).offered.serial =
    (empty.after (before ++ .get :: between)).offered.serial) : ∀ s ∈ between, s.Keeps := by
  by_contra hbetween
  rw [after_append, after_cons] at h
  have hnumber : (empty.after before).offered.serial <
      ((empty.after before).step .get).1.nextSerial :=
    (numbered_after before).step .get _ (inForce_get _)
  have hsince := (since_after (r := ((empty.after before).step .get).1) (Nat.le_refl _)
    hbetween).le_offered
  omega

/-- Two answers are the very same settings as long as these were neither replaced nor dropped. -/
theorem offered_eq_iff : (empty.after before).offered =
    (empty.after (before ++ .get :: between)).offered ↔ ∀ s ∈ between, s.Keeps := by
  constructor
  · intro h
    exact keeps_of_serial_eq before between (congrArg Installed.serial h)
  · intro hbetween
    rw [after_append, after_cons, offered_of_some (inForce_after_of_keeps (inForce_get _) hbetween)]

end Between

theorem lastGiven_of_ne_get (hs : s ≠ .get) : (r.step s).1.lastGiven = r.lastGiven := by
  cases s with
  | get => exact absurd rfl hs
  | _ => rfl

theorem lastGiven_after_of_ne_get {steps : List Step} (hsteps : ∀ s ∈ steps, s ≠ .get) :
    (r.after steps).lastGiven = r.lastGiven := by
  induction steps generalizing r with
  | nil => rfl
  | cons s steps ih =>
    rw [List.forall_mem_cons] at hsteps
    rw [after_cons, ih hsteps.2, lastGiven_of_ne_get hsteps.1]

/-- There was no `get`, or there was a last one. -/
theorem last_get_cases (steps : List Step) : (∀ s ∈ steps, s ≠ .get) ∨
    ∃ before between, steps = before ++ .get :: between ∧ ∀ s ∈ between, s ≠ .get := by
  induction steps using List.reverseRecOn with
  | nil => exact Or.inl (by simp)
  | append_singleton steps s ih =>
    by_cases hs : s = .get
    · exact Or.inr ⟨steps, [], by rw [hs], by simp⟩
    rcases ih with h | ⟨before, between, rfl, h⟩
    · refine Or.inl fun t ht => ?_
      rcases List.mem_append.mp ht with ht | ht
      · exact h t ht
      · rwa [List.mem_singleton.mp ht]
    · refine Or.inr ⟨before, between ++ [s], by simp, fun t ht => ?_⟩
      rcases List.mem_append.mp ht with ht | ht
      · exact h t ht
      · rwa [List.mem_singleton.mp ht]

theorem Step.isAssignment_of_keeps (s : Step) (hs : s.Keeps) (hget : s ≠ .get) :
    s.IsAssignment := by
  cases s with
  | get => exact absurd rfl hget
  | replace settings => exact hs.elim
  | reset => exact hs.elim
  | _ => trivial

/-- The settings are those given before if there was a `get` before and only variables were changed
since then. -/
theorem lastGiven_eq_iff (steps : List Step) :
    (empty.after steps).lastGiven = some (empty.after steps).offered.serial ↔
      ∃ before between, steps = before ++ .get :: between ∧ ∀ s ∈ between, s.IsAssignment := by
  have hlast : ∀ before between, (∀ s ∈ between, s ≠ .get) →
      (empty.after (before ++ .get :: between)).lastGiven =
        some (empty.after before).offered.serial := by
    intro before between hbetween
    rw [after_append, after_cons, lastGiven_after_of_ne_get hbetween, step_get]
  constructor
  · intro h
    rcases last_get_cases steps with hnone | ⟨before, between, rfl, hbetween⟩
    · rw [lastGiven_after_of_ne_get hnone] at h
      cases h
    · refine ⟨before, between, rfl, ?_⟩
      rw [hlast before between hbetween, Option.some.injEq] at h
      intro s hs
      exact s.isAssignment_of_keeps (keeps_of_serial_eq before between h s hs) (hbetween s hs)
  · rintro ⟨before, between, rfl, hbetween⟩
    have hget : ∀ s ∈ between, s ≠ .get := by
      rintro s hs rfl
      exact hbetween _ hs
    have hkeeps := (offered_eq_iff before between).mpr fun s hs => (hbetween s hs).keeps
    rw [hlast before between hget, ← hkeeps]

theorem records_ofEnvironment_ne_nil (env : Environment) :
    (Settings.ofEnvironment env).2 ≠ [] := by
  simp [Settings.ofEnvironment]

/-- The registry keeps to the history of its use, however long that is. Each `get` gives the
settings that it owes, and leaves records exactly if no settings are in force, namely those of
reading the environment. The settings are the very ones that the `get` before gave if and only if
there was one and only variables were changed since; in general those of two answers are the same if
and only if nothing was replaced or reset between the two, and settings that were put in force are
themselves given. No other step gives settings or reads the environment. -/
theorem run_due (steps later : List Step) :
    (∃ x records same,
      (run .empty (steps ++ .get :: later))[steps.length]? = some ⟨records, some (x, same)⟩ ∧
      (∀ settings logged, Due steps settings logged ↔ settings = x.settings ∧ logged = records) ∧
      (records ≠ [] ↔ (empty.after steps).inForce = none) ∧
      (same = true ↔ ∃ before between, steps = before ++ .get :: between ∧
        ∀ s ∈ between, s.IsAssignment) ∧
      (∀ before between, steps = before ++ .get :: between →
        ∃ records' y same', (run .empty steps)[before.length]? = some ⟨records', some (y, same')⟩ ∧
          (y = x ↔ ∀ s ∈ between, s.Keeps)) ∧
      ∀ before settings between, steps = before ++ .replace settings :: between →
        (∀ s ∈ between, s.Keeps) → (empty.after (before ++ [.replace settings])).inForce = some x) ∧
    ∀ s, s ≠ .get → ∃ records,
      (run .empty (steps ++ s :: later))[steps.length]? = some ⟨records, none⟩ ∧
      (records = [] ∨ ∃ settings, s = .replace settings ∧ records =
        [⟨.debug, .settings, "MetricConverterConfig replaced programmatically"⟩]) := by
  have hget : ∀ steps later, (run .empty (steps ++ .get :: later))[steps.length]? =
      some ⟨(empty.after steps).load.2, some ((empty.after steps).offered,
        decide ((empty.after steps).lastGiven = some (empty.after steps).offered.serial))⟩ := by
    intro steps later
    rw [run_append, step_get]
  refine ⟨⟨_, _, _, hget steps later, fun settings logged => due_iff, ?_, ?_, ?_, ?_⟩, ?_⟩
  · cases h : (empty.after steps).inForce with
    | none => simpa [load_of_none h] using records_ofEnvironment_ne_nil _
    | some x => simp [load_of_some h]
  · rw [decide_eq_true_iff, lastGiven_eq_iff]
  · rintro before between rfl
    exact ⟨_, _, _, hget before between, offered_eq_iff before between⟩
  · rintro before settings between rfl hbetween
    have hforce : (empty.after (before ++ [.replace settings])).inForce =
        some ⟨(empty.after before).nextSerial, settings⟩ := by
      rw [after_append]
      rfl
    have hlater := inForce_after_of_keeps hforce hbetween
    rw [← after_append, List.append_assoc, List.singleton_append] at hlater
    rw [offered_of_some hlater, hforce]
  · intro s hs
    obtain ⟨hgiven, hrecords⟩ := reply_of_ne_get (r := empty.after steps) hs
    refine ⟨_, ?_, hrecords⟩
    rw [run_append, ← hgiven]

end SIUnits.Registry
