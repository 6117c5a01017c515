import SIUnits.Command.Invocation
import SIUnits.Failure.Report
import SIUnits.Log.Channel
import SIUnits.Session.Basic
import SIUnits.Text.Lines

/-! Running a command line: what it shows, what it logs, and its exit code. -/
namespace SIUnits.Command

def version : String := "1.0.0"

/-- What a run depends on besides its arguments. -/
structure Surroundings where
  console : Console
  logNames : Log.Names
  /-- Settings that are in force already; the environment is read if there are none. -/
  inForce : Option Settings
  environment : Environment
  input : String
  now : Timestamp
  /-- The time as it stands in the log. -/
  logTime : String

structure Report where
  exit : Nat
  output : String
  diagnostics : String
deriving DecidableEq

namespace Report

def usage : Report :=
  ⟨2, "", "Usage: metricconv [--version] [--verbose] [repl | convert QUERY | units | version]\n"⟩

end Report

structure Effect where
  exit : Nat
  output : String
  records : List Log.Record

def rootTable : Console.Table :=
  ⟨"Root units", [⟨"Symbol", .left⟩, ⟨"Unit", .left⟩],
    Root.all.map fun root => [root.symbol, root.name]⟩

def shownOr (other s : String) : String := if s = "" then other else s

def prefixTable : Console.Table :=
  ⟨"Prefixes", [⟨"Symbol", .left⟩, ⟨"Name", .left⟩, ⟨"Multiplier", .right⟩],
    UnitTables.standard.prefixes.map fun p =>
      [shownOr "-" p.symbol, shownOr "(none)" p.name,
        "1e" ++ String.ofList (Decimal.integer p.exponent)]⟩

/-- A record as JSON that keeps characters outside ASCII. -/
def jsonLine (entries : Entries) : String :=
  Json.render .unicode (.record entries) ++ "\n"

section Effects

variable (console : Console)

def versionEffect : Effect := ⟨0, console.announce ("metricconv v" ++ version), []⟩

def unitsEffect : Effect :=
  ⟨0, console.table rootTable ++ console.table prefixTable ++
    console.panel "A unit is a prefix followed by a root unit, e.g. km, mg, dam, kmol", []⟩

def convertEffect (request : Request) (now : Timestamp) : Effect :=
  let attempt := convertLine (Text.strip request.query)
  match attempt.result with
  | .ok r =>
    ⟨0, if request.json then jsonLine r.toFields else console.line r.text, attempt.records⟩
  | .error (.failure f) =>
    ⟨1, if request.json then jsonLine (f.toRecord now) else Session.complaint console f,
      attempt.records ++ [⟨.info, .commandLine, f.chain⟩]⟩
  | .error _ => ⟨1, "", attempt.records⟩

end Effects

def Invocation.isSession (i : Invocation) : Bool :=
  !i.options.showVersion &&
    match i.command with
    | none => true
    | some .repl => takesNothing i.arguments
    | _ => false

theorem Invocation.showVersion_of_isSession {i : Invocation} (h : i.isSession = true) :
    i.options.showVersion = false := by
  rw [isSession, Bool.and_eq_true, Bool.not_eq_true'] at h
  exact h.1

/-- What ends a run before it has a report. -/
inductive Breakdown where
  /-- Logging cannot be configured. -/
  | level (fault : Log.LevelFault)
  /-- The console refuses the prompt of a session, after what was shown by then. -/
  | prompt (shown : String) (fault : Console.Fault)
deriving DecidableEq

def Breakdown.message : Breakdown → String
  | .level fault => fault.message
  | .prompt _ fault => fault.message

def sessionEffect (console : Console) (settings : Settings) (input : String) :
    Except Breakdown Effect :=
  let t := Session.run console settings (Text.lines input)
  match t.ending with
  | .finished => .ok ⟨0, t.output, t.records⟩
  | .broken _ => .ok ⟨1, t.output, t.records⟩
  | .refused fault => .error (.prompt t.output fault)

/-- The effect of an invocation; nothing where the arguments of its command are wrong. -/
def effect? (settings : Settings) (s : Surroundings) (i : Invocation) :
    Except Breakdown (Option Effect) :=
  if i.options.showVersion then .ok (some (versionEffect s.console))
  else if i.isSession then (sessionEffect s.console settings s.input).map some
  else
    .ok <| match i.command with
    | none | some .repl => none
    | some .units => if takesNothing i.arguments then some (unitsEffect s.console) else none
    | some .version => if takesNothing i.arguments then some (versionEffect s.console) else none
    | some .convert =>
      (Request.ofArguments? i.arguments).map (convertEffect s.console · s.now)

def settingsOf (s : Surroundings) : Settings × List Log.Record :=
  match s.inForce with
  | some settings => (settings, [])
  | none => Settings.ofEnvironment s.environment

def channelFor (settings : Settings) (s : Surroundings) (i : Invocation) :
    Except Breakdown Log.Channel :=
  (Log.Channel.ofLevel s.logNames i.options.verbose settings.logLevel).mapError .level

theorem channelFor_of_level {settings : Settings} {s : Surroundings} {i : Invocation}
    {channel : Log.Channel}
    (h : Log.Channel.ofLevel s.logNames i.options.verbose settings.logLevel = .ok channel) :
    channelFor settings s i = .ok channel := by
  rw [channelFor, h]
  rfl

/-- Run a command line. The settings are loaded before logging is configured, so of the records
about them only warnings are seen. Logging is configured before a command reads its arguments. -/
def run (s : Surroundings) (args : List String) : Except Breakdown Report :=
  match Invocation.ofArguments? args with
  | none => .ok .usage
  | some i => do
    let (settings, loading) := settingsOf s
    let channel ← channelFor settings s i
    match ← effect? settings s i with
    | none => return .usage
    | some e =>
      return ⟨e.exit, e.output,
        Log.Channel.unconfigured.text s.logTime loading ++ channel.text s.logTime e.records⟩

end SIUnits.Command
