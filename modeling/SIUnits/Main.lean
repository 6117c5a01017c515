import SIUnits.Command.Run
import SIUnits.Console.Width
import Std.Time

/-! The program: it takes the command line, the environment and standard input to a report. A
session is carried on line by line, so that each answer is seen before the next line is typed. -/
namespace SIUnits.Main

open Command

def readEnvironment : IO Environment := do
  let names := [Settings.quitVariable, Settings.promptVariable, Settings.instructionsVariable,
    Settings.levelVariable]
  let values ← names.mapM fun name => return (name, ← IO.getEnv name)
  return fun name => (values.lookup name).join

/-- The local time, or that of Greenwich where the zone is not known. -/
def readClock : IO Timestamp := do
  let t ← try Std.Time.PlainDateTime.now
    catch _ => pure (Std.Time.PlainDateTime.ofWallTime (.ofDuration (← Std.Time.Timestamp.now).val))
  return ⟨t.year.toInt.toNat, t.month.val.toNat, t.day.val.toNat, t.hour.val.toNat,
    t.minute.val.toNat, t.second.val.toNat, (t.nanosecond.val / 1000).toNat⟩

def putOut (s : String) : IO Unit := do
  let out ← IO.getStdout
  out.putStr s
  out.flush

/-- Answer lines until the session ends; `pending` holds the lines that were read already. -/
partial def converse (console : Console) (settings : Settings) (prompt : String)
    (log : List Log.Record → IO Unit) (pending : List String) : IO UInt32 := do
  let finish (t : Session.Transcript) : IO UInt32 := do
    log t.records
    putOut t.output
    return match t.ending with
      | .finished => 0
      | _ => 1
  putOut prompt
  let lines ←
    if pending.isEmpty then pure (Text.lines (← (← IO.getStdin).getLine)) else pure pending
  match lines with
  | [] => finish (Session.atEnd console)
  | line :: rest =>
    match Session.turn console settings line with
    | .goesOn output records =>
      log records
      putOut output
      converse console settings prompt log rest
    | .ends t => finish t

/-- Run a session, or tell why its prompt is not shown. -/
def session (console : Console) (settings : Settings) (log : List Log.Record → IO Unit) :
    IO UInt32 := do
  putOut (Session.opening console settings)
  match console.prompt settings.prompt with
  | .ok prompt => converse console settings prompt log []
  | .error fault =>
    IO.eprintln fault.message
    return 1

def report (surroundings : Surroundings) (args : List String) : IO UInt32 := do
  match run surroundings args with
  | .ok r =>
    IO.eprint r.diagnostics
    putOut r.output
    return r.exit.toUInt32
  | .error breakdown =>
    IO.eprintln breakdown.message
    return 1

end SIUnits.Main

open SIUnits SIUnits.Command in
def main (args : List String) : IO UInt32 := do
  let now ← Main.readClock
  let console := Console.ofWidth 80
  let surroundings : Surroundings :=
    ⟨console, fun _ => none, none, ← Main.readEnvironment, "", now, now.text⟩
  match Invocation.ofArguments? args with
  | none => Main.report surroundings args
  | some i =>
    if i.isSession then
      let (settings, loading) := settingsOf surroundings
      IO.eprint (Log.Channel.unconfigured.text now.text loading)
      match channelFor settings surroundings i with
      | .ok channel =>
        Main.session console settings fun records => IO.eprint (channel.text now.text records)
      | .error breakdown =>
        IO.eprintln breakdown.message
        return 1
    else
      Main.report surroundings args
