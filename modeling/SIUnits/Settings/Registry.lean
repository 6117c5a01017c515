import SIUnits.Settings.Basic

/-! The place where the settings in force are kept. They are read from the environment when they are
first asked for, and stay until they are replaced or dropped. -/
namespace SIUnits

/-- Settings that were put in force. The serial number tells equal settings apart that were put in
force at different times. -/
structure Installed where
  serial : Nat
  settings : Settings
deriving DecidableEq

structure Registry where
  environment : Environment
  inForce : Option Installed
  nextSerial : Nat
  /-- The serial number of the settings that were given last. -/
  lastGiven : Option Nat

namespace Registry

inductive Step where
  | setVariable (name value : String)
  | unsetVariable (name : String)
  | replace (settings : Settings)
  | reset
  | get

/-- What a step answers: the log records, and for `get` the settings and whether they are the very
ones given before. -/
structure Reply where
  records : List Log.Record
  given : Option (Installed × Bool)

def empty : Registry := ⟨.empty, none, 0, none⟩

def install (r : Registry) (settings : Settings) : Registry :=
  { r with inForce := some ⟨r.nextSerial, settings⟩, nextSerial := r.nextSerial + 1 }

/-- The registry with settings in force, and the records of reading them if none were. -/
def load (r : Registry) : Registry × List Log.Record :=
  match r.inForce with
  | some _ => (r, [])
  | none =>
    let (settings, records) := Settings.ofEnvironment r.environment
    (r.install settings, records)

def step (r : Registry) : Step → Registry × Reply
  | .setVariable name value =>
    ({ r with environment := r.environment.set name value }, ⟨[], none⟩)
  | .unsetVariable name => ({ r with environment := r.environment.unset name }, ⟨[], none⟩)
  | .replace settings =>
    (r.install settings,
      ⟨[⟨.debug, .settings, "MetricConverterConfig replaced programmatically"⟩], none⟩)
  | .reset => ({ r with inForce := none }, ⟨[], none⟩)
  | .get =>
    let (r, records) := r.load
    match r.inForce with
    | some given =>
      ({ r with lastGiven := some given.serial },
        ⟨records, some (given, decide (r.lastGiven = some given.serial))⟩)
    | none => (r, ⟨records, none⟩)

def run (r : Registry) : List Step → List Reply
  | [] => []
  | s :: steps => (r.step s).2 :: (r.step s).1.run steps

end Registry

end SIUnits
