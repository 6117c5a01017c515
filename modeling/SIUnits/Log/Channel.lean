import SIUnits.Log.Record
import SIUnits.Text.Quoted

/-! Where log records go. Until logging is configured only warnings and worse are shown, as the bare
message; then every record from a least severity on, with its time, source and level. -/
namespace SIUnits.Log

/-- Why a name cannot be taken for a level: it stands for a text, which is the name of no level, or
for something that is neither a number nor a text. -/
inductive LevelFault where
  | unknown (text : String)
  | notALevel (shown : String)
deriving DecidableEq

def LevelFault.message : LevelFault → String
  | .unknown text => "Unknown level: " ++ Text.quoted text
  | .notALevel shown => "Level not an integer or a valid string: " ++ shown

/-- What the host's log keeps under names that are not those of its levels. -/
abbrev Names := String → Option (Except LevelFault Nat)

inductive Channel where
  | unconfigured
  | configured (least : Nat)
deriving DecidableEq

namespace Channel

def severities : List (String × Nat) :=
  [("CRITICAL", 50), ("FATAL", 50), ("ERROR", 40), ("WARNING", 30), ("WARN", 30), ("INFO", 20),
    ("DEBUG", 10), ("NOTSET", 0)]

/-- All records for a verbose run, else those of the named level and above. A name that the log does
not know stands for warnings, and one that it knows for something else is refused. -/
def ofLevel (names : Names) (verbose : Bool) (name : String) : Except LevelFault Channel :=
  if verbose then .ok (.configured 10)
  else if name = "" then .ok .unconfigured
  else
    match severities.lookup name with
    | some severity => .ok (.configured severity)
    | none => ((names name).getD (.ok 30)).map .configured

def line? (channel : Channel) (time : String) (r : Record) : Option String :=
  match channel with
  | .unconfigured => if 30 ≤ r.level.severity then some (r.message ++ "\n") else none
  | .configured least =>
    if least ≤ r.level.severity then
      some (time ++ " - " ++ r.source.name ++ " - " ++ r.level.name ++ " - " ++ r.message ++ "\n")
    else
      none

def text (channel : Channel) (time : String) (records : List Record) : String :=
  String.join (records.filterMap (channel.line? time))

end Channel

end SIUnits.Log
