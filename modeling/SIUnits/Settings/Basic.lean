import SIUnits.Log.Record
import SIUnits.Text.Blank
import SIUnits.Text.Quoted
import SIUnits.Text.Uppercase
import SIUnits.Value.Display

/-! Settings of the interactive session, and how environment variables override them. A value that
would make the session unusable is refused with a warning, and the default stands in for it. -/
namespace SIUnits

structure Settings where
  /-- The line that ends a session. -/
  quitToken : String
  prompt : String
  showInstructions : Bool
  /-- The name of the least level that is logged; logging stays as it is where this is empty. -/
  logLevel : String
deriving DecidableEq

abbrev Environment := String → Option String

namespace Environment

def empty : Environment := fun _ => none

def set (env : Environment) (name value : String) : Environment :=
  fun n => if n = name then some value else env n

def unset (env : Environment) (name : String) : Environment :=
  fun n => if n = name then none else env n

end Environment

namespace Settings

def default : Settings := ⟨"q", "> ", true, ""⟩

def variableFor (setting : String) : String := "METRICCONV_" ++ setting

def quitVariable : String := variableFor "QUIT_TOKEN"
def promptVariable : String := variableFor "PROMPT"
def instructionsVariable : String := variableFor "SHOW_INSTRUCTIONS"
def levelVariable : String := variableFor "LOG_LEVEL"

/-- A quit token can be typed on a line of its own: it is not empty and has no space. -/
def isQuitToken (s : String) : Bool := s ≠ "" && !s.toList.contains ' '

def levelNames : List String := ["DEBUG", "INFO", "WARNING", "ERROR", "CRITICAL"]

def isLevel (s : String) : Bool := s = "" || levelNames.contains s

/-- The words for "yes", in capitals or not. The comparison folds ASCII letters only, as no other
character has one of the letters of these words as its lower case. -/
def isYes (s : String) : Bool :=
  ["true", "1", "yes"].contains (String.ofList (s.toList.map Char.toLower))

private def warning (message : String) : Log.Record := ⟨.warning, .settings, message⟩

/-- The quit token, without white space around it, or the default with a warning. -/
def readQuitToken (raw : Option String) : String × List Log.Record :=
  let token := Text.strip (raw.getD default.quitToken)
  if isQuitToken token then (token, [])
  else (default.quitToken, [warning ("Invalid quit token " ++ quitVariable ++ "=" ++
    Text.quoted token ++ ", using default " ++ Text.quoted default.quitToken)])

/-- The level name in capitals, or the default with a warning. -/
def readLevel (raw : Option String) : String × List Log.Record :=
  let level := Text.upper (raw.getD default.logLevel)
  if isLevel level then (level, [])
  else (default.logLevel, [warning ("Invalid log level " ++ levelVariable ++ "=" ++ level ++
    ", logging left unconfigured")])

def loaded (s : Settings) : Log.Record :=
  ⟨.debug, .settings, "MetricConverterConfig loaded: quit_token=" ++ Text.quoted s.quitToken ++
    ", prompt=" ++ Text.quoted s.prompt ++ ", show_instructions=" ++
    (Value.boolean s.showInstructions).display ++ ", log_level=" ++
    (if s.logLevel = "" then "<unset>" else s.logLevel)⟩

def ofEnvironment (env : Environment) : Settings × List Log.Record :=
  let (quitToken, quitRecords) := readQuitToken (env quitVariable)
  let (logLevel, levelRecords) := readLevel (env levelVariable)
  let settings : Settings :=
    ⟨quitToken, (env promptVariable).getD default.prompt,
      ((env instructionsVariable).map isYes).getD default.showInstructions, logLevel⟩
  (settings, quitRecords ++ levelRecords ++ [settings.loaded])

end Settings

end SIUnits
