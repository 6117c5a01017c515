import SIUnits.Console.Basic
import SIUnits.Conversion.Outcome
import SIUnits.Settings.Basic

/-! The interactive session: it greets, answers one line after the other, and ends at the quit token
or at the end of the input. A session whose prompt the console refuses has its opening only. -/
namespace SIUnits.Session

def welcome : String := "\nWelcome to the Metric Unit Converter!"

def farewell : String := "\nThank you for using the Metric Unit Converter. Goodbye!"

def errorHeading : String := "Your input is not currently handled by this app."

def instructions (quitToken : String) : String :=
  "Please enter \"" ++ quitToken ++ "\" to quit or enter a metric conversion query. " ++
    "The metric conversion query should be in the format:\n" ++
    "Number UnitToConvertFrom = UnitToConvertTo\n\n" ++
    "For example, a valid metric conversion query for converting 1 kilogram to grams is:\n" ++
    "1 kg = g\n\n" ++
    "Note that UnitToConvertFrom and UnitToConvertTo must use prefixes and " ++
    "symbols from the International System of Units (SI)."

inductive Response where
  | skipped
  | stop
  | answered (records : List Log.Record) (outcome : Outcome)
  | broken (records : List Log.Record) (fault : Fault)

/-- A blank line is passed over, even if it is the quit token. -/
def respond (settings : Settings) (line : String) : Response :=
  let query := Text.strip line
  if query = "" then .skipped
  else if query = settings.quitToken then .stop
  else
    let attempt := Outcome.ofLine query
    match attempt.result with
    | .ok o => .answered attempt.records o
    | .error fault => .broken attempt.records fault

def endOfInput : Log.Record := ⟨.info, .commandLine, "End of input reached"⟩

inductive Ending where
  | finished
  /-- A line broke the session. -/
  | broken (fault : Fault)
  /-- The console did not show the prompt. -/
  | refused (fault : Console.Fault)

/-- What a session shows and logs, and how it ends. -/
structure Transcript where
  output : String
  records : List Log.Record
  ending : Ending

/-- The transcript with what comes before it. -/
def Transcript.after (output : String) (records : List Log.Record) (t : Transcript) : Transcript :=
  ⟨output ++ t.output, records ++ t.records, t.ending⟩

/-- What follows a prompt: an answer, after which the session goes on, or its end. -/
inductive Turn where
  | goesOn (output : String) (records : List Log.Record)
  | ends (t : Transcript)

section Shown

variable (console : Console) (settings : Settings)

def opening : String :=
  console.announce welcome ++
    if settings.showInstructions then console.line ("\n" ++ instructions settings.quitToken)
    else ""

def complaint (f : Failure) : String := console.announce errorHeading ++ console.line f.message

def answer (o : Outcome) : String :=
  match o.result, o.failure with
  | some r, _ => console.line r.text
  | none, some f => complaint console f
  | none, none => ""

/-- The end of a session that its input brings about. -/
def atEnd : Transcript := ⟨console.announce farewell, [endOfInput], .finished⟩

def turn (line : String) : Turn :=
  match respond settings line with
  | .skipped => .goesOn "" []
  | .stop => .ends ⟨console.announce farewell, [], .finished⟩
  | .answered records o => .goesOn (answer console o) records
  | .broken records fault => .ends ⟨"", records, .broken fault⟩

/-- The transcript from the first prompt on, given what the console shows as the prompt. -/
def answerAll (prompt : String) : List String → Transcript
  | [] => (atEnd console).after prompt []
  | line :: rest =>
    match turn console settings line with
    | .goesOn output records => (answerAll prompt rest).after (prompt ++ output) records
    | .ends t => t.after prompt []

def run (lines : List String) : Transcript :=
  match console.prompt settings.prompt with
  | .error fault => ⟨opening console settings, [], .refused fault⟩
  | .ok prompt => (answerAll console settings prompt lines).after (opening console settings) []

end Shown

end SIUnits.Session
