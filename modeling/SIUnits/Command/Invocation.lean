/-! Reading a command line. Options may stand before the name of the command; every command reads
its own arguments. -/
namespace SIUnits.Command

inductive Name where
  | repl
  | convert
  | units
  | version
deriving DecidableEq

def Name.ofString? (s : String) : Option Name :=
  if s = "repl" then some .repl
  else if s = "convert" then some .convert
  else if s = "units" then some .units
  else if s = "version" then some .version
  else none

structure Options where
  showVersion : Bool
  verbose : Bool
deriving DecidableEq

structure Invocation where
  options : Options
  command : Option Name
  arguments : List String
deriving DecidableEq

/-- An argument that is read as an option: a dash with something after it. -/
def isOption (s : String) : Bool :=
  match s.toList with
  | '-' :: _ :: _ => true
  | _ => false

/-- The option as a group of short ones, each of them asking for verbosity. -/
def isVerboseGroup (s : String) : Bool :=
  match s.toList with
  | '-' :: cs => cs.all (· = 'v')
  | _ => false

/-- The options at the start of a command line and what follows them; nothing if an option is
unknown. Two dashes end the options. -/
def takeOptions (found : Options) : List String → Option (Options × List String)
  | [] => some (found, [])
  | s :: rest =>
    if s = "--" then some (found, rest)
    else if !isOption s then some (found, s :: rest)
    else if s = "--version" then takeOptions { found with showVersion := true } rest
    else if s = "--verbose" || isVerboseGroup s then
      takeOptions { found with verbose := true } rest
    else none

def Invocation.ofArguments? (args : List String) : Option Invocation :=
  match takeOptions ⟨false, false⟩ args with
  | none => none
  | some (options, []) => some ⟨options, none, []⟩
  | some (options, s :: rest) =>
    match Name.ofString? s with
    | none => none
    | some name => some ⟨options, some name, rest⟩

def takesNothing (args : List String) : Bool := args = [] || args = ["--"]

structure Request where
  query : String
  json : Bool
deriving DecidableEq

/-- An option with a value where none may have one. -/
def isRefused (s : String) : Bool :=
  s = "--help" || "--json=".toList.isPrefixOf s.toList || "--help=".toList.isPrefixOf s.toList

/-- The arguments that are no options, in order, and whether JSON is asked for. Options that are
unknown count as arguments, so that a query may start with a dash. -/
def takeRequest (json : Bool) : List String → Option (Bool × List String)
  | [] => some (json, [])
  | s :: rest =>
    if s = "--" then some (json, rest)
    else if s = "--json" then takeRequest true rest
    else if isRefused s then none
    else (takeRequest json rest).map fun (json, queries) => (json, s :: queries)

def Request.ofArguments? (args : List String) : Option Request :=
  match takeRequest false args with
  | some (json, [query]) => some ⟨query, json⟩
  | _ => none

end SIUnits.Command
