/-! Log records: what the stages of a conversion and the settings tell about their work. -/
namespace SIUnits.Log

inductive Level where
  | debug
  | info
  | warning
  | error
  | critical
deriving DecidableEq

namespace Level

def name : Level → String
  | .debug => "DEBUG"
  | .info => "INFO"
  | .warning => "WARNING"
  | .error => "ERROR"
  | .critical => "CRITICAL"

def severity : Level → Nat
  | .debug => 10
  | .info => 20
  | .warning => 30
  | .error => 40
  | .critical => 50

end Level

/-- The parts of the program that keep a log. -/
inductive Source where
  | queries
  | units
  | conversions
  | outcomes
  | settings
  | commandLine
deriving DecidableEq

def Source.name : Source → String
  | .queries => "metricconv.query_parser"
  | .units => "metricconv.unit_resolver"
  | .conversions => "metricconv.converter"
  | .outcomes => "metricconv.engine"
  | .settings => "metricconv.config"
  | .commandLine => "metricconv.cli.main"

structure Record where
  level : Level
  source : Source
  message : String
deriving DecidableEq

end SIUnits.Log
