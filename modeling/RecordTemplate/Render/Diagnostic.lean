/-
  RecordTemplate.Render.Diagnostic

  Problems noticed while rendering, and the records of the log.
-/

namespace RecordTemplate

/-- The levels of diagnostics and log records. -/
inductive Level where
  | debug
  | info
  | warning
  | error
  deriving DecidableEq, Repr

namespace Level

def name : Level → String
  | debug => "DEBUG"
  | info => "INFO"
  | warning => "WARNING"
  | error => "ERROR"

/-- The rank of a level; a log keeps the records whose rank is not below its own. -/
def rank : Level → Nat
  | debug => 10
  | info => 20
  | warning => 30
  | error => 40

end Level

/-- A problem noticed while rendering. -/
structure Diagnostic where
  level : Level
  code : String
  message : String
  deriving DecidableEq, Repr

/-- A record of the log. -/
structure LogRecord where
  level : Level
  message : String
  deriving DecidableEq, Repr

/-- A diagnostic as a record of the log. -/
def Diagnostic.logRecord (d : Diagnostic) : LogRecord := ⟨d.level, d.message⟩

end RecordTemplate
