/-! # Journals

A journal is a list of entries, each with a severity and the part of the program it comes from. -/

namespace GridWalk.Journal

/-- How serious an entry is. -/
inductive Severity
  | notSet
  | debug
  | info
  | warning
  | error
  | critical
deriving DecidableEq, Repr

/-- The weight by which severities are compared. -/
def Severity.weight : Severity → Nat
  | notSet => 0
  | debug => 10
  | info => 20
  | warning => 30
  | error => 40
  | critical => 50

/-- The name of a severity as it stands in a line. -/
def Severity.name : Severity → String
  | notSet => "NOTSET"
  | debug => "DEBUG"
  | info => "INFO"
  | warning => "WARNING"
  | error => "ERROR"
  | critical => "CRITICAL"

/-- The severity of a name in capitals. -/
def Severity.ofName? : String → Option Severity
  | "NOTSET" => some notSet
  | "DEBUG" => some debug
  | "INFO" => some info
  | "WARNING" | "WARN" => some warning
  | "ERROR" => some error
  | "CRITICAL" | "FATAL" => some critical
  | _ => none

/-- An entry: how serious it is, the part of the program that makes it, and what it says. -/
structure Entry where
  severity : Severity
  source : String
  text : String
deriving DecidableEq, Repr

/-- The entry as a line. -/
def Entry.line (e : Entry) : String := s!"[{e.severity.name}] {e.source}: {e.text}"

/-- Whether an entry is severe enough to be kept. -/
def Entry.reaches (threshold : Severity) (e : Entry) : Bool := threshold.weight ≤ e.severity.weight

end GridWalk.Journal
