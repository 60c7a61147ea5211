/-!
# Log notes

What the parts of the updater report while they work: a severity, the part it comes from, and
a text. A limit admits the notes up to a severity.
-/

namespace FirmwareUpdate

/-- How much a note matters, the most important first. -/
inductive Severity
  | error
  | warn
  | info
  | debug
  | trace
deriving DecidableEq, Repr

/-- One line of the log. -/
structure Note where
  origin : String
  severity : Severity
  text : String
deriving DecidableEq, Repr

/-- The severities that are written. -/
inductive LogLimit
  | off
  | upTo (severity : Severity)
deriving DecidableEq, Repr

/-- The place of a severity, counted from the most important. -/
def Severity.rank : Severity → Nat
  | error => 1
  | warn => 2
  | info => 3
  | debug => 4
  | trace => 5

/-- The letter that stands for a severity. -/
def Severity.letter : Severity → Char
  | error => 'E'
  | warn => 'W'
  | info => 'I'
  | debug => 'D'
  | trace => 'T'

/-- The name of a severity. -/
def Severity.name : Severity → String
  | error => "ERROR"
  | warn => "WARN"
  | info => "INFO"
  | debug => "DEBUG"
  | trace => "TRACE"

namespace LogLimit

/-- The name of a limit. -/
def name : LogLimit → String
  | off => "OFF"
  | upTo severity => severity.name

/-- Whether notes of a severity are written. -/
def admits : LogLimit → Severity → Bool
  | off, _ => false
  | upTo most, severity => severity.rank ≤ most.rank

/-- The limit a word names, where ASCII letters may have either case. -/
def ofName? (word : String) : Option LogLimit :=
  match word.map Char.toLower with
  | "off" => some .off
  | "error" => some (.upTo .error)
  | "warn" | "warning" => some (.upTo .warn)
  | "info" => some (.upTo .info)
  | "debug" => some (.upTo .debug)
  | "trace" => some (.upTo .trace)
  | _ => none

end LogLimit

/-- A note as one line, its severity's letter first. -/
def Note.line (note : Note) : String :=
  String.ofList [note.severity.letter, ' '] ++ note.text

end FirmwareUpdate
