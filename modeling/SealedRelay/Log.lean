import SealedRelay.Text.Json
/-!
# Log lines
-/
namespace SealedRelay

namespace Log

/-- How important a line is, the most important level first. -/
inductive Level where
  | error
  | warn
  | info
  | debug
  | trace
  deriving DecidableEq

/-- Whether a limit lets lines of a level through. -/
def Level.includes (limit level : Level) : Bool := level.ctorIdx ≤ limit.ctorIdx

def Level.name : Level → String
  | error => "ERROR"
  | warn => "WARN"
  | info => "INFO"
  | debug => "DEBUG"
  | trace => "TRACE"

structure Line where
  level : Level
  message : String
  deriving DecidableEq

def Line.text (l : Line) : String := s!"{l.level.name} {l.message}"

def Line.json (l : Line) : String :=
  (Text.Json.record [("level", .text l.level.name), ("message", .text l.message)]).write

end Log

abbrev Log := List Log.Line

namespace Log

/-- Lines about the normal course of things. -/
def infos (messages : List String) : Log := messages.map (⟨.info, ·⟩)

/-- The lines that a limit lets through. -/
def upTo (log : Log) (limit : Level) : Log := log.filter fun l => limit.includes l.level

end Log

end SealedRelay
