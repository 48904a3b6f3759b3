import SealedRelay.Exit
import SealedRelay.Text.Blank
import SealedRelay.Text.Number
/-!
# Spans of time in settings

A span is a positive whole number of seconds, with or without an `s`, or of milliseconds with
`ms`.
-/
namespace SealedRelay.Settings

/-- A text without a suffix; none if it does not end in it. -/
def dropSuffix? (suffix s : List Char) : Option (List Char) :=
  if suffix.isSuffixOf s then some (s.take (s.length - suffix.length)) else none

/-- The number in a span, and whether it counts milliseconds. -/
def splitUnit (s : List Char) : List Char × Bool :=
  match dropSuffix? "ms".toList s with
  | some number => (number, true)
  | none => ((dropSuffix? "s".toList s).getD s, false)

def parseDuration (s : String) : Except Exit Duration :=
  let text := Text.trim s.toList
  if text = [] then .error (.usage "duration must not be empty")
  else
    let (number, millis) := splitUnit text
    match Text.unsigned? Text.maxUInt64 number with
    | none => .error (.usage s!"invalid duration value: {String.ofList text}")
    | some 0 => .error (.usage "duration must be greater than zero")
    | some n => .ok (if millis then Duration.ofMillis n else Duration.ofSecs n)

/-- Reads the first of a flag and a file's value that is set. -/
def pickDuration (flag file : Option String) : Except Exit (Option Duration) :=
  (flag <|> file).mapM parseDuration

end SealedRelay.Settings
