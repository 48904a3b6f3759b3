import SealedRelay.Text.Number
import SealedRelay.Text.Quoted
/-!
# JSON values and their text

Records keep the order of their fields, so the text of a value is determined. Numbers are kept as
they are written.
-/
namespace SealedRelay.Text

inductive Json where
  | null
  | bool (b : Bool)
  | number (literal : String)
  | text (s : String)
  | list (items : List Json)
  | record (fields : List (String × Json))
  deriving BEq

namespace Json

def nat (n : Nat) : Json := number (toString n)

/-- The 64-bit natural number that a value is, if its literal is nothing but digits. -/
def nat? : Json → Option Nat
  | number literal => (digits? literal.toList).filter (· ≤ maxUInt64)
  | _ => none

/-- What stands for a character in a string. -/
def escape (c : Char) : String :=
  match c with
  | '"' => "\\\""
  | '\\' => "\\\\"
  | '\x08' => "\\b"
  | '\x0c' => "\\f"
  | '\n' => "\\n"
  | '\r' => "\\r"
  | '\t' => "\\t"
  | _ => if c.toNat < 0x20 then "\\u00" ++ hexByte (UInt8.ofNat c.toNat) else c.toString

def string (s : String) : String := "\"" ++ String.join (s.toList.map escape) ++ "\""

mutual

def write : Json → String
  | null => "null"
  | bool b => toString b
  | number literal => literal
  | text s => string s
  | list items => "[" ++ writeItems items ++ "]"
  | record fields => "\x7b" ++ writeFields fields ++ "\x7d"

def writeItems : List Json → String
  | [] => ""
  | [v] => write v
  | v :: vs => write v ++ "," ++ writeItems vs

def writeFields : List (String × Json) → String
  | [] => ""
  | [(k, v)] => string k ++ ":" ++ write v
  | (k, v) :: fields => string k ++ ":" ++ write v ++ "," ++ writeFields fields

end

end Json

end SealedRelay.Text
