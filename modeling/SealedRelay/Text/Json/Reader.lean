import SealedRelay.Text.Json
/-!
# Reading JSON

The reader takes exactly the grammar: no comments, no trailing commas, no leading zeros, no raw
control characters in strings, and every surrogate in its pair.
-/
namespace SealedRelay.Text.Json

/-- Whether a character may stand between tokens. -/
def isGap (c : Char) : Bool := c = ' ' || c = '\n' || c = '\r' || c = '\t'

/-- Leaves out the gap in front. -/
def skip (s : List Char) : List Char := s.dropWhile isGap

/-- A piece of a string: a character, or a code unit that was written in digits. -/
inductive Unit16 where
  | char (c : Char)
  | code (n : Nat)

/-- The number that four hexadecimal digits write. -/
def hex4? (a b c d : Char) : Option Nat := do
  let a ← hexDigit? a
  let b ← hexDigit? b
  let c ← hexDigit? c
  let d ← hexDigit? d
  return ((a * 16 + b) * 16 + c) * 16 + d

/-- The character behind a one-letter escape. -/
def escaped? : Char → Option Char
  | '"' => some '"'
  | '\\' => some '\\'
  | '/' => some '/'
  | 'b' => some '\x08'
  | 'f' => some '\x0c'
  | 'n' => some '\n'
  | 'r' => some '\r'
  | 't' => some '\t'
  | _ => none

/-- The pieces of a string up to its closing quote, and what follows it. -/
def units : List Char → Option (List Unit16 × List Char)
  | [] => none
  | '"' :: s => some ([], s)
  | '\\' :: 'u' :: a :: b :: c :: d :: s => do
    let n ← hex4? a b c d
    let (us, s) ← units s
    return (.code n :: us, s)
  | '\\' :: e :: s => do
    let c ← escaped? e
    let (us, s) ← units s
    return (.char c :: us, s)
  | c :: s =>
    if c.toNat < 0x20 ∨ c = '\\' then none
    else do
      let (us, s) ← units s
      return (.char c :: us, s)

/-- The characters that the pieces of a string make; a surrogate without its partner makes none. -/
def assemble : List Unit16 → Option (List Char)
  | [] => some []
  | .char c :: us => (assemble us).map (c :: ·)
  | .code hi :: .code lo :: us =>
    if 0xd800 ≤ hi ∧ hi < 0xdc00 then
      if 0xdc00 ≤ lo ∧ lo < 0xe000 then
        (assemble us).map (Char.ofNat (0x10000 + (hi - 0xd800) * 0x400 + (lo - 0xdc00)) :: ·)
      else none
    else if 0xdc00 ≤ hi ∧ hi < 0xe000 then none
    else (assemble (.code lo :: us)).map (Char.ofNat hi :: ·)
  | .code n :: us =>
    if 0xd800 ≤ n ∧ n < 0xe000 then none else (assemble us).map (Char.ofNat n :: ·)

def readString (s : List Char) : Option (String × List Char) := do
  let (us, s) ← units s
  let cs ← assemble us
  return (String.ofList cs, s)

def digits1 (s : List Char) : Option (List Char × List Char) :=
  let (ds, rest) := s.span Char.isDigit
  if ds = [] then none else some (ds, rest)

/-- A whole number without its sign. -/
def whole : List Char → Option (List Char × List Char)
  | '0' :: s => some (['0'], s)
  | s => digits1 s

/-- The decimals of a number, if it has any. -/
def fraction : List Char → Option (List Char × List Char)
  | '.' :: s => (digits1 s).map fun (ds, s) => ('.' :: ds, s)
  | s => some ([], s)

def exponent : List Char → Option (List Char × List Char)
  | e :: s =>
    if e = 'e' ∨ e = 'E' then
      match s with
      | '+' :: s => (digits1 s).map fun (ds, s) => (e :: '+' :: ds, s)
      | '-' :: s => (digits1 s).map fun (ds, s) => (e :: '-' :: ds, s)
      | s => (digits1 s).map fun (ds, s) => (e :: ds, s)
    else some ([], e :: s)
  | [] => some ([], [])

def readNumber (s : List Char) : Option (Json × List Char) := do
  let (sign, s) := if s.head? = some '-' then (['-'], s.tail) else ([], s)
  let (w, s) ← whole s
  let (f, s) ← fraction s
  let (e, s) ← exponent s
  return (number (String.ofList (sign ++ w ++ f ++ e)), s)

mutual

/-- A value, nested no deeper than the fuel. -/
def readValue : Nat → List Char → Option (Json × List Char)
  | 0, _ => none
  | n + 1, s =>
    match skip s with
    | 'n' :: 'u' :: 'l' :: 'l' :: s => some (null, s)
    | 't' :: 'r' :: 'u' :: 'e' :: s => some (bool true, s)
    | 'f' :: 'a' :: 'l' :: 's' :: 'e' :: s => some (bool false, s)
    | '"' :: s => (readString s).map fun (t, s) => (text t, s)
    | '[' :: s =>
      match skip s with
      | ']' :: s => some (list [], s)
      | s => (readItems n s).map fun (vs, s) => (list vs, s)
    | '\x7b' :: s =>
      match skip s with
      | '\x7d' :: s => some (record [], s)
      | s => (readFields n s).map fun (fs, s) => (record fs, s)
    | s => readNumber s

def readItems : Nat → List Char → Option (List Json × List Char)
  | 0, _ => none
  | n + 1, s => do
    let (v, s) ← readValue n s
    match skip s with
    | ',' :: s =>
      let (vs, s) ← readItems n s
      return (v :: vs, s)
    | ']' :: s => return ([v], s)
    | _ => none

def readFields : Nat → List Char → Option (List (String × Json) × List Char)
  | 0, _ => none
  | n + 1, s => do
    let '"' :: s := skip s | none
    let (k, s) ← readString s
    let ':' :: s := skip s | none
    let (v, s) ← readValue n s
    match skip s with
    | ',' :: s =>
      let (fs, s) ← readFields n s
      return ((k, v) :: fs, s)
    | '\x7d' :: s => return ([(k, v)], s)
    | _ => none

end

/-- The value that a whole text is. Every level of nesting and every item takes at least one
character, so twice the length is fuel enough. -/
def ofText? (s : String) : Option Json := do
  let (v, rest) ← readValue (2 * s.length + 2) s.toList
  if skip rest = [] then some v else none

end SealedRelay.Text.Json
