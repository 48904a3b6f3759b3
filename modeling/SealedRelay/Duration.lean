/-!
# Spans of time

A duration is a whole number of nanoseconds. Its text uses the largest of `s`, `ms`, `µs` and
`ns` in which it is at least one, with as many decimals as it takes.
-/
namespace SealedRelay

/-- A span of time. -/
structure Duration where
  nanos : Nat
  deriving DecidableEq, Repr, Inhabited

namespace Duration

def ofSecs (n : Nat) : Duration := ⟨n * 1000000000⟩

def ofMillis (n : Nat) : Duration := ⟨n * 1000000⟩

@[simp] theorem nanos_ofMillis (n : Nat) : (ofMillis n).nanos = n * 1000000 := rfl

def millis (d : Duration) : Nat := d.nanos / 1000000

@[simp] theorem millis_ofMillis (n : Nat) : (ofMillis n).millis = n := Nat.mul_div_cancel n (by decide)

/-- The whole milliseconds after which a timer for a duration fires. -/
def ticks (d : Duration) : Nat := (d.nanos + 999999) / 1000000

instance : Add Duration := ⟨fun a b => ⟨a.nanos + b.nanos⟩⟩

/-- No duration is negative. -/
instance : Sub Duration := ⟨fun a b => ⟨a.nanos - b.nanos⟩⟩

@[simp] theorem nanos_add (a b : Duration) : (a + b).nanos = a.nanos + b.nanos := rfl

@[simp] theorem nanos_sub (a b : Duration) : (a - b).nanos = a.nanos - b.nanos := rfl

/-- Seconds and nanoseconds. -/
def ofParts (secs nanos : Nat) : Duration := ⟨secs * 1000000000 + nanos⟩

def secs (d : Duration) : Nat := d.nanos / 1000000000

/-- The nanoseconds beyond the whole seconds. -/
def subsecNanos (d : Duration) : Nat := d.nanos % 1000000000

/-- The digits of `n` in `width` decimal places, trailing zeros left out. -/
def fractionDigits (n width : Nat) : List Char :=
  let digits := Nat.toDigits 10 n
  let padded := List.replicate (width - digits.length) '0' ++ digits
  (padded.reverse.dropWhile (· == '0')).reverse

/-- `n` parts, of which a unit has a one followed by `width` zeros, written in decimals of the unit. -/
def decimal (n width : Nat) (unit : String) : String :=
  let parts := Nat.pow 10 width
  let fraction := fractionDigits (n % parts) width
  let point := if fraction.isEmpty then "" else "." ++ String.ofList fraction
  toString (n / parts) ++ point ++ unit

/-- The text of a duration, as in `1.5s`, `70ms` and `0ns`. -/
def text (d : Duration) : String :=
  if d.nanos ≥ 1000000000 then decimal d.nanos 9 "s"
  else if d.nanos ≥ 1000000 then decimal d.nanos 6 "ms"
  else if d.nanos ≥ 1000 then decimal d.nanos 3 "µs"
  else decimal d.nanos 0 "ns"

end Duration

end SealedRelay
