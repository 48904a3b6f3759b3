import SealedRelay.Bytes
import SealedRelay.Text.Quoted
/-!
# Network addresses and their text

An IPv4 address is four octets written in decimal, an IPv6 address sixteen octets written as
eight hexadecimal groups, the first of the longest runs of two or more zero groups left out. On a
machine an IPv6 address may have a scope, which says whose address it is where several interfaces
use the same ones.
-/
namespace SealedRelay

structure Ipv4 where
  octets : Bytes
  size : octets.length = 4 := by rfl
  deriving DecidableEq

/-- The address at which a machine reaches itself. -/
def Ipv4.loopback : Ipv4 := ⟨[127, 0, 0, 1], rfl⟩

structure Ipv6 where
  octets : Bytes
  size : octets.length = 16 := by rfl
  deriving DecidableEq

inductive Ip where
  | v4 (address : Ipv4)
  | v6 (address : Ipv6)
  deriving DecidableEq

structure Endpoint where
  ip : Ip
  port : UInt16
  deriving DecidableEq

/-- An endpoint as a machine knows it, with the scope of its IPv6 address; 0 stands for none. -/
structure ScopedEndpoint extends Endpoint where
  scope : UInt32 := 0
  deriving DecidableEq

def Ipv4.text (a : Ipv4) : String :=
  ".".intercalate (a.octets.map fun o => toString o.toNat)

namespace Ipv6

/-- The eight 16-bit groups of an address. -/
def groups (a : Ipv6) : List Nat :=
  (List.range 8).map fun i => Bytes.toNat ((a.octets.drop (2 * i)).take 2)

/-- The address with the given eight groups. -/
def ofGroups? (gs : List Nat) : Option Ipv6 :=
  let octets := gs.flatMap (Bytes.ofNat 2)
  if h : octets.length = 16 then some ⟨octets, h⟩ else none

/-- The IPv4 address that an address maps: the one in its last four octets, if `::ffff` comes
before them. -/
def mapped? (a : Ipv6) : Option Ipv4 :=
  if a.octets.take 12 = List.replicate 10 0 ++ [0xff, 0xff] then
    some ⟨a.octets.drop 12, by simp [a.size]⟩
  else none

/-- Length of the run of zeros at the front. -/
def zeroRun (gs : List Nat) : Nat := (gs.takeWhile (· == 0)).length

/-- Start and length of the first longest run of zero groups among those from `start` on. -/
def longestZeroRun (start : Nat) : List Nat → Nat × Nat
  | [] => (start, 0)
  | g :: gs =>
    let here := zeroRun (g :: gs)
    let later := longestZeroRun (start + 1) gs
    if later.2 > here then later else (start, here)

/-- Groups in hexadecimal between colons. -/
def groupsText (gs : List Nat) : String := ":".intercalate (gs.map Text.hex)

/-- The text of an address. One that maps an IPv4 address ends in its dotted form. -/
def text (a : Ipv6) : String :=
  match a.mapped? with
  | some b => "::ffff:" ++ b.text
  | none =>
    let gs := a.groups
    let (start, length) := longestZeroRun 0 gs
    if length > 1 then
      groupsText (gs.take start) ++ "::" ++ groupsText (gs.drop (start + length))
    else groupsText gs

end Ipv6

def Ip.text : Ip → String
  | .v4 a => a.text
  | .v6 a => a.text

/-- Address and port; an IPv6 address stands in brackets, with its scope behind a percent sign. -/
def ScopedEndpoint.text (e : ScopedEndpoint) : String :=
  match e.ip with
  | .v4 a => s!"{a.text}:{e.port.toNat}"
  | .v6 a =>
    let scope := if e.scope = 0 then "" else s!"%{e.scope.toNat}"
    s!"[{a.text}{scope}]:{e.port.toNat}"

def Endpoint.text (e : Endpoint) : String := ({ toEndpoint := e } : ScopedEndpoint).text

end SealedRelay
