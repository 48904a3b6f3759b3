import SealedRelay.Bytes
import SealedRelay.Exit
import SealedRelay.Text.Json.Reader
/-!
# The configuration file

A JSON record of settings, each of which may be missing. A section may also be written as a list
of its values in order. Keys that are not known, keys that stand twice and values of the wrong type
are refused.
-/
namespace SealedRelay.Settings

open Text (Json)

structure LocalSection where
  listen : List String := []
  remote : Option String := none
  socksUsername : Option String := none
  socksPassword : Option String := none
  maxStreams : Option Nat := none
  maxConnections : Option Nat := none
  connectTimeout : Option String := none
  openTimeout : Option String := none
  shutdownGrace : Option String := none
  deriving DecidableEq

structure RemoteSection where
  listen : Option String := none
  connectTimeout : Option String := none
  shutdownGrace : Option String := none
  deriving DecidableEq

/-- What a configuration file sets. -/
structure File where
  secret : Option String := none
  proxy : LocalSection := {}
  gateway : RemoteSection := {}
  deriving DecidableEq

/-- The values of a section by key, given the keys it may have in their order. -/
def fields (keys : List String) : Json → Option (List (String × Json))
  | .record fs =>
    let found := fs.map (·.1)
    if found.all keys.contains && found.eraseDups.length == found.length then some fs else none
  | .list vs => if vs.length ≤ keys.length then some (keys.zip vs) else none
  | _ => none

/-- A text that may be missing or null. -/
def text? (fs : List (String × Json)) (key : String) : Option (Option String) :=
  match fs.lookup key with
  | none | some .null => some none
  | some (.text s) => some (some s)
  | _ => none

/-- A number that may be missing or null. -/
def nat? (fs : List (String × Json)) (key : String) : Option (Option Nat) :=
  match fs.lookup key with
  | none | some .null => some none
  | some v => v.nat?.map some

/-- A list of texts that may be missing. -/
def texts? (fs : List (String × Json)) (key : String) : Option (List String) :=
  match fs.lookup key with
  | none => some []
  | some (.list vs) => vs.mapM fun
    | .text s => some s
    | _ => none
  | _ => none

/-- A section that may be missing. -/
def section? {α : Type} (fs : List (String × Json)) (key : String) (missing : α)
    (read : Json → Option α) : Option α :=
  match fs.lookup key with
  | none => some missing
  | some v => read v

def LocalSection.read (v : Json) : Option LocalSection := do
  let fs ← fields ["listen", "remote", "socks_username", "socks_password", "max_streams",
    "max_connections", "connect_timeout", "open_timeout", "shutdown_grace"] v
  return {
    listen := ← texts? fs "listen"
    remote := ← text? fs "remote"
    socksUsername := ← text? fs "socks_username"
    socksPassword := ← text? fs "socks_password"
    maxStreams := ← nat? fs "max_streams"
    maxConnections := ← nat? fs "max_connections"
    connectTimeout := ← text? fs "connect_timeout"
    openTimeout := ← text? fs "open_timeout"
    shutdownGrace := ← text? fs "shutdown_grace" }

def RemoteSection.read (v : Json) : Option RemoteSection := do
  let fs ← fields ["listen", "connect_timeout", "shutdown_grace"] v
  return {
    listen := ← text? fs "listen"
    connectTimeout := ← text? fs "connect_timeout"
    shutdownGrace := ← text? fs "shutdown_grace" }

namespace File

def read (v : Json) : Option File := do
  let fs ← fields ["secret", "local", "remote"] v
  return {
    secret := ← text? fs "secret"
    proxy := ← section? fs "local" {} LocalSection.read
    gateway := ← section? fs "remote" {} RemoteSection.read }

def parse (s : String) : Except Exit File :=
  match (Json.ofText? s).bind read with
  | some file => .ok file
  | none => .error ⟨Exit.dataInvalid, "not a configuration"⟩

/-- Loads a file, if one is named. -/
def load (readFile : String → Except Fault Bytes) : Option String → Except Exit File
  | none => .ok {}
  | some path =>
    match do (Bytes.toText? (← readFile path)).elim (.error Fault.notText) .ok with
    | .error f => .error (.usage s!"cannot read config file {path}: {f.message}")
    | .ok s => (parse s).mapError fun e => ⟨e.code, s!"invalid config file {path}: {e.message}"⟩

end File

end SealedRelay.Settings
