import SealedRelay.CommandLine
import SealedRelay.Gateway.Server
import SealedRelay.Proxy.Server
/-!
# The program

Carrying out a command that was understood: the settings are loaded and merged, the relay is
started, and when it is interrupted it stops and reports. On this network no client ever comes, so
the interrupt is the first thing that happens to a relay that has started.
-/
namespace SealedRelay.Program

open CommandLine (Invocation)
open Settings (File)

def name : String := "cipher-relay"

def version : String := "0.1.0"

/-- What the program runs on. -/
structure Host where
  readFile : String → Except Fault Bytes
  network : Network := {}
  /-- Standard output is a terminal. -/
  terminal : Bool := false
  /-- What the program was built for, if it was told. -/
  target : String := "unknown"
  /-- How the program was built, if it was told. -/
  profile : String := "unknown"

structure Outcome where
  stdout : String := ""
  log : Log := []
  result : Except Exit Unit := .ok ()

def versionText (host : Host) (extended : Bool) : String :=
  if ¬ extended then s!"{name} {version}\n"
  else
    let protocol := (Bytes.toText? Handshake.magic).getD ""
    s!"name: {name}\nversion: {version}\ntarget: {host.target}\nprofile: {host.profile}\n" ++
    s!"protocol: {protocol} v{Handshake.version.toNat}\ncipher: chacha20-poly1305, hkdf-sha256\n"

def localConfig (host : Host) (flags : Settings.LocalFlags) : Except Exit Proxy.Config := do
  Settings.resolveLocal flags (← File.load host.readFile flags.config)

def remoteConfig (host : Host) (flags : Settings.RemoteFlags) : Except Exit Gateway.Config := do
  Settings.resolveRemote flags (← File.load host.readFile flags.config)

/-- Runs the local relay until it is interrupted; none if it cannot even fail. -/
def runLocal (host : Host) (format : Report.Format) (c : Proxy.Config) : Option Outcome :=
  match Proxy.Server.start host.network c with
  | (_, none) => none
  | (log, some (.error e)) =>
    some { log, result := .error (.ofProxy "local relay failed to start" e) }
  | (log, some (.ok relay)) =>
    let (last, stats) := Proxy.Server.stop relay Pool.noConnections {} 0
    some
      { stdout := Report.proxy format stats
        log := log ++ Log.infos (relay.addresses.map (fun _ => "accepting proxy clients") ++
          ["interrupt received"]) ++ last }

/-- Runs the remote relay until it is interrupted. -/
def runRemote (host : Host) (format : Report.Format) (c : Gateway.Config) : Outcome :=
  match Gateway.Server.start host.network c with
  | (log, .error e) => { log, result := .error (.ofGateway "remote relay failed to start" e) }
  | (log, .ok relay) =>
    let (last, stats) := Gateway.Server.stop relay
    { stdout := Report.gateway format stats
      log := log ++ Log.infos ["accepting local relays", "interrupt received"] ++ last }

/-- Carries out a command; none if it cannot even fail. -/
def run (host : Host) (i : Invocation) : Option Outcome :=
  let format := i.format.getD (.forTerminal host.terminal)
  match i.command with
  | .version extended => some { stdout := versionText host extended }
  | .proxy flags =>
    match localConfig host flags with
    | .error e => some { result := .error e }
    | .ok c => runLocal host format c
  | .gateway flags =>
    match remoteConfig host flags with
    | .error e => some { result := .error e }
    | .ok c => some (runRemote host format c)

def Outcome.code (o : Outcome) : Nat :=
  match o.result with
  | .ok () => Exit.success
  | .error e => e.code

/-- What the caller of the program sees of it. -/
structure Execution where
  code : Nat
  stdout : String := ""
  /-- As much of the log as was asked for. -/
  log : Log := []
  logFormat : CommandLine.LogFormat := .text
  /-- The last words about a failure. -/
  complaint : Option String := none

def Execution.stderr (e : Execution) : List String :=
  (e.log.map fun l =>
    match e.logFormat with
    | .text => l.text
    | .json => l.json) ++ e.complaint.toList

/-- The exit status of a program that could not even fail. -/
def abortedCode : Nat := 101

/-- The whole program, from its environment and arguments to its exit status. -/
def execute (host : Host) (env : List (String × String)) (args : List String) : Execution :=
  match CommandLine.parse env args with
  | .error r =>
    { code := r.code, stdout := if r = .version then s!"{name} {version}\n" else "" }
  | .ok i =>
    match run host i with
    | none => { code := abortedCode }
    | some o =>
      { code := o.code, stdout := o.stdout, log := o.log.upTo i.logLevel
        logFormat := i.logFormat
        complaint :=
          match o.result with
          | .ok () => none
          | .error e => some s!"error: {e.message}" }

end SealedRelay.Program
