import SealedRelay.CommandLine.Flag
import SealedRelay.Log
import SealedRelay.Report
import SealedRelay.Settings.Resolve
/-!
# The command line

The program runs the local relay, runs the remote relay, or shows its version. Flags about output
and logging go before or after the command.
-/
namespace SealedRelay.CommandLine

inductive LogFormat where
  | text
  | json
  deriving DecidableEq

/-- What to do. -/
inductive Command where
  | proxy (flags : Settings.LocalFlags)
  | gateway (flags : Settings.RemoteFlags)
  | version (extended : Bool)
  deriving DecidableEq

/-- A command line that was understood. -/
structure Invocation where
  /-- How reports are printed, if that was said. -/
  format : Option Report.Format := none
  logFormat : LogFormat := .text
  logLevel : Log.Level := .info
  command : Command
  deriving DecidableEq

def Invocation.config? (i : Invocation) : Option String :=
  match i.command with
  | .proxy flags => flags.config
  | .gateway flags => flags.config
  | .version _ => none

/-- The flags that every command takes. -/
def sharedFlags : List Flag :=
  [{ name := "format", value := some (.choice ["json", "table"]) },
   { name := "log-format", value := some (.choice ["text", "json"])
     env := some "CIPHER_RELAY_LOG_FORMAT" },
   { name := "log-level", value := some (.choice ["error", "warn", "info", "debug", "trace"])
     env := some "CIPHER_RELAY_LOG_LEVEL" }]

/-- What the program takes before a command. -/
def program : Grammar where
  flags := sharedFlags
  commands := ["local", "remote", "version", "help"]
  versioned := true

def localGrammar : Grammar where
  flags :=
    [{ name := "config", value := some .path, env := some "CIPHER_RELAY_CONFIG" },
     { name := "listen", many := true, env := some "CIPHER_RELAY_LISTEN" },
     { name := "remote", env := some "CIPHER_RELAY_REMOTE" },
     { name := "secret", env := some "CIPHER_RELAY_SECRET" },
     { name := "socks-username", env := some "CIPHER_RELAY_SOCKS_USERNAME" },
     { name := "socks-password", env := some "CIPHER_RELAY_SOCKS_PASSWORD" },
     { name := "max-streams", value := some .number, env := some "CIPHER_RELAY_MAX_STREAMS" },
     { name := "max-connections", value := some .number },
     { name := "connect-timeout" },
     { name := "open-timeout" },
     { name := "shutdown-grace" }] ++ sharedFlags

def remoteGrammar : Grammar where
  flags :=
    [{ name := "config", value := some .path, env := some "CIPHER_RELAY_CONFIG" },
     { name := "listen", env := some "CIPHER_RELAY_REMOTE_LISTEN" },
     { name := "secret", env := some "CIPHER_RELAY_SECRET" },
     { name := "connect-timeout" },
     { name := "shutdown-grace" }] ++ sharedFlags

def versionGrammar : Grammar where
  flags := { name := "extended", value := none } :: sharedFlags

def environmentNames : List String :=
  (localGrammar.flags ++ remoteGrammar.flags).filterMap (·.env) |>.eraseDups

def values (found : Found) (name : String) : List String :=
  ((found.lookup name).map (·.values)).getD []

def value? (found : Found) (name : String) : Option String := (values found name).head?

def nat? (found : Found) (name : String) : Option Nat :=
  (value? found name).bind fun v => Text.unsigned? Text.maxUInt64 v.toList

def localFlags (found : Found) : Settings.LocalFlags where
  config := value? found "config"
  listen := values found "listen"
  remote := value? found "remote"
  secret := value? found "secret"
  socksUsername := value? found "socks-username"
  socksPassword := value? found "socks-password"
  maxStreams := nat? found "max-streams"
  maxConnections := nat? found "max-connections"
  connectTimeout := value? found "connect-timeout"
  openTimeout := value? found "open-timeout"
  shutdownGrace := value? found "shutdown-grace"

def remoteFlags (found : Found) : Settings.RemoteFlags where
  config := value? found "config"
  listen := value? found "listen"
  secret := value? found "secret"
  connectTimeout := value? found "connect-timeout"
  shutdownGrace := value? found "shutdown-grace"

def readCommand (environment : List (String × String)) (g : Grammar) (args : List String) :
    Except Refusal Found := do
  let (found, pending, _) ← g.scan [] none args
  g.withEnvironment environment (← found.settle pending)

def command (environment : List (String × String)) (name : String) (args : List String) :
    Except Refusal (Found × Command) := do
  match name with
  | "local" =>
    let found ← readCommand environment localGrammar args
    let flags := localFlags found
    if flags.socksUsername.isSome ≠ flags.socksPassword.isSome then
      .error .missingRequiredArgument
    return (found, .proxy flags)
  | "remote" =>
    let found ← readCommand environment remoteGrammar args
    return (found, .gateway (remoteFlags found))
  | _ =>
    let found ← readCommand environment versionGrammar args
    return (found, .version (found.lookup "extended").isSome)

/-- The value of a shared flag: the one after the command wins, unless only the one before it was
written on the command line. -/
def shared? (before after : Found) (name : String) : Option String :=
  match before.lookup name, after.lookup name with
  | some b, some a =>
    (if b.source = .commandLine ∧ a.source = .environment then b else a).values.head?
  | some b, none => b.values.head?
  | none, a => a.bind (·.values.head?)

def format? : String → Option Report.Format
  | "json" => some .json
  | "table" => some .table
  | _ => none

def level? : String → Option Log.Level
  | "error" => some .error
  | "warn" => some .warn
  | "info" => some .info
  | "debug" => some .debug
  | "trace" => some .trace
  | _ => none

def parse (environment : List (String × String)) (args : List String) :
    Except Refusal Invocation := do
  let (before, pending, rest) ← program.scan [] none args
  match rest with
  | none =>
    let found ← program.withEnvironment environment (← before.settle pending)
    .error (if found.isEmpty then .helpOnMissing else .missingSubcommand)
  | some (name, args) =>
    let (after, command) ← command environment name args
    let before ← program.withEnvironment environment (← before.settle pending)
    return {
      format := (shared? before after "format").bind format?
      logFormat := if shared? before after "log-format" = some "json" then .json else .text
      logLevel := ((shared? before after "log-level").bind level?).getD .info
      command }

end SealedRelay.CommandLine
