import SealedRelay.Gateway.Config
import SealedRelay.Proxy.Config
import SealedRelay.Settings.File
import SealedRelay.Settings.Time
/-!
# Merging settings

A flag wins over the file, and the file over the default. A file's value that a flag overrides is
not even looked at.
-/
namespace SealedRelay.Settings

structure LocalFlags where
  config : Option String := none
  listen : List String := []
  remote : Option String := none
  secret : Option String := none
  socksUsername : Option String := none
  socksPassword : Option String := none
  maxStreams : Option Nat := none
  maxConnections : Option Nat := none
  connectTimeout : Option String := none
  openTimeout : Option String := none
  shutdownGrace : Option String := none
  deriving DecidableEq

structure RemoteFlags where
  config : Option String := none
  listen : Option String := none
  secret : Option String := none
  connectTimeout : Option String := none
  shutdownGrace : Option String := none
  deriving DecidableEq

/-- The secret, which must be set somewhere. -/
def resolveSecret (flag file : Option String) : Except Exit Secret :=
  match flag <|> file with
  | some s => .ok ⟨Bytes.ofText s⟩
  | none => .error (.usage "a shared secret is required (--secret or CIPHER_RELAY_SECRET)")

/-- The listeners, if any are set. -/
def resolveListeners (flag file : List String) (default : List Proxy.Listener) :
    Except Exit (List Proxy.Listener) :=
  match if flag.isEmpty then file else flag with
  | [] => .ok default
  | values => values.mapM fun value =>
    (Proxy.Listener.parse value).mapError fun e => .usage s!"--listen {value}: {e.message}"

/-- Credentials take both parts or none. -/
def resolveAuth (username password : Option String) : Except Exit (Option Proxy.Credentials) :=
  match username, password with
  | some username, some password => .ok (some ⟨username, password⟩)
  | none, none => .ok none
  | _, _ => .error (.usage "SOCKS5 username and password must be given together")

def resolveLocal (flags : LocalFlags) (file : File) : Except Exit Proxy.Config := do
  let part := file.proxy
  let secret ← resolveSecret flags.secret file.secret
  let c : Proxy.Config := { secret }
  let listeners ← resolveListeners flags.listen part.listen c.listeners
  let auth ← resolveAuth (flags.socksUsername <|> part.socksUsername)
    (flags.socksPassword <|> part.socksPassword)
  let connectTimeout ← pickDuration flags.connectTimeout part.connectTimeout
  let openTimeout ← pickDuration flags.openTimeout part.openTimeout
  let shutdownGrace ← pickDuration flags.shutdownGrace part.shutdownGrace
  let c : Proxy.Config :=
    { c with
      listeners
      auth
      remote := (flags.remote <|> part.remote).getD c.remote
      maxStreams := (flags.maxStreams <|> part.maxStreams).getD c.maxStreams
      maxConnections := (flags.maxConnections <|> part.maxConnections).getD c.maxConnections
      connectTimeout := connectTimeout.getD c.connectTimeout
      mux := { c.mux with openTimeout := openTimeout.getD c.mux.openTimeout }
      shutdownGrace := shutdownGrace.getD c.shutdownGrace }
  c.validate.mapError (.ofProxy "invalid local configuration")
  return c

def resolveRemote (flags : RemoteFlags) (file : File) : Except Exit Gateway.Config := do
  let part := file.gateway
  let secret ← resolveSecret flags.secret file.secret
  let c : Gateway.Config := { secret }
  let connectTimeout ← pickDuration flags.connectTimeout part.connectTimeout
  let shutdownGrace ← pickDuration flags.shutdownGrace part.shutdownGrace
  let c : Gateway.Config :=
    { c with
      listen := (flags.listen <|> part.listen).getD c.listen
      connectTimeout := connectTimeout.getD c.connectTimeout
      shutdownGrace := shutdownGrace.getD c.shutdownGrace }
  c.validate.mapError (.ofGateway "invalid remote configuration")
  return c

end SealedRelay.Settings
