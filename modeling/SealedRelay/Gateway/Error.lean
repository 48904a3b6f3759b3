import SealedRelay.Link.Error
/-!
# Failures of the remote relay
-/
namespace SealedRelay.Gateway

inductive Error where
  | socket (error : SocketError)
  | link (error : LinkError)
  | keys (error : SealError)
  | config (detail : String)
  deriving DecidableEq

def Error.message : Error → String
  | socket error => error.message
  | link error => error.message
  | keys error => s!"key setup failed: {error.message}"
  | config detail => s!"invalid configuration: {detail}"

end SealedRelay.Gateway
