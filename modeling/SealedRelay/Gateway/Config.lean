import SealedRelay.Gateway.Error
import SealedRelay.Handshake
import SealedRelay.Mux
/-!
# Settings of the remote relay
-/
namespace SealedRelay.Gateway

structure Config where
  secret : Secret
  /-- Where local relays connect to. -/
  listen : String := "127.0.0.1:9528"
  handshake : Handshake.Config := {}
  mux : Mux.Config := {}
  /-- How long connecting to a destination may take. -/
  connectTimeout : Duration := Duration.ofSecs 10
  /-- How long the second direction of a relayed stream may go on after the first has ended. -/
  halfCloseGrace : Duration := Duration.ofSecs 5
  /-- How long relayed streams may go on after the relay was told to stop. -/
  shutdownGrace : Duration := Duration.ofSecs 5
  deriving DecidableEq

/-- Checks what no relay could work with. -/
def Config.validate (c : Config) : Except Error Unit :=
  if c.secret.bytes = [] then .error (.config "shared secret is empty")
  else if c.mux.maxStreams = 0 ∨ c.mux.maxFramePayload = 0 ∨ c.mux.initialWindow = 0 then
    .error (.config "multiplexer limits must be positive")
  else .ok ()

end SealedRelay.Gateway
