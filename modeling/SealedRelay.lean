import SealedRelay.Main
import SealedRelay.Proxy.Relaying
import SealedRelay.Scenario
import SealedRelay.Text.Hex
import SealedRelay.Proofs.Mux.Pair
import SealedRelay.Proofs.Mux.Turn
import SealedRelay.Proofs.Mux.Sound
import SealedRelay.Proofs.Mux.Table
import SealedRelay.Proofs.Mux.Numbering
import SealedRelay.Proofs.Mux.Effect
import SealedRelay.Proofs.Mux.Tick
import SealedRelay.Proofs.Mux.Conversation
import SealedRelay.Proofs.Mux.View
import SealedRelay.Proofs.Mux.Integrity
import SealedRelay.Proofs.Mux.Credit
import SealedRelay.Proofs.Mux.Agreement
import SealedRelay.Proofs.Mux.Compliance
import SealedRelay.Proofs.Mux.Alone
import SealedRelay.Proofs.Mux.Lifecycle
import SealedRelay.Proofs.Mux.Aftermath
import SealedRelay.Proofs.Frame.Decode
import SealedRelay.Proofs.Frame.Exact
import SealedRelay.Proofs.Frame.Streaming
import SealedRelay.Proofs.Connection.Alone
import SealedRelay.Proofs.Connection.Transparent
import SealedRelay.Proofs.Connection.Teardown
import SealedRelay.Proofs.Mux.Opener
import SealedRelay.Proofs.Talk.Hearing
import SealedRelay.Proofs.Talk.Acceptance
import SealedRelay.Proofs.Payload.Destination
import SealedRelay.Proofs.Handshake.Failure
import SealedRelay.Proofs.Handshake.Acceptance
import SealedRelay.Proofs.Handshake.Agreement
import SealedRelay.Proofs.Seal.Conversation
import SealedRelay.Proofs.Supervisor.Pool
import SealedRelay.Proofs.Supervisor.Crowd
import SealedRelay.Proofs.Supervisor.Lobby
import SealedRelay.Proofs.Supervisor.Waiting
import SealedRelay.Proofs.Proxy.Socks5
import SealedRelay.Proofs.Proxy.RequestHead
import SealedRelay.Proofs.Splice.Pumps
import SealedRelay.Proofs.Proxy.Handover
import SealedRelay.Proofs.Proxy.Forwarding
import SealedRelay.Proofs.Proxy.Registry
import SealedRelay.Proofs.Connection.Keepalive
import SealedRelay.Proofs.Mux.Emission
import SealedRelay.Proofs.Mux.OpenCall
import SealedRelay.Proofs.Mux.Silence
import SealedRelay.Proofs.Mux.Rejection
import SealedRelay.Proofs.Mux.Wake
import SealedRelay.Proofs.Mux.WriteAll
import SealedRelay.Proofs.Mux.Spending
import SealedRelay.Proofs.Connection.Lawful
import SealedRelay.Proofs.Connection.Quiet
import SealedRelay.Proofs.Mux.Apart
import SealedRelay.Proofs.Mux.Closing
import SealedRelay.Proofs.Mux.Tenant
import SealedRelay.Proofs.Splice.Strokes
import SealedRelay.Proofs.Splice.Schedule
import SealedRelay.Proofs.Splice.Release
import SealedRelay.Proofs.Splice.Copying
import SealedRelay.Proofs.Seal.Nonces
import SealedRelay.Proofs.Connection.Authentic
import SealedRelay.Proofs.Supervisor.Retry
import SealedRelay.Proofs.Supervisor.Admission
import SealedRelay.Proofs.Settings.Overriding
import SealedRelay.Proofs.Talk.Saying
import SealedRelay.Proofs.Proxy.Refusal
import SealedRelay.Proofs.Address.Written
import SealedRelay.Proofs.Proxy.Naming
