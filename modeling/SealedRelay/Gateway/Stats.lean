import SealedRelay.Text.Json
import SealedRelay.Traffic
/-!
# What the remote relay reports
-/
namespace SealedRelay.Gateway

structure Stats where
  /-- Local relays that ever connected and proved themselves. -/
  accepted : Nat := 0
  /-- Those that are connected now. -/
  active : Nat := 0
  /-- Streams whose destination was reached. -/
  opened : Nat := 0
  /-- Streams whose destination was not. -/
  refused : Nat := 0
  /-- Bytes written to destinations. -/
  toDestinations : Nat := 0
  /-- Bytes read from destinations. -/
  fromDestinations : Nat := 0
  wire : WireTraffic := {}
  deriving DecidableEq

def Stats.json (s : Stats) : Text.Json :=
  .record [("connections_accepted", .nat s.accepted), ("active_connections", .nat s.active),
    ("streams_opened", .nat s.opened), ("streams_refused", .nat s.refused),
    ("upstream_bytes", .nat s.toDestinations), ("downstream_bytes", .nat s.fromDestinations),
    ("wire_sent_bytes", .nat s.wire.sent), ("wire_received_bytes", .nat s.wire.received)]

end SealedRelay.Gateway
