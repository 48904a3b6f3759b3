import SealedRelay.Proxy.FrontEnd
import SealedRelay.Text.Json
import SealedRelay.Traffic
/-!
# What the local relay reports

A snapshot of the clients that are being relayed and of the traffic so far, as JSON and as the
text that the proxy serves about itself.
-/
namespace SealedRelay.Proxy

structure ConnectionReport where
  number : Nat
  client : String
  protocol : Protocol
  destination : String
  traffic : Traffic
  ageMillis : Nat

structure DestinationReport where
  destination : String
  connections : Nat
  traffic : Traffic

structure Snapshot where
  /-- Clients ever relayed. -/
  connections : Nat := 0
  traffic : Traffic := {}
  wire : WireTraffic := {}
  /-- Open connections to the remote relay. -/
  transports : Nat := 0
  /-- Streams on them. -/
  streams : Nat := 0
  active : List ConnectionReport := []
  destinations : List DestinationReport := []

open Text (Json)

def ConnectionReport.json (c : ConnectionReport) : Json :=
  .record [("id", .nat c.number), ("client", .text c.client), ("protocol", .text c.protocol.name),
    ("destination", .text c.destination), ("upload_bytes", .nat c.traffic.upload),
    ("download_bytes", .nat c.traffic.download), ("age_ms", .nat c.ageMillis)]

def DestinationReport.json (d : DestinationReport) : Json :=
  .record [("destination", .text d.destination), ("connections", .nat d.connections),
    ("upload_bytes", .nat d.traffic.upload), ("download_bytes", .nat d.traffic.download)]

namespace Snapshot

def json (s : Snapshot) : Json :=
  .record [("total_connections", .nat s.connections), ("upload_bytes", .nat s.traffic.upload),
    ("download_bytes", .nat s.traffic.download), ("wire_sent_bytes", .nat s.wire.sent),
    ("wire_received_bytes", .nat s.wire.received), ("transport_connections", .nat s.transports),
    ("active_streams", .nat s.streams),
    ("active_connections", .list (s.active.map (·.json))),
    ("destinations", .list (s.destinations.map (·.json)))]

def activeLine (c : ConnectionReport) : String :=
  s!"  #{c.number} {c.protocol.name} {c.client} -> {c.destination} up={c.traffic.upload} " ++
    s!"down={c.traffic.download} age={c.ageMillis}ms\n"

def destinationLine (d : DestinationReport) : String :=
  s!"  {d.destination} connections={d.connections} up={d.traffic.upload} " ++
    s!"down={d.traffic.download}\n"

/-- Lines under a title; nothing if there are none. -/
def part (title : String) (lines : List String) : String :=
  if lines = [] then "" else title ++ "\n" ++ String.join lines

/-- The text that the proxy serves about itself. -/
def text (s : Snapshot) : String :=
  s!"connections: {s.active.length} active, {s.connections} total\n" ++
  s!"traffic: {s.traffic.upload} bytes up, {s.traffic.download} bytes down\n" ++
  s!"wire: {s.wire.sent} bytes sent, {s.wire.received} bytes received\n" ++
  s!"transport: {s.transports} connections, {s.streams} streams\n" ++
  part "active:" (s.active.map activeLine) ++
  part "destinations:" (s.destinations.map destinationLine)

end Snapshot

end SealedRelay.Proxy
