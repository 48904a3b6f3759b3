import SealedRelay.Gateway.Stats
import SealedRelay.Proxy.Snapshot
import SealedRelay.Text.Table
/-!
# Final reports

What a relay prints when it stops, as a line of JSON or as tables.
-/
namespace SealedRelay.Report

open Text (Json Table)

inductive Format where
  | json
  | table
  deriving DecidableEq

/-- The format for an output that is a terminal or not. -/
def Format.forTerminal (terminal : Bool) : Format := if terminal then table else json

/-- A line of JSON about a relay in some role. -/
def jsonLine (role : String) (stats : Json) : String :=
  (Json.record [("role", .text role), ("stats", stats)]).write ++ "\n"

def metrics (rows : List (String × Nat)) : String :=
  let t : Table :=
    { header := ["METRIC", "VALUE"], rows := rows.map fun (name, n) => [name, toString n] }
  t.text ++ "\n"

def destinations (ds : List Proxy.DestinationReport) : String :=
  if ds.isEmpty then ""
  else
    let t : Table :=
      { header := ["DESTINATION", "CONNECTIONS", "UPLOAD", "DOWNLOAD"]
        rows := ds.map fun d =>
          [d.destination, toString d.connections, toString d.traffic.upload,
            toString d.traffic.download] }
    t.text ++ "\n"

def proxy (format : Format) (s : Proxy.Snapshot) : String :=
  match format with
  | .json => jsonLine "local" s.json
  | .table =>
    metrics [("connections", s.connections), ("upload bytes", s.traffic.upload),
      ("download bytes", s.traffic.download), ("wire sent bytes", s.wire.sent),
      ("wire received bytes", s.wire.received)] ++ destinations s.destinations

def gateway (format : Format) (s : Gateway.Stats) : String :=
  match format with
  | .json => jsonLine "remote" s.json
  | .table =>
    metrics [("connections", s.accepted), ("streams opened", s.opened),
      ("streams refused", s.refused), ("upstream bytes", s.toDestinations),
      ("downstream bytes", s.fromDestinations), ("wire sent bytes", s.wire.sent),
      ("wire received bytes", s.wire.received)]

end SealedRelay.Report
