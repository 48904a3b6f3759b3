import SealedRelay.Scenario.Clients
import SealedRelay.Scenario.Link
import SealedRelay.Scenario.Listeners
import SealedRelay.Scenario.Machine
import SealedRelay.Scenario.Meeting
import SealedRelay.Scenario.Office
import SealedRelay.Scenario.Relays
import SealedRelay.Scenario.Sessions
import SealedRelay.Scenario.Socket
/-!
# Scenarios

Parts of the relays in a world of their own, driven step by step: sessions, multiplexers joined by
queues, a connection and its peer, a splice and its application, a handshake, the pool and the
supervisor, the relays and the program on a machine. Time is a number that moves on when a scenario
is told so, and between two steps everything runs that can.
-/
