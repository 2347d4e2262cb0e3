import PeerLink.Error
import PeerLink.Log.Event

/-!
Traffic counters. Every count wraps around at 2^64, the gauge of active connections below zero too.
-/

set_option autoImplicit false
set_option relaxedAutoImplicit false

namespace PeerLink

structure Counters where
  connectionsTotal : UInt64 := 0
  connectionsActive : UInt64 := 0
  packetsSent : UInt64 := 0
  packetsReceived : UInt64 := 0
  bytesSent : UInt64 := 0
  bytesReceived : UInt64 := 0
  decodeErrors : UInt64 := 0
  transportErrors : UInt64 := 0
  deriving DecidableEq

namespace Counters

def established (counters : Counters) : Counters :=
  { counters with
    connectionsTotal := counters.connectionsTotal + 1
    connectionsActive := counters.connectionsActive + 1 }

def closed (counters : Counters) : Counters :=
  { counters with connectionsActive := counters.connectionsActive - 1 }

def sent (size : UInt64) (counters : Counters) : Counters :=
  { counters with
    packetsSent := counters.packetsSent + 1
    bytesSent := counters.bytesSent + size }

def received (size : UInt64) (counters : Counters) : Counters :=
  { counters with
    packetsReceived := counters.packetsReceived + 1
    bytesReceived := counters.bytesReceived + size }

/-- Malformed input and transport failures are counted apart; other errors are not counted. -/
def failed (failure : ProtocolError) (counters : Counters) : Counters :=
  match failure.category with
  | .decode => { counters with decodeErrors := counters.decodeErrors + 1 }
  | .transport => { counters with transportErrors := counters.transportErrors + 1 }
  | .other => counters

theorem failed_of_other {failure : ProtocolError} (h : failure.category = .other)
    (counters : Counters) : counters.failed failure = counters := by
  unfold failed
  rw [h]

theorem failed_of_decode {failure : ProtocolError} (h : failure.category = .decode)
    (counters : Counters) :
    counters.failed failure = { counters with decodeErrors := counters.decodeErrors + 1 } := by
  unfold failed
  rw [h]

theorem failed_of_transport {failure : ProtocolError} (h : failure.category = .transport)
    (counters : Counters) :
    counters.failed failure =
      { counters with transportErrors := counters.transportErrors + 1 } := by
  unfold failed
  rw [h]

/-- The counts by name, in reporting order. -/
def entries (counters : Counters) : List (String × UInt64) :=
  [("connections_total", counters.connectionsTotal),
   ("connections_active", counters.connectionsActive),
   ("packets_sent", counters.packetsSent),
   ("packets_received", counters.packetsReceived),
   ("bytes_sent", counters.bytesSent),
   ("bytes_received", counters.bytesReceived),
   ("decode_errors", counters.decodeErrors),
   ("transport_errors", counters.transportErrors)]

/-- The counts that differ from `before`, each with its signed change. -/
def changes (before after : Counters) : List (String × Int) :=
  (before.entries.zip after.entries).filterMap fun ((name, old), (_, new)) ↦
    if old = new then none else some (name, ((new - old).toNat : Int).bmod UInt64.size)

/-- The report of all counts after `uptime` seconds. -/
def report (counters : Counters) (uptime : Nat) : Log.Event where
  level := .info
  origin := .counters
  message := "Protocol metrics snapshot"
  fields := counters.entries.map (fun (name, count) ↦ (name, .number count.toNat)) ++
    [("uptime_seconds", .number uptime)]

end Counters

end PeerLink
