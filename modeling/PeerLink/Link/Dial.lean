import PeerLink.Address.Endpoint
import PeerLink.Config.Settings

/-!
Opening a connection to the configured address. A connection that could not be opened is neither
counted nor logged.
-/

set_option autoImplicit false
set_option relaxedAutoImplicit false

namespace PeerLink.Connection

variable {σ : Type}

def refused : TransportFault := ⟨.connectionRefused, "Connection refused (os error 111)"⟩

/-- Whether a dialled text leads to a peer, given which endpoints have one that accepts. -/
def reach (accepts : Endpoint → Bool) (address : String) : Except TransportFault Unit := do
  let endpoint ← Endpoint.ofText address
  endpoint.resolve
  if accepts endpoint then .ok () else .error refused

def connectedNotice : Log.Event where
  level := .info
  origin := .connection
  message := "Connected to peer"

/-- What opening a socket meets: how long that takes if it ever ends, how it ends, and whether the
open socket can be told to hold no octets back. -/
structure Dialling where
  duration : Option Nat
  outcome : Except TransportFault Unit
  prompt : Except TransportFault Unit := .ok ()

/-- The connection over the scene's stream once a socket has opened in time. -/
def connect (dialling : Dialling) (config : Config) (scene : Scene σ) :
    Except ProtocolError Connection × Scene σ :=
  let opening := underDeadline config.client.connectionTimeout dialling.duration scene.now
    (dialling.outcome.mapError ProtocolError.transport)
  let scene := scene.moveTo opening.2 scene.stream
  match opening.1, dialling.prompt with
  | .error failure, _ => (.error failure, scene)
  | .ok (), .error fault => (.error (.transport fault), scene)
  | .ok (), .ok () => (.ok (ofConfig config), register (scene.note [connectedNotice]))

/-- The connection over the scene's stream once the peer has accepted. -/
def dial (accepts : Endpoint → Bool) (config : Config) (scene : Scene σ) :
    Except ProtocolError Connection × Scene σ :=
  match reach accepts config.client.address with
  | .error fault => (.error (.transport fault), scene)
  | .ok () => (.ok (ofConfig config), register (scene.note [connectedNotice]))

/-- A peer that is there at once, or is not, is one way for a socket to open. -/
theorem dial_eq_connect {accepts : Endpoint → Bool} {dialling : Dialling} {config : Config}
    (hduration : dialling.duration = some 0)
    (houtcome : dialling.outcome = reach accepts config.client.address)
    (hprompt : dialling.prompt = .ok ()) (scene : Scene σ) :
    dial accepts config scene = connect dialling config scene := by
  unfold dial connect
  rw [hduration, underDeadline_of_le (Nat.zero_le _), houtcome, hprompt]
  cases reach accepts config.client.address with
  | error fault => rfl
  | ok value => rfl

end PeerLink.Connection
