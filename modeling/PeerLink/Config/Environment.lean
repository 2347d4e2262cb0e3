import PeerLink.Config.Store

/-!
Settings from environment variables, on top of the defaults. A variable that is no text, or whose
text does not suit its field, counts as not set.
-/

set_option autoImplicit false
set_option relaxedAutoImplicit false

namespace PeerLink.Config

/-- The octets of each variable that is set. -/
abbrev Environment := String → Option Bytes

namespace Environment

def text? (environment : Environment) (name : String) : Option String :=
  (environment name).bind Bytes.text?

def number? (environment : Environment) (name : String) : Option Nat :=
  (environment.text? name).bind fun text ↦ Text.unsigned? UInt64.size text.toList

def boolean? (environment : Environment) (name : String) : Option Bool :=
  (environment.text? name).bind fun text ↦
    if text = "true" then some true else if text = "false" then some false else none

def limit? (environment : Environment) (name : String) : Option Duration :=
  (environment.number? name).map Duration.ofMilliseconds

end Environment

def ofEnvironment (environment : Environment) : Config :=
  let default : Config := {}
  { codec :=
      { default.codec with
        strictFraming := (environment.boolean? "PEER_PROTOCOL_STRICT_FRAMING").getD
          default.codec.strictFraming }
    transport :=
      ⟨(environment.number? "PEER_PROTOCOL_READ_BUFFER_SIZE").getD
          default.transport.readBufferSize,
        (environment.limit? "PEER_PROTOCOL_READ_TIMEOUT_MS").getD default.transport.readTimeout,
        (environment.limit? "PEER_PROTOCOL_WRITE_TIMEOUT_MS").getD
          default.transport.writeTimeout⟩
    client :=
      { default.client with
        address := (environment.text? "PEER_PROTOCOL_ADDRESS").getD default.client.address } }

end PeerLink.Config
