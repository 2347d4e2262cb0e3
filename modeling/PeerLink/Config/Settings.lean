import PeerLink.Link.Connection

/-!
The settings of a peer, in four sections. What a caller does not set keeps the default written
here.
-/

set_option autoImplicit false
set_option relaxedAutoImplicit false

namespace PeerLink

namespace Config

structure Codec where
  strictFraming : Bool := true
  enforceVersion : Bool := true
  deriving DecidableEq

structure Transport where
  readBufferSize : Nat := 4096
  readTimeout : Duration := .standard
  writeTimeout : Duration := .standard
  deriving DecidableEq

structure Client where
  address : String := "127.0.0.1:7946"
  connectionTimeout : Duration := .standard
  deriving DecidableEq

structure Logging where
  appName : String := "peer-protocol"
  level : Log.Level := .info
  json : Bool := false
  deriving DecidableEq

def Codec.decodeOptions (codec : Codec) : DecodeOptions where
  framing := if codec.strictFraming then .strict else .streaming
  versions := if codec.enforceVersion then .current else .any

end Config

structure Config where
  codec : Config.Codec := {}
  transport : Config.Transport := {}
  client : Config.Client := {}
  logging : Config.Logging := {}
  deriving DecidableEq

/-- A new connection with the limits, the buffer size and the decode options of `config`. There is
taken to be memory for a buffer of any size that `config` can name. -/
def Connection.ofConfig (config : Config) : Connection where
  options := config.codec.decodeOptions
  capacity := config.transport.readBufferSize
  sendLimit := config.transport.writeTimeout
  receiveLimit := config.transport.readTimeout

end PeerLink
