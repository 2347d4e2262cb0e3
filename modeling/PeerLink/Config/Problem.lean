import PeerLink.Address.Socket
import PeerLink.Config.Settings

/-!
What makes settings unusable. `Config.problems` lists every problem of a configuration in the
order of its sections and fields; each field has at most one.
-/

set_option autoImplicit false
set_option relaxedAutoImplicit false

namespace PeerLink.Config

/-- A read buffer holds at least the shortest packet. -/
def minimumBuffer : Nat := Packet.minSize

/-- A read buffer beyond the largest packet is a mistake. -/
def maximumBuffer : Nat := Packet.maxSize

def minimumLimit : Duration := .ofMilliseconds 10

def maximumLimit : Duration := .ofSeconds 300

def minimumConnectionLimit : Duration := .ofMilliseconds 100

/-- In octets of UTF-8. -/
def maximumAppName : Nat := 64

inductive Problem where
  | bufferTooSmall (size : Nat)
  | bufferTooLarge (size : Nat)
  | readLimitTooShort
  | readLimitTooLong
  | writeLimitTooShort
  | writeLimitTooLong
  | addressEmpty
  | addressMalformed (address : String)
  | connectionLimitTooShort
  | appNameEmpty
  | appNameTooLong (size : Nat)
  deriving DecidableEq

def Problem.message : Problem → String
  | bufferTooSmall size => s!"Read buffer size too small: {size} bytes (minimum: {minimumBuffer})"
  | bufferTooLarge size => s!"Read buffer size too large: {size} bytes (maximum: {maximumBuffer})"
  | readLimitTooShort => s!"Read timeout too short (minimum: {minimumLimit.wholeMilliseconds}ms)"
  | readLimitTooLong => s!"Read timeout too long (maximum: {maximumLimit.wholeSeconds}s)"
  | writeLimitTooShort => s!"Write timeout too short (minimum: {minimumLimit.wholeMilliseconds}ms)"
  | writeLimitTooLong => s!"Write timeout too long (maximum: {maximumLimit.wholeSeconds}s)"
  | addressEmpty => "Peer address cannot be empty"
  | addressMalformed address =>
    "Invalid peer address format: '" ++ address ++ "' (expected format: '10.0.0.1:7946')"
  | connectionLimitTooShort =>
    s!"Connection timeout too short (minimum: {minimumConnectionLimit.wholeMilliseconds}ms)"
  | appNameEmpty => "Application name cannot be empty"
  | appNameTooLong size =>
    s!"Application name too long: {size} characters (maximum: {maximumAppName})"

/-- A limit is too short below the minimum, and too long from the first second that begins after
the maximum. -/
def limitProblems (tooShort tooLong : Problem) (limit : Duration) : List Problem :=
  if limit.wholeMilliseconds < minimumLimit.wholeMilliseconds then [tooShort]
  else if limit.wholeSeconds > maximumLimit.wholeSeconds then [tooLong]
  else []

def Transport.problems (transport : Transport) : List Problem :=
  let buffer :=
    if transport.readBufferSize < minimumBuffer then [.bufferTooSmall transport.readBufferSize]
    else if transport.readBufferSize > maximumBuffer then
      [.bufferTooLarge transport.readBufferSize]
    else []
  buffer ++ limitProblems .readLimitTooShort .readLimitTooLong transport.readTimeout ++
    limitProblems .writeLimitTooShort .writeLimitTooLong transport.writeTimeout

def Client.problems (client : Client) : List Problem :=
  let address :=
    if client.address.isEmpty then [.addressEmpty]
    else if (SocketAddress.ofText? client.address).isNone then [.addressMalformed client.address]
    else []
  let limit :=
    if client.connectionTimeout.wholeMilliseconds < minimumConnectionLimit.wholeMilliseconds then
      [.connectionLimitTooShort]
    else []
  address ++ limit

def Logging.problems (logging : Logging) : List Problem :=
  if logging.appName.isEmpty then [.appNameEmpty]
  else if logging.appName.utf8ByteSize > maximumAppName then
    [.appNameTooLong logging.appName.utf8ByteSize]
  else []

def problems (config : Config) : List Problem :=
  config.transport.problems ++ config.client.problems ++ config.logging.problems

end PeerLink.Config
