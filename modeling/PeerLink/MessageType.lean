/-!
The registry of message types. A type may be registered, and so pass framing, before its payload
has a decode rule of its own.
-/

set_option autoImplicit false
set_option relaxedAutoImplicit false

namespace PeerLink

inductive MessageType where
  | handshake
  | ok
  | heartbeat
  | gone
  | transfer
  | peerInfo
  deriving DecidableEq

namespace MessageType

/-- Every registered type in tag order. -/
def all : List MessageType :=
  [.handshake, .ok, .heartbeat, .gone, .transfer, .peerInfo]

def tag : MessageType → UInt8
  | handshake => 0
  | ok => 1
  | heartbeat => 2
  | gone => 3
  | transfer => 4
  | peerInfo => 5

def name : MessageType → String
  | handshake => "Handshake"
  | ok => "Ok"
  | heartbeat => "Heartbeat"
  | gone => "Gone"
  | transfer => "Transfer"
  | peerInfo => "PeerInfo"

/-- Whether bodies of this type hold the fixed 16-octet vector. -/
def carriesVector : MessageType → Bool
  | handshake | ok => false
  | heartbeat | gone | transfer | peerInfo => true

def ofTag? (tag : UInt8) : Option MessageType :=
  all.find? fun type ↦ type.tag == tag

/-- Names are matched exactly, case included. -/
def ofName? (name : String) : Option MessageType :=
  all.find? fun type ↦ type.name == name

def isKnown (tag : UInt8) : Bool :=
  (ofTag? tag).isSome

/-- A diagnostic name for any tag; tags outside the registry share one. -/
def nameOfTag (tag : UInt8) : String :=
  ((ofTag? tag).map name).getD "Unknown"

/-- Tag order, equal types kept side by side. -/
def sort (types : List MessageType) : List MessageType :=
  types.mergeSort fun first second ↦ first.tag ≤ second.tag

@[simp] theorem ofTag?_tag (type : MessageType) : ofTag? type.tag = some type := by
  cases type <;> rfl

theorem tag_of_ofTag? {tag : UInt8} {type : MessageType} (h : ofTag? tag = some type) :
    type.tag = tag := by
  simpa using List.find?_some h

end MessageType

end PeerLink
