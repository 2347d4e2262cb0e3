import PeerLink.Log.Event
import PeerLink.Wire.Packet

/-!
The table that routes packets to handlers: at most one handler for each message type, the newest
registration counting. A handler that panics while it is being replaced does so inside the table's
write lock. The table is poisoned by that, and from then on refuses every registration and every
packet.
-/

set_option autoImplicit false
set_option relaxedAutoImplicit false

namespace PeerLink.Dispatch

/-- A handler answers its `n`th packet, counted from one, with a packet, silence or an error. -/
structure Handler where
  answer : Nat → Packet → Except ProtocolError (Option Packet)
  panicsWhenReplaced : Bool := false

namespace Handler

def silent : Handler where
  answer := fun _ _ ↦ .ok none

def echo : Handler where
  answer := fun _ packet ↦ .ok (some packet)

def reply (packet : Packet) : Handler where
  answer := fun _ _ ↦ .ok (some packet)

/-- Answers with the ASCII decimal number of the call. -/
def counting : Handler where
  answer := fun call _ ↦
    .ok (some (Packet.ok ((toString call).toList.map fun digit ↦ UInt8.ofNat digit.toNat)))

def failing (failure : ProtocolError) : Handler where
  answer := fun _ _ ↦ .error failure

def volatile : Handler where
  answer := fun _ _ ↦ .ok none
  panicsWhenReplaced := true

end Handler

/-- An installed handler and the calls it has had. -/
structure Slot where
  handler : Handler
  calls : Nat := 0

inductive HandlerTable where
  | open (slots : MessageType → Option Slot)
  | poisoned

/-- What became of a registration. -/
inductive Registration where
  | registered
  | panicked
  | refused (failure : ProtocolError)

namespace HandlerTable

def empty : HandlerTable := .open fun _ ↦ none

def writeRefusal : ProtocolError := .custom "Failed to acquire write lock on dispatcher"

def readRefusal : ProtocolError := .custom "Failed to acquire read lock on dispatcher"

/-- `slot` in place of whatever was installed for `type`. -/
def install (type : MessageType) (slot : Slot) (slots : MessageType → Option Slot) :
    MessageType → Option Slot :=
  fun other ↦ if other = type then some slot else slots other

def register (type : MessageType) (handler : Handler) :
    HandlerTable → Registration × HandlerTable
  | poisoned => (.refused writeRefusal, poisoned)
  | .open slots =>
    if (slots type).any fun slot ↦ slot.handler.panicsWhenReplaced then
      (.panicked, poisoned)
    else
      (.registered, .open (install type { handler } slots))

def isRegistered (type : MessageType) : HandlerTable → Bool
  | .open slots => (slots type).isSome
  | poisoned => false

/-- The types with a handler, in tag order. -/
def registered (table : HandlerTable) : List MessageType :=
  MessageType.all.filter fun type ↦ table.isRegistered type

def dispatchNotice (type : MessageType) : Log.Event where
  level := .debug
  origin := .dispatcher
  message := "Dispatching packet"
  fields := [("message_type", .text type.name)]

/-- How a dispatch ended, the table after the call was counted, and the log. -/
structure Dispatched where
  answer : Except ProtocolError (Option Packet)
  table : HandlerTable
  events : List Log.Event

def dispatch (packet : Packet) : HandlerTable → Dispatched
  | poisoned => ⟨.error readRefusal, poisoned, []⟩
  | .open slots =>
    match slots packet.type with
    | none =>
      ⟨.error (.unexpectedMessage packet.type), .open slots, [dispatchNotice packet.type]⟩
    | some slot =>
      let call := slot.calls + 1
      ⟨slot.handler.answer call packet,
        .open (install packet.type { slot with calls := call } slots),
        [dispatchNotice packet.type]⟩

end HandlerTable

end PeerLink.Dispatch
