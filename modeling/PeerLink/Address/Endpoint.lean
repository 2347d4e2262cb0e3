import PeerLink.Address.Socket
import PeerLink.Error

/-!
What to dial: a socket address, or a host name and a port behind the last colon. Names are looked
up on this machine only, so nothing but its own name and numeric hosts are found.
-/

set_option autoImplicit false
set_option relaxedAutoImplicit false

namespace PeerLink

inductive Endpoint where
  | socket (address : SocketAddress)
  | named (host : String) (port : UInt16)
  deriving DecidableEq

namespace Endpoint

def noPort : TransportFault := ⟨.invalidInput, "invalid socket address"⟩

def badPort : TransportFault := ⟨.invalidInput, "invalid port value"⟩

def badHost : TransportFault := ⟨.invalidInput, "file name contained an unexpected NUL byte"⟩

def unknownName : TransportFault :=
  ⟨.uncategorized, "failed to lookup address information: Name or service not known"⟩

/-- The parts before and behind the last colon. -/
def splitPort? (text : List Char) : Option (List Char × List Char) :=
  let back := text.reverse
  match back.dropWhile (· != ':') with
  | [] => none
  | _ :: host => some (host.reverse, (back.takeWhile (· != ':')).reverse)

def ofText (text : String) : Except TransportFault Endpoint :=
  match SocketAddress.ofText? text with
  | some address => .ok (.socket address)
  | none =>
    match splitPort? text.toList with
    | none => .error noPort
    | some (host, port) =>
      match Text.unsigned? UInt16.size port with
      | none => .error badPort
      | some port => .ok (.named (String.ofList host) (UInt16.ofNat port))

/-- Whether the text is read to its end. -/
def reads {α : Type} (reader : Text.Reader α) (text : List Char) : Bool :=
  match reader text with
  | some (_, []) => true
  | _ => false

/-- The host of an endpoint has to be found before it can be dialled. -/
def resolve : Endpoint → Except TransportFault Unit
  | socket _ => .ok ()
  | named host _ =>
    if host.contains '\x00' then .error badHost
    else if host == "localhost" || reads Address.V4.reader host.toList
        || reads Address.V6.reader host.toList then .ok ()
    else .error unknownName

end Endpoint

end PeerLink
