import PeerLink.Address.Host

/-!
Where a peer listens: a numeric host and a port, `10.0.0.1:7946` or `[::1]:7946`. The bracketed
host may name a scope behind a percent sign.
-/

set_option autoImplicit false
set_option relaxedAutoImplicit false

namespace PeerLink

open Text (Reader)

inductive SocketAddress where
  | v4 (host : Address.V4) (port : UInt16)
  | v6 (host : Address.V6) (scope : UInt32) (port : UInt16)
  deriving DecidableEq

namespace SocketAddress

def port : Reader UInt16 := fun text ↦ do
  let (value, rest) ← Address.digits 10 UInt16.size none (← Reader.skip? [':'] text)
  return (UInt16.ofNat value, rest)

def scope : Reader UInt32 := fun text ↦ do
  let (value, rest) ← Address.digits 10 UInt32.size none (← Reader.skip? ['%'] text)
  return (UInt32.ofNat value, rest)

def readV4 : Reader SocketAddress := fun text ↦ do
  let (host, rest) ← Address.V4.reader text
  let (port, rest) ← port rest
  return (v4 host port, rest)

def readV6 : Reader SocketAddress := fun text ↦ do
  let (host, rest) ← Address.V6.reader (← Reader.skip? ['['] text)
  let (scope, rest) := (scope rest).getD (0, rest)
  let (port, rest) ← port (← Reader.skip? [']'] rest)
  return (v6 host scope port, rest)

/-- The address that the whole text writes. -/
def ofText? (text : String) : Option SocketAddress := do
  let (address, rest) ← (readV4 text.toList).or (readV6 text.toList)
  if rest.isEmpty then some address else none

end SocketAddress

end PeerLink
