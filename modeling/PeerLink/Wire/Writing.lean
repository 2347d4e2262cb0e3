import PeerLink.Wire.Encode

/-!
Writing packets into a buffer that is in use. What has been written stays there whatever fails
later, so `Packet.put` makes all its checks before the first octet.
-/

set_option autoImplicit false
set_option relaxedAutoImplicit false

namespace PeerLink

/-- Work on a buffer. A failure leaves in the buffer what was written before it. -/
abbrev Writing := ExceptT ProtocolError (StateM Bytes)

namespace Writing

/-- How the work ends on `buffer`, and the buffer then. -/
def into {α : Type} (work : Writing α) (buffer : Bytes) : Except ProtocolError α × Bytes :=
  work.run.run buffer

def octets (bytes : Bytes) : Writing Unit := modify (· ++ bytes)

@[simp] theorem into_octets (bytes buffer : Bytes) :
    (octets bytes).into buffer = (.ok (), buffer ++ bytes) := rfl

/-- Work that does not fail is followed by the rest. -/
theorem into_bind_of_ok {α β : Type} {work : Writing α} {rest : α → Writing β} {value : α}
    {before after : Bytes} (h : work.into before = (.ok value, after)) :
    (work >>= rest).into before = (rest value).into after := by
  unfold into at h ⊢
  rw [ExceptT.run_bind, StateT.run_bind, h]
  rfl

end Writing

open Writing (octets)

def Header.put (header : Header) : Writing Unit := do
  octets (Bytes.ofWord header.length)
  octets [header.version]

def Body.put (body : Body) : Writing Unit := do
  octets [body.type.tag]
  octets (vectorOctets body.wireVector)
  octets body.message.write

/-- The length written is that of the body, whatever the header says. -/
def Packet.put (packet : Packet) : Writing Unit :=
  if packet.type.carriesVector && packet.body.vector.isNone then
    throw (.missingVector packet.type)
  else if maxBody < packet.body.wireLength then
    throw (.oversizedPacket packet.wireLength)
  else do
    Header.put ⟨UInt16.ofNat packet.body.wireLength, packet.head.version⟩
    packet.body.put

@[simp] theorem Header.into_put (header : Header) (buffer : Bytes) :
    header.put.into buffer = (.ok (), buffer ++ header.write) := by
  unfold put write
  rw [Writing.into_bind_of_ok (Writing.into_octets _ _), Writing.into_octets, List.append_assoc]

@[simp] theorem Body.into_put (body : Body) (buffer : Bytes) :
    body.put.into buffer = (.ok (), buffer ++ body.write) := by
  unfold put write
  rw [Writing.into_bind_of_ok (Writing.into_octets _ _),
    Writing.into_bind_of_ok (Writing.into_octets _ _), Writing.into_octets, List.append_assoc,
    List.append_assoc]
  rfl

/-- Either the whole wire form is added or nothing is. -/
theorem Packet.into_put (packet : Packet) (buffer : Bytes) :
    packet.put.into buffer =
      match packet.encode with
      | .ok wire => (.ok (), buffer ++ wire)
      | .error failure => (.error failure, buffer) := by
  unfold put encode
  split
  · rfl
  · split
    · rfl
    · rw [Writing.into_bind_of_ok (Header.into_put _ _), Body.into_put, List.append_assoc]

end PeerLink
