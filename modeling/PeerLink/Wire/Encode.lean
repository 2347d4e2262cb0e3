import PeerLink.Wire.Packet

/-!
Packets to octets. Encoding is checked: a type that carries a vector must have one, and the body
must fit the length field. The length written is always that of the body, whatever the header says.
-/

set_option autoImplicit false
set_option relaxedAutoImplicit false

namespace PeerLink.Packet

def encode (packet : Packet) : Except ProtocolError Bytes :=
  if packet.type.carriesVector && packet.body.vector.isNone then
    .error (.missingVector packet.type)
  else if maxBody < packet.body.wireLength then
    .error (.oversizedPacket packet.wireLength)
  else
    let head : Header := ⟨UInt16.ofNat packet.body.wireLength, packet.head.version⟩
    .ok (head.write ++ packet.body.write)

/-- The wire form behind what `buffer` holds; on failure there is no new buffer. -/
def appendTo (packet : Packet) (buffer : Bytes) : Except ProtocolError Bytes :=
  packet.encode.map (buffer ++ ·)

theorem length_of_encode {packet : Packet} {wire : Bytes} (h : packet.encode = .ok wire) :
    wire.length = packet.wireLength := by
  simp only [encode] at h
  split at h
  · simp at h
  · split at h
    · simp at h
    · simp only [Except.ok.injEq] at h
      subst h
      simp [wireLength]

end PeerLink.Packet
