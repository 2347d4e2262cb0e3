import PeerLink.Log.Event
import PeerLink.Wire.Decode

/-!
Decoding with a session key. The key is reserved for authenticating the vector: today it changes
no result, and a key given with an input long enough to be decoded is noted in the log.
-/

set_option autoImplicit false
set_option relaxedAutoImplicit false

namespace PeerLink.Packet

/-- What decoding `bytes` with `key` writes to the log. -/
def keyNotice (key : Option Bytes) (bytes : Bytes) : List Log.Event :=
  if key.isSome ∧ minSize ≤ bytes.length then
    [{ level := .trace, origin := .codec
       message := "Session key supplied; vector authentication is not enforced" }]
  else
    []

def decodeFrontKeyed (options : DecodeOptions) (key : Option Bytes) (bytes : Bytes) :
    Except ProtocolError Front × List Log.Event :=
  (decodeFront options bytes, keyNotice key bytes)

def decodePrefixKeyed (options : DecodeOptions) (key : Option Bytes) (bytes : Bytes) :
    Except ProtocolError Front × List Log.Event :=
  (decodePrefix options bytes, keyNotice key bytes)

def decodeKeyed (options : DecodeOptions) (key : Option Bytes) (bytes : Bytes) :
    Except ProtocolError Packet × List Log.Event :=
  (decodeWith options bytes, keyNotice key bytes)

end PeerLink.Packet
