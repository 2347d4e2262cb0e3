import PeerLink.Link.Recorded
import PeerLink.Proofs.Traffic.Call

/-!
Receiving one packet with one read, over a source that does what it likes. The read is asked for
once and nothing else is asked of the source, which the record of its calls shows. Whatever it
brings, the outcome is one of few and is counted once: a packet, which the counts take at its own
length and not at that of the read, an input that breaks a rule, a failing source, or an input that
has ended (`OneShot.receiveWith_counted_once`).
-/

set_option autoImplicit false
set_option relaxedAutoImplicit false

namespace PeerLink.OneShot

variable {σ : Type}

/-! ### What a read comes to -/

/-- The packet that the octets of one read stand for: all of them under strict framing, the front
of them otherwise. -/
def decodeRead (options : DecodeOptions) (key : Option Bytes) (bytes : Bytes) :
    Except ProtocolError Packet :=
  match options.framing with
  | .strict => (Packet.decodeKeyed options key bytes).1
  | .streaming => (Packet.decodePrefixKeyed options key bytes).1.map Packet.Front.packet

theorem decodeRead_eq (options : DecodeOptions) (key : Option Bytes) (bytes : Bytes) :
    decodeRead options key bytes =
      (Packet.decodeFront options bytes).map Packet.Front.packet := by
  obtain ⟨framing, versions⟩ := options
  cases framing with
  | strict => rfl
  | streaming => rfl

/-- What a receive makes of its one read. -/
def takeUp (options : DecodeOptions) (key : Option Bytes)
    (reading : Timed σ (Except TransportFault Bytes)) (scene : Scene σ) : Outcome σ Packet :=
  let scene := scene.moveTo reading.now reading.stream
  match reading.outcome with
  | .expired => (.expired, scene)
  | .done (.error fault) =>
    (.done (.error (.transport fault)),
      (scene.note [readFailed fault]).count (Counters.failed (.transport fault)))
  | .done (.ok bytes) =>
    if bytes.isEmpty then
      (.done (.error .emptyRead), (scene.note [nothingRead]).count (Counters.failed .emptyRead))
    else
      let (result, scene) := accept options key bytes scene
      (.done result, scene)

theorem receiveWith_of_pos [ByteStream σ] {maxBytes : Nat} (h : maxBytes ≠ 0)
    (options : DecodeOptions) (key : Option Bytes) (deadline : Nat) (scene : Scene σ) :
    receiveWith options key maxBytes deadline scene =
      takeUp options key (ByteStream.read maxBytes scene.now deadline scene.stream) scene := by
  unfold receiveWith
  rw [if_neg h]
  rfl

/-! ### The record -/

theorem accept_unrecorded (options : DecodeOptions) (key : Option Bytes) (bytes : Bytes)
    (scene : Scene (Recorded σ)) :
    (accept options key bytes scene).1 = (accept options key bytes scene.unrecorded).1 ∧
      (accept options key bytes scene).2.unrecorded =
        (accept options key bytes scene.unrecorded).2 := by
  unfold accept Packet.decodeFrontKeyed
  dsimp only
  cases Packet.decodeFront options bytes with
  | error failure => exact ⟨rfl, rfl⟩
  | ok front =>
    dsimp only
    split_ifs
    · exact ⟨rfl, rfl⟩
    · exact ⟨rfl, rfl⟩

theorem takeUp_unrecorded (options : DecodeOptions) (key : Option Bytes)
    (reading : Timed (Recorded σ) (Except TransportFault Bytes)) (scene : Scene (Recorded σ)) :
    let plain := takeUp options key ⟨reading.outcome, reading.now, reading.stream.stream⟩
      scene.unrecorded
    (takeUp options key reading scene).1 = plain.1 ∧
      (takeUp options key reading scene).2.unrecorded = plain.2 := by
  obtain ⟨outcome, now, stream⟩ := reading
  unfold takeUp
  cases outcome with
  | expired => exact ⟨rfl, rfl⟩
  | done result =>
    cases result with
    | error fault => exact ⟨rfl, rfl⟩
    | ok bytes =>
      dsimp only
      split_ifs
      · exact ⟨rfl, rfl⟩
      · obtain ⟨hresult, hscene⟩ :=
          accept_unrecorded options key bytes (scene.moveTo now stream)
        exact ⟨congrArg _ hresult, hscene⟩

theorem stream_takeUp (options : DecodeOptions) (key : Option Bytes)
    (reading : Timed σ (Except TransportFault Bytes)) (scene : Scene σ) :
    (takeUp options key reading scene).2.stream = reading.stream := by
  unfold takeUp
  dsimp only
  split
  · rfl
  · rfl
  · rename_i bytes _
    split_ifs
    · rfl
    · exact (Call.accept_eq options key bytes (scene.moveTo reading.now reading.stream)).2.1

variable [ByteStream σ] (options : DecodeOptions) (key : Option Bytes)
  (maxBytes deadline : Nat) (scene : Scene σ)

/-- The record does not change what is received. -/
theorem receiveWith_unrecorded :
    (receiveWith options key maxBytes deadline scene.recorded).1 =
        (receiveWith options key maxBytes deadline scene).1 ∧
      (receiveWith options key maxBytes deadline scene.recorded).2.unrecorded =
        (receiveWith options key maxBytes deadline scene).2 := by
  by_cases h : maxBytes = 0
  · unfold receiveWith
    rw [if_pos h, if_pos h]
    exact ⟨rfl, rfl⟩
  · rw [receiveWith_of_pos h, receiveWith_of_pos h]
    exact takeUp_unrecorded options key _ scene.recorded

/-! ### One outcome, counted once -/

/-- What a receive comes to, by what its one read brought: the result, and the counters before and
after. A packet is the one that decoding gives, and it counts with the octets of its own wire form;
what stood behind them in the read is gone. -/
inductive Receipt (options : DecodeOptions) (key : Option Bytes) (before : Counters) :
    Attempt (Except TransportFault Bytes) → Attempt (Except ProtocolError Packet) → Counters →
      Prop where
  | abandoned : Receipt options key before .expired .expired before
  | faulted (fault : TransportFault) :
    Receipt options key before (.done (.error fault)) (.done (.error (.transport fault)))
      { before with transportErrors := before.transportErrors + 1 }
  | ended :
    Receipt options key before (.done (.ok [])) (.done (.error .emptyRead))
      { before with transportErrors := before.transportErrors + 1 }
  | malformed {bytes : Bytes} {failure : ProtocolError} :
    bytes ≠ [] → decodeRead options key bytes = .error failure → failure.isDecode →
    Receipt options key before (.done (.ok bytes)) (.done (.error failure))
      { before with decodeErrors := before.decodeErrors + 1 }
  | received {wire rest : Bytes} {packet : Packet} :
    decodeRead options key (wire ++ rest) = .ok packet → packet.encode = .ok wire →
    wire.length = 3 + packet.head.length.toNat →
    Receipt options key before (.done (.ok (wire ++ rest))) (.done (.ok packet))
      { before with
        packetsReceived := before.packetsReceived + 1
        bytesReceived := before.bytesReceived + .ofNat (3 + packet.head.length.toNat) }

variable {options key}

omit [ByteStream σ] in
/-- Octets give a packet or break a rule. -/
theorem receipt_accept {bytes : Bytes} (hbytes : bytes ≠ []) (scene : Scene σ) :
    let accepted := accept options key bytes scene
    Receipt options key scene.counters (.done (.ok bytes)) (.done accepted.1)
      accepted.2.counters := by
  obtain ⟨hresult, -, hcounters⟩ := Call.accept_eq options key bytes scene
  have hdecode := decodeRead_eq options key bytes
  intro accepted
  cases hfront : Packet.decodeFront options bytes with
  | error failure =>
    rw [hfront] at hresult hcounters hdecode
    have hcategory := Packet.category_of_decodeFront hfront
    rw [hresult, hcounters.trans (Counters.failed_of_decode hcategory _)]
    exact .malformed hbytes hdecode (ProtocolError.isDecode_iff.mpr hcategory)
  | ok front =>
    rw [hfront] at hresult hcounters hdecode
    obtain ⟨hfills, -⟩ := Packet.fills_of_decodeFront hfront
    have hcounted : accepted.2.counters =
        scene.counters.received (.ofNat (3 + front.packet.head.length.toNat)) :=
      hcounters.trans (congrArg (fun size ↦ scene.counters.received (.ofNat size))
        (Packet.accepted_of_decodeFront hfront).consumed_eq)
    rw [hresult, hcounted]
    -- The octets of the read are those of the packet and those behind it.
    rw [← List.take_append_drop front.consumed bytes] at hdecode ⊢
    exact .received hdecode hfills.encode_eq hfills.length_eq

omit [ByteStream σ] in
theorem receipt_takeUp (reading : Timed σ (Except TransportFault Bytes)) (scene : Scene σ) :
    let taken := takeUp options key reading scene
    Receipt options key scene.counters reading.outcome taken.1 taken.2.counters := by
  obtain ⟨outcome, now, stream⟩ := reading
  unfold takeUp
  cases outcome with
  | expired => exact .abandoned
  | done result =>
    cases result with
    | error fault => exact .faulted fault
    | ok bytes =>
      cases bytes with
      | nil => exact .ended
      | cons octet octets =>
        exact receipt_accept (List.cons_ne_nil octet octets) (scene.moveTo now stream)

/-- How much the counts of packets, of broken rules and of failing sources have grown. -/
def growth (before after : Counters) : List UInt64 :=
  [after.packetsReceived - before.packetsReceived, after.decodeErrors - before.decodeErrors,
    after.transportErrors - before.transportErrors]

theorem Receipt.growth {before after : Counters} {outcome : Attempt (Except TransportFault Bytes)}
    {result : Attempt (Except ProtocolError Packet)}
    (h : Receipt options key before outcome result after) (hended : result ≠ .expired) :
    (growth before after).Perm [1, 0, 0] := by
  unfold OneShot.growth
  cases h with
  | abandoned => exact absurd rfl hended
  | faulted | ended =>
    dsimp only
    rw [UInt64.sub_self, UInt64.sub_self, UInt64.add_comm, UInt64.add_sub_cancel]
    decide
  | malformed =>
    dsimp only
    rw [UInt64.sub_self, UInt64.sub_self, UInt64.add_comm, UInt64.add_sub_cancel]
    decide
  | received =>
    dsimp only
    rw [UInt64.sub_self, UInt64.sub_self, UInt64.add_comm, UInt64.add_sub_cancel]

theorem Receipt.version {before after : Counters}
    {outcome : Attempt (Except TransportFault Bytes)} {packet : Packet}
    (h : Receipt options key before outcome (.done (.ok packet)) after) :
    options.versions.accepts packet.head.version := by
  cases h with
  | received hdecode =>
    rw [decodeRead_eq] at hdecode
    obtain ⟨front, hfront, rfl⟩ := Packet.decodeWith_eq_ok_iff.mp hdecode
    exact (Packet.accepted_of_decodeFront hfront).version

variable (options key)

theorem receipt_receiveWith (h : maxBytes ≠ 0) :
    let received := receiveWith options key maxBytes deadline scene
    ∃ outcome,
      (receiveWith options key maxBytes deadline scene.recorded).2.stream.exchanges =
        [.read maxBytes outcome] ∧
      Receipt options key scene.counters outcome received.1 received.2.counters := by
  rw [receiveWith_of_pos h, receiveWith_of_pos h, stream_takeUp]
  exact ⟨_, rfl, receipt_takeUp _ scene⟩

/-- A receive of at most `maxBytes` octets has one outcome. Without room for an octet it is refused:
the source is not asked for anything and nothing is counted. Otherwise the source is asked for one
read and for nothing else, what the read brought decides the result, and one of the three counts has
grown, by one, unless the read was given up. A plain receive reads the front of what comes and asks
for the current version. -/
theorem receiveWith_counted_once :
    let received := receiveWith options key maxBytes deadline scene
    let recorded := receiveWith options key maxBytes deadline scene.recorded
    let plain := receive key maxBytes deadline scene
    (recorded.1 = received.1 ∧ recorded.2.unrecorded = received.2) ∧
    (if maxBytes = 0 then
      received = (.done (.error zeroBufferError), scene) ∧ recorded.2.stream.exchanges = []
    else
      (∃ outcome, recorded.2.stream.exchanges = [.read maxBytes outcome] ∧
        Receipt options key scene.counters outcome received.1 received.2.counters) ∧
      (received.1 ≠ .expired → (growth scene.counters received.2.counters).Perm [1, 0, 0])) ∧
    plain = receiveWith ⟨.streaming, .current⟩ key maxBytes deadline scene ∧
    ∀ packet, plain.1 = .done (.ok packet) → packet.head.version = 1 := by
  refine ⟨receiveWith_unrecorded options key maxBytes deadline scene, ?_, rfl, ?_⟩
  · split_ifs with hzero
    · unfold receiveWith
      rw [if_pos hzero, if_pos hzero]
      exact ⟨rfl, rfl⟩
    · obtain ⟨outcome, hexchanges, hreceipt⟩ :=
        receipt_receiveWith options key maxBytes deadline scene hzero
      exact ⟨⟨outcome, hexchanges, hreceipt⟩, hreceipt.growth⟩
  · intro packet hpacket
    by_cases hzero : maxBytes = 0
    · unfold receive receiveWith at hpacket
      rw [if_pos hzero] at hpacket
      cases hpacket
    · obtain ⟨outcome, -, hreceipt⟩ :=
        receipt_receiveWith .streaming key maxBytes deadline scene hzero
      rw [show (receiveWith .streaming key maxBytes deadline scene).1 = _ from hpacket] at hreceipt
      exact eq_of_beq hreceipt.version

end PeerLink.OneShot
