import Mathlib
import PeerLink.Proofs.Traffic.Process

/-!
The traffic counters agree, whichever way packets take. A call that succeeds counts one packet and
the octets of its wire form, sent or received, and a call that fails counts no traffic
(`Call.Moves`). Over the whole life of a process the counters are the numbers of packets and octets
that its calls have moved, so if what was received is what was sent, both directions show the same
(`Process.traffic_of_reachable`).
-/

set_option autoImplicit false
set_option relaxedAutoImplicit false

namespace PeerLink

open ByteStream (Reads)

/-! ### The traffic in the counters -/

/-- The four counts of packets and octets. -/
structure Traffic where
  packetsSent : UInt64
  bytesSent : UInt64
  packetsReceived : UInt64
  bytesReceived : UInt64

namespace Traffic

/-- One more packet, of `size` octets. -/
def send (size : Nat) (traffic : Traffic) : Traffic :=
  { traffic with
    packetsSent := traffic.packetsSent + 1
    bytesSent := traffic.bytesSent + .ofNat size }

def receive (size : Nat) (traffic : Traffic) : Traffic :=
  { traffic with
    packetsReceived := traffic.packetsReceived + 1
    bytesReceived := traffic.bytesReceived + .ofNat size }

/-- The traffic of packets that were sent, each with the size of its wire form, and of packets that
were received, each with the size that its header tells. -/
def ofPackets (sent received : List Packet) : Traffic where
  packetsSent := .ofNat sent.length
  bytesSent := .ofNat (sent.map fun packet ↦ packet.wire.length).sum
  packetsReceived := .ofNat received.length
  bytesReceived :=
    .ofNat (received.map fun packet ↦ Header.size + packet.head.length.toNat).sum

theorem ofPackets_sent (sent received : List Packet) (packet : Packet) :
    ofPackets (sent ++ [packet]) received =
      (ofPackets sent received).send packet.wire.length := by
  unfold ofPackets send
  simp only [List.length_append, List.length_singleton, List.map_append, List.map_singleton,
    List.sum_append, List.sum_singleton, UInt64.ofNat_add]
  rfl

theorem ofPackets_received (sent received : List Packet) (packet : Packet) :
    ofPackets sent (received ++ [packet]) =
      (ofPackets sent received).receive (Header.size + packet.head.length.toNat) := by
  unfold ofPackets receive
  simp only [List.length_append, List.length_singleton, List.map_append, List.map_singleton,
    List.sum_append, List.sum_singleton, UInt64.ofNat_add]
  rfl

/-- A packet that arrives is as long as its header says, and as what was sent. -/
theorem size_canonical {packet : Packet} {wire : Bytes} (h : packet.encode = .ok wire) :
    Header.size + packet.canonical.head.length.toNat = packet.wire.length := by
  obtain ⟨hencodable, -⟩ := Packet.encode_eq_ok_iff.mp h
  rw [hencodable.length_canonical, Packet.wire_of_encode h, Packet.length_of_encode h,
    Packet.wireLength]

/-- If what was received is what was sent, in whatever order, both directions show the same. -/
theorem agree_of_perm {sent received : List Packet}
    (hencodes : ∀ packet ∈ sent, ∃ wire, packet.encode = .ok wire)
    (hperm : received.Perm (sent.map Packet.canonical)) :
    (ofPackets sent received).packetsSent = (ofPackets sent received).packetsReceived ∧
      (ofPackets sent received).bytesSent = (ofPackets sent received).bytesReceived := by
  have hlength : received.length = sent.length := hperm.length_eq.trans (List.length_map _)
  have hsizes : (received.map fun packet ↦ Header.size + packet.head.length.toNat).sum =
      (sent.map fun packet ↦ packet.wire.length).sum := by
    rw [(hperm.map _).sum_nat, List.map_map]
    refine congrArg List.sum (List.map_congr_left fun packet hmem ↦ ?_)
    obtain ⟨wire, hencode⟩ := hencodes packet hmem
    exact size_canonical hencode
  unfold ofPackets
  rw [hlength, hsizes]
  exact ⟨rfl, rfl⟩

end Traffic

namespace Counters

def traffic (counters : Counters) : Traffic where
  packetsSent := counters.packetsSent
  bytesSent := counters.bytesSent
  packetsReceived := counters.packetsReceived
  bytesReceived := counters.bytesReceived

@[simp] theorem traffic_sent (size : Nat) (counters : Counters) :
    (counters.sent (.ofNat size)).traffic = counters.traffic.send size := rfl

@[simp] theorem traffic_received (size : Nat) (counters : Counters) :
    (counters.received (.ofNat size)).traffic = counters.traffic.receive size := rfl

@[simp] theorem traffic_established (counters : Counters) :
    counters.established.traffic = counters.traffic := rfl

@[simp] theorem traffic_closed (counters : Counters) :
    counters.closed.traffic = counters.traffic := rfl

@[simp] theorem traffic_failed (failure : ProtocolError) (counters : Counters) :
    (counters.failed failure).traffic = counters.traffic := by
  unfold failed
  split
  · rfl
  · rfl
  · rfl

end Counters

/-! ### One call -/

/-- What the counters show of a call: of one that has sent its packet the size of the wire form, of
one that has received a packet the octets that the packet took up, which were read before the call
or by it, and of any other nothing. -/
structure Call.Moves {σ : Type} [ByteStream σ] (call : Call) (before : Scene σ)
    (ending : Call.Ending σ) : Prop where
  sent : ending.answer = .done → ∃ packet wire, call.packet? = some packet ∧
    packet.encode = .ok wire ∧
    ending.scene.counters.traffic = before.counters.traffic.send wire.length
  received : ∀ packet, ending.answer = .packet packet → call.packet? = none ∧
    ∃ wire taken rest, packet.encode = .ok wire ∧
      wire.length = Header.size + packet.head.length.toNat ∧
      Reads before.stream taken ending.scene.stream ∧
      Call.inboxOf call.connection? ++ taken = wire ++ rest ∧
      (∀ later, ending.connection = some later → later.inbox = rest) ∧
      ending.scene.counters.traffic = before.counters.traffic.receive wire.length
  failed : ending.answer ≠ .done → (∀ packet, ending.answer ≠ .packet packet) →
    ending.scene.counters.traffic = before.counters.traffic

theorem Call.perform_moves {σ : Type} [ByteStream σ] (deadline : Nat) (call : Call)
    (scene : Scene σ) : call.Moves scene (call.perform deadline scene) := by
  have hcounts := call.perform_counts deadline scene
  generalize call.perform deadline scene = ending at hcounts ⊢
  cases hcounts with
  | sent hpacket hencode hcounters =>
    refine ⟨fun _ ↦ ?_, nofun, fun hanswer _ ↦ absurd rfl hanswer⟩
    exact ⟨_, _, hpacket, hencode, congrArg Counters.traffic hcounters⟩
  | received hnone hfills hreads hsplit hrest hcounters =>
    refine ⟨nofun, fun other hother ↦ ?_, fun _ hanswer ↦ absurd rfl (hanswer _)⟩
    cases hother
    exact ⟨hnone, _, _, _, hfills.encode_eq, hfills.length_eq, hreads, hsplit, hrest,
      congrArg Counters.traffic hcounters⟩
  | failed _ hcounters =>
    refine ⟨nofun, nofun, fun _ _ ↦ ?_⟩
    exact (congrArg Counters.traffic hcounters).trans (Counters.traffic_failed _ _)
  | forgotten _ hcounters | never hcounters =>
    exact ⟨nofun, nofun, fun _ _ ↦ congrArg Counters.traffic hcounters⟩

/-! ### A process -/

namespace Process

variable {process next : Process}

theorem sent_of_record {call : Call} {answer : Answer}
    (hrecord : next.record = process.record ++ [(call, answer)]) :
    next.sent = process.sent ++ (call.sent? answer).toList := by
  unfold sent
  rw [hrecord, List.filterMap_append]
  cases h : call.sent? answer with
  | none => simp [h]
  | some packet => simp [h]

theorem received_of_record {call : Call} {answer : Answer}
    (hrecord : next.record = process.record ++ [(call, answer)]) :
    next.received = process.received ++ answer.packet?.toList := by
  unfold received
  rw [hrecord, List.filterMap_append]
  cases answer with
  | packet | done | octets | failed | never => rfl

/-- What the counters show is what the calls have moved. -/
structure IsBalanced (process : Process) : Prop where
  traffic : process.counters.traffic = .ofPackets process.sent process.received
  encodes : ∀ packet ∈ process.sent, ∃ wire, packet.encode = .ok wire

theorem IsBalanced.unmoved (h : process.IsBalanced)
    (htraffic : next.counters.traffic = process.counters.traffic)
    (hsent : next.sent = process.sent) (hreceived : next.received = process.received) :
    next.IsBalanced where
  traffic := by rw [htraffic, hsent, hreceived, h.traffic]
  encodes := by rw [hsent]; exact h.encodes

theorem IsBalanced.sends (h : process.IsBalanced) {packet : Packet} {wire : Bytes}
    (hencode : packet.encode = .ok wire)
    (htraffic : next.counters.traffic = process.counters.traffic.send wire.length)
    (hsent : next.sent = process.sent ++ [packet]) (hreceived : next.received = process.received) :
    next.IsBalanced where
  traffic := by
    rw [htraffic, hsent, hreceived, h.traffic, Traffic.ofPackets_sent,
      Packet.wire_of_encode hencode]
  encodes := by
    rw [hsent]
    intro other hother
    rcases List.mem_append.mp hother with hother | hother
    · exact h.encodes other hother
    · rw [List.mem_singleton.mp hother]
      exact ⟨wire, hencode⟩

theorem IsBalanced.receives (h : process.IsBalanced) {packet : Packet} {wire : Bytes}
    (hfills : packet.Fills wire)
    (htraffic : next.counters.traffic = process.counters.traffic.receive wire.length)
    (hsent : next.sent = process.sent) (hreceived : next.received = process.received ++ [packet]) :
    next.IsBalanced where
  traffic := by
    rw [htraffic, hsent, hreceived, h.traffic, Traffic.ofPackets_received, hfills.length_eq]
  encodes := by
    rw [hsent]
    exact h.encodes

theorem IsBalanced.call {σ : Type} [ByteStream σ] (h : process.IsBalanced) {call : Call}
    {scene : Scene σ} {ending : Call.Ending σ}
    (hcounts : Call.Counts call.packet? call.connection? call.isBounded scene ending)
    (hcounters : scene.counters = process.counters)
    (hafter : next.counters = ending.scene.counters)
    (hrecord : next.record = process.record ++ [(call, ending.answer)]) : next.IsBalanced := by
  have hsent := sent_of_record hrecord
  have hreceived := received_of_record hrecord
  cases hcounts with
  | sent hpacket hencode hcounted =>
    rw [hcounters] at hcounted
    refine h.sends hencode (congrArg Counters.traffic (hafter.trans hcounted)) ?_ ?_
    · rw [hsent, Call.sent?, hpacket]
      rfl
    · exact hreceived.trans (List.append_nil _)
  | received _ hfills _ _ _ hcounted =>
    rw [hcounters] at hcounted
    exact h.receives hfills (congrArg Counters.traffic (hafter.trans hcounted))
      (hsent.trans (List.append_nil _)) hreceived
  | failed _ hcounted =>
    rw [hcounters] at hcounted
    refine h.unmoved ?_ (hsent.trans (List.append_nil _)) (hreceived.trans (List.append_nil _))
    rw [hafter, hcounted, Counters.traffic_failed]
  | forgotten _ hcounted | never hcounted =>
    rw [hcounters] at hcounted
    exact h.unmoved (congrArg Counters.traffic (hafter.trans hcounted))
      (hsent.trans (List.append_nil _)) (hreceived.trans (List.append_nil _))

theorem IsBalanced.step (h : process.IsBalanced) (hstep : Step process next) :
    next.IsBalanced := by
  cases changes_of_step hstep with
  | call scene deadline call hcounters hafter hrecord =>
    exact h.call (call.perform_counts deadline scene) hcounters hafter hrecord
  | opened hcounters hrecord | ended hcounters hrecord | nothing hcounters hrecord =>
    refine h.unmoved ?_ (congrArg (List.filterMap _) hrecord) (congrArg (List.filterMap _) hrecord)
    simp [hcounters]

theorem isBalanced_of_reachable (h : process.Reachable) : process.IsBalanced := by
  induction h with
  | refl => exact ⟨rfl, nofun⟩
  | tail _ hstep ih => exact ih.step hstep

/-- Whatever calls were made, over streams and connections of whatever behaviour, each one that
succeeds counts one packet and exactly the octets of its wire form, and no other counts any traffic.
So the counters are the numbers of packets and of octets moved, and if each packet that was sent is
received once, the two directions show the same. -/
theorem traffic_of_reachable (h : process.Reachable) :
    (∀ {σ : Type} [ByteStream σ] (deadline : Nat) (call : Call) (scene : Scene σ),
        scene.counters = process.counters → call.Moves scene (call.perform deadline scene)) ∧
      process.counters.traffic = .ofPackets process.sent process.received ∧
      (process.received.Perm (process.sent.map Packet.canonical) →
        process.counters.packetsSent = process.counters.packetsReceived ∧
          process.counters.bytesSent = process.counters.bytesReceived) := by
  have hbalanced := isBalanced_of_reachable h
  have htraffic := hbalanced.traffic
  refine ⟨?_, htraffic, fun hperm ↦ ?_⟩
  · intro σ _ deadline call scene _
    exact call.perform_moves deadline scene
  · have hagree := Traffic.agree_of_perm hbalanced.encodes hperm
    rw [← htraffic] at hagree
    exact hagree

/-- A packet whose header tells a wrong length and whose body holds a vector that is not sent. -/
def staleOk : Packet := ⟨⟨9, 1⟩, ⟨.ok, some .zero, .ofWire .ok [104, 105]⟩⟩

/-- A stream on which the wire form of that packet has arrived. -/
def arrival : Script.Stream :=
  { reads := { cues := [.result (.ok [0, 3, 1, 1, 104, 105])] } }

theorem Step.receive {σ : Type} [ByteStream σ] {first rest : List Connection}
    {connection : Connection} (scene : Scene σ) (hlive : process.live = first ++ connection :: rest)
    (hcounters : scene.counters = process.counters) :
    Step process { process with
      counters := (connection.receive scene).2.2.counters
      live := first ++ (connection.receive scene).2.1 :: rest
      record := process.record ++
        [(.receiveOver connection, .ofPacket (connection.receive scene).1)] } :=
  .act scene .standard .receive hlive hcounters rfl rfl

/-- A packet sent straight over a stream and received over a connection. -/
theorem traffic_of_reachable_mixed :
    ∃ process : Process, process.Reachable ∧ process.sent = [staleOk] ∧
      process.received = [.ok [104, 105]] ∧ process.counters.bytesSent = 6 ∧
      process.counters.packetsSent = process.counters.packetsReceived ∧
      process.counters.bytesSent = process.counters.bytesReceived := by
  let counted : Counters := { packetsSent := 1, bytesSent := 6 }
  let outgoing : Scene Script.Stream := { stream := {} }
  let incoming (counters : Counters) : Scene Script.Stream := { stream := arrival, counters }
  have hdone : ((Call.send staleOk).perform 0 outgoing).answer = .done := by cbv
  have hcounters : ((Call.send staleOk).perform 0 outgoing).scene.counters = counted := by cbv
  have hpacket : (Connection.receive {} (incoming counted.established)).1 =
      .ok (.ok [104, 105]) := by cbv
  let sender : Process := { counters := counted, record := [(.send staleOk, .done)] }
  have hsend : Step {} sender := by
    have hstep : Step {} _ := .call outgoing 0 (.send staleOk) rfl rfl
    rwa [hdone, hcounters] at hstep
  let receiver : Process :=
    { sender with counters := counted.established, live := [{}], created := 1 }
  have hcreate : Step sender receiver := .create (incoming counted) {} rfl
  have hlive : receiver.live = [] ++ ({} : Connection) :: [] := rfl
  have hreceive := Step.receive (incoming counted.established) hlive rfl
  rw [hpacket] at hreceive
  have hreachable : Reachable _ :=
    ((Relation.ReflTransGen.single hsend).tail hcreate).tail hreceive
  obtain ⟨-, htraffic, hagree⟩ := traffic_of_reachable hreachable
  exact ⟨_, hreachable, rfl, rfl, congrArg Traffic.bytesSent htraffic, hagree (List.Perm.refl _)⟩

end Process

end PeerLink
