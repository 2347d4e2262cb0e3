import PeerLink.Proofs.Link.OrderedStream

/-!
What a receive takes from any stream whatever. The octets that reads hand out between two states of
a stream are a matter of record, law or no law (`ByteStream.Reads`). A receive puts what its reads
handed out behind what the inbox held, and takes at most one frame off the front of the two
(`Connection.receive_collects`).
-/

set_option autoImplicit false
set_option relaxedAutoImplicit false

namespace PeerLink

/-- The octets that reads, one after the other, handed out on the way from one state of a stream to
another. A read that failed or was given up has handed out nothing. -/
inductive ByteStream.Reads {σ : Type} [ByteStream σ] : σ → Bytes → σ → Prop where
  | refl (stream : σ) : Reads stream [] stream
  | served {stream left : σ} {limit now deadline : Nat} {bytes octets : Bytes} :
    (read limit now deadline stream).outcome = .done (.ok bytes) →
    Reads (read limit now deadline stream).stream octets left → Reads stream (bytes ++ octets) left
  | unserved {stream left : σ} {limit now deadline : Nat} {octets : Bytes} :
    (∀ bytes, (read limit now deadline stream).outcome ≠ .done (.ok bytes)) →
    Reads (read limit now deadline stream).stream octets left → Reads stream octets left

namespace ByteStream.Reads

variable {σ : Type} [ByteStream σ] {limit now deadline : Nat} {stream : σ}

theorem of_served {bytes : Bytes}
    (h : (read limit now deadline stream).outcome = .done (.ok bytes)) :
    Reads stream bytes (read limit now deadline stream).stream := by
  have hreads := served h (refl _)
  rwa [List.append_nil] at hreads

theorem of_unserved
    (h : ∀ bytes, (read limit now deadline stream).outcome ≠ .done (.ok bytes)) :
    Reads stream [] (read limit now deadline stream).stream :=
  unserved h (refl _)

end ByteStream.Reads

namespace Connection

/-! ### A look at the inbox -/

/-- What a receive takes off the octets that the inbox holds at last: a packet, a frame that cannot
be decoded, or nothing for reasons of the stream or of time. It tells the result, and the inbox and
the mode afterwards. -/
inductive Takes (options : DecodeOptions) (buffer : Bytes) :
    Except ProtocolError Packet → Bytes → ReadMode → Prop where
  | packet {packet : Packet} {rest : Bytes} {mode : ReadMode} :
    FrameBuffer.step options buffer = .packet packet rest →
      Takes options buffer (.ok packet) rest mode
  | failed {failure : ProtocolError} {rest : Bytes} :
    FrameBuffer.step options buffer = .failed failure rest →
      Takes options buffer (.error failure) rest .failed
  | nothing {failure : ProtocolError} {mode : ReadMode} : failure.category = .transport →
    Takes options buffer (.error failure) buffer mode

theorem Takes.of_decode {options : DecodeOptions} {buffer rest : Bytes} {failure : ProtocolError}
    {mode : ReadMode} (h : Takes options buffer (.error failure) rest mode)
    (hcategory : failure.category = .decode) :
    FrameBuffer.step options buffer = .failed failure rest ∧ mode = .failed := by
  cases h with
  | failed hstep => exact ⟨hstep, rfl⟩
  | nothing htransport => exact absurd (hcategory.symm.trans htransport) nofun

theorem takes_of_takeReady {connection after : Connection} {result : Except ProtocolError Packet}
    (h : connection.takeReady = (some result, after)) :
    Takes connection.options connection.inbox result after.inbox after.mode := by
  unfold takeReady FrameBuffer.finalStep at h
  dsimp only at h
  cases hstep : FrameBuffer.step connection.options connection.inbox with
  | packet packet rest =>
    simp only [hstep, ite_self] at h
    cases h
    exact .packet hstep
  | failed failure rest =>
    simp only [hstep, ite_self] at h
    cases h
    exact .failed hstep
  | waiting =>
    simp only [hstep] at h
    split_ifs at h with hinput hempty
    · cases h
      exact .nothing rfl
    · cases h
      exact .nothing rfl
    · cases h

theorem takeReady_of_none {connection after : Connection}
    (h : connection.takeReady = (none, after)) : after = { connection with mode := .waiting } := by
  unfold takeReady at h
  dsimp only at h
  split at h
  · cases h
  · cases h
  · exact (congrArg Prod.snd h).symm

/-! ### One receive -/

section Receiving

open ByteStream (Reads)

variable {σ : Type} [ByteStream σ]

/-- A receive moves octets from the stream into the inbox, none of them lost, and takes at most one
frame off them. -/
def Collects (connection : Connection) (stream : σ) (result : Except ProtocolError Packet)
    (after : Connection) (left : σ) : Prop :=
  ∃ taken, Reads stream taken left ∧
    Takes connection.options (connection.inbox ++ taken) result after.inbox after.mode

theorem collects_of_unserved {connection after : Connection} {failure : ProtocolError}
    {limit now deadline : Nat} {stream : σ}
    (h : ∀ bytes, (ByteStream.read limit now deadline stream).outcome ≠ .done (.ok bytes))
    (hinbox : after.inbox = connection.inbox) (hcategory : failure.category = .transport) :
    connection.Collects stream (.error failure) after
      (ByteStream.read limit now deadline stream).stream := by
  refine ⟨[], .of_unserved h, ?_⟩
  rw [List.append_nil, hinbox]
  exact .nothing hcategory

theorem gather_collects (deadline : Nat) (connection : Connection) (now : Nat) (stream : σ) :
    let reception := gather deadline connection now stream
    connection.Collects stream reception.outcome.orTimeout reception.connection
      reception.stream := by
  unfold Collects
  fun_induction gather deadline connection now stream with
  | case1 connection now stream reading hexpired =>
    exact collects_of_unserved (fun _ ↦ Attempt.ne_done_of_expired hexpired _) rfl rfl
  | case2 connection now stream reading fault hfault =>
    exact collects_of_unserved (Attempt.ne_ok_of_error hfault) rfl rfl
  | case3 connection now stream reading hempty hclosed =>
    refine ⟨[], .of_served hempty, ?_⟩
    rw [List.append_nil]
    exact .nothing rfl
  | case4 connection now stream reading hempty _ result after hready =>
    refine ⟨[], .of_served hempty, ?_⟩
    rw [List.append_nil]
    cases result with
    | some result =>
      have htakes := takes_of_takeReady hready
      exact htakes
    | none =>
      cases takeReady_of_none hready
      exact .nothing rfl
  | case5 connection now stream reading octet octets hread inbox result after hready =>
    exact ⟨octet :: octets, .of_served hread, takes_of_takeReady hready⟩
  | case6 connection now stream reading octet octets hread inbox after hready ih =>
    cases takeReady_of_none hready
    obtain ⟨taken, hreads, htakes⟩ := ih
    refine ⟨octet :: octets ++ taken, .served hread hreads, ?_⟩
    rw [← List.append_assoc]
    exact htakes

theorem receive_collects (connection : Connection) (scene : Scene σ) :
    let received := connection.receive scene
    connection.Collects scene.stream received.1 received.2.1 received.2.2.stream := by
  intro received
  obtain ⟨hresult, hconnection, hstream⟩ := receive_eq connection scene
  rw [hresult, hconnection, hstream]
  unfold receiveFrom
  cases hmode : connection.mode with
  | failed =>
    refine ⟨[], .refl _, ?_⟩
    rw [List.append_nil]
    exact .nothing rfl
  | waiting => exact gather_collects _ _ _ _
  | ready =>
    dsimp only
    split
    · rename_i result after hready
      refine ⟨[], .refl _, ?_⟩
      rw [List.append_nil]
      exact takes_of_takeReady hready
    · rename_i after hready
      cases takeReady_of_none hready
      exact gather_collects _ _ _ _

end Receiving

end Connection

end PeerLink
