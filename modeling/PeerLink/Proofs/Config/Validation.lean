import Mathlib.Tactic.SplitIfs
import PeerLink.Config.Fault

/-!
What validation accepts. The messages of the problems announce a least and a greatest value of every
field, and validation enforces all of them but two. A time limit of the transport is rounded down to
seconds before it is compared, so that it is too long only from the first second behind the greatest
one on; and the size of a name is announced in characters but counted in octets, so that a name of
other than ASCII letters can be refused within what is announced (`valid_iff_enforced`).
-/

set_option autoImplicit false
set_option relaxedAutoImplicit false

namespace PeerLink.Config

/-! ### Limits -/

/-- Every field is within its limits. Two of these are left open: when a time limit of the transport
is short enough, and in what the size of a name is counted. -/
structure Within (isShort : Duration → Prop) (size : String → Nat) (config : Config) : Prop where
  readBufferSize : 4 ≤ config.transport.readBufferSize ∧ config.transport.readBufferSize ≤ 65538
  readTimeout : .ofMilliseconds 10 ≤ config.transport.readTimeout ∧
    isShort config.transport.readTimeout
  writeTimeout : .ofMilliseconds 10 ≤ config.transport.writeTimeout ∧
    isShort config.transport.writeTimeout
  address : config.client.address ≠ "" ∧
    (SocketAddress.ofText? config.client.address).isSome = true
  connectionTimeout : .ofMilliseconds 100 ≤ config.client.connectionTimeout
  appName : 1 ≤ size config.logging.appName ∧ size config.logging.appName ≤ 64

/-- The limits that the messages of the problems announce. -/
def KeepsAnnounced (config : Config) : Prop :=
  config.Within (fun limit ↦ limit ≤ .ofSeconds 300) String.length

/-- The limits beyond which validation finds a problem. -/
def KeepsEnforced (config : Config) : Prop :=
  config.Within (fun limit ↦ limit < .ofSeconds 301) String.utf8ByteSize

theorem length_le_utf8ByteSize (text : String) : text.length ≤ text.utf8ByteSize := by
  refine text.push_induction (fun text ↦ text.length ≤ text.utf8ByteSize) (Nat.le_refl 0) ?_
  intro front char ih
  have hsize := char.utf8Size_pos
  rw [String.length_push, String.utf8ByteSize_push]
  omega

theorem one_le_length_iff {text : String} : 1 ≤ text.length ↔ text ≠ "" := by
  rw [Nat.one_le_iff_ne_zero, ne_eq, String.length_eq_zero_iff]

theorem one_le_utf8ByteSize_iff {text : String} : 1 ≤ text.utf8ByteSize ↔ text ≠ "" := by
  rw [Nat.one_le_iff_ne_zero, ne_eq, String.utf8ByteSize_eq_zero_iff]

/-! ### Sections without problems -/

theorem limitProblems_eq_nil_iff {tooShort tooLong : Problem} {limit : Duration} :
    limitProblems tooShort tooLong limit = [] ↔
      .ofMilliseconds 10 ≤ limit ∧ limit < .ofSeconds 301 := by
  have hminimum : minimumLimit.wholeMilliseconds = 10 := rfl
  have hmaximum : maximumLimit.wholeSeconds = 300 := rfl
  rw [← Duration.le_wholeMilliseconds_iff, ← Duration.wholeSeconds_le_iff, limitProblems, hminimum,
    hmaximum]
  split_ifs with hshort hlong
  · simp [Nat.not_le.mpr hshort]
  · simp [Nat.not_le.mpr hlong]
  · simp [Nat.le_of_not_lt hshort, Nat.le_of_not_lt hlong]

theorem Transport.problems_eq_nil_iff {transport : Transport} :
    transport.problems = [] ↔
      (4 ≤ transport.readBufferSize ∧ transport.readBufferSize ≤ 65538) ∧
        (.ofMilliseconds 10 ≤ transport.readTimeout ∧ transport.readTimeout < .ofSeconds 301) ∧
        .ofMilliseconds 10 ≤ transport.writeTimeout ∧ transport.writeTimeout < .ofSeconds 301 := by
  have hminimum : minimumBuffer = 4 := rfl
  have hmaximum : maximumBuffer = 65538 := rfl
  rw [problems, List.append_eq_nil_iff, List.append_eq_nil_iff, limitProblems_eq_nil_iff,
    limitProblems_eq_nil_iff, and_assoc, hminimum, hmaximum]
  refine and_congr_left fun _ ↦ ?_
  split_ifs with hsmall hlarge
  · simp [Nat.not_le.mpr hsmall]
  · simp [Nat.not_le.mpr hlarge]
  · simp [Nat.le_of_not_lt hsmall, Nat.le_of_not_lt hlarge]

theorem Client.problems_eq_nil_iff {client : Client} :
    client.problems = [] ↔
      (client.address ≠ "" ∧ (SocketAddress.ofText? client.address).isSome = true) ∧
        .ofMilliseconds 100 ≤ client.connectionTimeout := by
  have hminimum : minimumConnectionLimit.wholeMilliseconds = 100 := rfl
  have haddress : (if client.address.isEmpty then [Problem.addressEmpty]
      else if (SocketAddress.ofText? client.address).isNone then [.addressMalformed client.address]
      else []) = [] ↔
        client.address ≠ "" ∧ (SocketAddress.ofText? client.address).isSome = true := by
    split_ifs with hempty hmalformed
    · simp [String.isEmpty_iff.mp hempty]
    · simp [Option.isNone_iff_eq_none.mp hmalformed]
    · rw [Bool.not_eq_true, Option.isNone_eq_false_iff] at hmalformed
      simp [hmalformed, mt String.isEmpty_iff.mpr hempty]
  have hlimit : (if client.connectionTimeout.wholeMilliseconds <
        minimumConnectionLimit.wholeMilliseconds then [Problem.connectionLimitTooShort]
      else []) = [] ↔ .ofMilliseconds 100 ≤ client.connectionTimeout := by
    rw [← Duration.le_wholeMilliseconds_iff, hminimum]
    split_ifs with hshort
    · simp [Nat.not_le.mpr hshort]
    · simp [Nat.le_of_not_lt hshort]
  exact List.append_eq_nil_iff.trans (and_congr haddress hlimit)

theorem Logging.problems_eq_nil_iff {logging : Logging} :
    logging.problems = [] ↔
      1 ≤ logging.appName.utf8ByteSize ∧ logging.appName.utf8ByteSize ≤ 64 := by
  have hmaximum : maximumAppName = 64 := rfl
  rw [problems, one_le_utf8ByteSize_iff, hmaximum]
  split_ifs with hempty hlong
  · simp [String.isEmpty_iff.mp hempty]
  · simp [Nat.not_le.mpr hlong]
  · simp [mt String.isEmpty_iff.mpr hempty, Nat.le_of_not_lt hlong]

/-! ### Configurations without problems -/

theorem problems_eq_nil_iff {config : Config} : config.problems = [] ↔ config.KeepsEnforced := by
  rw [problems, List.append_eq_nil_iff, List.append_eq_nil_iff, Transport.problems_eq_nil_iff,
    Client.problems_eq_nil_iff, Logging.problems_eq_nil_iff]
  constructor
  · rintro ⟨⟨⟨hbuffer, hread, hwrite⟩, haddress, hconnection⟩, hname⟩
    exact ⟨hbuffer, hread, hwrite, haddress, hconnection, hname⟩
  · intro h
    exact ⟨⟨⟨h.readBufferSize, h.readTimeout, h.writeTimeout⟩, h.address, h.connectionTimeout⟩,
      h.appName⟩

theorem check_eq_ok_iff {config : Config} : config.check = .ok () ↔ config.problems = [] := by
  rw [check]
  split_ifs with hempty
  · simp [List.isEmpty_iff.mp hempty]
  · simp [mt List.isEmpty_iff.mpr hempty]

theorem lt_of_le_announced {limit : Duration} (h : limit ≤ .ofSeconds 300) :
    limit < .ofSeconds 301 :=
  Nat.lt_of_le_of_lt h (by decide)

/-- Within what is announced only the octets of the name can be too many. -/
theorem KeepsAnnounced.keepsEnforced_iff {config : Config} (h : config.KeepsAnnounced) :
    config.KeepsEnforced ↔ config.logging.appName.utf8ByteSize ≤ 64 := by
  constructor
  · intro henforced
    exact henforced.appName.2
  · intro hname
    have hempty := one_le_length_iff.mp h.appName.1
    exact ⟨h.readBufferSize, ⟨h.readTimeout.1, lt_of_le_announced h.readTimeout.2⟩,
      ⟨h.writeTimeout.1, lt_of_le_announced h.writeTimeout.2⟩, h.address, h.connectionTimeout,
      one_le_utf8ByteSize_iff.mpr hempty, hname⟩

/-- Within what is enforced only the time limits of the transport can be too long. -/
theorem KeepsEnforced.keepsAnnounced_iff {config : Config} (h : config.KeepsEnforced) :
    config.KeepsAnnounced ↔
      config.transport.readTimeout ≤ .ofSeconds 300 ∧
        config.transport.writeTimeout ≤ .ofSeconds 300 := by
  constructor
  · intro hannounced
    exact ⟨hannounced.readTimeout.2, hannounced.writeTimeout.2⟩
  · rintro ⟨hread, hwrite⟩
    have hempty := one_le_utf8ByteSize_iff.mp h.appName.1
    have hname := Nat.le_trans (length_le_utf8ByteSize config.logging.appName) h.appName.2
    exact ⟨h.readBufferSize, ⟨h.readTimeout.1, hread⟩, ⟨h.writeTimeout.1, hwrite⟩, h.address,
      h.connectionTimeout, one_le_length_iff.mpr hempty, hname⟩

/-- Validation succeeds exactly within the limits that it enforces. A configuration that keeps what
is announced is valid unless its name has more than 64 octets, and a valid one keeps what is
announced unless a time limit of the transport lies in the second behind the greatest one. -/
theorem valid_iff_enforced (config : Config) :
    (config.problems = [] ↔ config.KeepsEnforced) ∧
      (config.check = .ok () ↔ config.KeepsEnforced) ∧
      (config.KeepsAnnounced →
        (config.problems = [] ↔ config.logging.appName.utf8ByteSize ≤ 64)) ∧
      (config.problems = [] →
        (config.KeepsAnnounced ↔
          config.transport.readTimeout ≤ .ofSeconds 300 ∧
            config.transport.writeTimeout ≤ .ofSeconds 300)) := by
  refine ⟨problems_eq_nil_iff, check_eq_ok_iff.trans problems_eq_nil_iff, ?_, ?_⟩
  · intro hannounced
    exact problems_eq_nil_iff.trans hannounced.keepsEnforced_iff
  · intro hvalid
    exact (problems_eq_nil_iff.mp hvalid).keepsAnnounced_iff

/-- Its name has so many letters of two octets each. -/
def accented (count : Nat) : Config :=
  { logging := { appName := String.ofList (List.replicate count 'é') } }

/-- Its receives have half a second more than the greatest limit. -/
def overtime : Config := { transport := { readTimeout := .ofMilliseconds 300500 } }

theorem keepsAnnounced_default : KeepsAnnounced {} :=
  ⟨by decide, by decide, by decide, by decide, by decide, by decide⟩

theorem accented_keepsAnnounced {count : Nat} (hpos : 1 ≤ count) (hle : count ≤ 64) :
    (accented count).KeepsAnnounced := by
  have hlength : (accented count).logging.appName.length = count := by
    rw [accented, String.length_ofList, List.length_replicate]
  refine { keepsAnnounced_default with appName := ?_ }
  rw [hlength]
  exact ⟨hpos, hle⟩

/-- The longest name of such letters, which fills its octets. -/
theorem valid_iff_enforced_longest_name :
    (accented 32).KeepsAnnounced ∧ (accented 32).problems = [] ∧ (accented 32).check = .ok () ∧
      (accented 32).transport.readTimeout ≤ .ofSeconds 300 := by
  have hannounced : (accented 32).KeepsAnnounced :=
    accented_keepsAnnounced (by decide) (by decide)
  obtain ⟨hproblems, hcheck, hname, hlimits⟩ := valid_iff_enforced (accented 32)
  have hvalid : (accented 32).problems = [] := (hname hannounced).mpr (by decide)
  exact ⟨hannounced, hvalid, hcheck.mpr (hproblems.mp hvalid),
    ((hlimits hvalid).mp hannounced).1⟩

/-- A name of 33 characters is refused as longer than 64 characters, and a time limit of 300.5 s is
accepted below a greatest one of 300 s. -/
theorem exists_wrongly_judged :
    ((accented 33).KeepsAnnounced ∧ (accented 33).problems = [.appNameTooLong 66] ∧
        (accented 33).logging.appName.length = 33) ∧
      overtime.problems = [] ∧ overtime.check = .ok () ∧ ¬overtime.KeepsAnnounced := by
  have hovertime : overtime.problems = [] := by decide
  refine ⟨⟨accented_keepsAnnounced (by decide) (by decide), by decide, by decide⟩, hovertime,
    check_eq_ok_iff.mpr hovertime, ?_⟩
  intro hannounced
  exact absurd hannounced.readTimeout.2 (by decide)

end PeerLink.Config
