/-
What texts name a multicast group.

Blanks around a text do not count.  What they stand around is the text of an IPv4 address, that
of an IPv6 address or neither, and never both.  So there are four classes of texts, the IPv4
addresses being of a group or not (`Reads`), and what a text is read as says which one it is in
(`parseGroup_eq_iff`).  A text that is refused is shown as it was given, blanks and all.
-/
import Lifecast.Engine.SetUp
import Lifecast.Proofs.Net.Ipv6

namespace Lifecast

/-! ### Named addresses -/

/-- The text is that of an IPv4 address, blanks around it aside. -/
def Ipv4.Named (ip : Ipv4) (s : String) : Prop :=
  ∃ w, Text.Around w s.toList ∧ Ipv4.Spells w ip

/-- The text is that of an IPv6 address, blanks around it aside. -/
def Ipv6.IsNamed (s : String) : Prop :=
  ∃ w, Text.Around w s.toList ∧ Ipv6.IsText w

/-- The first number of the address is one of those of groups. -/
def Ipv4.InRange (ip : Ipv4) : Prop :=
  224 ≤ ip.a.toNat ∧ ip.a.toNat ≤ 239

theorem Ipv4.isMulticast_iff {ip : Ipv4} : ip.isMulticast = true ↔ ip.InRange := by
  rw [Ipv4.isMulticast, Bool.and_eq_true, decide_eq_true_eq, decide_eq_true_eq]
  exact Iff.rfl

theorem Ipv4.named_iff {ip : Ipv4} {s : String} :
    ip.Named s ↔ IpAddress.ofText? (Text.trim s.toList) = some (.v4 ip) := by
  rw [IpAddress.ofText?_eq_v4_iff]
  exact Text.exists_around_iff fun _ h => h.trimmed

theorem Ipv6.isNamed_iff {s : String} :
    Ipv6.IsNamed s ↔ ∃ ip, IpAddress.ofText? (Text.trim s.toList) = some (.v6 ip) := by
  rw [IpAddress.exists_ofText?_eq_v6_iff]
  exact Text.exists_around_iff fun _ h => h.trimmed

namespace Group

variable {s : String} {port : UInt16} {r : Except AddressFault Group} {fault : AddressFault}

/-! ### The class of a text -/

/-- What a text is read as: one rule for each class of texts. -/
inductive Reads (s : String) (port : UInt16) : Except AddressFault Group → Prop where
  | group (g : Group) (h : g.ip.Named s) (hport : g.port = port) : Reads s port (.ok g)
  | notMulticast {ip : Ipv4} (h : ip.Named s) (hrange : ¬ ip.InRange) :
      Reads s port (.error (.notMulticast s))
  | ipv6Group (h : Ipv6.IsNamed s) : Reads s port (.error (.ipv6Group s))
  | notAnAddress (hv4 : ∀ ip : Ipv4, ¬ ip.Named s) (hv6 : ¬ Ipv6.IsNamed s) :
      Reads s port (.error (.notAnAddress s))

theorem Reads.parseGroup_eq (h : Reads s port r) : parseGroup s port = r := by
  rw [parseGroup, parseIp]
  cases h with
  | group g h hport =>
      subst hport
      rw [Ipv4.named_iff.mp h]
      exact dif_pos g.isMulticast
  | notMulticast h hrange =>
      rw [Ipv4.named_iff.mp h]
      exact dif_neg (mt Ipv4.isMulticast_iff.mp hrange)
  | ipv6Group h =>
      obtain ⟨ip, hip⟩ := Ipv6.isNamed_iff.mp h
      rw [hip]
      rfl
  | notAnAddress hv4 hv6 =>
      cases hfound : IpAddress.ofText? (Text.trim s.toList) with
      | none => rfl
      | some found =>
          cases found with
          | v4 ip => exact absurd (Ipv4.named_iff.mpr hfound) (hv4 ip)
          | v6 ip => exact absurd (Ipv6.isNamed_iff.mpr ⟨ip, hfound⟩) hv6

/-- Every text is in one of the classes. -/
theorem exists_reads (s : String) (port : UInt16) : ∃ r, Reads s port r := by
  by_cases hv6 : Ipv6.IsNamed s
  · exact ⟨_, .ipv6Group hv6⟩
  by_cases hv4 : ∃ ip : Ipv4, ip.Named s
  · obtain ⟨ip, h⟩ := hv4
    by_cases hrange : ip.InRange
    · exact ⟨_, .group ⟨ip, port, Ipv4.isMulticast_iff.mpr hrange⟩ h rfl⟩
    · exact ⟨_, .notMulticast h hrange⟩
  · exact ⟨_, .notAnAddress (fun ip h => hv4 ⟨ip, h⟩) hv6⟩

/-- **The rules are exact.** -/
theorem parseGroup_eq_iff : parseGroup s port = r ↔ Reads s port r := by
  refine ⟨?_, Reads.parseGroup_eq⟩
  rintro rfl
  obtain ⟨r, hr⟩ := exists_reads s port
  exact hr.parseGroup_eq ▸ hr

theorem reads_ok_iff {g : Group} : Reads s port (.ok g) ↔ g.ip.Named s ∧ g.port = port := by
  constructor
  · intro h
    cases h with
    | group _ h hport => exact ⟨h, hport⟩
  · exact fun h => .group g h.1 h.2

theorem reads_notMulticast_iff :
    Reads s port (.error (.notMulticast s)) ↔ ∃ ip : Ipv4, ip.Named s ∧ ¬ ip.InRange := by
  constructor
  · intro h
    cases h with
    | notMulticast h hrange => exact ⟨_, h, hrange⟩
  · rintro ⟨ip, h, hrange⟩
    exact .notMulticast h hrange

theorem reads_ipv6Group_iff : Reads s port (.error (.ipv6Group s)) ↔ Ipv6.IsNamed s := by
  refine ⟨fun h => ?_, .ipv6Group⟩
  cases h with
  | ipv6Group h => exact h

theorem reads_notAnAddress_iff :
    Reads s port (.error (.notAnAddress s))
      ↔ (∀ ip : Ipv4, ¬ ip.Named s) ∧ ¬ Ipv6.IsNamed s := by
  constructor
  · intro h
    cases h with
    | notAnAddress hv4 hv6 => exact ⟨hv4, hv6⟩
  · exact fun h => .notAnAddress h.1 h.2

/-! ### What is said about a text that names no group -/

/-- The reasons there are to refuse a text. -/
def reasons (s : String) : List AddressFault :=
  [.notAnAddress s, .notMulticast s, .ipv6Group s]

theorem Reads.mem_reasons (h : Reads s port (.error fault)) : fault ∈ reasons s := by
  cases h <;> simp [reasons]

/-- What is said shows the text. -/
theorem message_shows (h : fault ∈ reasons s) :
    ∃ before after, fault.message = before ++ s ++ after := by
  simp only [reasons, List.mem_cons, List.not_mem_nil, or_false] at h
  rcases h with rfl | rfl | rfl
  · exact ⟨"'", "' is not an IP address", rfl⟩
  · refine ⟨"", " is not a multicast address", ?_⟩
    rw [String.empty_append]
    rfl
  · refine ⟨"", " is IPv6; only IPv4 multicast groups are supported", ?_⟩
    rw [String.empty_append]
    rfl

/-- What is said tells the reasons apart: no two of the sentences are of one length. -/
theorem message_inj {fault' : AddressFault} (h : fault ∈ reasons s) (h' : fault' ∈ reasons s)
    (heq : fault.message = fault'.message) : fault = fault' := by
  have hnone : (AddressFault.notAnAddress s).message.length = s.length + 23 := by
    have heq : (AddressFault.notAnAddress s).message = "'" ++ s ++ "' is not an IP address" := rfl
    have hfront : "'".length = 1 := by decide
    have hback : "' is not an IP address".length = 22 := by decide
    rw [heq, String.length_append, String.length_append]
    omega
  have hother : (AddressFault.notMulticast s).message.length = s.length + 27 :=
    String.length_append s " is not a multicast address"
  have hipv6 : (AddressFault.ipv6Group s).message.length = s.length + 50 :=
    String.length_append s " is IPv6; only IPv4 multicast groups are supported"
  have hlength := congrArg String.length heq
  simp only [reasons, List.mem_cons, List.not_mem_nil, or_false] at h h'
  rcases h with rfl | rfl | rfl <;> rcases h' with rfl | rfl | rfl <;> first | rfl | omega

/-! ### Reading a group -/

open Server (readGroup)

theorem readGroup_eq_ok_iff {g : Group} : readGroup s port = .ok g ↔ Reads s port (.ok g) := by
  rw [← parseGroup_eq_iff, readGroup]
  cases parseGroup s port with
  | error fault => simp only [Except.mapError, reduceCtorEq]
  | ok g' => simp only [Except.mapError, Except.ok.injEq]

theorem readGroup_eq_error_iff (hfault : fault ∈ reasons s) :
    readGroup s port = .error (.invalidAddress fault.message) ↔ Reads s port (.error fault) := by
  obtain ⟨r, hr⟩ := exists_reads s port
  rw [← parseGroup_eq_iff, readGroup, hr.parseGroup_eq]
  cases r with
  | ok g => simp only [Except.mapError, reduceCtorEq]
  | error fault' =>
      rw [Except.mapError, Except.error.injEq, EngineError.invalidAddress.injEq, Except.error.injEq]
      exact ⟨message_inj hr.mem_reasons hfault, congrArg AddressFault.message⟩

/-- **What reading the text of a group comes to**, for every text. -/
structure Classifies (s : String) (port : UInt16) : Prop where
  /-- A group is read from the text of its address, blanks around it aside. -/
  accepts (ip : Ipv4) (p : UInt16) :
    (∃ g : Group, readGroup s port = .ok g ∧ g.ip = ip ∧ g.port = p)
      ↔ ip.Named s ∧ ip.InRange ∧ p = port
  ipv6Group : readGroup s port = .error (.invalidAddress (AddressFault.ipv6Group s).message)
    ↔ Ipv6.IsNamed s
  notMulticast :
    readGroup s port = .error (.invalidAddress (AddressFault.notMulticast s).message)
      ↔ ∃ ip : Ipv4, ip.Named s ∧ ¬ ip.InRange
  notAnAddress :
    readGroup s port = .error (.invalidAddress (AddressFault.notAnAddress s).message)
      ↔ (∀ ip : Ipv4, ¬ ip.Named s) ∧ ¬ Ipv6.IsNamed s
  /-- There is no other reason, and the text is shown as it was given. -/
  refuses (e : EngineError) (h : readGroup s port = .error e) :
    (∃ fault ∈ reasons s, e = .invalidAddress fault.message) ∧
      ∃ before after, e = .invalidAddress (before ++ s ++ after)
  /-- Each group is read from its own text. -/
  roundTrip (g : Group) (h : Text.Around g.ip.text.toList s.toList) (hport : g.port = port) :
    readGroup s port = .ok g
  /-- Texts of one group are the same, blanks around them aside. -/
  injective (s' : String) (port' : UInt16) (g : Group) (h : readGroup s port = .ok g)
    (h' : readGroup s' port' = .ok g) : ∃ w, Text.Around w s.toList ∧ Text.Around w s'.toList
  /-- A group that an IPv6 address holds is not taken. -/
  mapped (ip : Ipv4) (h : Text.Around ("::ffff:" ++ ip.text).toList s.toList) :
    readGroup s port = .error (.invalidAddress (AddressFault.ipv6Group s).message)

theorem readGroup_classifies (s : String) (port : UInt16) : Classifies s port where
  accepts ip p := by
    constructor
    · rintro ⟨g, h, rfl, rfl⟩
      obtain ⟨hnamed, hport⟩ := reads_ok_iff.mp (readGroup_eq_ok_iff.mp h)
      exact ⟨hnamed, Ipv4.isMulticast_iff.mp g.isMulticast, hport⟩
    · rintro ⟨hnamed, hrange, rfl⟩
      have hreads := Reads.group ⟨ip, p, Ipv4.isMulticast_iff.mpr hrange⟩ hnamed rfl
      exact ⟨_, readGroup_eq_ok_iff.mpr hreads, rfl, rfl⟩
  ipv6Group := (readGroup_eq_error_iff (by simp [reasons])).trans reads_ipv6Group_iff
  notMulticast := (readGroup_eq_error_iff (by simp [reasons])).trans reads_notMulticast_iff
  notAnAddress := (readGroup_eq_error_iff (by simp [reasons])).trans reads_notAnAddress_iff
  refuses e h := by
    obtain ⟨r, hr⟩ := exists_reads s port
    rw [readGroup, hr.parseGroup_eq] at h
    cases r with
    | ok g =>
        rw [Except.mapError] at h
        cases h
    | error fault =>
        obtain rfl := Except.error.inj h
        obtain ⟨before, after, hshows⟩ := message_shows hr.mem_reasons
        exact ⟨⟨fault, hr.mem_reasons, rfl⟩, before, after, congrArg _ hshows⟩
  roundTrip g h hport :=
    readGroup_eq_ok_iff.mpr (.group g ⟨_, h, Ipv4.spells_iff.mpr rfl⟩ hport)
  injective s' port' g h h' := by
    obtain ⟨⟨w, hw, hspells⟩, -⟩ := reads_ok_iff.mp (readGroup_eq_ok_iff.mp h)
    obtain ⟨⟨w', hw', hspells'⟩, -⟩ := reads_ok_iff.mp (readGroup_eq_ok_iff.mp h')
    rw [Ipv4.spells_iff] at hspells hspells'
    exact ⟨w, hw, hspells.trans hspells'.symm ▸ hw'⟩
  mapped ip h :=
    (readGroup_eq_error_iff (by simp [reasons])).mpr (.ipv6Group ⟨_, h, Ipv6.isText_mapped ip⟩)

/-- A zero in front makes it no address. -/
example : parseGroup " 239.255.0.01" 9090 = .error (.notAnAddress " 239.255.0.01") := by
  decide

example : parseGroup "\u3000239.255.0.1\n" 9090 = .ok ⟨⟨239, 255, 0, 1⟩, 9090, by decide⟩ := by
  decide

end Group

end Lifecast
