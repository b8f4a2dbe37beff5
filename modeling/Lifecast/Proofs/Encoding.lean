/-
Encoding is undone by reassembly, also for a reader that joins late.

A payload is not looked at when it is encoded, so whatever delimiters it has of its own cut it
as well: what comes out of the frame of a payload are the parts between them.  Payloads come
out as they went in exactly if each of them has bytes and none holds the delimiter.

A reader that joins in the middle begins inside some payload, or at one.  What is left of that
payload is all that it gets wrong (`exists_of_suffix`): the delimiter behind it puts the reader
in step with the frames that follow.
-/
import Lifecast.Proofs.Framing

namespace Lifecast

namespace Bytes

/-- Some payloads as they travel, one behind the other. -/
def stream (d : UInt8) (payloads : List Bytes) : Bytes :=
  (payloads.map (encodeFrame · d)).flatten

/-- The pieces between the delimiters of a payload, those without bytes left out. -/
def parts (d : UInt8) (payload : Bytes) : List Bytes :=
  (payload.splitOn d).filter (· ≠ [])

/-- Bytes that come out of their frame as they went in: there are some, and no delimiter. -/
def IsFrame (d : UInt8) (payload : Bytes) : Prop :=
  payload ≠ [] ∧ d ∉ payload

theorem stream_cons (d : UInt8) (p : Bytes) (rest : List Bytes) :
    stream d (p :: rest) = p ++ d :: stream d rest := by
  simp [stream, encodeFrame]

@[simp] theorem parts_nil (d : UInt8) : parts d [] = [] := by
  simp [parts]

theorem IsFrame.of_suffix {d : UInt8} {p lead : Bytes} (h : IsFrame d p) (hlead : lead <:+ p)
    (hne : lead ≠ []) : IsFrame d lead :=
  ⟨hne, fun hmem => h.2 (hlead.mem hmem)⟩

theorem parts_of_isFrame {d : UInt8} {p : Bytes} (h : IsFrame d p) : parts d p = [p] := by
  unfold parts
  rw [List.splitOn_eq_singleton h.2]
  simp [h.1]

/-- A delimiter closes the parts of what stands before it. -/
theorem pieces_append_delimiter (d : UInt8) (p rest : Bytes) :
    pieces d (p ++ d :: rest) = parts d p ++ pieces d rest := by
  unfold pieces parts
  rw [List.splitOn_append_cons_self, List.dropLast_append_of_ne_nil (List.splitOn_ne_nil d rest),
    List.filter_append]

/-- The pieces of a stream are the parts of its payloads. -/
theorem pieces_stream (d : UInt8) (payloads : List Bytes) :
    pieces d (stream d payloads) = payloads.flatMap (parts d) := by
  induction payloads with
  | nil => exact pieces_of_not_mem List.not_mem_nil
  | cons p rest ih => rw [stream_cons, pieces_append_delimiter, ih, List.flatMap_cons]

theorem flatMap_parts_of_isFrame {d : UInt8} {payloads : List Bytes}
    (h : ∀ p ∈ payloads, IsFrame d p) : payloads.flatMap (parts d) = payloads := by
  rw [List.flatMap_congr fun p hp => parts_of_isFrame (h p hp), List.flatMap_singleton']

/-- The end of a stream is a stream: the end of one payload, and all that follow. -/
theorem exists_of_suffix {d : UInt8} {payloads : List Bytes} {left : Bytes}
    (h : left <:+ stream d payloads) :
    left = [] ∨ ∃ earlier p rest lead, payloads = earlier ++ p :: rest ∧ lead <:+ p ∧
      left = stream d (lead :: rest) := by
  induction payloads with
  | nil => exact Or.inl (List.suffix_nil.mp h)
  | cons p rest ih =>
      rw [stream_cons] at h
      by_cases hrest : left <:+ stream d rest
      · rcases ih hrest with rfl | ⟨earlier, p', rest', lead, rfl, hlead, rfl⟩
        · exact Or.inl rfl
        · exact Or.inr ⟨p :: earlier, p', rest', lead, rfl, hlead, rfl⟩
      · -- Otherwise the reader begins in the first frame.
        have htail : stream d rest <:+ p ++ d :: stream d rest :=
          (List.suffix_cons d _).trans (List.suffix_append p _)
        obtain ⟨first, rfl⟩ := (List.suffix_or_suffix_of_suffix h htail).resolve_left hrest
        obtain ⟨skipped, hskipped⟩ := h
        have hbegin : skipped ++ first ++ stream d rest = p ++ [d] ++ stream d rest := by
          rw [List.append_assoc, hskipped, List.append_assoc, List.singleton_append]
        have hfirst : first <:+ p ++ [d] := ⟨skipped, List.append_cancel_right hbegin⟩
        rcases List.suffix_concat_iff.mp hfirst with rfl | ⟨lead, rfl, hlead⟩
        · exact absurd (List.suffix_refl _) hrest
        · refine Or.inr ⟨[], p, rest, lead, rfl, hlead, ?_⟩
          rw [stream_cons, List.append_assoc, List.singleton_append]

end Bytes

namespace FrameBuffer

/-- A frame that is returned has bytes and no delimiter. -/
theorem isFrame_of_returned {d : UInt8} {reads : List Bytes} {p : Bytes}
    (h : p ∈ ((empty d).feedAll reads).2) : Bytes.IsFrame d p := by
  constructor
  · rw [(feedAll_eq_pieces d reads).1] at h
    simpa using (List.mem_filter.mp h).2
  · intro hmem
    rw [feedAll_eq_feed_flatten] at h
    have hkept : ((empty d).feed reads.flatten).2.flatten ++ ((empty d).feed reads.flatten).1.unfinished
        = reads.flatten.filter (· ≠ d) := flatten_feed (empty d) reads.flatten
    have hin : d ∈ reads.flatten.filter (· ≠ d) := by
      rw [← hkept]
      exact List.mem_append_left _ (List.mem_flatten.mpr ⟨p, h, hmem⟩)
    simp at hin

/-- Nothing waits behind a stream. -/
theorem pending_of_stream {d : UInt8} {payloads reads : List Bytes}
    (h : reads.flatten = Bytes.stream d payloads) : ((empty d).feedAll reads).1.pending = 0 := by
  rw [pending_eq, (feedAll_eq_pieces d reads).2, h]
  exact congrArg List.length (Bytes.afterLast_flatten_encodeFrame d payloads)

/-- A stream comes out as the parts of its payloads. -/
theorem feedAll_of_stream {d : UInt8} {payloads reads : List Bytes}
    (h : reads.flatten = Bytes.stream d payloads) :
    ((empty d).feedAll reads).2 = payloads.flatMap (Bytes.parts d) := by
  rw [(feedAll_eq_pieces d reads).1, h, Bytes.pieces_stream]

/-- What comes out is what went in exactly if that is frames only. -/
theorem feedAll_eq_self_iff {d : UInt8} {payloads reads : List Bytes}
    (h : reads.flatten = Bytes.stream d payloads) :
    ((empty d).feedAll reads).2 = payloads ↔ ∀ p ∈ payloads, Bytes.IsFrame d p := by
  constructor
  · intro hsame p hp
    rw [← hsame] at hp
    exact isFrame_of_returned hp
  · intro hframes
    rw [feedAll_of_stream h, Bytes.flatMap_parts_of_isFrame hframes]

/-- A reader that joins late gets the frames that follow, and at most the end of one more. -/
theorem feedAll_of_suffix {d : UInt8} {payloads reads : List Bytes}
    (hframes : ∀ p ∈ payloads, Bytes.IsFrame d p) (h : reads.flatten <:+ Bytes.stream d payloads) :
    (∃ missed rest, payloads = missed ++ rest ∧
      (((empty d).feedAll reads).2 = rest ∨
        ∃ earlier p lead, missed = earlier ++ [p] ∧ lead <:+ p ∧ lead ≠ p ∧
          ((empty d).feedAll reads).2 = lead :: rest)) ∧
      ((empty d).feedAll reads).1.pending = 0 := by
  rcases Bytes.exists_of_suffix h with hleft | ⟨earlier, p, rest, lead, rfl, hlead, hleft⟩
  · have hnone : reads.flatten = Bytes.stream d [] := hleft
    refine ⟨⟨payloads, [], (List.append_nil _).symm, Or.inl ?_⟩, pending_of_stream hnone⟩
    rw [feedAll_of_stream hnone, List.flatMap_nil]
  · refine ⟨?_, pending_of_stream hleft⟩
    have hp : Bytes.IsFrame d p := hframes p (by simp)
    have hrest : rest.flatMap (Bytes.parts d) = rest :=
      Bytes.flatMap_parts_of_isFrame fun q hq => hframes q (by simp [hq])
    have hreturned : ((empty d).feedAll reads).2 = Bytes.parts d lead ++ rest := by
      rw [feedAll_of_stream hleft, List.flatMap_cons, hrest]
    by_cases hwhole : lead = p
    · -- The reader begins with a whole frame.
      subst hwhole
      rw [Bytes.parts_of_isFrame hp] at hreturned
      exact ⟨earlier, lead :: rest, rfl, Or.inl hreturned⟩
    · refine ⟨earlier ++ [p], rest, by simp, ?_⟩
      by_cases hnone : lead = []
      · rw [hnone, Bytes.parts_nil] at hreturned
        exact Or.inl hreturned
      · rw [Bytes.parts_of_isFrame (hp.of_suffix hlead hnone)] at hreturned
        exact Or.inr ⟨earlier, p, lead, rfl, hlead, hwhole, hreturned⟩

/--
**Encoded payloads come out as their parts, which are the payloads themselves if and only if
each of them is a frame; and a reader that joins late is in step after one delimiter.**
-/
theorem feedAll_encoded (d : UInt8) (payloads : List Bytes) :
    (∀ reads : List Bytes, reads.flatten = (payloads.map (encodeFrame · d)).flatten →
      ((empty d).feedAll reads).2 = payloads.flatMap (Bytes.parts d) ∧
      ((empty d).feedAll reads).1.pending = 0 ∧
      (((empty d).feedAll reads).2 = payloads ↔ ∀ p ∈ payloads, p ≠ [] ∧ d ∉ p)) ∧
    ((∀ p ∈ payloads, p ≠ [] ∧ d ∉ p) →
      ∀ reads : List Bytes, reads.flatten <:+ (payloads.map (encodeFrame · d)).flatten →
      (∃ missed rest, payloads = missed ++ rest ∧
        (((empty d).feedAll reads).2 = rest ∨
          ∃ earlier p lead, missed = earlier ++ [p] ∧ lead <:+ p ∧ lead ≠ p ∧
            ((empty d).feedAll reads).2 = lead :: rest)) ∧
      ((empty d).feedAll reads).1.pending = 0) :=
  ⟨fun _ h => ⟨feedAll_of_stream h, pending_of_stream h, feedAll_eq_self_iff h⟩,
    fun hframes _ h => feedAll_of_suffix hframes h⟩

/-- Three payloads, and a reader that begins inside the second of them. -/
theorem feedAll_encoded_joined :
    let payloads : List Bytes := [[97], [98, 99, 100], [101]]
    let reads : List Bytes := [[99], [], [100, 10, 101], [10]]
    (∀ p ∈ payloads, p ≠ [] ∧ (10 : UInt8) ∉ p) ∧
      reads.flatten <:+ (payloads.map (encodeFrame · 10)).flatten ∧
      ((empty 10).feedAll reads).2 = [[99, 100], [101]] ∧
      (∃ missed rest, payloads = missed ++ rest ∧
        (((empty 10).feedAll reads).2 = rest ∨
          ∃ earlier p lead, missed = earlier ++ [p] ∧ lead <:+ p ∧ lead ≠ p ∧
            ((empty 10).feedAll reads).2 = lead :: rest)) ∧
      ((empty 10).feedAll reads).1.pending = 0 := by
  intro payloads reads
  have hframes : ∀ p ∈ payloads, p ≠ [] ∧ (10 : UInt8) ∉ p := by decide
  have hsuffix : reads.flatten <:+ (payloads.map (encodeFrame · 10)).flatten := by decide
  exact ⟨hframes, hsuffix, by decide, (feedAll_encoded 10 payloads).2 hframes reads hsuffix⟩

end FrameBuffer

end Lifecast
