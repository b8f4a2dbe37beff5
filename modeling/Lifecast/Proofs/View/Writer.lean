/-
What a writer takes, however it is offered.

Of each piece the writer takes a share at a time until it breaks, perhaps in the middle of a
character.  If it takes at least one byte at a time, none of this shows in what is written: it takes
what it has room for, from the front (`yield`), of one piece (`writeAll_eq`) and of several
(`writePieces_eq`).  A writer with a limit has as much room as what was offered before has left,
also if it broke over that (`yield_limited`).
-/
import Lifecast.View.Writer

namespace Lifecast

namespace Writer

/-- How many of some bytes there is room for. -/
def room (w : Writer) (offered : Nat) : Nat :=
  atMost (w.limit.map (· - w.taken)) offered

/-- What comes of writing some bytes, however many of them are taken at a time. -/
def yield (w : Writer) (bs : Bytes) : Written where
  writer := w.take (w.room bs.length)
  bytes := bs.take (w.room bs.length)
  fault := if w.room bs.length < bs.length then some .brokenPipe else none

variable {w : Writer} {n m : Nat}

theorem atMost_le (bound : Option Nat) (n : Nat) : atMost bound n ≤ n := by
  cases bound with
  | none => exact Nat.le_refl n
  | some b => exact Nat.min_le_right b n

theorem atMost_mono (bound : Option Nat) (h : m ≤ n) : atMost bound m ≤ atMost bound n := by
  cases bound with
  | none => exact h
  | some b =>
      show min b m ≤ min b n
      omega

/-- A bound that lets something through takes nothing only of nothing. -/
theorem eq_zero_of_atMost {bound : Option Nat} (hbound : bound ≠ some 0)
    (h : atMost bound n = 0) : n = 0 := by
  cases bound with
  | none => exact h
  | some b =>
      have hb : b ≠ 0 := fun hb => hbound (congrArg some hb)
      have hmin : min b n = 0 := h
      omega

theorem room_le : w.room n ≤ n :=
  atMost_le _ n

theorem share_le_room : w.share n ≤ w.room n :=
  atMost_mono _ (atMost_le _ n)

/-- A writer that takes nothing has no room. -/
theorem room_eq_zero (hchunk : w.chunk ≠ some 0) (h : w.share n = 0) : w.room n = 0 := by
  by_cases hfull : w.limit.map (· - w.taken) = some 0
  · unfold room
    rw [hfull]
    exact Nat.zero_min n
  · have hn : n = 0 := eq_zero_of_atMost hchunk (eq_zero_of_atMost hfull h)
    rw [hn]
    exact Nat.le_zero.mp room_le

/-- What is taken of the front is not taken of the rest. -/
theorem room_take (h : m ≤ w.room n) : (w.take m).room (n - m) = w.room n - m := by
  obtain ⟨chunk, limit, taken⟩ := w
  cases limit with
  | none => rfl
  | some bound =>
      change m ≤ min (bound - taken) n at h
      show min (bound - (taken + m)) (n - m) = min (bound - taken) n - m
      omega

/-- What there is not enough room for is cut at the same place if it goes on. -/
theorem room_of_lt (h : w.room n < n) (hle : n ≤ m) : w.room m = w.room n := by
  obtain ⟨chunk, limit, taken⟩ := w
  cases limit with
  | none => exact absurd h (Nat.lt_irrefl n)
  | some bound =>
      change min (bound - taken) n < n at h
      show min (bound - taken) m = min (bound - taken) n
      omega

theorem yield_nil (w : Writer) : w.yield [] = { writer := w } := by
  have hroom : w.room 0 = 0 := Nat.le_zero.mp room_le
  unfold yield
  rw [List.length_nil, hroom]
  rfl

/-- If the front is taken, what comes of the whole comes of the rest. -/
theorem yield_split {bs : Bytes} (h : m ≤ w.room bs.length) :
    ((w.take m).yield (bs.drop m)).after (bs.take m) = w.yield bs := by
  have hle : w.room bs.length ≤ bs.length := room_le
  have hroom : (w.take m).room (bs.drop m).length = w.room bs.length - m := by
    rw [List.length_drop, room_take h]
  unfold yield Written.after
  rw [hroom, List.length_drop, ← List.take_add, Nat.add_sub_cancel' h]
  simp only [take, Written.mk.injEq, Writer.mk.injEq, true_and]
  refine ⟨by omega, ?_⟩
  congr 1
  simp only [eq_iff_iff]
  omega

/-- Where the writer breaks within some bytes, it is never offered what follows. -/
theorem yield_of_cut {bs : Bytes} (h : w.room bs.length < bs.length) (rest : Bytes) :
    w.yield (bs ++ rest) = w.yield bs ∧ (w.yield bs).fault = some .brokenPipe := by
  have hlength : bs.length ≤ (bs ++ rest).length := by
    rw [List.length_append]
    exact Nat.le_add_right ..
  have hlt : w.room bs.length < (bs ++ rest).length := Nat.lt_of_lt_of_le h hlength
  unfold yield
  rw [room_of_lt h hlength, List.take_append_of_le_length room_le, if_pos h, if_pos hlt]
  exact ⟨rfl, rfl⟩

theorem yield_of_whole {bs : Bytes} (h : w.room bs.length = bs.length) :
    w.yield bs = { writer := w.take bs.length, bytes := bs } := by
  unfold yield
  rw [h, List.take_length, if_neg (Nat.lt_irrefl _)]

/-- **However little it takes at a time, a writer takes all it has room for.** -/
theorem writeAll_eq (hchunk : w.chunk ≠ some 0) (bs : Bytes) : w.writeAll bs = w.yield bs := by
  induction w, bs using writeAll.induct with
  | case1 w bs hempty =>
      rw [writeAll, if_pos hempty, List.isEmpty_iff.mp hempty, yield_nil]
  | case2 w bs hsome hshare =>
      have hroom : w.room bs.length = 0 := room_eq_zero hchunk hshare
      have hlength : 0 < bs.length := by
        rw [List.length_pos_iff]
        exact fun hnil => hsome (List.isEmpty_iff.mpr hnil)
      rw [writeAll, if_neg hsome, dif_pos hshare, yield, hroom, if_pos hlength]
      rfl
  | case3 w bs hsome hshare ih =>
      rw [writeAll, if_neg hsome, dif_neg hshare, ih hchunk, yield_split share_le_room]

/-- **Pieces are taken as they would be in one.** -/
theorem writePieces_eq (hchunk : w.chunk ≠ some 0) (pieces : List Bytes) :
    w.writePieces pieces = w.yield pieces.flatten := by
  induction pieces generalizing w with
  | nil => rw [writePieces, List.flatten_nil, yield_nil]
  | cons piece rest ih =>
      rw [writePieces, writeAll_eq hchunk, List.flatten_cons]
      by_cases hroom : w.room piece.length < piece.length
      · obtain ⟨hcut, hfault⟩ := yield_of_cut hroom rest.flatten
        rw [hcut]
        simp only [hfault]
      · have hwhole : w.room piece.length = piece.length :=
          Nat.le_antisymm room_le (Nat.le_of_not_lt hroom)
        have hfront : piece.length ≤ w.room (piece ++ rest.flatten).length := by
          rw [← hwhole]
          apply atMost_mono
          rw [List.length_append]
          exact Nat.le_add_right ..
        have hrest : (w.take piece.length).writePieces rest
            = (w.take piece.length).yield rest.flatten := ih hchunk
        have hsplit := yield_split hfront
        rw [List.drop_left, List.take_left] at hsplit
        rw [yield_of_whole hwhole]
        simp only [hrest]
        exact hsplit

/-! ### A writer that never breaks -/

/-- Does the writer take whatever it is offered, in however many pieces? -/
def NeverFails (w : Writer) : Prop :=
  ∀ pieces, (w.writePieces pieces).fault = none

theorem yield_of_unlimited (h : w.limit = none) (bs : Bytes) :
    w.yield bs = { writer := w.take bs.length, bytes := bs } := by
  refine yield_of_whole ?_
  rw [room, h]
  rfl

/-- It must not refuse a byte, and have no limit. -/
theorem neverFails_iff : w.NeverFails ↔ w.chunk ≠ some 0 ∧ w.limit = none := by
  constructor
  · intro h
    have hchunk : w.chunk ≠ some 0 := by
      intro hzero
      have hshare : w.share [(0 : UInt8)].length = 0 := by
        unfold share
        rw [hzero]
        exact Nat.le_zero.mp (atMost_le _ _)
      have hone := h [[0]]
      rw [writePieces, writeAll, if_neg (by simp), dif_pos hshare] at hone
      cases hone
    refine ⟨hchunk, ?_⟩
    cases hlimit : w.limit with
    | none => rfl
    | some limit =>
        have hall := h [List.replicate (limit + 1) 0]
        have hroom : w.room (limit + 1) < limit + 1 := by
          rw [room, hlimit]
          show min (limit - w.taken) (limit + 1) < limit + 1
          omega
        rw [writePieces_eq hchunk, List.flatten_singleton, yield, List.length_replicate,
          if_pos hroom] at hall
        cases hall
  · rintro ⟨hchunk, hlimit⟩ pieces
    rw [writePieces_eq hchunk, yield_of_unlimited hlimit]

theorem NeverFails.take (h : w.NeverFails) (n : Nat) : (w.take n).NeverFails := by
  have hw := neverFails_iff.mp h
  exact neverFails_iff.mpr hw

/-! ### A limit, and how much was offered -/

/-- The writer that was offered so many bytes before, and that breaks after `limit`. -/
def limited (chunk limit offered : Nat) : Writer :=
  { chunk := some chunk, limit := some limit, taken := min limit offered }

/-- What is left of the limit is used from the front. -/
theorem yield_limited (k L N : Nat) (bs : Bytes) :
    (limited k L N).yield bs
      = { writer := limited k L (N + bs.length)
          bytes := bs.take (L - N)
          fault := if L - N < bs.length then some .brokenPipe else none } := by
  have hroom : (limited k L N).room bs.length = min (L - N) bs.length := by
    show min (L - min L N) bs.length = min (L - N) bs.length
    omega
  have htaken : min L N + min (L - N) bs.length = min L (N + bs.length) := by omega
  have hcut : min (L - N) bs.length < bs.length ↔ L - N < bs.length := by omega
  unfold yield
  rw [hroom, ← List.take_eq_take_min]
  simp only [limited, take, htaken, hcut]

end Writer

end Lifecast
