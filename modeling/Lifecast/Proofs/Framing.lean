/-
A frame buffer is a splitter.

What a buffer hands out is said here without the buffer: cut the stream at every
delimiter, leave out the last piece, which nothing has closed yet, and leave out the
pieces that have no bytes.  What the buffer keeps is what follows the last delimiter.

The invariant is that an unfinished frame holds no delimiter (`Open`).  It makes a
delimiter that arrives the first one in all the bytes seen since the last frame, so
`feed_eq_pieces` is one induction over the read.  A run of reads and clears is then, from
its last clear on, one read of all that was pushed since (`performAll_eq_feed`).
-/
import Mathlib.Data.List.DropRight
import Lifecast.Framing

namespace Lifecast

namespace Bytes

/-- The pieces of a stream that a delimiter closes, those without bytes left out. -/
def pieces (d : UInt8) (stream : Bytes) : List Bytes :=
  (stream.splitOn d).dropLast.filter (· ≠ [])

/-- The bytes of a stream after its last delimiter; all of them if there is none. -/
def afterLast (d : UInt8) (stream : Bytes) : Bytes :=
  stream.rtakeWhile (· ≠ d)

/-! ### A stream up to its first delimiter -/

theorem pieces_of_not_mem {d : UInt8} {stream : Bytes} (h : d ∉ stream) :
    pieces d stream = [] := by
  unfold pieces
  rw [List.splitOn_eq_singleton h]
  rfl

theorem afterLast_of_not_mem {d : UInt8} {stream : Bytes} (h : d ∉ stream) :
    afterLast d stream = stream := by
  unfold afterLast
  rw [List.rtakeWhile_eq_self_iff]
  intro x hx
  have hne : x ≠ d := fun e => h (e ▸ hx)
  simpa using hne

/-- The first delimiter closes what stands before it. -/
theorem pieces_append_cons {d : UInt8} {first : Bytes} (h : d ∉ first) (rest : Bytes) :
    pieces d (first ++ d :: rest)
      = (if first = [] then [] else [first]) ++ pieces d rest := by
  unfold pieces
  rw [List.splitOn_append_cons_self_of_not_mem h,
    List.dropLast_cons_of_ne_nil (List.splitOn_ne_nil d rest), List.filter_cons]
  by_cases hempty : first = []
  · simp [hempty]
  · simp [hempty]

theorem afterLast_append_cons (d : UInt8) (first rest : Bytes) :
    afterLast d (first ++ d :: rest) = afterLast d rest := by
  unfold afterLast List.rtakeWhile
  rw [List.reverse_append, List.reverse_cons, List.append_assoc, List.takeWhile_append]
  split
  · next hall =>
      have hself : rest.reverse.takeWhile (· ≠ d) = rest.reverse :=
        (List.takeWhile_prefix _).eq_of_length hall
      rw [hself, List.singleton_append, List.takeWhile_cons_of_neg (by simp), List.append_nil]
  · rfl

/-! ### A stream of frames -/

/-- A payload without delimiters comes out of its frame as it went in, unless it has
no bytes. -/
theorem pieces_flatten_encodeFrame {d : UInt8} {payloads : List Bytes}
    (h : ∀ p ∈ payloads, d ∉ p) :
    pieces d (payloads.map (encodeFrame · d)).flatten = payloads.filter (· ≠ []) := by
  induction payloads with
  | nil => exact pieces_of_not_mem (List.not_mem_nil)
  | cons p rest ih =>
      have hp : d ∉ p := h p (by simp)
      have hrest : ∀ q ∈ rest, d ∉ q := fun q hq => h q (by simp [hq])
      have hsplit : ((p :: rest).map (encodeFrame · d)).flatten
          = p ++ d :: (rest.map (encodeFrame · d)).flatten := by
        simp [encodeFrame]
      rw [hsplit, pieces_append_cons hp, ih hrest, List.filter_cons]
      by_cases hempty : p = []
      · simp [hempty]
      · simp [hempty]

/-- Nothing follows the last of some frames. -/
theorem afterLast_flatten_encodeFrame (d : UInt8) (payloads : List Bytes) :
    afterLast d (payloads.map (encodeFrame · d)).flatten = [] := by
  induction payloads with
  | nil => rfl
  | cons p rest ih =>
      have hsplit : ((p :: rest).map (encodeFrame · d)).flatten
          = p ++ d :: (rest.map (encodeFrame · d)).flatten := by
        simp [encodeFrame]
      rw [hsplit, afterLast_append_cons, ih]

end Bytes

namespace FrameBuffer

/-! ### One read -/

theorem pending_eq (b : FrameBuffer) : b.pending = b.unfinished.length :=
  (List.length_reverse ..).symm

/-- No delimiter is in the unfinished frame. -/
def Open (b : FrameBuffer) : Prop :=
  b.delimiter ∉ b.unfinished

theorem open_empty (d : UInt8) : (empty d).Open := by
  simp [Open, empty, unfinished]

/-- A byte that is no delimiter joins the unfinished frame. -/
theorem open_cons {b : FrameBuffer} (hopen : b.Open) {x : UInt8} (hx : x ≠ b.delimiter) :
    Open { b with held := x :: b.held } := by
  intro hmem
  rcases List.mem_cons.mp (List.mem_reverse.mp hmem) with heq | hheld
  · exact hx heq.symm
  · exact hopen (List.mem_reverse.mpr hheld)

/-- **A read splits what was unfinished and what it brings.** -/
theorem feed_eq_pieces {b : FrameBuffer} (hopen : b.Open) (chunk : Bytes) :
    (b.feed chunk).2 = Bytes.pieces b.delimiter (b.unfinished ++ chunk) ∧
      (b.feed chunk).1.unfinished = Bytes.afterLast b.delimiter (b.unfinished ++ chunk) := by
  induction chunk generalizing b with
  | nil =>
      rw [feed_nil, List.append_nil, Bytes.pieces_of_not_mem hopen,
        Bytes.afterLast_of_not_mem hopen]
      exact ⟨rfl, rfl⟩
  | cons x rest ih =>
      rw [feed_cons]
      by_cases hx : x = b.delimiter
      · -- The delimiter is the first one, since none is unfinished.
        subst hx
        have hbyte : b.feedByte b.delimiter
            = (b.clear, if b.unfinished = [] then [] else [b.unfinished]) := by
          simp [feedByte, unfinished]
        obtain ⟨hframes, hleft⟩ := ih (b := b.clear) (open_empty b.delimiter)
        rw [hbyte, Bytes.pieces_append_cons hopen, Bytes.afterLast_append_cons]
        exact ⟨congrArg _ hframes, hleft⟩
      · have hbyte : b.feedByte x = ({ b with held := x :: b.held }, []) := by
          simp [feedByte, hx]
        have hmore : b.unfinished ++ x :: rest
            = unfinished { b with held := x :: b.held } ++ rest := by
          simp [unfinished]
        rw [hbyte, hmore]
        exact ih (open_cons hopen hx)

/-- A first delimiter, with what stands before it and behind it. -/
theorem split_of_idxOf? {d : UInt8} {bytes : Bytes} {pos : Nat} (hpos : bytes.idxOf? d = some pos) :
    bytes = bytes.take pos ++ d :: bytes.drop (pos + 1) ∧ d ∉ bytes.take pos := by
  obtain ⟨hlt, hd, hfirst⟩ := List.idxOf?_eq_some_iff.mp hpos
  refine ⟨?_, ?_⟩
  · rw [← hd, List.getElem_cons_drop, List.take_append_drop]
  · intro hmem
    obtain ⟨j, hj, hd'⟩ := List.mem_take_iff_getElem.mp hmem
    exact hfirst j (by omega) hd'

/-- Cutting frames off one after the other leaves what follows the last delimiter. -/
theorem cutFrames_eq (d : UInt8) (bytes : Bytes) :
    cutFrames d bytes = (Bytes.afterLast d bytes, Bytes.pieces d bytes) := by
  induction bytes using cutFrames.induct d with
  | case1 bytes hnone =>
      have hmem : d ∉ bytes := List.idxOf?_eq_none_iff.mp hnone
      rw [Bytes.afterLast_of_not_mem hmem, Bytes.pieces_of_not_mem hmem, cutFrames]
      split
      · rfl
      · next hsome => rw [hnone] at hsome; cases hsome
  | case2 bytes pos hpos inside left frames hrest ih =>
      obtain ⟨hsplit, hfirst⟩ := split_of_idxOf? hpos
      have hcut : cutFrames d bytes
          = (Bytes.afterLast d (bytes.drop (pos + 1)),
              if (bytes.take pos).isEmpty then Bytes.pieces d (bytes.drop (pos + 1))
              else bytes.take pos :: Bytes.pieces d (bytes.drop (pos + 1))) := by
        rw [cutFrames]
        split
        · next hnone => rw [hpos] at hnone; cases hnone
        · next found hfound =>
            obtain rfl := Option.some.inj (hpos.symm.trans hfound)
            rw [ih]
      rw [hcut]
      conv_rhs => rw [hsplit, Bytes.afterLast_append_cons, Bytes.pieces_append_cons hfirst]
      by_cases hempty : bytes.take pos = []
      · simp [hempty]
      · simp [hempty]

/-- **A read may as well be appended to what is unfinished and cut at its delimiters one after the
other.** -/
theorem feed_eq_reassemble {b : FrameBuffer} (hopen : b.Open) (chunk : Bytes) :
    b.feed chunk = b.reassemble chunk := by
  obtain ⟨hframes, hleft⟩ := feed_eq_pieces hopen chunk
  have hheld : (b.feed chunk).1.held
      = (Bytes.afterLast b.delimiter (b.unfinished ++ chunk)).reverse := by
    rw [← hleft, unfinished, List.reverse_reverse]
  have hfed : (b.feed chunk).1 = { b with held := (b.feed chunk).1.held } := by
    rw [← delimiter_feed b chunk]
  unfold reassemble
  rw [cutFrames_eq]
  show b.feed chunk = ({ b with held := _ }, _)
  rw [← hframes, ← hheld, ← hfed]

/-- What a read leaves unfinished holds no delimiter. -/
theorem open_feed {b : FrameBuffer} (hopen : b.Open) (chunk : Bytes) : (b.feed chunk).1.Open := by
  unfold Open
  rw [delimiter_feed, (feed_eq_pieces hopen chunk).2]
  intro hmem
  have hne := List.mem_rtakeWhile_imp hmem
  simp at hne

/-- Several reads split all that they bring. -/
theorem feedAll_eq_pieces (d : UInt8) (reads : List Bytes) :
    ((empty d).feedAll reads).2 = Bytes.pieces d reads.flatten ∧
      ((empty d).feedAll reads).1.unfinished = Bytes.afterLast d reads.flatten := by
  rw [feedAll_eq_feed_flatten]
  exact feed_eq_pieces (open_empty d) reads.flatten

/-- A further read brings the frames that it completes. -/
theorem feedAll_concat (b : FrameBuffer) (reads : List Bytes) (chunk : Bytes) :
    b.feedAll (reads ++ [chunk])
      = (((b.feedAll reads).1.feed chunk).1,
          (b.feedAll reads).2 ++ ((b.feedAll reads).1.feed chunk).2) := by
  rw [feedAll_eq_feed_flatten, feedAll_eq_feed_flatten, List.flatten_append, feed_append,
    List.flatten_singleton]

/-- Nothing but delimiters is lost, and nothing is repeated. -/
theorem flatten_feed (b : FrameBuffer) (chunk : Bytes) :
    (b.feed chunk).2.flatten ++ (b.feed chunk).1.unfinished
      = b.unfinished ++ chunk.filter (· ≠ b.delimiter) := by
  induction chunk generalizing b with
  | nil => simp
  | cons x rest ih =>
      rw [feed_cons, List.flatten_append, List.append_assoc, ih]
      by_cases hx : x = b.delimiter
      · by_cases hempty : b.held = []
        · simp [feedByte, clear, unfinished, hx, hempty]
        · simp [feedByte, clear, unfinished, hx, hempty]
      · simp [feedByte, unfinished, hx]

/-! ### Runs of reads and clears -/

/-- A call on a buffer. -/
inductive Call where
  /-- Take in one read. -/
  | push (chunk : Bytes)
  /-- Forget the unfinished frame. -/
  | clear
deriving DecidableEq, Repr

/-- The bytes that a call brings. -/
def Call.bytes : Call → Bytes
  | push chunk => chunk
  | clear => []

/-- Make a call: the buffer after it, and the frames it returns. -/
def perform (b : FrameBuffer) : Call → FrameBuffer × List Bytes
  | .push chunk => b.feed chunk
  | .clear => (b.clear, [])

/-- The buffer after some calls. -/
def performAll (b : FrameBuffer) (calls : List Call) : FrameBuffer :=
  calls.foldl (fun b call => (b.perform call).1) b

/-- Some calls, each with the frames it returned. -/
def history (b : FrameBuffer) : List Call → List (Call × List Bytes)
  | [] => []
  | call :: rest => (call, (b.perform call).2) :: history (b.perform call).1 rest

/-- What was pushed since the last clear, or from the start if there was none. -/
def pushedSinceClear (calls : List Call) : Bytes :=
  (calls.rtakeWhile (· ≠ .clear)).flatMap Call.bytes

/-- The frames returned since the last clear. -/
def returnedSinceClear (b : FrameBuffer) (calls : List Call) : List Bytes :=
  ((history b calls).rtakeWhile (·.1 ≠ .clear)).flatMap (·.2)

theorem performAll_concat (b : FrameBuffer) (calls : List Call) (call : Call) :
    b.performAll (calls ++ [call]) = ((b.performAll calls).perform call).1 := by
  simp [performAll]

theorem history_concat (b : FrameBuffer) (calls : List Call) (call : Call) :
    b.history (calls ++ [call])
      = b.history calls ++ [(call, ((b.performAll calls).perform call).2)] := by
  induction calls generalizing b with
  | nil => rfl
  | cons first rest ih =>
      rw [List.cons_append, history, ih]
      rfl

/-- From its last clear on, a run is one read of all that was pushed. -/
theorem performAll_eq_feed (d : UInt8) (calls : List Call) :
    ((empty d).performAll calls, (empty d).returnedSinceClear calls)
      = (empty d).feed (pushedSinceClear calls) := by
  induction calls using List.reverseRecOn with
  | nil => rfl
  | append_singleton calls call ih =>
      have hbuffer : (empty d).performAll calls
          = ((empty d).feed (pushedSinceClear calls)).1 := congrArg Prod.fst ih
      have hframes : (empty d).returnedSinceClear calls
          = ((empty d).feed (pushedSinceClear calls)).2 := congrArg Prod.snd ih
      cases call with
      | clear =>
          have hpushed : pushedSinceClear (calls ++ [.clear]) = [] := by
            simp [pushedSinceClear]
          have hreturned : (empty d).returnedSinceClear (calls ++ [.clear]) = [] := by
            simp [returnedSinceClear, history_concat]
          have hcleared : ((empty d).performAll calls).clear = empty d := by
            unfold clear
            rw [hbuffer, delimiter_feed]
            rfl
          rw [performAll_concat, hpushed, hreturned, feed_nil]
          exact Prod.ext hcleared rfl
      | push chunk =>
          have hpushed : pushedSinceClear (calls ++ [.push chunk])
              = pushedSinceClear calls ++ chunk := by
            simp [pushedSinceClear, Call.bytes]
          have hreturned : (empty d).returnedSinceClear (calls ++ [.push chunk])
              = (empty d).returnedSinceClear calls
                ++ (((empty d).performAll calls).feed chunk).2 := by
            simp [returnedSinceClear, history_concat, perform]
          rw [performAll_concat, hpushed, hreturned, feed_append, hframes, hbuffer]
          rfl

/-- However a buffer was used before, a read may be taken in either way. -/
theorem performAll_feed_eq_reassemble (d : UInt8) (calls : List Call) (chunk : Bytes) :
    ((empty d).performAll calls).feed chunk = ((empty d).performAll calls).reassemble chunk := by
  have hbuffer : (empty d).performAll calls = ((empty d).feed (pushedSinceClear calls)).1 :=
    congrArg Prod.fst (performAll_eq_feed d calls)
  rw [hbuffer]
  exact feed_eq_reassemble (open_feed (open_empty d) _) chunk

/--
**A buffer returns the closed pieces of what was pushed, and keeps what follows the
last delimiter.**  No frame is empty or holds a delimiter, every other byte is in one
frame or still waits, and one read of everything, or of one byte at a time, does the
same.
-/
theorem returned_eq_pieces (d : UInt8) (calls : List Call) :
    let pushed := pushedSinceClear calls
    let returned := (empty d).returnedSinceClear calls
    let b := (empty d).performAll calls
    returned = Bytes.pieces d pushed ∧
      b.pending = (Bytes.afterLast d pushed).length ∧
      [] ∉ returned ∧ d ∉ returned.flatten ∧
      returned.flatten ++ b.unfinished = pushed.filter (· ≠ d) ∧
      (b, returned) = (empty d).feed pushed ∧
      (b, returned) = (empty d).feedAll (pushed.map fun x => [x]) := by
  intro pushed returned b
  have hrun : (b, returned) = (empty d).feed pushed := performAll_eq_feed d calls
  have hbuffer : b = ((empty d).feed pushed).1 := congrArg Prod.fst hrun
  have hreturned : returned = ((empty d).feed pushed).2 := congrArg Prod.snd hrun
  obtain ⟨hpieces, hleft⟩ := feed_eq_pieces (open_empty d) pushed
  have hkept : returned.flatten ++ b.unfinished = pushed.filter (· ≠ d) := by
    rw [hreturned, hbuffer]
    exact flatten_feed (empty d) pushed
  refine ⟨hreturned.trans hpieces, ?_, ?_, ?_, hkept, hrun, ?_⟩
  · rw [pending_eq, hbuffer, hleft]
    rfl
  · rw [hreturned, hpieces]
    simp [Bytes.pieces]
  · intro hmem
    have hin : d ∈ pushed.filter (· ≠ d) := hkept ▸ List.mem_append_left _ hmem
    simp at hin
  · rw [feedAll_eq_feed_flatten, ← List.flatMap_def, List.flatMap_singleton', hrun]

end FrameBuffer

end Lifecast
