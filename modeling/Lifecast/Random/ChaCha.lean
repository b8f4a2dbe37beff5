/-
Random words from a stream cipher.

ChaCha turns a key and a counter into blocks of sixteen words of 32 bits.  Twelve
rounds, six down the columns and six along the diagonals of the four by four block,
mix a block, which is then added to what it was made from.  Reading the blocks for the
counters 0, 1, 2, … one after the other, two words at a time and the low half first,
gives the random words of 64 bits.

A key has 256 bits.  `keyOfSeed` stretches a seed of 64 bits to that length with a
linear congruential generator whose states are permuted before they are handed out.
-/
import Lifecast.Random.WordSource

namespace Lifecast

/-- The words of one block. -/
abbrev Block : Type := Vector UInt32 16

namespace ChaCha

/-- Rotate a word to the left. -/
def rotateLeft (w : UInt32) (n : UInt32) : UInt32 :=
  (w <<< n) ||| (w >>> (32 - n))

/-- Mix four words of a block. -/
def quarterRound (a b c d : Fin 16) (x : Block) : Block :=
  let xa := x[a] + x[b]
  let xd := rotateLeft (x[d] ^^^ xa) 16
  let xc := x[c] + xd
  let xb := rotateLeft (x[b] ^^^ xc) 12
  let xa := xa + xb
  let xd := rotateLeft (xd ^^^ xa) 8
  let xc := xc + xd
  let xb := rotateLeft (xb ^^^ xc) 7
  (((x.set a xa).set b xb).set c xc).set d xd

/-- One round down the columns and one along the diagonals. -/
def doubleRound (x : Block) : Block :=
  x |> quarterRound 0 4 8 12 |> quarterRound 1 5 9 13 |> quarterRound 2 6 10 14
    |> quarterRound 3 7 11 15
    |> quarterRound 0 5 10 15 |> quarterRound 1 6 11 12 |> quarterRound 2 7 8 13
    |> quarterRound 3 4 9 14

/-- The four words at the start of every block, a fixed text in ASCII. -/
def constants : Vector UInt32 4 :=
  #v[0x61707865, 0x3320646e, 0x79622d32, 0x6b206574]

/-- The four words at the end of a block: the counter, low half first, and zeros. -/
def position (counter : UInt64) : Vector UInt32 4 :=
  #v[counter.toUInt32, (counter >>> 32).toUInt32, 0, 0]

/-- The block for a key and a counter, mixed by twice as many rounds as asked. -/
def block (doubleRounds : Nat) (key : Vector UInt32 8) (counter : UInt64) : Block :=
  let start : Block := constants ++ key ++ position counter
  Vector.zipWith (· + ·) (Nat.repeat doubleRound doubleRounds start) start

/-- Words of 32 bits taken two at a time, the low half first. -/
def pairs : List UInt32 → List UInt64
  | low :: high :: rest => (high.toUInt64 <<< 32 ||| low.toUInt64) :: pairs rest
  | _ => []

end ChaCha

/-- A source of random words that reads the blocks of one key in order. -/
structure ChaChaSource where
  /-- The key. -/
  key : Vector UInt32 8
  /-- The counter of the block to read next. -/
  counter : UInt64 := 0
  /-- What is left of the block being read. -/
  left : List UInt64 := []
deriving DecidableEq, Repr

namespace ChaChaSource

/-- How many pairs of rounds mix a block. -/
def doubleRounds : Nat := 6

/-- Draw one word, from the next block if the current one is used up. -/
def next (s : ChaChaSource) : UInt64 × ChaChaSource :=
  match s.left with
  | w :: left => (w, { s with left })
  | [] =>
    match ChaCha.pairs (ChaCha.block doubleRounds s.key s.counter).toList with
    | w :: left => (w, { s with counter := s.counter + 1, left })
    | [] => (0, s)

instance : WordSource ChaChaSource := ⟨next⟩

/-! ### Keys from short seeds -/

/-- The next state of the generator that stretches a seed. -/
def nextState (state : UInt64) : UInt64 :=
  state * 6364136223846793005 + 11634580027462260723

/-- The word handed out for a state: its upper bits, folded and then rotated to the
right by as many places as its top five bits say. -/
def permuted (state : UInt64) : UInt32 :=
  let folded := (((state >>> 18) ^^^ state) >>> 27).toUInt32
  let turn := (state >>> 59).toUInt32
  (folded >>> turn) ||| (folded <<< ((32 - turn) % 32))

/-- The state after some steps. -/
def stateAfter (seed : UInt64) (steps : Nat) : UInt64 :=
  Nat.repeat nextState steps seed

/-- The key that a seed is stretched to: eight words, each handed out after one more
step. -/
def keyOfSeed (seed : UInt64) : Vector UInt32 8 :=
  Vector.ofFn fun i => permuted (stateAfter seed (i.val + 1))

/-- The source for a seed. -/
def ofSeed (seed : UInt64) : ChaChaSource :=
  { key := keyOfSeed seed }

end ChaChaSource

end Lifecast
