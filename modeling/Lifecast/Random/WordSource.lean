/-
Where random words come from.

A source hands out words of 64 bits one after the other.  What is done with them must
not depend on the kind of source, so everything that draws takes any of them.
-/

namespace Lifecast

/-- A state from which words can be drawn. -/
class WordSource (σ : Type) where
  /-- Draw one word. -/
  next : σ → UInt64 × σ

/-- A source that hands out a list of words over and over. -/
structure WordCycle where
  /-- The words of one round. -/
  round : List UInt64
  /-- What is left of the current round. -/
  left : List UInt64
deriving DecidableEq, Repr

namespace WordCycle

/-- The source at the start of its first round. -/
def ofList (words : List UInt64) : WordCycle :=
  { round := words, left := words }

/-- Draw one word.  Without any words the source hands out zeros. -/
def next (c : WordCycle) : UInt64 × WordCycle :=
  match c.left with
  | w :: left => (w, { c with left })
  | [] =>
    match c.round with
    | w :: left => (w, { c with left })
    | [] => (0, c)

instance : WordSource WordCycle := ⟨next⟩

end WordCycle

/-- Words without end. -/
structure WordStream where
  /-- The words in the order in which they are drawn. -/
  word : Nat → UInt64

namespace WordStream

/-- Draw one word. -/
def next (s : WordStream) : UInt64 × WordStream :=
  (s.word 0, ⟨fun i => s.word (i + 1)⟩)

instance : WordSource WordStream := ⟨next⟩

end WordStream

/-- A source that counts the words drawn from it. -/
structure Counted (σ : Type) where
  /-- The source itself. -/
  source : σ
  /-- How many words it has handed out. -/
  drawn : Nat := 0

instance {σ : Type} [WordSource σ] : WordSource (Counted σ) where
  next c :=
    let (w, source) := WordSource.next c.source
    (w, { source, drawn := c.drawn + 1 })

end Lifecast
