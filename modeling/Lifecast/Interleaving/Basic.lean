/-
Threads that take turns.

A system of threads is a shared state and the moves that can be made on it, each of
which no other thread can interrupt.  Any thread may move next.  What has to hold
however they take turns is then said of all lists of moves that can be played from the
start, and proved move by move (`play_induction`).
-/

namespace Lifecast

namespace Interleaving

variable {σ μ : Type}

/-- Play some moves, one after the other; nothing if one of them cannot be made. -/
def play (move? : σ → μ → Option σ) (s : σ) : List μ → Option σ
  | [] => some s
  | m :: rest =>
    match move? s m with
    | none => none
    | some t => play move? t rest

/-- What holds at the start and is kept by every move holds after every play. -/
theorem play_induction {move? : σ → μ → Option σ} {P : σ → Prop}
    (kept : ∀ s m t, P s → move? s m = some t → P t) (moves : List μ) {s t : σ} (start : P s)
    (played : play move? s moves = some t) : P t := by
  induction moves generalizing s with
  | nil =>
      rw [play, Option.some.injEq] at played
      exact played ▸ start
  | cons m rest ih =>
      unfold play at played
      split at played
      · cases played
      · next u moved => exact ih (kept s m u start moved) played

/-- Plays can be put together. -/
theorem play_append {move? : σ → μ → Option σ} (first second : List μ) (s : σ) :
    play move? s (first ++ second) = (play move? s first).bind (play move? · second) := by
  induction first generalizing s with
  | nil => rfl
  | cons m rest ih =>
      simp only [List.cons_append, play]
      cases move? s m with
      | none => rfl
      | some t => exact ih t

/-- One more move. -/
theorem play_concat (move? : σ → μ → Option σ) (s : σ) (moves : List μ) (m : μ) :
    play move? s (moves ++ [m]) = (play move? s moves).bind (move? · m) := by
  rw [play_append]
  refine Option.bind_congr fun t _ => ?_
  simp only [play]
  cases move? t m <;> rfl

/-- What holds before the first move, and after each move of all moves so far, holds of all
moves that have been played. -/
theorem play_concat_induction {move? : σ → μ → Option σ} {s : σ} {P : List μ → σ → Prop}
    (start : P [] s)
    (kept : ∀ before t m u, play move? s before = some t → P before t → move? t m = some u →
      P (before ++ [m]) u)
    (moves : List μ) {t : σ} (played : play move? s moves = some t) : P moves t := by
  suffices ∀ (after before : List μ) (u : σ), play move? s before = some u → P before u →
      play move? u after = some t → P (before ++ after) t from this moves [] s rfl start played
  intro after
  induction after with
  | nil =>
      intro before u _ holds stays
      rw [List.append_nil]
      exact Option.some.inj stays ▸ holds
  | cons m rest ih =>
      intro before u reached holds goes
      unfold play at goes
      split at goes
      · cases goes
      · next v moved =>
          have next : play move? s (before ++ [m]) = some v := by
            rw [play_concat, reached, Option.bind_some, moved]
          rw [List.append_cons]
          exact ih (before ++ [m]) v next (kept before u m v reached holds moved) goes

/-! ### One of several calls -/

variable {α : Type} {c next : α} {calls others : List α}

/-- One call has got from one place to another, and all others are where they were. -/
def OneMoved (c next : α) (calls others : List α) : Prop :=
  ∃ before after, calls = before ++ c :: after ∧ others = before ++ next :: after

namespace OneMoved

/-- The first of the calls. -/
theorem head (rest : List α) : OneMoved c next (c :: rest) (next :: rest) :=
  ⟨[], rest, rfl, rfl⟩

/-- One of the calls that come after others. -/
theorem set {own : List α} {i : Nat} (there : calls[i]? = some c) :
    OneMoved c next (own ++ calls) (own ++ calls.set i next) := by
  obtain ⟨inside, rfl⟩ := List.getElem?_eq_some_iff.mp there
  refine ⟨own ++ calls.take i, calls.drop (i + 1), ?_, ?_⟩
  · rw [List.append_assoc, List.getElem_cons_drop, List.take_append_drop]
  · rw [List.append_assoc, List.set_eq_take_append_cons_drop, if_pos inside]

/-- One of all calls. -/
theorem of_set {i : Nat} (there : calls[i]? = some c) (next : α) :
    OneMoved c next calls (calls.set i next) := by
  have moved : OneMoved c next ([] ++ calls) ([] ++ calls.set i next) := set there
  exact moved

/-- More calls come after them. -/
theorem append (moved : OneMoved c next calls others) (more : List α) :
    OneMoved c next (calls ++ more) (others ++ more) := by
  obtain ⟨before, after, rfl, rfl⟩ := moved
  exact ⟨before, after ++ more, by simp, by simp⟩

theorem was (moved : OneMoved c next calls others) : c ∈ calls := by
  obtain ⟨before, after, rfl, -⟩ := moved
  simp

theorem is (moved : OneMoved c next calls others) : next ∈ others := by
  obtain ⟨before, after, -, rfl⟩ := moved
  simp

theorem old (moved : OneMoved c next calls others) : ∀ d ∈ others, d = next ∨ d ∈ calls := by
  obtain ⟨before, after, rfl, rfl⟩ := moved
  intro d there
  simp only [List.mem_append, List.mem_cons] at there ⊢
  grind

theorem kept (moved : OneMoved c next calls others) : ∀ d ∈ calls, d ≠ c → d ∈ others := by
  obtain ⟨before, after, rfl, rfl⟩ := moved
  intro d there other
  simp only [List.mem_append, List.mem_cons] at there ⊢
  grind

/-- How many calls are at certain places. -/
theorem countP (moved : OneMoved c next calls others) (p : α → Bool) :
    others.countP p + (p c).toNat = calls.countP p + (p next).toNat := by
  obtain ⟨before, after, rfl, rfl⟩ := moved
  simp only [List.countP_append, List.countP_cons]
  cases p c <;> cases p next <;> simp <;> omega

/-- If none but the one that moved may be at certain places, none but it is there then. -/
theorem sole {p : α → Bool} (moved : OneMoved c next calls others)
    (alone : calls.countP p = (p c).toNat) :
    others.countP p = (p next).toNat ∧ ∀ d ∈ others, d = next ∨ d ∈ calls ∧ p d = false := by
  have all := moved.countP p
  obtain ⟨before, after, rfl, rfl⟩ := moved
  have nobody : before.countP p = 0 ∧ after.countP p = 0 := by
    rw [List.countP_append, List.countP_cons] at alone
    cases there : p c <;> rw [there] at alone <;>
      simp only [Bool.toNat_true, Bool.toNat_false, if_true, Bool.false_eq_true, if_false]
        at alone <;>
      omega
  refine ⟨by omega, ?_⟩
  intro d there
  simp only [List.countP_eq_zero] at nobody
  simp only [List.mem_append, List.mem_cons] at there ⊢
  grind

end OneMoved

/-- Whoever holds a lock that so many hold as it is locked, it is locked. -/
theorem locked_of_holder {p : α → Bool} {locked : Bool} (holders : calls.countP p = locked.toNat)
    (there : c ∈ calls) (holds : p c = true) : locked = true := by
  have some_one : 0 < calls.countP p := List.countP_pos_iff.mpr ⟨c, there, holds⟩
  cases locked with
  | true => rfl
  | false => simp [holders] at some_one

end Interleaving

end Lifecast
