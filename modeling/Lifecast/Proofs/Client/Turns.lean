/-
Calls that are made in turn.

Connecting and disconnecting calls that are made one after the other leave at most one of
them under way (`Turn`).  All calls before it have returned (`Waits`), so that whatever call
moves is the one under way.

The reader and the caller may both find the connection ended.  Whoever moves the phase out of
`connected` is the one to tell of it, and no new connection is opened before it has been
told: a connection that the other side closed leaves its record behind, and the next call
waits for the reader before it takes that record away.
-/
import Lifecast.Interleaving.ClientCalls

namespace Lifecast

namespace Interleaving

/-- The call that is under way. -/
inductive Turn where
  /-- All calls have returned. -/
  | nobody
  /-- A call to `connect`. -/
  | connecting (call : Beginning)
  /-- A call to `disconnect`. -/
  | disconnecting (call : Ending)

namespace Turn

/-- The connecting call that is under way. -/
def beginnings : Turn → List Beginning
  | connecting call => [call]
  | _ => []

/-- The disconnecting call that is under way. -/
def endings : Turn → List Ending
  | disconnecting call => [call]
  | _ => []

/-- Whose turn it is once a connecting call has got somewhere. -/
def ofBeginning : Beginning → Turn
  | .returned _ => nobody
  | call => connecting call

/-- Whose turn it is once a disconnecting call has got somewhere. -/
def ofEnding : Ending → Turn
  | .returned => nobody
  | call => disconnecting call

end Turn

namespace ClientCalls

/-- Make a move, but begin no call before all others have returned. -/
def inTurn? (s : ClientCalls) (m : ClientMove) : Option ClientCalls :=
  match m with
  | .callConnect _ | .callDisconnect => if s.isQuiet then s.move? m else none
  | _ => s.move? m

/-! ### At most one call is under way -/

/-- All calls have returned but the one whose turn it is. -/
structure Waits (s : ClientCalls) (turn : Turn) : Prop where
  beginnings : ∃ results : List (Except EngineError Unit),
    s.beginnings = results.map .returned ++ turn.beginnings
  endings : ∃ n, s.endings = List.replicate n .returned ++ turn.endings

/-- Of some calls that have returned and at most one more, only that one is under way. -/
theorem eq_last_of_getElem? {α : Type} {done last : List α} {i : Nat} {x : α}
    (hx : (done ++ last)[i]? = some x) (hnot : x ∉ done) (hlast : last.length ≤ 1) :
    i = done.length ∧ last = [x] := by
  rcases Nat.lt_or_ge i done.length with hlt | hge
  · rw [List.getElem?_append_left hlt] at hx
    exact absurd (List.mem_of_getElem? hx) hnot
  · rw [List.getElem?_append_right hge] at hx
    obtain ⟨hin, hval⟩ := List.getElem?_eq_some_iff.mp hx
    have hzero : i - done.length = 0 := by omega
    obtain ⟨y, rfl⟩ := List.length_eq_one_iff.mp (by omega : last.length = 1)
    simp only [hzero, List.getElem_cons_zero] at hval
    exact ⟨by omega, by rw [hval]⟩

theorem Waits.of_eq {s t : ClientCalls} {turn : Turn} (hwaits : s.Waits turn)
    (hbeginnings : t.beginnings = s.beginnings) (hendings : t.endings = s.endings) :
    t.Waits turn := by
  obtain ⟨results, hresults⟩ := hwaits.beginnings
  obtain ⟨n, hn⟩ := hwaits.endings
  exact ⟨⟨results, hbeginnings.trans hresults⟩, n, hendings.trans hn⟩

/-- When it is nobody's turn, a connecting call may take it. -/
theorem Waits.callConnect {s : ClientCalls} (hwaits : s.Waits .nobody)
    (opened : Except EngineError Peer) :
    ({ s with beginnings := s.beginnings ++ [.called opened] } : ClientCalls).Waits
      (.connecting (.called opened)) := by
  obtain ⟨results, hresults⟩ := hwaits.beginnings
  have hdone : s.beginnings = results.map .returned := hresults.trans (List.append_nil _)
  exact ⟨⟨results, congrArg (· ++ [.called opened]) hdone⟩, hwaits.endings⟩

/-- When it is nobody's turn, a disconnecting call may take it. -/
theorem Waits.callDisconnect {s : ClientCalls} (hwaits : s.Waits .nobody) :
    ({ s with endings := s.endings ++ [.called] } : ClientCalls).Waits
      (.disconnecting .called) := by
  obtain ⟨n, hn⟩ := hwaits.endings
  have hdone : s.endings = List.replicate n .returned := hn.trans (List.append_nil _)
  exact ⟨hwaits.beginnings, n, congrArg (· ++ [.called]) hdone⟩

theorem Waits.turn_eq_connecting {s : ClientCalls} {turn : Turn} (hwaits : s.Waits turn) {i : Nat}
    {call : Beginning} (hcall : s.beginnings[i]? = some call)
    (hunder : ∀ result, call ≠ .returned result) :
    turn = .connecting call ∧ i + 1 = s.beginnings.length := by
  obtain ⟨results, hresults⟩ := hwaits.beginnings
  rw [hresults] at hcall
  have hnot : call ∉ results.map Beginning.returned := by
    rw [List.mem_map]
    rintro ⟨result, -, rfl⟩
    exact hunder result rfl
  obtain ⟨hi, hlast⟩ := eq_last_of_getElem? hcall hnot (by cases turn <;> simp [Turn.beginnings])
  rw [hresults, List.length_append, hlast, hi]
  cases turn with
  | connecting other => exact ⟨by rw [List.singleton_inj.mp hlast], rfl⟩
  | nobody | disconnecting other => cases hlast

theorem Waits.turn_eq_disconnecting {s : ClientCalls} {turn : Turn} (hwaits : s.Waits turn)
    {i : Nat} {call : Ending} (hcall : s.endings[i]? = some call) (hunder : call ≠ .returned) :
    turn = .disconnecting call ∧ i + 1 = s.endings.length := by
  obtain ⟨n, hn⟩ := hwaits.endings
  rw [hn] at hcall
  have hnot : call ∉ List.replicate n Ending.returned :=
    fun hmem => hunder (List.eq_of_mem_replicate hmem)
  obtain ⟨hi, hlast⟩ := eq_last_of_getElem? hcall hnot (by cases turn <;> simp [Turn.endings])
  rw [hn, List.length_append, hlast, hi]
  cases turn with
  | disconnecting other => exact ⟨by rw [List.singleton_inj.mp hlast], rfl⟩
  | nobody | connecting other => cases hlast

/-- The connecting call that is under way gets somewhere. -/
theorem Waits.set_beginning {s t : ClientCalls} {call next : Beginning}
    (hwaits : s.Waits (.connecting call)) {i : Nat} (hlast : i + 1 = s.beginnings.length)
    (hset : t.beginnings = s.beginnings.set i next) (hsame : t.endings = s.endings) :
    t.Waits (.ofBeginning next) := by
  obtain ⟨results, hresults⟩ := hwaits.beginnings
  obtain ⟨n, hn⟩ := hwaits.endings
  have hi : i = (results.map Beginning.returned).length := by
    rw [hresults, List.length_append] at hlast
    exact Nat.succ.inj hlast
  have hstep : t.beginnings = results.map .returned ++ [next] := by
    rw [hset, hresults, hi, List.set_append_right _ _ (Nat.le_refl _), Nat.sub_self]
    rfl
  have hsame : t.endings = List.replicate n .returned ++ [] := hsame.trans hn
  cases next with
  | returned result =>
      refine ⟨⟨results ++ [result], ?_⟩, n, hsame⟩
      rw [hstep, List.map_append]
      exact (List.append_nil _).symm
  | _ => exact ⟨⟨results, hstep⟩, n, hsame⟩

/-- The disconnecting call that is under way gets somewhere. -/
theorem Waits.set_ending {s t : ClientCalls} {call next : Ending}
    (hwaits : s.Waits (.disconnecting call)) {i : Nat} (hlast : i + 1 = s.endings.length)
    (hset : t.endings = s.endings.set i next) (hsame : t.beginnings = s.beginnings) :
    t.Waits (.ofEnding next) := by
  obtain ⟨results, hresults⟩ := hwaits.beginnings
  obtain ⟨n, hn⟩ := hwaits.endings
  have hi : i = (List.replicate n Ending.returned).length := by
    rw [hn, List.length_append] at hlast
    exact Nat.succ.inj hlast
  have hstep : t.endings = List.replicate n .returned ++ [next] := by
    rw [hset, hn, hi, List.set_append_right _ _ (Nat.le_refl _), Nat.sub_self]
    rfl
  have hsame : t.beginnings = results.map .returned ++ [] := hsame.trans hresults
  cases next with
  | returned =>
      refine ⟨⟨results, hsame⟩, n + 1, ?_⟩
      rw [hstep, List.replicate_succ']
      exact (List.append_nil _).symm
  | _ => exact ⟨⟨results, hsame⟩, n, hstep⟩

/-- When all calls have returned it is nobody's turn, and the next call takes it. -/
theorem Waits.of_isQuiet {s : ClientCalls} {turn : Turn} (hwaits : s.Waits turn)
    (hquiet : s.isQuiet = true) (hbegun : ∀ result, turn ≠ .connecting (.returned result))
    (hended : turn ≠ .disconnecting .returned) : turn = .nobody := by
  obtain ⟨results, hresults⟩ := hwaits.beginnings
  obtain ⟨n, hn⟩ := hwaits.endings
  rw [isQuiet, Bool.and_eq_true, hresults, hn, List.all_append, List.all_append,
    Bool.and_eq_true, Bool.and_eq_true] at hquiet
  obtain ⟨⟨-, hlast⟩, -, hlast'⟩ := hquiet
  cases turn with
  | nobody => rfl
  | connecting call =>
      cases call with
      | returned result => exact absurd rfl (hbegun result)
      | _ => simp [Turn.beginnings] at hlast'
  | disconnecting call =>
      cases call with
      | returned => exact absurd rfl hended
      | _ => simp [Turn.endings] at hlast

end ClientCalls

end Interleaving

end Lifecast
