/-
What a client has told of its connections after a play.

The client stands as whoever comes next expects it (`behaved_of_play`), and with that comes what its
log holds (`Behaved.logged`).  That a connection was told of for each call which made one is counted
apart from that, since it holds however calls and callbacks come between: only a call that has made
one tells so, and it does so once (`made_play`).
-/
import Mathlib
import Lifecast.Proofs.Client.Standing

namespace Lifecast

namespace Interleaving

namespace ClientCalls

variable {config : EngineConfig} {s t : ClientCalls} {turn : Turn} {telling : Telling}

/-! ### One block for each call that has made a connection -/

/-- How many connections have been told of. -/
def made (s : ClientCalls) : Nat :=
  s.client.log.toList.countP ClientEvent.isConnected

theorem made_push {e : ClientEvent} (hlog : t.client.log = s.client.log.push e) :
    t.made = s.made + e.isConnected.toNat := by
  rw [made, made, hlog, Array.toList_push, List.countP_append, List.countP_singleton]
  cases e.isConnected with
  | true => rfl
  | false => rfl

theorem made_of_quiet (hlog : t.client.log = s.client.log ∨
    ∃ e : ClientEvent, e.isConnected = false ∧ t.client.log = s.client.log.push e) :
    t.made = s.made := by
  rcases hlog with hlog | ⟨e, he, hlog⟩
  · rw [made, made, hlog]
  · rw [made_push hlog, he]
    rfl

/-- A connection is told of by the call that has made it. -/
theorem made_move {m : ClientMove} (hmade : s.made = s.beginnings.countP Beginning.hasConnected)
    (moved : s.move? m = some t) : t.made = t.beginnings.countP Beginning.hasConnected := by
  by_cases hm : ∃ i, m = .connect i
  · obtain ⟨i, rfl⟩ := hm
    obtain ⟨call, next, u, hcall, step, rfl⟩ := move?_connect moved
    obtain ⟨hi, rfl⟩ := List.getElem?_eq_some_iff.mp hcall
    have hcount := List.countP_set (p := Beginning.hasConnected) (a := next) hi
    show u.made = (s.beginnings.set i next).countP Beginning.hasConnected
    obtain ⟨hlog, hsame⟩ | ⟨hcall, rfl, hlog⟩ := log_of_beginning? step
    · -- Whoever has told once is counted, and remains so.
      have hcounted : s.beginnings[i].hasConnected = true →
          0 < s.beginnings.countP Beginning.hasConnected :=
        fun h => List.countP_pos_iff.mpr ⟨_, List.getElem_mem hi, h⟩
      rw [made_of_quiet (Or.inl hlog), hmade, hcount, hsame]
      split
      · next h =>
          have hpos := hcounted h
          omega
      · rfl
    · rw [made_push hlog, hmade, hcount, hcall]
      rfl
  · obtain ⟨⟨more, hmore, hnone⟩, hlog⟩ := quiet_move (fun i hi => hm ⟨i, hi⟩) moved
    rw [made_of_quiet hlog, hmade, hmore, List.countP_append, hnone, Nat.add_zero]

/-- A call that has told of a connection stays one that has. -/
theorem hasConnected_move {m : ClientMove} {i : Nat}
    (hconnected : ∃ call, s.beginnings[i]? = some call ∧ call.hasConnected = true)
    (moved : s.move? m = some t) :
    ∃ call, t.beginnings[i]? = some call ∧ call.hasConnected = true := by
  obtain ⟨call, hcall, htold⟩ := hconnected
  obtain ⟨hi, -⟩ := List.getElem?_eq_some_iff.mp hcall
  by_cases hm : ∃ j, m = .connect j
  · obtain ⟨j, rfl⟩ := hm
    obtain ⟨other, next, u, hother, step, rfl⟩ := move?_connect moved
    by_cases hij : j = i
    · subst hij
      obtain rfl : call = other := Option.some.inj (hcall.symm.trans hother)
      refine ⟨next, List.getElem?_set_self hi, ?_⟩
      obtain ⟨-, hsame⟩ | ⟨-, rfl, -⟩ := log_of_beginning? step
      · rw [hsame, htold]
      · rfl
    · exact ⟨call, (List.getElem?_set_ne hij).trans hcall, htold⟩
  · obtain ⟨⟨more, hmore, -⟩, -⟩ := quiet_move (fun j hj => hm ⟨j, hj⟩) moved
    refine ⟨call, ?_, htold⟩
    rw [hmore, List.getElem?_append_left hi, hcall]

/-- Calls that are made in turn are calls. -/
theorem move_of_inTurn {m : ClientMove} (moved : s.inTurn? m = some t) : s.move? m = some t := by
  cases m with
  | callConnect | callDisconnect => exact (Option.ite_none_right_eq_some.mp moved).2
  | _ => exact moved

/-- A call that is yet to fail tells nothing. -/
theorem log_of_failed {i : Nat} {moves : List ClientMove} {u : ClientCalls} {e : EngineError}
    (moved : s.inTurn? (.connect i) = some t) (played : play inTurn? t moves = some u)
    (hfailed : u.beginnings[i]? = some (.returned (.error e))) :
    t.client.log = s.client.log := by
  obtain ⟨call, next, v, hcall, step, rfl⟩ := move?_connect (move_of_inTurn moved)
  obtain ⟨hi, -⟩ := List.getElem?_eq_some_iff.mp hcall
  obtain ⟨hlog, -⟩ | ⟨-, rfl, -⟩ := log_of_beginning? step
  · exact hlog
  · obtain ⟨last, hlast, htold⟩ := play_induction
      (P := fun w => ∃ call, w.beginnings[i]? = some call ∧ call.hasConnected = true)
      (fun _ _ _ hconnected moved => hasConnected_move hconnected (move_of_inTurn moved))
      moves ⟨.releasing, List.getElem?_set_self hi, rfl⟩ played
    rw [hfailed, Option.some.injEq] at hlast
    rw [← hlast] at htold
    cases htold

/-! ### How a client stands after a play -/

/-- Each move leaves the client as whoever comes next expects it. -/
theorem behaved_move {m : ClientMove} (hwaits : s.Waits turn)
    (h : Behaved config s turn telling) (moved : s.inTurn? m = some t) :
    ∃ turn telling, t.Waits turn ∧ Behaved config t turn telling := by
  have hnobody : s.isQuiet = true → turn = .nobody := fun hquiet =>
    hwaits.of_isQuiet hquiet h.stands.ne_returned.1 h.stands.ne_returned.2
  cases m with
  | callConnect opened =>
      obtain ⟨hquiet, hafter⟩ := Option.ite_none_right_eq_some.mp moved
      obtain rfl := hnobody hquiet
      cases hafter
      exact ⟨_, telling, hwaits.callConnect opened, h.configured, h.callback, h.hangsUp, h.buffer,
        h.stands.of_calm rfl rfl rfl rfl rfl, h.logged⟩
  | callDisconnect =>
      obtain ⟨hquiet, hafter⟩ := Option.ite_none_right_eq_some.mp moved
      obtain rfl := hnobody hquiet
      cases hafter
      exact ⟨_, telling, hwaits.callDisconnect, h.configured, h.callback, h.hangsUp, h.buffer,
        h.stands.of_calm rfl rfl rfl rfl rfl, h.logged⟩
  | connect i =>
      obtain ⟨call, next, u, hcall, step, rfl⟩ := move?_connect moved
      have hunder : ∀ result, call ≠ .returned result := by
        rintro result rfl
        cases step
      obtain ⟨rfl, hlast⟩ := hwaits.turn_eq_connecting hcall hunder
      obtain ⟨telling, hu⟩ := behaved_beginning h step
      exact ⟨_, telling, hwaits.set_beginning hlast rfl (beginning?_cases step).2.1,
        hu.with_calls _ u.endings⟩
  | disconnect i =>
      obtain ⟨call, next, u, hcall, step, rfl⟩ := move?_disconnect moved
      have hunder : call ≠ .returned := by
        rintro rfl
        cases step
      obtain ⟨rfl, hlast⟩ := hwaits.turn_eq_disconnecting hcall hunder
      obtain ⟨telling, hu⟩ := behaved_ending h step
      exact ⟨_, telling, hwaits.set_ending hlast rfl (ending?_cases step).1,
        hu.with_calls u.beginnings _⟩
  | goOn =>
      obtain ⟨hbeginnings, hendings, -⟩ := goOn?_cases moved
      obtain ⟨telling, ht⟩ := behaved_goOn h moved
      exact ⟨turn, telling, hwaits.of_eq hbeginnings hendings, ht⟩
  | read chunk =>
      obtain ⟨hr, hafter⟩ := Option.ite_none_right_eq_some.mp moved
      cases hafter
      exact ⟨turn, .begun, hwaits.of_eq rfl rfl, behaved_read h hr chunk⟩
  | seeCancelled =>
      obtain ⟨hr, hafter⟩ := Option.ite_none_right_eq_some.mp moved
      cases hafter
      rw [Bool.and_eq_true, Bool.or_eq_true, decide_eq_true_eq, decide_eq_true_eq] at hr
      exact ⟨turn, telling, hwaits.of_eq rfl rfl, behaved_seeCancelled h hr.2⟩
  | notice =>
      obtain ⟨hr, hafter⟩ := Option.ite_none_right_eq_some.mp moved
      cases hafter
      rw [Bool.and_eq_true, decide_eq_true_eq] at hr
      exact ⟨turn, .begun, hwaits.of_eq rfl rfl, behaved_notice h hr.2⟩

/-- However calls that are made in turn come between the reader's steps, the client stands
somewhere. -/
theorem behaved_of_play (hstart : ∃ turn telling, s.Waits turn ∧ Behaved config s turn telling)
    (moves : List ClientMove) (played : play inTurn? s moves = some t) :
    ∃ turn telling, t.Waits turn ∧ Behaved config t turn telling := by
  refine play_induction (P := fun s => ∃ turn telling, s.Waits turn ∧ Behaved config s turn telling)
    ?_ moves hstart played
  rintro s m t ⟨turn, telling, hwaits, h⟩ moved
  exact behaved_move hwaits h moved

theorem waits_start (kind : EngineKind) (config : EngineConfig) :
    ∃ turn telling, (start kind config).Waits turn ∧
      Behaved config (start kind config) turn telling :=
  ⟨.nobody, .past, ⟨⟨[], rfl⟩, 0, rfl⟩, behaved_start kind config⟩

theorem behaved_play (kind : EngineKind) (config : EngineConfig) (moves : List ClientMove)
    (played : play inTurn? (start kind config) moves = some s) :
    ∃ turn telling, s.Waits turn ∧ Behaved config s turn telling :=
  behaved_of_play (waits_start kind config) moves played

theorem made_play (kind : EngineKind) (config : EngineConfig) (moves : List ClientMove)
    (played : play inTurn? (start kind config) moves = some s) :
    s.made = s.beginnings.countP Beginning.hasConnected :=
  play_induction (P := fun s => s.made = s.beginnings.countP Beginning.hasConnected)
    (fun _ _ _ hmade moved => made_move hmade (move_of_inTurn moved)) moves rfl played

end ClientCalls

end Interleaving

end Lifecast
