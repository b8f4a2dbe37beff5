/-
Each member is entered once, under its own id.

A registration throws out whoever had the id before, and an id never changes, so no id is
entered twice and the entry under it is of the session that bears it (`Registered`).  As a
handle has one id, no session is entered twice either: what is done to each member is done
once to each of them, and the number of members is a number of sessions
(`length_snapshot`).  Sessions may share an id; then at most one of them is a member.
-/
import Mathlib.Data.List.Induction
import Mathlib.Data.List.Perm.Basic
import Lifecast.Proofs.Session.Calls

namespace Lifecast

namespace Hub

/-- No id is entered twice, and every member is entered under its own. -/
structure Registered (hub : Hub) : Prop where
  ids_nodup : (hub.members.map (·.1)).Nodup
  own_id : ∀ m ∈ hub.members, hub.sessions[m.2]?.map (·.id) = some m.1

namespace Registered

variable {hub : Hub}

/-- No session is entered twice: it would be entered under its id both times. -/
theorem handles_nodup (hreg : hub.Registered) : (hub.members.map (·.2)).Nodup := by
  have hids : (hub.members.map (·.2)).map (fun h => hub.sessions[h]?.map (·.id))
      = (hub.members.map (·.1)).map some := by
    rw [List.map_map, List.map_map]
    exact List.map_congr_left hreg.own_id
  have hnodup : ((hub.members.map (·.1)).map some).Nodup :=
    hreg.ids_nodup.map fun _ _ => Option.some.inj
  exact List.Nodup.of_map _ (hids ▸ hnodup)

/-- Members are sessions. -/
theorem lt_size (hreg : hub.Registered) {h : Handle} (hmem : hub.isMember h = true) :
    h < hub.sessions.size := by
  obtain ⟨m, hm, heq⟩ := List.any_eq_true.mp hmem
  obtain rfl : m.2 = h := by simpa using heq
  have hid := hreg.own_id m hm
  by_contra hlt
  rw [Array.getElem?_eq_none (Nat.le_of_not_lt hlt)] at hid
  cases hid

/-- As many sessions are members as a snapshot has entries. -/
theorem length_snapshot (hreg : hub.Registered) :
    hub.snapshot.length = (List.range hub.sessions.size).countP hub.isMember := by
  have hnodup : hub.snapshot.Nodup :=
    (List.mergeSort_perm _ _).nodup_iff.mpr hreg.handles_nodup
  have hperm : hub.snapshot.Perm ((List.range hub.sessions.size).filter hub.isMember) := by
    rw [List.perm_ext_iff_of_nodup hnodup (List.nodup_range.filter _)]
    intro h
    rw [mem_snapshot, List.mem_filter, List.mem_range]
    exact ⟨fun hmem => ⟨hreg.lt_size hmem, hmem⟩, fun hboth => hboth.2⟩
  rw [hperm.length_eq, List.countP_eq_length_filter]

end Registered

/-! ### Every call keeps it -/

theorem id_effect (hub : Hub) (call : Call) (h : Handle) (s : Session) :
    (hub.effect call h s).id = s.id := by
  apply effect_cases (P := fun t => t.id = s.id)
  · rfl
  · exact fun message => (hub.offered_keeps message s).1
  · exact fun _ => rfl
  · rfl
  · exact s.closed_keeps.1
  · rfl

/-- Nobody gets a new id. -/
theorem id_perform {hub : Hub} (hreg : hub.Registered) (call : Call) {h : Handle} {id : Nat}
    (hid : hub.sessions[h]?.map (·.id) = some id) :
    (hub.perform call).2.sessions[h]?.map (·.id) = some id := by
  obtain ⟨s, hs, rfl⟩ := Option.map_eq_some_iff.mp hid
  rw [getElem?_perform hreg.handles_nodup, hs]
  exact congrArg some (hub.id_effect call h s)

/-- A call that does not register only takes members out. -/
theorem membersAfter_cases (hub : Hub) (call : Call) :
    (∃ h s, hub.sessions[h]? = some s ∧ call = .register h ∧
      hub.membersAfter call = (s.id, h) :: without hub.members s.id) ∨
    (hub.membersAfter call).Sublist hub.members := by
  cases call with
  | register h =>
      cases hs : hub.sessions[h]? with
      | none =>
          right
          simp [membersAfter, hs]
      | some s =>
          cases hclosing : hub.isClosing s with
          | true =>
              right
              simp [membersAfter, hs, hclosing]
          | false =>
              left
              exact ⟨h, s, hs, rfl, by simp [membersAfter, hs, hclosing]⟩
  | remove id => exact Or.inr List.filter_sublist
  | close h =>
      right
      rw [← members_perform]
      exact hub.members_close_sublist h
  | closeAll | dropRegistry => exact Or.inr (List.nil_sublist _)
  | nextId | make | snapshot | send | broadcast | receive | dropQueue | cancel | cancelRun
  | isCancelled => exact Or.inr (List.Sublist.refl _)

theorem registered_empty : Registered {} :=
  ⟨List.nodup_nil, by simp⟩

theorem registered_perform {hub : Hub} (hreg : hub.Registered) (call : Call) :
    (hub.perform call).2.Registered := by
  rcases hub.membersAfter_cases call with ⟨h, s, hs, rfl, hafter⟩ | hsub
  · have hout : ∀ m ∈ without hub.members s.id, m ∈ hub.members ∧ m.1 ≠ s.id := by
      intro m hm
      simpa [without] using hm
    constructor
    · rw [members_perform, hafter, List.map_cons, List.nodup_cons]
      refine ⟨?_, (List.filter_sublist.map _).nodup hreg.ids_nodup⟩
      intro hmem
      obtain ⟨m, hm, heq⟩ := List.mem_map.mp hmem
      exact (hout m hm).2 heq
    · intro m hm
      rw [members_perform, hafter] at hm
      apply id_perform hreg
      rcases List.mem_cons.mp hm with rfl | hold
      · rw [hs]
        rfl
      · exact hreg.own_id m (hout m hold).1
  · constructor
    · rw [members_perform]
      exact (hsub.map _).nodup hreg.ids_nodup
    · intro m hm
      rw [members_perform] at hm
      exact id_perform hreg _ (hreg.own_id m (hsub.subset hm))

theorem performAll_concat (hub : Hub) (calls : List Call) (call : Call) :
    hub.performAll (calls ++ [call]) = ((hub.performAll calls).perform call).2 := by
  simp [performAll]

/-- **In every run, each member is entered once and under its own id.** -/
theorem registered_performAll (calls : List Call) : (performAll {} calls).Registered := by
  induction calls using List.reverseRecOn with
  | nil => exact registered_empty
  | append_singleton calls call ih =>
      rw [performAll_concat]
      exact registered_perform ih call

end Hub

end Lifecast
