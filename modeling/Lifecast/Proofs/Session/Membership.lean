/-
Who is a member.

A closed session is not a member and never gets to be one again: the call that closes it
takes its id out, and the latch that the call sets keeps it out (`Kept`).  This holds
whatever ids sessions have, even if several have the same.

If they have ids of their own, nobody puts out anybody else, and membership can be read off
the calls alone: a session is a member just if the last call that let it in came after the
last one that put it out (`Inside`).  Ids from the counter are of that kind.  The invariant
is that no session has an id that the counter has yet to give out, nor one that it gave out
and nobody has taken (`Numbered`).
-/
import Mathlib.Tactic.IntervalCases
import Lifecast.Proofs.Session.Closing

namespace Lifecast

namespace Hub

/-- The id of a session. -/
def idOf (hub : Hub) (h : Handle) : Option Nat :=
  hub.sessions[h]?.map (·.id)

/-! ### Letting in and putting out -/

namespace Step

/-- Does the call make the session a member? -/
def admits (h : Handle) (step : Step) : Bool :=
  step.call = .register h && step.answer = .flag true

/-- Does the call put the session out: does it close it, remove its id, or empty the
registry? -/
def expels (h : Handle) (step : Step) : Bool :=
  match step.call with
  | .close i => i = h
  | .remove id => step.before.idOf h = some id
  | .closeAll | .dropRegistry => true
  | _ => false

end Step

theorem admits_record {hub : Hub} {call : Call} {h : Handle} :
    (hub.record call).admits h = true
      ↔ call = .register h ∧ ∃ s, hub.sessions[h]? = some s ∧ hub.isClosing s = false := by
  have hcall : (hub.record call).admits h = true
      ↔ call = .register h ∧ (hub.record call).answer = .flag true := by
    rw [Step.admits, Bool.and_eq_true, decide_eq_true_iff, decide_eq_true_iff]
    rfl
  rw [hcall]
  refine and_congr_right ?_
  rintro rfl
  have hanswer : (hub.record (.register h)).answer = .flag (hub.register h).1 := rfl
  rw [hanswer, Answer.flag.injEq]
  unfold register
  cases hs : hub.sessions[h]? with
  | none => simp
  | some s =>
      cases hclosing : hub.isClosing s with
      | true => simp [hclosing]
      | false => simp [hclosing]

theorem isMember_after (hub : Hub) (call : Call) (h : Handle) :
    (hub.record call).after.isMember h = (hub.membersAfter call).any (·.2 = h) := by
  unfold isMember
  rw [← members_perform]
  rfl

/-- Taking out an id puts out the member that bears it, and nobody else. -/
theorem any_without {hub : Hub} (hreg : hub.Registered) (id : Nat) (h : Handle) :
    (without hub.members id).any (·.2 = h) = true
      ↔ hub.isMember h = true ∧ hub.idOf h ≠ some id := by
  unfold isMember
  rw [List.any_eq_true, List.any_eq_true]
  constructor
  · rintro ⟨m, hm, hhandle⟩
    obtain ⟨hin, hid⟩ : m ∈ hub.members ∧ m.1 ≠ id := by
      simpa [without] using hm
    obtain rfl : m.2 = h := of_decide_eq_true hhandle
    refine ⟨⟨m, hin, hhandle⟩, ?_⟩
    intro hsame
    exact hid (Option.some.inj ((hreg.own_id m hin).symm.trans hsame))
  · rintro ⟨⟨m, hin, hhandle⟩, hne⟩
    obtain rfl : m.2 = h := of_decide_eq_true hhandle
    have hid : m.1 ≠ id := fun heq => hne (heq ▸ hreg.own_id m hin)
    exact ⟨m, by simpa [without] using ⟨hin, hid⟩, hhandle⟩

/-! ### Closed sessions stay out -/

/-- Members are in order, and no session that was closed is one. -/
structure Kept (hub : Hub) : Prop where
  registered : hub.Registered
  unlatched : ∀ h, hub.latchedAt h = true → hub.isMember h = false

/-- Whoever is a member after a call was let in by it, or was one before and was not put
out. -/
theorem isMember_of_after {hub : Hub} (hkept : hub.Kept) {call : Call} {h : Handle}
    (hafter : (hub.record call).after.isMember h = true) :
    (hub.record call).admits h = true ∨
      hub.isMember h = true ∧ (hub.record call).expels h = false := by
  have hwithout := any_without hkept.registered
  rw [isMember_after] at hafter
  cases call with
  | nextId | make | snapshot | send | broadcast | receive | dropQueue | cancel | cancelRun
  | isCancelled => exact Or.inr ⟨hafter, rfl⟩
  | closeAll | dropRegistry => cases hafter
  | register i =>
      cases hs : hub.sessions[i]? with
      | none =>
          simp only [membersAfter, hs] at hafter
          exact Or.inr ⟨hafter, rfl⟩
      | some s =>
          cases hclosing : hub.isClosing s with
          | true =>
              simp only [membersAfter, hs, hclosing, if_true] at hafter
              exact Or.inr ⟨hafter, rfl⟩
          | false =>
              simp only [membersAfter, hs, hclosing, Bool.false_eq_true, if_false,
                List.any_cons, Bool.or_eq_true, decide_eq_true_eq] at hafter
              rcases hafter with rfl | hold
              · exact Or.inl (admits_record.mpr ⟨rfl, s, hs, hclosing⟩)
              · exact Or.inr ⟨((hwithout s.id h).mp hold).1, rfl⟩
  | remove id =>
      obtain ⟨hmem, hne⟩ := (hwithout id h).mp hafter
      exact Or.inr ⟨hmem, decide_eq_false hne⟩
  | close i =>
      right
      cases hs : hub.sessions[i]? with
      | none =>
          simp only [membersAfter, hs] at hafter
          refine ⟨hafter, decide_eq_false ?_⟩
          rintro rfl
          rw [Array.getElem?_eq_getElem (hkept.registered.lt_size hafter)] at hs
          cases hs
      | some s =>
          cases hl : s.latched with
          | true =>
              simp only [membersAfter, hs, hl, if_true] at hafter
              refine ⟨hafter, decide_eq_false ?_⟩
              rintro rfl
              have hout : hub.isMember i = false :=
                hkept.unlatched i ((Option.any_eq_true _ _).mpr ⟨s, hs, hl⟩)
              exact Bool.eq_false_iff.mp hout hafter
          | false =>
              simp only [membersAfter, hs, hl, Bool.false_eq_true, if_false] at hafter
              obtain ⟨hmem, hne⟩ := (hwithout s.id h).mp hafter
              refine ⟨hmem, decide_eq_false ?_⟩
              rintro rfl
              exact hne (by rw [idOf, hs]; rfl)

theorem kept_perform {hub : Hub} (hkept : hub.Kept) (call : Call) :
    (hub.perform call).2.Kept := by
  refine ⟨registered_perform hkept.registered call, ?_⟩
  intro h hlatched
  rw [Bool.eq_false_iff]
  intro hmem
  have hmark : (hub.latchedAt h || (hub.record call).closes h) = true :=
    (latchedAt_record hkept.registered call h).symm.trans hlatched
  have hafter : (hub.record call).after.isMember h = true := hmem
  rcases isMember_of_after hkept hafter with hadmits | ⟨hbefore, hstays⟩
  · -- Whoever is let in has no latch, and the call that lets in sets none.
    obtain ⟨rfl, s, hs, hclosing⟩ := admits_record.mp hadmits
    have hnolatch : hub.latchedAt h = false := by
      rw [isClosing, Bool.or_eq_false_iff] at hclosing
      rw [latchedAt, hs]
      exact hclosing.1
    rw [hnolatch] at hmark
    cases hmark
  · rcases Bool.or_eq_true_iff.mp hmark with hlatched | hcloses
    · exact Bool.eq_false_iff.mp (hkept.unlatched h hlatched) hbefore
    · cases call with
      | close i =>
          have heq : i = h := by
            have hboth : (i = h && hub.sessions[h]?.isSome) = true := hcloses
            rw [Bool.and_eq_true] at hboth
            exact of_decide_eq_true hboth.1
          exact of_decide_eq_false hstays heq
      | closeAll => cases hstays
      | _ => cases hcloses

theorem kept_performAll (calls : List Call) : (performAll {} calls).Kept := by
  induction calls using List.reverseRecOn with
  | nil => exact ⟨registered_empty, fun h hlatched => by cases hlatched⟩
  | append_singleton calls call ih =>
      rw [performAll_concat]
      exact kept_perform ih call

/-- A latch is there if and only if some call of the run set it. -/
theorem latchedAt_performAll (calls : List Call) (h : Handle) :
    (performAll {} calls).latchedAt h = (history {} calls).any (·.closes h) := by
  induction calls using List.reverseRecOn with
  | nil => rfl
  | append_singleton calls call ih =>
      rw [performAll_concat, history_concat, List.any_append, ← ih]
      have hone := latchedAt_record (registered_performAll calls) call h
      simpa [Step.after, record] using hone

/-! ### Sessions with ids of their own -/

/-- No two sessions have the same id. -/
def DistinctIds (hub : Hub) : Prop :=
  ∀ i j id, hub.idOf i = some id → hub.idOf j = some id → i = j

/-- Whoever is let in is a member, and whoever is a member and is not put out stays one:
nobody else has the id that a call takes out. -/
theorem isMember_after_of_stays {hub : Hub} (hreg : hub.Registered) (hdistinct : hub.DistinctIds)
    {call : Call} {h : Handle} (hmem : hub.isMember h = true)
    (hstays : (hub.record call).expels h = false) :
    (hub.record call).after.isMember h = true := by
  have hother : ∀ i s, hub.sessions[i]? = some s → ¬ i = h → hub.idOf h ≠ some s.id := by
    intro i s hs hne hsame
    exact hne (hdistinct i h s.id (by rw [idOf, hs]; rfl) hsame)
  rw [isMember_after]
  cases call with
  | nextId | make | snapshot | send | broadcast | receive | dropQueue | cancel | cancelRun
  | isCancelled => exact hmem
  | closeAll | dropRegistry => cases hstays
  | register i =>
      cases hs : hub.sessions[i]? with
      | none =>
          simp only [membersAfter, hs]
          exact hmem
      | some s =>
          cases hclosing : hub.isClosing s with
          | true =>
              simp only [membersAfter, hs, hclosing, if_true]
              exact hmem
          | false =>
              simp only [membersAfter, hs, hclosing, Bool.false_eq_true, if_false,
                List.any_cons, Bool.or_eq_true, decide_eq_true_eq]
              by_cases heq : i = h
              · exact Or.inl heq
              · exact Or.inr ((any_without hreg s.id h).mpr ⟨hmem, hother i s hs heq⟩)
  | remove id => exact (any_without hreg id h).mpr ⟨hmem, of_decide_eq_false hstays⟩
  | close i =>
      have hne : ¬ i = h := of_decide_eq_false hstays
      cases hs : hub.sessions[i]? with
      | none =>
          simp only [membersAfter, hs]
          exact hmem
      | some s =>
          cases hl : s.latched with
          | true =>
              simp only [membersAfter, hs, hl, if_true]
              exact hmem
          | false =>
              simp only [membersAfter, hs, hl, Bool.false_eq_true, if_false]
              exact (any_without hreg s.id h).mpr ⟨hmem, hother i s hs hne⟩

theorem isMember_after_of_admits {hub : Hub} {call : Call} {h : Handle}
    (hadmits : (hub.record call).admits h = true) :
    (hub.record call).after.isMember h = true := by
  obtain ⟨rfl, s, hs, hclosing⟩ := admits_record.mp hadmits
  rw [isMember_after]
  simp [membersAfter, hs, hclosing]

/-- The last of some calls to let a session in was followed by none that put it out. -/
def Inside (h : Handle) (steps : List Step) : Prop :=
  ∃ before step after, steps = before ++ step :: after ∧ step.admits h = true ∧
    ∀ later ∈ after, later.admits h = false ∧ later.expels h = false

theorem inside_concat {h : Handle} {steps : List Step} {step : Step} :
    Inside h (steps ++ [step])
      ↔ step.admits h = true ∨ Inside h steps ∧ step.expels h = false := by
  constructor
  · rintro ⟨before, entry, after, hsplit, hadmits, hnone⟩
    rcases List.eq_nil_or_concat after with rfl | ⟨rest, last, rfl⟩
    · left
      obtain ⟨-, hlast⟩ := List.append_inj' hsplit rfl
      obtain rfl : step = entry := List.singleton_inj.mp hlast
      exact hadmits
    · right
      rw [List.concat_eq_append, ← List.cons_append, ← List.append_assoc] at hsplit
      simp only [List.concat_eq_append] at hnone
      obtain ⟨rfl, hlast⟩ := List.append_inj' hsplit rfl
      obtain rfl : step = last := List.singleton_inj.mp hlast
      refine ⟨⟨before, entry, rest, rfl, hadmits, ?_⟩, (hnone step (by simp)).2⟩
      exact fun later hlater => hnone later (by simp [hlater])
  · rintro (hadmits | ⟨⟨before, entry, after, rfl, hentry, hnone⟩, hstays⟩)
    · exact ⟨steps, step, [], rfl, hadmits, by simp⟩
    · by_cases hadmits : step.admits h = true
      · exact ⟨before ++ entry :: after, step, [], rfl, hadmits, by simp⟩
      · refine ⟨before, entry, after ++ [step], by simp, hentry, ?_⟩
        intro later hlater
        rcases List.mem_append.mp hlater with hold | hnew
        · exact hnone later hold
        · obtain rfl := List.mem_singleton.mp hnew
          exact ⟨Bool.eq_false_iff.mpr hadmits, hstays⟩

/-! ### Ids from the counter -/

/-- The id that a call gave out without making a session. -/
def Step.given? (step : Step) : Option Nat :=
  match step.call, step.answer with
  | .nextId, .number id => some id
  | _, _ => none

/-- The id that a call wants for the session it makes. -/
def Call.wanted? : Call → Option Nat
  | .make (some id) _ => some id
  | _ => none

/-- Whoever makes a session with an id of its own was given that id by the counter, and has
made no other session with it. -/
def IdsFromCounter (calls : List Call) : Prop :=
  ∀ k id remote, calls[k]? = some (.make (some id) remote) →
    id ∈ (history {} (calls.take k)).filterMap Step.given? ∧
      id ∉ (calls.take k).filterMap Call.wanted?

theorem IdsFromCounter.of_concat {calls : List Call} {call : Call}
    (hids : IdsFromCounter (calls ++ [call])) :
    IdsFromCounter calls ∧
      ∀ id remote, call = .make (some id) remote →
        id ∈ (history {} calls).filterMap Step.given? ∧ id ∉ calls.filterMap Call.wanted? := by
  constructor
  · intro k id remote hk
    have hlt : k < calls.length := (List.getElem?_eq_some_iff.mp hk).1
    have hboth := hids k id remote (by rw [List.getElem?_append_left hlt, hk])
    rwa [List.take_append_of_le_length (Nat.le_of_lt hlt)] at hboth
  · rintro id remote rfl
    have hboth := hids calls.length id remote (by simp)
    rwa [List.take_left] at hboth

/-- What the counter keeps in order, after calls that were given and that wanted these
ids. -/
structure Numbered (hub : Hub) (given wanted : List Nat) : Prop where
  distinct : hub.DistinctIds
  id_le : ∀ h id, hub.idOf h = some id → id ≤ hub.lastId
  given_le : ∀ id ∈ given, id ≤ hub.lastId
  unused : ∀ id ∈ given, id ∉ wanted → ∀ h, hub.idOf h ≠ some id

theorem idOf_after {hub : Hub} (hreg : hub.Registered) (call : Call) (h : Handle) :
    (hub.record call).after.idOf h = (hub.idOf h).or ((hub.born call h).map (·.id)) := by
  have hafter : (hub.record call).after.sessions[h]?
      = (hub.sessions[h]?.map (hub.effect call h)).or (hub.born call h) :=
    getElem?_perform hreg.handles_nodup call h
  unfold idOf
  rw [hafter]
  cases hs : hub.sessions[h]? with
  | none => rfl
  | some s => exact congrArg some (hub.id_effect call h s)

/-- Making a session gives one handle an id. -/
theorem idOf_after_make {hub : Hub} (hreg : hub.Registered) (id : Option Nat)
    (remote : SocketAddress) (h : Handle) :
    (hub.record (.make id remote)).after.idOf h
      = if h = hub.sessions.size then some (id.getD (hub.lastId + 1)) else hub.idOf h := by
  rw [idOf_after hreg]
  by_cases hlast : h = hub.sessions.size
  · have hnone : hub.idOf h = none := by
      rw [idOf, hlast, Array.getElem?_eq_none (Nat.le_refl _)]
      rfl
    rw [hnone, born, if_pos hlast, if_pos hlast]
    rfl
  · rw [born, if_neg hlast, if_neg hlast]
    exact Option.or_none

/-- A session with an id that nobody has is no double. -/
theorem DistinctIds.insert {hub : Hub} {after : Hub} (hdistinct : hub.DistinctIds) {id : Nat}
    (hfresh : ∀ h, hub.idOf h ≠ some id) {last : Handle}
    (hafter : ∀ h, after.idOf h = if h = last then some id else hub.idOf h) :
    after.DistinctIds := by
  intro i j n hi hj
  rw [hafter] at hi hj
  by_cases hil : i = last
  · by_cases hjl : j = last
    · exact hil.trans hjl.symm
    · rw [if_pos hil] at hi
      rw [if_neg hjl, ← hi] at hj
      exact absurd hj (hfresh j)
  · rw [if_neg hil] at hi
    by_cases hjl : j = last
    · rw [if_pos hjl, ← hi] at hj
      exact absurd hj.symm (hi ▸ hfresh i)
    · rw [if_neg hjl] at hj
      exact hdistinct i j n hi hj

/-- Calls that make no session keep all in order as long as what they give out is what the
counter moved on to. -/
theorem Numbered.of_same_ids {hub after : Hub} {given wanted fresh : List Nat}
    (hnumbered : hub.Numbered given wanted) (hsame : ∀ h, after.idOf h = hub.idOf h)
    (hlast : hub.lastId ≤ after.lastId) (hfresh : ∀ id ∈ fresh, hub.lastId < id ∧ id ≤ after.lastId) :
    after.Numbered (given ++ fresh) wanted := by
  constructor
  · intro i j id hi hj
    rw [hsame] at hi hj
    exact hnumbered.distinct i j id hi hj
  · intro h id hid
    rw [hsame] at hid
    exact Nat.le_trans (hnumbered.id_le h id hid) hlast
  · intro id hid
    rcases List.mem_append.mp hid with hold | hnew
    · exact Nat.le_trans (hnumbered.given_le id hold) hlast
    · exact (hfresh id hnew).2
  · intro id hid hnot h
    rw [hsame]
    rcases List.mem_append.mp hid with hold | hnew
    · exact hnumbered.unused id hold hnot h
    · intro hbears
      have hle := hnumbered.id_le h id hbears
      have hlt := (hfresh id hnew).1
      omega

/-- A session may be made with an id that nobody has, if from then on the id counts as
wanted. -/
theorem Numbered.of_made {hub after : Hub} {given wanted more : List Nat}
    (hnumbered : hub.Numbered given wanted) {id : Nat} {last : Handle}
    (hfree : ∀ h, hub.idOf h ≠ some id)
    (hafter : ∀ h, after.idOf h = if h = last then some id else hub.idOf h)
    (hlast : hub.lastId ≤ after.lastId) (hid : id ≤ after.lastId)
    (hwanted : id ∈ given → id ∈ wanted ++ more) : after.Numbered given (wanted ++ more) := by
  constructor
  · exact hnumbered.distinct.insert hfree hafter
  · intro h n hn
    rw [hafter] at hn
    by_cases heq : h = last
    · rw [if_pos heq] at hn
      exact Option.some.inj hn ▸ hid
    · rw [if_neg heq] at hn
      exact Nat.le_trans (hnumbered.id_le h n hn) hlast
  · exact fun n hn => Nat.le_trans (hnumbered.given_le n hn) hlast
  · intro n hn hnot h
    rw [hafter]
    by_cases heq : h = last
    · rw [if_pos heq]
      intro hsame
      obtain rfl := Option.some.inj hsame
      exact hnot (hwanted hn)
    · rw [if_neg heq]
      exact hnumbered.unused n hn (fun hold => hnot (List.mem_append_left _ hold)) h

theorem numbered_record {hub : Hub} (hreg : hub.Registered) {given wanted : List Nat}
    (hnumbered : hub.Numbered given wanted) {call : Call}
    (hids : ∀ id remote, call = .make (some id) remote → id ∈ given ∧ id ∉ wanted) :
    (hub.record call).after.Numbered (given ++ (hub.record call).given?.toList)
      (wanted ++ call.wanted?.toList) := by
  have hlast : (hub.record call).after.lastId
      = if call.counts then hub.lastId + 1 else hub.lastId := (hub.frame_perform call).2
  have hsame : (∀ id remote, call ≠ .make id remote) →
      ∀ h, (hub.record call).after.idOf h = hub.idOf h := by
    intro hnot h
    have hborn : hub.born call h = none := by
      cases call with
      | make id remote => exact absurd rfl (hnot id remote)
      | _ => rfl
    rw [idOf_after hreg, hborn]
    exact Option.or_none
  cases call with
  | make id remote =>
      have hafter := idOf_after_make hreg id remote
      cases id with
      | none =>
          have hnew : (hub.record (.make none remote)).after.lastId = hub.lastId + 1 := hlast
          have hbeyond : ∀ n ≤ hub.lastId, n ≠ hub.lastId + 1 := by
            intro n hn
            omega
          rw [show (hub.record (.make none remote)).given?.toList = [] from rfl, List.append_nil]
          refine hnumbered.of_made ?_ hafter (by omega) (Nat.le_of_eq hnew.symm) ?_
          · exact fun h hid => hbeyond _ (hnumbered.id_le h _ hid) rfl
          · exact fun hmem => absurd rfl (hbeyond _ (hnumbered.given_le _ hmem))
      | some id =>
          obtain ⟨hgiven, hnot⟩ := hids id remote rfl
          have hold : (hub.record (.make (some id) remote)).after.lastId = hub.lastId := hlast
          rw [show (hub.record (.make (some id) remote)).given?.toList = [] from rfl,
            List.append_nil]
          refine hnumbered.of_made (hnumbered.unused id hgiven hnot) hafter (Nat.le_of_eq hold.symm)
            ?_ ?_
          · exact hold ▸ hnumbered.given_le id hgiven
          · exact fun _ => List.mem_append_right _ (List.mem_singleton_self id)
  | nextId =>
      have hnew : (hub.record .nextId).after.lastId = hub.lastId + 1 := hlast
      rw [show Call.wanted? .nextId = none from rfl, Option.toList_none, List.append_nil]
      refine hnumbered.of_same_ids (hsame (by simp)) (by omega) ?_
      intro id hid
      obtain rfl : id = hub.lastId + 1 := List.mem_singleton.mp hid
      omega
  | register | remove | snapshot | send | broadcast | receive | dropQueue | close | cancel
  | cancelRun | isCancelled | closeAll | dropRegistry =>
      rw [Call.wanted?, Option.toList_none, List.append_nil]
      · exact hnumbered.of_same_ids (hsame (by simp)) (Nat.le_of_eq hlast.symm)
          (by simp [Step.given?, record])
      · simp

theorem numbered_performAll {calls : List Call} (hids : IdsFromCounter calls) :
    (performAll {} calls).Numbered ((history {} calls).filterMap Step.given?)
      (calls.filterMap Call.wanted?) := by
  induction calls using List.reverseRecOn with
  | nil =>
      have hnobody : ∀ h id, idOf {} h ≠ some id := by simp [idOf]
      exact ⟨fun i _ id hi => absurd hi (hnobody i id), fun h id hid => absurd hid (hnobody h id),
        by simp [history], by simp [history]⟩
  | append_singleton calls call ih =>
      obtain ⟨hbefore, hcall⟩ := hids.of_concat
      rw [performAll_concat, history_concat, List.filterMap_append, List.filterMap_append]
      exact numbered_record (registered_performAll calls) (ih hbefore) hcall

/-- Sessions with ids of their own come and go by themselves. -/
theorem isMember_iff_inside {calls : List Call} (hids : IdsFromCounter calls) (h : Handle) :
    (performAll {} calls).isMember h = true ↔ Inside h (history {} calls) := by
  induction calls using List.reverseRecOn with
  | nil => simp [isMember, performAll, Inside, history]
  | append_singleton calls call ih =>
      obtain ⟨hbefore, -⟩ := hids.of_concat
      have hreg := registered_performAll calls
      have hdistinct := (numbered_performAll hbefore).distinct
      rw [performAll_concat, history_concat, inside_concat, ← ih hbefore]
      constructor
      · exact isMember_of_after (kept_performAll calls)
      · rintro (hadmits | ⟨hmem, hstays⟩)
        · exact isMember_after_of_admits hadmits
        · exact isMember_after_of_stays hreg hdistinct hmem hstays

/-! ### Whole runs -/

/--
**Whatever ids sessions have, each member is entered under its own, and a session that was
closed is not a member, is refused from then on, and takes no notice of being closed again.**
If the ids come from the counter they are all different, and the members are the sessions of
which the last call that let them in was followed by none that put them out.
-/
theorem membership_of_run (calls : List Call) :
    let hub := performAll {} calls
    (∀ m ∈ hub.members, hub.idOf m.2 = some m.1) ∧
      (∀ h, (history {} calls).any (·.closes h) = true →
        hub.isMember h = false ∧
          (hub.perform (.register h)).1 = .flag false ∧
          (hub.perform (.close h)).2 = hub) ∧
      (∀ h more, hub.isClosingAt h = true → (hub.performAll more).isClosingAt h = true) ∧
      (IdsFromCounter calls →
        (∀ i j id, hub.idOf i = some id → hub.idOf j = some id → i = j) ∧
          ∀ h, hub.isMember h = true ↔ Inside h (history {} calls)) := by
  intro hub
  have hkept : hub.Kept := kept_performAll calls
  refine ⟨hkept.registered.own_id, ?_, ?_, ?_⟩
  · intro h hclosed
    have hlatched : hub.latchedAt h = true := (latchedAt_performAll calls h).trans hclosed
    refine ⟨hkept.unlatched h hlatched, ?_, close_of_latched hlatched⟩
    exact congrArg (fun answer => Answer.flag answer.1) (register_of_latched hlatched)
  · exact fun h more hclosing => isClosingAt_performAll hkept.registered more hclosing
  · exact fun hids => ⟨(numbered_performAll hids).distinct, isMember_iff_inside hids⟩

/-- One session takes the place of another with its id, after that one was closed. -/
def sharedId : List Call :=
  let here := SocketAddress.v4 .unspecified 0
  [.make (some 7) here, .make (some 7) here, .register 0, .close 0, .register 1]

/-- One session has an id that was given out before, the other the next one; one comes back
after its id was removed, and the other is closed. -/
def ownIds : List Call :=
  let here := SocketAddress.v4 .unspecified 0
  [.nextId, .make (some 1) here, .make none here, .register 0, .register 1, .remove 2,
    .register 1, .close 0]

theorem membership_of_run_sharedId :
    (history {} sharedId).any (·.closes 0) = true ∧
      (performAll {} sharedId).isMember 1 = true ∧
      ((performAll {} sharedId).perform (.close 0)).2 = performAll {} sharedId ∧
      ((performAll {} sharedId).performAll [.register 0, .closeAll]).isClosingAt 0 = true ∧
      IdsFromCounter ownIds ∧
      Inside 1 (history {} ownIds) ∧ ¬ Inside 0 (history {} ownIds) := by
  have hclosed : (history {} sharedId).any (·.closes 0) = true := by cbv
  have hnext : (performAll {} sharedId).isMember 1 = true := by cbv
  have hclosing : (performAll {} sharedId).isClosingAt 0 = true := by cbv
  have hids : IdsFromCounter ownIds := by
    intro k id remote hk
    have hlt : k < 8 := (List.getElem?_eq_some_iff.mp hk).1
    interval_cases k
    all_goals simp [ownIds] at hk
    obtain ⟨rfl, -⟩ := hk
    decide
  have hmembers : (performAll {} ownIds).isMember 1 = true ∧
      (performAll {} ownIds).isMember 0 = false := by cbv
  have hinside := ((membership_of_run ownIds).2.2.2 hids).2
  obtain ⟨-, hout, hkept, -⟩ := membership_of_run sharedId
  refine ⟨hclosed, hnext, (hout 0 hclosed).2.2, hkept 0 _ hclosing, hids,
    (hinside 1).mp hmembers.1, ?_⟩
  rw [← hinside 0, hmembers.2]
  exact Bool.false_ne_true

end Hub

end Lifecast
