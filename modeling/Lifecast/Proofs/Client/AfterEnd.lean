/-
What a client may be told of a connection after its end.

When a client is told that a connection has ended, the receive loop of the connection may still
have frames in hand: a callback that ends the connection cannot wait for the loop it runs in.
These frames are handed out behind (`frame_after_end`).  If the call has waited for the loop, or
the loop itself has told, nothing comes behind, and a pooled loop never reads on, so all that
comes is what it had in hand (`quiet_after_end`).

A call relies on what it has brought about: the loop is told to end, and has ended or is the
one in whose callback the call is made.  Every step keeps that (`Backs`, `Stands`).
-/
import Lifecast.Proofs.Client.Attribution
import Lifecast.Proofs.Client.Hearing

namespace Lifecast

namespace Interleaving

namespace ReceiveLoops

variable {kind : EngineKind} {k : Nat} {events : List LoopEvent} {s t : ReceiveLoops} {d : UInt8}

/-! ### What a call relies on -/

/-- A call may tell that a connection has ended. -/
structure Excuses (s : ReceiveLoops) (caller : Option Nat) (k : Nat) (farewell : Farewell) :
    Prop where
  cancelled : s.isCancelled k = true
  waited : ∃ waited, farewell = .call caller waited ∧ (waited = true → s.hasEnded k = true) ∧
    (waited = false → s.kind = .pooledMulticast → caller = some k)

/-- What a call to `disconnect` relies on. -/
structure Backs (s : ReceiveLoops) (call : MadeBy Leaving) : Prop where
  waiting : ∀ won k, call.place = .waiting won k → s.isCancelled k = true
  cleared : ∀ k farewell, call.place = .cleared (some k) farewell →
    s.Excuses call.caller k farewell
  telling : ∀ k farewell, call.place = .telling (some k) farewell →
    s.Excuses call.caller k farewell

/-- What holds of a client, its loops and its calls. -/
structure Stands (s : ReceiveLoops) (kind : EngineKind) (d : UInt8) : Prop where
  kind : s.kind = kind
  delimiter : s.delimiter = d
  sane : s.Sane
  record : ∀ k : Nat, s.record = some k → ∃ loop, s.loops[k]? = some loop
  calling : ∀ k, s.isCalling k = true → s.inCallback k = true
  backs : ∀ call ∈ s.leaves, s.Backs call

theorem Excuses.follows {caller : Option Nat} {farewell : Farewell}
    (h : s.Excuses caller k farewell) (hfollows : Follows s t events) :
    t.Excuses caller k farewell := by
  obtain ⟨waited, hcall, hended, hown⟩ := h.waited
  refine ⟨hfollows.isCancelled h.cancelled, waited, hcall, ?_, ?_⟩
  · exact fun hwaited => hfollows.hasEnded (hended hwaited)
  · rw [hfollows.kind]
    exact hown

theorem Backs.follows {call : MadeBy Leaving} (h : s.Backs call) (hfollows : Follows s t events) :
    t.Backs call where
  waiting won k hplace := hfollows.isCancelled (h.waiting won k hplace)
  cleared k farewell hplace := (h.cleared k farewell hplace).follows hfollows
  telling k farewell hplace := (h.telling k farewell hplace).follows hfollows

/-- A step keeps it if the calls that it moves may be where they get to. -/
theorem Stands.tells (h : s.Stands kind d) (htells : Tells s t events)
    (hrecord : ∀ k : Nat, t.record = some k →
      s.record = some k ∨ ∃ loop, t.loops[k]? = some loop)
    (hcalling : ∀ k, t.isCalling k = true → s.isCalling k = true ∨ t.inCallback k = true)
    (hbacks : ∀ call ∈ t.leaves, call ∈ s.leaves ∨ t.Backs call) : t.Stands kind d where
  kind := htells.kind.trans h.kind
  delimiter := htells.delimiter.trans h.delimiter
  sane := h.sane.tells htells
  record k hk := by
    rcases hrecord k hk with hold | hnew
    · obtain ⟨loop, hloop⟩ := h.record k hold
      obtain ⟨next, hnext, -⟩ := htells.loops k loop hloop
      exact ⟨next, hnext⟩
    · exact hnew
  calling k hk := by
    rcases hcalling k hk with hold | hnew
    · exact htells.calling k hold (h.calling k hold)
    · exact hnew
  backs call hcall := by
    rcases hbacks call hcall with hold | hnew
    · exact (h.backs call hold).follows htells.toFollows
    · exact hnew

/-- When a call tells that a connection has ended, the log says what the loop still has in
hand, and a pooled loop will read no more. -/
theorem Excuses.parted {caller : Option Nat} {farewell : Farewell}
    (h : s.Excuses caller k farewell) (hsane : s.Sane)
    (hcaller : ∀ j, caller = some j → s.inCallback j = true) :
    s.Parted k farewell s.log [] := by
  obtain ⟨waited, rfl, hended, hown⟩ := h.waited
  refine ⟨fun hlast => ⟨hended hlast, rfl⟩, ?_, ?_⟩
  · intro hpooled
    cases waited with
    | true => exact .inl rfl
    | false => exact .inr (by rw [hown rfl hpooled])
  · intro hpooled
    obtain ⟨loop, hloop, hcancelled⟩ := (Option.any_eq_true _ _).mp h.cancelled
    refine ⟨loop, hloop, hcancelled, ?_, rfl, by rw [inHand, hsane.heard k loop hloop]; rfl⟩
    -- A loop that waits for something to read would hand that out as well.
    intro hawaiting
    cases waited with
    | true => simpa [hasEnded, hloop, hawaiting] using hended rfl
    | false =>
        have hinside := hcaller k (hown rfl hpooled)
        rw [not_inCallback hloop (by simp [hawaiting])] at hinside
        cases hinside

theorem isCalling_iff : s.isCalling k = true ↔
    (∃ call ∈ s.leaves, call.caller = some k ∧ call.place ≠ .returned) ∨
      ∃ call ∈ s.joins, call.caller = some k ∧ ∀ result, call.place ≠ .returned result := by
  rw [isCalling, Bool.or_eq_true, List.any_eq_true, List.any_eq_true]
  refine or_congr (by simp) (exists_congr fun call => and_congr_right fun _ => ?_)
  rw [Bool.and_eq_true, decide_eq_true_eq]
  refine and_congr_right fun _ => ?_
  cases call.place <;> simp

/-- Who has called is in the callback. -/
theorem Stands.inCallback (h : s.Stands kind d) {call : MadeBy Leaving} (hcall : call ∈ s.leaves)
    (hplace : call.place ≠ .returned) : ∀ j, call.caller = some j → s.inCallback j = true :=
  fun j hj => h.calling j (isCalling_iff.mpr (.inl ⟨call, hcall, hj, hplace⟩))

/-! ### Each move keeps it -/

/-- What a step of a call comes to. -/
structure CallStep (s t : ReceiveLoops) : Prop where
  tells : ∃ events, Tells s t events
  record : ∀ k : Nat, t.record = some k → s.record = some k ∨ ∃ loop, t.loops[k]? = some loop

/-- It may leave the loops and the log alone. -/
theorem CallStep.of_loops (hkind : t.kind = s.kind) (hdelimiter : t.delimiter = s.delimiter)
    (hlog : t.log = s.log) (hloops : t.loops = s.loops) (hrecord : t.record = s.record) :
    s.CallStep t :=
  ⟨⟨[], .of_loops hkind hdelimiter hlog hloops⟩, fun _ hk => .inl (hrecord.symm.trans hk)⟩

/-- It may take the record away and tell the loop to end. -/
theorem CallStep.of_cancel (k : Nat) : s.CallStep { s.cancel k with record := none } :=
  ⟨⟨[], .of_cancel k⟩, by simp⟩

/-- A call to `disconnect` also relies on what it has brought about. -/
structure LeaveStep (s t : ReceiveLoops) (call : MadeBy Leaving) : Prop extends CallStep s t where
  backs : t.Backs call

/-- A call has waited for a loop or does not wait any longer. -/
theorem afterWait_step {caller : Option Nat} {won waited : Bool} {place : Leaving}
    (hcancelled : s.isCancelled k = true) (hended : waited = true → s.hasEnded k = true)
    (hown : waited = false → s.kind = .pooledMulticast → caller = some k)
    (h : s.afterWait caller won k waited = (place, t)) : s.LeaveStep t ⟨caller, place⟩ := by
  unfold afterWait at h
  cases won with
  | true =>
      obtain ⟨rfl, rfl⟩ := Prod.mk.inj h
      refine ⟨.of_loops rfl rfl rfl rfl rfl, by simp, ?_, by simp⟩
      rintro j farewell hplace
      obtain ⟨hj, rfl⟩ := Leaving.cleared.inj hplace
      obtain rfl := Option.some.inj hj
      exact ⟨hcancelled, waited, rfl, hended, hown⟩
  | false =>
      obtain ⟨rfl, rfl⟩ := Prod.mk.inj h
      exact ⟨.of_loops rfl rfl rfl rfl rfl, by simp, by simp, by simp⟩

theorem leave?_step {call : MadeBy Leaving} {place : Leaving} (hstands : s.Stands kind d)
    (hcall : call ∈ s.leaves) (h : s.leave? call.caller call.place = some (place, t)) :
    s.LeaveStep t ⟨call.caller, place⟩ := by
  have hbacks := hstands.backs call hcall
  cases hplace : call.place with
  | called =>
      simp only [leave?, hplace] at h
      split at h
      · obtain ⟨rfl, rfl⟩ := Prod.mk.inj (Option.some.inj h)
        refine ⟨.of_loops rfl rfl rfl rfl rfl, ?_⟩
        split <;> exact ⟨by simp, by simp, by simp⟩
      · obtain ⟨-, h⟩ := Option.ite_none_left_eq_some.mp h
        obtain ⟨rfl, rfl⟩ := Prod.mk.inj (Option.some.inj h)
        exact ⟨.of_loops rfl rfl rfl rfl rfl, by simp, by simp, by simp⟩
  | looked =>
      simp only [leave?, hplace] at h
      obtain ⟨-, h⟩ := Option.ite_none_left_eq_some.mp h
      obtain ⟨rfl, rfl⟩ := Prod.mk.inj (Option.some.inj h)
      exact ⟨.of_loops rfl rfl rfl rfl rfl, by simp, by simp, by simp⟩
  | locked =>
      simp only [leave?, hplace] at h
      split at h <;> obtain ⟨rfl, rfl⟩ := Prod.mk.inj (Option.some.inj h) <;>
        exact ⟨.of_loops rfl rfl rfl rfl rfl, by simp, by simp, by simp⟩
  | tried won =>
      simp only [leave?, hplace] at h
      cases hrecord : s.record with
      | some k =>
          simp only [hrecord] at h
          obtain ⟨rfl, rfl⟩ := Prod.mk.inj (Option.some.inj h)
          obtain ⟨loop, hloop⟩ := hstands.record k hrecord
          refine ⟨.of_cancel k, ?_, by simp, by simp⟩
          rintro _ j hj
          obtain ⟨-, rfl⟩ := Leaving.waiting.inj hj
          simp [isCancelled, cancel, hloop]
      | none =>
          simp only [hrecord] at h
          split at h <;> obtain ⟨rfl, rfl⟩ := Prod.mk.inj (Option.some.inj h) <;>
            exact ⟨.of_loops rfl rfl rfl rfl hrecord.symm, by simp, by simp, by simp⟩
  | waiting won k =>
      simp only [leave?, hplace, Option.ite_none_right_eq_some, Option.some.injEq] at h
      refine afterWait_step (hbacks.waiting won k hplace) (fun _ => h.1) ?_ h.2
      simp
  | cleared connection farewell =>
      simp only [leave?, hplace] at h
      obtain ⟨rfl, rfl⟩ := Prod.mk.inj (Option.some.inj h)
      refine ⟨.of_loops rfl rfl rfl rfl rfl, by simp, by simp, ?_⟩
      rintro k other htelling
      obtain ⟨rfl, rfl⟩ := Leaving.telling.inj htelling
      have hexcuses := hbacks.cleared k farewell hplace
      exact hexcuses.follows (.of_loops rfl rfl (List.append_nil _).symm rfl (by simp))
  | telling connection farewell =>
      simp only [leave?, hplace] at h
      obtain ⟨rfl, rfl⟩ := Prod.mk.inj (Option.some.inj h)
      have hfollows : Follows s (s.note (.disconnected connection farewell))
          [.disconnected connection farewell] :=
        .of_loops rfl rfl rfl rfl (by simp [LoopEvent.isOf])
      refine ⟨⟨⟨_, hfollows.parts ?_⟩, fun _ => .inl⟩, by simp, by simp, by simp⟩
      rintro k rfl
      have hparted := (hbacks.telling k farewell hplace).parted hstands.sane
        (hstands.inCallback hcall (by simp [hplace]))
      exact ⟨hparted.last, hparted.own, hparted.pooled⟩
  | returned => simp [leave?, hplace] at h

theorem giveUp?_step {call : MadeBy Leaving} {place : Leaving} (hstands : s.Stands kind d)
    (hcall : call ∈ s.leaves) (h : s.giveUp? call.caller call.place = some (place, t)) :
    s.LeaveStep t ⟨call.caller, place⟩ := by
  cases hplace : call.place with
  | waiting won k =>
      simp only [giveUp?, hplace, Option.ite_none_right_eq_some, Option.some.injEq] at h
      obtain ⟨hmay, h⟩ := h
      refine afterWait_step ((hstands.backs call hcall).waiting won k hplace) ?_ ?_ h
      · simp
      · intro _ hpooled
        rw [hpooled] at hmay
        exact of_decide_eq_true hmay
  | called | looked | locked | tried won | cleared connection farewell
  | telling connection farewell | returned => simp [giveUp?, hplace] at h

/-- A call that has made a step is still the same callback's. -/
theorem isCalling_of_set_leave {i : Nat} {call : MadeBy Leaving} {place : Leaving}
    (h : t.isCalling k = true) (hcall : call ∈ s.leaves) (hplace : call.place ≠ .returned)
    (hleaves : t.leaves = s.leaves.set i ⟨call.caller, place⟩) (hjoins : t.joins = s.joins) :
    s.isCalling k = true := by
  rw [isCalling_iff, hleaves, hjoins] at h
  rw [isCalling_iff]
  refine h.imp_left ?_
  rintro ⟨other, hother, hcaller, hgoing⟩
  rcases List.mem_or_eq_of_mem_set hother with hold | rfl
  · exact ⟨other, hold, hcaller, hgoing⟩
  · exact ⟨call, hcall, hcaller, hplace⟩

theorem isCalling_of_set_join {i : Nat} {call : MadeBy Joining} {place : Joining}
    (h : t.isCalling k = true) (hcall : call ∈ s.joins)
    (hplace : ∀ result, call.place ≠ .returned result)
    (hjoins : t.joins = s.joins.set i ⟨call.caller, place⟩) (hleaves : t.leaves = s.leaves) :
    s.isCalling k = true := by
  rw [isCalling_iff, hleaves, hjoins] at h
  rw [isCalling_iff]
  refine h.imp_right ?_
  rintro ⟨other, hother, hcaller, hgoing⟩
  rcases List.mem_or_eq_of_mem_set hother with hold | rfl
  · exact ⟨other, hold, hcaller, hgoing⟩
  · exact ⟨call, hcall, hcaller, hplace⟩

/-- A step of a call to `disconnect`. -/
theorem Stands.leave {u : ReceiveLoops} {i : Nat} {call : MadeBy Leaving} {place : Leaving}
    (h : s.Stands kind d) (hcall : call ∈ s.leaves) (hplace : call.place ≠ .returned)
    (hleaves : u.leaves = s.leaves) (hjoins : u.joins = s.joins)
    (hstep : s.LeaveStep u ⟨call.caller, place⟩) :
    Stands { u with leaves := u.leaves.set i ⟨call.caller, place⟩ } kind d := by
  obtain ⟨events, htells⟩ := hstep.tells
  have htells := htells.withCalls u.joins (u.leaves.set i ⟨call.caller, place⟩)
  refine h.tells htells hstep.record ?_ ?_
  · intro k hk
    have hset := congrArg (List.set · i ⟨call.caller, place⟩) hleaves
    exact .inl (isCalling_of_set_leave hk hcall hplace hset hjoins)
  · intro other hother
    rcases List.mem_or_eq_of_mem_set hother with hold | rfl
    · exact .inl (hleaves ▸ hold)
    · exact .inr (hstep.backs.follows (.of_loops rfl rfl (List.append_nil _).symm rfl nofun))

/-- A new loop has heard nothing. -/
theorem Tells.of_append (hkind : t.kind = s.kind)
    (hdelimiter : t.delimiter = s.delimiter) (hlog : t.log = s.log)
    (hloops : t.loops = s.loops ++ [{ buffer := .empty s.delimiter }]) : Tells s t [] := by
  have hold : ∀ (k : Nat) (loop : ReceiveLoop), s.loops[k]? = some loop →
      t.loops[k]? = some loop := by
    intro k loop hloop
    rw [hloops, List.getElem?_append_left (List.getElem?_eq_some_iff.mp hloop).1, hloop]
  refine Follows.silent ⟨hkind, hdelimiter, hlog.trans (List.append_nil _).symm, ?_, ?_, nofun, ?_⟩
  · intro k loop hloop
    exact ⟨loop, hold k loop hloop, .of_same rfl rfl id nofun⟩
  · intro k loop hnone hloop
    rw [hloops, List.getElem?_append_right (List.getElem?_eq_none_iff.mp hnone)] at hloop
    exact List.mem_singleton.mp (List.mem_of_getElem? hloop)
  · intro k _ hinside
    obtain ⟨loop, hloop, hplace⟩ := (Option.any_eq_true _ _).mp hinside
    exact (Option.any_eq_true _ _).mpr ⟨loop, hold k loop hloop, hplace⟩

theorem join?_step {call place : Joining} (h : s.join? call = some (place, t)) : s.CallStep t := by
  cases call with
  | called opened =>
      simp only [join?] at h
      obtain ⟨-, h⟩ := Option.ite_none_left_eq_some.mp h
      split at h <;> obtain ⟨-, rfl⟩ := Prod.mk.inj (Option.some.inj h) <;>
        exact .of_loops rfl rfl rfl rfl rfl
  | clearing opened =>
      simp only [join?] at h
      split at h <;> obtain ⟨-, rfl⟩ := Prod.mk.inj (Option.some.inj h)
      · exact .of_loops rfl rfl rfl rfl rfl
      · next k _ => exact .of_cancel k
  | opening opened =>
      cases opened with
      | error e =>
          obtain ⟨-, rfl⟩ := Prod.mk.inj (Option.some.inj h)
          exact .of_loops rfl rfl rfl rfl rfl
      | ok opened =>
          obtain ⟨-, rfl⟩ := Prod.mk.inj (Option.some.inj h)
          refine ⟨⟨[], .of_append rfl rfl rfl rfl⟩, ?_⟩
          rintro k hk
          obtain rfl := Option.some.inj hk
          exact .inr ⟨_, List.getElem?_concat_length⟩
  | telling k =>
      obtain ⟨-, rfl⟩ := Prod.mk.inj (Option.some.inj h)
      have hfollows : Follows s (s.note (.connected k)) [.connected k] :=
        .of_loops rfl rfl rfl rfl (by simp [LoopEvent.isOf])
      exact ⟨⟨_, hfollows.tells (by simp)⟩, fun _ => .inl⟩
  | releasing k =>
      obtain ⟨-, rfl⟩ := Prod.mk.inj (Option.some.inj h)
      exact ⟨⟨[], .of_release k⟩, fun _ => .inl⟩
  | returned result => cases h

/-- A step of a call to `connect`. -/
theorem Stands.join {u : ReceiveLoops} {i : Nat} {call : MadeBy Joining} {place : Joining}
    (h : s.Stands kind d) (hcall : call ∈ s.joins)
    (hplace : ∀ result, call.place ≠ .returned result) (hleaves : u.leaves = s.leaves)
    (hjoins : u.joins = s.joins) (hstep : s.CallStep u) :
    Stands { u with joins := u.joins.set i ⟨call.caller, place⟩ } kind d := by
  obtain ⟨events, htells⟩ := hstep.tells
  have htells := htells.withCalls (u.joins.set i ⟨call.caller, place⟩) u.leaves
  refine h.tells htells hstep.record ?_ ?_
  · intro k hk
    have hset := congrArg (List.set · i ⟨call.caller, place⟩) hjoins
    exact .inl (isCalling_of_set_join hk hcall hplace hset hleaves)
  · intro other hother
    exact .inl (hleaves ▸ hother)

theorem inCallback_of_mayCall {caller : Option Nat} (hmay : s.mayCall caller = true)
    (hcaller : caller = some k) : s.inCallback k = true := by
  rw [hcaller, mayCall, Bool.and_eq_true] at hmay
  exact hmay.1

theorem Stands.move {m : LoopMove} (h : s.Stands kind d) (hmove : s.move? m = some t) :
    t.Stands kind d := by
  cases m with
  | callConnect caller opened =>
      obtain ⟨hmay, ht⟩ := Option.ite_none_right_eq_some.mp hmove
      obtain rfl := Option.some.inj ht
      refine h.tells (.of_loops rfl rfl rfl rfl) (fun _ => .inl) ?_ (fun _ => .inl)
      intro k hk
      rcases isCalling_iff.mp hk with hleave | ⟨call, hcall, hcaller, hgoing⟩
      · exact .inl (isCalling_iff.mpr (.inl hleave))
      · rcases List.mem_append.mp hcall with hold | hnew
        · exact .inl (isCalling_iff.mpr (.inr ⟨call, hold, hcaller, hgoing⟩))
        · obtain rfl := List.mem_singleton.mp hnew
          have hinside := inCallback_of_mayCall hmay hcaller
          exact .inr hinside
  | callDisconnect caller =>
      obtain ⟨hmay, ht⟩ := Option.ite_none_right_eq_some.mp hmove
      obtain rfl := Option.some.inj ht
      refine h.tells (.of_loops rfl rfl rfl rfl) (fun _ => .inl) ?_ ?_
      · intro k hk
        rcases isCalling_iff.mp hk with ⟨call, hcall, hcaller, hgoing⟩ | hjoin
        · rcases List.mem_append.mp hcall with hold | hnew
          · exact .inl (isCalling_iff.mpr (.inl ⟨call, hold, hcaller, hgoing⟩))
          · obtain rfl := List.mem_singleton.mp hnew
            have hinside := inCallback_of_mayCall hmay hcaller
            exact .inr hinside
        · exact .inl (isCalling_iff.mpr (.inr hjoin))
      · intro call hcall
        rcases List.mem_append.mp hcall with hold | hnew
        · exact .inl hold
        · obtain rfl := List.mem_singleton.mp hnew
          exact .inr ⟨nofun, nofun, nofun⟩
  | connect i =>
      obtain ⟨call, place, u, hcall, hstep, rfl⟩ := connect_eq_some hmove
      obtain ⟨hleaves, hjoins⟩ := join?_calls hstep
      refine h.join (List.mem_of_getElem? hcall) ?_ hleaves hjoins (join?_step hstep)
      intro result hreturned
      rw [hreturned] at hstep
      cases hstep
  | disconnect i =>
      obtain ⟨call, place, u, hcall, hstep, rfl⟩ := withLeave_eq_some hmove
      obtain ⟨hleaves, hjoins⟩ := leave?_calls hstep
      have hmem := List.mem_of_getElem? hcall
      refine h.leave hmem ?_ hleaves hjoins (leave?_step h hmem hstep)
      intro hreturned
      rw [hreturned] at hstep
      cases hstep
  | giveUp i =>
      obtain ⟨call, place, u, hcall, hstep, rfl⟩ := withLeave_eq_some hmove
      obtain ⟨hleaves, hjoins⟩ := giveUp?_calls hstep
      have hmem := List.mem_of_getElem? hcall
      refine h.leave hmem ?_ hleaves hjoins (giveUp?_step h hmem hstep)
      intro hreturned
      rw [hreturned] at hstep
      cases hstep
  | goOn k | read k chunk | seeCancelled k | notice k =>
      obtain ⟨loop, hloop, hstep⟩ := withLoop_eq_some hmove
      obtain ⟨events, htells⟩ := loopMove?_tells h.sane hloop hstep
      obtain ⟨hleaves, hjoins, hrecord⟩ := loopMove?_calls hstep
      refine h.tells htells (fun k hk => .inl (hrecord ▸ hk)) ?_ ?_
      · intro k hk
        rw [isCalling, hleaves, hjoins] at hk
        exact .inl hk
      · exact fun _ hcall => .inl (hleaves ▸ hcall)

theorem stands_start (kind : EngineKind) (d : UInt8) : (start kind d).Stands kind d where
  kind := rfl
  delimiter := rfl
  sane := {
    heard := nofun
    unborn := nofun
    unnoticed := nofun
    parted := by
      intro before k farewell after hlog
      simp [start] at hlog }
  record := nofun
  calling := nofun
  backs := nofun

/-! ### After the end -/

/-- **What may come behind.**  An end that a client is told of is the end of some connection.
If a call tells of it that has waited for the loop of the connection, or that loop itself, no
frame of the connection comes behind.  A pooled client is told by nobody else but the callback of
the connection, and then its loop reads nothing more, and no frame comes behind but those that it
had in hand, in order. -/
theorem quiet_after_end (kind : EngineKind) (d : UInt8) {moves : List LoopMove} {s : ReceiveLoops}
    (reached : play move? (start kind d) moves = some s) {before after : List LoopEvent}
    {connection : Option Nat} {farewell : Farewell}
    (hlog : s.log = before ++ .disconnected connection farewell :: after) :
    ∃ k, connection = some k ∧ (farewell.isLast = true → framesTold k after = []) ∧
      (kind = .pooledMulticast →
        (farewell.isLast = true ∨ farewell = .call (some k) false) ∧ chunksRead k after = [] ∧
          framesTold k after <+: inHand d k before) := by
  obtain ⟨k, rfl⟩ := end_is_named kind d reached
    (hlog ▸ List.mem_append_right before List.mem_cons_self)
  have hstands : s.Stands kind d :=
    play_induction (P := (Stands · kind d)) (fun _ _ _ h hmove => h.move hmove) moves
      (stands_start kind d) reached
  obtain rfl := hstands.kind
  obtain rfl := hstands.delimiter
  have hparted := hstands.sane.parted before k farewell after hlog
  refine ⟨k, rfl, fun hlast => (hparted.last hlast).2, fun hpooled => ⟨hparted.own hpooled, ?_⟩⟩
  obtain ⟨loop, -, -, -, hread, htold⟩ := hparted.pooled hpooled
  exact ⟨hread, loop.place.rest, htold⟩

/-- A client connects, the callback ends the connection on the first of two frames that were
read, and the loop goes on. -/
def hangUpRun (kind : EngineKind) : List LoopMove :=
  joinMoves kind ++ .read 0 [97, 10, 98, 10] :: .goOn 0 :: hangUpMoves kind 0 0 true
    ++ [.goOn 0, .goOn 0]

/-- What it is told. -/
def hangUpLog : List LoopEvent :=
  [.connected 0, .read 0 [97, 10, 98, 10], .frame 0 [97],
    .disconnected (some 0) (.call (some 0) false), .frame 0 [98]]

theorem play_hangUpRun (kind : EngineKind) :
    ∃ s, play move? (start kind 10) (hangUpRun kind) = some s ∧ s.log = hangUpLog := by
  cases kind <;> exact ⟨_, rfl, rfl⟩

theorem quiet_after_end_ownCallback :
    ∃ s, play move? (start .pooledMulticast 10) (hangUpRun .pooledMulticast) = some s ∧
      s.log = hangUpLog ∧ framesTold 0 [.frame 0 [98]] <+: inHand 10 0 (hangUpLog.take 3) := by
  obtain ⟨s, hplay, hlog⟩ := play_hangUpRun .pooledMulticast
  have hsplit : s.log = hangUpLog.take 3 ++
      .disconnected (some 0) (.call (some 0) false) :: [.frame 0 [98]] := hlog
  obtain ⟨k, hk, -, hpooled⟩ := quiet_after_end .pooledMulticast 10 hplay hsplit
  obtain rfl := Option.some.inj hk
  exact ⟨s, hplay, hlog, (hpooled rfl).2.2⟩

/-- Does no frame of a connection come behind its end, whoever tells of it? -/
def NoFrameAfterEnd (kind : EngineKind) : Prop :=
  ∀ (d : UInt8) (moves : List LoopMove) (s : ReceiveLoops),
    play move? (start kind d) moves = some s → ∀ before k farewell after,
      s.log = before ++ .disconnected (some k) farewell :: after → framesTold k after = []

/-- Frames come behind with each engine, since a callback that ends its connection cannot wait
for the loop that it is called by. -/
theorem frame_after_end :
    ¬NoFrameAfterEnd .pooledMulticast ∧ ¬NoFrameAfterEnd .multicast ∧
      ¬NoFrameAfterEnd .webSocket := by
  have hfails : ∀ kind, ¬NoFrameAfterEnd kind := by
    intro kind hquiet
    obtain ⟨s, hplay, hlog⟩ := play_hangUpRun kind
    have hnone := hquiet 10 _ s hplay (hangUpLog.take 3) 0 _ [.frame 0 [98]] hlog
    cases hnone
  exact ⟨hfails _, hfails _, hfails _⟩

end ReceiveLoops

end Interleaving

end Lifecast
