/-
Nothing slips through a server that stops.

A stop cancels its run before it empties the registry.  From the first of these steps on
every session of the run is closing, whenever it is made, so none of them takes a message;
from the second on none of them is a member either, since those who were are out and a
closing session is refused.  Other threads may come between at any point and may be late by
any number of runs.

What one move does to the sessions is said once for all moves (`Hub.Grows`): marks stay,
queues of closing sessions stay as they are, and whoever enters the registry is not closing.
The invariant of a run (`Orderly`) is then about numbers of runs only: what has been emptied
has been cancelled, and every run but the last has been emptied.
-/
import Lifecast.Interleaving.ServerRuns
import Lifecast.Proofs.Session.Closing

namespace Lifecast

namespace Hub

/-! ### What one move does to the sessions -/

/-- The sessions later on. -/
structure Grows (hub later : Hub) : Prop where
  runs : hub.cancelledRuns ⊆ later.cancelledRuns
  kept : ∀ (h : Handle) (s : Session), hub.sessions[h]? = some s →
    ∃ t, later.sessions[h]? = some t ∧ Session.Onward s t ∧
      (hub.isClosing s = true → t.queue = s.queue)
  made : ∀ (h : Handle) (t : Session), hub.sessions[h]? = none → later.sessions[h]? = some t →
    t.queue = #[]
  entered : ∀ h, later.isMember h = true →
    hub.isMember h = true ∨ ∃ s, hub.sessions[h]? = some s ∧ hub.isClosing s = false

/-- Where no session is made, it is enough to say what happens to each. -/
theorem grows_of_map {hub later : Hub} (runs : hub.cancelledRuns ⊆ later.cancelledRuns)
    (change : Handle → Session → Session)
    (sessions : ∀ h, later.sessions[h]? = hub.sessions[h]?.map (change h))
    (onward : ∀ h s, Session.Onward s (change h s))
    (queue : ∀ h s, hub.isClosing s = true → (change h s).queue = s.queue)
    (members : later.members ⊆ hub.members) : hub.Grows later := by
  refine ⟨runs, ?_, ?_, ?_⟩
  · intro h s hs
    exact ⟨change h s, by rw [sessions, hs]; rfl, onward h s, queue h s⟩
  · intro h t hnone ht
    rw [sessions, hnone] at ht
    cases ht
  · intro h hmem
    obtain ⟨m, hm, hhandle⟩ := List.any_eq_true.mp hmem
    exact Or.inl (List.any_eq_true.mpr ⟨m, members hm, hhandle⟩)

theorem Grows.refl (hub : Hub) : hub.Grows hub :=
  grows_of_map (List.Subset.refl _) (fun _ s => s) (by simp) (fun _ s => Session.Onward.refl s)
    (fun _ _ _ => rfl) (List.Subset.refl _)

/-- Taking members out is no business of the sessions. -/
theorem grows_members (hub : Hub) {members : List (Nat × Handle)} (h : members ⊆ hub.members) :
    hub.Grows { hub with members } :=
  grows_of_map (List.Subset.refl _) (fun _ s => s) (by simp) (fun _ s => Session.Onward.refl s)
    (fun _ _ _ => rfl) h

theorem grows_cancelRun (hub : Hub) (run : Nat) : hub.Grows (hub.cancelRun run) :=
  grows_of_map (List.subset_cons_self _ _) (fun _ s => s) (by simp [cancelRun])
    (fun _ s => Session.Onward.refl s) (fun _ _ _ => rfl) (List.Subset.refl _)

/-- What is done to one session is no change for the others. -/
theorem getElem?_if_map (hub : Hub) (i h : Handle) (step : Session → Session) :
    (if i = h then hub.sessions[h]?.map step else hub.sessions[h]?)
      = hub.sessions[h]?.map fun s => if i = h then step s else s := by
  by_cases heq : i = h
  · simp [heq]
  · simp [heq]

theorem grows_close (hub : Hub) (i : Handle) : hub.Grows (hub.close i) := by
  refine grows_of_map ?_ (fun h s => if i = h then s.closed else s) ?_ ?_ ?_ ?_
  · rw [(hub.frame_close i).1]
    exact List.Subset.refl _
  · exact fun h => (hub.getElem?_close i h).trans (hub.getElem?_if_map i h _)
  · intro h s
    show Session.Onward s (if i = h then s.closed else s)
    split
    · exact s.onward_closed
    · exact Session.Onward.refl s
  · intro h s _
    show (if i = h then s.closed else s).queue = s.queue
    split
    · exact s.closed_keeps.2.1
    · rfl
  · exact (hub.members_close_sublist i).subset

theorem grows_cancel (hub : Hub) (i : Handle) : hub.Grows (hub.cancel i) := by
  refine grows_of_map (List.Subset.refl _) (fun h s => if i = h then s.cancel else s) ?_ ?_ ?_
    (List.Subset.refl _)
  · exact fun h => (getElem?_update hub i h _).trans (hub.getElem?_if_map i h _)
  · intro h s
    show Session.Onward s (if i = h then s.cancel else s)
    split
    · exact s.onward_cancel
    · exact Session.Onward.refl s
  · intro h s _
    show (if i = h then s.cancel else s).queue = s.queue
    split
    · rfl
    · rfl

/-- A closing session takes no message. -/
theorem grows_send (hub : Hub) (i : Handle) (message : String) :
    hub.Grows (hub.send i message) := by
  refine grows_of_map ?_ (fun h s => if i = h then hub.offered message s else s) ?_ ?_ ?_ ?_
  · rw [(hub.frame_send i message).1]
    exact List.Subset.refl _
  · exact fun h => (hub.getElem?_send i h message).trans (hub.getElem?_if_map i h _)
  · intro h s
    show Session.Onward s (if i = h then hub.offered message s else s)
    split
    · exact hub.onward_offered message s
    · exact Session.Onward.refl s
  · intro h s hclosing
    show (if i = h then hub.offered message s else s).queue = s.queue
    split
    · rw [offered_eq, hclosing]
      rfl
    · rfl
  · rw [(hub.members_send i message).1]
    exact List.Subset.refl _

theorem grows_make (hub : Hub) (id : Nat) (remote : SocketAddress) (run : Nat) :
    hub.Grows (hub.make id remote run).2 := by
  have hpush : ∀ h, (hub.make id remote run).2.sessions[h]?
      = if h = hub.sessions.size then some { id, remote, run } else hub.sessions[h]? :=
    fun h => Array.getElem?_push
  refine ⟨List.Subset.refl _, ?_, ?_, fun h hmem => Or.inl hmem⟩
  · intro h s hs
    have hlt : h < hub.sessions.size := (Array.getElem?_eq_some_iff.mp hs).1
    refine ⟨s, ?_, Session.Onward.refl s, fun _ => rfl⟩
    rw [hpush, if_neg (Nat.ne_of_lt hlt), hs]
  · intro h t hnone ht
    rw [hpush] at ht
    by_cases hlast : h = hub.sessions.size
    · rw [if_pos hlast] at ht
      exact Option.some.inj ht ▸ rfl
    · rw [if_neg hlast, hnone] at ht
      cases ht

/-- Whoever is registered is not closing. -/
theorem grows_register (hub : Hub) (i : Handle) : hub.Grows (hub.register i).2 := by
  cases hs : hub.sessions[i]? with
  | none =>
      rw [show hub.register i = (false, hub) by rw [register, hs]]
      exact Grows.refl hub
  | some s =>
      cases hclosing : hub.isClosing s with
      | true =>
          rw [show hub.register i = (false, hub) by rw [register, hs]; exact if_pos hclosing]
          exact Grows.refl hub
      | false =>
          have hin : hub.register i
              = (true, { hub with members := (s.id, i) :: without hub.members s.id }) := by
            rw [register, hs]
            exact if_neg (by simp [hclosing])
          rw [hin]
          have hout : hub.Grows { hub with members := without hub.members s.id } :=
            hub.grows_members List.filter_sublist.subset
          refine ⟨hout.runs, hout.kept, hout.made, ?_⟩
          intro h hmem
          rcases Bool.or_eq_true_iff.mp hmem with hself | hold
          · obtain rfl : i = h := of_decide_eq_true hself
            exact Or.inr ⟨s, hs, hclosing⟩
          · exact hout.entered h hold

end Hub

namespace Interleaving

/-- Does the registry of the last run have yet to be emptied? -/
def Stage.isFull : Stage → Bool
  | running | cancelled => true
  | stopped | closing _ => false

namespace ServerRuns

/-! ### Every move -/

/-- A move that lets the sessions go on and leaves the numbers of the runs alone. -/
structure Mild (s : ServerRuns) (m : ServerMove) (t : ServerRuns) : Prop where
  grows : s.hub.Grows t.hub
  runs : t.runs = s.runs
  drained : t.drained = s.drained
  stage : t.stage = s.stage ∨ s.stage.isFull = false ∧ t.stage.isFull = false
  members : (∃ h, m = .register h) ∨ t.hub.members ⊆ s.hub.members

/-- A run begins, is cancelled or is emptied; all other moves are mild. -/
theorem move_cases {s t : ServerRuns} {m : ServerMove} (moved : s.move? m = some t) :
    (s.stage = .stopped ∧ t = { s with stage := .running, runs := s.runs + 1 }) ∨
    (s.stage = .running ∧
      t = { s with stage := .cancelled, hub := s.hub.cancelRun s.lastRun }) ∨
    (∃ order, s.stage = .cancelled ∧
      t = { s with
        stage := .closing order
        hub := { s.hub with members := [] }
        drained := s.lastRun :: s.drained }) ∨
    s.Mild m t := by
  cases m with
  | start =>
      obtain ⟨hstage, hafter⟩ := Option.ite_none_right_eq_some.mp moved
      obtain rfl := Option.some.inj hafter
      exact Or.inl ⟨hstage, rfl⟩
  | cancelRun =>
      obtain ⟨hstage, hafter⟩ := Option.ite_none_right_eq_some.mp moved
      obtain rfl := Option.some.inj hafter
      exact Or.inr (Or.inl ⟨hstage, rfl⟩)
  | drain order =>
      obtain ⟨⟨hstage, -⟩, hafter⟩ := Option.ite_none_right_eq_some.mp moved
      obtain rfl := Option.some.inj hafter
      exact Or.inr (Or.inr (Or.inl ⟨order, hstage, rfl⟩))
  | stopped =>
      obtain ⟨hstage, hafter⟩ := Option.ite_none_right_eq_some.mp moved
      obtain rfl := Option.some.inj hafter
      have hdone : s.stage.isFull = false := by
        rw [hstage]
        rfl
      exact Or.inr (Or.inr (Or.inr ⟨Hub.Grows.refl _, rfl, rfl, Or.inr ⟨hdone, rfl⟩,
        Or.inr (List.Subset.refl _)⟩))
  | closeNext =>
      simp only [move?] at moved
      split at moved
      · next h rest hstage =>
          obtain rfl := Option.some.inj moved
          have hdone : s.stage.isFull = false := by
            rw [hstage]
            rfl
          exact Or.inr (Or.inr (Or.inr ⟨s.hub.grows_close h, rfl, rfl, Or.inr ⟨hdone, rfl⟩,
            Or.inr (s.hub.members_close_sublist h).subset⟩))
      · cases moved
  | accept run remote =>
      obtain ⟨-, hafter⟩ := Option.ite_none_right_eq_some.mp moved
      obtain rfl := Option.some.inj hafter
      have hmade := Hub.grows_make { s.hub with lastId := s.hub.lastId + 1 } (s.hub.lastId + 1)
        remote run
      exact Or.inr (Or.inr (Or.inr ⟨⟨hmade.runs, hmade.kept, hmade.made, hmade.entered⟩, rfl, rfl,
        Or.inl rfl, Or.inr (List.Subset.refl _)⟩))
  | register h =>
      obtain rfl := Option.some.inj moved
      exact Or.inr (Or.inr (Or.inr ⟨s.hub.grows_register h, rfl, rfl, Or.inl rfl,
        Or.inl ⟨h, rfl⟩⟩))
  | close h =>
      obtain rfl := Option.some.inj moved
      exact Or.inr (Or.inr (Or.inr ⟨s.hub.grows_close h, rfl, rfl, Or.inl rfl,
        Or.inr (s.hub.members_close_sublist h).subset⟩))
  | remove id =>
      obtain rfl := Option.some.inj moved
      have hsub : Hub.without s.hub.members id ⊆ s.hub.members := List.filter_sublist.subset
      exact Or.inr (Or.inr (Or.inr ⟨s.hub.grows_members hsub, rfl, rfl, Or.inl rfl, Or.inr hsub⟩))
  | cancel h =>
      obtain rfl := Option.some.inj moved
      exact Or.inr (Or.inr (Or.inr ⟨s.hub.grows_cancel h, rfl, rfl, Or.inl rfl,
        Or.inr (List.Subset.refl _)⟩))
  | broadcast message order =>
      obtain ⟨-, hafter⟩ := Option.ite_none_right_eq_some.mp moved
      obtain rfl := Option.some.inj hafter
      exact Or.inr (Or.inr (Or.inr ⟨Hub.Grows.refl _, rfl, rfl, Or.inl rfl,
        Or.inr (List.Subset.refl _)⟩))
  | sendNext i =>
      simp only [move?] at moved
      split at moved
      · next message h rest _ =>
          obtain rfl := Option.some.inj moved
          exact Or.inr (Or.inr (Or.inr ⟨s.hub.grows_send h message, rfl, rfl, Or.inl rfl,
            Or.inr ((s.hub.members_send h message).1 ▸ List.Subset.refl _)⟩))
      · cases moved

theorem grows_move {s t : ServerRuns} {m : ServerMove} (moved : s.move? m = some t) :
    s.hub.Grows t.hub := by
  rcases move_cases moved with ⟨-, rfl⟩ | ⟨-, rfl⟩ | ⟨-, -, rfl⟩ | hmild
  · exact Hub.Grows.refl _
  · exact s.hub.grows_cancelRun s.lastRun
  · exact s.hub.grows_members (List.nil_subset _)
  · exact hmild.grows

/-- Runs that have been emptied stay so. -/
theorem drained_move {s t : ServerRuns} {m : ServerMove} (moved : s.move? m = some t) :
    s.drained ⊆ t.drained := by
  rcases move_cases moved with ⟨-, rfl⟩ | ⟨-, rfl⟩ | ⟨-, -, rfl⟩ | hmild
  · exact List.Subset.refl _
  · exact List.Subset.refl _
  · exact List.subset_cons_self _ _
  · exact hmild.drained ▸ List.Subset.refl _

/-! ### Numbers of runs -/

/-- What has been emptied has been cancelled, all runs but the last have been emptied, and
members are of runs that have not. -/
structure Orderly (s : ServerRuns) : Prop where
  drained_cancelled : s.drained ⊆ s.hub.cancelledRuns
  last_cancelled : s.stage = .cancelled → s.lastRun ∈ s.hub.cancelledRuns
  all_drained : ∀ run < s.runs, run ∈ s.drained ∨ run = s.lastRun ∧ s.stage.isFull = true
  members_undrained : ∀ h, s.hub.isMember h = true →
    ∃ x, s.hub.sessions[h]? = some x ∧ x.run ∉ s.drained

theorem orderly_empty : Orderly {} :=
  ⟨List.nil_subset _, by simp, by simp, by simp [Hub.isMember]⟩

/-- Whoever is not closing is of a run that has not been emptied. -/
theorem Orderly.run_not_mem {s : ServerRuns} (horderly : s.Orderly) {x : Session}
    (hopen : s.hub.isClosing x = false) : x.run ∉ s.drained := by
  intro hdrained
  have hcancelled : s.hub.cancelledRuns.contains x.run = true :=
    List.contains_iff_mem.mpr (horderly.drained_cancelled hdrained)
  simp [Hub.isClosing, Hub.isCancelled] at hopen
  exact hopen.2.2 (List.contains_iff_mem.mp hcancelled)

theorem orderly_move {s t : ServerRuns} {m : ServerMove} (horderly : s.Orderly)
    (moved : s.move? m = some t) : t.Orderly := by
  rcases move_cases moved with
    ⟨hstage, rfl⟩ | ⟨hstage, rfl⟩ | ⟨-, hstage, rfl⟩ | ⟨hgrows, hruns, hdrained, hstages, -⟩
  · refine ⟨horderly.drained_cancelled, by simp, ?_, horderly.members_undrained⟩
    intro run hrun
    rcases Nat.lt_succ_iff_lt_or_eq.mp hrun with hlt | rfl
    · left
      rcases horderly.all_drained run hlt with hdone | ⟨-, hfull⟩
      · exact hdone
      · rw [hstage] at hfull
        cases hfull
    · exact Or.inr ⟨rfl, rfl⟩
  · refine ⟨?_, fun _ => List.mem_cons_self, ?_, horderly.members_undrained⟩
    · exact List.Subset.trans horderly.drained_cancelled (List.subset_cons_self _ _)
    · intro run hrun
      rcases horderly.all_drained run hrun with hdone | ⟨hlast, -⟩
      · exact Or.inl hdone
      · exact Or.inr ⟨hlast, rfl⟩
  · refine ⟨?_, by simp, ?_, by simp [Hub.isMember]⟩
    · exact List.cons_subset.mpr ⟨horderly.last_cancelled hstage, horderly.drained_cancelled⟩
    · intro run hrun
      left
      rcases horderly.all_drained run hrun with hdone | ⟨rfl, -⟩
      · exact List.mem_cons_of_mem _ hdone
      · exact List.mem_cons_self
  · have hlast : t.lastRun = s.lastRun := congrArg (· - 1) hruns
    constructor
    · rw [hdrained]
      exact List.Subset.trans horderly.drained_cancelled hgrows.runs
    · intro hcancelled
      rcases hstages with hsame | ⟨-, hnot⟩
      · rw [hlast]
        exact hgrows.runs (horderly.last_cancelled (hsame ▸ hcancelled))
      · rw [hcancelled] at hnot
        cases hnot
    · intro run hrun
      rw [hdrained, hlast]
      rcases horderly.all_drained run (hruns ▸ hrun) with hdone | ⟨heq, hfull⟩
      · exact Or.inl hdone
      · rcases hstages with hsame | ⟨hnot, -⟩
        · exact Or.inr ⟨heq, hsame ▸ hfull⟩
        · rw [hfull] at hnot
          cases hnot
    · intro h hmem
      rw [hdrained]
      have hbefore : ∃ x, s.hub.sessions[h]? = some x ∧ x.run ∉ s.drained := by
        rcases hgrows.entered h hmem with hold | ⟨x, hx, hopen⟩
        · exact horderly.members_undrained h hold
        · exact ⟨x, hx, horderly.run_not_mem hopen⟩
      obtain ⟨x, hx, hout⟩ := hbefore
      obtain ⟨y, hy, honward, -⟩ := hgrows.kept h x hx
      exact ⟨y, hy, honward.run ▸ hout⟩

theorem orderly_play {moves : List ServerMove} {s : ServerRuns}
    (played : play move? {} moves = some s) : s.Orderly :=
  play_induction (fun _ _ _ horderly moved => orderly_move horderly moved) moves orderly_empty
    played

theorem drained_play {moves : List ServerMove} {s t : ServerRuns}
    (played : play move? s moves = some t) : s.drained ⊆ t.drained :=
  play_induction (P := fun u => s.drained ⊆ u.drained)
    (fun _ _ _ hsub moved => List.Subset.trans hsub (drained_move moved)) moves
    (List.Subset.refl _) played

/-! ### Queues of a cancelled run -/

/-- No move changes the queue of a session of a cancelled run, nor gives it one to begin
with. -/
theorem queueOf_move {s t : ServerRuns} {m : ServerMove} (moved : s.move? m = some t) {run : Nat}
    (hcancelled : run ∈ s.hub.cancelledRuns) {h : Handle}
    (hrun : ∀ x, s.hub.sessions[h]? = some x → x.run = run) :
    t.hub.queueOf h = s.hub.queueOf h := by
  have hgrows := grows_move moved
  cases hs : s.hub.sessions[h]? with
  | none =>
      cases ht : t.hub.sessions[h]? with
      | none => simp [Hub.queueOf, hs, ht]
      | some y => simp [Hub.queueOf, hs, ht, hgrows.made h y hs ht]
  | some x =>
      have hclosing : s.hub.isClosing x = true := by
        simp [Hub.isClosing, Hub.isCancelled, hrun x hs, hcancelled]
      obtain ⟨y, hy, -, hqueue⟩ := hgrows.kept h x hs
      rw [Hub.queueOf_of_some hy, Hub.queueOf_of_some hs, hqueue hclosing]

theorem queueOf_play {moves : List ServerMove} {s t : ServerRuns}
    (played : play move? s moves = some t) {run : Nat} (hcancelled : run ∈ s.hub.cancelledRuns)
    {h : Handle} (hrun : ∀ x, t.hub.sessions[h]? = some x → x.run = run) :
    t.hub.queueOf h = s.hub.queueOf h := by
  refine (play_induction (P := fun u => run ∈ u.hub.cancelledRuns ∧
    ((∀ x, u.hub.sessions[h]? = some x → x.run = run) → u.hub.queueOf h = s.hub.queueOf h))
    ?_ moves ⟨hcancelled, fun _ => rfl⟩ played).2 hrun
  rintro u m v ⟨hmem, hsame⟩ moved
  have hgrows := grows_move moved
  refine ⟨hgrows.runs hmem, ?_⟩
  intro hv
  have hu : ∀ x, u.hub.sessions[h]? = some x → x.run = run := by
    intro x hx
    obtain ⟨y, hy, honward, -⟩ := hgrows.kept h x hx
    exact honward.run.symm.trans (hv y hy)
  exact (queueOf_move moved hmem hu).trans (hsame hu)

/-! ### The registry between two runs -/

/-- Does a session of a later run become a member by the move? -/
def joins (run : Nat) (s : ServerRuns) : ServerMove → Bool
  | .register h => (s.hub.register h).1 && s.hub.sessions[h]?.any (run < ·.run)
  | _ => false

/-- Does a session of a later run become a member during the moves? -/
def letsIn (run : Nat) (s : ServerRuns) : List ServerMove → Bool
  | [] => false
  | m :: rest =>
    s.joins run m ||
      match s.move? m with
      | none => false
      | some t => letsIn run t rest

/-- Once a run and all before it have been emptied, only a session of a later run gets
in. -/
theorem members_move {s t : ServerRuns} {m : ServerMove} (horderly : s.Orderly)
    (moved : s.move? m = some t) {run : Nat} (hdone : ∀ r ≤ run, r ∈ s.drained)
    (hempty : s.hub.members = []) (hnobody : s.joins run m = false) : t.hub.members = [] := by
  rcases move_cases moved with ⟨-, rfl⟩ | ⟨-, rfl⟩ | ⟨-, -, rfl⟩ | hmild
  · exact hempty
  · exact hempty
  · rfl
  · rcases hmild.members with ⟨h, rfl⟩ | hsub
    · obtain rfl := Option.some.inj moved
      show (s.hub.register h).2.members = []
      rw [Hub.members_register]
      cases hs : s.hub.sessions[h]? with
      | none => exact hempty
      | some x =>
          cases hclosing : s.hub.isClosing x with
          | true => simpa [hclosing] using hempty
          | false =>
              have hlater : run < x.run :=
                Nat.lt_of_not_le fun hle => horderly.run_not_mem hclosing (hdone x.run hle)
              simp [joins, Hub.register, hs, hclosing, hlater] at hnobody
    · rw [hempty] at hsub
      exact List.subset_nil.mp hsub

theorem members_play {later : List ServerMove} {s t : ServerRuns} (horderly : s.Orderly)
    (played : play move? s later = some t) {run : Nat} (hdone : ∀ r ≤ run, r ∈ s.drained)
    (hempty : s.hub.members = []) (hnobody : s.letsIn run later = false) :
    t.hub.members = [] := by
  induction later generalizing s with
  | nil =>
      obtain rfl := Option.some.inj played
      exact hempty
  | cons m rest ih =>
      cases moved : s.move? m with
      | none => simp [play, moved] at played
      | some u =>
          simp only [play, moved] at played
          simp only [letsIn, moved, Bool.or_eq_false_iff] at hnobody
          have hkept : ∀ r ≤ run, r ∈ u.drained := fun r hr => drained_move moved (hdone r hr)
          exact ih (orderly_move horderly moved) played hkept
            (members_move horderly moved hdone hempty hnobody.1) hnobody.2

/-! ### Whole stops -/

/--
**Nothing slips through a server that stops.**  From the step that empties the registry on,
every session of the run is closing, none is a member and none is let in any more, and until
a session of a later run becomes a member there is none at all.  From the step that cancels
the run on, the queue of none of its sessions changes.
-/
theorem stopped_run_stays_out {before later : List ServerMove} {s t u : ServerRuns}
    (played : play move? {} before = some s) (after : play move? t later = some u) :
    (∀ order, s.move? (.drain order) = some t →
      (∀ (h : Handle) (x : Session), u.hub.sessions[h]? = some x → x.run = s.lastRun →
        u.hub.isMember h = false ∧ (u.hub.register h).1 = false ∧ u.hub.isClosing x = true) ∧
      (t.letsIn s.lastRun later = false → u.hub.members = [])) ∧
    (s.move? .cancelRun = some t →
      ∀ (h : Handle) (x : Session), u.hub.sessions[h]? = some x → x.run = s.lastRun →
        x.queue.toList = t.hub.queueOf h) := by
  have hbefore : s.Orderly := orderly_play played
  refine ⟨?_, ?_⟩
  · intro order drained
    have hstart : t.Orderly := orderly_move hbefore drained
    have hend : u.Orderly :=
      play_induction (fun _ _ _ horderly moved => orderly_move horderly moved) later hstart after
    obtain ⟨-, hafter⟩ := Option.ite_none_right_eq_some.mp drained
    obtain rfl := Option.some.inj hafter
    have hsub := drained_play after
    refine ⟨?_, ?_⟩
    · intro h x hx hrun
      have hdone : x.run ∈ u.drained := hrun ▸ hsub List.mem_cons_self
      have hclosing : u.hub.isClosing x = true := by
        by_contra hopen
        exact hend.run_not_mem (Bool.eq_false_iff.mpr hopen) hdone
      refine ⟨?_, ?_, hclosing⟩
      · rw [Bool.eq_false_iff]
        intro hmem
        obtain ⟨y, hy, hout⟩ := hend.members_undrained h hmem
        obtain rfl : x = y := Option.some.inj (hx.symm.trans hy)
        exact hout hdone
      · simp [Hub.register, hx, hclosing]
    · refine members_play hstart after ?_ rfl
      intro r hr
      rcases Nat.lt_or_eq_of_le hr with hlt | rfl
      · rcases hbefore.all_drained r (by simp only [lastRun] at hlt; omega) with hdone | ⟨heq, -⟩
        · exact List.mem_cons_of_mem _ hdone
        · exact heq ▸ List.mem_cons_self
      · exact List.mem_cons_self
  · intro cancelled h x hx hrun
    obtain ⟨-, hafter⟩ := Option.ite_none_right_eq_some.mp cancelled
    obtain rfl := Option.some.inj hafter
    rw [← Hub.queueOf_of_some hx]
    refine queueOf_play after List.mem_cons_self ?_
    intro y hy
    obtain rfl : x = y := Option.some.inj (hx.symm.trans hy)
    exact hrun

/-- Where some moves lead. -/
def reached (moves : List ServerMove) : ServerRuns :=
  (play move? {} moves).getD {}

/-- A run with a member, another session and a broadcast on its way. -/
def oneMember : List ServerMove :=
  let here := SocketAddress.v4 .unspecified 0
  [.start, .accept 0 here, .accept 0 here, .register 0, .broadcast "a" [0]]

/-- The other session registers late, the broadcast goes on, the next run begins, and the
session tries again. -/
def lateComer : List ServerMove :=
  let here := SocketAddress.v4 .unspecified 0
  [.register 1, .sendNext 0, .closeNext, .stopped, .start, .register 1, .accept 1 here]

theorem stopped_run_stays_out_lateComer :
    (reached (oneMember ++ .cancelRun :: .drain [0] :: lateComer)).hub.isMember 1 = false ∧
      (reached (oneMember ++ .cancelRun :: .drain [0] :: lateComer)).hub.members = [] ∧
      (reached (oneMember ++ [.cancelRun])).hub.queueOf 0 = [] := by
  have hbefore : play move? {} oneMember = some (reached oneMember) := by cbv
  have hcancel : (reached oneMember).move? .cancelRun
      = some (reached (oneMember ++ [.cancelRun])) := by cbv
  have hcancelled : play move? {} (oneMember ++ [.cancelRun])
      = some (reached (oneMember ++ [.cancelRun])) := by cbv
  have hdrain : (reached (oneMember ++ [.cancelRun])).move? (.drain [0])
      = some (reached (oneMember ++ [.cancelRun, .drain [0]])) := by cbv
  have hall : play move? (reached (oneMember ++ [.cancelRun])) (.drain [0] :: lateComer)
      = some (reached (oneMember ++ .cancelRun :: .drain [0] :: lateComer)) := by cbv
  have hlater : play move? (reached (oneMember ++ [.cancelRun, .drain [0]])) lateComer
      = some (reached (oneMember ++ .cancelRun :: .drain [0] :: lateComer)) := by cbv
  have hmember : (reached (oneMember ++ .cancelRun :: .drain [0] :: lateComer)).hub.sessions[0]?
      = some {
          id := 1, remote := .v4 .unspecified 0, run := 0
          state := .closing, latched := true, cancelled := true } := by cbv
  have hother : (reached (oneMember ++ .cancelRun :: .drain [0] :: lateComer)).hub.sessions[1]?
      = some { id := 2, remote := .v4 .unspecified 0, run := 0 } := by cbv
  have hrun : (reached oneMember).lastRun = 0 ∧
      (reached (oneMember ++ [.cancelRun])).lastRun = 0 := by cbv
  have hnobody : (reached (oneMember ++ [.cancelRun, .drain [0]])).letsIn 0 lateComer = false := by
    cbv
  obtain ⟨hout, hempty⟩ := (stopped_run_stays_out hcancelled hlater).1 [0] hdrain
  have hqueue := (stopped_run_stays_out hbefore hall).2 hcancel 0 _ hmember hrun.1.symm
  rw [hrun.2] at hout hempty
  exact ⟨(hout 1 _ hother rfl).1, hempty hnobody, hqueue.symm⟩

end ServerRuns

end Interleaving

end Lifecast
