/-
A server is stopped or running, and a start that fails has never been.

Between two calls a server is stopped without a record or running with one (`Service.Settled`).  A
start that is refused, by the address or by whatever it needs of the system, gives back a server
that is the one before, so that nothing later can tell whether the call was made (`Traceless`).

A stopped server has no session.  Sessions may be late to register, by any number of runs, but each
belongs to the run that made it, and is refused if that run has been cancelled.  So as long as
every session is of a cancelled run or of the one that is on, and only the one that is on lets
sessions in (`Hub.Housed`), the registry is empty while none is on.
-/
import Lifecast.Engine.ServerCall
import Lifecast.Proofs.Session.Closing

namespace Lifecast

namespace Hub

/-! ### Sessions and the run that is on -/

/-- Every session is of a cancelled run or of the one that is on, and there are members only
while one is. -/
structure Housed (hub : Hub) (run : Option Nat) : Prop where
  runs : ∀ (h : Handle) (x : Session), hub.sessions[h]? = some x →
    x.run ∈ hub.cancelledRuns ∨ run = some x.run
  members : hub.members = [] ∨ run.isSome = true

variable {hub later : Hub} {run : Option Nat}

/-- Where no session is made or registered, it is enough that none changes its run. -/
theorem Housed.of_map (hh : hub.Housed run) (change : Handle → Session → Session)
    (hruns : later.cancelledRuns = hub.cancelledRuns)
    (hsessions : ∀ h, later.sessions[h]? = hub.sessions[h]?.map (change h))
    (hrun : ∀ h x, (change h x).run = x.run) (hmembers : later.members ⊆ hub.members) :
    later.Housed run := by
  refine ⟨?_, ?_⟩
  · intro h y hy
    rw [hsessions, Option.map_eq_some_iff] at hy
    obtain ⟨x, hx, rfl⟩ := hy
    rw [hruns, hrun]
    exact hh.runs h x hx
  · refine hh.members.imp_left fun hnone => ?_
    rw [hnone] at hmembers
    exact List.subset_nil.mp hmembers

theorem Housed.update (hh : hub.Housed run) (h : Handle) {step : Session → Session}
    (hrun : ∀ x, (step x).run = x.run) : (hub.update h step).Housed run := by
  refine hh.of_map (fun i x => if h = i then step x else x) rfl ?_ ?_ (List.Subset.refl _)
  · intro i
    rw [getElem?_update]
    by_cases heq : h = i <;> simp [heq]
  · intro i x
    show (if h = i then step x else x).run = x.run
    split
    · exact hrun x
    · rfl

theorem Housed.close (hh : hub.Housed run) (h : Handle) : (hub.close h).Housed run := by
  refine hh.of_map (fun i x => if h = i then x.closed else x) (hub.frame_close h).1 ?_ ?_
    (hub.members_close_sublist h).subset
  · intro i
    rw [getElem?_close]
    by_cases heq : h = i <;> simp [heq]
  · intro i x
    show (if h = i then x.closed else x).run = x.run
    split
    · exact x.onward_closed.run
    · rfl

theorem Housed.closeEach (hh : hub.Housed run) (hs : List Handle) :
    (hub.closeEach hs).Housed run := by
  induction hs generalizing hub with
  | nil => exact hh
  | cons h rest ih => exact ih (hh.close h)

theorem Housed.send (hh : hub.Housed run) (h : Handle) (message : String) :
    (hub.send h message).Housed run := by
  refine hh.of_map (fun i x => if h = i then hub.offered message x else x)
    (hub.frame_send h message).1 ?_ ?_ (fun m hm => (hub.members_send h message).1 ▸ hm)
  · intro i
    rw [getElem?_send]
    by_cases heq : h = i <;> simp [heq]
  · intro i x
    show (if h = i then hub.offered message x else x).run = x.run
    split
    · exact (hub.onward_offered message x).run
    · rfl

theorem Housed.sendAll (hh : hub.Housed run) (hs : List Handle) (message : String) :
    (hub.sendAll hs message).Housed run := by
  induction hs generalizing hub with
  | nil => exact hh
  | cons h rest ih => exact ih (hh.send h message)

/-- Whoever is let in is of the run that is on. -/
theorem Housed.register (hh : hub.Housed run) (h : Handle) : (hub.register h).2.Housed run := by
  cases hx : hub.sessions[h]? with
  | none =>
      have hrefused : hub.register h = (false, hub) := by rw [Hub.register, hx]
      rwa [hrefused]
  | some x =>
      cases hclosing : hub.isClosing x with
      | true =>
          have hrefused : hub.register h = (false, hub) := by
            rw [Hub.register, hx]
            exact if_pos hclosing
          rwa [hrefused]
      | false =>
          have hlive : x.run ∉ hub.cancelledRuns := by
            rw [isClosing, Bool.or_eq_false_iff, isCancelled, Bool.or_eq_false_iff] at hclosing
            simpa using hclosing.2.2
          have hrun := (hh.runs h x hx).resolve_left hlive
          have hlet : hub.register h
              = (true, { hub with members := (x.id, h) :: without hub.members x.id }) := by
            rw [Hub.register, hx]
            exact if_neg (by simp [hclosing])
          rw [hlet]
          exact ⟨hh.runs, Or.inr (by rw [hrun]; rfl)⟩

/-- A session is made for the run that is on. -/
theorem Housed.make {number : Nat} (hh : hub.Housed (some number)) (id : Nat)
    (remote : SocketAddress) : (hub.make id remote number).2.Housed (some number) := by
  refine ⟨?_, Or.inr rfl⟩
  intro h y hy
  have hpush : (hub.make id remote number).2.sessions[h]?
      = if h = hub.sessions.size then some { id, remote, run := number } else hub.sessions[h]? :=
    Array.getElem?_push
  rw [hpush] at hy
  split at hy
  · obtain rfl := Option.some.inj hy
    exact Or.inr rfl
  · exact hh.runs h y hy

/-- When a run has been cancelled and all members closed, none is on and nobody is in. -/
theorem Housed.stop {number : Nat} (hh : hub.Housed (some number)) :
    ((hub.cancelRun number).closeAll).2.Housed none ∧
      ((hub.cancelRun number).closeAll).2.members = [] := by
  have hdrained : (hub.cancelRun number).drain.2.Housed none := by
    refine ⟨?_, Or.inl rfl⟩
    intro h x hx
    rcases hh.runs h x hx with hold | hon
    · exact Or.inl (List.mem_cons_of_mem number hold)
    · exact Or.inl (Option.some.inj hon ▸ List.mem_cons_self)
  have hclosed := hdrained.closeEach (hub.cancelRun number).drain.1
  exact ⟨hclosed, hclosed.members.resolve_right nofun⟩

end Hub

namespace Server

/-! ### What each call keeps -/

/-- The number of the run that is on, if the server listens. -/
def listeningRun (s : Server) : Option Nat :=
  match s.service.running with
  | some (.listener number _) => some number
  | _ => none

/-- How a server stands between two calls. -/
structure Sound (s : Server) : Prop where
  settled : s.service.Settled
  housed : s.hub.Housed s.listeningRun

variable {s : Server}

/-- What a broadcast and a connection go through is the record. -/
theorem running_of_current {run : Run} (hcurrent : s.service.current = some run) :
    s.service.state = .running ∧ s.service.running = some run := by
  unfold Service.current Service.isRunning at hcurrent
  split at hcurrent
  · next hrunning => exact ⟨by simpa using hrunning, hcurrent⟩
  · cases hcurrent

/-- A running server refuses to start and stays as it is. -/
theorem startWith_of_running (hstate : s.service.state = .running)
    (launched : Except EngineError Run) : s.startWith launched = (.error .alreadyRunning, s) := by
  simp [startWith, Service.start, Phase.exchange, hstate]

/-- A stopped server whose set-up fails stays as it is. -/
theorem startWith_of_refused (hstate : s.service.state = .stopped) (e : EngineError) :
    s.startWith (.error e) = (.error e, s) := by
  obtain ⟨kind, ⟨state, running⟩, hub, starts⟩ := s
  obtain rfl : state = .stopped := hstate
  rfl

/-- A stopped server whose set-up succeeds runs. -/
theorem startWith_of_launched (hstate : s.service.state = .stopped) (run : Run) :
    s.startWith (.ok run) = (.ok (), { s with
      service := { state := .running, running := some run }, starts := s.starts + 1 }) := by
  simp [startWith, Service.start, Phase.exchange, hstate]

/-- What a start makes of the lifecycle, it makes of the server. -/
theorem service_startWith (s : Server) (launched : Except EngineError Run) :
    (s.startWith launched).2.service = (s.service.start launched).2 := by
  unfold startWith
  cases s.service.start launched with
  | mk result service => cases result <;> rfl

theorem sound_start (hs : s.Sound) (launched : Except EngineError Run) :
    (s.startWith launched).2.Sound := by
  refine ⟨?_, ?_⟩
  · rw [service_startWith]
    exact Service.settled_start hs.settled launched
  · have hhoused := hs.housed
    rcases hs.settled with ⟨hstate, hrunning⟩ | ⟨hstate, -⟩
    · cases launched with
      | error e => rwa [startWith_of_refused hstate]
      | ok run =>
          rw [listeningRun, hrunning] at hhoused
          rw [startWith_of_launched hstate]
          refine ⟨?_, Or.inl (hhoused.members.resolve_right nofun)⟩
          intro h x hx
          exact Or.inl ((hhoused.runs h x hx).resolve_right nofun)
    · rwa [startWith_of_running hstate]

/-- A server that is not running is not changed by a stop. -/
theorem stop_of_stopped (hstate : s.service.state = .stopped) : s.stop = s := by
  simp [stop, Service.stop, Phase.exchange, hstate]

/-- What a stop makes of the lifecycle, it makes of the server. -/
theorem service_stop (s : Server) : s.stop.service = s.service.stop.2 := by
  unfold stop
  cases s.service.stop with
  | mk run service =>
      cases run with
      | none => rfl
      | some run => cases run <;> rfl

/-- A stop leaves no record and no member. -/
theorem sound_stop (hs : s.Sound) :
    s.stop.Sound ∧ s.stop.service.state = .stopped ∧ s.stop.service.running = none ∧
      s.stop.hub.members = [] := by
  have hsettled : s.stop.service.Settled := by
    rw [service_stop]
    exact Service.settled_stop hs.settled
  have hhoused := hs.housed
  rcases hs.settled with ⟨hstate, hrunning⟩ | ⟨hstate, hrunning⟩
  · rw [listeningRun, hrunning] at hhoused
    rw [stop_of_stopped hstate]
    exact ⟨hs, hstate, hrunning, hhoused.members.resolve_right (by simp)⟩
  · obtain ⟨run, hrun⟩ := Option.isSome_iff_exists.mp hrunning
    rw [listeningRun, hrun] at hhoused
    cases run with
    | sender group pool =>
        have hstop : s.stop = { s with service := { state := .stopped, running := none } } := by
          simp [stop, Service.stop, Phase.exchange, hstate, hrun]
        rw [hstop] at hsettled ⊢
        exact ⟨⟨hsettled, hhoused⟩, rfl, rfl, hhoused.members.resolve_right (by simp)⟩
    | listener number address =>
        have hstop : s.stop = { s with
            service := { state := .stopped, running := none }
            hub := (s.hub.cancelRun number).closeAll.2 } := by
          simp [stop, Service.stop, Phase.exchange, hstate, hrun]
        obtain ⟨hclosed, hnone⟩ := hhoused.stop
        rw [hstop] at hsettled ⊢
        exact ⟨⟨hsettled, hclosed⟩, rfl, rfl, hnone⟩

/-- A server that is not running broadcasts nothing and stays as it is. -/
theorem broadcast_of_stopped (hstate : s.service.state = .stopped) (data : Bytes) :
    s.broadcast data = ([], s) := by
  simp [broadcast, Service.current, Service.isRunning, hstate]

theorem sound_broadcast (hs : s.Sound) (data : Bytes) : (s.broadcast data).2.Sound := by
  unfold broadcast
  split
  · exact hs
  · next group pool hcurrent =>
      obtain ⟨hstate, hrunning⟩ := running_of_current hcurrent
      have hhoused := hs.housed
      rw [listeningRun, hrunning] at hhoused
      exact ⟨Or.inr ⟨hstate, rfl⟩, hhoused⟩
  · exact ⟨hs.settled, hs.housed.sendAll _ _⟩

theorem sound_connect (hs : s.Sound) (remote : SocketAddress) : (s.connect remote).2.Sound := by
  unfold connect
  split
  · next number address hcurrent =>
      obtain ⟨-, hrunning⟩ := running_of_current hcurrent
      have hrun : s.listeningRun = some number := by rw [listeningRun, hrunning]
      have hhoused := hs.housed
      rw [hrun] at hhoused
      have hcounted : s.hub.nextId.2.Housed (some number) := ⟨hhoused.runs, hhoused.members⟩
      refine ⟨hs.settled, ?_⟩
      show Hub.Housed _ s.listeningRun
      rw [hrun]
      exact hcounted.make _ remote
  · exact hs

theorem sound_openSession (hs : s.Sound) (h : Handle) : (s.openSession h).2.Sound := by
  have hopened : ((s.hub.register h).2.update h fun x => x.openUp.2).Housed s.listeningRun :=
    (hs.housed.register h).update h fun _ => rfl
  unfold openSession
  split
  next registered hub hregister =>
    rw [hregister] at hopened
    split
    next yes hub' hopen =>
      obtain rfl : hub.update h (fun x => x.openUp.2) = hub' := (Prod.mk.inj hopen).2
      split
      · exact ⟨hs.settled, hopened⟩
      · exact ⟨hs.settled, hopened.close h⟩

theorem sound_endSession (hs : s.Sound) (h : Handle) : (s.endSession h).Sound := by
  have hfinished : ((s.hub.close h).update h Session.finish).Housed s.listeningRun :=
    (hs.housed.close h).update h fun _ => rfl
  exact ⟨hs.settled, hfinished.update h fun _ => rfl⟩

/-- Every call keeps it. -/
theorem sound_perform (hs : s.Sound) (call : Call) : (s.perform call).2.Sound := by
  cases call with
  | start refuses address port threads => exact sound_start hs _
  | stop => exact (sound_stop hs).1
  | broadcast data => exact sound_broadcast hs data
  | connect remote => exact sound_connect hs remote
  | openSession h => exact sound_openSession hs h
  | endSession h => exact sound_endSession hs h

/-- A server that has just been made, after any calls. -/
theorem sound_performAll (hs : s.Sound) (calls : List Call) : (s.performAll calls).2.Sound := by
  induction calls generalizing s with
  | nil => exact hs
  | cons call rest ih => exact ih (sound_perform hs call)

theorem sound_new (kind : EngineKind) : Sound { kind } :=
  ⟨Or.inl ⟨rfl, rfl⟩, nofun, Or.inl rfl⟩

/-! ### Whole runs -/

/-- No operation is refused because the server is running. -/
theorem first_ne_alreadyRunning (refuses : Refusals) (ops : List SetUp) :
    refuses.first ops ≠ .error .alreadyRunning := by
  induction ops with
  | nil => nofun
  | cons op rest ih =>
      unfold Refusals.first
      split
      · cases op <;> simp [SetUp.error]
      · exact ih

/-- What fails in a sequence is its first part or what comes after. -/
theorem bind_ne_error {ε α β : Type} {x : Except ε α} {f : α → Except ε β} {e : ε}
    (hx : x ≠ .error e) (hf : ∀ a, f a ≠ .error e) : (x >>= f) ≠ .error e := by
  cases x with
  | error d =>
      intro hsame
      exact hx (congrArg Except.error (Except.error.inj hsame))
  | ok a => exact hf a

/-- No set-up fails because the server is running. -/
theorem bringUp_ne_alreadyRunning (s : Server) (refuses : Refusals) (address : String)
    (port : UInt16) (threads : Nat) :
    s.bringUp refuses address port threads ≠ .error .alreadyRunning := by
  have hgroup : readGroup address port ≠ .error .alreadyRunning := by
    unfold readGroup
    cases parseGroup address port <;> simp [Except.mapError]
  have hip : readIp address ≠ .error .alreadyRunning := by
    unfold readIp
    cases parseIp address <;> simp [Except.mapError]
  have hops := first_ne_alreadyRunning refuses
  unfold bringUp
  split
  · exact bind_ne_error hgroup fun _ => bind_ne_error (hops _) fun _ => by simp [pure, Except.pure]
  · exact bind_ne_error hgroup fun _ => bind_ne_error (hops _) fun _ => by simp [pure, Except.pure]
  · exact bind_ne_error hip fun _ => bind_ne_error (hops _) fun _ => by simp [pure, Except.pure]

/-- Nothing that is answered later, or stands at the end, tells whether the call was made. -/
def Traceless (s : Server) (call : Call) : Prop :=
  ∀ later, s.performAll (call :: later)
    = ((s.perform call).1 :: (s.performAll later).1, (s.performAll later).2)

/-- A call that leaves the server as it is leaves no trace. -/
theorem traceless_of_same {call : Call} (hsame : (s.perform call).2 = s) : s.Traceless call := by
  intro later
  show ((s.perform call).1 :: ((s.perform call).2.performAll later).1,
    ((s.perform call).2.performAll later).2) = _
  rw [hsame]

/-- **A server is stopped or running, and a start that fails has never been.**  After any calls
the server is stopped or running, and it has a record just when it is running.  A start is refused
as one of a running server just when it is one, whatever address it is given, and then changes
nothing.  Otherwise it comes to what bringing up the server comes to: if that succeeds, the server
runs and its record is what was brought up, and if it fails, nothing later tells of it.  A stop
always leaves a stopped server without a record and without a session, and a second one changes
nothing.  What is broadcast by a stopped server leaves for nowhere, and nothing later tells of
it. -/
theorem lifecycle (kind : EngineKind) (calls : List Call) :
    let s := (performAll { kind } calls).2
    ((s.service.state = .stopped ∨ s.service.state = .running) ∧
      (s.service.state = .running ↔ s.service.running.isSome = true)) ∧
    (∀ refuses address port threads,
      let start := Call.start refuses address port threads
      ((s.perform start).1 = .started (.error .alreadyRunning) ↔ s.service.state = .running) ∧
      (s.service.state = .running → (s.perform start).2 = s) ∧
      (s.service.state = .stopped →
        (s.perform start).1
          = .started ((s.bringUp refuses address port threads).map fun _ => ()) ∧
        ((s.perform start).1 = .started (.ok ()) →
          ∃ run, s.bringUp refuses address port threads = .ok run ∧
            (s.perform start).2.service = { state := .running, running := some run }) ∧
        ∀ e, (s.perform start).1 = .started (.error e) → s.Traceless start)) ∧
    (s.stop.service.state = .stopped ∧ s.stop.service.running = none ∧
      s.stop.sessionCount = 0 ∧ s.stop.stop = s.stop) ∧
    (∀ data, s.service.state = .stopped →
      (s.perform (.broadcast data)).1 = .sent [] ∧ s.Traceless (.broadcast data)) := by
  intro s
  have hs : s.Sound := sound_performAll (sound_new kind) calls
  refine ⟨?_, ?_, ?_, ?_⟩
  · rcases hs.settled with ⟨hstate, hrunning⟩ | ⟨hstate, hrunning⟩
    · exact ⟨Or.inl hstate, by simp [hstate, hrunning]⟩
    · exact ⟨Or.inr hstate, by simp [hstate, hrunning]⟩
  · intro refuses address port threads start
    have hperform : s.perform start
        = (.started (s.startWith (s.bringUp refuses address port threads)).1,
          (s.startWith (s.bringUp refuses address port threads)).2) := rfl
    have hother := s.bringUp_ne_alreadyRunning refuses address port threads
    rw [hperform]
    rcases hs.settled with ⟨hstate, -⟩ | ⟨hstate, -⟩
    · cases hlaunched : s.bringUp refuses address port threads with
      | error e =>
          rw [hlaunched] at hperform hother
          rw [startWith_of_refused hstate] at hperform ⊢
          refine ⟨?_, fun _ => rfl, fun _ => ⟨rfl, nofun, fun _ _ => ?_⟩⟩
          · simpa [hstate] using hother
          · exact traceless_of_same (congrArg Prod.snd hperform)
      | ok run =>
          rw [startWith_of_launched hstate]
          exact ⟨by simp [hstate], by simp [hstate],
            fun _ => ⟨rfl, fun _ => ⟨run, rfl, rfl⟩, nofun⟩⟩
    · rw [startWith_of_running hstate]
      exact ⟨by simp [hstate], fun _ => rfl, by simp [hstate]⟩
  · obtain ⟨-, hstate, hrunning, hnone⟩ := sound_stop hs
    exact ⟨hstate, hrunning, congrArg List.length hnone, stop_of_stopped hstate⟩
  · intro data hstate
    have hperform : s.perform (.broadcast data) = (.sent [], s) := by
      simp [perform, broadcast_of_stopped hstate]
    exact ⟨congrArg Prod.fst hperform, traceless_of_same (congrArg Prod.snd hperform)⟩

/-- The threads of the executor are refused after a socket has joined the group, and the next
start succeeds. -/
example : (performAll { kind := .multicast } [
    .start (fun op => if op = .executor then some "no threads left" else none) "239.255.0.1" 9090 1,
    .start (fun _ => none) "239.255.0.1" 9090 1]).1
      = [.started (.error (.transport "no threads left")), .started (.ok ())] := by
  rfl

end Server

end Lifecast
