/-
A server that stops sends all that it has taken in.

A stop takes the pool away under the lock and closes its queue.  A broadcast that has seen the
server running may come to the lock before that, and then its datagram is in the queue, or after
it, and then there is no pool.  What has been queued and not sent is in the books of the run
(`Books`).

A stop that waits returns when all workers are gone, and a pool without workers owes nothing.  A
stop that is refused the wait leaves the pool behind with whatever it owes.
-/
import Lifecast.Proofs.Engine.Books

namespace Lifecast

namespace Interleaving

open Posted WorkerPool

/-- The datagram that a broadcast has queued. -/
def Casting.posted? : Casting → Option Posted
  | returned data run => run.map (⟨·, data⟩)
  | called _ | looked _ => none

/-- Does a stop wait for the workers? -/
def Halting.waits : Halting → Bool
  | waiting _ => true
  | called _ | returned _ => false

/-- Does a worker of the pool move that the server has, or that a stop has taken away? -/
def SenderMove.isWork : SenderMove → Bool
  | work _ => true
  | start _ | callBroadcast _ | broadcast _ | callStop _ | stop _ | straggle _ _ => false

/-- A broadcast that goes on may have queued its datagram. -/
theorem posted?_set {calls : List Casting} {i : Nat} {call : Casting}
    (hthere : calls[i]? = some call) (hcall : call.posted? = none) (next : Casting) :
    ((calls.set i next).filterMap Casting.posted?).Perm
      (calls.filterMap Casting.posted? ++ next.posted?.toList) := by
  obtain ⟨before, after, hcalls, hset⟩ := OneMoved.of_set hthere next
  rw [hset, hcalls]
  simp only [List.filterMap_append, List.filterMap_cons, hcall, List.append_assoc]
  refine List.Perm.append_left _ ?_
  cases next.posted? with
  | none => exact (List.append_nil _).symm ▸ List.Perm.refl _
  | some d => exact List.perm_append_singleton _ _ |>.symm

namespace SenderCalls

variable {kind : EngineKind} {s t : SenderCalls} {pool : Option (WorkerPool Posted)}

/-! ### What a move does -/

/-- How a server stands between two moves, and which pool it has. -/
inductive Stands (s : SenderCalls) : Option (WorkerPool Posted) → Prop where
  | stopped (service : s.service = { state := .stopped, running := none })
      (leaving : s.leaving = none) (unlocked : s.locked = false) : Stands s none
  | running {p : WorkerPool Posted} (service : s.service = { state := .running, running := some p })
      (leaving : s.leaving = none) (unlocked : s.locked = false) (opened : p.accepting = true) :
      Stands s (some p)
  | stopping {p : WorkerPool Posted} (service : s.service = { state := .stopping, running := none })
      (leaving : s.leaving = some p) (locked : s.locked = true) (closed : p.accepting = false) :
      Stands s (some p)

/-- Between two moves the lock is held by nobody but a stop that waits. -/
theorem Stands.of_locked (h : Stands s pool) (hlocked : s.locked = true) :
    ∃ p, pool = some p ∧ s.service = { state := .stopping, running := none } ∧
      s.leaving = some p ∧ p.accepting = false := by
  cases h with
  | stopped _ _ hunlocked | running _ _ hunlocked _ =>
      rw [hunlocked] at hlocked
      cases hlocked
  | stopping hservice hleaving _ hclosed => exact ⟨_, rfl, hservice, hleaving, hclosed⟩

/-- A pool that has been taken away is with the stop that waits. -/
theorem Stands.of_leaving {p : WorkerPool Posted} (h : Stands s pool)
    (hleaving : s.leaving = some p) :
    pool = some p ∧ s.service = { state := .stopping, running := none } ∧ s.locked = true := by
  cases h with
  | stopped _ hnone _ | running _ hnone _ _ =>
      rw [hnone] at hleaving
      cases hleaving
  | stopping hservice hthere hlocked _ =>
      exact ⟨hthere.symm.trans hleaving, hservice, hlocked⟩

/-- How a server stands does not depend on the calls, nor on what was left behind. -/
theorem Stands.of_same (h : Stands s pool) (hservice : t.service = s.service)
    (hleaving : t.leaving = s.leaving) (hlocked : t.locked = s.locked) : Stands t pool := by
  cases h with
  | stopped h₁ h₂ h₃ => exact .stopped (hservice.trans h₁) (hleaving.trans h₂) (hlocked.trans h₃)
  | running h₁ h₂ h₃ h₄ =>
      exact .running (hservice.trans h₁) (hleaving.trans h₂) (hlocked.trans h₃) h₄
  | stopping h₁ h₂ h₃ h₄ =>
      exact .stopping (hservice.trans h₁) (hleaving.trans h₂) (hlocked.trans h₃) h₄

/-- What a move does to a server and its pool. -/
inductive Goes (s : SenderCalls) :
    Option (WorkerPool Posted) → SenderCalls → Option (WorkerPool Posted) → Prop where
  | asks {pool : Option (WorkerPool Posted)} {castings : List Casting} {haltings : List Halting}
      (posted : (castings.filterMap Casting.posted?).Perm (s.castings.filterMap Casting.posted?))
      (holders : haltings.countP Halting.waits = s.haltings.countP Halting.waits)
      (sites : s.haltings.map Halting.site ⊆ haltings.map Halting.site) :
      Goes s pool { s with castings, haltings } pool
  | starts (threads : Nat) (leaving : s.leaving = none) (unlocked : s.locked = false) :
      Goes s none { s with
        service := { state := .running, running := some (s.kind.senderPool threads) }
        workers := s.workers ++ [(s.kind.senderPool threads : WorkerPool Posted).workers.length] }
        (some (s.kind.senderPool threads))
  | posts {p q : WorkerPool Posted} {i : Nat} {data : Bytes}
      (there : s.castings[i]? = some (.looked data)) (leaving : s.leaving = none)
      (unlocked : s.locked = false) (submitted : p.submit (.leaves ⟨s.run, data⟩) = (true, q)) :
      Goes s (some p) { s with
        service := { state := .running, running := some q }
        castings := s.castings.set i (.returned data (some s.run))
        queued := s.queued ++ [⟨s.run, data⟩] } (some q)
  | closes {p : WorkerPool Posted} {i : Nat} {site : CallSite}
      (there : s.haltings[i]? = some (.called site)) (unlocked : s.locked = false) :
      Goes s (some p) { s with
        service := { state := .stopping, running := none }
        leaving := some p.closeQueue
        locked := true
        haltings := s.haltings.set i (.waiting site) } (some p.closeQueue)
  | finishes {p : WorkerPool Posted} {i : Nat} {site : CallSite}
      (there : s.haltings[i]? = some (.waiting site)) (record : s.service.running = none)
      (locked : s.locked = true) (free : s.kind.waitsAt site = true → p.allGone = true) :
      Goes s (some p) { s with
        service := { s.service with state := .stopped }
        leaving := none
        behind := s.behind ++ [(some p).filter (!·.allGone)]
        locked := false
        haltings := s.haltings.set i (.returned site)
        run := s.run + 1 } none
  | works {p q : WorkerPool Posted} (step : Works p q)
      (service : s.service = { state := .running, running := some p }) :
      Goes s (some p) { s with
        service := { state := .running, running := some q }
        wire := s.wire ++ q.log.drop p.log.length } (some q)
  | drains {p q : WorkerPool Posted} (step : Works p q) (leaving : s.leaving = some p) :
      Goes s (some p) { s with
        leaving := some q
        wire := s.wire ++ q.log.drop p.log.length } (some q)
  | straggles {pool : Option (WorkerPool Posted)} {p q : WorkerPool Posted} {r : Nat}
      (step : Works p q) (there : s.behind[r]? = some (some p)) :
      Goes s pool { s with
        behind := s.behind.set r (some q)
        wire := s.wire ++ q.log.drop p.log.length } pool

/-- What holds of a server to a group after every move. -/
structure Keeps (kind : EngineKind) (s : SenderCalls) (pool : Option (WorkerPool Posted)) :
    Prop where
  engine : s.kind = kind
  stands : Stands s pool
  holders : s.haltings.countP Halting.waits = s.locked.toNat
  posted : s.queued.Perm (s.castings.filterMap Casting.posted?)
  ended : s.behind.length = s.run
  begun : s.workers.length = s.run + pool.toList.length
  books : Books s.workers s.queued s.wire (pooled s.behind s.run pool)
  drained : (∀ call ∈ s.haltings, kind.waitsAt call.site = true) → ∀ left ∈ s.behind, left = none
  alone : kind = .multicast → ∀ n ∈ s.workers, n = 1

/-- The pool that the server has is on the books. -/
theorem Keeps.onBooks {p : WorkerPool Posted} (h : Keeps kind s (some p)) :
    OnBooks s.run s.workers s.queued s.wire p :=
  h.books.owing s.run p pooled_self

theorem Keeps.plain {p : WorkerPool Posted} (h : Keeps kind s (some p)) : p.Plain :=
  h.onBooks.plain

/-- So is every pool that was left behind. -/
theorem Keeps.left_behind {p : WorkerPool Posted} {r : Nat} (h : Keeps kind s pool)
    (hthere : s.behind[r]? = some (some p)) :
    r < s.run ∧ OnBooks r s.workers s.queued s.wire p := by
  have hr : r < s.run := h.ended ▸ (List.getElem?_eq_some_iff.mp hthere).1
  refine ⟨hr, h.books.owing r p ?_⟩
  rw [pooled_of_ne (Nat.ne_of_lt hr), hthere]
  rfl

/-- A move that changes nothing but how far a call is that has not queued anything. -/
theorem asks_set {i : Nat} {call next : Casting} (hthere : s.castings[i]? = some call)
    (hcall : call.posted? = none) (hnext : next.posted? = none) :
    Goes s pool { s with castings := s.castings.set i next } pool := by
  have hposted := posted?_set hthere hcall next
  rw [hnext, Option.toList_none, List.append_nil] at hposted
  exact .asks hposted rfl (List.Subset.refl _)

theorem asks_refl : Goes s pool s pool :=
  .asks (List.Perm.refl _) rfl (List.Subset.refl _)

theorem waits_set {i : Nat} {call : Halting} (hthere : s.haltings[i]? = some call)
    (next : Halting) :
    (s.haltings.set i next).countP Halting.waits + call.waits.toNat
      = s.haltings.countP Halting.waits + next.waits.toNat :=
  (OneMoved.of_set hthere next).countP Halting.waits

/-- A stop that goes on is still called from where it was. -/
theorem map_site_set {i : Nat} {call : Halting} (hthere : s.haltings[i]? = some call)
    (next : Halting) (hsite : next.site = call.site) :
    s.haltings.map Halting.site ⊆ (s.haltings.set i next).map Halting.site := by
  obtain ⟨before, after, hhaltings, hset⟩ := OneMoved.of_set hthere next
  rw [hset, hhaltings, List.map_append, List.map_append, List.map_cons, List.map_cons, hsite]
  exact List.Subset.refl _

/-- If all stops wait, those waited that were called before. -/
theorem waitsAt_of_subset {haltings : List Halting}
    (hsites : s.haltings.map Halting.site ⊆ haltings.map Halting.site)
    (hwaits : ∀ call ∈ haltings, kind.waitsAt call.site = true) :
    ∀ call ∈ s.haltings, kind.waitsAt call.site = true := by
  intro call hcall
  have hsite : call.site ∈ haltings.map Halting.site :=
    hsites (List.mem_map_of_mem hcall)
  obtain ⟨call', hcall', hsame⟩ := List.mem_map.mp hsite
  exact hsame ▸ hwaits call' hcall'

theorem start_goes (h : Stands s pool) {launched : Except EngineError Nat}
    (moved : s.move? (.start launched) = some t) : ∃ pool', Goes s pool t pool' := by
  obtain ⟨hunlocked, moved⟩ := Option.ite_none_left_eq_some.mp moved
  have hunlocked := Bool.eq_false_iff.mpr hunlocked
  cases h with
  | stopped hservice hleaving _ =>
      cases launched with
      | error e =>
          have hstart : s.service.start (.error e) = (.error e, s.service) := by rw [hservice]; rfl
          simp only [Except.map, hstart] at moved
          obtain rfl := Option.some.inj moved
          exact ⟨none, asks_refl⟩
      | ok threads =>
          have hstart : s.service.start (.ok (s.kind.senderPool threads))
              = (.ok (), { state := .running, running := some (s.kind.senderPool threads) }) := by
            rw [hservice]
            rfl
          simp only [Except.map, hstart] at moved
          obtain rfl := Option.some.inj moved
          exact ⟨_, .starts threads hleaving hunlocked⟩
  | running hservice _ _ _ =>
      have hstart (launched) : s.service.start launched = (.error .alreadyRunning, s.service) := by
        rw [hservice]
        rfl
      simp only [hstart] at moved
      obtain rfl := Option.some.inj moved
      exact ⟨_, asks_refl⟩
  | stopping _ _ hlocked _ =>
      rw [hunlocked] at hlocked
      cases hlocked

theorem broadcast_goes (h : Stands s pool) {i : Nat} (moved : s.move? (.broadcast i) = some t) :
    ∃ pool', Goes s pool t pool' := by
  cases hthere : s.castings[i]? with
  | none => simp [move?, hthere] at moved
  | some call =>
      simp only [move?, hthere] at moved
      cases call with
      | called data =>
          obtain rfl := Option.some.inj moved
          refine ⟨pool, asks_set hthere rfl ?_⟩
          split <;> rfl
      | looked data =>
          cases h with
          | stopped hservice _ hunlocked =>
              have hnone : s.service.running = none := congrArg Service.running hservice
              rw [casting?, if_neg (Bool.eq_false_iff.mp hunlocked)] at moved
              simp only [hnone] at moved
              obtain rfl := Option.some.inj moved
              exact ⟨none, asks_set hthere rfl rfl⟩
          | @running p hservice hleaving hunlocked hopened =>
              have hsubmit : p.submit (.leaves ⟨s.run, data⟩)
                  = (true, { p with queue := p.queue ++ [.leaves ⟨s.run, data⟩] }) :=
                if_pos hopened
              rw [casting?, if_neg (Bool.eq_false_iff.mp hunlocked)] at moved
              simp only [hservice, hsubmit] at moved
              obtain rfl := Option.some.inj moved
              exact ⟨_, .posts hthere hleaving hunlocked hsubmit⟩
          | stopping _ _ hlocked _ => simp [casting?, hlocked] at moved
      | returned data run => cases moved

/-- What a worker does while a stop waits for it. -/
theorem drains_of_work {p : WorkerPool Posted} (hp : p.Plain) (hleaving : s.leaving = some p)
    {i : Nat} (moved : s.move? (.work i) = some t) :
    ∃ q, Works p q ∧
      t = { s with leaving := some q, wire := s.wire ++ q.log.drop p.log.length } := by
  cases hwork : p.work? true i with
  | none => simp [move?, work?, hleaving, hwork] at moved
  | some q =>
      simp only [move?, work?, hleaving, hwork] at moved
      exact ⟨q, works_of_work? hp hwork, (Option.some.inj moved).symm⟩

/-- A step of a stop.  When it returns there is no pool. -/
theorem stop_goes (h : Keeps kind s pool) {i : Nat} (moved : s.move? (.stop i) = some t) :
    ∃ pool', Goes s pool t pool' ∧
      ((∃ site, t.haltings[i]? = some (.returned site)) → pool' = none) := by
  cases hthere : s.haltings[i]? with
  | none => simp [move?, hthere] at moved
  | some call =>
      simp only [move?, hthere] at moved
      cases call with
      | called site =>
          cases h.stands with
          | stopped hservice _ hunlocked =>
              have hexchange : Phase.exchange .running .stopping s.service.state
                  = (false, .stopped) := by
                rw [hservice]
                rfl
              rw [halting?, if_neg (Bool.eq_false_iff.mp hunlocked)] at moved
              simp only [hexchange] at moved
              obtain rfl := Option.some.inj moved
              exact ⟨none, .asks (List.Perm.refl _) (waits_set hthere (.returned site))
                (map_site_set hthere _ rfl), fun _ => rfl⟩
          | running hservice _ hunlocked _ =>
              rw [halting?, if_neg (Bool.eq_false_iff.mp hunlocked)] at moved
              simp only [hservice, Phase.exchange] at moved
              obtain rfl := Option.some.inj moved
              refine ⟨_, .closes hthere hunlocked, ?_⟩
              rintro ⟨_, hreturned⟩
              have hwaits := List.getElem?_set_self (a := Halting.waiting site)
                (List.getElem?_eq_some_iff.mp hthere).1
              cases hwaits.symm.trans hreturned
          | stopping _ _ hlocked _ => simp [halting?, hlocked] at moved
      | waiting site =>
          have hlocked : s.locked = true :=
            locked_of_holder h.holders (List.mem_of_getElem? hthere) rfl
          -- Only the stop that took the pool away waits, so it is this pool whose workers are gone.
          obtain ⟨p, rfl, hservice, hleaving, -⟩ := h.stands.of_locked hlocked
          cases hstays : s.kind.waitsAt site && !p.allGone with
          | true => simp [halting?, hleaving, hstays] at moved
          | false =>
              simp only [halting?, hleaving, Option.all_some, hstays, Bool.false_eq_true,
                if_false] at moved
              obtain rfl := Option.some.inj moved
              refine ⟨none, .finishes hthere (congrArg Service.running hservice) hlocked ?_,
                fun _ => rfl⟩
              intro hwaits
              rw [hwaits, Bool.true_and] at hstays
              simpa using hstays
      | returned site => cases moved

theorem work_goes (h : Keeps kind s pool) {i : Nat} (moved : s.move? (.work i) = some t) :
    ∃ pool', Goes s pool t pool' := by
  cases h.stands with
  | stopped hservice hleaving _ => simp [move?, hservice, hleaving] at moved
  | @running p hservice hleaving _ _ =>
      cases hwork : p.work? true i with
      | none => simp [move?, work?, hservice, hleaving, hwork] at moved
      | some q =>
          have hmove : s.move? (.work i) = some { s with
              service := { state := .running, running := some q }
              wire := s.wire ++ q.log.drop p.log.length } := by
            simp only [move?, work?, hservice, hleaving, hwork]
            rfl
          obtain rfl := Option.some.inj (hmove.symm.trans moved)
          exact ⟨_, .works (works_of_work? h.plain hwork) hservice⟩
  | stopping hservice hleaving _ _ =>
      obtain ⟨q, hworks, rfl⟩ := drains_of_work h.plain hleaving moved
      exact ⟨_, .drains hworks hleaving⟩

theorem straggle_goes (h : Keeps kind s pool) {r i : Nat}
    (moved : s.move? (.straggle r i) = some t) : Goes s pool t pool := by
  cases hthere : s.behind[r]? with
  | none => simp [move?, hthere] at moved
  | some left =>
      cases left with
      | none => simp [move?, hthere] at moved
      | some p =>
          cases hwork : p.work? true i with
          | none => simp [move?, work?, hthere, hwork] at moved
          | some q =>
              simp only [move?, hthere, work?, hwork] at moved
              obtain rfl := Option.some.inj moved
              exact .straggles (works_of_work? (h.left_behind hthere).2.plain hwork) hthere

/-- There are no other moves. -/
theorem move?_goes (h : Keeps kind s pool) {m : SenderMove} (moved : s.move? m = some t) :
    ∃ pool', Goes s pool t pool' := by
  cases m with
  | start launched => exact start_goes h.stands moved
  | callBroadcast data =>
      obtain rfl := Option.some.inj moved
      exact ⟨pool, .asks (by simp [List.filterMap_cons, Casting.posted?]) rfl
        (List.Subset.refl _)⟩
  | broadcast i => exact broadcast_goes h.stands moved
  | callStop site =>
      obtain rfl := Option.some.inj moved
      exact ⟨pool, .asks (List.Perm.refl _) (by simp [Halting.waits])
        (List.map_subset _ (List.subset_append_left _ _))⟩
  | stop i =>
      obtain ⟨pool', hgoes, -⟩ := stop_goes h moved
      exact ⟨pool', hgoes⟩
  | work i => exact work_goes h moved
  | straggle r i => exact ⟨pool, straggle_goes h moved⟩

/-! ### What every move keeps -/

/-- The pool that a server starts. -/
theorem senderPool_plain (kind : EngineKind) (threads : Nat) :
    (kind.senderPool threads : WorkerPool Posted).Plain ∧
      (kind.senderPool threads : WorkerPool Posted).account = [] ∧
      (kind.senderPool threads : WorkerPool Posted).accepting = true := by
  cases kind with
  | multicast => exact plain_start _ _
  | pooledMulticast | webSocket => exact plain_start _ _

theorem Goes.keeps {pool' : Option (WorkerPool Posted)} (hgoes : Goes s pool t pool')
    (h : Keeps kind s pool) : Keeps kind t pool' := by
  cases hgoes with
  | asks hposted hholders hsites =>
      refine ⟨h.engine, h.stands.of_same rfl rfl rfl, hholders.trans h.holders,
        h.posted.trans hposted.symm, h.ended, h.begun, h.books, ?_, h.alone⟩
      intro hwaits
      exact h.drained (waitsAt_of_subset hsites hwaits)
  | starts threads hleaving hunlocked =>
      obtain ⟨hplain, hnew, hopened⟩ := senderPool_plain s.kind threads
      have hbegun : s.workers.length = s.run := h.begun
      have hbooks := h.books.begin hplain hnew
      rw [hbegun, ← pooled_now] at hbooks
      refine ⟨h.engine, .running rfl hleaving hunlocked hopened, h.holders, h.posted, h.ended, ?_,
        hbooks, h.drained, ?_⟩
      · rw [List.length_append, hbegun]
        rfl
      · intro hkind n hn
        rcases List.mem_append.mp hn with hold | hnew
        · exact h.alone hkind n hold
        · rw [List.mem_singleton.mp hnew, h.engine, hkind]
          rfl
  | @posts p q i data hthere hleaving hunlocked hsubmitted =>
      have hbooks := h.books.post pooled_self hsubmitted
      rw [← pooled_now] at hbooks
      refine ⟨h.engine, .running rfl hleaving hunlocked (plain_submit h.plain hsubmitted).2.2.2.2,
        h.holders, ?_, h.ended, h.begun, hbooks, h.drained, h.alone⟩
      have hposted := posted?_set hthere rfl (.returned data (some s.run))
      exact (h.posted.append_right _).trans hposted.symm
  | @closes p i site hthere hunlocked =>
      have hbooks := h.books.close pooled_self
      rw [← pooled_now] at hbooks
      refine ⟨h.engine, .stopping rfl rfl rfl rfl, ?_, h.posted, h.ended, h.begun, hbooks, ?_,
        h.alone⟩
      · have hall := waits_set hthere (.waiting site)
        rw [h.holders, hunlocked] at hall
        exact hall
      · have hsites := map_site_set hthere (.waiting site) rfl
        exact fun hwaits => h.drained (waitsAt_of_subset hsites hwaits)
  | @finishes p i site hthere hrecord hlocked hfree =>
      have hbooks : Books s.workers s.queued s.wire
          (pooled (s.behind ++ [(some p).filter (!·.allGone)]) (s.run + 1) none) := by
        rw [pooled_concat h.ended]
        cases hgone : p.allGone with
        | true =>
            rw [Option.filter_some, hgone]
            exact h.books.finish pooled_self hgone
        -- A pool that is left behind stays on the books.
        | false =>
            rw [Option.filter_some, hgone, ← pooled_now]
            exact h.books
      refine ⟨h.engine, .stopped (congrArg (Service.mk .stopped) hrecord) rfl rfl, ?_, h.posted, ?_,
        h.begun, hbooks, ?_, h.alone⟩
      · have hall := waits_set hthere (.returned site)
        rw [h.holders, hlocked] at hall
        exact Nat.succ.inj hall
      · rw [List.length_append, h.ended]
        rfl
      · intro hwaits left hleft
        have hsites := map_site_set hthere (.returned site) rfl
        have hwaits := waitsAt_of_subset hsites hwaits
        have hgone : p.allGone = true :=
          hfree (h.engine ▸ hwaits _ (List.mem_of_getElem? hthere))
        rcases List.mem_append.mp hleft with hold | hnew
        · exact h.drained hwaits left hold
        · rw [List.mem_singleton.mp hnew, Option.filter_some, hgone]
          rfl
  -- What a worker does to the books does not depend on whether the pool still takes datagrams in.
  | works hstep hservice =>
      have hbooks := h.books.work pooled_self hstep
      rw [← pooled_now] at hbooks
      refine ⟨h.engine, ?_, h.holders, h.posted, h.ended, h.begun, hbooks, h.drained, h.alone⟩
      have haccepting := (hstep.plain h.plain).2.2
      cases h.stands with
      | running _ hleaving hunlocked hopened =>
          exact .running rfl hleaving hunlocked (haccepting.trans hopened)
      | stopping hservice' _ _ _ =>
          rw [hservice] at hservice'
          cases hservice'
  | drains hstep hleaving =>
      have hbooks := h.books.work pooled_self hstep
      rw [← pooled_now] at hbooks
      refine ⟨h.engine, ?_, h.holders, h.posted, h.ended, h.begun, hbooks, h.drained, h.alone⟩
      have haccepting := (hstep.plain h.plain).2.2
      cases h.stands with
      | running _ hnone _ _ =>
          rw [hleaving] at hnone
          cases hnone
      | stopping hservice _ hlocked hclosed =>
          exact .stopping hservice rfl hlocked (haccepting.trans hclosed)
  | @straggles _ p q r hstep hthere =>
      have hr := (h.left_behind hthere).1
      have hpool : pooled s.behind s.run pool r = some p := by
        rw [pooled_of_ne (Nat.ne_of_lt hr), hthere]
        rfl
      have hbooks := h.books.work hpool hstep
      rw [← pooled_set h.ended hr] at hbooks
      refine ⟨h.engine, h.stands.of_same rfl rfl rfl, h.holders, h.posted, ?_, h.begun, hbooks, ?_,
        h.alone⟩
      · rw [List.length_set]
        exact h.ended
      · intro hwaits
        cases h.drained hwaits _ (List.mem_of_getElem? hthere)

/-- Run `r` is over, and nothing was left behind. -/
def Drained (s : SenderCalls) (r : Nat) : Prop :=
  s.behind[r]? = some none

/-- Nothing more is queued in a run that is over, and nothing more is sent if it is drained. -/
theorem Goes.past {pool' : Option (WorkerPool Posted)} (hgoes : Goes s pool t pool')
    (h : Keeps kind s pool) : s.run ≤ t.run ∧
      ∀ r < s.run, ofRun r t.queued = ofRun r s.queued ∧
        (s.Drained r → t.Drained r ∧ ofRun r t.wire = ofRun r s.wire) := by
  cases hgoes with
  | asks | starts | closes => exact ⟨Nat.le_refl _, fun _ _ => ⟨rfl, fun hd => ⟨hd, rfl⟩⟩⟩
  | finishes =>
      refine ⟨Nat.le_succ _, fun r hr => ⟨rfl, fun hd => ⟨?_, rfl⟩⟩⟩
      exact (List.getElem?_append_left (h.ended ▸ hr)).trans hd
  | posts =>
      refine ⟨Nat.le_refl _, fun r hr => ⟨?_, fun hd => ⟨hd, rfl⟩⟩⟩
      exact ofRun_append_other s.queued (by simp) (Nat.ne_of_lt hr)
  | works hstep | drains hstep =>
      refine ⟨Nat.le_refl _, fun r hr => ⟨rfl, fun hd => ⟨hd, ?_⟩⟩⟩
      exact ofRun_append_other s.wire (h.onBooks.run_of_sends hstep) (Nat.ne_of_lt hr)
  | @straggles _ p q r' hstep hthere =>
      refine ⟨Nat.le_refl _, fun r _ => ⟨rfl, fun hd => ?_⟩⟩
      have hne : r ≠ r' := by
        rintro rfl
        cases hd.symm.trans hthere
      exact ⟨(List.getElem?_set_ne hne.symm).trans hd,
        ofRun_append_other s.wire ((h.left_behind hthere).2.run_of_sends hstep) hne⟩

theorem keeps_start (kind : EngineKind) : Keeps kind (start kind) none := by
  refine ⟨rfl, .stopped rfl rfl rfl, rfl, List.Perm.refl _, rfl, rfl, ?_, nofun, nofun⟩
  refine ⟨fun r p hp => ?_, fun _ _ => ⟨List.Perm.refl _, fun _ => rfl⟩, fun _ _ => ⟨rfl, rfl⟩⟩
  have hnone : pooled [] 0 none r = none := ite_self _
  cases hnone.symm.trans hp

theorem keeps_play (h : Keeps kind s pool) {moves : List SenderMove}
    (played : play move? s moves = some t) : ∃ pool', Keeps kind t pool' := by
  refine play_induction (P := fun u => ∃ pool, Keeps kind u pool) ?_ moves ⟨pool, h⟩ played
  intro u m v ⟨_, hu⟩ hmove
  obtain ⟨_, hgoes⟩ := move?_goes hu hmove
  exact ⟨_, hgoes.keeps hu⟩

theorem past_play (h : Keeps kind s pool) {moves : List SenderMove}
    (played : play move? s moves = some t) : s.run ≤ t.run ∧
      ∀ r < s.run, ofRun r t.queued = ofRun r s.queued ∧
        (s.Drained r → t.Drained r ∧ ofRun r t.wire = ofRun r s.wire) := by
  refine (play_induction (P := fun u => (∃ pool, Keeps kind u pool) ∧ s.run ≤ u.run ∧
    ∀ r < s.run, ofRun r u.queued = ofRun r s.queued ∧
      (s.Drained r → u.Drained r ∧ ofRun r u.wire = ofRun r s.wire)) ?_ moves
    ⟨⟨pool, h⟩, Nat.le_refl _, fun _ _ => ⟨rfl, fun hd => ⟨hd, rfl⟩⟩⟩ played).2
  intro u m v ⟨⟨_, hu⟩, hrun, hpast⟩ hmove
  obtain ⟨_, hgoes⟩ := move?_goes hu hmove
  obtain ⟨hnext, hsame⟩ := hgoes.past hu
  refine ⟨⟨_, hgoes.keeps hu⟩, Nat.le_trans hrun hnext, fun r hr => ?_⟩
  obtain ⟨hqueued, hdrained⟩ := hsame r (Nat.lt_of_lt_of_le hr hrun)
  refine ⟨hqueued.trans (hpast r hr).1, fun hd => ?_⟩
  obtain ⟨hd, hwire⟩ := (hpast r hr).2 hd
  exact ⟨(hdrained hd).1, (hdrained hd).2.trans hwire⟩

/-! ### All that was taken in is sent -/

/-- A broadcast looks at the phase first, whoever holds the lock. -/
theorem broadcast_called {i : Nat} {data : Bytes} (hthere : s.castings[i]? = some (.called data)) :
    ∃ u, s.move? (.broadcast i) = some u ∧ u.castings[i]? =
      some (if s.service.isRunning then .looked data else .returned data none) := by
  simp only [move?, hthere]
  exact ⟨_, rfl, List.getElem?_set_self (List.getElem?_eq_some_iff.mp hthere).1⟩

/-- With the lock it queues its datagram if there is a pool. -/
theorem broadcast_looked (h : Stands s pool) {i : Nat} {data : Bytes}
    (hthere : s.castings[i]? = some (.looked data)) (hfree : s.locked = false) :
    ∃ u, s.move? (.broadcast i) = some u ∧
      u.castings[i]? = some (.returned data (s.service.running.map fun _ => s.run)) := by
  have hinside := (List.getElem?_eq_some_iff.mp hthere).1
  cases h with
  | stopped hservice _ _ =>
      simp only [move?, hthere, casting?, hfree, hservice]
      exact ⟨_, rfl, List.getElem?_set_self hinside⟩
  | running hservice _ _ hopened =>
      simp only [move?, hthere, casting?, hfree, hservice, submit, hopened]
      exact ⟨_, rfl, List.getElem?_set_self hinside⟩
  | stopping _ _ hlocked _ =>
      rw [hfree] at hlocked
      cases hlocked

/-- While a stop waits, it can return or a worker can move. -/
theorem exists_drain (h : Keeps kind s pool) (hlocked : s.locked = true) :
    ∃ m u, s.move? m = some u ∧ ((∃ i, m = .work i) ∨
      ∃ i site, m = .stop i ∧ u.haltings[i]? = some (.returned site)) := by
  have hsome : 0 < s.haltings.countP Halting.waits := by
    rw [h.holders, hlocked]
    exact Nat.one_pos
  obtain ⟨call, hmem, hwaits⟩ := List.countP_pos_iff.mp hsome
  obtain ⟨i, hthere⟩ := List.mem_iff_getElem?.mp hmem
  cases call with
  | called | returned => cases hwaits
  | waiting site =>
      obtain ⟨p, rfl, -, hleaving, hclosed⟩ := h.stands.of_locked hlocked
      cases hstays : s.kind.waitsAt site && !p.allGone with
      | false =>
          have hstop : ∃ u, s.move? (.stop i) = some u ∧
              u.haltings[i]? = some (.returned site) := by
            simp only [move?, hthere, halting?, hleaving, Option.all_some, hstays,
              Bool.false_eq_true, if_false]
            exact ⟨_, rfl, List.getElem?_set_self (List.getElem?_eq_some_iff.mp hthere).1⟩
          obtain ⟨u, hmove, hreturned⟩ := hstop
          exact ⟨.stop i, u, hmove, .inr ⟨i, site, rfl, hreturned⟩⟩
      | true =>
          obtain ⟨-, hgone⟩ := Bool.and_eq_true_iff.mp hstays
          obtain ⟨j, q, hwork⟩ := exists_work h.plain hclosed (by simpa using hgone)
          have hmove : ∃ u, s.move? (.work j) = some u := by
            simp only [move?, hleaving, work?, hwork]
            exact ⟨_, rfl⟩
          obtain ⟨u, hmove⟩ := hmove
          exact ⟨.work j, u, hmove, .inl ⟨j, rfl⟩⟩

/-- Until a stop returns, the pool that it has taken away stays with it and gets no more to do. -/
theorem Goes.leaving {pool' : Option (WorkerPool Posted)} {p : WorkerPool Posted}
    (hgoes : Goes s pool t pool') (h : Keeps kind s pool) (hleaving : s.leaving = some p) :
    s.run < t.run ∨ ∃ q, t.leaving = some q ∧ q.load ≤ p.load := by
  obtain ⟨-, hstopping, hlocked⟩ := h.stands.of_leaving hleaving
  cases hgoes with
  | asks | straggles => exact .inr ⟨p, hleaving, Nat.le_refl _⟩
  | starts _ hnone | posts _ hnone =>
      rw [hnone] at hleaving
      cases hleaving
  | closes _ hunlocked =>
      rw [hunlocked] at hlocked
      cases hlocked
  | finishes => exact .inl (Nat.lt_succ_self _)
  | works _ hservice =>
      rw [hservice] at hstopping
      cases hstopping
  | drains hstep hthere =>
      obtain rfl := Option.some.inj (hthere.symm.trans hleaving)
      exact .inr ⟨_, rfl, Nat.le_of_lt hstep.load_lt⟩

/-- The workers that a stop waits for make no more than so many moves. -/
theorem countP_isWork_le {p : WorkerPool Posted} (h : Keeps kind s pool)
    (hleaving : s.leaving = some p) (moves : List SenderMove)
    (played : play move? s moves = some t) (hrun : t.run = s.run) :
    moves.countP SenderMove.isWork ≤ p.load := by
  induction moves generalizing s pool p with
  | nil => exact Nat.zero_le _
  | cons m rest ih =>
      unfold play at played
      split at played
      · cases played
      · next u hmove =>
          obtain ⟨pool', hgoes⟩ := move?_goes h hmove
          have hu := hgoes.keeps h
          have hnext := (past_play hu played).1
          obtain hlater | ⟨q, hq, hload⟩ := hgoes.leaving h hleaving
          · omega
          · have hmoved : s.run ≤ u.run := (hgoes.past h).1
            have hsame : t.run = u.run := by omega
            have hrest := ih hu hq played hsame
            cases hm : m.isWork with
            | false =>
                rw [List.countP_cons_of_neg (by simp [hm])]
                exact Nat.le_trans hrest hload
            | true =>
                obtain ⟨i, rfl⟩ : ∃ i, m = .work i := by
                  cases m with
                  | work i => exact ⟨i, rfl⟩
                  | start | callBroadcast | broadcast | callStop | stop | straggle => cases hm
                obtain ⟨rfl, -, -⟩ := h.stands.of_leaving hleaving
                obtain ⟨q', hworks, rfl⟩ := drains_of_work h.plain hleaving hmove
                obtain rfl := Option.some.inj hq
                rw [List.countP_cons_of_pos hm]
                exact Nat.lt_of_le_of_lt hrest hworks.load_lt

/-- All that was queued in a run has been sent, and one worker alone has sent it in order. -/
def AllSent (s : SenderCalls) (r : Nat) : Prop :=
  Cleared r s.workers s.queued s.wire

theorem allSent_of_drained (h : Keeps kind s pool) {r : Nat} (hdrained : s.Drained r) :
    s.AllSent r := by
  have hr : r < s.run := h.ended ▸ (List.getElem?_eq_some_iff.mp hdrained).1
  refine h.books.cleared r ?_
  rw [pooled_of_ne (Nat.ne_of_lt hr), hdrained]
  rfl

/-- A stop that waits returns when its run is drained. -/
theorem drained_of_waits (h : Keeps kind s pool) {i : Nat} {site : CallSite}
    (hthere : s.haltings[i]? = some (.waiting site)) (hwaits : kind.waitsAt site = true)
    (moved : s.move? (.stop i) = some t) : t.run = s.run + 1 ∧ t.Drained s.run := by
  have hlocked : s.locked = true :=
    locked_of_holder h.holders (List.mem_of_getElem? hthere) rfl
  obtain ⟨p, rfl, -, hleaving, -⟩ := h.stands.of_locked hlocked
  simp only [move?, hthere, halting?, h.engine, hwaits, hleaving, Option.all_some,
    Bool.true_and] at moved
  cases hgone : p.allGone with
  | false => simp [hgone] at moved
  | true =>
      simp only [hgone, Bool.not_true, Bool.false_eq_true, if_false] at moved
      obtain rfl := Option.some.inj moved
      refine ⟨rfl, ?_⟩
      unfold Drained
      rw [← h.ended, List.getElem?_concat_length, Option.filter_some, hgone]
      rfl

/-- When there is no run on and all runs are drained, nothing is owed. -/
theorem perm_of_drained (h : Keeps kind s none) (hall : ∀ r < s.run, s.Drained r) :
    s.wire.Perm s.queued := by
  refine h.books.perm_of_none fun r => ?_
  rcases eq_or_ne r s.run with rfl | hr
  · exact pooled_self
  · rw [pooled_of_ne hr]
    rcases Nat.lt_or_gt_of_ne hr with hr | hr
    · rw [hall r hr]
      rfl
    · rw [List.getElem?_eq_none (h.ended ▸ Nat.le_of_lt hr)]
      rfl

/-- **A server that stops has sent all that it has taken in.**  Every datagram belongs to the run in
which it was queued; `s.run` is the run that is on, or the next one.

A broadcast that sees the server running and finds a pool once it has the lock queues its datagram,
once, in the run that is on; no other broadcast queues any.  In every run only what was queued is
sent, and one worker sends it in that order.

A stop that returns where it waits has drained its run: all that was queued in it has been sent, and
nothing is queued or sent in it any more, whatever is called later.  So when a stop returns, all
that has been queued so far has been sent if all runs are drained, and they are if all stops were
called where they wait.  A stop is never stuck, and the workers that it waits for make no more than
so many moves.  The plain engine has one worker. -/
theorem all_sent (kind : EngineKind) {before after : List SenderMove} {s t : SenderCalls}
    (reached : play move? (start kind) before = some s) (later : play move? s after = some t) :
    (∀ i data, s.castings[i]? = some (.called data) →
      ∃ u, s.move? (.broadcast i) = some u ∧ u.castings[i]? =
        some (if s.service.isRunning then .looked data else .returned data none)) ∧
    (∀ i data, s.castings[i]? = some (.looked data) → s.locked = false →
      ∃ u, s.move? (.broadcast i) = some u ∧
        u.castings[i]? = some (.returned data (s.service.running.map fun _ => s.run))) ∧
    s.queued.Perm (s.castings.filterMap Casting.posted?) ∧
    (∀ r, (ofRun r s.wire).Subperm (ofRun r s.queued) ∧
      (s.workers[r]? = some 1 → ofRun r s.wire <+: ofRun r s.queued)) ∧
    (∀ i site u, s.haltings[i]? = some (.waiting site) → kind.waitsAt site = true →
      s.move? (.stop i) = some u → u.run = s.run + 1 ∧ u.Drained s.run ∧ u.AllSent s.run) ∧
    (∀ i site u, s.move? (.stop i) = some u → u.haltings[i]? = some (.returned site) →
      (∀ d ∈ u.queued, d.run < u.run) ∧
      ((∀ r < u.run, u.Drained r) → u.wire.Perm u.queued)) ∧
    ((∀ call ∈ s.haltings, kind.waitsAt call.site = true) → ∀ r < s.run, s.Drained r) ∧
    (∀ r < s.run, ofRun r t.queued = ofRun r s.queued ∧
      (s.Drained r → s.AllSent r ∧ t.Drained r ∧ ofRun r t.wire = ofRun r s.wire)) ∧
    (s.locked = true → ∃ m u, s.move? m = some u ∧ ((∃ i, m = .work i) ∨
      ∃ i site, m = .stop i ∧ u.haltings[i]? = some (.returned site))) ∧
    (∀ p, s.leaving = some p → t.run = s.run →
      after.countP SenderMove.isWork ≤ p.movesLeft) ∧
    (kind = .multicast → ∀ n ∈ s.workers, n = 1) := by
  obtain ⟨pool, h⟩ := keeps_play (keeps_start kind) reached
  refine ⟨fun i data => broadcast_called, fun i data => broadcast_looked h.stands, h.posted,
    h.books.sent_subperm, ?_, ?_, ?_, ?_, exists_drain h, ?_, h.alone⟩
  · intro i site u hthere hwaits hmove
    obtain ⟨pool', hgoes⟩ := move?_goes h hmove
    obtain ⟨hrun, hdrained⟩ := drained_of_waits h hthere hwaits hmove
    exact ⟨hrun, hdrained, allSent_of_drained (hgoes.keeps h) hdrained⟩
  · intro i site u hmove hreturned
    obtain ⟨_, hgoes, hnone⟩ := stop_goes h hmove
    obtain rfl := hnone ⟨site, hreturned⟩
    have hu := hgoes.keeps h
    have hbegun : u.workers.length = u.run := hu.begun
    exact ⟨hbegun ▸ hu.books.run_lt, perm_of_drained hu⟩
  · intro hwaits r hr
    have hleft := List.getElem?_eq_getElem (h.ended.symm ▸ hr : r < s.behind.length)
    exact hleft.trans (congrArg some (h.drained hwaits _ (List.mem_of_getElem? hleft)))
  · intro r hr
    obtain ⟨hqueued, hdrained⟩ := (past_play h later).2 r hr
    exact ⟨hqueued, fun hd => ⟨allSent_of_drained h hd, hdrained hd⟩⟩
  · intro p hleaving hrun
    exact Nat.le_trans (countP_isWork_le h hleaving after later hrun) p.load_le

/-- Where some moves lead. -/
def reach (kind : EngineKind) (moves : List SenderMove) : SenderCalls :=
  (play move? (start kind) moves).getD (start kind)

/-- Of three broadcasts that have seen the server running, two come to the lock before a stop and
one after it; two workers send what was queued, the later datagram first. -/
def overtaken : List SenderMove :=
  [.start (.ok 2), .callBroadcast [97], .callBroadcast [98], .callBroadcast [99], .broadcast 0,
    .broadcast 1, .broadcast 2, .broadcast 0, .broadcast 1, .callStop .outside, .stop 0, .work 0,
    .work 1, .work 1, .work 0, .work 0, .work 1, .stop 0, .broadcast 2]

/-- Then the server runs again and sends another datagram. -/
def again : List SenderMove :=
  [.start (.ok 1), .callBroadcast [100], .broadcast 3, .broadcast 3, .work 0, .work 0]

theorem all_sent_overtaken :
    (reach .pooledMulticast overtaken).castings =
        [.returned [97] (some 0), .returned [98] (some 0), .returned [99] none] ∧
      (reach .pooledMulticast overtaken).AllSent 0 ∧
      (reach .pooledMulticast overtaken).queued = [⟨0, [97]⟩, ⟨0, [98]⟩] ∧
      (reach .pooledMulticast (overtaken ++ again)).wire =
        [⟨0, [98]⟩, ⟨0, [97]⟩, ⟨1, [100]⟩] ∧
      ofRun 0 (reach .pooledMulticast (overtaken ++ again)).wire =
        ofRun 0 (reach .pooledMulticast overtaken).wire := by
  have hbefore : play move? (start .pooledMulticast) overtaken =
      some (reach .pooledMulticast overtaken) := by cbv
  have hlater : play move? (reach .pooledMulticast overtaken) again =
      some (reach .pooledMulticast (overtaken ++ again)) := by cbv
  obtain ⟨-, -, -, -, -, -, hdrained, hpast, -⟩ := all_sent .pooledMulticast hbefore hlater
  have hall := hdrained (fun _ _ => rfl) 0 (by decide +kernel)
  obtain ⟨hsent, -, hwire⟩ := (hpast 0 (by decide +kernel)).2 hall
  exact ⟨by cbv, hsent, by cbv, by cbv, hwire⟩

/-- The plain engine has queued a datagram when it is stopped on a thread that runs tasks. -/
def leftBehind : List SenderMove :=
  [.start (.ok 1), .callBroadcast [97], .broadcast 0, .broadcast 0, .callStop .insideTask, .stop 0,
    .stop 0]

/-- The executor has refused to wait, so the stop has returned and the datagram has not been sent.
It may be sent when the server runs again, or never. -/
theorem unsent_leftBehind :
    (∀ (e : Executor) (limit : Duration), (e.blockOnFor .insideTask limit (some ())).isOk = false) ∧
    play move? (start .multicast) leftBehind = some (reach .multicast leftBehind) ∧
      (reach .multicast leftBehind).haltings = [.returned .insideTask] ∧
      (reach .multicast leftBehind).castings = [.returned [97] (some 0)] ∧
      (reach .multicast leftBehind).wire = [] ∧
      (reach .multicast (leftBehind ++ [.start (.ok 1)])).wire = [] ∧
      ∃ later, play move? (reach .multicast leftBehind) later =
          some (reach .multicast (leftBehind ++ later)) ∧
        (reach .multicast (leftBehind ++ later)).service.isRunning = true ∧
        (reach .multicast (leftBehind ++ later)).wire = [⟨0, [97]⟩] :=
  ⟨fun _ _ => rfl, by cbv, by cbv, by cbv, by cbv, by cbv,
    [.start (.ok 1), .straggle 0 0, .straggle 0 0], by cbv, by cbv, by cbv⟩

end SenderCalls

end Interleaving

end Lifecast
