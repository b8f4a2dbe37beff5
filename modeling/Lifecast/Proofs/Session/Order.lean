/-
The order in which a server goes through its members is no matter.

A registry keeps no order, so a server that sends to its members or closes them does so in
any.  Closing one session and then another comes to the same either way round
(`close_right_comm`), and so does sending to them (`send_right_comm`).  A hub, which goes
through its members by their handles, is therefore as good as any server: a stop or a
broadcast that nothing comes between leaves what the call of the hub leaves, whatever order
it takes (`ServerRuns.play_stopMoves`, `ServerRuns.play_broadcastMoves`).
-/
import Lifecast.Interleaving.ServerRuns
import Lifecast.Proofs.Session.Calls

namespace Lifecast

namespace Hub

theorem update_comm (hub : Hub) {h i : Handle} (hne : h ≠ i) (first second : Session → Session) :
    (hub.update h first).update i second = (hub.update i second).update h first := by
  simp only [update]
  congr 1
  apply Array.ext_getElem?
  intro j
  simp only [Array.getElem?_modify]
  by_cases hj : h = j
  · have hij : i ≠ j := fun heq => hne (hj.trans heq.symm)
    simp [hj, hij]
  · simp [hj]

/-! ### Sending -/

/-- Sending to two sessions is the same either way round. -/
theorem send_right_comm (hub : Hub) (h i : Handle) (message : String) :
    (hub.send h message).send i message = (hub.send i message).send h message := by
  by_cases heq : h = i
  · rw [heq]
  · -- What a session is offered depends on nothing that sending changes.
    simp only [send_eq_update]
    exact hub.update_comm heq _ _

theorem sendAll_perm (hub : Hub) {hs order : List Handle} (hperm : order.Perm hs)
    (message : String) : hub.sendAll order message = hub.sendAll hs message :=
  hperm.foldl_eq' (fun h _ i _ hub => hub.send_right_comm h i message) hub

/-! ### Closing -/

/-- Does a member stay when a session is closed? -/
def stays (hub : Hub) (h : Handle) (member : Nat × Handle) : Bool :=
  hub.sessions[h]?.all fun s => s.latched || member.1 != s.id

theorem close_eq (hub : Hub) (h : Handle) :
    hub.close h
      = { hub.update h Session.closed with members := hub.members.filter (hub.stays h) } := by
  cases hs : hub.sessions[h]? with
  | none =>
      have hall : hub.members.filter (hub.stays h) = hub.members := by simp [stays, hs]
      rw [close_of_none hs, update_of_none hs, hall]
  | some s =>
      have hstays : hub.stays h = fun member => s.latched || member.1 != s.id := by
        funext member
        simp [stays, hs]
      rw [close_of_some hs, hstays]
      cases s.latched with
      | true => simp
      | false => simp [without]

/-- Closing two sessions is the same either way round: each only takes its own id out. -/
theorem close_right_comm (hub : Hub) (h i : Handle) :
    (hub.close h).close i = (hub.close i).close h := by
  by_cases heq : h = i
  · rw [heq]
  · have hi : (hub.close h).stays i = hub.stays i := by
      funext member
      rw [stays, getElem?_close, if_neg heq, stays]
    have hh : (hub.close i).stays h = hub.stays h := by
      funext member
      rw [stays, getElem?_close, if_neg (Ne.symm heq), stays]
    rw [close_eq (hub.close h), close_eq (hub.close i), hi, hh, close_eq hub h, close_eq hub i]
    show ({ (hub.update h Session.closed).update i Session.closed with
        members := (hub.members.filter (hub.stays h)).filter (hub.stays i) } : Hub) = _
    rw [hub.update_comm heq, List.filter_comm]
    rfl

theorem closeEach_perm (hub : Hub) {hs order : List Handle} (hperm : order.Perm hs) :
    hub.closeEach order = hub.closeEach hs :=
  hperm.foldl_eq' (fun h _ i _ hub => hub.close_right_comm h i) hub

end Hub

namespace Interleaving

namespace ServerRuns

/-! ### Calls that nothing comes between -/

/-- The moves of a stop that closes the members in some order. -/
def stopMoves (order : List Handle) : List ServerMove :=
  .cancelRun :: .drain order :: order.map (fun _ => .closeNext) ++ [.stopped]

theorem play_closeEach {s : ServerRuns} {rest : List Handle} (hclosing : s.stage = .closing rest) :
    play move? s (rest.map (fun _ => .closeNext) ++ [.stopped])
      = some { s with stage := .stopped, hub := s.hub.closeEach rest } := by
  induction rest generalizing s with
  | nil => simp [play, move?, hclosing, Hub.closeEach]
  | cons h rest ih =>
      simp only [List.map_cons, List.cons_append, play, move?, hclosing]
      rw [ih rfl]
      rfl

/-- A stop cancels the run and closes all members. -/
theorem play_stopMoves {s : ServerRuns} (hrunning : s.stage = .running) {order : List Handle}
    (hperm : order.Perm s.hub.snapshot) :
    play move? s (stopMoves order)
      = some { s with
          stage := .stopped
          hub := (s.hub.cancelRun s.lastRun).closeAll.2
          drained := s.lastRun :: s.drained } := by
  have hsame : order.Perm (s.hub.cancelRun s.lastRun).snapshot := hperm
  simp only [stopMoves, List.cons_append, play, move?, hrunning, ↓reduceIte, hsame, and_self]
  rw [play_closeEach rfl, Hub.closeEach_perm _ hsame]
  rfl

/-- The moves of a broadcast that sends to the members in some order, as broadcast `i`. -/
def broadcastMoves (i : Nat) (message : String) (order : List Handle) : List ServerMove :=
  .broadcast message order :: order.map fun _ => .sendNext i

theorem play_sendAll {s : ServerRuns} {i : Nat} {message : String} {rest : List Handle}
    (hsending : s.broadcasts[i]? = some { message, rest }) :
    play move? s (rest.map fun _ => .sendNext i)
      = some { s with
          hub := s.hub.sendAll rest message
          broadcasts := s.broadcasts.set i { message, rest := [] } } := by
  obtain ⟨hlt, hat⟩ := List.getElem?_eq_some_iff.mp hsending
  induction rest generalizing s with
  | nil =>
      rw [← hat, List.set_getElem_self]
      rfl
  | cons h rest ih =>
      simp only [List.map_cons, play, move?, hsending]
      rw [ih (by simp [hlt]) (by simp [hlt]) (by simp)]
      simp [Hub.sendAll]

/-- A broadcast sends to all members. -/
theorem play_broadcastMoves (s : ServerRuns) (message : String) {order : List Handle}
    (hperm : order.Perm s.hub.snapshot) :
    play move? s (broadcastMoves s.broadcasts.length message order)
      = some { s with
          hub := (s.hub.broadcast message).2
          broadcasts := s.broadcasts ++ [{ message, rest := [] }] } := by
  simp only [broadcastMoves, play, move?, hperm, ↓reduceIte]
  rw [play_sendAll (List.getElem?_concat_length ..)]
  simp [Hub.sendAll_perm _ hperm, Hub.broadcast]

end ServerRuns

end Interleaving

end Lifecast
