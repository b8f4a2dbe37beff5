/-
What a client tells of its connections.

The log of a client whose calls are made from outside, in turn, and wait is a row of blocks, one for
each connection that a call made: it was made, these frames came, it ended.  Only the last block may
lack its end (`log_eq_blocks`).  The frames of a block are those that a new buffer makes of what was
read of its connection.

With such calls the client needs no more than one reader (`MirrorsCalls.play`), and what it has told
then follows from how it stands (`ClientCalls.behaved_play`).

Neither condition can be spared.  A call whose wait is refused tells the end of a connection that is
still read, and a loop that ends a connection by itself does so a moment before it tells
(`farewell_too_early`).
-/
import Lifecast.Executor
import Lifecast.Proofs.Client.Mirror

namespace Lifecast

namespace Interleaving

open ClientCalls (framesOf openBlock closedBlocks)

/-- Has the call made a connection and told so? -/
def Joining.hasConnected : Joining → Bool
  | releasing _ | returned (.ok _) => true
  | called _ | clearing _ | opening _ | telling _ | returned (.error _) => false

/-! ### Blocks -/

/-- What is told of one connection. -/
structure Block where
  /-- What was read of it. -/
  reads : List Bytes
  /-- The frames that were handed out. -/
  frames : List Bytes
  /-- Was its end told of? -/
  ended : Bool

namespace Block

/-- The part of the log that it makes up. -/
def events (b : Block) : List ClientEvent :=
  openBlock b.frames ++ if b.ended then [.disconnected] else []

/-- A connection that has ended, with all its frames. -/
def whole (d : UInt8) (chunks : List Bytes) : Block :=
  { reads := chunks, frames := framesOf d chunks, ended := true }

/-- Does the last of some blocks lack its end? -/
def lastIsOpen (blocks : List Block) : Bool :=
  blocks.getLast?.any (!·.ended)

theorem countP_isConnected (blocks : List Block) :
    (blocks.flatMap events).countP ClientEvent.isConnected = blocks.length := by
  induction blocks with
  | nil => rfl
  | cons b rest ih =>
      have hframes : ∀ frames : List Bytes,
          (frames.map (ClientEvent.frame "")).countP ClientEvent.isConnected = 0 := by
        intro frames
        rw [List.countP_map]
        exact List.countP_eq_zero.mpr fun _ _ => nofun
      have hone : b.events.countP ClientEvent.isConnected = 1 := by
        rw [events, openBlock, List.countP_append, List.countP_cons, hframes]
        cases b.ended with
        | true => rfl
        | false => rfl
      rw [List.flatMap_cons, List.countP_append, hone, ih, List.length_cons, Nat.add_comm]

theorem closedBlocks_eq (d : UInt8) (reads : List (List Bytes)) :
    closedBlocks d reads = (reads.reverse.map (whole d)).flatMap events := by
  rw [closedBlocks, List.flatMap_map]
  rfl

theorem map_reads_whole (d : UInt8) (reads : List (List Bytes)) :
    (reads.map (whole d)).map Block.reads = reads := by
  rw [List.map_map]
  exact List.map_id _

theorem of_mem_whole {d : UInt8} {reads : List (List Bytes)} {b : Block}
    (hb : b ∈ reads.map (whole d)) : b.ended = true ∧ b.frames = framesOf d b.reads := by
  obtain ⟨chunks, -, rfl⟩ := List.mem_map.mp hb
  exact ⟨rfl, rfl⟩

end Block

namespace ReceiveLoops

variable {s t : ReceiveLoops}

/-- What the client has been told. -/
def told (s : ReceiveLoops) : List ClientEvent :=
  s.log.filterMap LoopEvent.told?

/-- The frames that the last loop has yet to hand out. -/
def undelivered (s : ReceiveLoops) : List Bytes :=
  (s.loops.getLast?.map (·.place.rest)).getD []

/-- Has a loop yet to tell the end of a connection? -/
def isTelling (s : ReceiveLoops) : Bool :=
  s.loops.any (·.place.isTelling)

/-- What the client has been told consists of these blocks. -/
structure Recounts (s : ReceiveLoops) (blocks : List Block) : Prop where
  /-- It is one block after the other. -/
  log : s.told = blocks.flatMap Block.events
  /-- Only the last may lack its end. -/
  ended : ∀ b ∈ blocks.dropLast, b.ended = true
  /-- There is one for each call that has made a connection and told so. -/
  calls : blocks.length = s.joins.countP (·.place.hasConnected)
  /-- They are about the connections in order. -/
  reads : blocks.map Block.reads <+: readsOf s.loops.length s.log
  /-- A new buffer makes the frames of what was read, but for those which are yet to be
  handed out. -/
  frames : ∀ b ∈ blocks,
    b.frames ++ (if b.ended then [] else s.undelivered) = framesOf s.delimiter b.reads
  /-- When all calls have returned, none is missing. -/
  whole : s.isQuiet = true → blocks.map Block.reads = readsOf s.loops.length s.log
  /-- When a loop is about to tell of the end, the last lacks its end. -/
  telling : s.isTelling = true → Block.lastIsOpen blocks = true
  /-- When all calls have returned, the client is connected just if the last lacks its end and no
  loop is about to tell of it. -/
  connected : s.isQuiet = true →
    (s.state = .connected ↔ Block.lastIsOpen blocks = true ∧ s.isTelling = false)

/-- Blocks that have ended, in a log that consists of them. -/
theorem Recounts.of_closed {before : List (List Bytes)}
    (hlog : s.told = closedBlocks s.delimiter before)
    (hmade : s.told.countP ClientEvent.isConnected = s.joins.countP (·.place.hasConnected))
    (hreads : before.reverse <+: readsOf s.loops.length s.log)
    (hwhole : s.isQuiet = true → before.reverse = readsOf s.loops.length s.log)
    (hconnected : s.isQuiet = true → s.state ≠ .connected) (htelling : s.isTelling = false) :
    s.Recounts (before.reverse.map (Block.whole s.delimiter)) := by
  have hclosed : Block.lastIsOpen (before.reverse.map (Block.whole s.delimiter)) = false := by
    rw [Block.lastIsOpen, Option.any_eq_false]
    intro b hb
    rw [(Block.of_mem_whole (List.mem_of_getLast? hb)).1]
    rfl
  rw [Block.closedBlocks_eq] at hlog
  refine ⟨hlog, ?_, ?_, ?_, ?_, ?_, ?_, ?_⟩
  · exact fun b hb => (Block.of_mem_whole (List.dropLast_subset _ hb)).1
  · rw [← hmade, hlog, Block.countP_isConnected]
  · rw [Block.map_reads_whole]
    exact hreads
  · intro b hb
    obtain ⟨hended, hframes⟩ := Block.of_mem_whole hb
    rw [hended, hframes]
    exact List.append_nil _
  · intro hquiet
    rw [Block.map_reads_whole, hwhole hquiet]
  · rw [htelling]
    exact fun htrue => absurd htrue Bool.false_ne_true
  · intro hquiet
    rw [hclosed]
    exact iff_of_false (hconnected hquiet) (fun h => Bool.false_ne_true h.1)

/-- Blocks that have ended, and one that has not, in a log that consists of them. -/
theorem Recounts.of_open {chunks delivered : List Bytes} {before : List (List Bytes)}
    (hreads : readsOf s.loops.length s.log = before.reverse ++ [chunks])
    (hlog : s.told = closedBlocks s.delimiter before ++ openBlock delivered)
    (hframes : delivered ++ s.undelivered = framesOf s.delimiter chunks)
    (hmade : s.told.countP ClientEvent.isConnected = s.joins.countP (·.place.hasConnected))
    (hconnected : s.isQuiet = true → (s.state = .connected ↔ s.isTelling = false)) :
    s.Recounts (before.reverse.map (Block.whole s.delimiter)
      ++ [Block.mk chunks delivered false]) := by
  have hopen : Block.lastIsOpen (before.reverse.map (Block.whole s.delimiter)
      ++ [Block.mk chunks delivered false]) = true := by
    rw [Block.lastIsOpen, List.getLast?_concat]
    rfl
  have hmap : (before.reverse.map (Block.whole s.delimiter)
      ++ [Block.mk chunks delivered false]).map Block.reads = readsOf s.loops.length s.log := by
    rw [hreads, List.map_append, Block.map_reads_whole]
    rfl
  have hevents : s.told = (before.reverse.map (Block.whole s.delimiter)
      ++ [Block.mk chunks delivered false]).flatMap Block.events := by
    rw [hlog, Block.closedBlocks_eq, List.flatMap_append, List.flatMap_singleton]
    exact congrArg _ (List.append_nil _).symm
  refine ⟨hevents, ?_, ?_, ?_, ?_, fun _ => hmap, fun _ => hopen, ?_⟩
  · rw [List.dropLast_concat]
    exact fun b hb => (Block.of_mem_whole hb).1
  · rw [← hmade, hevents, Block.countP_isConnected]
  · exact hmap ▸ List.prefix_rfl
  · intro b hb
    rcases List.mem_append.mp hb with hbefore | hlast
    · obtain ⟨hended, hframes⟩ := Block.of_mem_whole hbefore
      rw [hended, hframes]
      exact List.append_nil _
    · rw [List.mem_singleton.mp hlast]
      exact hframes
  · intro hquiet
    rw [hopen]
    exact (hconnected hquiet).trans ⟨fun hnone => ⟨rfl, hnone⟩, And.right⟩

end ReceiveLoops

/-! ### What the mirror shows -/

namespace ReadBy

variable {reader : Reader} {buffer : FrameBuffer} {released cancelled : Bool}
  {s : ReceiveLoops} {c : ClientCalls}

theorem isTelling_iff (h : ReadBy reader buffer released cancelled s.loops) :
    s.isTelling = true ↔ reader = .telling := by
  unfold ReceiveLoops.isTelling
  generalize s.loops = loops at h
  cases h with
  | nobody hended =>
      rw [hended]
      exact iff_of_false Bool.false_ne_true nofun
  | @last before loop past place =>
      have hbefore : before.any (·.place.isTelling) = false := by
        rw [List.any_eq_false]
        intro l hl
        rw [past l hl]
        exact Bool.false_ne_true
      rw [List.any_append, hbefore, Bool.false_or, List.any_cons, List.any_nil, Bool.or_false,
        place]
      cases loop.place <;> simp [LoopPlace.isTelling, LoopPlace.reader]

theorem undelivered_eq (h : ReadBy c.reader buffer released cancelled s.loops) :
    c.undelivered = s.undelivered := by
  unfold ClientCalls.undelivered ReceiveLoops.undelivered
  generalize c.reader = reader at h
  generalize s.loops = loops at h
  cases h with
  | nobody hended => rw [hended]; rfl
  | @last before loop past place =>
      rw [List.getLast?_concat, place]
      cases hplace : loop.place <;> simp [LoopPlace.reader, hplace]

end ReadBy

namespace MirrorsCalls

variable {peer : Peer} {s : ReceiveLoops} {c : ClientCalls}

/-- As many calls have made a connection on the one side as on the other. -/
theorem countP_hasConnected (h : MirrorsCalls peer s c) :
    c.beginnings.countP Beginning.hasConnected = s.joins.countP (·.place.hasConnected) := by
  rw [h.joins, List.countP_map]
  congr 1
  funext call
  cases hplace : call.place with
  | returned result => cases result <;> simp [hplace, Joining.beginning, Beginning.hasConnected,
      Joining.hasConnected]
  | called | clearing | opening | telling | releasing =>
      simp [hplace, Joining.beginning, Beginning.hasConnected, Joining.hasConnected]

end MirrorsCalls

namespace ReceiveLoops

variable {s t : ReceiveLoops}

/-- What a client has told that stands somewhere and mirrors the loops. -/
theorem exists_recounts {peer : Peer} {config : EngineConfig} {c : ClientCalls} {turn : Turn}
    {telling : Telling} (h : MirrorsCalls peer s c) (hwaits : c.Waits turn)
    (hb : c.Behaved config turn telling)
    (hmade : c.made = c.beginnings.countP Beginning.hasConnected) :
    ∃ blocks, s.Recounts blocks := by
  have hdelimiter : config.delimiter = s.delimiter := by
    rw [← hb.configured]
    exact h.delimiter
  have hlogged := hb.logged
  rw [hdelimiter] at hlogged
  have hmade : s.told.countP ClientEvent.isConnected = s.joins.countP (·.place.hasConnected) := by
    rw [← h.countP_hasConnected, ← hmade, ClientCalls.made, h.log]
    rfl
  have hreads : readsOf s.loops.length s.log = c.reads.reverse := by
    rw [h.reads, List.reverse_reverse]
  have hnobody (hquiet : s.isQuiet = true) : turn = .nobody :=
    hwaits.of_isQuiet (h.isQuiet_eq.trans hquiet) hb.stands.ne_returned.1 hb.stands.ne_returned.2
  have htelling : telling ≠ .begun → s.isTelling = false := by
    intro hnot
    rw [← Bool.not_eq_true, h.loops.isTelling_iff]
    exact fun hreader => hnot (hb.stands.begun_of_telling hreader)
  cases telling with
  | past =>
      have hsilent := htelling (by rintro ⟨⟩)
      refine ⟨_, Recounts.of_closed (h.log.symm.trans hlogged) hmade ?_ ?_ ?_ hsilent⟩
      · rw [hreads]
      · exact fun _ => hreads.symm
      · intro hquiet
        obtain rfl := hnobody hquiet
        cases hb.stands with
        | past _ state =>
            rw [← h.state, state]
            rintro ⟨⟩
  | due =>
      obtain ⟨before, hs, hlog⟩ := hlogged
      have hbusy : s.isQuiet = true → False := by
        intro hquiet
        obtain rfl := hnobody hquiet
        cases hb.stands with
        | past _ _ past => rcases past.told with ⟨-, htelling⟩ | ⟨-, htelling⟩ <;> cases htelling
      have hsilent := htelling (by rintro ⟨⟩)
      refine ⟨_, Recounts.of_closed (h.log.symm.trans hlog) hmade ?_
        (fun hquiet => (hbusy hquiet).elim) (fun hquiet => (hbusy hquiet).elim) hsilent⟩
      rw [hreads, hs, List.reverse_cons]
      exact List.prefix_append _ _
  | begun =>
      obtain ⟨chunks, before, delivered, hs, hlog, hframes⟩ := hlogged
      have hlast : readsOf s.loops.length s.log = before.reverse ++ [chunks] := by
        rw [hreads, hs, List.reverse_cons]
      have hrest : delivered ++ s.undelivered = framesOf s.delimiter chunks := by
        rw [← h.loops.undelivered_eq, hframes]
      refine ⟨_, Recounts.of_open hlast (h.log.symm.trans hlog) hrest hmade ?_⟩
      intro hquiet
      obtain rfl := hnobody hquiet
      rw [← h.state, ← Bool.not_eq_true, h.loops.isTelling_iff]
      cases hb.stands with
      | past _ state past =>
          rcases past.told with ⟨-, htelling⟩ | ⟨hreader, -⟩
          · cases htelling
          · rw [state, hreader]
            exact iff_of_false (by rintro ⟨⟩) (fun hnot => hnot rfl)
      | live _ state _ follows => exact iff_of_true state follows.ne_telling

/-- **The log of a client whose calls are made from outside, in turn, and wait is a row of blocks,
one for each call that made a connection, and a call that fails tells nothing.** -/
theorem log_eq_blocks (kind : EngineKind) (delimiter : UInt8) (moves : List LoopMove)
    (played : play inTurn? (start kind delimiter) moves = some s) :
    (∃ blocks, s.Recounts blocks) ∧
    ∀ before i after t u e, moves = before ++ .connect i :: after →
      play inTurn? (start kind delimiter) before = some t → t.inTurn? (.connect i) = some u →
      s.joins[i]? = some ⟨none, .returned (.error e)⟩ → u.told = t.told := by
  have hstart := mirrors_start (.session 0) kind { delimiter }
  have hstands := ClientCalls.waits_start kind { delimiter }
  constructor
  · obtain ⟨steps, c, hc, h⟩ := hstart.play hstands moves played
    obtain ⟨turn, telling, hwaits, hb⟩ := ClientCalls.behaved_play kind { delimiter } steps hc
    exact exists_recounts h hwaits hb (ClientCalls.made_play kind { delimiter } steps hc)
  · rintro before i after t u e rfl hbefore moved hfailed
    rw [play_append, hbefore] at played
    have hafter : play inTurn? u after = some s := by
      have hstep : play inTurn? t (.connect i :: after) = some s := played
      rw [play, moved] at hstep
      exact hstep
    obtain ⟨steps, c, hc, ht⟩ := hstart.play hstands before hbefore
    obtain ⟨turn, telling, hwaits, hb⟩ := ClientCalls.behaved_play kind { delimiter } steps hc
    obtain ⟨d, hd, hu⟩ := ht.connect hwaits hb moved
    obtain ⟨more, last, hlast, hs⟩ := hu.play
      (ClientCalls.behaved_move hwaits hb hd) after hafter
    have hreturned : last.beginnings[i]? = some (.returned (.error e)) := by
      rw [hs.joins, List.getElem?_map, hfailed]
      rfl
    have hsame := ClientCalls.log_of_failed hd hlast hreturned
    exact hu.log.symm.trans ((congrArg Array.toList hsame).trans ht.log)

/-- Where some moves of a client with a connection engine lead. -/
def reached (moves : List LoopMove) : ReceiveLoops :=
  (play inTurn? (start .webSocket 10) moves).getD (start .webSocket 10)

/-- A call fails.  Another makes a connection, which brings a frame and is closed by the other
side.  The next call makes a connection again, and one more is about to be refused. -/
def reconnected : List LoopMove :=
  List.flatten
    [[.callConnect none (.error (.transport ""))], List.replicate 3 (.connect 0),
      [.callConnect none (.ok ())], List.replicate 5 (.connect 1),
      [.goOn 0, .read 0 [97, 10, 98], .goOn 0, .goOn 0, .goOn 0, .notice 0, .goOn 0, .goOn 0],
      [.callConnect none (.ok ())], List.replicate 5 (.connect 2),
      [.callConnect none (.ok ())]]

/-- A frame comes in two reads, and a call ends the connection. -/
def readAndEnded : List LoopMove :=
  List.flatten
    [[.goOn 1, .read 1 [99], .goOn 1, .read 1 [10], .goOn 1, .goOn 1, .goOn 1,
      .callDisconnect none], List.replicate 3 (.disconnect 0), [.seeCancelled 1],
      List.replicate 3 (.disconnect 0)]

theorem log_eq_blocks_reconnected :
    (∃ blocks, (reached (reconnected ++ .connect 3 :: readAndEnded)).Recounts blocks ∧
      blocks.length = 2 ∧
      blocks.flatMap Block.events
        = [.connected, .frame "" [97], .disconnected, .connected, .frame "" [99], .disconnected]) ∧
    (reached (reconnected ++ [.connect 3])).told = (reached reconnected).told := by
  have hall : play inTurn? (start .webSocket 10) (reconnected ++ .connect 3 :: readAndEnded)
      = some (reached (reconnected ++ .connect 3 :: readAndEnded)) := by cbv
  have hbefore : play inTurn? (start .webSocket 10) reconnected = some (reached reconnected) := by
    cbv
  have hrefused : (reached reconnected).inTurn? (.connect 3)
      = some (reached (reconnected ++ [.connect 3])) := by cbv
  have hcall : (reached (reconnected ++ .connect 3 :: readAndEnded)).joins[3]?
      = some ⟨none, .returned (.error .alreadyConnected)⟩ := by cbv
  have hcalls : (reached (reconnected ++ .connect 3 :: readAndEnded)).joins.countP
      (·.place.hasConnected) = 2 := by cbv
  have htold : (reached (reconnected ++ .connect 3 :: readAndEnded)).told
      = [.connected, .frame "" [97], .disconnected, .connected, .frame "" [99],
        .disconnected] := by cbv
  obtain ⟨⟨blocks, h⟩, hfailed⟩ := log_eq_blocks .webSocket 10 _ hall
  exact ⟨⟨blocks, h, h.calls.trans hcalls, h.log.symm.trans htold⟩,
    hfailed reconnected 3 readAndEnded _ _ .alreadyConnected rfl hbefore hrefused hcall⟩

/-- A connection brings two frames in one read, and while the callback for the first is running, a
call from outside ends it whose wait is refused. -/
def refused : List LoopMove :=
  List.flatten
    [[.callConnect none (.ok ())], List.replicate 5 (.connect 0),
      [.goOn 0, .read 0 [97, 10, 98, 10], .goOn 0, .callDisconnect none],
      List.replicate 4 (.disconnect 0), [.giveUp 0], List.replicate 2 (.disconnect 0),
      [.goOn 0, .goOn 0]]

/-- The other side closes a connection, and the loop has yet to tell. -/
def unspoken : List LoopMove :=
  List.flatten
    [[.callConnect none (.ok ())], List.replicate 5 (.connect 0), [.goOn 0, .notice 0, .goOn 0]]

/-- An executor refuses to wait on a thread that runs tasks, and then a frame comes behind the end
of its connection.  And with nobody in a call or a callback, a client is not connected whose last
block is open. -/
theorem farewell_too_early :
    (∀ (e : Executor) (limit : Duration), (e.blockOnFor .insideTask limit (some ())).isOk = false) ∧
    (play move? (start .multicast 10) refused).map told
        = some [.connected, .frame "" [97], .disconnected, .frame "" [98]] ∧
      play inTurn? (start .webSocket 10) unspoken = some (reached unspoken) ∧
      (reached unspoken).isQuiet = true ∧
      (reached unspoken).inCallback 0 = false ∧ (reached unspoken).state = .disconnected ∧
      (reached unspoken).told = [.connected] :=
  ⟨fun _ _ => rfl, by cbv, by cbv, by cbv, by cbv, by cbv, by cbv⟩

end ReceiveLoops

end Interleaving

end Lifecast
