/-
What a consumer shows, read off what has happened.

Three things decide what is drawn at a tick: the frames that have arrived since the last tick, the
frames that have arrived at all, and the connection (`due`).  The slot holds just that much of the
history (`Stands`): its flag says whether a frame has arrived since the last tick, its frame is the
last that ever arrived.  So what is written at each event can be told from the events before
(`getElem?_run`).

A frame that cannot be read is not drawn, but it counts as one that arrived.  All such frames are
alike, so a run does not tell them apart (`Alike`).
-/
import Mathlib.Data.List.DropRight
import Lifecast.Program.Consumer
import Lifecast.Proofs.View.Drawing

namespace Lifecast

/-- The picture that a payload shows, if it can be read. -/
def Picture.shownBy? (payload : Bytes) : Option Picture :=
  (parse payload).toOption

/-! ### What has happened -/

namespace ConsumerEvent

/-- The frame that arrives, if one does. -/
def frame? : ConsumerEvent → Option Bytes
  | frame payload => some payload
  | connection _ | tick => none

/-- What becomes of the connection, if anything does. -/
def connection? : ConsumerEvent → Option Bool
  | connection made => some made
  | frame _ | tick => none

/-- Is it time to draw? -/
def isTick : ConsumerEvent → Bool
  | tick => true
  | frame _ | connection _ => false

/-- The frames that have arrived, oldest first. -/
def arrived (events : List ConsumerEvent) : List Bytes :=
  events.filterMap frame?

/-- What has happened since the last tick. -/
def sinceTick (events : List ConsumerEvent) : List ConsumerEvent :=
  events.rtakeWhile (!·.isTick)

/-- Is there a connection? -/
def isConnected (events : List ConsumerEvent) : Bool :=
  (events.filterMap connection?).getLast?.getD false

/-- Two events that are the same but for a frame that cannot be read. -/
inductive Alike : ConsumerEvent → ConsumerEvent → Prop where
  | same (e : ConsumerEvent) : Alike e e
  | malformed {p q : Bytes} (first : Picture.shownBy? p = none)
      (second : Picture.shownBy? q = none) : Alike (.frame p) (.frame q)

variable {events : List ConsumerEvent} {payload : Bytes}

theorem arrived_append (before after : List ConsumerEvent) :
    arrived (before ++ after) = arrived before ++ arrived after :=
  List.filterMap_append

theorem sinceTick_tick (events : List ConsumerEvent) : sinceTick (events ++ [tick]) = [] :=
  List.rtakeWhile_concat_neg _ _ _ (by simp [isTick])

theorem sinceTick_concat (events : List ConsumerEvent) {e : ConsumerEvent}
    (he : e.isTick = false) : sinceTick (events ++ [e]) = sinceTick events ++ [e] :=
  List.rtakeWhile_concat_pos _ _ _ (by simp [he])

/-- The newest of the frames since the last tick is the newest of all. -/
theorem getLast?_arrived (h : (arrived (sinceTick events)).getLast? = some payload) :
    (arrived events).getLast? = some payload := by
  have hsplit : events = events.rdropWhile (!·.isTick) ++ sinceTick events :=
    List.rdropWhile_append_rtakeWhile.symm
  rw [hsplit, arrived_append, List.getLast?_append, h]
  rfl

theorem arrived_ne_nil (h : (arrived (sinceTick events)).getLast? = some payload) :
    arrived events ≠ [] := by
  intro hnil
  have hlast := getLast?_arrived h
  rw [hnil] at hlast
  cases hlast

end ConsumerEvent

namespace Consumer

open ConsumerEvent

variable {c : Consumer} {events : List ConsumerEvent} {w : Writer} {cellWidth : Nat}

/-- A consumer that is yet to begin. -/
def start (w : Writer) (cellWidth : Nat) : Consumer :=
  { screen := .new w cellWidth }

/-- What is to be drawn at a tick that comes next. -/
def due (events : List ConsumerEvent) : Option DrawCall :=
  match (arrived (sinceTick events)).getLast? with
  | some payload => (Picture.shownBy? payload).map .grid
  | none => if arrived events = [] then some (.status (status (isConnected events))) else none

theorem due_of_fresh {payload : Bytes}
    (h : (arrived (sinceTick events)).getLast? = some payload) :
    due events = (Picture.shownBy? payload).map .grid := by
  rw [due, h]

theorem due_of_stale (h : (arrived (sinceTick events)).getLast? = none)
    (hsome : arrived events ≠ []) : due events = none := by
  rw [due, h]
  exact if_neg hsome

theorem due_of_silence (h : arrived events = []) :
    due events = some (.status (status (isConnected events))) := by
  have hlast : (arrived (sinceTick events)).getLast? = none := by
    rw [Option.eq_none_iff_forall_ne_some]
    exact fun payload hlast => arrived_ne_nil hlast h
  rw [due, hlast]
  exact if_pos h

/-- What is written at an event. -/
def shown (cellWidth : Nat) (before : List ConsumerEvent) (e : ConsumerEvent) : Bytes :=
  if e.isTick then (due before).elim [] (DrawCall.bytes cellWidth) else []

/-! ### The slot holds what is needed of it -/

/-- Where a consumer has got to. -/
structure Stands (cellWidth : Nat) (before : List ConsumerEvent) (c : Consumer) : Prop where
  screen : ∃ w : Writer, w.NeverFails ∧ c.screen = .new w cellWidth
  latest : c.slot.latest = (arrived before).getLast?
  fresh : c.slot.fresh = true ↔ (arrived (sinceTick before)).getLast?.isSome = true
  connected : c.slot.connected = isConnected before

theorem stands_start (hw : w.NeverFails) : Stands cellWidth [] (start w cellWidth) where
  screen := ⟨w, hw, rfl⟩
  latest := rfl
  fresh := ⟨nofun, nofun⟩
  connected := rfl

/-- A call on a screen that never fails writes its text. -/
theorem perform_of_neverFails (hw : w.NeverFails) (call : DrawCall) :
    ∃ w' : Writer, w'.NeverFails ∧ (Screen.new w cellWidth).perform call
      = { screen := .new w' cellWidth, written := call.bytes cellWidth, fault := none } := by
  obtain ⟨hchunk, hlimit⟩ := Writer.neverFails_iff.mp hw
  refine ⟨w.take (call.bytes cellWidth).length, hw.take _, ?_⟩
  rw [Screen.perform_eq hchunk, Writer.yield_of_unlimited hlimit]

/-- The frame that a tick takes is the newest since the last one. -/
theorem Stands.takeFresh (h : Stands cellWidth events c) :
    c.slot.takeFresh = ((arrived (sinceTick events)).getLast?, { c.slot with fresh := false }) := by
  have htaken : (if c.slot.fresh then c.slot.latest else none)
      = (arrived (sinceTick events)).getLast? := by
    cases hlast : (arrived (sinceTick events)).getLast? with
    | none =>
        have hlowered : c.slot.fresh ≠ true := fun hfresh => by
          have hsome := h.fresh.mp hfresh
          rw [hlast] at hsome
          cases hsome
        rw [if_neg hlowered]
    | some payload =>
        have hraised : c.slot.fresh = true := h.fresh.mpr (by rw [hlast]; rfl)
        rw [if_pos hraised, h.latest, getLast?_arrived hlast]
  exact Prod.ext htaken rfl

/-- What is drawn of a frame that was taken, or else of the slot. -/
def callFor (taken : Option Bytes) (slot : FrameSlot) : Option DrawCall :=
  match taken with
  | some payload => (Picture.shownBy? payload).map .grid
  | none => if slot.hasFrame then none else some (.status (status slot.connected))

theorem callFor_eq {slot : FrameSlot} (hlatest : slot.latest = (arrived events).getLast?)
    (hconnected : slot.connected = isConnected events) :
    callFor (arrived (sinceTick events)).getLast? slot = due events := by
  unfold callFor due
  cases (arrived (sinceTick events)).getLast? with
  | some payload => rfl
  | none =>
      dsimp only
      rw [FrameSlot.hasFrame, hlatest, hconnected]
      by_cases hnil : arrived events = []
      · rw [hnil, if_pos rfl]
        rfl
      · rw [List.getLast?_isSome.mpr hnil, if_pos rfl, if_neg hnil]

/-- To draw is to take from the slot and to make the call that is due, if any. -/
theorem draw_eq (c : Consumer) :
    c.draw.1 = (callFor c.slot.takeFresh.1 c.slot.takeFresh.2).elim c.screen.drawNothing
        c.screen.perform ∧
      c.draw.2 = { slot := c.slot.takeFresh.2, screen := c.draw.1.screen } := by
  refine ⟨?_, rfl⟩
  unfold Consumer.draw callFor
  dsimp only
  cases c.slot.takeFresh.1 with
  | some payload =>
      unfold Picture.shownBy?
      dsimp only
      cases Picture.parse payload <;> rfl
  | none =>
      dsimp only
      split <;> rfl

/-- What is due is drawn. -/
theorem Stands.draw (h : Stands cellWidth events c) :
    ∃ w : Writer, w.NeverFails ∧
      c.draw.1.written = (due events).elim [] (DrawCall.bytes cellWidth) ∧
      c.draw.2 = { slot := { c.slot with fresh := false }, screen := .new w cellWidth } := by
  obtain ⟨w, hw, hscreen⟩ := h.screen
  obtain ⟨hdrawing, hafter⟩ := c.draw_eq
  have hcall :
      callFor (arrived (sinceTick events)).getLast? { c.slot with fresh := false } = due events :=
    callFor_eq h.latest h.connected
  rw [hdrawing, h.takeFresh, hcall, hscreen] at hafter
  rw [hdrawing, h.takeFresh, hcall, hscreen]
  cases hdue : due events with
  | none =>
      rw [hdue] at hafter
      exact ⟨w, hw, rfl, hafter⟩
  | some call =>
      obtain ⟨w', hw', hperform⟩ := perform_of_neverFails hw call
      rw [hdue, Option.elim_some, hperform] at hafter
      rw [Option.elim_some, hperform]
      exact ⟨w', hw', rfl, hafter⟩

/-- **What is written at an event can be told from the events before.** -/
theorem Stands.step (h : Stands cellWidth events c) (e : ConsumerEvent) :
    (c.step e).1 = shown cellWidth events e ∧ Stands cellWidth (events ++ [e]) (c.step e).2 := by
  cases e with
  | frame payload =>
      refine ⟨rfl, h.screen, ?_, ?_, ?_⟩
      · rw [arrived_append]
        exact List.getLast?_concat.symm
      · rw [sinceTick_concat events rfl, arrived_append]
        show true = true ↔ _
        simp [arrived, frame?]
      · rw [isConnected, List.filterMap_append]
        exact (List.append_nil (events.filterMap connection?)).symm ▸ h.connected
  | connection made =>
      refine ⟨rfl, h.screen, ?_, ?_, ?_⟩
      · rw [arrived_append]
        exact (List.append_nil (arrived events)).symm ▸ h.latest
      · rw [sinceTick_concat events rfl, arrived_append]
        exact (List.append_nil (arrived (sinceTick events))).symm ▸ h.fresh
      · rw [isConnected, List.filterMap_append]
        show made = _
        simp [connection?]
  | tick =>
      obtain ⟨w, hw, hwritten, hafter⟩ := h.draw
      have hstep : c.step .tick = (c.draw.1.written, c.draw.2) := rfl
      rw [hstep, hafter]
      refine ⟨hwritten, ⟨w, hw, rfl⟩, ?_, ?_, ?_⟩
      · rw [arrived_append]
        exact (List.append_nil (arrived events)).symm ▸ h.latest
      · rw [sinceTick_tick]
        exact ⟨nofun, nofun⟩
      · rw [isConnected, List.filterMap_append]
        exact (List.append_nil (events.filterMap connection?)).symm ▸ h.connected

/-! ### What is written at each event -/

theorem length_run (c : Consumer) (events : List ConsumerEvent) :
    (c.run events).1.length = events.length := by
  induction events generalizing c with
  | nil => rfl
  | cons e rest ih => exact congrArg (· + 1) (ih (c.step e).2)

theorem Stands.getElem?_run (h : Stands cellWidth events c) (before : List ConsumerEvent)
    (e : ConsumerEvent) (after : List ConsumerEvent) :
    (c.run (before ++ e :: after)).1[before.length]?
      = some (shown cellWidth (events ++ before) e) := by
  induction before generalizing c events with
  | nil =>
      rw [List.append_nil, ← (h.step e).1]
      rfl
  | cons first rest ih =>
      rw [List.append_cons events first rest]
      exact ih (h.step first).2

/-- What is written at an event of a run. -/
theorem getElem?_run_start (hw : w.NeverFails) (cellWidth : Nat) {before after : List ConsumerEvent}
    {e : ConsumerEvent} (hevents : events = before ++ e :: after) :
    ((start w cellWidth).run events).1[before.length]? = some (shown cellWidth before e) := by
  rw [hevents]
  exact (stands_start hw).getElem?_run before e after

/-! ### A picture is not taken for a status -/

theorem newline_not_mem_status (made : Bool) : '\n' ∉ (status made).toList := by
  cases made <;> decide

/-- A picture has at least two lines. -/
theorem grid_ne_status (cellWidth : Nat) (p : Picture) {message : String}
    (hline : '\n' ∉ message.toList) :
    (DrawCall.grid p).bytes cellWidth ≠ (DrawCall.status message).bytes cellWidth := by
  intro h
  have htexts := congrArg String.toList (Text.encode_injective h)
  have hstatus : ((DrawCall.status message).text cellWidth).toList
      = Screen.clear ++ [message.toList].flatMap (· ++ ['\n']) := by
    rw [DrawCall.text, String.toList_append, String.toList_append, List.flatMap_singleton,
      List.append_assoc]
    rfl
  rw [Screen.toList_text, hstatus] at htexts
  have hlines := congrArg (List.splitOn '\n') (List.append_cancel_left htexts)
  rw [Screen.splitOn_joined fun _ => Screen.newline_not_mem_lines,
    Screen.splitOn_joined (by simpa using hline)] at hlines
  have hlength := congrArg List.length (List.append_cancel_right hlines)
  have hheight := p.size.height_pos
  simp only [Screen.lines, List.length_append, List.length_map, List.length_range,
    List.length_singleton] at hlength
  omega

/-- Once a frame has arrived, no status is due. -/
theorem shown_ne_status (cellWidth : Nat) {before : List ConsumerEvent} (h : arrived before ≠ [])
    (made : Bool) :
    shown cellWidth before .tick ≠ (DrawCall.status (status made)).bytes cellWidth := by
  have hnothing : ([] : Bytes) ≠ (DrawCall.status (status made)).bytes cellWidth :=
    (Screen.bytes_ne_nil cellWidth _).symm
  show (due before).elim [] (DrawCall.bytes cellWidth) ≠ _
  cases hlast : (arrived (sinceTick before)).getLast? with
  | none =>
      rw [due_of_stale hlast h]
      exact hnothing
  | some payload =>
      rw [due_of_fresh hlast]
      cases Picture.shownBy? payload with
      | none => exact hnothing
      | some p => exact grid_ne_status cellWidth p (newline_not_mem_status made)

/-! ### What is written in all -/

/-- The screens that a run shows: first statuses, then pictures of frames in their order. -/
structure Screens (cellWidth : Nat) (frames : List Bytes) (written : List Bytes)
    (flags : List Bool) (drawn : List (Bytes × Picture)) : Prop where
  /-- No frame comes twice, and none before one that arrived earlier. -/
  inOrder : (drawn.map Prod.fst).Sublist frames
  read : ∀ d ∈ drawn, Picture.parse d.1 = .ok d.2
  written : written.filter (· ≠ []) =
    flags.map (fun made => (DrawCall.status (status made)).bytes cellWidth)
      ++ drawn.map fun d => (DrawCall.grid d.2).bytes cellWidth

variable {frames written : List Bytes} {flags : List Bool} {drawn : List (Bytes × Picture)}

theorem Screens.nothing (h : Screens cellWidth frames written flags drawn) (earlier : List Bytes) :
    Screens cellWidth (earlier ++ frames) ([] :: written) flags drawn where
  inOrder := h.inOrder.trans (List.sublist_append_right _ _)
  read := h.read
  written := by
    rw [List.filter_cons_of_neg (by simp)]
    exact h.written

theorem Screens.status (h : Screens cellWidth frames written flags drawn) (earlier : List Bytes)
    (made : Bool) :
    Screens cellWidth (earlier ++ frames)
      ((DrawCall.status (Consumer.status made)).bytes cellWidth :: written) (made :: flags)
      drawn where
  inOrder := h.inOrder.trans (List.sublist_append_right _ _)
  read := h.read
  written := by
    rw [List.filter_cons_of_pos (by simpa using Screen.bytes_ne_nil cellWidth _), h.written]
    rfl

theorem Screens.grid (h : Screens cellWidth frames written [] drawn) {earlier : List Bytes}
    {payload : Bytes} (hin : payload ∈ earlier) {p : Picture}
    (hparse : Picture.parse payload = .ok p) :
    Screens cellWidth (earlier ++ frames) ((DrawCall.grid p).bytes cellWidth :: written) []
      ((payload, p) :: drawn) where
  inOrder := (List.singleton_sublist.mpr hin).append h.inOrder
  read := List.forall_mem_cons.mpr ⟨hparse, h.read⟩
  written := by
    rw [List.filter_cons_of_pos (by simpa using Screen.bytes_ne_nil cellWidth _), h.written]
    rfl

/-- A tick shows one screen more, or none. -/
theorem Screens.tick (h : Screens cellWidth frames written flags drawn)
    (hflags : arrived events ≠ [] → flags = []) :
    ∃ flags' drawn', (arrived events ≠ [] → flags' = []) ∧
      Screens cellWidth (arrived (sinceTick events) ++ frames)
        (shown cellWidth events .tick :: written) flags' drawn' := by
  have hshown : shown cellWidth events .tick = (due events).elim [] (DrawCall.bytes cellWidth) :=
    rfl
  rw [hshown]
  cases hlast : (arrived (sinceTick events)).getLast? with
  | none =>
      by_cases hnil : arrived events = []
      · rw [due_of_silence hnil]
        exact ⟨_ :: flags, drawn, fun hsome => absurd hnil hsome, h.status _ _⟩
      · rw [due_of_stale hlast hnil]
        exact ⟨flags, drawn, hflags, h.nothing _⟩
  | some payload =>
      obtain rfl := hflags (arrived_ne_nil hlast)
      rw [due_of_fresh hlast]
      unfold Picture.shownBy?
      cases hparse : Picture.parse payload with
      | error fault => exact ⟨[], drawn, fun _ => rfl, h.nothing _⟩
      | ok p =>
          exact ⟨[], (payload, p) :: drawn, fun _ => rfl,
            h.grid (List.mem_of_getLast? hlast) hparse⟩

theorem Stands.exists_screens (h : Stands cellWidth events c) (later : List ConsumerEvent) :
    ∃ flags drawn, (arrived events ≠ [] → flags = []) ∧
      Screens cellWidth (arrived (sinceTick events) ++ arrived later) (c.run later).1 flags
        drawn := by
  induction later generalizing c events with
  | nil => exact ⟨[], [], fun _ => rfl, List.nil_sublist _, nofun, rfl⟩
  | cons e rest ih =>
      obtain ⟨hstep, hnext⟩ := h.step e
      obtain ⟨flags, drawn, hflags, hscreens⟩ := ih hnext
      have hrun : (c.run (e :: rest)).1 = shown cellWidth events e :: ((c.step e).2.run rest).1 :=
        congrArg (· :: _) hstep
      have hkeep : arrived events ≠ [] → flags = [] := fun hsome =>
        hflags (by rw [arrived_append]; exact List.append_ne_nil_of_left_ne_nil hsome _)
      rw [hrun]
      cases htick : e.isTick with
      | false =>
          have hframes : arrived (sinceTick (events ++ [e])) ++ arrived rest
              = arrived (sinceTick events) ++ arrived (e :: rest) := by
            rw [sinceTick_concat events htick, arrived_append, List.append_assoc,
              ← arrived_append, List.singleton_append]
          have hshown : shown cellWidth events e = [] := by rw [shown, htick]; rfl
          rw [hshown, ← hframes]
          exact ⟨flags, drawn, hkeep, hscreens.nothing []⟩
      | true =>
          obtain rfl : e = .tick := by
            cases e with
            | tick => rfl
            | frame | connection => cases htick
          rw [sinceTick_tick] at hscreens
          exact hscreens.tick hkeep

/-! ### Frames that cannot be read -/

/-- Consumers whose slots hold frames that show the same. -/
structure Twin (c d : Consumer) : Prop where
  screen : d.screen = c.screen
  latest : d.slot.latest.map Picture.shownBy? = c.slot.latest.map Picture.shownBy?
  fresh : d.slot.fresh = c.slot.fresh
  connected : d.slot.connected = c.slot.connected

theorem callFor_congr {p q : Option Bytes} {s t : FrameSlot}
    (htaken : q.map Picture.shownBy? = p.map Picture.shownBy?)
    (hlatest : t.latest.map Picture.shownBy? = s.latest.map Picture.shownBy?)
    (hconnected : t.connected = s.connected) : callFor q t = callFor p s := by
  have hframe : t.hasFrame = s.hasFrame := by
    have hsome := congrArg Option.isSome hlatest
    rwa [Option.isSome_map, Option.isSome_map] at hsome
  unfold callFor
  rw [hframe, hconnected]
  cases p <;> cases q <;> simp_all

theorem Twin.step {c d : Consumer} (h : Twin c d) {e f : ConsumerEvent} (halike : e.Alike f) :
    (d.step f).1 = (c.step e).1 ∧ Twin (c.step e).2 (d.step f).2 := by
  cases halike with
  | malformed hp hq =>
      exact ⟨rfl, h.screen, congrArg some (hq.trans hp.symm), rfl, h.connected⟩
  | same =>
      cases e with
      | frame payload => exact ⟨rfl, h.screen, rfl, rfl, h.connected⟩
      | connection made => exact ⟨rfl, h.screen, h.latest, h.fresh, rfl⟩
      | tick =>
          have htaken : d.slot.takeFresh.1.map Picture.shownBy?
              = c.slot.takeFresh.1.map Picture.shownBy? := by
            show (if d.slot.fresh then d.slot.latest else none).map _
              = (if c.slot.fresh then c.slot.latest else none).map _
            rw [h.fresh]
            split
            · exact h.latest
            · rfl
          have hcall := callFor_congr (s := c.slot.takeFresh.2) (t := d.slot.takeFresh.2) htaken
            h.latest h.connected
          have hdrawing : d.draw.1 = c.draw.1 := by
            rw [d.draw_eq.1, c.draw_eq.1, hcall, h.screen]
          exact ⟨congrArg Drawing.written hdrawing, congrArg Drawing.screen hdrawing, h.latest,
            rfl, h.connected⟩

theorem Twin.run_eq {c d : Consumer} (h : Twin c d) {events events' : List ConsumerEvent}
    (halike : List.Forall₂ Alike events events') : (d.run events').1 = (c.run events).1 := by
  induction halike generalizing c d with
  | nil => rfl
  | cons hfirst _ ih =>
      obtain ⟨hstep, hnext⟩ := h.step hfirst
      exact congrArg₂ (· :: ·) hstep (ih hnext)

/-! ### The screen follows the stream -/

/-- What a consumer writes as events happen, one piece of text for each. -/
structure FollowsStream (w : Writer) (cellWidth : Nat) (events : List ConsumerEvent)
    (written : List Bytes) : Prop where
  length : written.length = events.length
  /-- Only a tick writes anything. -/
  quiet : ∀ before e after, events = before ++ e :: after → e ≠ .tick →
    written[before.length]? = some []
  /-- If a frame has arrived since the last tick, the newest is drawn, unless it cannot be read. -/
  fresh : ∀ before after payload, events = before ++ .tick :: after →
    (arrived (sinceTick before)).getLast? = some payload →
      written[before.length]? = some (match Picture.parse payload with
        | .ok p => (DrawCall.grid p).bytes cellWidth
        | .error _ => [])
  /-- If none has, but some frame has arrived before, whether it can be read or not, nothing is. -/
  stale : ∀ before after, events = before ++ .tick :: after → arrived (sinceTick before) = [] →
    arrived before ≠ [] → written[before.length]? = some []
  /-- If no frame has ever arrived, it is the status of the connection. -/
  silence : ∀ before after, events = before ++ .tick :: after → arrived before = [] →
    written[before.length]? = some ((DrawCall.status (status (isConnected before))).bytes cellWidth)
  /-- Behind the first frame no status is written. -/
  noStatus : ∀ before after made, events = before ++ .tick :: after → arrived before ≠ [] →
    written[before.length]? ≠ some ((DrawCall.status (status made)).bytes cellWidth)
  /-- The pictures are those of some of the frames, in their order. -/
  screens : ∃ flags drawn, Screens cellWidth (arrived events) written flags drawn
  /-- Frames that cannot be read are all alike. -/
  alike : ∀ events', List.Forall₂ Alike events events' →
    ((start w cellWidth).run events').1 = written

/-- **The screen follows the stream**, whatever arrives and whenever it is time to draw. -/
theorem run_follows (hw : w.NeverFails) (cellWidth : Nat) (events : List ConsumerEvent) :
    FollowsStream w cellWidth events ((start w cellWidth).run events).1 := by
  have htick {before after : List ConsumerEvent} (hevents : events = before ++ .tick :: after) :
      ((start w cellWidth).run events).1[before.length]?
        = some ((due before).elim [] (DrawCall.bytes cellWidth)) :=
    getElem?_run_start hw cellWidth hevents
  refine {
    length := length_run _ events
    quiet := ?_
    fresh := ?_
    stale := ?_
    silence := ?_
    noStatus := ?_
    screens := ?_
    alike := ?_ }
  · intro before e after hevents he
    rw [getElem?_run_start hw cellWidth hevents]
    cases e with
    | tick => exact absurd rfl he
    | frame | connection => rfl
  · intro before after payload hevents hlast
    rw [htick hevents, due_of_fresh hlast, Picture.shownBy?]
    cases Picture.parse payload <;> rfl
  · intro before after hevents hnone hsome
    rw [htick hevents, due_of_stale (by rw [hnone]; rfl) hsome]
    rfl
  · intro before after hevents hnone
    rw [htick hevents, due_of_silence hnone]
    rfl
  · intro before after made hevents hsome
    rw [getElem?_run_start hw cellWidth hevents]
    exact fun h => shown_ne_status cellWidth hsome made (Option.some.inj h)
  · obtain ⟨flags, drawn, -, hscreens⟩ := (stands_start hw).exists_screens events
    exact ⟨flags, drawn, hscreens⟩
  · intro events' halike
    have htwin : Twin (start w cellWidth) (start w cellWidth) := ⟨rfl, rfl, rfl, rfl⟩
    exact htwin.run_eq halike

/-- Two frames arrive between two ticks, the newer of which cannot be read, and one that can be
arrives behind the status of a connection that is already lost again. -/
theorem run_follows_malformed :
    let w : Writer := { chunk := some 1 }
    let picture : Bytes := [48, 48, 49, 120, 48, 48, 49, 35]
    let events : List ConsumerEvent := [.connection true, .tick, .connection false, .frame picture,
      .frame [1], .tick, .tick, .frame picture, .tick]
    let written := ((start w 0).run events).1
    w.NeverFails ∧ FollowsStream w 0 events written ∧
      written[1]? = some ((DrawCall.status (status true)).bytes 0) ∧
      written[5]? = some [] ∧ written[6]? = some [] ∧ ∃ p, Picture.parse picture = .ok p ∧
      written[8]? = some ((DrawCall.grid p).bytes 0) := by
  intro w picture events written
  have hw : w.NeverFails := Writer.neverFails_iff.mpr ⟨by simp [w], rfl⟩
  have hfollows := run_follows hw 0 events
  obtain ⟨p, hparse⟩ : ∃ p, Picture.parse picture = .ok p := ⟨_, rfl⟩
  have hlast := hfollows.fresh (events.take 8) [] picture rfl rfl
  rw [hparse] at hlast
  refine ⟨hw, hfollows, ?_, ?_, ?_, p, hparse, hlast⟩
  · exact hfollows.silence (events.take 1) (events.drop 2) rfl rfl
  · exact hfollows.fresh (events.take 5) (events.drop 6) [1] rfl rfl
  · exact hfollows.stale (events.take 6) (events.drop 7) rfl rfl nofun

end Consumer

end Lifecast
