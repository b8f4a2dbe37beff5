/-
An accepted producer only ever broadcasts good frames.

Four operations of a producer can fail (`Producer.run?`), and what the command line accepts passes
the check of each (`run?_eq`).

Other limits lie in the way of a frame: the three digits of a side in its header, the longest
datagram, what a client takes in at once, and the byte that ends a frame.  They are met since
no side is longer than 200 on the command line (`goodFrame`).
-/
import Lifecast.Engine.Config
import Lifecast.Engine.Server
import Lifecast.Program.Producer
import Lifecast.Proofs.CommandLine.Setting
import Lifecast.Proofs.Encoding
import Lifecast.Proofs.Life.Population
import Lifecast.Proofs.Life.Reachable
import Lifecast.Proofs.Life.Torus

namespace Lifecast

/-! ### What the command line accepts -/

/-- The settings that a producer works with are in range.  The sides of its grid are so by
their type. -/
structure ProducerConfig.Accepted (c : ProducerConfig) : Prop where
  fps : 1 ≤ c.fps ∧ c.fps ≤ 30
  fillRatio : c.fillRatio.isRatio = true

theorem Value.ranged_mem {low high n : Nat} {s : String} (h : Value.ranged low high s = .ok n) :
    low ≤ n ∧ n ≤ high := by
  unfold Value.ranged at h
  split at h
  · simp at h
  · split at h
    · next hrange =>
        obtain rfl := Except.ok.inj h
        omega
    · simp at h

theorem Value.ratio_isRatio {x : Binary64} {s : String} (h : Value.ratio s = .ok x) :
    x.isRatio = true := by
  unfold Value.ratio at h
  split at h
  · simp at h
  · split at h
    · next hratio =>
        obtain rfl := Except.ok.inj h
        exact hratio
    · simp at h

namespace ProducerConfig

theorem accepted_standard : Accepted {} where
  fps := by decide
  fillRatio := by decide +kernel

/-- What is neither the rate nor the ratio may be anything. -/
theorem Accepted.of_same {c c' : ProducerConfig} (hc : c.Accepted) (hfps : c'.fps = c.fps)
    (hratio : c'.fillRatio = c.fillRatio) : c'.Accepted where
  fps := hfps ▸ hc.fps
  fillRatio := hratio ▸ hc.fillRatio

/-- No setting takes a value that is out of range. -/
theorem keeps_accepted : ∀ s ∈ settings, s.Keeps Accepted := by
  unfold settings
  -- One case for each setting, in their order: the fifth is the rate, the seventh the ratio.
  simp only [List.forall_mem_cons, List.not_mem_nil, false_implies, implies_true, and_true]
  refine ⟨?_, ?_, ?_, ?_, ?_, ?_, ?_, ?_, ?_, ?_⟩
  · exact Setting.keeps_of_put rfl fun _ _ _ _ hc => hc.of_same rfl rfl
  · rintro value c c' hc ⟨⟩
    exact hc.of_same rfl rfl
  · exact Setting.keeps_of_put rfl fun _ _ _ _ hc => hc.of_same rfl rfl
  · exact Setting.keeps_of_put rfl fun _ _ _ _ hc => hc.of_same rfl rfl
  · exact Setting.keeps_of_put rfl fun _ _ _ hfps hc => ⟨Value.ranged_mem hfps, hc.fillRatio⟩
  · exact Setting.keeps_of_put rfl fun _ _ _ _ hc => hc.of_same rfl rfl
  · exact Setting.keeps_of_put rfl fun _ _ _ hratio hc => ⟨hc.fps, Value.ratio_isRatio hratio⟩
  · exact Setting.keeps_of_put rfl fun _ _ _ _ hc => hc.of_same rfl rfl
  · rintro value c c' hc ⟨⟩
    exact hc.of_same rfl rfl
  · exact Setting.keeps_of_put rfl fun _ _ _ _ hc => hc.of_same rfl rfl

theorem accepted_of_read {arguments : List String} {environment : List (String × String)}
    {c : ProducerConfig} (h : read arguments environment = .ok c) : c.Accepted :=
  configure_keeps keeps_accepted accepted_standard h

end ProducerConfig

/-! ### What can fail -/

theorem Binary64.isNaN_of_isRatio {x : Binary64} (h : x.isRatio = true) : x.isNaN = false := by
  simp only [isRatio, Bool.and_eq_true, Bool.not_eq_true'] at h
  exact h.1

/-- A grid can be drawn with any ratio, and drawing changes nothing but the cells. -/
theorem Grid.exists_randomize {σ : Type} [WordSource σ] (g : Grid) {ratio : Binary64}
    (h : ratio.isRatio = true) (source : σ) :
    ∃ (cells : Vector Bool g.size.area) (source' : σ),
      g.randomize ratio source = some ({ g with cells }, source') :=
  ⟨_, _, g.randomize_eq_some (Binary64.isNaN_of_isRatio h) source⟩

namespace Producer

/-- The `k`-th broadcast is the generation after as many steps. -/
theorem broadcasts_eq (p : Producer) (n : Nat) :
    p.broadcasts n
      = (List.range n).map fun k => encodeFrame (p.grid.stepMany (k + 1)).payload p.delimiter := by
  induction n generalizing p with
  | zero => rfl
  | succ n ih =>
      rw [broadcasts, ih, List.range_succ_eq_map, List.map_cons, List.map_map]
      rfl

/-- As long as generations can be counted no tick fails. -/
theorem broadcasts?_eq {p : Producer} {n : Nat} (h : p.grid.generation + n ≤ Numeral.maxWord) :
    p.broadcasts? n = some (p.broadcasts n) := by
  induction n generalizing p with
  | zero => rfl
  | succ n ih =>
      have htick : p.tick? = some p.tick := if_pos (by omega)
      have hlater : p.tick.2.grid.generation + n ≤ Numeral.maxWord := by
        show p.grid.generation + 1 + n ≤ Numeral.maxWord
        omega
      rw [broadcasts?, htick]
      simp only [Option.bind_eq_bind, Option.bind_some, ih hlater]
      rfl

/-- While generations can be counted nothing fails, and the run is what the ticks broadcast. -/
theorem run?_eq {σ : Type} [WordSource σ] {c : ProducerConfig} (hc : c.Accepted) (d : UInt8)
    (source : σ) {n : Nat} (hn : n ≤ Numeral.maxWord) :
    ∃ (start : Grid) (source' : σ),
      (Grid.dead c.gridSize.size).randomize c.fillRatio source = some (start, source') ∧
      start.size = c.gridSize.size ∧ start.generation = 0 ∧
      ofConfig? c d source = some { grid := start, delimiter := d } ∧
      run? c d source n = some (broadcasts { grid := start, delimiter := d } n) := by
  obtain ⟨cells, source', hdrawn⟩ :=
    (Grid.dead c.gridSize.size).exists_randomize hc.fillRatio source
  have hgrid : Grid.ofSides c.gridSize.width c.gridSize.height = .ok (Grid.dead c.gridSize.size) :=
    Grid.ofSides_dead c.gridSize.size
  have hperiod : period? c.fps = some (.perSecond c.fps) := if_neg (by have := hc.fps; omega)
  refine ⟨_, source', hdrawn, rfl, rfl, ?_, ?_⟩
  · unfold ofConfig?
    rw [hdrawn]
    rfl
  · unfold run?
    rw [hgrid]
    simp only [Except.toOption, Option.bind_eq_bind, Option.bind_some, hdrawn, hperiod]
    refine broadcasts?_eq ?_
    show 0 + n ≤ Numeral.maxWord
    rwa [Nat.zero_add]

/-! ### Frames -/

/-- The frame of a generation: short enough to travel in any way, and read as that generation by
whoever receives it as one frame. -/
structure GoodFrame (d : UInt8) (g : Grid) (data : Bytes) : Prop where
  /-- It is the payload and one delimiter. -/
  eq_frame : data = encodeFrame g.payload d
  length_le : data.length ≤ 40008
  /-- It travels in one datagram. -/
  fits_datagram : data.length ≤ maxDatagram
  /-- A client takes it in at once. -/
  fits_buffer : data.length ≤ ({} : EngineConfig).recvBufferSize
  /-- Whatever becomes this data with one delimiter is read as the generation. -/
  decoded : ∀ frame, encodeFrame frame d = data → Picture.parse frame = .ok (Picture.ofGrid g)
  /-- It comes out as one frame, however it is cut, unless the payload holds the delimiter. -/
  received : d ∉ g.payload → ∀ reads : List Bytes, reads.flatten = data →
    ((FrameBuffer.empty d).feedAll reads).2 = [g.payload] ∧
      ((FrameBuffer.empty d).feedAll reads).1.pending = 0

theorem length_broadcast_le {g : Grid} (d : UInt8) (hwidth : g.size.width ≤ greatestSide)
    (hheight : g.size.height ≤ greatestSide) : (encodeFrame g.payload d).length ≤ 40008 := by
  have harea : g.size.area ≤ greatestSide * greatestSide := Nat.mul_le_mul hheight hwidth
  unfold encodeFrame
  rw [List.length_append, g.length_payload, List.length_singleton]
  unfold greatestSide at harea
  omega

theorem goodFrame {g : Grid} (d : UInt8) (hwidth : g.size.width ≤ greatestSide)
    (hheight : g.size.height ≤ greatestSide) : GoodFrame d g (encodeFrame g.payload d) := by
  have hlength := length_broadcast_le d hwidth hheight
  refine ⟨rfl, hlength, ?_, ?_, ?_, ?_⟩
  · exact Nat.le_trans hlength (by decide)
  · exact Nat.le_trans hlength (by decide)
  · intro frame hframe
    have hpayload : frame = g.payload := List.append_cancel_right hframe
    rw [hpayload]
    exact Picture.parse_payload g
  · intro hfree reads hreads
    have hstream : reads.flatten = Bytes.stream d [g.payload] := by
      rw [hreads]
      simp [Bytes.stream]
    have hframes : ∀ p ∈ [g.payload], Bytes.IsFrame d p := by
      simpa using ⟨g.payload_ne_nil, hfree⟩
    exact ⟨(FrameBuffer.feedAll_eq_self_iff hstream).mpr hframes, FrameBuffer.pending_of_stream hstream⟩

/--
**An accepted producer only ever broadcasts good frames.**  Nothing it does fails, and what it
broadcasts at the `k`-th tick is the generation `k` steps after the one that was drawn.
-/
theorem run_of_accepted :
    (∀ (arguments : List String) (environment : List (String × String)) (c : ProducerConfig),
      ProducerConfig.read arguments environment = .ok c → c.Accepted) ∧
    ∀ {σ : Type} [WordSource σ] (c : ProducerConfig) (d : UInt8) (source : σ) (n : Nat),
      c.Accepted → n < Nat.pow 2 64 →
      ∃ (start : Grid) (source' : σ) (sent : List Bytes),
        (Grid.dead c.gridSize.size).randomize c.fillRatio source = some (start, source') ∧
        run? c d source n = some sent ∧
        (ofConfig? c d source).map (·.broadcasts n) = some sent ∧
        sent.length = n ∧
        ∀ k < n, ∃ data, sent[k]? = some data ∧
          GoodFrame d (start.stepMany (k + 1)) data ∧
          (start.stepMany (k + 1)).generation = k + 1 ∧
          defaultDelimiter ∉ (start.stepMany (k + 1)).payload := by
  refine ⟨fun _ _ _ h => ProducerConfig.accepted_of_read h, ?_⟩
  intro σ _ c d source n hc hn
  have hcount : n ≤ Numeral.maxWord := Nat.le_sub_one_of_lt hn
  obtain ⟨start, source', hdrawn, hsize, hgeneration, hproducer, hrun⟩ := run?_eq hc d source hcount
  refine ⟨start, source', _, hdrawn, hrun, by rw [hproducer]; rfl, ?_, ?_⟩
  · rw [broadcasts_eq, List.length_map, List.length_range]
  · intro k hk
    have hsizeLater : (start.stepMany (k + 1)).size = c.gridSize.size :=
      (Grid.size_stepMany start (k + 1)).trans hsize
    refine ⟨encodeFrame (start.stepMany (k + 1)).payload d, ?_, goodFrame d ?_ ?_, ?_,
      Grid.newline_not_mem_payload _⟩
    · rw [broadcasts_eq, List.getElem?_map, List.getElem?_range hk]
      rfl
    · rw [hsizeLater]
      exact c.gridSize.width_mem.2
    · rw [hsizeLater]
      exact c.gridSize.height_mem.2
    · rw [Grid.generation_stepMany, hgeneration, Nat.zero_add]

/-- The standard settings, with words from a short cycle. -/
theorem run_of_accepted_standard :
    let source := WordCycle.ofList [0, 0x8000000000000000]
    ProducerConfig.Accepted {} ∧ 3 < Nat.pow 2 64 ∧
      ∃ (start : Grid) (sent : List Bytes), run? {} defaultDelimiter source 3 = some sent ∧
        sent.length = 3 ∧
        ∀ k < 3, ∃ data, sent[k]? = some data ∧
          GoodFrame defaultDelimiter (start.stepMany (k + 1)) data := by
  intro source
  obtain ⟨start, -, sent, -, hrun, -, hlength, hframes⟩ :=
    run_of_accepted.2 {} defaultDelimiter source 3 ProducerConfig.accepted_standard (by decide)
  refine ⟨ProducerConfig.accepted_standard, by decide, start, sent, hrun, hlength, ?_⟩
  intro k hk
  obtain ⟨data, hdata, hgood, -, -⟩ := hframes k hk
  exact ⟨data, hdata, hgood⟩

end Producer

end Lifecast
