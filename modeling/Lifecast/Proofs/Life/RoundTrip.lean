/-
Payloads and grids are two forms of the same thing.

A grid is read back from its payload, with or without the line feed of a frame.  The other
way, bytes that are read as a picture are what the grid that it shows is written as
(`parse_eq_ok_iff`), so nothing but the line feed is left open: two payloads that show the
same picture differ in that at most.
-/
import Lifecast.Proofs.Life.Reachable
import Lifecast.Proofs.Life.Reading

namespace Lifecast

/-- Two grids with one picture differ in nothing but the count of steps. -/
theorem Grid.eq_of_ofGrid_eq {g g' : Grid} (h : Picture.ofGrid g' = Picture.ofGrid g) :
    g' = { g with generation := g'.generation } := by
  rw [Picture.ofGrid_eq, Picture.ofGrid_eq] at h
  obtain ⟨size, cells, generation⟩ := g
  obtain ⟨size', cells', generation'⟩ := g'
  obtain ⟨rfl, hcells⟩ := Picture.mk.inj h
  obtain rfl := eq_of_heq hcells
  rfl

namespace Picture

/-- A frame is read as its payload. -/
theorem parse_frame (g : Grid) : parse g.frame = .ok (ofGrid g) :=
  parse_of_payload (withoutNewline_concat g.payload)

/-- What is read as a picture is the payload of the grid that it shows, or the frame. -/
theorem eq_payload_or_eq_frame {p : Bytes} {f : Picture} (h : parse p = .ok f) :
    p = f.grid.payload ∨ p = f.grid.frame := by
  have hstripped := stripped_withoutNewline p
  rw [parse_eq_ok_iff.mp h] at hstripped
  exact hstripped.eq_or_eq

/--
**Reading undoes writing, and writing undoes reading but for the line feed.**  The grid that
some bytes show is one that can come up, and it is the only one but for its count of steps.
-/
theorem parse_inverts_payload :
    (∀ g : Grid, parse g.payload = .ok (ofGrid g) ∧ parse g.frame = .ok (ofGrid g)) ∧
    (∀ (p : Bytes) (f : Picture), parse p = .ok f →
      ∃ g : Grid, g.Reachable ∧ ofGrid g = f ∧
        (p = g.payload ∨ p = g.payload ++ [defaultDelimiter]) ∧
        ∀ g' : Grid, ofGrid g' = f → g' = { g with generation := g'.generation }) ∧
    (∀ (p p' : Bytes) (f : Picture), parse p = .ok f → parse p' = .ok f →
      p = p' ∨ p = p' ++ [defaultDelimiter] ∨ p' = p ++ [defaultDelimiter]) := by
  refine ⟨fun g => ⟨parse_payload g, parse_frame g⟩, ?_, ?_⟩
  · intro p f h
    refine ⟨f.grid, f.grid.reachable, ofGrid_grid f, eq_payload_or_eq_frame h, ?_⟩
    intro g' hg'
    exact Grid.eq_of_ofGrid_eq (hg'.trans (ofGrid_grid f).symm)
  · intro p p' f h h'
    rcases eq_payload_or_eq_frame h with rfl | rfl
    · rcases eq_payload_or_eq_frame h' with rfl | rfl
      · exact Or.inl rfl
      · exact Or.inr (Or.inr rfl)
    · rcases eq_payload_or_eq_frame h' with rfl | rfl
      · exact Or.inr (Or.inl rfl)
      · exact Or.inl rfl

/-- Two cells, one of them alive, with a line feed behind them. -/
theorem parse_inverts_payload_framed :
    let p : Bytes := [48, 48, 50, 120, 48, 48, 49, 35, 32, 10]
    let f : Picture := ⟨⟨2, 1, by decide, by decide, by decide, by decide⟩, #v[true, false]⟩
    parse p = .ok f ∧ parse p.dropLast = .ok f ∧
      (∃ g : Grid, g.Reachable ∧ ofGrid g = f ∧
        (p = g.payload ∨ p = g.payload ++ [defaultDelimiter]) ∧
        ∀ g' : Grid, ofGrid g' = f → g' = { g with generation := g'.generation }) ∧
      (p = p.dropLast ∨ p = p.dropLast ++ [defaultDelimiter] ∨
        p.dropLast = p ++ [defaultDelimiter]) := by
  intro p f
  have hframe : parse p = .ok f := by decide
  have hpayload : parse p.dropLast = .ok f := by decide
  exact ⟨hframe, hpayload, parse_inverts_payload.2.1 p f hframe,
    parse_inverts_payload.2.2 p p.dropLast f hframe hpayload⟩

end Picture

end Lifecast
