/-
What every configuration has.

A configuration is only ever changed by settings, each of which looks at its value first.  So
a property that the standard configuration has, and that no value which a setting takes can
break, is one of every configuration that arguments and variables give (`configure_keeps`).

The one thing to carry along is that a setting which waits for its value is one of the
program's own (`Reading.Good`): it is looked at only later.
-/
import Lifecast.CommandLine.Setting

namespace Lifecast

/-- A sequence succeeds if both of its steps do. -/
theorem bind_eq_ok_iff {ε α β : Type} {x : Except ε α} {f : α → Except ε β} {b : β} :
    x >>= f = .ok b ↔ ∃ a, x = .ok a ∧ f a = .ok b := by
  cases x with
  | error e => simp [bind, Except.bind]
  | ok a => simp [bind, Except.bind]

/-- A sequence fails as its first step does, or as its second one after the first succeeded. -/
theorem bind_eq_error_iff {ε α β : Type} {x : Except ε α} {f : α → Except ε β} {e : ε} :
    x >>= f = .error e ↔ x = .error e ∨ ∃ a, x = .ok a ∧ f a = .error e := by
  cases x with
  | error e' => simp [bind, Except.bind]
  | ok a => simp [bind, Except.bind]

/-- A value that the setting takes does not break the property. -/
def Setting.Keeps {α : Type} (P : α → Prop) (s : Setting α) : Prop :=
  ∀ value c c', P c → s.assign value c = .ok c' → P c'

/-- What a setting does that takes a value and puts it into the configuration. -/
theorem Setting.keeps_of_put {α β : Type} {P : α → Prop} {s : Setting α}
    {take : String → Except ValueFault β} {put : α → β → α}
    (hassign : s.assign = fun value c => do return put c (← take value))
    (hput : ∀ value x c, take value = .ok x → P c → P (put c x)) : s.Keeps P := by
  intro value c c' hc h
  rw [hassign] at h
  obtain ⟨x, hx, h⟩ := bind_eq_ok_iff.mp h
  obtain rfl := Except.ok.inj h
  exact hput value x c hx hc

namespace Reading

variable {α : Type} {P : α → Prop} {settings : List (Setting α)}

/-- The configuration has the property, and a setting that waits is one of the settings. -/
structure Good (P : α → Prop) (settings : List (Setting α)) (r : Reading α) : Prop where
  config : P r.config
  waiting : ∀ s value, r.waiting = some (s, value) → s ∈ settings

/-- A switch ends the reading. -/
theorem answer_ne_ok {r r' : Reading α} {switch : Switch} : r.answer switch ≠ .ok r' := by
  unfold answer
  intro h
  obtain ⟨_, -, h⟩ := bind_eq_ok_iff.mp h
  simp at h

theorem Good.plain {r r' : Reading α} (hr : r.Good P settings) {argument : String}
    (h : r.plain argument = .ok r') : r'.Good P settings := by
  unfold Reading.plain at h
  split at h
  · next s hwaiting =>
      obtain rfl := Except.ok.inj h
      refine ⟨hr.config, ?_⟩
      rintro s' value ⟨⟩
      exact hr.waiting s none hwaiting
  · simp at h

section

variable (hkeeps : ∀ s ∈ settings, s.Keeps P)
include hkeeps

theorem keeps_assign {s : Setting α} (hs : s ∈ settings) {c c' : α} {value : String} (hc : P c)
    (h : assign c s value = .ok c') : P c' := by
  unfold assign at h
  split at h
  · next hassigned =>
      obtain rfl := Except.ok.inj h
      exact hkeeps s hs value c _ hc hassigned
  · simp at h
  · simp at h

theorem Good.accept {s : Setting α} (hs : s ∈ settings) {r r' : Reading α} (hr : r.Good P settings)
    {value : Option String} (h : r.accept s value = .ok r') : r'.Good P settings := by
  unfold Reading.accept at h
  split at h
  · simp at h
  · split at h
    · simp at h
    · obtain ⟨c, hassigned, hr'⟩ := bind_eq_ok_iff.mp h
      obtain rfl := Except.ok.inj hr'
      exact ⟨keeps_assign hkeeps hs hr.config hassigned, by simp⟩

theorem Good.settle {r r' : Reading α} (hr : r.Good P settings) (h : r.settle = .ok r') :
    r'.Good P settings := by
  unfold Reading.settle at h
  split at h
  · obtain rfl := Except.ok.inj h
    exact hr
  · next s value hwaiting => exact hr.accept hkeeps (hr.waiting s value hwaiting) h

theorem Good.begin {s : Setting α} (hs : s ∈ settings) {r r' : Reading α} (hr : r.Good P settings)
    {attached : Option String} (h : r.begin s attached = .ok r') : r'.Good P settings := by
  unfold Reading.begin at h
  obtain ⟨settled, hsettled, h⟩ := bind_eq_ok_iff.mp h
  have hgood := hr.settle hkeeps hsettled
  split at h
  · exact hgood.accept hkeeps hs h
  · obtain rfl := Except.ok.inj h
    refine ⟨hgood.config, ?_⟩
    rintro s' value ⟨⟩
    exact hs

theorem Good.long {r r' : Reading α} (hr : r.Good P settings) {argument : List Char}
    (h : r.long settings argument = .ok r') : r'.Good P settings := by
  dsimp only [Reading.long] at h
  split at h
  · next s _ hfound => exact hr.begin hkeeps (List.mem_of_find?_eq_some hfound) h
  · split at h
    · simp at h
    · exact absurd h answer_ne_ok
  · simp at h

theorem Good.short {r r' : Reading α} (hr : r.Good P settings) {argument : List Char}
    (h : r.short settings argument = .ok r') : r'.Good P settings := by
  unfold Reading.short at h
  split at h
  · obtain rfl := Except.ok.inj h
    exact hr
  · split at h
    · next s _ hfound =>
        have hs := List.mem_of_find?_eq_some hfound
        split at h
        · exact hr.begin hkeeps hs h
        · exact hr.begin hkeeps hs h
        · exact hr.begin hkeeps hs h
    · exact absurd h answer_ne_ok
    · simp at h

/-- **Reading arguments keeps the property.** -/
theorem Good.readArguments {r r' : Reading α} (hr : r.Good P settings) {arguments : List String}
    (h : r.readArguments settings arguments = .ok r') : r'.Good P settings := by
  induction arguments generalizing r with
  | nil => exact hr.settle hkeeps h
  | cons argument rest ih =>
      unfold Reading.readArguments at h
      split at h
      · split at h
        · exact hr.settle hkeeps h
        · simp at h
      · obtain ⟨next, hnext, h⟩ := bind_eq_ok_iff.mp h
        exact ih (hr.long hkeeps hnext) h
      · obtain ⟨next, hnext, h⟩ := bind_eq_ok_iff.mp h
        exact ih (hr.short hkeeps hnext) h
      · obtain ⟨next, hnext, h⟩ := bind_eq_ok_iff.mp h
        exact ih (hr.plain hnext) h

/-- Reading variables keeps the property, for any of the settings. -/
theorem Good.readVariables {environment : List (String × String)} {r : Reading α}
    (hr : r.Good P settings) {left : List (Setting α)} (hleft : ∀ s ∈ left, s ∈ settings) {c : α}
    (h : r.readVariables environment left = .ok c) : P c := by
  induction left generalizing r with
  | nil =>
      obtain rfl := Except.ok.inj h
      exact hr.config
  | cons s rest ih =>
      rw [List.forall_mem_cons] at hleft
      unfold Reading.readVariables at h
      split at h
      · obtain ⟨c', hassigned, h⟩ := bind_eq_ok_iff.mp h
        have hgood : Good P settings { r with config := c' } :=
          ⟨keeps_assign hkeeps hleft.1 hr.config hassigned, hr.waiting⟩
        exact ih hgood hleft.2 h
      · exact ih hr hleft.2 h

end

end Reading

/-- **What no setting breaks is true of every configuration.** -/
theorem configure_keeps {α : Type} {P : α → Prop} {settings : List (Setting α)}
    (hkeeps : ∀ s ∈ settings, s.Keeps P) {standard c : α} (hstandard : P standard)
    {arguments : List String} {environment : List (String × String)}
    (h : configure settings standard arguments environment = .ok c) : P c := by
  unfold configure at h
  obtain ⟨r, hread, h⟩ := bind_eq_ok_iff.mp h
  have hstart : Reading.Good P settings { config := standard } := ⟨hstandard, by simp⟩
  exact (hstart.readArguments hkeeps hread).readVariables hkeeps (fun s hs => hs) h

end Lifecast
