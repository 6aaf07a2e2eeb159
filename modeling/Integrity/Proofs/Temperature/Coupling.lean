import Integrity.Proofs.Operation.Run
import Integrity.Proofs.Temperature.Exact
import Integrity.Proofs.Temperature.Step

/-! # Two controllers at different temperatures

How far a control step moves the temperature does not depend on the temperature, and keeping it
within bounds neither exchanges two temperatures nor draws them apart. So two controllers that
differ in nothing else stay in order under the same operations, and come together for good once
they meet. -/

namespace Integrity.Temperature

open Operation

/-! ## Clamping -/

section Clamp

variable {bounds : Bounds} {low high : Int}

theorem Bounds.clamp_le_clamp (hordered : bounds.min ≤ bounds.max) (h : low ≤ high) :
    bounds.clamp low ≤ bounds.clamp high := by
  have hlow := clamp_cases bounds low
  have hhigh := clamp_cases bounds high
  omega

theorem Bounds.clamp_sub_clamp_le (hordered : bounds.min ≤ bounds.max) (h : low ≤ high) :
    bounds.clamp high - bounds.clamp low ≤ high - low := by
  have hlow := clamp_cases bounds low
  have hhigh := clamp_cases bounds high
  omega

end Clamp

/-! ## One operation -/

namespace Controller

/-- Another controller differs in nothing but its temperature, which is higher by at most `gap`. -/
structure Below (c d : Controller) (gap : Int) : Prop where
  alike : d = { c with temperature := d.temperature }
  order : c.temperature ≤ d.temperature
  gap : d.temperature - c.temperature ≤ gap

variable {c d : Controller} {gap : Int}

theorem Below.gap_nonneg (h : c.Below d gap) : 0 ≤ gap :=
  Int.le_trans (Int.sub_nonneg_of_le h.order) h.gap

theorem Below.eq_of_gap (h : c.Below d 0) : c = d := by
  obtain ⟨alike, order, gap⟩ := h
  have htemperature : d.temperature = c.temperature := by omega
  rw [alike, htemperature]

/-- What does not look at the temperature leaves both where they are. -/
theorem Below.amended (h : c.Below d gap) {command : Command} {change : Controller → Controller}
    {event : Controller → Event} (hcommand : command.amendment = some (change, event)) :
    (change c).Below (change d) gap := by
  obtain ⟨temperature, rfl⟩ : ∃ temperature, d = { c with temperature } := ⟨_, h.alike⟩
  cases command <;> cases hcommand <;> exact ⟨rfl, h.order, h.gap⟩

theorem Below.overridden (h : c.Below d gap) (role : Role) (value : Int) :
    { c with overrides := c.overrides.insert role value }.Below
      { d with overrides := d.overrides.insert role value } gap := by
  obtain ⟨temperature, rfl⟩ : ∃ temperature, d = { c with temperature } := ⟨_, h.alike⟩
  exact ⟨rfl, h.order, h.gap⟩

theorem Below.set (h : c.Below d gap) (value : Int) :
    { c with temperature := value }.Below { d with temperature := value } gap := by
  obtain ⟨temperature, rfl⟩ : ∃ temperature, d = { c with temperature } := ⟨_, h.alike⟩
  refine ⟨rfl, Int.le_refl _, ?_⟩
  simpa using h.gap_nonneg

theorem Below.bounded (h : c.Below d gap) {bounds : Bounds} (hordered : bounds.min ≤ bounds.max) :
    (c.bounded bounds).Below (d.bounded bounds) gap := by
  obtain ⟨temperature, rfl⟩ : ∃ temperature, d = { c with temperature } := ⟨_, h.alike⟩
  exact ⟨rfl, Bounds.clamp_le_clamp hordered h.order,
    Int.le_trans (Bounds.clamp_sub_clamp_le hordered h.order) h.gap⟩

theorem Below.ticked (h : c.Below d gap) {signals : Signals} {made made' : ControlStep}
    (hmade : c.stepOn signals = .ok made) (hmade' : d.stepOn signals = .ok made') :
    (c.ticked made).Below (d.ticked made') gap := by
  obtain ⟨temperature, rfl⟩ : ∃ temperature, d = { c with temperature } := ⟨_, h.alike⟩
  obtain ⟨-, hordered, -, rfl⟩ := step_eq_ok.mp hmade
  obtain ⟨-, -, -, rfl⟩ := step_eq_ok.mp hmade'
  -- Both are moved by the same `delta`, which no temperature enters, before the bounds stop them.
  have hmoved : ∀ delta, c.temperature + delta ≤ temperature + delta :=
    fun delta => Int.add_le_add_right h.order delta
  have hgap : ∀ delta, temperature + delta - (c.temperature + delta) ≤ gap := by
    intro delta
    rw [Int.add_sub_add_right]
    exact h.gap
  exact ⟨rfl, Bounds.clamp_le_clamp hordered (hmoved _),
    Int.le_trans (Bounds.clamp_sub_clamp_le hordered (hmoved _)) (hgap _)⟩

end Controller

/-- An operation that both accept keeps their order and does not draw them apart. -/
theorem Step.below {caller : Address} {command : Command} {answer answer' : Answer}
    {before before' after after' : Site Controller Unit} {gap : Int}
    (h : Step caller before command (.ok answer) after)
    (h' : Step caller before' command (.ok answer') after')
    (hbelow : before.state.Below before'.state gap) : after.state.Below after'.state gap := by
  -- The operation is the same, and so both take the same kind of step.
  cases h with
  | amended hcommand _ =>
    cases h' with
    | amended hcommand' _ =>
      cases hcommand.symm.trans hcommand'
      exact hbelow.amended hcommand
    | bounded _ _ _ => cases hcommand
    | set _ _ => cases hcommand
    | overridden _ _ => cases hcommand
    | ticked _ _ => cases hcommand
  | bounded _ hbounds hvalid =>
    cases h' with
    | amended hcommand _ => cases hcommand
    | bounded _ hbounds' _ =>
      cases hbounds.trans hbounds'.symm
      exact hbelow.bounded (Int.le_of_lt hvalid.2)
  | set _ _ =>
    cases h' with
    | amended hcommand _ => cases hcommand
    | set _ _ => exact hbelow.set _
  | overridden _ _ =>
    cases h' with
    | amended hcommand _ => cases hcommand
    | overridden _ _ => exact hbelow.overridden _ _
  | ticked _ hmade =>
    cases h' with
    | amended hcommand _ => cases hcommand
    | ticked _ hmade' => exact hbelow.ticked hmade hmade'

/-! ## Runs -/

theorem perform_below {caller : Address} {command : Command} {site site' : Site Controller Unit}
    {gap : Int} (h : ((Controller.perform caller command).run site).1.isOk = true)
    (h' : ((Controller.perform caller command).run site').1.isOk = true)
    (hbelow : site.state.Below site'.state gap) :
    ((Controller.perform caller command).run site).2.state.Below
      ((Controller.perform caller command).run site').2.state gap := by
  have hstep := perform_step caller command site
  have hstep' := perform_step caller command site'
  obtain ⟨answer, hanswer⟩ := Site.exists_eq_ok_of_isOk h
  obtain ⟨answer', hanswer'⟩ := Site.exists_eq_ok_of_isOk h'
  rw [hanswer] at hstep
  rw [hanswer'] at hstep'
  exact hstep.below hstep' hbelow

/-- A run that both accept keeps their order and does not draw them apart. -/
theorem below_play {site site' : Site Controller Unit} {moves : List (Address × Command)}
    {gap : Int} (h : site.Succeeds (fun move => Controller.perform move.1 move.2) moves)
    (h' : site'.Succeeds (fun move => Controller.perform move.1 move.2) moves)
    (hbelow : site.state.Below site'.state gap) :
    (site.play (fun move => Controller.perform move.1 move.2) moves).state.Below
      (site'.play (fun move => Controller.perform move.1 move.2) moves).state gap := by
  induction moves generalizing site site' with
  | nil => exact hbelow
  | cons move rest ih =>
    rw [Site.succeeds_cons] at h h'
    exact ih h.2 h'.2 (perform_below h.1 h'.1 hbelow)

/-- Two controllers that differ in nothing but the temperature stay so under operations that both
accept. From any point of a run to any later one their order is kept, they are not drawn apart, and
once they are equal they are equal from there on. -/
theorem coupled_play {c d : Controller} {moves : List (Address × Command)}
    (halike : d = { c with temperature := d.temperature }) (hle : c.temperature ≤ d.temperature)
    (h : (Site.start c ()).Succeeds (fun move => Controller.perform move.1 move.2) moves)
    (h' : (Site.start d ()).Succeeds (fun move => Controller.perform move.1 move.2) moves) :
    let perform := fun move : Address × Command => Controller.perform move.1 move.2
    ∀ earlier middle later, moves = earlier ++ middle ++ later →
      let c₁ := ((Site.start c ()).play perform earlier).state
      let d₁ := ((Site.start d ()).play perform earlier).state
      let c₂ := ((Site.start c ()).play perform (earlier ++ middle)).state
      let d₂ := ((Site.start d ()).play perform (earlier ++ middle)).state
      c₂.temperature ≤ d₂.temperature ∧
        d₂.temperature - c₂.temperature ≤ d₁.temperature - c₁.temperature ∧
          d₂ = { c₂ with temperature := d₂.temperature } ∧
            d₂.integral = c₂.integral ∧ d₂.lastError = c₂.lastError ∧
              (c₁.temperature = d₁.temperature → c₂ = d₂) := by
  rintro perform earlier middle later rfl c₁ d₁ c₂ d₂
  rw [Site.succeeds_append, Site.succeeds_append] at h h'
  obtain ⟨⟨hearlier, hmiddle⟩, -⟩ := h
  obtain ⟨⟨hearlier', hmiddle'⟩, -⟩ := h'
  have hstart : c.Below d (d.temperature - c.temperature) := ⟨halike, hle, Int.le_refl _⟩
  have hfirst : c₁.Below d₁ (d.temperature - c.temperature) :=
    below_play hearlier hearlier' hstart
  -- The gap that the middle of the run meets.
  have hmet : c₁.Below d₁ (d₁.temperature - c₁.temperature) :=
    ⟨hfirst.alike, hfirst.order, Int.le_refl _⟩
  have hsecond : c₂.Below d₂ (d₁.temperature - c₁.temperature) := by
    have hplayed := below_play hmiddle hmiddle' hmet
    rw [← Site.play_append, ← Site.play_append] at hplayed
    exact hplayed
  refine ⟨hsecond.order, hsecond.gap, hsecond.alike, ?_, ?_, ?_⟩
  · rw [hsecond.alike]
  · rw [hsecond.alike]
  · intro hequal
    rw [hequal, Int.sub_self] at hsecond
    exact hsecond.eq_of_gap

/-- Either bound stops only one of two controllers, new bounds move one of them, and the upper bound
then brings them together. -/
theorem coupled_play_meeting :
    let holder := Address.filled 0xA1
    let c : Controller := ⟨⟨holder⟩, 40, ⟨10, 100⟩, ⟨1, 0, 0⟩, 0, 0, Table.empty⟩
    let d := { c with temperature := 90 }
    let perform := fun move : Address × Command => Controller.perform move.1 move.2
    let temperatures := fun moves => (((Site.start c ()).play perform moves).state.temperature,
      ((Site.start d ()).play perform moves).state.temperature)
    let apart : List (Address × Command) := [
      (holder, .tick ⟨30, 0, 0⟩),
      (holder, .setGains ⟨2, 0, 0⟩),
      (holder, .tick ⟨-35, 0, 0⟩)]
    let meeting : List (Address × Command) := [
      (holder, .setBounds 5 20),
      (holder, .tick ⟨10, 0, 0⟩)]
    let after : List (Address × Command) := [(holder, .tick ⟨-3, 0, 0⟩)]
    (Site.start c ()).Succeeds perform (apart ++ meeting ++ after) ∧
      (Site.start d ()).Succeeds perform (apart ++ meeting ++ after) ∧
      temperatures (apart.take 1) = (70, 100) ∧
      temperatures apart = (10, 30) ∧
      temperatures (apart ++ meeting.take 1) = (10, 20) ∧
      temperatures (apart ++ meeting) = (20, 20) ∧
      ((Site.start c ()).play perform (apart ++ meeting ++ after)).state =
        ((Site.start d ()).play perform (apart ++ meeting ++ after)).state := by
  intro holder c d perform temperatures apart meeting after
  have hc : (Site.start c ()).Succeeds perform (apart ++ meeting ++ after) := by decide +kernel
  have hd : (Site.start d ()).Succeeds perform (apart ++ meeting ++ after) := by decide +kernel
  have hmet : temperatures (apart ++ meeting) = (20, 20) := by decide +kernel
  have halike : d = { c with temperature := d.temperature } := rfl
  have hcoupled := coupled_play halike (by decide) hc hd (apart ++ meeting) after []
    (List.append_nil _).symm
  obtain ⟨-, -, -, -, -, hafter⟩ := hcoupled
  exact ⟨hc, hd, by decide +kernel, by decide +kernel, by decide +kernel, hmet,
    hafter (by decide +kernel)⟩

end Integrity.Temperature
