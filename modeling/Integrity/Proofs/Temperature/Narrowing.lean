import Integrity.Proofs.Operation.Run
import Integrity.Proofs.Temperature.Exact
import Integrity.Proofs.Temperature.Replay
import Mathlib.Data.List.Chain

/-! # New bounds

New bounds move every temperature to its nearest point within them, and what is told are the
temperatures that moved. A nearest point within narrow bounds is the same from within wider ones, so
bounds may be narrowed in any number of steps. -/

namespace Integrity.Temperature

open Operation

/-! ## Nearest points within bounds of bounds -/

namespace Bounds

/-- Every temperature between the inner bounds is between these. -/
def Contains (bounds inner : Bounds) : Prop :=
  bounds.min ≤ inner.min ∧ inner.max ≤ bounds.max

instance (bounds inner : Bounds) : Decidable (bounds.Contains inner) :=
  inferInstanceAs (Decidable (_ ∧ _))

theorem Contains.refl (bounds : Bounds) : bounds.Contains bounds :=
  ⟨Int.le_refl _, Int.le_refl _⟩

theorem Contains.trans {outer bounds inner : Bounds} (h : outer.Contains bounds)
    (h' : bounds.Contains inner) : outer.Contains inner :=
  ⟨Int.le_trans h.1 h'.1, Int.le_trans h'.2 h.2⟩

instance : Trans Contains Contains Contains :=
  ⟨Contains.trans⟩

theorem clamp_clamp {outer inner : Bounds} (h : outer.Contains inner)
    (hordered : inner.min ≤ inner.max) (value : Int) :
    inner.clamp (outer.clamp value) = inner.clamp value := by
  obtain ⟨hmin, hmax⟩ := h
  rcases clamp_cases outer value with ⟨hvalue, houter⟩ | ⟨hvalue, houter⟩ | ⟨-, -, houter⟩
  · -- A value below the outer bounds is below the inner ones, and so is the point it moved to.
    rw [houter]
    have hpoint := clamp_cases inner outer.min
    have hdirect := clamp_cases inner value
    omega
  · rw [houter]
    have hpoint := clamp_cases inner outer.max
    have hdirect := clamp_cases inner value
    omega
  · rw [houter]

end Bounds

namespace Controller

theorem bounded_bounded {outer inner : Bounds} (h : outer.Contains inner)
    (hordered : inner.min ≤ inner.max) (c : Controller) :
    (c.bounded outer).bounded inner = c.bounded inner := by
  have hclamp : inner.clamp ∘ outer.clamp = inner.clamp :=
    funext fun value => Bounds.clamp_clamp h hordered value
  simp only [bounded, Table.map_map, hclamp, Bounds.clamp_clamp h hordered]

/-! ## One change of the bounds -/

theorem mem_moved_iff {c : Controller} {bounds : Bounds} {role : Role} {value : Int} :
    (role, value) ∈ c.moved bounds ↔
      (c.bounded bounds).overrides.get? role = some value ∧
        c.overrides.get? role ≠ some value := by
  rw [mem_moved, bounded, Table.get?_map]
  cases c.overrides.get? role with
  | none => simp
  | some old =>
    simp only [Option.some.injEq, exists_eq_left', Option.map_some, ne_eq]
    exact and_congr_right' (not_congr eq_comm)

theorem pairwise_moved (c : Controller) (bounds : Bounds) :
    (c.moved bounds).Pairwise fun first second => first.1.rank < second.1.rank := by
  have hall : Role.all.Pairwise fun first second => first.rank < second.rank := by decide
  rw [moved, List.pairwise_filterMap]
  refine hall.imp ?_
  intro first second hrank pair hpair other hother
  -- What is told of a role names it.
  obtain rfl : pair.1 = first := by grind
  obtain rfl : other.1 = second := by grind
  exact hrank

end Controller

/-- What an accepted change of the bounds does. -/
structure Projects (before after : Site Controller Unit) (new : Bounds) : Prop where
  bounds : after.state.bounds = new
  temperature : new.IsNearest before.state.temperature after.state.temperature
  overrides : ∀ role, Option.Rel new.IsNearest (before.state.overrides.get? role)
    (after.state.overrides.get? role)
  authority : after.state.authority = before.state.authority
  gains : after.state.gains = before.state.gains
  integral : after.state.integral = before.state.integral
  lastError : after.state.lastError = before.state.lastError
  /-- The roles whose temperatures changed are told of in their order, and no others. -/
  events : ∃ changes : List (Role × Int),
    after.events = before.events ++
      .boundsUpdated new.min new.max ::
        .temperatureUpdated before.state.temperature after.state.temperature ::
          changes.map (fun change => .roleOverrideSet change.1 change.2) ∧
    (changes.Pairwise fun first second => first.1.rank < second.1.rank) ∧
    ∀ role value, (role, value) ∈ changes ↔
      after.state.overrides.get? role = some value ∧
        before.state.overrides.get? role ≠ some value

theorem projects_afterBounding (site : Site Controller Unit) {bounds : Bounds}
    (h : bounds.IsValid) : Projects site (Controller.afterBounding site bounds) bounds := by
  have hnearest := Bounds.isNearest_clamp (Int.le_of_lt h.2)
  constructor
  case bounds => rfl
  case temperature => exact hnearest _
  case overrides =>
    intro role
    simp only [Controller.afterBounding, Controller.bounded, Table.get?_map]
    cases site.state.overrides.get? role with
    | none => exact .none
    | some value => exact .some (hnearest value)
  case authority => rfl
  case gains => rfl
  case integral => rfl
  case lastError => rfl
  case events =>
    exact ⟨site.state.moved bounds, rfl, Controller.pairwise_moved _ _,
      fun _ _ => Controller.mem_moved_iff⟩

/-! ## Changes that are accepted -/

/-- Replaces the bounds for a caller. -/
def rebound (move : Address × Bounds) : Operation Controller Unit Error Answer :=
  Controller.perform move.1 (.setBounds move.2.min move.2.max)

section Rebound

variable {site : Site Controller Unit} {caller : Address} {bounds : Bounds}

theorem run_rebound_of_valid (hauthority : site.state.ensureAuthority caller = .ok ())
    (hvalid : bounds.IsValid) :
    (rebound (caller, bounds)).run site = (.ok none, Controller.afterBounding site bounds) := by
  have hbounds : Controller.makeBounds bounds.min bounds.max = .ok bounds :=
    Controller.makeBounds_eq_ok.mpr ⟨rfl, hvalid⟩
  rw [rebound, Controller.perform, settle, run_bind, Controller.run_setBounds, hauthority]
  simp only [hbounds, run_pure]

theorem accepts_of_isOk (h : ((rebound (caller, bounds)).run site).1.isOk = true) :
    site.state.ensureAuthority caller = .ok () ∧ bounds.IsValid := by
  rw [rebound, Controller.perform, settle, run_bind, Controller.run_setBounds] at h
  cases hauthority : site.state.ensureAuthority caller with
  | error cause =>
    rw [hauthority] at h
    cases h
  | ok passed =>
    cases hbounds : Controller.makeBounds bounds.min bounds.max with
    | error cause =>
      simp only [hauthority, hbounds] at h
      cases h
    | ok made =>
      obtain ⟨rfl, hvalid⟩ := Controller.makeBounds_eq_ok.mp hbounds
      exact ⟨rfl, hvalid⟩

theorem run_rebound_of_isOk (h : ((rebound (caller, bounds)).run site).1.isOk = true) :
    (rebound (caller, bounds)).run site = (.ok none, Controller.afterBounding site bounds) :=
  run_rebound_of_valid (accepts_of_isOk h).1 (accepts_of_isOk h).2

end Rebound

/-- Bounds that are narrowed step by step end where the last of them end at once, and whoever
asked for the last could have done so at the start. -/
theorem state_play_rebound {site : Site Controller Unit} {moves : List (Address × Bounds)}
    {last : Address × Bounds}
    (hnested : ((moves ++ [last]).map Prod.snd).Pairwise Bounds.Contains)
    (haccepted : site.Succeeds rebound (moves ++ [last])) :
    site.state.ensureAuthority last.1 = .ok () ∧ last.2.IsValid ∧
      (site.play rebound (moves ++ [last])).state = site.state.bounded last.2 := by
  induction moves generalizing site with
  | nil =>
    obtain ⟨hok, -⟩ := Site.succeeds_cons.mp haccepted
    obtain ⟨hauthority, hvalid⟩ := accepts_of_isOk hok
    refine ⟨hauthority, hvalid, ?_⟩
    rw [List.nil_append, Site.play_cons, run_rebound_of_valid hauthority hvalid]
    rfl
  | cons move rest ih =>
    obtain ⟨hok, hrest⟩ := Site.succeeds_cons.mp haccepted
    rw [List.cons_append, List.map_cons, List.pairwise_cons] at hnested
    have hcontains : move.2.Contains last.2 := hnested.1 last.2 (by simp)
    rw [run_rebound_of_isOk hok] at hrest
    obtain ⟨hauthority, hvalid, hplay⟩ := ih hnested.2 hrest
    refine ⟨hauthority, hvalid, ?_⟩
    rw [List.cons_append, Site.play_cons, run_rebound_of_isOk hok, hplay]
    exact Controller.bounded_bounded hcontains (Int.le_of_lt hvalid.2) site.state

/-- Whatever state a controller is in, an accepted change of the bounds moves the common temperature
and those of roles to their nearest points, leaves the rest and tells of what moved; the same change
once more is accepted and leaves the state as it is. Bounds that are narrowed in any number of
accepted steps leave the state that the last of them alone would have left. -/
theorem rebound_projects (site : Site Controller Unit) :
    (∀ caller bounds, ((rebound (caller, bounds)).run site).1.isOk = true →
      let after := ((rebound (caller, bounds)).run site).2
      Projects site after bounds ∧
        ((rebound (caller, bounds)).run after).1.isOk = true ∧
          ((rebound (caller, bounds)).run after).2.state = after.state) ∧
    ∀ moves last, ((moves ++ [last]).map Prod.snd).IsChain Bounds.Contains →
      site.Succeeds rebound (moves ++ [last]) →
        ((rebound last).run site).1.isOk = true ∧
          (site.play rebound (moves ++ [last])).state = ((rebound last).run site).2.state := by
  constructor
  · intro caller bounds hok after
    obtain ⟨hauthority, hvalid⟩ := accepts_of_isOk hok
    have hafter : after = Controller.afterBounding site bounds :=
      congrArg Prod.snd (run_rebound_of_isOk hok)
    rw [hafter]
    have hagain : (rebound (caller, bounds)).run (Controller.afterBounding site bounds) =
        (.ok none, Controller.afterBounding (Controller.afterBounding site bounds) bounds) :=
      run_rebound_of_valid hauthority hvalid
    refine ⟨projects_afterBounding site hvalid, by rw [hagain]; rfl, ?_⟩
    rw [hagain]
    exact Controller.bounded_bounded (.refl bounds) (Int.le_of_lt hvalid.2) site.state
  · intro moves last hnested haccepted
    obtain ⟨hauthority, hvalid, hplay⟩ :=
      state_play_rebound (List.isChain_iff_pairwise.mp hnested) haccepted
    have hdirect : (rebound last).run site = (.ok none, Controller.afterBounding site last.2) :=
      run_rebound_of_valid hauthority hvalid
    rw [hdirect]
    exact ⟨rfl, hplay⟩

/-- Three changes of the bounds, each within the one before, move the temperatures up and down on
the way. The last alone moves the common temperature and one role's, and both ways end alike. -/
theorem rebound_projects_nested :
    let holder := Address.filled 0xA1
    let c : Controller := ⟨⟨holder⟩, 100, ⟨1, 1000⟩, ⟨1, 0, 0⟩, 7, 3,
      (Table.empty.insert .operator 240).insert .agent 900⟩
    let site := Site.start c ()
    let wide : Address × Bounds := (holder, ⟨150, 800⟩)
    let middle : Address × Bounds := (holder, ⟨150, 400⟩)
    let last : Address × Bounds := (holder, ⟨200, 250⟩)
    let after := ((rebound last).run site).2
    (([wide, middle] ++ [last]).map Prod.snd).IsChain Bounds.Contains ∧
      site.Succeeds rebound ([wide, middle] ++ [last]) ∧
      ((rebound last).run site).1.isOk = true ∧
      after.state = { c with
        temperature := 200, bounds := ⟨200, 250⟩, overrides := c.overrides.insert .agent 250 } ∧
      after.events = [.boundsUpdated 200 250, .temperatureUpdated 100 200,
        .roleOverrideSet .agent 250] ∧
      Projects site after last.2 ∧
      (site.play rebound ([wide, middle] ++ [last])).state = after.state := by
  intro holder c site wide middle last after
  have hnested : (([wide, middle] ++ [last]).map Prod.snd).IsChain Bounds.Contains := by decide
  have haccepted : site.Succeeds rebound ([wide, middle] ++ [last]) := by decide +kernel
  obtain ⟨hone, hchain⟩ := rebound_projects site
  obtain ⟨hok, hplay⟩ := hchain [wide, middle] last hnested haccepted
  exact ⟨hnested, haccepted, hok, by decide +kernel, by decide +kernel,
    (hone last.1 last.2 hok).1, hplay⟩

end Integrity.Temperature
