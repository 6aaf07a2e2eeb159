import Integrity.Proofs.Operation.Run
import Integrity.Proofs.Temperature.Step

/-! # Safety of the temperature controller

The bounds are valid, and every temperature that the controller holds lies within them. Replacing
the bounds restores this for the common temperature and for those of single roles at once; the other
operations check what they set, or clamp it. -/

namespace Integrity.Temperature

open Operation

namespace Controller

/-- Valid bounds, and all temperatures within them. -/
structure Safe (c : Controller) : Prop where
  bounds : c.bounds.IsValid
  temperature : c.bounds.Admits c.temperature
  overrides : ∀ role value, c.overrides.get? role = some value → c.bounds.Admits value

theorem safe_make {authority : Address} {settings : Settings} {c : Controller}
    (h : make authority settings = .ok c) : c.Safe := by
  simp only [make] at h
  cases hbounds : Bounds.make settings.min settings.max with
  | error cause =>
      rw [hbounds] at h
      cases h
  | ok bounds =>
      cases hinitial : bounds.check settings.initial with
      | error cause =>
          simp only [hbounds, hinitial] at h
          cases h
      | ok passed =>
          simp only [hbounds, hinitial] at h
          cases h
          refine ⟨(Bounds.make_eq_ok.mp hbounds).2, (Bounds.check_eq_ok.mp hinitial).2, ?_⟩
          intro role value hvalue
          cases hvalue

/-- New bounds need no safety before them. -/
theorem Safe.bounded {c : Controller} {bounds : Bounds} (h : bounds.IsValid) :
    (c.bounded bounds).Safe := by
  refine ⟨h, Bounds.admits_clamp h c.temperature, ?_⟩
  intro role value hvalue
  simp only [Controller.bounded, Table.get?_map, Option.map_eq_some_iff] at hvalue
  obtain ⟨old, -, rfl⟩ := hvalue
  exact Bounds.admits_clamp h old

theorem Safe.set {c : Controller} (h : c.Safe) {value : Int} (hvalue : c.bounds.Admits value) :
    { c with temperature := value }.Safe :=
  ⟨h.bounds, hvalue, h.overrides⟩

theorem Safe.overridden {c : Controller} (h : c.Safe) {role : Role} {value : Int}
    (hvalue : c.bounds.Admits value) :
    { c with overrides := c.overrides.insert role value }.Safe := by
  refine ⟨h.bounds, h.temperature, ?_⟩
  intro other found hfound
  rw [Table.get?_insert] at hfound
  split at hfound
  · cases hfound
    exact hvalue
  · exact h.overrides other found hfound

theorem Safe.cleared {c : Controller} (h : c.Safe) (role : Role) :
    { c with overrides := c.overrides.erase role }.Safe := by
  refine ⟨h.bounds, h.temperature, ?_⟩
  intro other found hfound
  rw [Table.get?_erase] at hfound
  split at hfound
  · cases hfound
  · exact h.overrides other found hfound

theorem Safe.ticked {c : Controller} (h : c.Safe) {signals : Signals} {made : ControlStep}
    (hstep : c.stepOn signals = .ok made) : (c.ticked made).Safe := by
  have hends := step_ends h.bounds c.gains c.temperature c.integral c.lastError signals
  rw [stepOn] at hstep
  rw [hstep] at hends
  exact ⟨h.bounds, hends, h.overrides⟩

theorem Safe.amended {c : Controller} (h : c.Safe) {command : Command}
    {change : Controller → Controller} {event : Controller → Event}
    (hcommand : command.amendment = some (change, event)) : (change c).Safe := by
  cases command with
  | transferAuthority new =>
      cases hcommand
      exact ⟨h.bounds, h.temperature, h.overrides⟩
  | setGains gains =>
      cases hcommand
      exact ⟨h.bounds, h.temperature, h.overrides⟩
  | clearOverride role =>
      cases hcommand
      exact h.cleared role
  | _ => cases hcommand

/-- Every step keeps a controller safe. -/
theorem Safe.step {caller : Address} {command : Command} {answer : Except Error Answer}
    {before after : Site Controller Unit} (h : before.state.Safe)
    (hstep : Step caller before command answer after) : after.state.Safe := by
  cases hstep with
  | refused _ cause => exact h
  | amended hcommand _ => exact h.amended hcommand
  | bounded _ _ hvalid => exact Safe.bounded hvalid
  | set _ hvalue => exact h.set hvalue
  | overridden _ hvalue => exact h.overridden hvalue
  | ticked _ hmade => exact h.ticked hmade
  | rejected _ _ => exact h

/-! ## What safety gives -/

theorem Safe.effective {c : Controller} (h : c.Safe) (role : Role) :
    c.bounds.Admits (c.effective role) := by
  simp only [Controller.effective]
  cases hvalue : c.overrides.get? role with
  | none => exact h.temperature
  | some value => exact h.overrides role value hvalue

/-- An authority's tick of a safe controller makes a control step, unless some quantity of the
control law does not fit. -/
theorem Safe.tick {site : Site Controller Unit} (h : site.state.Safe) {caller : Address}
    (hcaller : site.state.authority.isHeldBy caller) (signals : Signals) :
    (∃ made, ((perform caller (.tick signals)).run site).1 = .ok (some made)) ∨
      ∃ stage, ((perform caller (.tick signals)).run site).1 =
        .error (.control (.overflow stage)) := by
  have hauthority : site.state.ensureAuthority caller = .ok () := by
    rw [ensureAuthority, if_pos hcaller]
  have hends := step_ends h.bounds site.state.gains site.state.temperature site.state.integral
    site.state.lastError signals
  rw [perform, run_bind, run_tick, hauthority]
  cases hstep : site.state.stepOn signals with
  | ok made => exact .inl ⟨made, rfl⟩
  | error cause =>
      rw [stepOn] at hstep
      rw [hstep] at hends
      obtain ⟨stage, rfl⟩ := hends
      exact .inr ⟨stage, rfl⟩

end Controller

/-- Whatever anybody does with a controller that was made: its bounds stay valid and all its
temperatures within them, those that roles follow included, and a tick of the authority fails only
when some quantity of the control law does not fit. -/
theorem safe_play {authority : Address} {settings : Settings} {c : Controller}
    (h : Controller.make authority settings = .ok c) (moves : List (Address × Command)) :
    let site := (Site.start c ()).play (fun move => Controller.perform move.1 move.2) moves
    site.state.Safe ∧
      (∀ role, site.state.bounds.Admits (site.state.effective role)) ∧
      ∀ caller signals, site.state.authority.isHeldBy caller →
        (∃ made, ((Controller.perform caller (.tick signals)).run site).1 = .ok (some made)) ∨
          ∃ stage, ((Controller.perform caller (.tick signals)).run site).1 =
            .error (.control (.overflow stage)) := by
  intro site
  have hsafe : site.state.Safe :=
    Site.play_induction (P := fun site : Site Controller Unit => site.state.Safe)
      (Controller.safe_make h)
      fun move _ before hbefore => hbefore.step (perform_step move.1 move.2 before)
  refine ⟨hsafe, hsafe.effective, ?_⟩
  intro caller signals hcaller
  exact hsafe.tick hcaller signals

/-- New bounds move the common temperature and that of a role, and the tick after them ends at a
bound. -/
theorem safe_play_default :
    let holder := Address.filled 0xA1
    let c : Controller := ⟨⟨holder⟩, 100, ⟨1, 1000⟩, ⟨1, 0, 0⟩, 0, 0, Table.empty⟩
    let moves : List (Address × Command) := [
      (holder, .setOverride .agent 900),
      (holder, .setBounds 5 50),
      (holder, .tick ⟨-90, 0, 0⟩)]
    let site := (Site.start c ()).play (fun move => Controller.perform move.1 move.2) moves
    Controller.make holder Settings.default = .ok c ∧ site.state.temperature = 5 ∧
      site.state.effective .agent = 50 ∧ site.state.Safe := by
  intro holder c moves site
  have hmake : Controller.make holder Settings.default = .ok c := rfl
  exact ⟨hmake, by decide, by decide, (safe_play hmake moves).1⟩

end Integrity.Temperature
