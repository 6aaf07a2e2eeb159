import Integrity.Proofs.Operation.Charter
import Integrity.Proofs.Temperature.Step

/-! # Control of the temperature controller

Every operation of the controller is administrative, control steps included, and the authority
decides about the whole controller. -/

namespace Integrity.Temperature

open Operation

/-- The address to which an operation gives the authority. -/
def Command.heir? : Command → Option Address
  | .transferAuthority new => some new
  | _ => none

/-- The charter of the controller. -/
def charter : Charter Controller Controller (Address × Command) Error where
  setup c := c
  authority? c := some c.authority
  petitioner? request := some request.1
  heir? request := request.2.heir?
  unauthorized := .unauthorized

theorem Controller.ensureAuthority_of_not_held {c : Controller} {caller : Address}
    (h : c.authority.isHeldBy caller = false) :
    c.ensureAuthority caller = .error (.unauthorized caller) := by
  simp [ensureAuthority, h]

theorem Controller.ensureAuthority_of_held {c : Controller} {caller : Address}
    (h : c.authority.isHeldBy caller = true) : c.ensureAuthority caller = .ok () := by
  simp [ensureAuthority, h]

/-- Whatever is asked for, the authority is asked for first. -/
theorem run_of_not_held {caller : Address} (command : Command) {site : Site Controller Unit}
    (h : site.state.authority.isHeldBy caller = false) :
    (Controller.perform caller command).run site = (.error (.unauthorized caller), site) := by
  have hrefused := Controller.ensureAuthority_of_not_held h
  cases hcommand : command.amendment with
  | some amendment =>
      obtain ⟨change, event⟩ := amendment
      rw [perform_of_amendment hcommand, settle, run_bind, run_amend, hrefused]
  | none =>
      cases command with
      | setBounds min max =>
          rw [Controller.perform, settle, run_bind, Controller.run_setBounds, hrefused]
      | setTemperature value =>
          rw [Controller.perform, settle, run_bind, Controller.run_setTemperature, hrefused]
      | setOverride role value =>
          rw [Controller.perform, settle, run_bind, Controller.run_setOverride, hrefused]
      | tick signals => rw [Controller.perform, run_bind, Controller.run_tick, hrefused]
      | transferAuthority | setGains | clearOverride => cases hcommand

theorem makeBounds_ne_unauthorized (min max : Int) (caller : Address) :
    Controller.makeBounds min max ≠ .error (.unauthorized caller) := by
  rw [Controller.makeBounds]
  cases Bounds.make min max <;> simp

theorem ensureInBounds_ne_unauthorized (c : Controller) (value : Int) (caller : Address) :
    c.ensureInBounds value ≠ .error (.unauthorized caller) := by
  rw [Controller.ensureInBounds]
  cases c.bounds.check value <;> simp

/-- The holder of the authority is never refused for want of it. -/
theorem run_ne_unauthorized {caller : Address} (command : Command) {site : Site Controller Unit}
    (h : site.state.authority.isHeldBy caller = true) :
    ((Controller.perform caller command).run site).1 ≠ .error (.unauthorized caller) := by
  have hpassed := Controller.ensureAuthority_of_held h
  cases hcommand : command.amendment with
  | some amendment =>
      obtain ⟨change, event⟩ := amendment
      rw [perform_of_amendment hcommand, settle, run_bind, run_amend, hpassed]
      simp
  | none =>
      cases command with
      | setBounds min max =>
          have hcause := makeBounds_ne_unauthorized min max caller
          rw [Controller.perform, settle, run_bind, Controller.run_setBounds, hpassed]
          cases hbounds : Controller.makeBounds min max with
          | ok bounds => simp
          | error cause => simpa [hbounds] using hcause
      | setTemperature value =>
          have hcause := ensureInBounds_ne_unauthorized site.state value caller
          rw [Controller.perform, settle, run_bind, Controller.run_setTemperature, hpassed]
          cases hvalue : site.state.ensureInBounds value with
          | ok passed => simp
          | error cause => simpa [hvalue] using hcause
      | setOverride role value =>
          have hcause := ensureInBounds_ne_unauthorized site.state value caller
          rw [Controller.perform, settle, run_bind, Controller.run_setOverride, hpassed]
          cases hvalue : site.state.ensureInBounds value with
          | ok passed => simp
          | error cause => simpa [hvalue] using hcause
      | tick signals =>
          rw [Controller.perform, run_bind, Controller.run_tick, hpassed]
          cases site.state.stepOn signals <;> simp
      | transferAuthority | setGains | clearOverride => cases hcommand

/-- A step moves the authority only to the heir that it names. -/
theorem Step.authority {caller : Address} {command : Command} {answer : Except Error Answer}
    {before after : Site Controller Unit} (h : Step caller before command answer after) :
    charter.authorityAt after =
      ((charter.heirAfter? (caller, command) answer).map Authority.mk).or
        (charter.authorityAt before) := by
  cases h with
  | amended hcommand hauthority => cases command <;> cases hcommand <;> rfl
  | _ => rfl

theorem charter_governs (request : Address × Command) :
    charter.Governs request (Controller.perform request.1 request.2) := by
  constructor
  case refused =>
    rintro _ ⟨⟩ site _ ⟨⟩ hheld
    exact run_of_not_held request.2 hheld
  case admitted =>
    rintro _ ⟨⟩ site _ ⟨⟩ hheld
    exact run_ne_unauthorized request.2 hheld
  case confined =>
    intro hnobody
    cases hnobody
  case succession =>
    intro site
    exact (perform_step request.1 request.2 site).authority

end Integrity.Temperature
