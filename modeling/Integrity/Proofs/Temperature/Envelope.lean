import Integrity.Proofs.Temperature.Exact
import Integrity.Proofs.Temperature.Step
import Integrity.Width
import Mathlib.Algebra.Group.Nat.Defs

/-! # Control steps that cannot overflow

The sum of errors is never clamped, so that it grows by one error at every step; the error itself is
as large as the signals, and its change at most twice that. With gains and bounds of 64 bits this
says how many steps on signals of one size are made for certain. -/

namespace Integrity.Temperature

/-! ## Sizes -/

theorem fitsWord128_of_natAbs_le {n : Int} {size : Nat} (hn : n.natAbs ≤ size)
    (hsize : size < 2 ^ 127) : FitsWord128 n := by
  simp only [FitsWord128, minWord128, maxWord128]
  omega

theorem natAbs_add_le_of_le {a b : Int} {first second : Nat} (ha : a.natAbs ≤ first)
    (hb : b.natAbs ≤ second) : (a + b).natAbs ≤ first + second :=
  Nat.le_trans (Int.natAbs_add_le a b) (Nat.add_le_add ha hb)

theorem natAbs_gain_mul_le {gain n : Int} {size : Nat} (hgain : FitsInt64 gain)
    (hn : n.natAbs ≤ size) : (gain * n).natAbs ≤ 2 ^ 63 * size := by
  have hsize : gain.natAbs ≤ 2 ^ 63 := by
    simp only [FitsInt64, minInt64, maxInt64] at hgain
    omega
  rw [Int.natAbs_mul]
  exact Nat.mul_le_mul hsize hn

/-- Signals of at most a size. -/
def Signals.Within (signals : Signals) (size : Nat) : Prop :=
  signals.emission.natAbs ≤ size ∧ signals.backlog.natAbs ≤ size ∧
    signals.serviceLevel.natAbs ≤ size

instance (signals : Signals) (size : Nat) : Decidable (signals.Within size) :=
  inferInstanceAs (Decidable (_ ∧ _ ∧ _))

theorem Signals.Within.total {signals : Signals} {size : Nat} (h : signals.Within size) :
    signals.total.natAbs ≤ 3 * size := by
  obtain ⟨hemission, hbacklog, hserviceLevel⟩ := h
  simp only [Signals.total]
  omega

def Gains.FitInt64 (gains : Gains) : Prop :=
  FitsInt64 gains.kp ∧ FitsInt64 gains.ki ∧ FitsInt64 gains.kd

theorem terms_lt {error integral derivative : Nat} (h : error + integral + derivative < 2 ^ 64) :
    2 ^ 63 + (2 ^ 63 * error + 2 ^ 63 * integral + 2 ^ 63 * derivative) < 2 ^ 127 + 1 := by
  -- The room that is left over is at least one, times a gain: as much as the temperature may take.
  omega

/-- No quantity of a step overflows while there is room for the three terms and the temperature. -/
theorem quantities_fit {gains : Gains} {temperature integral lastError : Int} {signals : Signals}
    {size sum : Nat} (hgains : gains.FitInt64) (htemperature : temperature.natAbs < 2 ^ 63)
    (hsignals : signals.Within size) (hintegral : (integral + signals.total).natAbs ≤ sum)
    (hlastError : lastError.natAbs ≤ 3 * size) (hroom : 3 * size + sum + 6 * size < 2 ^ 64) :
    ∀ item ∈ quantities gains temperature integral lastError signals, FitsWord128 item.2 := by
  have hterms := terms_lt hroom
  have hfirst : (signals.emission + signals.backlog).natAbs ≤ 2 * size := by
    obtain ⟨hemission, hbacklog, -⟩ := hsignals
    omega
  have herror := hsignals.total
  have hderivative : (signals.total - lastError).natAbs ≤ 6 * size := by omega
  -- The gains multiply these sizes, and the last of the sums is the largest.
  have hp := natAbs_gain_mul_le hgains.1 herror
  have hi := natAbs_gain_mul_le hgains.2.1 hintegral
  have hd := natAbs_gain_mul_le hgains.2.2 hderivative
  have hpi := natAbs_add_le_of_le hp hi
  have hdelta := natAbs_add_le_of_le hpi hd
  have htarget := natAbs_add_le_of_le (Nat.le_sub_one_of_lt htemperature) hdelta
  simp only [quantities, List.forall_mem_cons]
  exact ⟨fitsWord128_of_natAbs_le hfirst (by omega),
    fitsWord128_of_natAbs_le herror (by omega),
    fitsWord128_of_natAbs_le hintegral (by omega),
    fitsWord128_of_natAbs_le hderivative (by omega),
    fitsWord128_of_natAbs_le hp (by omega),
    fitsWord128_of_natAbs_le hi (by omega),
    fitsWord128_of_natAbs_le hd (by omega),
    fitsWord128_of_natAbs_le hpi (by omega),
    fitsWord128_of_natAbs_le hdelta (by omega),
    fitsWord128_of_natAbs_le htarget (by omega), by simp⟩

/-! ## One step after the other -/

/-- A controller with gains and bounds of 64 bits that has made a number of steps on signals of at
most a size. -/
structure Controller.Modest (c : Controller) (size count : Nat) : Prop where
  gains : c.gains.FitInt64
  bounds : c.bounds.IsValid
  max : FitsInt64 c.bounds.max
  temperature : c.bounds.Admits c.temperature
  integral : c.integral.natAbs ≤ 3 * size * count
  lastError : c.lastError.natAbs ≤ 3 * size

/-- While there is room the next step is made. -/
theorem Controller.Modest.step {c : Controller} {size count : Nat} (h : c.Modest size count)
    {signals : Signals} (hsignals : signals.Within size)
    (hroom : 3 * size * (count + 4) < 2 ^ 64) :
    ∃ made, c.stepOn signals = .ok made ∧ (c.ticked made).Modest size (count + 1) := by
  have herror := hsignals.total
  have hintegral : (c.integral + signals.total).natAbs ≤ 3 * size * (count + 1) := by
    have hbefore := h.integral
    rw [Nat.mul_succ]
    omega
  have htemperature : c.temperature.natAbs < 2 ^ 63 := by
    have hlow := h.bounds.1
    have hhigh := h.max.2
    have hadmits := h.temperature
    simp only [Bounds.Admits] at hadmits
    simp only [maxInt64] at hhigh
    omega
  have hfit := quantities_fit h.gains htemperature hsignals hintegral h.lastError (by
    rw [Nat.mul_add] at hroom ⊢
    omega)
  -- Only the sum of errors has grown: the bounds hold the temperature, the signals the last error.
  have hnext := Bounds.admits_clamp h.bounds
  refine ⟨_, step_eq_ok.mpr ⟨hfit, Int.le_of_lt h.bounds.2, ?_, rfl⟩, ?_⟩
  · exact Int.lt_of_lt_of_le h.bounds.1 (hnext _).1
  · exact ⟨h.gains, h.bounds, h.max, hnext _, hintegral, herror⟩

/-! ## Steps of which none is refused -/

/-- The controller after control steps on signals, or why the first of them was refused. -/
def Controller.follow (c : Controller) : List Signals → Except ControlFailure Controller
  | [] => .ok c
  | signals :: rest =>
    match c.stepOn signals with
    | .error cause => .error cause
    | .ok made => (c.ticked made).follow rest

variable {c last : Controller}

theorem Controller.follow_cons_eq_ok {signals : Signals} {rest : List Signals} :
    c.follow (signals :: rest) = .ok last ↔
      ∃ made, c.stepOn signals = .ok made ∧ (c.ticked made).follow rest = .ok last := by
  rw [follow]
  cases c.stepOn signals with
  | error cause => simp
  | ok made => simp

/-- Control steps move the temperature and what the control law remembers, nothing else. -/
theorem Controller.keeps_of_follow {steps : List Signals} (h : c.follow steps = .ok last) :
    last.authority = c.authority ∧ last.bounds = c.bounds ∧ last.overrides = c.overrides := by
  induction steps generalizing c with
  | nil =>
      cases h
      exact ⟨rfl, rfl, rfl⟩
  | cons signals rest ih =>
      obtain ⟨made, -, hrest⟩ := follow_cons_eq_ok.mp h
      have hkeeps := ih hrest
      exact hkeeps

/-- While there is room for all of them, no step is refused. -/
theorem Controller.Modest.follow {size count : Nat} (h : c.Modest size count)
    {steps : List Signals} (hsteps : ∀ signals ∈ steps, signals.Within size)
    (hroom : 3 * size * (count + steps.length + 3) < 2 ^ 64) :
    ∃ last, c.follow steps = .ok last ∧ last.Modest size (count + steps.length) := by
  -- Each step that is made takes one from those that are left, so that the room stays the same.
  induction steps generalizing c count with
  | nil => exact ⟨c, rfl, h⟩
  | cons signals rest ih =>
      obtain ⟨hsignals, hrest⟩ := List.forall_mem_cons.mp hsteps
      rw [List.length_cons] at hroom
      have hnow : 3 * size * (count + 4) < 2 ^ 64 :=
        Nat.lt_of_le_of_lt (Nat.mul_le_mul_left _ (by omega)) hroom
      obtain ⟨made, hmade, hnext⟩ := h.step hsignals hnow
      have hlength : count + 1 + rest.length = count + (rest.length + 1) := by omega
      obtain ⟨last, hlast, hmodest⟩ := ih hnext hrest (by rwa [hlength])
      rw [hlength] at hmodest
      exact ⟨last, Controller.follow_cons_eq_ok.mpr ⟨made, hmade, hlast⟩, hmodest⟩

end Integrity.Temperature
