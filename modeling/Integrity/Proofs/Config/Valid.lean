import Integrity.Config.Basic
import Integrity.Proofs.Temperature.ControlLaw

/-! # What a valid configuration says

The checks of a configuration come one after the other, and the first that fails decides. A
configuration is valid when none fails. -/

namespace Integrity.Config

/-! ## Checks one after the other -/

section Checks

variable {ε : Type} {rest : Except ε Unit}

theorem bind_eq_ok_iff {α β : Type} {first : Except ε α} {next : α → Except ε β} {b : β} :
    (first >>= next) = .ok b ↔ ∃ a, first = .ok a ∧ next a = .ok b := by
  cases first with
  | error cause =>
    constructor
    · exact nofun
    · rintro ⟨_, h, -⟩
      cases h
  | ok a =>
    constructor
    · exact fun h => ⟨a, rfl, h⟩
    · rintro ⟨_, heq, hnext⟩
      cases heq
      exact hnext

theorem bind_eq_ok {first : Except ε Unit} {next : Unit → Except ε Unit} :
    (first >>= next) = .ok () ↔ first = .ok () ∧ next () = .ok () :=
  bind_eq_ok_iff.trans ⟨fun ⟨_, h⟩ => h, fun h => ⟨(), h⟩⟩

theorem throw_bind (cause : ε) (next : Unit → Except ε Unit) :
    (throw cause >>= next) = throw cause :=
  rfl

theorem ite_throw_eq_ok {c : Prop} [Decidable c] {cause : ε} :
    (if c then throw cause else rest) = .ok () ↔ ¬c ∧ rest = .ok () := by
  by_cases hc : c <;> simp [hc, throw, throwThe, MonadExceptOf.throw]

theorem pure_eq_ok : (pure () : Except ε Unit) = .ok () :=
  rfl

end Checks

theorem ensureSet_eq_ok {party : Party} {address : Address} :
    ensureSet party address = .ok () ↔ address.isNull = false := by
  rw [ensureSet]
  cases address.isNull <;> simp

/-! ## The sections -/

theorem validate_eq_ok {config : Config} :
    config.validate = .ok () ↔
      config.temperature.validate = .ok () ∧ config.audit.validate = .ok () ∧
        config.disputes.validate = .ok () ∧ config.logging.validate = .ok () := by
  simp only [validate, bind_eq_ok]

/-- The bounds of the section are valid, and its first temperature lies between them. -/
def TemperatureSection.IsBounded (t : TemperatureSection) : Prop :=
  0 < t.minBound ∧ t.minBound < t.maxBound ∧ t.minBound ≤ t.initial ∧ t.initial ≤ t.maxBound

theorem TemperatureSection.isBounded_iff {t : TemperatureSection} :
    t.IsBounded ↔
      (Temperature.Bounds.mk t.minBound.toInt t.maxBound.toInt).IsValid ∧
        (Temperature.Bounds.mk t.minBound.toInt t.maxBound.toInt).Admits t.initial.toInt := by
  simp only [IsBounded, Temperature.Bounds.IsValid, Temperature.Bounds.Admits,
    Int64.lt_iff_toInt_lt, Int64.le_iff_toInt_le, Int64.toInt_zero, and_assoc]

/-- Somebody may change the temperature, its bounds are valid, and it starts within them. -/
theorem TemperatureSection.validate_eq_ok {t : TemperatureSection} :
    t.validate = .ok () ↔
      t.authority.isNull = false ∧
        (Temperature.Bounds.mk t.minBound.toInt t.maxBound.toInt).IsValid ∧
        (Temperature.Bounds.mk t.minBound.toInt t.maxBound.toInt).Admits t.initial.toInt := by
  have hbounds : ¬(t.minBound ≤ 0 ∨ t.maxBound ≤ t.minBound) ↔
      (Temperature.Bounds.mk t.minBound.toInt t.maxBound.toInt).IsValid := by
    simp only [Int64.le_iff_toInt_le, Int64.toInt_zero, Temperature.Bounds.IsValid]
    omega
  have hinitial : ¬(t.initial < t.minBound ∨ t.maxBound < t.initial) ↔
      (Temperature.Bounds.mk t.minBound.toInt t.maxBound.toInt).Admits t.initial.toInt := by
    simp only [Int64.lt_iff_toInt_lt, Temperature.Bounds.Admits]
    omega
  simp only [validate, bind_eq_ok, ensureSet_eq_ok, throw_bind, ite_throw_eq_ok,
    pure_eq_ok, hbounds, hinitial, and_true]

/-- Somebody may administer audits and somebody reports finished jobs, the probability is one, and
blocks follow each other. -/
theorem AuditSection.validate_eq_ok {a : AuditSection} :
    a.validate = .ok () ↔
      a.authority.isNull = false ∧ a.notifier.isNull = false ∧
        a.probability.toNat ≤ Audit.certainty ∧ a.blockInterval ≠ 0 := by
  simp only [validate, bind_eq_ok, ensureSet_eq_ok, throw_bind, ite_throw_eq_ok,
    pure_eq_ok, Nat.not_lt, ne_eq, and_true]

/-- Somebody may administer disputes, somebody settles them, and there is an account for bonds. -/
theorem DisputeSection.validate_eq_ok {d : DisputeSection} :
    d.validate = .ok () ↔
      d.authority.isNull = false ∧ d.judge.isNull = false ∧ d.escrowAccount.isNull = false := by
  simp only [validate, bind_eq_ok, ensureSet_eq_ok]

end Integrity.Config
