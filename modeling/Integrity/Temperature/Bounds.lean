/-!
# Temperature bounds

Temperatures are positive and lie between two bounds.
-/

namespace Integrity.Temperature

/-- The quantities of the control law whose range is checked, in the order of the computation. -/
inductive Stage where
  | error
  | integral
  | derivative
  | proportionalTerm
  | integralTerm
  | derivativeTerm
  | delta
  | temperature
deriving DecidableEq, Repr

/-- The name of a quantity of the control law. -/
def Stage.name : Stage → String
  | error => "error"
  | integral => "integral"
  | derivative => "derivative"
  | proportionalTerm => "proportional term"
  | integralTerm => "integral term"
  | derivativeTerm => "derivative term"
  | delta => "delta"
  | temperature => "temperature"

/-- Why a pair of numbers does not bound temperatures. -/
structure NonPositiveBounds where
  min : Int
  max : Int
deriving DecidableEq, Repr

/-- Why a temperature is not admitted. -/
structure OutOfBounds where
  value : Int
  min : Int
  max : Int
deriving DecidableEq, Repr

/-- Two numbers that are meant to bound temperatures. -/
structure Bounds where
  min : Int
  max : Int
deriving DecidableEq, Repr

namespace Bounds

/-- Bounds that admit temperatures: both positive, and more than one value between them. -/
def IsValid (bounds : Bounds) : Prop :=
  0 < bounds.min ∧ bounds.min < bounds.max

instance (bounds : Bounds) : Decidable bounds.IsValid :=
  inferInstanceAs (Decidable (_ ∧ _))

/-- The bounds `min` and `max`, when they are valid. -/
def make (min max : Int) : Except NonPositiveBounds Bounds :=
  if (Bounds.mk min max).IsValid then .ok ⟨min, max⟩ else .error ⟨min, max⟩

/-- The nearest point to `value` within the bounds. -/
def clamp (bounds : Bounds) (value : Int) : Int :=
  if value < bounds.min then bounds.min else if bounds.max < value then bounds.max else value

/-- Whether `value` may be set as a temperature. -/
def check (bounds : Bounds) (value : Int) : Except OutOfBounds Unit :=
  if value ≤ 0 ∨ value < bounds.min ∨ bounds.max < value then
    .error ⟨value, bounds.min, bounds.max⟩
  else .ok ()

theorem clamp_mem {bounds : Bounds} (h : bounds.min ≤ bounds.max) (value : Int) :
    bounds.min ≤ bounds.clamp value ∧ bounds.clamp value ≤ bounds.max := by
  unfold clamp
  split
  · omega
  · split <;> omega

end Bounds

end Integrity.Temperature
