import Integrity.Proofs.Event.Order
import Integrity.Proofs.Temperature.Step

/-! # Replaying the events of the temperature controller

The events of an operation say enough to make its changes again. Replacing the bounds is the one
that takes thought: it tells of a role only when the temperature of the role moved. -/

namespace Integrity.Temperature

namespace Controller

/-- The controller after what an event tells of. -/
def retell (c : Controller) : Event → Controller
  | .authorityTransferred _ _ new => { c with authority := ⟨new⟩ }
  | .gainsUpdated kp ki kd => { c with gains := ⟨kp, ki, kd⟩ }
  | .boundsUpdated min max => { c with bounds := ⟨min, max⟩ }
  | .temperatureUpdated _ temperature => { c with temperature }
  | .temperatureTicked error integral _ _ temperature =>
    { c with integral, lastError := error, temperature }
  | .roleOverrideSet role temperature =>
    { c with overrides := c.overrides.insert role temperature }
  | .roleOverrideCleared role => { c with overrides := c.overrides.erase role }
  | _ => c

/-- The controller after what events tell of, one after the other. -/
def replay (c : Controller) (events : List Event) : Controller :=
  events.foldl retell c

theorem replay_append (c : Controller) (first second : List Event) :
    c.replay (first ++ second) = (c.replay first).replay second :=
  List.foldl_append

/-- What an event says that it replaces is what the controller has. -/
def Recalls (c : Controller) : Event → Prop
  | .authorityTransferred _ previous _ => previous = c.authority.holder
  | .temperatureUpdated previous _ => previous = c.temperature
  | _ => True

/-- Events that lead from one controller to another, each of which recalls what it replaces. -/
structure Retells (c : Controller) (events : List Event) (later : Controller) : Prop where
  replay : c.replay events = later
  recalls : Orderly (fun before event => (c.replay before).Recalls event) events
  subsystem : ∀ event ∈ events, event.subsystem = .temperature

theorem retells_nil (c : Controller) : c.Retells [] c :=
  ⟨rfl, orderly_nil _, by simp⟩

theorem retells_singleton {c : Controller} {event : Event} (hrecalls : c.Recalls event)
    (hsubsystem : event.subsystem = .temperature) : c.Retells [event] (c.retell event) :=
  ⟨rfl, orderly_cons.mpr ⟨hrecalls, orderly_nil _⟩, by simpa using hsubsystem⟩

theorem Retells.append {c middle later : Controller} {first second : List Event}
    (h : c.Retells first middle) (hsecond : middle.Retells second later) :
    c.Retells (first ++ second) later := by
  obtain ⟨rfl, hrecalls, hsubsystem⟩ := h
  constructor
  case replay => rw [replay_append, hsecond.replay]
  case recalls =>
    rw [orderly_append]
    refine ⟨hrecalls, ?_⟩
    simp only [replay_append]
    exact hsecond.recalls
  case subsystem =>
    intro event hevent
    rcases List.mem_append.mp hevent with hevent | hevent
    · exact hsubsystem event hevent
    · exact hsecond.subsystem event hevent

/-! ## The roles that new bounds move -/

/-- The temperatures of roles, inserted one by one, change nothing else. -/
theorem replay_roleOverrideSet (c : Controller) (pairs : List (Role × Int)) :
    c.replay (pairs.map fun (role, value) => .roleOverrideSet role value) =
      { c with
        overrides := pairs.foldl (fun table pair => table.insert pair.1 pair.2) c.overrides } := by
  induction pairs generalizing c with
  | nil => rfl
  | cons pair rest ih => exact ih _

theorem mem_moved {c : Controller} {bounds : Bounds} {role : Role} {value : Int} :
    (role, value) ∈ c.moved bounds ↔
      ∃ old, c.overrides.get? role = some old ∧ bounds.clamp old = value ∧ value ≠ old := by
  simp only [moved, List.mem_filterMap]
  constructor
  · rintro ⟨found, -, hfound⟩
    cases hold : c.overrides.get? found with
    | none => simp [hold] at hfound
    | some old =>
        simp only [hold] at hfound
        split at hfound
        · cases hfound
        · next hmoved =>
            cases hfound
            exact ⟨old, hold, rfl, hmoved⟩
  · rintro ⟨old, hold, rfl, hmoved⟩
    exact ⟨role, Role.mem_all role, by simp [hold, hmoved]⟩

/-- The roles that new bounds move are all that there is to tell of the roles. -/
theorem foldl_insert_moved (c : Controller) (bounds : Bounds) :
    (c.moved bounds).foldl (fun table pair => table.insert pair.1 pair.2) c.overrides =
      c.overrides.map bounds.clamp := by
  apply Table.foldl_insert_eq
  · exact (Table.keys_map _ _).symm
  · rintro ⟨role, value⟩ hmoved
    obtain ⟨old, hold, hvalue, -⟩ := mem_moved.mp hmoved
    rw [Table.get?_map, hold, Option.map_some, hvalue]
  · intro role
    rw [Table.get?_map]
    cases hold : c.overrides.get? role with
    | none => exact .inl rfl
    | some old =>
        by_cases hmoved : bounds.clamp old = old
        · exact .inl (congrArg some hmoved.symm)
        · have hmem := mem_moved.mpr ⟨old, hold, rfl, hmoved⟩
          exact .inr (List.mem_map_of_mem hmem)

theorem retells_moved (c : Controller) (bounds : Bounds) :
    c.Retells ((c.moved bounds).map fun (role, value) => .roleOverrideSet role value)
      { c with overrides := c.overrides.map bounds.clamp } := by
  refine ⟨?_, orderly_of_forall_mem ?_, ?_⟩
  · rw [replay_roleOverrideSet, foldl_insert_moved]
  · intro event hevent before
    obtain ⟨pair, -, rfl⟩ := List.mem_map.mp hevent
    exact trivial
  · intro event hevent
    obtain ⟨pair, -, rfl⟩ := List.mem_map.mp hevent
    rfl

theorem retells_bounded (c : Controller) (bounds : Bounds) :
    c.Retells
      (.boundsUpdated bounds.min bounds.max ::
        .temperatureUpdated c.temperature (bounds.clamp c.temperature) ::
          (c.moved bounds).map fun (role, value) => .roleOverrideSet role value)
      (c.bounded bounds) := by
  have hbounds : c.Retells [.boundsUpdated bounds.min bounds.max] { c with bounds } :=
    retells_singleton trivial rfl
  have htemperature :
      { c with bounds }.Retells
        [.temperatureUpdated c.temperature (bounds.clamp c.temperature)]
        { c with bounds, temperature := bounds.clamp c.temperature } :=
    retells_singleton rfl rfl
  have hmoved := retells_moved { c with bounds, temperature := bounds.clamp c.temperature } bounds
  exact hbounds.append (htemperature.append hmoved)

theorem retells_amended {command : Command} {change : Controller → Controller}
    {event : Controller → Event} (h : command.amendment = some (change, event)) (c : Controller) :
    c.Retells [event c] (change c) := by
  cases command with
  | transferAuthority new =>
      cases h
      exact retells_singleton rfl rfl
  | setGains gains =>
      cases h
      exact retells_singleton trivial rfl
  | clearOverride role =>
      cases h
      exact retells_singleton trivial rfl
  | _ => cases h

end Controller

/-- Every step adds events that lead from the controller before it to the controller after it. -/
theorem Step.retells {caller : Address} {command : Command} {answer : Except Error Answer}
    {before after : Site Controller Unit} (h : Step caller before command answer after) :
    ∃ new, after.events = before.events ++ new ∧ before.state.Retells new after.state := by
  cases h with
  | refused _ _ => exact ⟨[], (List.append_nil _).symm, Controller.retells_nil _⟩
  | amended hcommand _ => exact ⟨_, rfl, Controller.retells_amended hcommand _⟩
  | bounded _ _ _ => exact ⟨_, rfl, Controller.retells_bounded _ _⟩
  | set _ _ => exact ⟨_, rfl, Controller.retells_singleton rfl rfl⟩
  | overridden _ _ => exact ⟨_, rfl, Controller.retells_singleton trivial rfl⟩
  | ticked _ _ => exact ⟨_, rfl, Controller.retells_singleton trivial rfl⟩
  | rejected _ _ => exact ⟨[], (List.append_nil _).symm, Controller.retells_nil _⟩

end Integrity.Temperature
