import Integrity.Reading

/-!
# Operations

An operation works on a subsystem step by step, and a step may fail. Nothing is taken back then:
what was changed before the failure stays changed. An operation that is to change nothing when it
fails makes all its checks first.
-/

namespace Integrity

/-- What an operation works on. -/
structure Site (σ γ : Type) where
  state : σ
  /-- The state of the outside system that the operation may move. -/
  outside : γ
  events : List Event
  /-- What the instruments are to show so far, in order. -/
  readings : List Reading
deriving DecidableEq

/-- A site where nothing has happened. -/
def Site.start {σ γ : Type} (state : σ) (outside : γ) : Site σ γ :=
  ⟨state, outside, [], []⟩

/-- Steps that work on a site and end with an answer or a failure. -/
abbrev Operation (σ γ ε : Type) : Type → Type :=
  ExceptT ε (StateM (Site σ γ))

namespace Operation

variable {σ γ ε α β : Type}

/-- Carries an operation out: how it ends, and the site that it leaves. -/
def run (op : Operation σ γ ε α) (site : Site σ γ) : Except ε α × Site σ γ :=
  StateT.run (ExceptT.run op) site

/-- The state as it stands. -/
def state : Operation σ γ ε σ := do
  return (← get).state

/-- Goes on with what a check passes, or fails as it fails. -/
def check (answer : Except ε α) : Operation σ γ ε α :=
  ExceptT.mk (pure answer)

/-- Fails if something is the case. -/
def failIf (c : Prop) [Decidable c] (e : ε) : Operation σ γ ε Unit :=
  check (if c then .error e else .ok ())

/-- Changes the state. -/
def update (change : σ → σ) : Operation σ γ ε Unit :=
  modify fun site => { site with state := change site.state }

/-- Moves the outside system, or fails as it fails. -/
def call (move : γ → Except ε γ) : Operation σ γ ε Unit :=
  ExceptT.mk fun site =>
    match move site.outside with
    | .ok outside => (.ok (), { site with outside })
    | .error e => (.error e, site)

/-- Tells what happened. -/
def emit (events : List Event) : Operation σ γ ε Unit :=
  modify fun site => { site with events := site.events ++ events }

/-- Tells what the instruments are to show. -/
def observe (readings : List Reading) : Operation σ γ ε Unit :=
  modify fun site => { site with readings := site.readings ++ readings }

/-- An administrative change: when the state allows it, the state changes and one event tells of
it. -/
def amend (allowed : σ → Except ε Unit) (change : σ → σ) (event : σ → Event) :
    Operation σ γ ε Unit := do
  let before ← state
  check (allowed before)
  update change
  emit [event before]

@[simp]
theorem map_ok (f : α → β) (a : α) : (Except.ok a : Except ε α).map f = .ok (f a) :=
  rfl

@[simp]
theorem map_error (f : α → β) (e : ε) : (Except.error e : Except ε α).map f = .error e :=
  rfl

@[simp]
theorem mapError_ok {ε' : Type} (f : ε → ε') (a : α) :
    (Except.ok a : Except ε α).mapError f = .ok a :=
  rfl

@[simp]
theorem mapError_error {ε' : Type} (f : ε → ε') (e : ε) :
    (Except.error e : Except ε α).mapError f = .error (f e) :=
  rfl

theorem map_eq_error {f : α → β} {answer : Except ε α} {e : ε} :
    answer.map f = .error e ↔ answer = .error e := by
  cases answer <;> simp

theorem mapError_eq_error {ε' : Type} {f : ε → ε'} (hf : Function.Injective f)
    {answer : Except ε α} {e : ε} : answer.mapError f = .error (f e) ↔ answer = .error e := by
  cases answer with
  | ok a => simp
  | error cause =>
      rw [mapError_error, Except.error.injEq, Except.error.injEq]
      exact ⟨fun h => hf h, congrArg f⟩

@[simp]
theorem run_pure (a : α) (site : Site σ γ) :
    run (pure a : Operation σ γ ε α) site = (.ok a, site) :=
  rfl

@[simp]
theorem run_throw (e : ε) (site : Site σ γ) :
    run (throw e : Operation σ γ ε α) site = (.error e, site) :=
  rfl

@[simp]
theorem run_bind (op : Operation σ γ ε α) (next : α → Operation σ γ ε β) (site : Site σ γ) :
    run (op >>= next) site =
      match run op site with
      | (.ok a, after) => run (next a) after
      | (.error e, after) => (.error e, after) := by
  simp only [run, ExceptT.run, StateT.run, bind, ExceptT.bind, ExceptT.mk, StateT.bind,
    ExceptT.bindCont]
  cases op site with
  | mk answer after => cases answer <;> rfl

@[simp]
theorem run_map (f : α → β) (op : Operation σ γ ε α) (site : Site σ γ) :
    run (f <$> op) site =
      match run op site with
      | (.ok a, after) => (.ok (f a), after)
      | (.error e, after) => (.error e, after) := by
  simp only [run, ExceptT.run, StateT.run, Functor.map, ExceptT.map, ExceptT.mk, bind,
    StateT.bind]
  cases op site with
  | mk answer after => cases answer <;> rfl

@[simp]
theorem run_state (site : Site σ γ) :
    run (state : Operation σ γ ε σ) site = (.ok site.state, site) :=
  rfl

@[simp]
theorem run_check (answer : Except ε α) (site : Site σ γ) :
    run (check answer : Operation σ γ ε α) site = (answer, site) :=
  rfl

@[simp]
theorem run_failIf (c : Prop) [Decidable c] (e : ε) (site : Site σ γ) :
    run (failIf c e : Operation σ γ ε Unit) site =
      if c then (.error e, site) else (.ok (), site) := by
  simp only [failIf, run_check]
  split <;> rfl

@[simp]
theorem run_update (change : σ → σ) (site : Site σ γ) :
    run (update change : Operation σ γ ε Unit) site =
      (.ok (), { site with state := change site.state }) :=
  rfl

@[simp]
theorem run_call (move : γ → Except ε γ) (site : Site σ γ) :
    run (call move : Operation σ γ ε Unit) site =
      match move site.outside with
      | .ok outside => (.ok (), { site with outside })
      | .error e => (.error e, site) :=
  rfl

@[simp]
theorem run_emit (events : List Event) (site : Site σ γ) :
    run (emit events : Operation σ γ ε Unit) site =
      (.ok (), { site with events := site.events ++ events }) :=
  rfl

@[simp]
theorem run_observe (readings : List Reading) (site : Site σ γ) :
    run (observe readings : Operation σ γ ε Unit) site =
      (.ok (), { site with readings := site.readings ++ readings }) :=
  rfl

@[simp]
theorem run_ite (c : Prop) [Decidable c] (first second : Operation σ γ ε α) (site : Site σ γ) :
    run (if c then first else second) site = if c then run first site else run second site := by
  split <;> rfl

theorem run_amend (allowed : σ → Except ε Unit) (change : σ → σ) (event : σ → Event)
    (site : Site σ γ) :
    run (amend allowed change event) site =
      match allowed site.state with
      | .ok () =>
        (.ok (),
          { site with
            state := change site.state, events := site.events ++ [event site.state] })
      | .error e => (.error e, site) := by
  cases h : allowed site.state <;> simp [amend, h]

theorem run_amend_eq_error {allowed : σ → Except ε Unit} {change : σ → σ} {event : σ → Event}
    {site : Site σ γ} {e : ε} :
    (run (amend allowed change event) site).1 = .error e ↔ allowed site.state = .error e := by
  rw [run_amend]
  cases allowed site.state <;> simp

end Operation

end Integrity
