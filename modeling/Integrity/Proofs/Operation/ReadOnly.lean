import Integrity.Operation

/-! # Operations that only look

The checks at the front of an operation leave the site as it is. The lemmas follow the steps of such
an operation, so that the proof for it has the shape of its definition. -/

namespace Integrity.Operation

variable {σ γ ε α β : Type}

/-- It changes nothing, however it ends. -/
def ReadOnly (op : Operation σ γ ε α) : Prop :=
  ∀ site, (op.run site).2 = site

theorem ReadOnly.pure (a : α) : ReadOnly (pure a : Operation σ γ ε α) :=
  fun _ => rfl

theorem ReadOnly.throw (e : ε) : ReadOnly (throw e : Operation σ γ ε α) :=
  fun _ => rfl

theorem ReadOnly.state : ReadOnly (state : Operation σ γ ε σ) :=
  fun _ => rfl

theorem ReadOnly.check (answer : Except ε α) :
    ReadOnly (check answer : Operation σ γ ε α) :=
  fun _ => rfl

theorem ReadOnly.failIf (c : Prop) [Decidable c] (e : ε) :
    ReadOnly (failIf c e : Operation σ γ ε Unit) :=
  fun _ => rfl

/-- What follows an operation that only looks finds the site as it was. -/
theorem ReadOnly.run_bind {op : Operation σ γ ε α} (h : ReadOnly op)
    (next : α → Operation σ γ ε β) (site : Site σ γ) :
    (op >>= next).run site =
      match (op.run site).1 with
      | .ok a => (next a).run site
      | .error e => (.error e, site) := by
  have hsite := h site
  rw [Operation.run_bind]
  cases hrun : op.run site with
  | mk answer after =>
      rw [hrun] at hsite
      subst hsite
      cases answer <;> rfl

theorem ReadOnly.bind {op : Operation σ γ ε α} {next : α → Operation σ γ ε β}
    (hop : ReadOnly op) (hnext : ∀ a, ReadOnly (next a)) : ReadOnly (op >>= next) := by
  intro site
  rw [hop.run_bind]
  cases (op.run site).1 with
  | error e => rfl
  | ok a => exact hnext a site

theorem ReadOnly.ite (c : Prop) [Decidable c] {first second : Operation σ γ ε α}
    (hfirst : ReadOnly first) (hsecond : ReadOnly second) :
    ReadOnly (if c then first else second) := by
  split
  · exact hfirst
  · exact hsecond

end Integrity.Operation
