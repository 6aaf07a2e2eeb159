import Integrity.Proofs.Dispute.Step
import Integrity.Proofs.Operation.Charter

/-! # Control of the dispute resolver

Disputes are raised by anybody and settled by the judge. All other operations are for the holder of
the authority, who decides about everything but the disputes and their counts. -/

namespace Integrity.Dispute

open Operation

variable {γ : Type}

/-- The resolver without its disputes and their counts. -/
def Resolver.setup (r : Resolver) : Resolver :=
  { r with disputes := Table.empty, raised := 0, wonByEmployer := 0, wonByAppellant := 0 }

/-- Whether an operation is for the holder of the authority only. -/
def Command.isAdministrative : Command → Bool
  | .raise _ _ | .abandonRaise _ _ | .resolve _ _ | .abandonResolve _ _ => false
  | _ => true

/-- The address to which an operation gives the authority. -/
def Command.heir? : Command → Option Address
  | .transferAuthority new => some new
  | _ => none

/-- The charter of the resolver. -/
def charter : Charter Resolver Resolver (Address × Command) Error where
  setup := Resolver.setup
  authority? setup := some setup.authority
  petitioner? request := if request.2.isAdministrative then some request.1 else none
  heir? request := request.2.heir?
  unauthorized := .unauthorized

theorem Resolver.ensureAuthority_of_not_held {r : Resolver} {caller : Address}
    (h : r.authority.isHeldBy caller = false) :
    r.ensureAuthority caller = .error (.unauthorized caller) := by
  simp [ensureAuthority, h]

theorem Resolver.ensureAuthority_of_held {r : Resolver} {caller : Address}
    (h : r.authority.isHeldBy caller = true) : r.ensureAuthority caller = .ok () := by
  simp [ensureAuthority, h]

theorem isAdministrative_of_amendment {command : Command}
    {amendment : (Resolver → Resolver) × (Resolver → Event)}
    (h : command.amendment = some amendment) : command.isAdministrative = true := by
  cases command <;> first | rfl | cases h

/-- An administrative operation moves the authority only to the heir that it names. -/
theorem authority_of_amendment {command : Command} {change : Resolver → Resolver}
    {event : Resolver → Event} (h : command.amendment = some (change, event)) (r : Resolver) :
    some (change r).authority = (command.heir?.map Authority.mk).or (some r.authority) := by
  cases command <;> cases h <;> rfl

theorem charter_governs_of_amendment {env : Environment γ} {caller : Address} {command : Command}
    {change : Resolver → Resolver} {event : Resolver → Event}
    (hcommand : command.amendment = some (change, event)) :
    charter.Governs (caller, command) (Resolver.perform env caller command) := by
  rw [perform_of_amendment hcommand]
  apply Charter.Governs.answer
  apply Charter.governs_amend caller
  · simp only [charter, isAdministrative_of_amendment hcommand, if_true]
  · rintro r _ ⟨⟩ hheld
    exact Resolver.ensureAuthority_of_not_held hheld
  · rintro r _ ⟨⟩ hheld
    have hpassed : r.ensureAuthority caller = .ok () := Resolver.ensureAuthority_of_held hheld
    rw [hpassed]
    simp
  · intro r
    exact authority_of_amendment hcommand r

@[simp]
theorem Resolver.setup_closed (r : Resolver) (job : JobId) (employerWins : Bool) :
    (r.closed job employerWins).setup = r.setup := by
  cases employerWins <;> rfl

/-- A step that is not administrative leaves the setup alone. -/
theorem Step.setup_eq {env : Environment γ} {caller : Address} {command : Command}
    {answer : Except Error Answer} {before after : Site Resolver γ}
    (h : Step env caller before command answer after)
    (hcommand : command.isAdministrative = false) : after.state.setup = before.state.setup := by
  cases h with
  | amended hamendment _ =>
      rw [isAdministrative_of_amendment hamendment] at hcommand
      cases hcommand
  | resolved _ _ _ _ => exact Resolver.setup_closed _ _ _
  | _ => rfl

theorem charter_governs (env : Environment γ) (request : Address × Command) :
    charter.Governs request (Resolver.perform env request.1 request.2) := by
  obtain ⟨caller, command⟩ := request
  cases hamendment : command.amendment with
  | some amendment => exact charter_governs_of_amendment hamendment
  | none =>
      have hcommand : command.isAdministrative = false ∧ command.heir? = none := by
        cases command <;> first | exact ⟨rfl, rfl⟩ | cases hamendment
      apply Charter.governs_of_confined
      · simp [charter, hcommand.1]
      · exact hcommand.2
      · intro site
        exact (perform_step env caller command site).setup_eq hcommand.1

/-- Who asks for what, when a call is made. -/
def Call.request (call : Call γ) : Address × Command :=
  (call.caller, call.command)

end Integrity.Dispute
