import Integrity.Proofs.Audit.Counts
import Integrity.Proofs.Operation.Charter

/-! # Control of the audit scheduler

Reports of jobs and outcomes of audits are for the notifier and the auditors. All other operations
are for the holder of the authority, who decides about everything but the audits and their
counts. -/

namespace Integrity.Audit

open Operation

variable {β : Type}

/-- The scheduler without its audits and their counts. -/
def Scheduler.setup (s : Scheduler) : Scheduler :=
  { s with records := Table.empty, stats := Stats.zero }

/-- Whether an operation is for the holder of the authority only. -/
def Command.isAdministrative : Command → Bool
  | .finalize _ _ _ _ | .record _ _ _ => false
  | _ => true

/-- The address to which an operation gives the authority. -/
def Command.heir? : Command → Option Address
  | .transferAuthority new => some new
  | _ => none

/-- The charter of the scheduler. -/
def charter : Charter Scheduler Scheduler (Address × Command) Error where
  setup := Scheduler.setup
  authority? setup := some setup.authority
  petitioner? request := if request.2.isAdministrative then some request.1 else none
  heir? request := request.2.heir?
  unauthorized := .unauthorized

theorem Scheduler.ensureAuthority_of_not_held {s : Scheduler} {caller : Address}
    (h : s.authority.isHeldBy caller = false) :
    s.ensureAuthority caller = .error (.unauthorized caller) := by
  simp [ensureAuthority, h]

theorem Scheduler.ensureAuthority_of_held {s : Scheduler} {caller : Address}
    (h : s.authority.isHeldBy caller = true) : s.ensureAuthority caller = .ok () := by
  simp [ensureAuthority, h]

theorem isAdministrative_of_amendment {command : Command}
    {amendment : (Scheduler → Scheduler) × (Scheduler → Event)}
    (h : command.amendment = some amendment) : command.isAdministrative = true := by
  cases command <;> first | rfl | cases h

/-- An administrative operation moves the authority only to the heir that it names. -/
theorem authority_of_amendment {command : Command} {change : Scheduler → Scheduler}
    {event : Scheduler → Event} (h : command.amendment = some (change, event)) (s : Scheduler) :
    some (change s).authority = (command.heir?.map Authority.mk).or (some s.authority) := by
  cases command <;> cases h <;> rfl

theorem charter_governs_amend {caller : Address} {command : Command}
    {allowed : Scheduler → Except Error Unit} {change : Scheduler → Scheduler}
    {event : Scheduler → Event} (hcommand : command.amendment = some (change, event))
    (hrefused : ∀ s, s.ensureAuthority caller = .error (.unauthorized caller) →
      allowed s = .error (.unauthorized caller))
    (hadmitted : ∀ s, s.ensureAuthority caller = .ok () →
      allowed s ≠ .error (.unauthorized caller)) :
    charter.Governs (caller, command)
      (settle (amend allowed change event : Operation Scheduler β Error Unit)) := by
  apply Charter.Governs.answer
  apply Charter.governs_amend caller
  · simp only [charter, isAdministrative_of_amendment hcommand, if_true]
  · rintro s _ ⟨⟩ hheld
    exact hrefused s (Scheduler.ensureAuthority_of_not_held hheld)
  · rintro s _ ⟨⟩ hheld
    exact hadmitted s (Scheduler.ensureAuthority_of_held hheld)
  · intro s
    exact authority_of_amendment hcommand s

theorem charter_governs_administer {caller : Address} {command : Command}
    {change : Scheduler → Scheduler} {event : Scheduler → Event}
    (hcommand : command.amendment = some (change, event)) :
    charter.Governs (caller, command)
      (settle (Scheduler.administer caller change event : Operation Scheduler β Error Unit)) := by
  apply charter_governs_amend hcommand
  · exact fun _ hrefused => hrefused
  · intro s hpassed
    rw [hpassed]
    simp

theorem charter_governs_setProbability (caller : Address) (probability : UInt16) :
    charter.Governs (caller, .setProbability probability)
      (settle (Scheduler.setProbability caller probability :
        Operation Scheduler β Error Unit)) := by
  apply charter_governs_amend rfl
  · intro s hrefused
    rw [hrefused]
    rfl
  · intro s hpassed
    rw [hpassed]
    change Scheduler.ensureProbability probability ≠ _
    rw [Scheduler.ensureProbability]
    split <;> simp

/-- A step that is not administrative leaves the setup alone. -/
theorem Step.setup_eq {env : Environment β} {caller : Address} {command : Command}
    {answer : Except Error Answer} {before after : Site Scheduler β}
    (h : Step env caller before command answer after)
    (hcommand : command.isAdministrative = false) : after.state.setup = before.state.setup := by
  cases h with
  | amended hamendment _ _ =>
      rw [isAdministrative_of_amendment hamendment] at hcommand
      cases hcommand
  | _ => rfl

theorem charter_governs (env : Environment β) (request : Address × Command) :
    charter.Governs request (Scheduler.perform env request.1 request.2) := by
  obtain ⟨caller, command⟩ := request
  have hopen (hcommand : command.isAdministrative = false) (hheir : command.heir? = none) :
      charter.Governs (caller, command) (Scheduler.perform env caller command) := by
    apply Charter.governs_of_confined
    · simp [charter, hcommand]
    · exact hheir
    · intro site
      exact (perform_step env caller command site).setup_eq hcommand
  cases command with
  | finalize job agent success result => exact hopen rfl rfl
  | record job passed details => exact hopen rfl rfl
  | setProbability probability => exact charter_governs_setProbability caller probability
  | transferAuthority new => exact charter_governs_administer rfl
  | setNotifier notifier => exact charter_governs_administer rfl
  | setSink connected => exact charter_governs_administer rfl
  | setPenalty penalty => exact charter_governs_administer rfl
  | setAuditor auditor allowed => exact charter_governs_administer rfl
  | setPolicy policy => exact charter_governs_administer rfl
  | pause => exact charter_governs_administer rfl
  | unpause => exact charter_governs_administer rfl

/-- Who asks for what, when a call is made. -/
def Call.request (call : Call β) : Address × Command :=
  (call.caller, call.command)

end Integrity.Audit
