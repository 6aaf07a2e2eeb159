import Integrity.Proofs.Audit.Control

/-! # Who is on the list of auditors

The holder of the authority admits auditors and dismisses them; nothing else moves the list. An
address is on it as was decided about it last. -/

namespace Integrity.Audit

/-! ## Rosters -/

namespace Roster

theorem mem_insert {roster : Roster} {address other : Address} :
    other ∈ roster.insert address ↔ other = address ∨ other ∈ roster := by
  induction roster with
  | nil => simp [insert]
  | cons first rest ih =>
      rw [insert]
      split
      · next heq => simp [heq]
      · split
        · exact List.mem_cons
        · simp only [List.mem_cons, ih]
          tauto

theorem mem_remove {roster : Roster} {address other : Address} :
    other ∈ roster.remove address ↔ other ∈ roster ∧ other ≠ address := by
  simp [remove]

theorem mem_foldl_insert {addresses : List Address} {roster : Roster} {other : Address} :
    other ∈ addresses.foldl insert roster ↔ other ∈ roster ∨ other ∈ addresses := by
  induction addresses generalizing roster with
  | nil => simp
  | cons address rest ih =>
      rw [List.foldl_cons, ih, mem_insert, List.mem_cons]
      tauto

theorem mem_ofList {addresses : List Address} {other : Address} :
    other ∈ ofList addresses ↔ other ∈ addresses := by
  simp [ofList, mem_foldl_insert]

/-- In ascending order, and so without repetitions. -/
def IsAscending (roster : Roster) : Prop :=
  List.Pairwise (fun first second : Address => first.toNat < second.toNat) roster

theorem isAscending_insert {roster : Roster} (h : roster.IsAscending) (address : Address) :
    (roster.insert address).IsAscending := by
  induction roster with
  | nil => exact List.pairwise_singleton _ _
  | cons first rest ih =>
      obtain ⟨hfirst, hrest⟩ := List.pairwise_cons.mp h
      rw [insert]
      split
      · exact h
      · next hdifferent =>
        split
        · next hless =>
          refine List.pairwise_cons.mpr ⟨fun other hother => ?_, h⟩
          rcases List.mem_cons.mp hother with rfl | hother
          · exact hless
          · exact Nat.lt_trans hless (hfirst other hother)
        · next hgreater =>
          have hbelow : first.toNat < address.toNat := by
            have hne : address.toNat ≠ first.toNat := fun heq =>
              hdifferent (Address.eq_of_toNat_eq heq)
            omega
          refine List.pairwise_cons.mpr ⟨fun other hother => ?_, ih hrest⟩
          rcases mem_insert.mp hother with rfl | hother
          · exact hbelow
          · exact hfirst other hother

theorem isAscending_ofList (addresses : List Address) : (ofList addresses).IsAscending := by
  have hall (roster : Roster) (h : roster.IsAscending) :
      IsAscending (addresses.foldl insert roster) := by
    induction addresses generalizing roster with
    | nil => exact h
    | cons address rest ih => exact ih _ (isAscending_insert h address)
  exact hall [] List.Pairwise.nil

end Roster

/-! ## Decisions -/

/-- What an operation that was answered decided about an auditor. -/
def decides? (auditor : Address) : Command → Except Error Answer → Option Bool
  | .setAuditor other allowed, .ok _ => if other = auditor then some allowed else none
  | _, _ => none

@[simp]
theorem decides?_error (auditor : Address) (command : Command) (cause : Error) :
    decides? auditor command (.error cause) = none := by
  cases command <;> rfl

theorem isAuditor_setAuditor (s : Scheduler) (other : Address) (allowed : Bool)
    (auditor : Address) :
    Scheduler.isAuditor
        { s with
          auditors := if allowed then s.auditors.insert other else s.auditors.remove other }
        auditor =
      if other = auditor then allowed else s.isAuditor auditor := by
  rw [Bool.eq_iff_iff]
  simp only [Scheduler.isAuditor, List.contains_iff_mem]
  cases allowed with
  | true =>
      rw [if_pos rfl, Roster.mem_insert]
      split <;> simp_all [eq_comm]
  | false =>
      rw [if_neg Bool.false_ne_true, Roster.mem_remove]
      split <;> simp_all [eq_comm]

/-- A step leaves an address on the list as it decides, or else as it was. -/
theorem Step.isAuditor {β : Type} {env : Environment β} {caller : Address} {command : Command}
    {answer : Except Error Answer} {before after : Site Scheduler β}
    (h : Step env caller before command answer after) (auditor : Address) :
    after.state.isAuditor auditor =
      (decides? auditor command answer).getD (before.state.isAuditor auditor) := by
  cases h with
  | refused _ cause => simp
  | amended hcommand _ _ =>
      cases command with
      | setAuditor other allowed =>
          cases hcommand
          rw [isAuditor_setAuditor, decides?]
          split <;> rfl
      | finalize | record => cases hcommand
      | _ =>
          cases hcommand
          rfl
  | ignored _ _ _ => rfl
  | passed _ _ _ _ _ => rfl
  | scheduled _ _ _ _ _ _ => rfl
  | recorded _ _ => rfl

theorem isAuditor_of_make {authority : Address} {settings : Settings} {sinkConnected : Bool}
    {s : Scheduler} (h : Scheduler.make authority settings sinkConnected = .ok s)
    (auditor : Address) : s.isAuditor auditor = settings.auditors.contains auditor := by
  have hauditors : s.auditors = Roster.ofList settings.auditors := by
    simp only [Scheduler.make] at h
    cases hprobability : Scheduler.ensureProbability settings.probability with
    | error cause =>
        rw [hprobability] at h
        cases h
    | ok passed =>
        rw [hprobability] at h
        cases h
        rfl
  rw [Bool.eq_iff_iff, Scheduler.isAuditor, hauditors]
  simp only [List.contains_iff_mem, Roster.mem_ofList]

end Integrity.Audit
