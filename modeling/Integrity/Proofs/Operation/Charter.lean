import Integrity.Authority
import Integrity.Proofs.Operation.Run
import Mathlib.Data.List.Induction

/-! # Operations that answer to an authority

A charter says which operations of a subsystem are administrative and what its authority decides
about: the setup of the subsystem, the authority itself included. The rest of the state is there for
everybody's operations. What each operation does to the setup decides what runs do to it. -/

namespace Integrity

/-- How the operations on a state answer to an authority. -/
structure Charter (σ τ κ ε : Type) where
  setup : σ → τ
  /-- The authority that a setup names; there is none where there is no subsystem. -/
  authority? : τ → Option Authority
  /-- Who asks for an administrative operation; nobody where the operation is for everybody. -/
  petitioner? : κ → Option Address
  heir? : κ → Option Address
  unauthorized : Address → ε

namespace Charter

open Operation

variable {σ γ ε α β τ κ : Type}

/-- The authority over a subsystem at a site. -/
def authorityAt (charter : Charter σ τ κ ε) (site : Site σ γ) : Option Authority :=
  charter.authority? (charter.setup site.state)

/-- The address to which an operation that was answered gave the authority. -/
def heirAfter? (charter : Charter σ τ κ ε) (command : κ) : Except ε α → Option Address
  | .ok _ => charter.heir? command
  | .error _ => none

/-! ## One operation -/

/-- A charter governs an operation. Where it is administrative, it is refused to everybody but the
holder of the authority and nothing comes of it, and the holder is never refused for want of
authority; where it is not, it leaves the setup alone. When it succeeds, the authority goes to the
heir that it names, if it names one. -/
structure Governs (charter : Charter σ τ κ ε) (command : κ) (op : Operation σ γ ε α) : Prop where
  refused : ∀ {caller}, charter.petitioner? command = some caller →
    ∀ {site : Site σ γ} {authority}, charter.authorityAt site = some authority →
      authority.isHeldBy caller = false → op.run site = (.error (charter.unauthorized caller), site)
  admitted : ∀ {caller}, charter.petitioner? command = some caller →
    ∀ {site : Site σ γ} {authority}, charter.authorityAt site = some authority →
      authority.isHeldBy caller = true → (op.run site).1 ≠ .error (charter.unauthorized caller)
  confined : charter.petitioner? command = none →
    ∀ site : Site σ γ, charter.setup (op.run site).2.state = charter.setup site.state
  succession : ∀ site : Site σ γ, charter.authorityAt (op.run site).2 =
    ((charter.heirAfter? command (op.run site).1).map Authority.mk).or (charter.authorityAt site)

variable {charter : Charter σ τ κ ε}

/-- An operation that leaves the setup alone is for everybody. -/
theorem governs_of_confined {command : κ} {op : Operation σ γ ε α}
    (hcommand : charter.petitioner? command = none) (hheir : charter.heir? command = none)
    (h : ∀ site : Site σ γ, charter.setup (op.run site).2.state = charter.setup site.state) :
    charter.Governs command op := by
  constructor
  case refused =>
    intro caller hcaller
    rw [hcommand] at hcaller
    cases hcaller
  case admitted =>
    intro caller hcaller
    rw [hcommand] at hcaller
    cases hcaller
  case confined => exact fun _ => h
  case succession =>
    intro site
    have hauthority : charter.authorityAt (op.run site).2 = charter.authorityAt site :=
      congrArg charter.authority? (h site)
    rw [hauthority]
    cases (op.run site).1 with
    | ok a => simp [heirAfter?, hheir]
    | error cause => rfl

/-- An administrative change is governed by what it asks for first. -/
theorem governs_amend {command : κ} (caller : Address) {allowed : σ → Except ε Unit}
    {change : σ → σ} {event : σ → Event} (hcaller : charter.petitioner? command = some caller)
    (hrefused : ∀ s authority, charter.authority? (charter.setup s) = some authority →
      authority.isHeldBy caller = false → allowed s = .error (charter.unauthorized caller))
    (hadmitted : ∀ s authority, charter.authority? (charter.setup s) = some authority →
      authority.isHeldBy caller = true → allowed s ≠ .error (charter.unauthorized caller))
    (hheir : ∀ s, charter.authority? (charter.setup (change s)) =
      ((charter.heir? command).map Authority.mk).or (charter.authority? (charter.setup s))) :
    charter.Governs command (amend allowed change event : Operation σ γ ε Unit) := by
  constructor
  case refused =>
    intro other hother site authority hauthority hheld
    obtain rfl := Option.some.inj (hcaller.symm.trans hother)
    rw [run_amend, hrefused site.state authority hauthority hheld]
  case admitted =>
    intro other hother site authority hauthority hheld
    obtain rfl := Option.some.inj (hcaller.symm.trans hother)
    rw [Ne, run_amend_eq_error]
    exact hadmitted site.state authority hauthority hheld
  case confined =>
    intro hcommand
    rw [hcaller] at hcommand
    cases hcommand
  case succession =>
    intro site
    rw [run_amend]
    cases allowed site.state with
    | ok passed => exact hheir site.state
    | error cause => rfl

/-- What an operation answers with does not matter. -/
theorem Governs.answer {command : κ} {op : Operation σ γ ε α} (h : charter.Governs command op)
    (f : α → β) : charter.Governs command (op >>= fun a => pure (f a)) := by
  have hrun : ∀ site, (op >>= fun a => pure (f a)).run site =
      (((op.run site).1.map f), (op.run site).2) := by
    intro site
    rw [run_bind]
    cases op.run site with
    | mk answer after => cases answer <;> rfl
  constructor
  case refused =>
    intro caller hcaller site authority hauthority hheld
    rw [hrun, h.refused hcaller hauthority hheld]
    rfl
  case admitted =>
    intro caller hcaller site authority hauthority hheld
    rw [hrun, Ne, map_eq_error]
    exact h.admitted hcaller hauthority hheld
  case confined =>
    intro hcommand site
    rw [hrun]
    exact h.confined hcommand site
  case succession =>
    intro site
    have hsuccession := h.succession site
    rw [hrun]
    cases hanswer : (op.run site).1 <;> rw [hanswer] at hsuccession <;> exact hsuccession

/-! ## Other ways to ask -/

/-- The charter, when operations are asked for in another way. -/
def along {κ' : Type} (charter : Charter σ τ κ ε) (request : κ' → κ) : Charter σ τ κ' ε :=
  { charter with
    petitioner? := fun command => charter.petitioner? (request command)
    heir? := fun command => charter.heir? (request command) }

theorem Governs.along {κ' : Type} {request : κ' → κ} {command : κ'} {op : Operation σ γ ε α}
    (h : charter.Governs (request command) op) : (charter.along request).Governs command op :=
  ⟨h.refused, h.admitted, h.confined, h.succession⟩

variable {σ' γ' ε' α' κ' : Type}

/-- The charter of a subsystem that is part of a larger state, or is missing there. -/
def within (charter : Charter σ τ κ ε) (part : σ' → Option σ) (request? : κ' → Option κ)
    (failure : ε → ε') : Charter σ' (Option τ) κ' ε' where
  setup whole := (part whole).map charter.setup
  authority? setup := setup.bind charter.authority?
  petitioner? command := (request? command).bind charter.petitioner?
  heir? command := (request? command).bind charter.heir?
  unauthorized caller := failure (charter.unauthorized caller)

/-- An operation on a larger state carries out an operation on one of its parts, and does nothing
else when nothing comes of that. Where the part is missing it fails. -/
structure CarriesOut (part : σ' → Option σ) (failure : ε → ε')
    (op : Operation σ' γ' ε' α') (inner : Operation σ γ ε α → Prop) : Prop where
  absent : ∀ site : Site σ' γ', part site.state = none → ∃ cause, op.run site = (.error cause, site)
  present : ∀ (site : Site σ' γ') s, part site.state = some s →
    ∃ small, inner small ∧ ∃ (start : Site σ γ) (answer : α → α'), start.state = s ∧
      (op.run site).1 = ((small.run start).1.map answer).mapError failure ∧
      part (op.run site).2.state = some (small.run start).2.state ∧
      ((small.run start).2 = start → (op.run site).2 = site)

section Within

variable {part : σ' → Option σ} {request? : κ' → Option κ} {failure : ε → ε'} {command : κ'}
  {op : Operation σ' γ' ε' α'}

/-- An operation that asks nothing of the subsystem is governed when it leaves it alone. -/
theorem governs_within_of_none (hrequest : request? command = none)
    (hpart : ∀ site : Site σ' γ', part (op.run site).2.state = part site.state) :
    (charter.within part request? failure).Governs command op := by
  apply governs_of_confined
  · simp [within, hrequest]
  · simp [within, hrequest]
  · intro site
    exact congrArg (Option.map charter.setup) (hpart site)

theorem Governs.within {request : κ} (hfailure : Function.Injective failure)
    (hrequest : request? command = some request)
    (hop : CarriesOut part failure op fun small : Operation σ γ ε α =>
      charter.Governs request small) :
    (charter.within part request? failure).Governs command op := by
  constructor
  case refused =>
    intro caller hcaller site authority hauthority hheld
    simp only [Charter.within, hrequest, Option.bind_some, authorityAt] at hcaller hauthority
    cases hpart : part site.state with
    | none => simp [hpart] at hauthority
    | some s =>
        simp only [hpart, Option.map_some, Option.bind_some] at hauthority
        obtain ⟨small, hsmall, start, answer, rfl, hanswer, -, hsame⟩ := hop.present site s hpart
        have hrefused := hsmall.refused hcaller hauthority hheld
        rw [hrefused] at hanswer hsame
        exact Prod.ext hanswer (hsame rfl)
  case admitted =>
    intro caller hcaller site authority hauthority hheld
    simp only [Charter.within, hrequest, Option.bind_some, authorityAt] at hcaller hauthority
    cases hpart : part site.state with
    | none => simp [hpart] at hauthority
    | some s =>
        simp only [hpart, Option.map_some, Option.bind_some] at hauthority
        obtain ⟨small, hsmall, start, answer, rfl, hanswer, -, -⟩ := hop.present site s hpart
        rw [hanswer, Ne]
        simp only [Charter.within]
        rw [mapError_eq_error hfailure, map_eq_error]
        exact hsmall.admitted hcaller hauthority hheld
  case confined =>
    intro hcommand site
    simp only [Charter.within, hrequest, Option.bind_some] at hcommand
    simp only [Charter.within]
    cases hpart : part site.state with
    | none =>
        obtain ⟨cause, hrun⟩ := hop.absent site hpart
        rw [hrun, hpart]
    | some s =>
        obtain ⟨small, hsmall, start, answer, rfl, -, hafter, -⟩ := hop.present site s hpart
        rw [hafter]
        exact congrArg some (hsmall.confined hcommand start)
  case succession =>
    intro site
    cases hpart : part site.state with
    | none =>
        obtain ⟨cause, hrun⟩ := hop.absent site hpart
        rw [hrun]
        rfl
    | some s =>
        obtain ⟨small, hsmall, start, answer, rfl, hanswer, hafter, -⟩ := hop.present site s hpart
        have hheir : (charter.within part request? failure).heirAfter? command (op.run site).1 =
            charter.heirAfter? request (small.run start).1 := by
          rw [hanswer]
          cases (small.run start).1 with
          | ok a => simp [heirAfter?, Charter.within, hrequest]
          | error cause => rfl
        have hsuccession := hsmall.succession start
        rw [hheir]
        simpa only [authorityAt, Charter.within, hpart, hafter, Option.map_some,
          Option.bind_some] using hsuccession

end Within

/-! ## Runs -/

/-- Whether the subsystem has an authority, and the caller of an administrative operation does not
hold it. -/
def trespasses (charter : Charter σ τ κ ε) (entry : Site σ γ × κ) : Bool :=
  match charter.petitioner? entry.2, charter.authorityAt entry.1 with
  | some caller, some authority => !authority.isHeldBy caller
  | _, _ => false

/-- The address to which an operation of a run gave the authority. -/
def succeeds? (charter : Charter σ τ κ ε) (perform : κ → Operation σ γ ε α)
    (entry : Site σ γ × κ) : Option Address :=
  charter.heirAfter? entry.2 ((perform entry.2).run entry.1).1

/-- What a charter promises of a run. -/
structure Controls (charter : Charter σ τ κ ε) (perform : κ → Operation σ γ ε α)
    (start : Site σ γ) (commands : List κ) : Prop where
  /-- An administrative operation is refused for want of authority exactly to those that do not hold
  the authority when they ask; nobody holds it for the null address. -/
  unauthorized_iff : ∀ entry ∈ start.history perform commands, ∀ caller authority,
    charter.petitioner? entry.2 = some caller → charter.authorityAt entry.1 = some authority →
      (((perform entry.2).run entry.1).1 = .error (charter.unauthorized caller) ↔
        caller ≠ authority.holder ∨ caller = Address.null)
  confined : ∀ entry ∈ start.history perform commands, charter.petitioner? entry.2 = none →
    charter.setup ((perform entry.2).run entry.1).2.state = charter.setup entry.1.state
  /-- Refused operations, any number of them, can be taken out of the run: each of the others meets
  the same site as before, and the run ends at the same site. -/
  without : ∀ chosen : Site σ γ × κ → Bool,
    (∀ entry ∈ start.history perform commands,
        chosen entry = true → charter.trespasses entry = true) →
      let kept := (start.history perform commands).filter fun entry => !chosen entry
      start.history perform (kept.map Prod.snd) = kept ∧
        start.play perform (kept.map Prod.snd) = start.play perform commands
  succession : charter.authorityAt (start.play perform commands) =
    (((start.history perform commands).filterMap (charter.succeeds? perform)).getLast?.map
      Authority.mk).or (charter.authorityAt start)
  /-- Once the authority was given to the null address, every administrative operation is refused,
  whoever asks, and the setup stays as it is. -/
  renounced : ∀ before entry after, start.history perform commands = before ++ entry :: after →
    charter.succeeds? perform entry = some Address.null →
      charter.setup (start.play perform commands).state =
          charter.setup ((perform entry.2).run entry.1).2.state ∧
        ∀ other ∈ after,
          charter.setup other.1.state = charter.setup ((perform entry.2).run entry.1).2.state ∧
            ∀ caller, charter.petitioner? other.2 = some caller →
              ((perform other.2).run other.1).1 = .error (charter.unauthorized caller)

variable {perform : κ → Operation σ γ ε α}

theorem Governs.unauthorized_iff {command : κ} {op : Operation σ γ ε α}
    (h : charter.Governs command op) {caller : Address}
    (hcaller : charter.petitioner? command = some caller) {site : Site σ γ} {authority : Authority}
    (hauthority : charter.authorityAt site = some authority) :
    (op.run site).1 = .error (charter.unauthorized caller) ↔
      caller ≠ authority.holder ∨ caller = Address.null := by
  rw [← Authority.isHeldBy_eq_false]
  constructor
  · intro hrefused
    cases hheld : authority.isHeldBy caller with
    | false => rfl
    | true => exact absurd hrefused (h.admitted hcaller hauthority hheld)
  · intro hheld
    rw [h.refused hcaller hauthority hheld]

/-- Nothing comes of an operation that trespasses. -/
theorem Governs.run_of_trespasses {command : κ} {op : Operation σ γ ε α}
    (h : charter.Governs command op) {site : Site σ γ}
    (htrespasses : charter.trespasses (site, command) = true) : (op.run site).2 = site := by
  rw [trespasses] at htrespasses
  cases hcaller : charter.petitioner? command with
  | none => simp [hcaller] at htrespasses
  | some caller =>
      cases hauthority : charter.authorityAt site with
      | none => simp [hcaller, hauthority] at htrespasses
      | some authority =>
          have hheld : authority.isHeldBy caller = false := by
            simpa [hcaller, hauthority] using htrespasses
          rw [h.refused hcaller hauthority hheld]

theorem setup_step_of_null {command : κ} {op : Operation σ γ ε α} (h : charter.Governs command op)
    {site : Site σ γ} (hnull : charter.authorityAt site = some ⟨Address.null⟩) :
    charter.setup (op.run site).2.state = charter.setup site.state := by
  cases hcommand : charter.petitioner? command with
  | none => exact h.confined hcommand site
  | some caller => rw [h.refused hcommand hnull (Authority.isHeldBy_null caller)]

/-- An authority that was given to the null address leaves a setup that nothing moves any more. -/
theorem frozen_of_null (h : ∀ command, charter.Governs command (perform command))
    {site : Site σ γ} (hnull : charter.authorityAt site = some ⟨Address.null⟩)
    (commands : List κ) :
    charter.setup (site.play perform commands).state = charter.setup site.state ∧
      ∀ entry ∈ site.history perform commands,
        charter.setup entry.1.state = charter.setup site.state ∧
          ∀ caller, charter.petitioner? entry.2 = some caller →
            ((perform entry.2).run entry.1).1 = .error (charter.unauthorized caller) := by
  induction commands generalizing site with
  | nil => exact ⟨rfl, by simp [Site.history]⟩
  | cons command rest ih =>
      have hsetup := setup_step_of_null (h command) hnull
      have hauthority : charter.authorityAt ((perform command).run site).2 =
          some ⟨Address.null⟩ := by
        rw [authorityAt, hsetup]
        exact hnull
      obtain ⟨hlater, hentries⟩ := ih hauthority
      rw [hsetup] at hlater hentries
      refine ⟨hlater, ?_⟩
      rw [Site.history, List.forall_mem_cons]
      refine ⟨⟨rfl, ?_⟩, hentries⟩
      intro caller hcaller
      rw [(h command).refused hcaller hnull (Authority.isHeldBy_null caller)]

theorem authorityAt_play (h : ∀ command, charter.Governs command (perform command))
    (start : Site σ γ) (commands : List κ) :
    charter.authorityAt (start.play perform commands) =
      (((start.history perform commands).filterMap (charter.succeeds? perform)).getLast?.map
        Authority.mk).or (charter.authorityAt start) := by
  induction commands using List.reverseRecOn with
  | nil => rfl
  | append_singleton commands command ih =>
      have hstep : charter.authorityAt ((perform command).run (start.play perform commands)).2 =
          ((charter.succeeds? perform (start.play perform commands, command)).map
            Authority.mk).or (charter.authorityAt (start.play perform commands)) :=
        (h command).succession _
      rw [Site.play_concat, hstep, ih, Site.history_concat, List.filterMap_append]
      cases hheir : charter.succeeds? perform (start.play perform commands, command) with
      | none => simp [hheir]
      | some heir => simp [hheir]

/-- A charter that governs every operation controls every run. -/
theorem controls_of_governs (h : ∀ command, charter.Governs command (perform command))
    (start : Site σ γ) (commands : List κ) : charter.Controls perform start commands := by
  constructor
  case unauthorized_iff =>
    intro entry _ caller authority hcaller hauthority
    exact (h entry.2).unauthorized_iff hcaller hauthority
  case confined =>
    intro entry _ hcommand
    exact (h entry.2).confined hcommand entry.1
  case without =>
    intro chosen hchosen
    apply Site.history_filter
    intro entry hentry hvoid
    exact (h entry.2).run_of_trespasses (hchosen entry hentry hvoid)
  case succession => exact authorityAt_play h start commands
  case renounced =>
    intro before entry after hsplit hheir
    obtain ⟨hplay, hafter⟩ := Site.play_of_history_eq hsplit
    have hnull : charter.authorityAt ((perform entry.2).run entry.1).2 =
        some ⟨Address.null⟩ := by
      rw [succeeds?] at hheir
      rw [(h entry.2).succession, hheir]
      rfl
    have hfrozen := frozen_of_null h hnull (after.map Prod.snd)
    rw [← hplay, ← hafter] at hfrozen
    exact hfrozen

end Charter

end Integrity
