import Integrity.Metrics
import Integrity.Proofs.Dispute.Solvency

/-! # What is shown of the escrow

The bonds of the open disputes are added one after the other, and a sum that does not fit becomes
the largest amount and stays there. So they add up to the same in every order, and an opening or a
settlement moves the sum by its own bond, unless it does not fit. -/

namespace Integrity

theorem totalEntries_perm {κ ν : Type} (measure : ν → Nat) {entries others : List (κ × ν)}
    (h : entries.Perm others) : totalEntries measure entries = totalEntries measure others := by
  induction h with
  | nil => rfl
  | cons entry _ ih => exact congrArg (measure entry.2 + ·) ih
  | swap first second rest =>
      simp only [totalEntries, List.foldr_cons]
      omega
  | trans _ _ ih₁ ih₂ => exact ih₁.trans ih₂

namespace Dispute

open Operation

namespace Resolver

/-- The resolver with its open disputes in another order. -/
def reordered (r : Resolver) (order : Table JobId Record) : Resolver :=
  { r with disputes := order }

theorem bonds_reordered {r : Resolver} {order : Table JobId Record}
    (h : order.entries.Perm r.disputes.entries) : (r.reordered order).bonds = r.bonds :=
  totalEntries_perm (fun record : Record => record.bond.units) h

theorem escrowed_reordered {r : Resolver} {order : Table JobId Record}
    (h : order.entries.Perm r.disputes.entries) :
    (r.reordered order).escrowed.units = min r.bonds maxWord64 := by
  rw [units_escrowed, bonds_reordered h]

theorem escrowed_opened {r : Resolver} {job : JobId} (hfree : r.dispute job = none)
    {record : Record} (hfits : (r.opened job record).bonds ≤ maxWord64) :
    (r.opened job record).escrowed.units = r.escrowed.units + record.bond.units := by
  have hbonds := bonds_opened hfree record
  rw [units_escrowed, units_escrowed]
  omega

theorem escrowed_closed {r : Resolver} {job : JobId} {record : Record}
    (hopen : r.dispute job = some record) (employerWins : Bool) (hfits : r.bonds ≤ maxWord64) :
    r.escrowed.units = (r.closed job employerWins).escrowed.units + record.bond.units := by
  have hbonds := bonds_closed hopen employerWins
  rw [units_escrowed, units_escrowed]
  omega

end Resolver

variable {γ : Type}

/-- Whatever a gauge of the escrow showed before, the readings leave it at what is held now, up to
the largest number that it can show. -/
def ShowsEscrow (site : Site Resolver γ) : Prop :=
  ∀ m : Metrics,
    (m.readAll site.readings).escrowedBonds = min (site.state.escrowed.units : Int) maxInt64

/-- The gauge is read out last, so nothing that was read before counts. -/
theorem showsEscrow_of_readings {site : Site Resolver γ} {earlier : List Reading}
    (h : site.readings = earlier ++ [.escrow site.state.escrowed]) : ShowsEscrow site := by
  intro m
  rw [h, Metrics.readAll, List.foldl_append]
  exact Metrics.gauge_of_nonneg (Int.natCast_nonneg _)

section Steps

variable {env : Environment γ} {caller : Address} {job : JobId} {answer : Answer}
  {before after : Site Resolver γ}

/-- Opening a dispute adds its bond. -/
theorem Step.escrow_raise {bond : Amount}
    (h : Step env caller before (.raise job bond) (.ok answer) after) :
    after.state.bonds = before.state.bonds + bond.units ∧
      (after.state.bonds ≤ maxWord64 →
        after.state.escrowed.units = before.state.escrowed.units + bond.units) ∧
      ShowsEscrow after := by
  cases h with
  | amended hcommand _ => cases hcommand
  | raised _ hfree =>
      exact ⟨Resolver.bonds_opened hfree _, Resolver.escrowed_opened hfree,
        showsEscrow_of_readings (List.append_assoc _ [_] [_]).symm⟩

/-- Settling a dispute takes its bond away. -/
theorem Step.escrow_resolve {employerWins : Bool}
    (h : Step env caller before (.resolve job employerWins) (.ok answer) after) :
    ∃ record, before.state.dispute job = some record ∧
      before.state.bonds = after.state.bonds + record.bond.units ∧
      (before.state.bonds ≤ maxWord64 →
        before.state.escrowed.units = after.state.escrowed.units + record.bond.units) ∧
      ShowsEscrow after := by
  cases h with
  | amended hcommand _ => cases hcommand
  | @resolved _ _ record _ _ _ hopen =>
      exact ⟨record, hopen, (Resolver.bonds_closed hopen employerWins).symm,
        Resolver.escrowed_closed hopen employerWins,
        showsEscrow_of_readings (List.append_assoc _ [_] [_]).symm⟩

end Steps

/-- What is shown of the escrow is the sum of the bonds of the open disputes, up to the largest
amount, in whatever order the disputes are gone through. A dispute that is opened or settled moves
it by its own bond as long as the sum fits, and leaves a gauge at what is shown then, up to the
largest number of the gauge. -/
theorem escrow_exact (env : Environment γ) (caller : Address) (job : JobId) :
    (∀ (r : Resolver) (order : Table JobId Record), order.entries.Perm r.disputes.entries →
      (r.reordered order).escrowed.units = min r.bonds maxWord64) ∧
      (∀ bond answer before after,
        (Resolver.perform env caller (.raise job bond)).run before = (.ok answer, after) →
          after.state.bonds = before.state.bonds + bond.units ∧
            (after.state.bonds ≤ maxWord64 →
              after.state.escrowed.units = before.state.escrowed.units + bond.units) ∧
            ShowsEscrow after) ∧
      ∀ employerWins answer before after,
        (Resolver.perform env caller (.resolve job employerWins)).run before =
            (.ok answer, after) →
          ∃ record, before.state.dispute job = some record ∧
            before.state.bonds = after.state.bonds + record.bond.units ∧
            (before.state.bonds ≤ maxWord64 →
              before.state.escrowed.units = after.state.escrowed.units + record.bond.units) ∧
            ShowsEscrow after := by
  refine ⟨fun r order => Resolver.escrowed_reordered, ?_, ?_⟩
  · intro bond answer before after hrun
    have hstep := perform_step env caller (.raise job bond) before
    rw [hrun] at hstep
    exact hstep.escrow_raise
  · intro employerWins answer before after hrun
    have hstep := perform_step env caller (.resolve job employerWins) before
    rw [hrun] at hstep
    exact hstep.escrow_resolve

/-- Two bonds that do not fit together show as the largest amount in both orders; a bond alone comes
and goes. -/
theorem escrow_exact_both_orders :
    let appellant := Address.filled 0xAB
    let judge := Address.filled 0x1D
    let bond := Amount.ofNat 10
    let env := Environment.overLedger (fun _ => .ok []) fun job => .error (.unknownJob job)
    let r := Resolver.make Address.null ⟨bond, 0, judge, Address.filled 0xE5⟩ .pool .registry
    let largest : JobId × Record := (⟨7⟩, ⟨appellant, Amount.max, []⟩)
    let smallest : JobId × Record := (⟨8⟩, ⟨appellant, Amount.ofNat 1, []⟩)
    let full := r.reordered ⟨[largest, smallest], by decide⟩
    let order : Table JobId Record := ⟨[smallest, largest], by decide⟩
    let ledger := Ledger.empty.write appellant bond
    let raised := (Resolver.perform env appellant (.raise ⟨7⟩ bond)).run (.start r ledger)
    let settled := (Resolver.perform env judge (.resolve ⟨7⟩ false)).run raised.2
    order.entries.Perm full.disputes.entries ∧
      (full.reordered order).escrowed.units = min full.bonds maxWord64 ∧
      full.bonds = maxWord64 + 1 ∧
      raised.1 = .ok (.opened ⟨appellant, bond, []⟩) ∧ raised.2.state.bonds ≤ maxWord64 ∧
      raised.2.state.escrowed.units = r.escrowed.units + 10 ∧ ShowsEscrow raised.2 ∧
      settled.1 = .ok (.paid appellant) ∧
      raised.2.state.escrowed.units = settled.2.state.escrowed.units + 10 ∧
      ShowsEscrow settled.2 := by
  intro appellant judge bond env r largest smallest full order ledger raised settled
  have hperm : order.entries.Perm full.disputes.entries := .swap _ _ _
  have hraised : raised.1 = .ok (.opened ⟨appellant, bond, []⟩) := rfl
  have hsettled : settled.1 = .ok (.paid appellant) := rfl
  have hfits : raised.2.state.bonds ≤ maxWord64 := by decide
  obtain ⟨horder, hopens, -⟩ := escrow_exact env appellant ⟨7⟩
  obtain ⟨-, -, hcloses⟩ := escrow_exact env judge ⟨7⟩
  obtain ⟨-, hadded, hshown⟩ := hopens bond _ _ raised.2 (Prod.ext hraised rfl)
  obtain ⟨record, hopen, -, hremoved, hleft⟩ :=
    hcloses false _ _ settled.2 (Prod.ext hsettled rfl)
  obtain rfl : ⟨appellant, bond, []⟩ = record := Option.some.inj hopen
  exact ⟨hperm, horder full order hperm, rfl, hraised, hfits, hadded hfits, hshown, hsettled,
    hremoved hfits, hleft⟩

end Dispute

end Integrity
