import Integrity.Authority
import Integrity.Collaborator.Error
import Integrity.Dispute.Source
import Integrity.Operation
import Integrity.Table
import Integrity.Trail

/-!
# The dispute resolver

Whoever disputes a job attaches exactly the appeal bond. The bond goes into an escrow account when
a jury that is large enough has been found, and stays there until the judge gives it to the
employer or back to the appellant. The payment is the last step of either operation that may fail.
-/

namespace Integrity.Dispute

/-- Why an operation of the resolver failed. -/
inductive Error where
  | unauthorized (caller : Address)
  | incorrectBond (expected provided : Amount)
  | alreadyOpen (job : JobId)
  | juryTooSmall (required actual : Nat)
  | notJudge (caller : Address)
  | noOutstandingBond (job : JobId)
  | collaborator (cause : CollaboratorError)
deriving DecidableEq

/-- What is said about an operation of the resolver that failed. -/
def Error.message : Error → String
  | .unauthorized caller => s!"Unauthorized caller: {caller}"
  | .incorrectBond expected provided =>
    s!"Incorrect bond amount: expected {expected}, provided {provided}"
  | .alreadyOpen job => s!"Dispute already open for {job}"
  | .juryTooSmall required actual => s!"Jury too small: required {required}, selected {actual}"
  | .notJudge caller => s!"Caller {caller} is not the resolution authority"
  | .noOutstandingBond job => s!"No outstanding bond for {job}"
  | .collaborator cause => s!"Collaborator error: {cause.message}"

/-- What is said about an operation of the resolver that failed, and about what caused it. -/
def Error.trail (e : Error) : Trail :=
  match e with
  | .collaborator cause => (Trail.ofFailure cause.message).causing e.message
  | _ => Trail.ofFailure e.message

/-- An open dispute. -/
structure Record where
  appellant : Address
  bond : Amount
  jury : List Address
deriving DecidableEq

/-- What a resolver starts from. -/
structure Settings where
  appealBond : Amount
  minJurySize : Nat
  judge : Address
  escrowAccount : Address
deriving DecidableEq

/-- The usual start: a bond of 100, juries of three, nobody to settle disputes. -/
def Settings.default : Settings :=
  ⟨Amount.ofNat 100, 3, Address.null, Address.null⟩

/-- The state of the resolver. -/
structure Resolver where
  authority : Authority
  appealBond : Amount
  minJurySize : Nat
  judge : Address
  escrowAccount : Address
  juries : JurySource
  employers : EmployerSource
  disputes : Table JobId Record
  raised : Nat
  wonByEmployer : Nat
  wonByAppellant : Nat
deriving DecidableEq

/-- Counts of what the resolver has done, and what it holds. -/
structure Stats where
  raised : Nat
  wonByEmployer : Nat
  wonByAppellant : Nat
  outstanding : Nat
  escrowed : Amount
deriving DecidableEq

/-- What a resolver works with. -/
structure Environment (γ : Type) where
  jury : JobId → Except CollaboratorError (List Address)
  employer : JobId → Except CollaboratorError Address
  pay : γ → Address → Address → Amount → Except CollaboratorError γ

namespace Resolver

open Operation

/-- A resolver at its start. -/
def make (authority : Address) (settings : Settings) (juries : JurySource)
    (employers : EmployerSource) : Resolver where
  authority := ⟨authority⟩
  appealBond := settings.appealBond
  minJurySize := settings.minJurySize
  judge := settings.judge
  escrowAccount := settings.escrowAccount
  juries := juries
  employers := employers
  disputes := Table.empty
  raised := 0
  wonByEmployer := 0
  wonByAppellant := 0

/-- Lets only the holder of the authority pass. -/
def ensureAuthority (r : Resolver) (caller : Address) : Except Error Unit :=
  if r.authority.isHeldBy caller then .ok () else .error (.unauthorized caller)

/-- Lets only the judge pass, and nobody while there is none. -/
def ensureJudge (r : Resolver) (caller : Address) : Except Error Unit :=
  if r.judge.isNull || r.judge != caller then .error (.notJudge caller) else .ok ()

/-- The open dispute of a job. -/
def dispute (r : Resolver) (job : JobId) : Option Record :=
  r.disputes.get? job

/-- The bond in escrow for a job. -/
def outstandingBond (r : Resolver) (job : JobId) : Amount :=
  (r.dispute job).elim Amount.zero Record.bond

/-- The bonds in escrow together, or the largest amount when they do not fit. -/
def escrowed (r : Resolver) : Amount :=
  r.disputes.values.foldl (fun total record => total.saturatingAdd record.bond) Amount.zero

/-- The counts. -/
def stats (r : Resolver) : Stats :=
  ⟨r.raised, r.wonByEmployer, r.wonByAppellant, r.disputes.size, r.escrowed⟩

/-- A failure of a collaborator as a failure of the resolver. -/
def ask {α : Type} (answer : Except CollaboratorError α) : Except Error α :=
  answer.mapError .collaborator

/-- The jury of a dispute that may be opened. -/
def empanel {γ : Type} (env : Environment γ) (job : JobId) (bond : Amount) :
    Operation Resolver γ Error (List Address) := do
  let before ← state
  failIf (bond ≠ before.appealBond) (.incorrectBond before.appealBond bond)
  failIf ((before.dispute job).isSome) (.alreadyOpen job)
  let jury ← check (ask (env.jury job))
  failIf (jury.length < before.minJurySize) (.juryTooSmall before.minJurySize jury.length)
  return jury

/-- Pays a bond from one account to another. -/
def pay {γ : Type} (env : Environment γ) (source target : Address) (bond : Amount) :
    Operation Resolver γ Error Unit :=
  call fun ledger => ask (env.pay ledger source target bond)

/-- Shows the bonds in escrow as they stand. -/
def observeEscrow {γ : Type} : Operation Resolver γ Error Unit := do
  observe [.escrow (← state).escrowed]

/-- Opens a dispute. -/
def raise {γ : Type} (env : Environment γ) (caller : Address) (job : JobId) (bond : Amount) :
    Operation Resolver γ Error Record := do
  let jury ← empanel env job bond
  pay env caller (← state).escrowAccount bond
  let record : Record := ⟨caller, bond, jury⟩
  update fun r => { r with disputes := r.disputes.insert job record }
  update fun r => { r with raised := r.raised + 1 }
  emit [.disputeRaised job caller bond jury.length]
  observe [.disputeRaised]
  observeEscrow
  return record

/-- Who is to be paid when a dispute is settled, and how much. -/
def award {γ : Type} (env : Environment γ) (caller : Address) (job : JobId)
    (employerWins : Bool) : Operation Resolver γ Error (Address × Amount) := do
  let before ← state
  check (before.ensureJudge caller)
  match before.dispute job with
  | none => throw (.noOutstandingBond job)
  | some record =>
    if employerWins then
      return (← check (ask (env.employer job)), record.bond)
    else
      return (record.appellant, record.bond)

/-- Counts a dispute that was settled. -/
def countVerdict (r : Resolver) (employerWins : Bool) : Resolver :=
  if employerWins then { r with wonByEmployer := r.wonByEmployer + 1 }
  else { r with wonByAppellant := r.wonByAppellant + 1 }

/-- Settles a dispute. The answer is who was paid. The dispute stays open until the payment is
made. -/
def resolve {γ : Type} (env : Environment γ) (caller : Address) (job : JobId)
    (employerWins : Bool) : Operation Resolver γ Error Address := do
  let (recipient, bond) ← award env caller job employerWins
  pay env (← state).escrowAccount recipient bond
  update fun r => { r with disputes := r.disputes.erase job }
  update fun r => r.countVerdict employerWins
  emit [.disputeResolved job employerWins recipient bond]
  observe [.disputeResolved]
  observeEscrow
  return recipient

/-- An administrative change by the holder of the authority, which one event tells of. -/
def administer {γ : Type} (caller : Address) (change : Resolver → Resolver)
    (event : Resolver → Event) : Operation Resolver γ Error Unit :=
  amend (fun r => r.ensureAuthority caller) change event

/-- Gives the authority to another address. -/
def transferAuthority {γ : Type} (caller new : Address) : Operation Resolver γ Error Unit :=
  administer caller (fun r => { r with authority := ⟨new⟩ })
    fun r => .authorityTransferred .disputes r.authority.holder new

/-- Sets what an appeal costs from now on; open disputes keep their bonds. -/
def setAppealBond {γ : Type} (caller : Address) (bond : Amount) :
    Operation Resolver γ Error Unit :=
  administer caller (fun r => { r with appealBond := bond }) fun _ => .appealBondUpdated bond

/-- Sets the least size of a jury. -/
def setMinJurySize {γ : Type} (caller : Address) (size : Nat) :
    Operation Resolver γ Error Unit :=
  administer caller (fun r => { r with minJurySize := size }) fun _ => .minJurySizeUpdated size

/-- Lets another address settle disputes. -/
def setJudge {γ : Type} (caller judge : Address) : Operation Resolver γ Error Unit :=
  administer caller (fun r => { r with judge }) fun _ => .resolutionAuthorityUpdated judge

/-- Replaces the source of juries. -/
def setJurySource {γ : Type} (caller : Address) (juries : JurySource) :
    Operation Resolver γ Error Unit :=
  administer caller (fun r => { r with juries }) fun _ => .validatorSelectorUpdated

/-- Replaces the source of employers. -/
def setEmployerSource {γ : Type} (caller : Address) (employers : EmployerSource) :
    Operation Resolver γ Error Unit :=
  administer caller (fun r => { r with employers }) fun _ => .employerLookupUpdated

end Resolver

/-- The operations of a resolver. An operation that is abandoned gets as far as the payment, whose
outcome nobody awaits. -/
inductive Command where
  | raise (job : JobId) (bond : Amount)
  | abandonRaise (job : JobId) (bond : Amount)
  | resolve (job : JobId) (employerWins : Bool)
  | abandonResolve (job : JobId) (employerWins : Bool)
  | transferAuthority (new : Address)
  | setAppealBond (bond : Amount)
  | setMinJurySize (size : Nat)
  | setJudge (judge : Address)
  | setJurySource (juries : JurySource)
  | setEmployerSource (employers : EmployerSource)
deriving DecidableEq

/-- The answer to an operation. -/
inductive Answer where
  | done
  | opened (record : Record)
  | paid (recipient : Address)
  /-- It was given up before the payment. -/
  | abandoned
deriving DecidableEq

/-- An administrative operation. -/
def settle {γ : Type} (op : Operation Resolver γ Error Unit) :
    Operation Resolver γ Error Answer :=
  op >>= fun _ => pure .done

/-- An operation that is given up after some of its steps. -/
def abandon {γ α : Type} (op : Operation Resolver γ Error α) :
    Operation Resolver γ Error Answer :=
  op >>= fun _ => pure .abandoned

/-- Carries out an operation for a caller. -/
def Resolver.perform {γ : Type} (env : Environment γ) (caller : Address) :
    Command → Operation Resolver γ Error Answer
  | .raise job bond => raise env caller job bond >>= fun record => pure (.opened record)
  | .abandonRaise job bond => abandon (empanel env job bond)
  | .resolve job employerWins =>
    resolve env caller job employerWins >>= fun recipient => pure (.paid recipient)
  | .abandonResolve job employerWins => abandon (award env caller job employerWins)
  | .transferAuthority new => settle (transferAuthority caller new)
  | .setAppealBond bond => settle (setAppealBond caller bond)
  | .setMinJurySize size => settle (setMinJurySize caller size)
  | .setJudge judge => settle (setJudge caller judge)
  | .setJurySource juries => settle (setJurySource caller juries)
  | .setEmployerSource employers => settle (setEmployerSource caller employers)

end Integrity.Dispute
