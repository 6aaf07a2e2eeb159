import Integrity.Operation
import Integrity.Proofs.Tally

/-! # Runs of operations -/

namespace Integrity.Site

variable {σ γ ε α κ : Type}

/-- The site after operations, one after the other, whether they succeed or fail. -/
def play (perform : κ → Operation σ γ ε α) (site : Site σ γ) (commands : List κ) : Site σ γ :=
  commands.foldl (fun before command => ((perform command).run before).2) site

@[simp]
theorem play_nil (perform : κ → Operation σ γ ε α) (site : Site σ γ) :
    site.play perform [] = site :=
  rfl

@[simp]
theorem play_cons (perform : κ → Operation σ γ ε α) (site : Site σ γ) (command : κ)
    (rest : List κ) :
    site.play perform (command :: rest) = ((perform command).run site).2.play perform rest :=
  rfl

theorem play_append (perform : κ → Operation σ γ ε α) (site : Site σ γ) (first second : List κ) :
    site.play perform (first ++ second) = (site.play perform first).play perform second :=
  List.foldl_append

theorem play_concat (perform : κ → Operation σ γ ε α) (site : Site σ γ) (commands : List κ)
    (command : κ) :
    site.play perform (commands ++ [command]) =
      ((perform command).run (site.play perform commands)).2 :=
  play_append perform site commands [command]

/-- The operations of a run, each with the site that it meets. -/
def history (perform : κ → Operation σ γ ε α) (site : Site σ γ) : List κ → List (Site σ γ × κ)
  | [] => []
  | command :: rest => (site, command) :: history perform ((perform command).run site).2 rest

theorem history_append (perform : κ → Operation σ γ ε α) (site : Site σ γ)
    (first second : List κ) :
    site.history perform (first ++ second) =
      site.history perform first ++ (site.play perform first).history perform second := by
  induction first generalizing site with
  | nil => rfl
  | cons command rest ih => simp only [List.cons_append, history, play_cons, ih]

theorem history_concat (perform : κ → Operation σ γ ε α) (site : Site σ γ) (commands : List κ)
    (command : κ) :
    site.history perform (commands ++ [command]) =
      site.history perform commands ++ [(site.play perform commands, command)] :=
  history_append perform site commands [command]

theorem countP_history_concat (perform : κ → Operation σ γ ε α) (site : Site σ γ)
    (commands : List κ) (command : κ) (p : Site σ γ × κ → Bool) :
    (site.history perform (commands ++ [command])).countP p =
      (site.history perform commands).countP p +
        (p (site.play perform commands, command)).toNat := by
  rw [history_concat, countP_concat]

theorem map_snd_history (perform : κ → Operation σ γ ε α) (site : Site σ γ) (commands : List κ) :
    (site.history perform commands).map Prod.snd = commands := by
  induction commands generalizing site with
  | nil => rfl
  | cons command rest ih => rw [history, List.map_cons, ih]

/-- What comes after an operation of a run is the run from where the operation left the site. -/
theorem play_of_history_eq {perform : κ → Operation σ γ ε α} {site : Site σ γ}
    {commands : List κ} {before after : List (Site σ γ × κ)} {entry : Site σ γ × κ}
    (h : site.history perform commands = before ++ entry :: after) :
    let later := ((perform entry.2).run entry.1).2
    site.play perform commands = later.play perform (after.map Prod.snd) ∧
      after = later.history perform (after.map Prod.snd) := by
  induction before generalizing site commands with
  | nil =>
      cases commands with
      | nil => cases h
      | cons command rest =>
          obtain ⟨rfl, rfl⟩ := List.cons.inj h
          simp only [map_snd_history, play_cons, and_self]
  | cons first before ih =>
      cases commands with
      | nil => cases h
      | cons command rest =>
          rw [play_cons]
          exact ih (List.cons.inj h).2

/-- Operations that leave their sites as they are can be taken out of a run. -/
theorem history_filter {perform : κ → Operation σ γ ε α} {void : Site σ γ × κ → Bool}
    {site : Site σ γ} {commands : List κ}
    (h : ∀ entry ∈ site.history perform commands, void entry = true →
      ((perform entry.2).run entry.1).2 = entry.1) :
    let kept := (site.history perform commands).filter fun entry => !void entry
    site.history perform (kept.map Prod.snd) = kept ∧
      site.play perform (kept.map Prod.snd) = site.play perform commands := by
  induction commands generalizing site with
  | nil => exact ⟨rfl, rfl⟩
  | cons command rest ih =>
      rw [history, List.forall_mem_cons] at h
      obtain ⟨hfirst, hrest⟩ := h
      have ih := ih hrest
      simp only [history, List.filter_cons, play_cons]
      cases hvoid : void (site, command) with
      | true =>
          -- The rest of the run starts where the operation started.
          rw [hfirst hvoid] at ih ⊢
          exact ih
      | false =>
          refine ⟨?_, ih.2⟩
          simpa [history] using ih.1

/-- Every operation of a run succeeds. -/
def Succeeds (perform : κ → Operation σ γ ε α) (site : Site σ γ) (commands : List κ) : Prop :=
  ∀ entry ∈ site.history perform commands, ((perform entry.2).run entry.1).1.isOk = true

instance (perform : κ → Operation σ γ ε α) (site : Site σ γ) (commands : List κ) :
    Decidable (site.Succeeds perform commands) :=
  inferInstanceAs (Decidable (∀ entry ∈ _, _))

theorem succeeds_cons {perform : κ → Operation σ γ ε α} {site : Site σ γ} {command : κ}
    {rest : List κ} :
    site.Succeeds perform (command :: rest) ↔
      ((perform command).run site).1.isOk = true ∧
        ((perform command).run site).2.Succeeds perform rest := by
  rw [Succeeds, history, List.forall_mem_cons, Succeeds]

theorem succeeds_append {perform : κ → Operation σ γ ε α} {site : Site σ γ}
    {first second : List κ} :
    site.Succeeds perform (first ++ second) ↔
      site.Succeeds perform first ∧ (site.play perform first).Succeeds perform second := by
  simp only [Succeeds, history_append, List.forall_mem_append]

theorem exists_eq_ok_of_isOk {answer : Except ε α} (h : answer.isOk = true) :
    ∃ a, answer = .ok a := by
  cases answer with
  | error cause => cases h
  | ok a => exact ⟨a, rfl⟩

/-- What each operation of a run keeps, the run keeps. -/
theorem play_induction {perform : κ → Operation σ γ ε α} {P : Site σ γ → Prop}
    {commands : List κ} {site : Site σ γ} (hstart : P site)
    (hstep : ∀ command ∈ commands, ∀ before, P before →
      P ((perform command).run before).2) :
    P (site.play perform commands) := by
  induction commands generalizing site with
  | nil => exact hstart
  | cons command rest ih =>
      rw [play_cons]
      apply ih
      · exact hstep command List.mem_cons_self site hstart
      · intro later hlater
        exact hstep later (List.mem_cons_of_mem command hlater)

end Integrity.Site
