import Integrity.Json.Writer
import Integrity.Proofs.Text.Lines
import Integrity.Text.Numeral

/-! # Written JSON has no controls

Whatever stands in a string, what is written for it is one line. -/

namespace Integrity.Json

/-- A text without controls. -/
def IsPlain (text : List Char) : Prop :=
  ∀ c ∈ text, 0x20 ≤ c.toNat

theorem IsPlain.isLine {text : List Char} (h : IsPlain text) : Text.IsLine text := by
  constructor
  · intro hmem
    exact absurd (h _ hmem) (by decide)
  · intro hmem
    exact absurd (h _ hmem) (by decide)

theorem isPlain_nil : IsPlain [] := by
  intro c hc
  cases hc

theorem isPlain_cons {c : Char} {text : List Char} :
    IsPlain (c :: text) ↔ 0x20 ≤ c.toNat ∧ IsPlain text :=
  List.forall_mem_cons

theorem isPlain_append {first second : List Char} :
    IsPlain (first ++ second) ↔ IsPlain first ∧ IsPlain second :=
  List.forall_mem_append

theorem isPlain_flatMap {α : Type} {items : List α} {write : α → List Char}
    (h : ∀ item ∈ items, IsPlain (write item)) : IsPlain (items.flatMap write) := by
  intro c hc
  obtain ⟨item, hitem, hc⟩ := List.mem_flatMap.mp hc
  exact h item hitem c hc

theorem isPlain_ofNat (n : Nat) : IsPlain (Numeral.ofNat n) := by
  intro c hc
  have hrange : 48 ≤ c.toNat ∧ c.toNat ≤ 57 :=
    Char.isDigit_iff_toNat.mp (Numeral.isDigit_of_mem_ofNat hc)
  omega

theorem isPlain_ofInt (n : Int) : IsPlain (Numeral.ofInt n) := by
  cases n with
  | ofNat n => exact isPlain_ofNat n
  | negSucc n => exact isPlain_cons.mpr ⟨by decide, isPlain_ofNat (n + 1)⟩

theorem plain_escapeLetter {c letter : Char} (h : escapeLetter? c = some letter) :
    0x20 ≤ letter.toNat := by
  simp only [escapeLetter?] at h
  repeat' split at h
  all_goals cases h
  · next hc => rcases hc with rfl | rfl <;> decide
  all_goals decide

theorem plain_digitChar {n : Nat} (h : n < 16) : 0x20 ≤ (Nat.digitChar n).toNat := by
  have hall : ∀ m < 16, 0x20 ≤ (Nat.digitChar m).toNat := by decide
  exact hall n h

theorem isPlain_escape (c : Char) : IsPlain (escape c) := by
  rw [escape]
  cases hletter : escapeLetter? c with
  | some letter =>
    exact isPlain_cons.mpr ⟨by decide, isPlain_cons.mpr ⟨plain_escapeLetter hletter, isPlain_nil⟩⟩
  | none =>
    dsimp only
    split
    · next hcontrol =>
      have hhigh := plain_digitChar (n := c.toNat / 16) (by omega)
      have hlow := plain_digitChar (n := c.toNat % 16) (by omega)
      simp only [isPlain_cons, hhigh, hlow, isPlain_nil, and_true]
      decide
    · next hcontrol => exact isPlain_cons.mpr ⟨Nat.not_lt.mp hcontrol, isPlain_nil⟩

theorem isPlain_writeText (text : List Char) : IsPlain (writeText text) := by
  rw [writeText, List.cons_append, isPlain_cons, isPlain_append]
  exact ⟨by decide, isPlain_flatMap fun c _ => isPlain_escape c,
    isPlain_cons.mpr ⟨by decide, isPlain_nil⟩⟩

theorem isPlain_writeFlag (flag : Bool) : IsPlain (writeFlag flag) := by
  have hall : (writeFlag flag).all (fun c => decide (0x20 ≤ c.toNat)) = true := by
    cases flag <;> rfl
  intro c hc
  exact of_decide_eq_true (List.all_eq_true.mp hall c hc)

theorem isPlain_separated {texts : List (List Char)} (h : ∀ text ∈ texts, IsPlain text) :
    IsPlain (separated texts) := by
  induction texts with
  | nil => exact isPlain_nil
  | cons text rest ih =>
    rw [List.forall_mem_cons] at h
    cases rest with
    | nil => exact h.1
    | cons second rest =>
      rw [separated, isPlain_append, isPlain_cons]
      · exact ⟨h.1, by decide, ih h.2⟩
      · nofun

theorem isPlain_writeObject {members : List (String × List Char)}
    (h : ∀ member ∈ members, IsPlain member.2) : IsPlain (writeObject members) := by
  rw [writeObject, List.cons_append, isPlain_cons, isPlain_append]
  refine ⟨by decide, isPlain_separated fun text htext => ?_,
    isPlain_cons.mpr ⟨by decide, isPlain_nil⟩⟩
  obtain ⟨member, hmember, rfl⟩ := List.mem_map.mp htext
  show IsPlain (writeText member.1.toList ++ ':' :: member.2)
  rw [isPlain_append, isPlain_cons]
  exact ⟨isPlain_writeText _, by decide, h member hmember⟩

end Integrity.Json
