import Mathlib.Data.List.Basic

/-! # Lines

A line ends with a line feed, which may have a carriage return before it; the last one may also end
with the text. Texts that are written on lines of their own, and have no line feed or carriage
return within, are the lines of what is written. -/

namespace Integrity.Text

/-- The lines of a text, without what ends them. -/
def lines : List Char → List (List Char)
  | [] => []
  | c :: rest =>
    if c = '\n' then [] :: lines rest
    else if c = '\r' ∧ rest.head? = some '\n' then lines rest
    else
      match lines rest with
      | [] => [[c]]
      | line :: others => (c :: line) :: others

example : lines "one\r\ntwo\n\nfour".toList = ["one".toList, "two".toList, [], "four".toList] := by
  decide

/-- Whether a text has neither a line feed nor a carriage return. -/
def IsLine (text : List Char) : Prop :=
  '\n' ∉ text ∧ '\r' ∉ text

theorem lines_append {line : List Char} (h : IsLine line) (rest : List Char) :
    lines (line ++ '\n' :: rest) = line :: lines rest := by
  induction line with
  | nil => rfl
  | cons c line ih =>
    obtain ⟨hfeed, hreturn⟩ := h
    rw [List.mem_cons, not_or] at hfeed hreturn
    have hc : ¬c = '\n' := fun heq => hfeed.1 heq.symm
    have hc' : ¬(c = '\r' ∧ (line ++ '\n' :: rest).head? = some '\n') :=
      fun heq => hreturn.1 heq.1.symm
    rw [List.cons_append, lines, if_neg hc, if_neg hc', ih ⟨hfeed.2, hreturn.2⟩]

theorem lines_flatMap {ls : List (List Char)} (h : ∀ line ∈ ls, IsLine line) :
    lines (ls.flatMap fun line => line ++ ['\n']) = ls := by
  induction ls with
  | nil => rfl
  | cons line ls ih =>
    have hrest := ih fun other hother => h other (List.mem_cons_of_mem _ hother)
    rw [List.flatMap_cons, List.append_assoc, List.singleton_append,
      lines_append (h line List.mem_cons_self), hrest]

end Integrity.Text
