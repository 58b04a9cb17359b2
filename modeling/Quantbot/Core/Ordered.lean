import Mathlib.Data.List.Sort
import Mathlib.Data.Prod.Lex

/-!
# Rows in order

A sort by one key and then by another compares as pairs do: `lex_total`, `lex_trans` and
`lex_antisymm`. A list no two of whose rows tie sorts in one way, however it was listed
(`insertionSort_congr`).
-/
namespace Quantbot.Core

section Pairs

variable {α β : Type} [LinearOrder α] [LinearOrder β] {a b c : α} {x y z : β}

theorem lex_total : (a < b ∨ a = b ∧ x ≤ y) ∨ (b < a ∨ b = a ∧ y ≤ x) := by
  simpa only [Prod.Lex.toLex_le_toLex] using le_total (toLex (a, x)) (toLex (b, y))

theorem lex_trans (h : a < b ∨ a = b ∧ x ≤ y) (h' : b < c ∨ b = c ∧ y ≤ z) :
    a < c ∨ a = c ∧ x ≤ z := by
  have hab : toLex (a, x) ≤ toLex (b, y) := Prod.Lex.toLex_le_toLex.2 h
  exact Prod.Lex.toLex_le_toLex.1 (hab.trans (Prod.Lex.toLex_le_toLex (y := (c, z)).2 h'))

theorem lex_antisymm (h : a < b ∨ a = b ∧ x ≤ y) (h' : b < a ∨ b = a ∧ y ≤ x) : a = b ∧ x = y := by
  have hab : toLex (a, x) ≤ toLex (b, y) := Prod.Lex.toLex_le_toLex.2 h
  exact Prod.mk.inj (toLex_inj.1 (le_antisymm hab (Prod.Lex.toLex_le_toLex.2 h')))

end Pairs

theorem insertionSort_congr {α : Type} {r : α → α → Prop} [DecidableRel r] [Std.Total r]
    [IsTrans α r] {l l' : List α} (h : l.Perm l')
    (hanti : ∀ a ∈ l, ∀ b ∈ l, r a b → r b a → a = b) : l.insertionSort r = l'.insertionSort r := by
  have hl := List.perm_insertionSort r l
  have hl' := List.perm_insertionSort r l'
  exact ((hl.trans h).trans hl'.symm).eq_of_pairwise
    (fun a b ha hb => hanti a (hl.mem_iff.1 ha) b (h.mem_iff.2 (hl'.mem_iff.1 hb)))
    (List.pairwise_insertionSort r l) (List.pairwise_insertionSort r l')

end Quantbot.Core
