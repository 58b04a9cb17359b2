import Mathlib.Algebra.Order.Group.Defs
import Quantbot.Core.Table

/-!
# Rolling windows

Rows carry a stamp that a later write may move. A writer that counts the other rows stamped
after `now - w` before it stamps its own at `now` keeps every half-open window of length `w`
within the limit, whatever order the stamps arrive in: in any window the row stamped last had
counted all the others (`Rolling.upsert`).
-/
namespace Quantbot.Core

open Table

variable {α κ T : Type*} [DecidableEq κ] {key : α → κ} [AddCommGroup T] [LinearOrder T]
  [IsOrderedAddMonoid T]

/-- The rows of `p` stamped after `x`. -/
def stampedAfter (stamp : α → T) (p : α → Bool) (t : Table α key) (x : T) : ℕ :=
  t.rows.countP fun a => p a && x < stamp a

/-- The rows of `p` stamped in the window of length `w` after `x`. -/
def inWindow (stamp : α → T) (p : α → Bool) (t : Table α key) (x w : T) : ℕ :=
  t.rows.countP fun a => p a && x < stamp a && stamp a ≤ x + w

/-- Every window of length `w` holds at most `limit` rows of `p`. -/
def Rolling (stamp : α → T) (p : α → Bool) (w : T) (limit : ℕ) (t : Table α key) : Prop :=
  ∀ x, inWindow stamp p t x w ≤ limit

omit [DecidableEq κ] in
theorem countP_eq_total (t : Table α key) (p : α → Bool) :
    t.rows.countP p = t.total fun a => if p a then 1 else 0 := by
  unfold total
  induction t.rows with
  | nil => rfl
  | cons a rows ih => rw [List.countP_cons, List.map_cons, List.sum_cons, ih, Nat.add_comm]

theorem countP_upsert (t : Table α key) (a : α) (p : α → Bool) :
    (t.upsert a).rows.countP p = (t.erase (key a)).rows.countP p + if p a then 1 else 0 := by
  rw [countP_eq_total, countP_eq_total, total_upsert]

theorem countP_erase_le (t : Table α key) (k : κ) (p : α → Bool) :
    (t.erase k).rows.countP p ≤ t.rows.countP p :=
  List.filter_sublist.countP_le

omit [DecidableEq κ] [IsOrderedAddMonoid T] in
/-- A window's rows with `q` and those without. -/
theorem inWindow_split (stamp : α → T) (p q : α → Bool) (t : Table α key) (x w : T) :
    inWindow stamp p t x w =
      inWindow stamp (fun a => p a && q a) t x w + inWindow stamp (fun a => p a && !q a) t x w := by
  unfold inWindow
  rw [List.countP_eq_countP_filter_add _ _ q, List.countP_filter, List.countP_filter]
  congr 1
  · exact List.countP_congr fun a _ => by simp only [Bool.and_eq_true]; tauto
  · exact List.countP_congr fun a _ => by simp only [Bool.and_eq_true, Bool.not_eq_true']; tauto

omit [DecidableEq κ] [IsOrderedAddMonoid T] in
theorem inWindow_congr {stamp : α → T} {p q : α → Bool} {t : Table α key} {x w : T}
    (h : ∀ a, p a = q a) : inWindow stamp p t x w = inWindow stamp q t x w := by
  rw [funext h]

omit [DecidableEq κ] [IsOrderedAddMonoid T] in
theorem Rolling.empty {stamp : α → T} {p : α → Bool} {w : T} {limit : ℕ} :
    Rolling stamp p w limit (Table.empty : Table α key) := fun _ => Nat.zero_le _

theorem Rolling.upsert {stamp : α → T} {p : α → Bool} {w : T} {limit : ℕ} {t : Table α key} {a : α}
    (h : Rolling stamp p w limit t)
    (hroom : p a = true → stampedAfter stamp p (t.erase (key a)) (stamp a - w) < limit) :
    Rolling stamp p w limit (t.upsert a) := by
  intro x; show (t.upsert a).rows.countP _ ≤ limit; rw [countP_upsert]; split
  · next ha =>
    simp only [Bool.and_eq_true, decide_eq_true_eq] at ha
    obtain ⟨⟨hp, _⟩, hle⟩ := ha
    have hothers : (t.erase (key a)).rows.countP
        (fun b => p b && decide (x < stamp b) && decide (stamp b ≤ x + w)) ≤
        stampedAfter stamp p (t.erase (key a)) (stamp a - w) := by
      refine List.countP_mono_left fun b _ hb => ?_
      simp only [Bool.and_eq_true, decide_eq_true_eq] at hb ⊢
      exact ⟨hb.1.1, lt_of_le_of_lt (sub_le_iff_le_add.2 hle) hb.1.2⟩
    have := hroom hp; omega
  · have hsame : (t.erase (key a)).rows.countP
        (fun b => p b && decide (x < stamp b) && decide (stamp b ≤ x + w)) ≤ limit :=
      (countP_erase_le t _ _).trans (h x)
    omega

end Quantbot.Core
