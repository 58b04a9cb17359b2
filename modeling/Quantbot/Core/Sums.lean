import Mathlib.Algebra.Order.BigOperators.Group.List
import Mathlib.Algebra.Order.Ring.Nat
import Mathlib.Data.List.Perm.Subperm

/-!
# Sums over distinct rows

Rows of a table are distinct, so the sum of a column over some of them is at most the
sum over more of them (`sum_le_of_subset`), and where the two agree on a positive column
there were no more (`subset_of_sum_le`). A total is the sum of the totals of the groups
(`sum_groups`). Rows and totals counted at once agree only when
both are the same throughout (`counted_eq_iff`).
-/
namespace Quantbot.Core

universe u v

variable {α : Type u} {M : Type v} [AddCommGroup M] [LinearOrder M] [IsOrderedAddMonoid M]
  {f g : α → M} {l l' : List α}

theorem sum_le_of_subset (hl : l.Nodup) (h : ∀ a ∈ l, a ∈ l') (hf : ∀ a ∈ l', 0 ≤ f a) :
    (l.map f).sum ≤ (l'.map f).sum := by
  obtain ⟨k, hperm, hsub⟩ := hl.subperm h
  calc (l.map f).sum = (k.map f).sum := (hperm.map f).sum_eq.symm
    _ ≤ (l'.map f).sum := by
      refine (hsub.map f).sum_le_sum fun b hb => ?_
      obtain ⟨a, ha, rfl⟩ := List.mem_map.1 hb; exact hf a ha

theorem sum_le_of_subset_of_le (hl : l.Nodup) (h : ∀ a ∈ l, a ∈ l') (hle : ∀ a ∈ l, f a ≤ g a)
    (hg : ∀ a ∈ l', 0 ≤ g a) : (l.map f).sum ≤ (l'.map g).sum :=
  (List.sum_le_sum hle).trans (sum_le_of_subset hl h hg)

theorem subset_of_sum_le (hl : l.Nodup) (h : ∀ a ∈ l, a ∈ l') (hf : ∀ a ∈ l', 0 < f a)
    (hle : (l'.map f).sum ≤ (l.map f).sum) {a : α} (ha : a ∈ l') : a ∈ l := by
  by_contra hnot
  have hmore : ((a :: l).map f).sum ≤ (l'.map f).sum := by
    refine sum_le_of_subset (List.nodup_cons.2 ⟨hnot, hl⟩) (fun b hb => ?_) fun b hb => (hf b hb).le
    rcases List.mem_cons.1 hb with rfl | hb
    · exact ha
    · exact h b hb
  exact absurd (hmore.trans hle) (not_le.2 (lt_add_of_pos_left _ (hf a ha)))

section Groups

variable {α : Type u} {M : Type v} [AddCommMonoid M] {κ : Type} [DecidableEq κ]

theorem sum_groups {key : α → κ} {f : α → M} {keys : List κ} {l : List α} (hkeys : keys.Nodup)
    (h : ∀ a ∈ l, key a ∈ keys) :
    (keys.map fun k => ((l.filter fun a => decide (key a = k)).map f).sum).sum = (l.map f).sum := by
  induction keys generalizing l with
  | nil =>
    cases l with
    | nil => rfl
    | cons a l => exact nomatch h a List.mem_cons_self
  | cons k keys ih =>
    obtain ⟨hk, hkeys⟩ := List.nodup_cons.1 hkeys
    let rest := l.filter fun a => !decide (key a = k)
    have hgroup : ∀ k' ∈ keys, ((l.filter fun a => decide (key a = k')).map f).sum =
        ((rest.filter fun a => decide (key a = k')).map f).sum := by
      intro k' hk'; rw [List.filter_filter]; congr 2
      refine List.filter_congr fun a _ => ?_; by_cases ha : key a = k'
      · have hne : key a ≠ k := fun he => hk (by rwa [← he, ha])
        rw [decide_eq_true ha, decide_eq_false hne]; rfl
      · rw [decide_eq_false ha]; rfl
    have hrest : ∀ a ∈ rest, key a ∈ keys := by
      intro a ha; obtain ⟨hal, hne⟩ := List.mem_filter.1 ha
      rcases List.mem_cons.1 (h a hal) with he | hin
      · rw [he, decide_eq_true rfl] at hne; cases hne
      · exact hin
    have hsplit : ((l.filter fun a => decide (key a = k)) ++ rest).Perm l :=
      List.filter_append_perm _ l
    rw [List.map_cons, List.sum_cons, List.map_congr_left hgroup, ih hkeys hrest,
      ← List.sum_append, ← List.map_append, (hsplit.map f).sum_eq]

end Groups

section Counted
variable {α : Type u} {l l' : List α}

/-- Some of the rows and part of the column: the count and the total are the whole ones only
if no row and nothing of the column is missing. -/
theorem counted_eq_iff {f g : α → ℕ} (hl : l.Nodup) (hl' : l'.Nodup) (h : ∀ a ∈ l, a ∈ l')
    (hgf : ∀ a ∈ l', g a ≤ f a) : (l'.length = l.length ∧ (l'.map f).sum = (l.map g).sum) ↔
      (∀ a ∈ l', a ∈ l) ∧ ∀ a ∈ l', g a = f a := by
  constructor
  · rintro ⟨hlen, hsum⟩
    have hperm : l.Perm l' := (hl.subperm h).perm_of_length_le hlen.le
    refine ⟨fun a ha => hperm.mem_iff.2 ha, ?_⟩; intro a ha; by_contra hne
    have hlt : (l'.map g).sum < (l'.map f).sum :=
      List.sum_lt_sum g f hgf ⟨a, ha, lt_of_le_of_ne (hgf a ha) hne⟩
    rw [hsum, (hperm.map g).sum_eq] at hlt; exact lt_irrefl _ hlt
  · rintro ⟨hmem, hval⟩
    have hperm : l.Perm l' := (hl.subperm h).antisymm (hl'.subperm hmem)
    refine ⟨hperm.length_eq.symm, ?_⟩; rw [(hperm.map g).sum_eq]
    exact congrArg List.sum (List.map_congr_left fun a ha => (hval a ha).symm)

variable {p q : α → Bool}

/-- A narrower test counts as many rows only where the wider one never holds alone. -/
theorem countP_eq_iff (hpq : ∀ a ∈ l, p a = true → q a = true) :
    l.countP p = l.countP q ↔ ∀ a ∈ l, q a = true → p a = true := by
  constructor
  · intro heq a ha hq; by_contra hp
    have hlt : l.countP p < l.countP q := by
      obtain ⟨before, after, rfl⟩ := List.append_of_mem ha
      have hbefore := List.countP_mono_left fun b hb => hpq b (List.mem_append_left _ hb)
      have hafter := List.countP_mono_left fun b hb =>
        hpq b (List.mem_append_right _ (List.mem_cons_of_mem _ hb))
      rw [List.countP_append, List.countP_append, List.countP_cons_of_neg hp,
        List.countP_cons_of_pos hq]
      omega
    omega
  · intro hqp; exact List.countP_congr fun a ha => ⟨hpq a ha, hqp a ha⟩

/-- A narrower test sums less, where the wider one alone holds of something that counts. -/
theorem sum_filter_le {f : α → ℕ} (hpq : ∀ a, p a = true → q a = true) :
    ((l.filter p).map f).sum ≤ ((l.filter q).map f).sum :=
  ((List.monotone_filter_right l hpq).map f).sum_le_sum fun _ _ => Nat.zero_le _

theorem sum_filter_lt {f : α → ℕ} (hpq : ∀ a, p a = true → q a = true) {a : α}
    (ha : a ∈ l) (hq : q a = true) (hp : p a = false) (hf : 0 < f a) :
    ((l.filter p).map f).sum < ((l.filter q).map f).sum := by
  induction l with
  | nil => cases ha
  | cons b l ih =>
    rcases List.mem_cons.1 ha with rfl | hmem
    · have hrest := sum_filter_le (l := l) (f := f) hpq
      rw [List.filter_cons_of_neg (by simp [hp]), List.filter_cons_of_pos hq, List.map_cons,
        List.sum_cons]
      omega
    have hrest := ih hmem; by_cases hb : p b = true
    · rw [List.filter_cons_of_pos hb, List.filter_cons_of_pos (hpq b hb), List.map_cons,
        List.map_cons, List.sum_cons, List.sum_cons]
      omega
    rw [List.filter_cons_of_neg hb]; by_cases hbq : q b = true
    · rw [List.filter_cons_of_pos hbq, List.map_cons, List.sum_cons]; omega
    · rw [List.filter_cons_of_neg hbq]; exact hrest

end Counted

end Quantbot.Core
