import Mathlib.Data.List.Basic
import Mathlib.Order.Interval.Set.Basic
import Mathlib.Order.MinMax

/-!
# Windows

A log is read window by window. Where every window starts at or before the point the
windows before it reached, none of the log between the first start and the last end is
skipped, whatever the ends do: one may lie before the end of the window before it.

* `covered_concat`: one more window carries the covered interval to its own end.
* `length_le_greedy`: windows taken in the order they end, each that starts no earlier than
  the last one taken ended, are as many as any that do not meet.
-/
namespace Quantbot.Core

variable {α : Type*} [LinearOrder α]

/-- The points of some window. -/
def Covered (windows : List (α × α)) : Set α := {x | ∃ w ∈ windows, x ∈ Set.Icc w.1 w.2}

variable {windows : List (α × α)}

theorem mem_covered_concat {w : α × α} {x : α} :
    x ∈ Covered (windows ++ [w]) ↔ x ∈ Covered windows ∨ x ∈ Set.Icc w.1 w.2 := by
  simp [Covered, or_and_right, exists_or]

theorem covered_concat {a reached start stop : α}
    (hcov : Set.Icc a reached ⊆ Covered windows) (hstart : start ≤ max a reached) :
    Set.Icc a stop ⊆ Covered (windows ++ [(start, stop)]) := by
  intro x hx; rw [mem_covered_concat]; by_cases hr : x ≤ reached
  · exact .inl (hcov ⟨hx.1, hr⟩)
  refine .inr ⟨?_, hx.2⟩; rcases le_max_iff.1 hstart with ha | hb
  · exact ha.trans hx.1
  · exact hb.trans (le_of_not_ge hr)

section Greedy

variable {ι : Type*} (start finish : ι → α)

/-- The windows `[start, finish)` have a point in common. -/
def Meet (x y : ι) : Prop := start x < finish y ∧ start y < finish x

/-- The windows that start where the last one taken ended, or later. -/
def greedy : Option α → List ι → List ι
  | _, [] => []
  | reached, x :: rest =>
    if ∃ last ∈ reached, start x < last then greedy reached rest
    else x :: greedy (some (finish x)) rest

variable {start finish} {l m : List ι} {reached : Option α} {x : ι}

theorem greedy_subset : greedy start finish reached l ⊆ l := by
  induction l generalizing reached with
  | nil => exact List.Subset.refl _
  | cons x rest ih =>
    unfold greedy; split
    · exact List.subset_cons_of_subset x ih
    · exact List.cons_subset_cons x ih

variable (hl : ∀ x ∈ l, start x < finish x)
include hl

theorem greedy_apart : (∀ last ∈ reached, ∀ y ∈ greedy start finish reached l, last ≤ start y) ∧
    (greedy start finish reached l).Pairwise fun x y => ¬ Meet start finish x y := by
  induction l generalizing reached with
  | nil => exact ⟨fun _ _ _ hy => absurd hy List.not_mem_nil, .nil⟩
  | cons x rest ih =>
    obtain ⟨hx, hrest⟩ := List.forall_mem_cons.1 hl; unfold greedy; split
    · exact ih hrest
    next htaken =>
      obtain ⟨hafter, hpairs⟩ := @ih (some (finish x)) hrest
      have hlater := hafter _ rfl
      refine ⟨fun last hlast => List.forall_mem_cons.2 ?_, List.pairwise_cons.2 ⟨?_, hpairs⟩⟩
      · have hle : last ≤ start x := not_lt.1 fun hlt => htaken ⟨last, hlast, hlt⟩
        exact ⟨hle, fun y hy => hle.trans (hx.le.trans (hlater y hy))⟩
      · exact fun y hy hmeet => (hlater y hy).not_gt hmeet.2

variable (hsorted : l.Pairwise fun x y => finish x ≤ finish y)
include hsorted

/-- A window that is left out meets one that is taken. -/
theorem greedy_meets (hx : x ∈ l) (hout : x ∉ greedy start finish reached l) :
    (∃ last ∈ reached, start x < last) ∨
      ∃ y ∈ greedy start finish reached l, Meet start finish x y := by
  induction l generalizing reached with
  | nil => cases hx
  | cons first rest ih =>
    obtain ⟨hfirst, hrest⟩ := List.forall_mem_cons.1 hl
    obtain ⟨hends, hsorted⟩ := List.pairwise_cons.1 hsorted
    unfold greedy at hout ⊢; split at hout
    next hskip =>
      rw [if_pos hskip]; rcases List.mem_cons.1 hx with rfl | hx
      · exact .inl hskip
      · exact ih hrest hsorted hx hout
    next htaken =>
      rw [if_neg htaken]
      obtain ⟨hne, hout⟩ := not_or.1 (mt List.mem_cons.2 hout)
      have hx := (List.mem_cons.1 hx).resolve_left hne
      rcases ih hrest hsorted hx hout with ⟨_, ⟨⟩, hlt⟩ | ⟨y, hy, hmeet⟩
      · exact .inr ⟨first, List.mem_cons_self, hlt, hfirst.trans_le (hends x hx)⟩
      · exact .inr ⟨y, List.mem_cons_of_mem _ hy, hmeet⟩

/-- **No windows that do not meet are more**: of them one at most starts before the first end,
and the others fit in what follows it. -/
theorem length_le_greedy (hm : m ⊆ l) (hapart : m.Pairwise fun x y => ¬ Meet start finish x y)
    (hafter : ∀ last ∈ reached, ∀ y ∈ m, last ≤ start y) :
    m.length ≤ (greedy start finish reached l).length := by
  induction l generalizing reached m with
  | nil => simp [List.subset_nil.1 hm]
  | cons x rest ih =>
    obtain ⟨hx, hrest⟩ := List.forall_mem_cons.1 hl
    obtain ⟨hends, hsorted⟩ := List.pairwise_cons.1 hsorted; unfold greedy
    split
    next hskip =>
      obtain ⟨last, hlast, hlt⟩ := hskip
      refine ih hrest hsorted (fun y hy => (List.mem_cons.1 (hm hy)).resolve_left ?_) hapart hafter
      rintro rfl; exact (hafter last hlast y hy).not_gt hlt
    next htaken =>
      have hends : ∀ y ∈ m, finish x ≤ finish y := by
        intro y hy; rcases List.mem_cons.1 (hm hy) with rfl | hy
        · exact le_rfl
        · exact hends y hy
      have hfew : (m.filter fun y => start y < finish x).length ≤ 1 := by
        have hpairs := hapart.filter fun y => start y < finish x
        have hmem : ∀ y ∈ m.filter (fun y => start y < finish x), y ∈ m ∧ start y < finish x := by
          simp
        generalize m.filter (fun y => start y < finish x) = early at hpairs hmem
        match early with
        | [] => exact Nat.zero_le 1
        | [_] => exact le_rfl
        | y :: z :: _ =>
          obtain ⟨hy, hstart⟩ := hmem y (by simp)
          obtain ⟨hz, hstart'⟩ := hmem z (by simp)
          exact absurd ⟨hstart.trans_le (hends z hz), hstart'.trans_le (hends y hy)⟩
            ((List.pairwise_cons.1 hpairs).1 z (by simp))
      have hlate : (m.filter fun y => ! decide (start y < finish x)).length ≤
          (greedy start finish (some (finish x)) rest).length := by
        refine ih hrest hsorted (fun y hy => ?_) (hapart.filter _) ?_
        · obtain ⟨hy, hlate⟩ := List.mem_filter.1 hy
          refine (List.mem_cons.1 (hm hy)).resolve_left ?_; rintro rfl
          simp [hx] at hlate
        · rintro _ ⟨⟩ y hy; simpa using (List.mem_filter.1 hy).2
      have hsplit := List.length_eq_length_filter_add (l := m) fun y => decide (start y < finish x)
      rw [List.length_cons]; omega

end Greedy

end Quantbot.Core
