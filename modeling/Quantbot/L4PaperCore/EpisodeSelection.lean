import Quantbot.Core.Windows
import Quantbot.L4PaperCore.WalkForward
import Mathlib.Data.Int.ConditionallyCompleteOrder
import Mathlib.Order.CompletePartialOrder

/-!
# A largest selection

The procedures before the third version take the admitted rows in the order they end, each that
starts no earlier than the last one taken ended.

`selection_maximum`: no two of them intersect, each row left out intersects one of them, and no
rows that do not intersect are more. Windows that touch do not intersect.
-/
namespace Quantbot.L4.Procedure

open Core Learning

/-- The windows of two rows have an instant in common that neither ends with. -/
abbrev Intersect : OutcomeRow → OutcomeRow → Prop := Meet OutcomeRow.start OutcomeRow.finish

/-- The rows that are admitted and are of a session the policy takes rows of. -/
def eligible (h : Holds) (policy : LearningPolicy) (metadata : List Revision) (cutoff : Int) :
    List OutcomeRow :=
  let rows := screened h policy cutoff metadata
  rows.filter (·.session ∈ sessionsOf policy rows)

variable {h : Holds} {policy : LearningPolicy} {metadata : List Revision} {cutoff : Int}
  {days : List Int} {rows : List OutcomeRow}

theorem disjoint_greedy (hversion : policy.procedureVersion ≠ some explorationVersion) :
    (disjoint policy days rows).1 =
      greedy OutcomeRow.start OutcomeRow.finish none (rows.filter (·.session ∈ days)) := by
  have hrun : ∀ f : List OutcomeRow × List (String × String) → OutcomeRow → _,
      (∀ acc row, (f acc row).1 =
        if overlapReason policy days acc.1 row = none then acc.1 ++ [row] else acc.1) →
      ∀ acc, (rows.foldl f acc).1 = acc.1 ++ greedy OutcomeRow.start OutcomeRow.finish (acc.1.getLast?.map OutcomeRow.finish)
        (rows.filter (·.session ∈ days)) := by
    intro f hf
    induction rows with
    | nil => exact fun acc => (List.append_nil acc.1).symm
    | cons row rest ih =>
      intro acc; rw [List.foldl_cons, ih, hf, List.filter_cons]
      by_cases hday : row.session ∈ days
      · have hmap : (∃ last ∈ acc.1.getLast?.map OutcomeRow.finish, row.start < last) ↔
            ∃ last ∈ acc.1.getLast?, row.start < last.finish := by simp
        rw [if_pos (decide_eq_true hday)]
        by_cases hmeets : ∃ last ∈ acc.1.getLast?, row.start < last.finish
        · have hreason : overlapReason policy days acc.1 row ≠ none := by
            unfold overlapReason; rw [if_neg (not_not.2 hday), if_pos ⟨hversion, hmeets⟩]
            exact Option.some_ne_none _
          rw [if_neg hreason]
          exact congrArg _ (if_pos (hmap.2 hmeets)).symm
        · have hreason : overlapReason policy days acc.1 row = none := by
            unfold overlapReason; rw [if_neg (not_not.2 hday), if_neg fun h => hmeets h.2]
          rw [if_pos hreason, List.getLast?_concat, List.append_assoc]
          exact congrArg _ (if_neg (mt hmap.1 hmeets)).symm
      · simp [hday, overlapReason]
  refine hrun _ (fun acc row => ?_) ([], [])
  cases overlapReason policy days acc.1 row <;> rfl

/-- **The selection is a largest one** of rows that do not intersect. -/
theorem selection_maximum (h : Holds) (policy : LearningPolicy) (metadata : List Revision)
    (cutoff : Int) (hversion : policy.procedureVersion ≠ some explorationVersion) :
    let taken := (select h policy metadata cutoff).rows
    let rows := eligible h policy metadata cutoff
    taken ⊆ rows ∧ taken.Pairwise (fun a b => ¬ Intersect a b) ∧
      (∀ row ∈ rows, row ∉ taken → ∃ other ∈ taken, Intersect row other) ∧
      ∀ others ⊆ rows, others.Pairwise (fun a b => ¬ Intersect a b) →
        others.length ≤ taken.length := by
  obtain ⟨l, hl⟩ : ∃ l, l = ((screened h policy cutoff metadata).insertionSort Ended).filter
    (·.session ∈ sessionsOf policy (screened h policy cutoff metadata)) := ⟨_, rfl⟩
  have hselect : (select h policy metadata cutoff).rows = greedy _ _ none l :=
    hl ▸ disjoint_greedy hversion
  have hmem : ∀ row, row ∈ l ↔ row ∈ eligible h policy metadata cutoff := by
    simp [hl, eligible]
  have hwindows : ∀ row ∈ l, row.start < row.finish := by
    intro row hrow
    obtain ⟨r, -, hr⟩ := List.mem_filterMap.1 (List.mem_filter.1 ((hmem row).1 hrow)).1
    cases hscreen : screen h policy cutoff r with
    | error e =>
      rw [hscreen] at hr
      cases hr
    | ok row' =>
      rw [hscreen] at hr
      obtain rfl := Option.some.inj hr
      exact (screen_ok hscreen).2.2.2.2.2.2.2.1
  have hsorted : l.Pairwise fun a b => a.finish ≤ b.finish := by
    rw [hl]
    refine ((List.pairwise_insertionSort Ended _).imp fun {a b} hab => ?_).filter _
    rcases hab with hlt | ⟨heq, -⟩
    · exact hlt.le
    · exact heq.le
  dsimp only
  rw [hselect]
  refine ⟨fun row hrow => (hmem row).1 (greedy_subset hrow), (greedy_apart hwindows).2,
    fun row hrow hout => ?_, fun others hothers hapart => ?_⟩
  · have hmeets := greedy_meets hwindows hsorted ((hmem row).2 hrow) hout
    exact hmeets.resolve_left nofun
  · exact length_le_greedy hwindows hsorted (fun row hrow => (hmem row).2 (hothers hrow)) hapart
      nofun

/-- Two outcomes, the second starting where the first ends. -/
def touching : List Revision :=
  sampleRevisions.map fun r => { r with sourceStart := r.sourceEnd.map (· - 86400 * second) }

theorem selection_maximum_touching :
    (select sampleHolds {} touching (4 * 86400 * second)).rows.Pairwise
      fun a b => ¬ Intersect a b :=
  (selection_maximum sampleHolds {} touching (4 * 86400 * second) (by decide)).2.1

/-- Both are selected, and their windows have an instant in common when they hold their ends. -/
theorem touching_selected :
    ¬ (select sampleHolds {} touching (4 * 86400 * second)).rows.Pairwise fun a b =>
      Disjoint (Set.Icc a.start a.finish) (Set.Icc b.start b.finish) := by
  have hrows : (select sampleHolds {} touching (4 * 86400 * second)).rows.map
      (fun r => (r.start, r.finish)) = touching.map fun r =>
        (r.sourceStart.getD 0, r.sourceEnd.getD 0) := by decide
  rw [← List.pairwise_map (f := fun r : OutcomeRow => (r.start, r.finish))
    (R := fun a b => Disjoint (Set.Icc a.1 a.2) (Set.Icc b.1 b.2)), hrows]
  have hshared : ¬ Disjoint (Set.Icc (86400 * second - 300) (2 * 86400 * second - 300))
      (Set.Icc (2 * 86400 * second - 300) (3 * 86400 * second - 300)) :=
    Set.not_disjoint_iff.2 ⟨2 * 86400 * second - 300, by decide, by decide⟩
  exact fun h => hshared ((List.pairwise_cons.1 h).1 _ List.mem_cons_self)

end Quantbot.L4.Procedure
