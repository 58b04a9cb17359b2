import Mathlib.Data.Finset.Card
import Mathlib.Tactic.Ring
import Mathlib.Tactic.Tauto
import Quantbot.Core.LTS
import Quantbot.L3Research.Registry

/-!
# The multiple-testing burden over runs

Search runs, intraday attempts, campaign freezes, registrations, artifact tests and moves of
windows in any order, each one transaction.

* `burden_counts_once`: `cumulative_trials` never falls; a registration and an artifact test are
  judged against what it is once they are stored; an intraday attempt spares one
  registration its charge and no other after it; a campaign frozen again is charged
  nothing, another one is charged one trial.
-/
namespace Quantbot.L3.Registry

open Core Txn L2

variable {contentId : ContentId}

/-! ## The figure behind the count -/

/-- What the rows of a namespace evaluated. -/
def spentIn (ns : String) (s : RegistryStore) : Nat :=
  ((rowsIn ns s.searchRuns.rows).map (·.candidatesEvaluated)).sum

def attemptIds (s : RegistryStore) : List String :=
  (rowsIn intradayNamespace s.searchRuns.rows).map (·.searchId)

/-- The search runs measured registrations cite. -/
def citedRuns (s : RegistryStore) : List String :=
  (s.hypotheses.rows.filter fun r => r.searchOrigin = .measured).filterMap fun r =>
    r.document.draft.searchRunId

def linkedIds (s : RegistryStore) : List String :=
  ((citedRuns s).filter fun id => id ∈ attemptIds s).dedup

/-- The burden, whatever the checks of the count say. -/
def burden (s : RegistryStore) : Int :=
  priorTrials + hypothesisSpend s + artifactSpend s + spentIn validationNamespace s +
    spentIn learnerNamespace s + ((attemptIds s).length - (linkedIds s).length)

/-- The checks of the count pass. -/
structure Countable (contentId : ContentId) (s : RegistryStore) : Prop where
  intraday : ∀ r ∈ rowsIn intradayNamespace s.searchRuns.rows, verifyIntradayRow r = true
  linked : attemptIds s = [] ∨ ∀ r ∈ s.hypotheses.rows, r.searchOrigin = .measured →
    contentId (.registration r.document) = r.contentHash ∧
      r.document.draft.searchOrigin = r.searchOrigin ∧
      r.document.draft.searchCardinality = r.searchCardinality
  campaigns : ∀ r ∈ rowsIn validationNamespace s.searchRuns.rows,
    campaignTrial contentId s.windows r = .ok r.candidatesEvaluated
  learners : ∀ r ∈ learnerRows s.searchRuns.rows, learnerErrors r = []

variable {n : Nat}

theorem sumOk_ok {α : Type} {f : α → Except RefusalReason Nat} {g : α → Nat}
    (hfg : ∀ a n, f a = .ok n → n = g a) {l : List α} :
    sumOk f l = .ok n ↔ (∀ a ∈ l, f a = .ok (g a)) ∧ n = (l.map g).sum := by
  induction l generalizing n with
  | nil =>
    show Except.ok 0 = Except.ok n ↔ _; rw [Except.ok.injEq]
    exact ⟨fun h => ⟨fun a ha => (by cases ha), h.symm⟩, fun h => h.2.symm⟩
  | cons a l ih =>
    unfold sumOk; rw [except_bind_ok]; constructor
    · intro ⟨k, hk, h⟩; obtain ⟨m, hm, h⟩ := except_bind_ok.1 h; cases h
      obtain ⟨hall, rfl⟩ := ih.1 hm; have hg := hfg a k hk; subst hg
      refine ⟨fun b hb => ?_, by rw [List.map_cons, List.sum_cons]⟩
      rcases List.mem_cons.1 hb with rfl | hb
      · exact hk
      · exact hall b hb
    · intro ⟨hall, hn⟩
      refine ⟨g a, hall a List.mem_cons_self, except_bind_ok.2 ⟨(l.map g).sum, ?_, ?_⟩⟩
      · exact ih.2 ⟨fun b hb => hall b (List.mem_cons_of_mem _ hb), rfl⟩
      · rw [hn, List.map_cons, List.sum_cons]; rfl

variable {r : SearchRun}

theorem campaignTrial_ok {t : Windows} (h : campaignTrial contentId t r = .ok n) :
    n = r.candidatesEvaluated := by
  unfold campaignTrial at h; split at h
  · split at h
    · cases h
    obtain ⟨_, _, h⟩ := except_bind_ok.1 h
    obtain ⟨_, _, h⟩ := except_bind_ok.1 h; cases h; rfl
  · cases h

variable {s t : RegistryStore}

theorem campaignTrialsSpent_ok : campaignTrialsSpent contentId s = .ok n ↔
      (∀ r ∈ rowsIn validationNamespace s.searchRuns.rows,
        campaignTrial contentId s.windows r = .ok r.candidatesEvaluated) ∧
      n = spentIn validationNamespace s :=
  sumOk_ok fun _ _ h => campaignTrial_ok h

theorem verifiedIntradayAttemptIds_ok {ids : List String} :
    verifiedIntradayAttemptIds s.searchRuns.rows = .ok ids ↔
      (∀ r ∈ rowsIn intradayNamespace s.searchRuns.rows, verifyIntradayRow r = true) ∧
        ids = attemptIds s := by
  unfold verifiedIntradayAttemptIds attemptIds; rw [← List.all_eq_true]; split
  · rename_i h; rw [Except.ok.injEq]
    exact ⟨fun heq => ⟨h, heq.symm⟩, fun heq => heq.2.symm⟩
  · rename_i h; exact ⟨nofun, fun heq => absurd heq.1 h⟩

theorem linkedAttempts_ok {linked : List String} :
    linkedAttempts contentId s.hypotheses.rows (attemptIds s) = .ok linked ↔
      (attemptIds s = [] ∨ ∀ r ∈ s.hypotheses.rows, r.searchOrigin = .measured →
        contentId (.registration r.document) = r.contentHash ∧
          r.document.draft.searchOrigin = r.searchOrigin ∧
          r.document.draft.searchCardinality = r.searchCardinality) ∧ linked = linkedIds s := by
  unfold linkedAttempts; dsimp only; split
  · rename_i hnone
    have hlinked : linkedIds s = [] := by
      unfold linkedIds; rw [hnone]; simp
    simp [hnone, hlinked, eq_comm]
  · rename_i hsome; split
    · rename_i hall
      simp only [List.all_eq_true, List.mem_filter, decide_eq_true_eq, and_imp] at hall
      simp only [hsome, false_or, Except.ok.injEq]
      exact ⟨fun h => ⟨hall, h.symm⟩, fun h => h.2.symm⟩
    · rename_i hall
      simp only [List.all_eq_true, List.mem_filter, decide_eq_true_eq, and_imp] at hall
      simp only [hsome, false_or]; exact ⟨nofun, fun h => absurd h.1 hall⟩

theorem learnerTrialsSpent_ok : learnerTrialsSpent s.searchRuns.rows = some n ↔
      (∀ r ∈ learnerRows s.searchRuns.rows, learnerErrors r = []) ∧
        n = spentIn learnerNamespace s := by
  unfold learnerTrialsSpent spentIn
  simp only [List.all_eq_true, List.isEmpty_iff]; split
  · rename_i h; rw [Option.some.injEq]
    exact ⟨fun heq => ⟨h, heq.symm⟩, fun heq => heq.2.symm⟩
  · rename_i h; exact ⟨nofun, fun heq => absurd heq.1 h⟩

variable {n : Int}

/-- What the count answers: nothing unless its checks pass, and then the burden. -/
theorem cumulativeTrials_ok {card : Nat} {incoming : Option HypothesisDraft} :
    cumulativeTrials contentId s card incoming = .ok n ↔ Countable contentId s ∧
      n = burden s - incomingCredit incoming (attemptIds s) (linkedIds s) + card := by
  constructor
  · intro h; obtain ⟨prepaid, hprepaid, h⟩ := except_bind_ok.1 h
    obtain ⟨hintraday, rfl⟩ := verifiedIntradayAttemptIds_ok.1 hprepaid
    obtain ⟨linked, hlinked, h⟩ := except_bind_ok.1 h
    obtain ⟨hconsistent, rfl⟩ := linkedAttempts_ok.1 hlinked
    obtain ⟨campaigns, hcampaigns, h⟩ := except_bind_ok.1 h
    obtain ⟨hrows, rfl⟩ := campaignTrialsSpent_ok.1 hcampaigns
    cases hlearners : learnerTrialsSpent s.searchRuns.rows with
    | none =>
      rw [hlearners] at h; cases h
    | some learners =>
      rw [hlearners] at h
      obtain ⟨hclean, rfl⟩ := learnerTrialsSpent_ok.1 hlearners; cases h
      refine ⟨⟨hintraday, hconsistent, hrows, hclean⟩, ?_⟩; unfold burden; ring
  · rintro ⟨hc, rfl⟩
    refine except_bind_ok.2 ⟨_, verifiedIntradayAttemptIds_ok.2 ⟨hc.intraday, rfl⟩, ?_⟩
    refine except_bind_ok.2 ⟨_, linkedAttempts_ok.2 ⟨hc.linked, rfl⟩, ?_⟩
    refine except_bind_ok.2 ⟨_, campaignTrialsSpent_ok.2 ⟨hc.campaigns, rfl⟩, ?_⟩
    rw [learnerTrialsSpent_ok.2 ⟨hc.learners, rfl⟩]
    show Except.ok _ = Except.ok _; congr 1; unfold burden; ring

/-! ## One row at a time -/

/-- The attempts no registration has been charged for. -/
def unpaid (s : RegistryStore) : List String :=
  (attemptIds s).filter fun id => id ∉ citedRuns s

theorem attemptIds_nodup (s : RegistryStore) : (attemptIds s).Nodup :=
  (List.filter_sublist.map _).nodup s.searchRuns.nodup

variable {id : String}

theorem mem_linkedIds : id ∈ linkedIds s ↔ id ∈ citedRuns s ∧ id ∈ attemptIds s := by
  unfold linkedIds; rw [List.mem_dedup, List.mem_filter, decide_eq_true_eq]

theorem unpaid_length (s : RegistryStore) :
    ((unpaid s).length : Int) = (attemptIds s).length - (linkedIds s).length := by
  have hperm : ((attemptIds s).filter fun id => id ∈ citedRuns s).Perm (linkedIds s) := by
    refine (List.perm_ext_iff_of_nodup ((attemptIds_nodup s).filter _) ?_).2 fun id => ?_
    · exact List.nodup_dedup _
    · rw [mem_linkedIds, List.mem_filter, decide_eq_true_eq, and_comm]
  have hsplit := List.length_eq_length_filter_add (l := attemptIds s)
    (fun id => decide (id ∈ citedRuns s))
  have hrest : (unpaid s).length =
      ((attemptIds s).filter fun id => !decide (id ∈ citedRuns s)).length := by
    unfold unpaid; simp only [decide_not]
  rw [hperm.length_eq] at hsplit; omega

theorem burden_eq (s : RegistryStore) : burden s = priorTrials + hypothesisSpend s +
    artifactSpend s + spentIn validationNamespace s + spentIn learnerNamespace s +
    (unpaid s).length := by
  rw [unpaid_length]; rfl

/-- What a row of the search ledger adds. -/
def rowCharge (s : RegistryStore) (r : SearchRun) : Nat :=
  (if like r.searchId validationNamespace then r.candidatesEvaluated else 0) +
    (if like r.searchId learnerNamespace then r.candidatesEvaluated else 0) +
    (if like r.searchId intradayNamespace ∧ r.searchId ∉ citedRuns s then 1 else 0)

theorem rowsIn_insert {t : SearchRuns} (ns : String) (h : t.get? r.searchId = none) :
    rowsIn ns (t.insert r).rows = rowsIn ns t.rows ++ if like r.searchId ns then [r] else [] := by
  rw [Table.insert_rows h, rowsIn_append]; congr 1; unfold rowsIn
  rw [List.filter_singleton]; cases like r.searchId ns <;> rfl

theorem spentIn_insert (ns : String) (h : s.searchRuns.get? r.searchId = none) :
    spentIn ns { s with searchRuns := s.searchRuns.insert r } =
      spentIn ns s + if like r.searchId ns then r.candidatesEvaluated else 0 := by
  unfold spentIn
  rw [rowsIn_insert ns h, List.map_append, List.sum_append]
  congr 1
  split
  · rw [List.map_singleton, List.sum_singleton]
  · rfl

theorem unpaid_insert (h : s.searchRuns.get? r.searchId = none) :
    (unpaid { s with searchRuns := s.searchRuns.insert r }).length = (unpaid s).length +
      if like r.searchId intradayNamespace ∧ r.searchId ∉ citedRuns s then 1 else 0 := by
  have hcited : citedRuns { s with searchRuns := s.searchRuns.insert r } = citedRuns s := rfl
  unfold unpaid attemptIds
  rw [hcited, rowsIn_insert _ h, List.map_append, List.filter_append, List.length_append]
  congr 1
  by_cases hl : like r.searchId intradayNamespace = true <;>
    by_cases hc : r.searchId ∈ citedRuns s <;> simp [hl, hc]

theorem burden_insertSearchRun (h : s.searchRuns.get? r.searchId = none) :
    burden { s with searchRuns := s.searchRuns.insert r } = burden s + rowCharge s r := by
  have hhyp : hypothesisSpend { s with searchRuns := s.searchRuns.insert r } =
    hypothesisSpend s := rfl
  have hart : artifactSpend { s with searchRuns := s.searchRuns.insert r } =
    artifactSpend s := rfl
  rw [burden_eq, burden_eq, hhyp, hart, spentIn_insert _ h, spentIn_insert _ h, unpaid_insert h]
  unfold rowCharge; push_cast; ring

/-- A draft an attempt has been charged for, that no registration was spared for. -/
def Prepaid (s : RegistryStore) (d : HypothesisDraft) : Prop :=
  d.searchOrigin = .measured ∧ ∃ id ∈ d.searchRunId, id ∈ unpaid s
deriving Decidable

theorem mem_unpaid : id ∈ unpaid s ↔ id ∈ attemptIds s ∧ id ∉ citedRuns s := by
  unfold unpaid; rw [List.mem_filter, decide_eq_true_eq]

theorem incomingCredit_eq (s : RegistryStore) (d : HypothesisDraft) :
    incomingCredit (some d) (attemptIds s) (linkedIds s) = if Prepaid s d then 1 else 0 := by
  have hiff : (∃ e ∈ some d, e.searchOrigin = .measured ∧ ∃ id ∈ e.searchRunId,
      id ∈ attemptIds s ∧ id ∉ linkedIds s) ↔ Prepaid s d := by
    constructor
    · rintro ⟨e, he, hm, id, hid, hin, hnot⟩; cases he
      exact ⟨hm, id, hid, mem_unpaid.2 ⟨hin, fun hc => hnot (mem_linkedIds.2 ⟨hc, hin⟩)⟩⟩
    · intro ⟨hm, id, hid, hin⟩; obtain ⟨ha, hc⟩ := mem_unpaid.1 hin
      exact ⟨d, rfl, hm, id, hid, ha, fun hl => hc (mem_linkedIds.1 hl).1⟩
  exact if_congr hiff rfl rfl

theorem citedRuns_insert {r : HypothesisRow}
    (h : s.hypotheses.get? (r.hypothesisId, r.version) = none)
    (h' : s.hypotheses.getAlt? r.contentHash = none) :
    citedRuns { s with hypotheses := s.hypotheses.insert r } = citedRuns s ++
      if r.searchOrigin = .measured then r.document.draft.searchRunId.toList else [] := by
  unfold citedRuns
  rw [UTable.insert_toTable h h', Table.insert_rows h, List.filter_append, List.filterMap_append]
  congr 1
  by_cases hm : r.searchOrigin = .measured
  · cases hid : r.document.draft.searchRunId <;> simp [hm, hid]
  · simp [hm]

theorem unpaid_insertHypothesis {r : HypothesisRow}
    (h : s.hypotheses.get? (r.hypothesisId, r.version) = none)
    (h' : s.hypotheses.getAlt? r.contentHash = none)
    (horigin : r.document.draft.searchOrigin = r.searchOrigin) :
    ((unpaid { s with hypotheses := s.hypotheses.insert r }).length : Int) =
      (unpaid s).length - if Prepaid s r.document.draft then 1 else 0 := by
  have hattempts : attemptIds { s with hypotheses := s.hypotheses.insert r } = attemptIds s := rfl
  by_cases hp : Prepaid s r.document.draft
  · have ⟨hm, id, hid, hin⟩ := hp
    have hnodup : (unpaid s).Nodup := (attemptIds_nodup s).filter _
    have hrest : unpaid { s with hypotheses := s.hypotheses.insert r } = (unpaid s).erase id := by
      rw [hnodup.erase_eq_filter]
      unfold unpaid
      rw [hattempts, citedRuns_insert h h', if_pos (horigin ▸ hm), hid, List.filter_filter]
      refine List.filter_congr fun x _ => ?_
      by_cases hx : x = id <;> simp [hx]
    have hpos := List.length_pos_of_mem hin
    rw [hrest, List.length_erase_of_mem hin, if_pos hp]
    omega
  · have hrest : unpaid { s with hypotheses := s.hypotheses.insert r } = unpaid s := by
      unfold unpaid
      rw [hattempts, citedRuns_insert h h']
      refine List.filter_congr fun x hx => ?_
      split
      · rename_i hm
        have hnot : x ∉ citedRuns s → x ∉ r.document.draft.searchRunId.toList := fun hc hid =>
          hp ⟨horigin.trans hm, x, by simpa using hid, mem_unpaid.2 ⟨hx, hc⟩⟩
        simp only [List.mem_append, decide_eq_decide]
        tauto
      · rw [List.append_nil]
    rw [hrest, if_neg hp]
    omega

/-- What a registration adds: its own search, less the charge already made for it. -/
theorem burden_insertHypothesis {r : HypothesisRow}
    (h : s.hypotheses.get? (r.hypothesisId, r.version) = none)
    (h' : s.hypotheses.getAlt? r.contentHash = none)
    (horigin : r.document.draft.searchOrigin = r.searchOrigin) :
    burden { s with hypotheses := s.hypotheses.insert r } = burden s + r.searchCardinality -
      if Prepaid s r.document.draft then 1 else 0 := by
  have hrows : (s.hypotheses.insert r).rows = s.hypotheses.rows ++ [r] := by
    rw [UTable.insert_toTable h h', Table.insert_rows h]
  have hspend : hypothesisSpend { s with hypotheses := s.hypotheses.insert r } =
      hypothesisSpend s + r.searchCardinality := by
    unfold hypothesisSpend
    simp only [hrows, List.map_append, List.sum_append, List.map_cons, List.map_nil,
      List.sum_cons, List.sum_nil, Nat.add_zero]
  have hart : artifactSpend { s with hypotheses := s.hypotheses.insert r } = artifactSpend s := rfl
  have hns : ∀ ns, spentIn ns { s with hypotheses := s.hypotheses.insert r } = spentIn ns s :=
    fun _ => rfl
  rw [burden_eq, burden_eq, hspend, hart, hns, hns, unpaid_insertHypothesis h h' horigin]
  push_cast
  ring

theorem burden_insertArtifactTest {r : ArtifactTestRow} (h : s.artifactTests.get? r.testId = none)
    (h' : s.artifactTests.getAlt? r.contentHash = none) :
    burden { s with artifactTests := s.artifactTests.insert r } = burden s + 1 := by
  have hspend : artifactSpend { s with artifactTests := s.artifactTests.insert r } =
      artifactSpend s + 1 := by
    unfold artifactSpend
    rw [UTable.insert_toTable h h', Table.insert_rows h, List.map_append, List.sum_append,
      List.map_singleton, List.sum_singleton, r.one]
  have hhyp : hypothesisSpend { s with artifactTests := s.artifactTests.insert r } =
    hypothesisSpend s := rfl
  have hns : ∀ ns, spentIn ns { s with artifactTests := s.artifactTests.insert r } =
    spentIn ns s := fun _ => rfl
  have hunpaid : unpaid { s with artifactTests := s.artifactTests.insert r } = unpaid s := rfl
  rw [burden_eq, burden_eq, hspend, hhyp, hns, hns, hunpaid]; push_cast; ring

/-! ## What a call leaves -/

theorem campaignTrial_congr {t t' : Windows} (h : consumedOverlaps t = consumedOverlaps t')
    (r : SearchRun) : campaignTrial contentId t r = campaignTrial contentId t' r := by
  unfold campaignTrial verifyCampaignRow verifyPredatesConsumption; rw [h]

theorem insertWindows_ok {ws : List WindowRow} {u : PUnit} (h : insertWindows ws s = .ok u t) :
    t = { s with windows := t.windows } ∧ t.windows.rows = s.windows.rows ++ ws := by
  induction ws generalizing s with
  | nil =>
    obtain ⟨_, rfl⟩ := pure_ok.1 h; exact ⟨rfl, (List.append_nil _).symm⟩
  | cons w ws ih =>
    unfold insertWindows at h; split at h
    · rename_i hnew; obtain ⟨heq, hrows⟩ := ih h; refine ⟨heq, ?_⟩
      rw [hrows, Table.insert_rows hnew, List.append_assoc]; rfl
    · cases h

theorem consumedOverlaps_append {t t' : Windows} {ws : List WindowRow}
    (h : t'.rows = t.rows ++ ws) (hws : ∀ w ∈ ws, w.state = .reserved) :
    consumedOverlaps t' = consumedOverlaps t := by
  funext c dataset; refine List.flatMap_congr fun scenario _ => ?_
  rw [h, List.filter_append]
  have hnone : (ws.filter fun w => w.dataset = dataset ∧ w.state = .consumed ∧
      w.overlaps scenario.periodStart scenario.periodEnd) = [] := by
    rw [List.filter_eq_nil_iff]; intro w hw hc; have hreserved := hws w hw
    simp only [decide_eq_true_eq] at hc; rw [hreserved] at hc; cases hc.2.1
  rw [hnone, List.append_nil]

variable {d : HypothesisDraft} {now : Int} {i : RegisterInputs}

theorem judge_ok {r : Registration} (h : judge contentId d i now s = .ok r) : r.draft = d ∧
      verifyMeasuredSearch s d = true ∧
      cumulativeTrials contentId s d.searchCardinality (some d) = .ok r.cumulativeTrials := by
  unfold judge at h; split at h; · cases h
  split at h; · cases h
  split at h; · cases h
  split at h; · cases h
  split at h; · cases h
  split at h; · cases h
  split at h; · cases h
  rename_i hmeasured; obtain ⟨_, _, h⟩ := except_bind_ok.1 h
  obtain ⟨trials, htrials, h⟩ := except_bind_ok.1 h; split at h; · cases h
  split at h; · cases h
  cases h; exact ⟨rfl, by simpa using hmeasured, htrials⟩

/-- What a registration stores: its row and its reserved windows. -/
structure Registered (contentId : ContentId) (s : RegistryStore) (r : Registration)
    (t : RegistryStore) : Prop where
  fresh : s.hypotheses.get? (r.draft.hypothesisId, r.draft.version) = none
  freshHash : s.hypotheses.getAlt? (contentId (.registration r)) = none
  stored : t =
    { s with hypotheses := s.hypotheses.insert (r.row contentId), windows := t.windows }
  overlaps : consumedOverlaps t.windows = consumedOverlaps s.windows

theorem register_ok {r : Registration} (h : register contentId d i now s = .ok r t) :
    judge contentId d i now s = .ok r ∧ Registered contentId s r t := by
  unfold register at h; rw [bind_ok] at h; obtain ⟨r', s₀, hjudge, h⟩ := h
  obtain ⟨hjudge, rfl⟩ := reads_ok.1 hjudge; rw [bind_ok] at h
  obtain ⟨_, s₁, hinsert, h⟩ := h; obtain ⟨rfl, rfl⟩ := pure_ok.1 h
  unfold insertRegistration at hinsert; rw [bind_ok] at hinsert
  obtain ⟨_, s₂, hrow, hwindows⟩ := hinsert; unfold insertHypothesis at hrow
  split at hrow
  · rename_i hnew; obtain ⟨rfl⟩ := hrow
    obtain ⟨heq, hrows⟩ := insertWindows_ok hwindows
    refine ⟨hjudge, hnew.1, hnew.2, heq, consumedOverlaps_append hrows fun w hw => ?_⟩
    obtain ⟨x, _, rfl⟩ := List.mem_map.1 hw; rfl
  · cases hrow

theorem cumulativeTrials_now :
    cumulativeTrials contentId s 0 none = .ok n ↔ Countable contentId s ∧ n = burden s := by
  rw [cumulativeTrials_ok]
  have hzero : incomingCredit none (attemptIds s) (linkedIds s) = 0 := by
    unfold incomingCredit; simp
  rw [hzero]; simp

theorem cumulativeTrials_incoming :
    cumulativeTrials contentId s d.searchCardinality (some d) = .ok n ↔ Countable contentId s ∧
      n = burden s + d.searchCardinality - if Prepaid s d then 1 else 0 := by
  rw [cumulativeTrials_ok, incomingCredit_eq]
  refine and_congr_right fun _ => ?_; split <;> push_cast <;> omega

section registered

variable {s t : RegistryStore} {r : Registration}

section

variable (h : Registered contentId s r t)
include h

theorem Registered.countable (hc : Countable contentId s) : Countable contentId t := by
  have hruns : t.searchRuns = s.searchRuns := by rw [h.stored]
  have hids : attemptIds t = attemptIds s := by
    unfold attemptIds; rw [hruns]
  have hrows : t.hypotheses.rows = s.hypotheses.rows ++ [r.row contentId] := by
    rw [h.stored]
    rw [UTable.insert_toTable h.fresh h.freshHash, Table.insert_rows h.fresh]
  refine ⟨hruns ▸ hc.intraday, ?_, fun row hrow => ?_, hruns ▸ hc.learners⟩
  · rw [hids, hrows]; rcases hc.linked with hnone | hall
    · exact .inl hnone
    refine .inr fun row hrow => ?_
    rcases List.mem_append.1 hrow with hold | hnew
    · exact hall row hold
    · rw [List.mem_singleton.1 hnew]; exact fun _ => ⟨rfl, rfl, rfl⟩
  · rw [hruns] at hrow; rw [campaignTrial_congr h.overlaps]
    exact hc.campaigns row hrow

theorem Registered.burden :
    burden t = burden s + r.draft.searchCardinality - if Prepaid s r.draft then 1 else 0 := by
  rw [h.stored]
  exact burden_insertHypothesis (r := r.row contentId) h.fresh h.freshHash rfl

theorem Registered.cited : citedRuns t = citedRuns s ++
    if r.draft.searchOrigin = .measured then r.draft.searchRunId.toList else [] := by
  rw [h.stored]
  exact citedRuns_insert (r := r.row contentId) h.fresh h.freshHash

end

end registered

/-- The burden a registration is judged against is the one its row leaves behind. -/
theorem register_judged {r : Registration} (h : register contentId d i now s = .ok r t) :
    cumulativeTrials contentId t 0 none = .ok r.cumulativeTrials := by
  obtain ⟨hjudge, hreg⟩ := register_ok h
  obtain ⟨rfl, _, htrials⟩ := judge_ok hjudge
  obtain ⟨hc, hn⟩ := cumulativeTrials_incoming.1 htrials
  exact cumulativeTrials_now.2 ⟨hreg.countable hc, hn.trans hreg.burden.symm⟩

theorem prepaid_one (hc : Countable contentId s) (hm : verifyMeasuredSearch s d = true)
    (hp : Prepaid s d) : d.searchCardinality = 1 := by
  obtain ⟨_, id, hid, hin⟩ := hp
  obtain ⟨row, hrow, rfl⟩ := List.mem_map.1 (mem_unpaid.1 hin).1
  have hverified := hc.intraday row hrow
  have hstored : s.searchRuns.get? row.searchId = some row :=
    Table.get?_key.2 (List.mem_filter.1 hrow).1
  unfold verifyMeasuredSearch at hm; rw [hid] at hm; dsimp only at hm
  rw [hstored, Option.map_some, decide_eq_true_eq, Option.some.injEq] at hm
  rw [← hm]; unfold verifyIntradayRow at hverified; split at hverified
  · cases hverified
  rename_i identity hidentity; simp only [decide_eq_true_eq] at hverified
  rw [hverified.1]; unfold intradayIdentity at hidentity
  rw [Option.ite_none_right_eq_some] at hidentity
  obtain ⟨_, hsome⟩ := hidentity; cases hsome; rfl

variable {a : ArtifactTest}

theorem judgeArtifactTest_ok {i : ArtifactInputs}
    (h : judgeArtifactTest contentId i now s = .ok a) :
    cumulativeTrials contentId s 1 none = .ok a.cumulativeTrials := by
  unfold judgeArtifactTest at h; dsimp only at h; split at h; · cases h
  split at h; · cases h
  split at h; · cases h
  split at h; · cases h
  obtain ⟨trials, htrials, h⟩ := except_bind_ok.1 h; split at h; · cases h
  split at h; · cases h
  cases h; exact htrials

theorem registerArtifactTest_ok {i : ArtifactInputs}
    (h : registerArtifactTest contentId i now s = .ok a t) :
    cumulativeTrials contentId s 1 none = .ok a.cumulativeTrials ∧
      t = { s with artifactTests := s.artifactTests.insert (a.row contentId) } ∧
      burden t = burden s + 1 := by
  unfold registerArtifactTest at h
  rw [bind_ok] at h
  obtain ⟨a', s₀, hjudge, h⟩ := h
  obtain ⟨hjudge, rfl⟩ := reads_ok.1 hjudge
  rw [bind_ok] at h
  obtain ⟨_, s₁, hinsert, h⟩ := h
  obtain ⟨rfl, rfl⟩ := pure_ok.1 h
  unfold insertArtifactTest at hinsert
  split at hinsert
  · rename_i hnew
    obtain ⟨rfl⟩ := hinsert
    exact ⟨judgeArtifactTest_ok hjudge, rfl, burden_insertArtifactTest hnew.1 hnew.2⟩
  · cases hinsert

theorem registerArtifactTest_judged {i : ArtifactInputs}
    (h : registerArtifactTest contentId i now s = .ok a t) :
    cumulativeTrials contentId t 0 none = .ok a.cumulativeTrials := by
  obtain ⟨htrials, rfl, hburden⟩ := registerArtifactTest_ok h
  obtain ⟨hc, hn⟩ := cumulativeTrials_ok.1 htrials
  refine cumulativeTrials_now.2 ⟨⟨hc.intraday, hc.linked, hc.campaigns, hc.learners⟩, ?_⟩
  rw [hburden, hn]; unfold incomingCredit; simp

theorem selectionSearchId_like (c : ValidationCampaign) :
    like (selectionSearchId contentId c) validationNamespace = true ∧
      like (selectionSearchId contentId c) learnerNamespace = false ∧
      like (selectionSearchId contentId c) intradayNamespace = false := by
  unfold like selectionSearchId; rw [String.toList_append, List.map_append]
  refine ⟨?_, ?_, ?_⟩
  · rw [List.isPrefixOf_iff_prefix]; exact List.prefix_append _ _
  · rfl
  · rfl

variable {c : ValidationCampaign}

theorem freeze_ok (h : freezeValidationCampaign contentId c now s = .ok id t) :
    id = selectionSearchId contentId c ∧
      ((s.searchRuns.get? id).isSome = true ∧ t = s ∨
        s.searchRuns.get? id = none ∧ ∃ expected,
          expectedCampaignRow contentId c = .ok expected ∧
          consumedOverlaps s.windows c expected.dataset = [] ∧
          t = { s with searchRuns := s.searchRuns.insert ⟨expected, now, now, .campaign c⟩ }) := by
  unfold freezeValidationCampaign at h; rw [bind_ok] at h
  obtain ⟨expected, s₀, hread, h⟩ := h
  obtain ⟨hexpected, rfl⟩ := reads_ok.1 hread; rw [bind_ok] at h
  obtain ⟨_, s₁, hget, h⟩ := h; obtain ⟨rfl, rfl⟩ := get_ok.1 hget
  cases hrow : s₁.searchRuns.get? (selectionSearchId contentId c) with
  | some existing =>
    simp only [hrow] at h; rw [bind_ok] at h; obtain ⟨_, s₂, hverify, h⟩ := h
    obtain ⟨_, rfl⟩ := reads_ok.1 hverify; obtain ⟨rfl, rfl⟩ := pure_ok.1 h
    refine ⟨rfl, .inl ⟨?_, rfl⟩⟩; rw [hrow]; rfl
  | none =>
    simp only [hrow] at h; rw [bind_ok] at h; obtain ⟨_, s₂, hclean, h⟩ := h
    obtain ⟨hclean, rfl⟩ := require_ok.1 hclean; rw [bind_ok] at h
    obtain ⟨_, s₃, hinsert, h⟩ := h; obtain ⟨rfl, rfl⟩ := pure_ok.1 h
    unfold insertSearchRun at hinsert; split at hinsert
    · obtain ⟨rfl⟩ := hinsert
      exact ⟨rfl, .inr ⟨hrow, expected, hexpected, hclean, rfl⟩⟩
    · cases hinsert

theorem expectedCampaignRow_ok {e : RowIdentity} (h : expectedCampaignRow contentId c = .ok e) :
    e.searchId = selectionSearchId contentId c ∧ e.candidatesEvaluated = 1 := by
  unfold expectedCampaignRow at h; split at h
  · cases h; exact ⟨rfl, rfl⟩
  · cases h

theorem campaignTrial_frozen {t : Windows} {e : RowIdentity}
    (he : expectedCampaignRow contentId c = .ok e) (hclean : consumedOverlaps t c e.dataset = []) :
    campaignTrial contentId t ⟨e, now, now, .campaign c⟩ = .ok 1 := by
  obtain ⟨hid, hone⟩ := expectedCampaignRow_ok he
  unfold campaignTrial verifyCampaignRow verifyPredatesConsumption; dsimp only
  rw [if_neg (not_not.2 hid.symm)]
  refine except_bind_ok.2 ⟨e, he, except_bind_ok.2 ⟨⟨⟩, ?_, ?_⟩⟩
  · rw [if_neg (not_not.2 rfl), if_neg (not_not.2 rfl), hclean]
  · rw [hone]; rfl

theorem Countable.insertSearchRun {s : RegistryStore} {r : SearchRun} (hc : Countable contentId s)
    (h : s.searchRuns.get? r.searchId = none)
    (hintra : like r.searchId intradayNamespace = false)
    (hval : like r.searchId validationNamespace = true →
      campaignTrial contentId s.windows r = .ok r.candidatesEvaluated)
    (hlearn : like r.searchId learnerNamespace = true → learnerErrors r = []) :
    Countable contentId { s with searchRuns := s.searchRuns.insert r } := by
  have hids : attemptIds { s with searchRuns := s.searchRuns.insert r } = attemptIds s := by
    unfold attemptIds
    rw [rowsIn_insert _ h, hintra, if_neg (by simp), List.append_nil]
  have hmem : ∀ ns, ∀ row ∈ rowsIn ns (s.searchRuns.insert r).rows,
      row ∈ rowsIn ns s.searchRuns.rows ∨ like r.searchId ns = true ∧ row = r := by
    intro ns row hrow; rw [rowsIn_insert ns h, List.mem_append] at hrow
    refine hrow.imp id fun hnew => ?_; split at hnew
    · rename_i hl; exact ⟨hl, List.mem_singleton.1 hnew⟩
    · cases hnew
  refine ⟨fun row hrow => ?_, ?_, fun row hrow => ?_, fun row hrow => ?_⟩
  · rcases hmem _ row hrow with hold | ⟨hl, _⟩
    · exact hc.intraday row hold
    · rw [hintra] at hl; cases hl
  · rw [hids]; exact hc.linked
  · rcases hmem _ row hrow with hold | ⟨hl, rfl⟩
    · exact hc.campaigns row hold
    · exact hval hl
  · rcases hmem _ row hrow with hold | ⟨hl, rfl⟩
    · exact hc.learners row hold
    · exact hlearn hl

theorem freeze_new (h : freezeValidationCampaign contentId c now s = .ok id t)
    (hnew : s.searchRuns.get? (selectionSearchId contentId c) = none)
    (hn : cumulativeTrials contentId s 0 none = .ok n) :
    cumulativeTrials contentId t 0 none = .ok (n + 1) := by
  obtain ⟨hc, rfl⟩ := cumulativeTrials_now.1 hn
  obtain ⟨rfl, ⟨hsome, _⟩ | ⟨_, expected, hexpected, hclean, rfl⟩⟩ := freeze_ok h
  · rw [hnew] at hsome; cases hsome
  obtain ⟨hid, hone⟩ := expectedCampaignRow_ok hexpected
  obtain ⟨hval, hlearn, hintra⟩ := @selectionSearchId_like contentId c
  rw [← hid] at hval hlearn hintra hnew
  refine cumulativeTrials_now.2 ⟨hc.insertSearchRun hnew hintra (fun _ => ?_) fun hl => ?_, ?_⟩
  · rw [campaignTrial_frozen hexpected hclean]; exact congrArg _ hone.symm
  · rw [hlearn] at hl; cases hl
  · rw [burden_insertSearchRun hnew]; unfold rowCharge
    rw [hval, hlearn, hintra, hone]; simp

theorem insertSearchRun_ok {u : PUnit} (h : insertSearchRun r s = .ok u t) :
    s.searchRuns.get? r.searchId = none ∧
      t = { s with searchRuns := s.searchRuns.insert r } := by
  unfold insertSearchRun at h; split at h
  · rename_i hnew; obtain ⟨rfl⟩ := h; exact ⟨hnew.1, rfl⟩
  · cases h

theorem recordIntradayAttempt_ok {searchId hash dataset : String} {start finish : Int}
    (h : recordIntradayAttempt searchId hash dataset start finish now s = .ok id t) :
    (s.searchRuns.get? searchId).isSome = true ∧ t = s ∨
      ∃ r, r.searchId = searchId ∧ insertSearchRun r s = .ok ⟨⟩ t := by
  unfold recordIntradayAttempt at h
  cases hidentity : intradayIdentity searchId hash dataset start finish with
  | none => simp only [hidentity, throw_ok] at h
  | some identity =>
    simp only [hidentity] at h
    have hid : identity.searchId = searchId := by
      unfold intradayIdentity at hidentity
      rw [Option.ite_none_right_eq_some] at hidentity
      obtain ⟨_, hsome⟩ := hidentity; cases hsome; rfl
    rw [bind_ok] at h; obtain ⟨_, s₀, hget, h⟩ := h
    obtain ⟨rfl, rfl⟩ := get_ok.1 hget
    cases hrow : s₀.searchRuns.get? searchId with
    | some existing =>
      simp only [hrow] at h; rw [bind_ok] at h; obtain ⟨_, s₁, hcheck, h⟩ := h
      obtain ⟨_, rfl⟩ := require_ok.1 hcheck; obtain ⟨_, rfl⟩ := pure_ok.1 h
      exact .inl ⟨rfl, rfl⟩
    | none =>
      simp only [hrow] at h; rw [bind_ok] at h; obtain ⟨_, s₁, hinsert, h⟩ := h
      obtain ⟨_, rfl⟩ := pure_ok.1 h; exact .inr ⟨_, hid, hinsert⟩

/-! ## Runs -/

/-- A call of the registry or of a writer of the search ledger; a learner's charge is a
`record`. -/
inductive Call
  | record (r : SearchRun)
  | intraday (searchId configurationHash dataset : String) (start finish now : Int)
  | freeze (c : ValidationCampaign) (now : Int)
  | register (d : HypothesisDraft) (i : RegisterInputs) (now : Int)
  | artifactTest (i : ArtifactInputs) (now : Int)
  | consume (r : WindowRef) (now : Int)
  | release (r : WindowRef)

def inWindows (x : Txn Windows RefusalReason PUnit) : RegistryTxn PUnit :=
  zoom (·.windows) (fun s t => { s with windows := t }) .refused x

def Call.run (contentId : ContentId) : Call → RegistryTxn PUnit
  | .record r => insertSearchRun r
  | .intraday searchId hash dataset start finish now => do
    let _ ← recordIntradayAttempt searchId hash dataset start finish now
    pure ⟨⟩
  | .freeze c now => do
    let _ ← freezeValidationCampaign contentId c now
    pure ⟨⟩
  | .register d i now => do
    let _ ← Registry.register contentId d i now
    pure ⟨⟩
  | .artifactTest i now => do
    let _ ← registerArtifactTest contentId i now
    pure ⟨⟩
  | .consume r now => inWindows (Registry.consume r now)
  | .release r => inWindows (Registry.release r)

/-- Each call in a transaction of its own, committed or rolled back. -/
def ledger (contentId : ContentId) : LTS RegistryStore Call where
  init s := s = {}
  step s c s' := s' = after (immediate (c.run contentId)) s

/-- The burden never falls, and no row or citation it rests on is taken back. -/
structure Charged (s s' : RegistryStore) : Prop where
  burden : burden s ≤ burden s'
  cited : ∀ id ∈ citedRuns s, id ∈ citedRuns s'
  runs : ∀ r ∈ s.searchRuns.rows, r ∈ s'.searchRuns.rows

instance : IsPreorder RegistryStore Charged where
  refl _ := ⟨le_refl _, fun _ h => h, fun _ h => h⟩
  trans _ _ _ h h' := ⟨h.burden.trans h'.burden, fun id hid => h'.cited id (h.cited id hid),
    fun r hr => h'.runs r (h.runs r hr)⟩

theorem insertSearchRun_charged (r : SearchRun) : Moves Charged (insertSearchRun r) := by
  intro s u t h; obtain ⟨hnew, rfl⟩ := insertSearchRun_ok h
  refine ⟨?_, fun _ hid => hid, fun _ hr => Table.mem_insert_of_mem hr⟩
  rw [burden_insertSearchRun hnew]; omega

theorem register_charged (d : HypothesisDraft) (i : RegisterInputs) (now : Int) :
    Moves Charged (register contentId d i now) := by
  intro s r t h; obtain ⟨_, hreg⟩ := register_ok h
  have hcard := r.draft.searched; refine ⟨?_, fun id hid => ?_, ?_⟩
  · rw [hreg.burden]; split <;> omega
  · rw [hreg.cited]; exact List.mem_append_left _ hid
  · rw [hreg.stored]; exact fun _ h => h

theorem inWindows_charged (x : Txn Windows RefusalReason PUnit) : Moves Charged (inWindows x) := by
  intro s u t h; obtain ⟨ws, _, rfl⟩ := zoom_ok.1 h
  exact ⟨le_refl _, fun _ hid => hid, fun _ hr => hr⟩

theorem call_charged (c : Call) : Moves Charged (c.run contentId) := by
  cases c with
  | record r => exact insertSearchRun_charged r
  | intraday searchId hash dataset start finish now =>
    refine Moves.bind (fun s id t h => ?_) fun _ => Moves.pure _
    rcases recordIntradayAttempt_ok h with ⟨_, rfl⟩ | ⟨r, _, hinsert⟩
    · exact refl_of Charged _
    · exact insertSearchRun_charged r _ _ _ hinsert
  | freeze c now =>
    refine Moves.bind (fun s id t h => ?_) fun _ => Moves.pure _
    obtain ⟨rfl, ⟨_, rfl⟩ | ⟨hnew, e, he, _, rfl⟩⟩ := freeze_ok h
    · exact refl_of Charged _
    rw [← (expectedCampaignRow_ok he).1] at hnew
    refine ⟨?_, fun _ hid => hid, fun _ hr => Table.mem_insert_of_mem hr⟩
    rw [burden_insertSearchRun hnew]; omega
  | register d i now => exact Moves.bind (register_charged d i now) fun _ => Moves.pure _
  | artifactTest i now =>
    refine Moves.bind (fun s a t h => ?_) fun _ => Moves.pure _
    obtain ⟨_, rfl, hburden⟩ := registerArtifactTest_ok h
    refine ⟨?_, fun _ hid => hid, fun _ hr => hr⟩; omega
  | consume _ _ | release _ => exact inWindows_charged _

theorem run_charged {s' : RegistryStore} {cs : List Call} (h : (ledger contentId).Run s cs s') :
    Charged s s' := by
  refine h.rel (P := fun _ => True) (refl_of Charged) (fun _ _ _ => trans_of Charged)
    (fun _ _ _ _ _ => trivial) (fun s c t _ hstep => ?_) trivial
  cases hstep; exact (call_charged c).after s

/-- A registration is charged its search, unless an attempt was charged for it before. -/
theorem register_charge {r : Registration} (h : register contentId d i now s = .ok r t) :
    ∃ n, cumulativeTrials contentId s 0 none = .ok n ∧
      (Prepaid s d ∧ d.searchCardinality = 1 ∧ r.cumulativeTrials = n ∨
        ¬ Prepaid s d ∧ r.cumulativeTrials = n + d.searchCardinality) := by
  obtain ⟨hjudge, _⟩ := register_ok h
  obtain ⟨_, hmeasured, htrials⟩ := judge_ok hjudge
  obtain ⟨hc, hn⟩ := cumulativeTrials_incoming.1 htrials
  refine ⟨burden s, cumulativeTrials_now.2 ⟨hc, rfl⟩, ?_⟩
  by_cases hp : Prepaid s d
  · have hone := prepaid_one hc hmeasured hp; rw [if_pos hp, hone] at hn
    exact .inl ⟨hp, hone, by omega⟩
  · rw [if_neg hp] at hn; exact .inr ⟨hp, by omega⟩

theorem not_prepaid_again {d' : HypothesisDraft} {t' : RegistryStore} {r : Registration}
    (h : register contentId d i now s = .ok r t) (hm : d.searchOrigin = .measured)
    (hlater : Charged t t') (hsame : d'.searchRunId = d.searchRunId) : ¬ Prepaid t' d' := by
  intro ⟨_, id, hid, hin⟩; obtain ⟨hjudge, hreg⟩ := register_ok h
  obtain ⟨rfl, _, _⟩ := judge_ok hjudge; rw [hsame, Option.mem_def] at hid
  have hcited : id ∈ citedRuns t := by
    rw [hreg.cited, if_pos hm, hid]
    exact List.mem_append_right _ List.mem_cons_self
  exact (mem_unpaid.1 hin).2 (hlater.cited id hcited)

theorem freeze_again {now' : Int} {t' t'' : RegistryStore} {id' : String}
    (h : freezeValidationCampaign contentId c now s = .ok id t) (hlater : Charged t t')
    (h' : freezeValidationCampaign contentId c now' t' = .ok id' t'') : id' = id ∧ t'' = t' := by
  have hstored : ∃ r ∈ t.searchRuns.rows, r.searchId = selectionSearchId contentId c := by
    obtain ⟨rfl, ⟨hsome, rfl⟩ | ⟨hnew, e, he, _, rfl⟩⟩ := freeze_ok h
    · obtain ⟨r, hr⟩ := Option.isSome_iff_exists.1 hsome
      exact ⟨r, Table.get?_some hr⟩
    · obtain ⟨hid, _⟩ := expectedCampaignRow_ok he
      exact ⟨_, (Table.mem_insert (hid ▸ hnew)).2 (.inr rfl), hid⟩
  obtain ⟨r, hr, hid⟩ := hstored
  obtain ⟨rfl, ⟨_, rfl⟩ | ⟨hnone, _⟩⟩ := freeze_ok h'
  · exact ⟨(freeze_ok h).1.symm, rfl⟩
  · exact absurd hid (Table.get?_none.1 hnone r (hlater.runs r hr))

/-- **The burden.** Along every run `cumulative_trials` never falls. After any run, a
registration and an artifact test are judged against what it is once they are stored, and
are charged their search; a prepaid registration has one trial, the one its attempt was
charged, and no later registration that cites the attempt is prepaid; a recorded search is
charged what it evaluated; a campaign frozen before is charged nothing, another one is
charged one trial. -/
theorem burden_counts_once {s s' : RegistryStore} {cs : List Call}
    (hrun : (ledger contentId).Run s cs s') : (∀ n n', cumulativeTrials contentId s 0 none = .ok n →
      cumulativeTrials contentId s' 0 none = .ok n' → n ≤ n') ∧
    (∀ d i now r t, register contentId d i now s' = .ok r t →
      cumulativeTrials contentId t 0 none = .ok r.cumulativeTrials ∧
      ∃ n, cumulativeTrials contentId s' 0 none = .ok n ∧
        (Prepaid s' d ∧ d.searchCardinality = 1 ∧ r.cumulativeTrials = n ∨
          ¬ Prepaid s' d ∧ r.cumulativeTrials = n + d.searchCardinality)) ∧
    (∀ i now a t, registerArtifactTest contentId i now s' = .ok a t →
      cumulativeTrials contentId t 0 none = .ok a.cumulativeTrials ∧
      cumulativeTrials contentId s' 1 none = .ok a.cumulativeTrials) ∧
    (∀ d i now r u, register contentId d i now u = .ok r s → d.searchOrigin = .measured →
      ∀ d' : HypothesisDraft, d'.searchRunId = d.searchRunId → ¬ Prepaid s' d') ∧
    (∀ r t n n', insertSearchRun r s' = .ok ⟨⟩ t → cumulativeTrials contentId s' 0 none = .ok n →
      cumulativeTrials contentId t 0 none = .ok n' → n' = n + rowCharge s' r) ∧
    (∀ c now id u, freezeValidationCampaign contentId c now u = .ok id s →
      ∀ now' id' t, freezeValidationCampaign contentId c now' s' = .ok id' t → id' = id ∧ t = s') ∧
    ∀ c now id t n, freezeValidationCampaign contentId c now s' = .ok id t →
      s'.searchRuns.get? (selectionSearchId contentId c) = none →
      cumulativeTrials contentId s' 0 none = .ok n →
      cumulativeTrials contentId t 0 none = .ok (n + 1) := by
  have hcharged := run_charged hrun
  refine ⟨fun n n' hn hn' => ?_, fun d i now r t h => ⟨register_judged h, register_charge h⟩,
    fun i now a t h => ⟨registerArtifactTest_judged h, (registerArtifactTest_ok h).1⟩,
    fun d i now r u h hm d' hsame => not_prepaid_again h hm hcharged hsame,
    fun r t n n' h hn hn' => ?_,
    fun c now id u h now' id' t h' => freeze_again h hcharged h',
    fun c now id t n h hnew hn => freeze_new h hnew hn⟩
  · obtain ⟨_, rfl⟩ := cumulativeTrials_now.1 hn
    obtain ⟨_, rfl⟩ := cumulativeTrials_now.1 hn'; exact hcharged.burden
  · obtain ⟨hnew, rfl⟩ := insertSearchRun_ok h
    obtain ⟨_, rfl⟩ := cumulativeTrials_now.1 hn
    obtain ⟨_, rfl⟩ := cumulativeTrials_now.1 hn'
    exact burden_insertSearchRun hnew

/-- An attempt of a study, recorded before it is measured. -/
def attemptCall : Call :=
  .intraday "intraday:opening-range" (String.ofList (List.replicate 64 'a')) "us-equities-daily"
    0 10 20

theorem burden_counts_once_attempt : cumulativeTrials (fun _ => "h") {} 0 none = .ok 68 ∧
    cumulativeTrials (fun _ => "h") (after (immediate (attemptCall.run fun _ => "h")) {}) 0 none =
      .ok 69 ∧ (68 : Int) ≤ 69 := by
  have hbefore : cumulativeTrials (fun _ => "h") {} 0 none = .ok 68 := by decide +kernel
  have hafter : cumulativeTrials (fun _ => "h")
      (after (immediate (attemptCall.run fun _ => "h")) {}) 0 none = .ok 69 := by decide +kernel
  exact ⟨hbefore, hafter,
    (burden_counts_once (.cons (l := attemptCall) rfl (.nil _))).1 _ _ hbefore hafter⟩

end Quantbot.L3.Registry
