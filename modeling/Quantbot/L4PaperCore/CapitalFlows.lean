import Quantbot.L4PaperCore.CapitalRuns

/-!
# External flows

A flow that a capture saw blocks the account for good: no later receipt is complete
and the budget authority objects. A capture that lost the cursor keeps its flows too,
but only past the inventory check at the head of its write. Where that check objects
(another proof was certified meanwhile, or the proof has aged), nothing is written
and what the pages showed is lost.

* `external_flows_sticky`: both halves, the second over the runs whose losing
  captures pass the check.
* `losing_flow_dropped`: a run that loses a deposit.
-/
namespace Quantbot.L4

open Core L1 L2 Txn

/-- An activity document under a flow row of the account. -/
def FlowIndexed (v : CapitalViews) (s : CapitalStore) (c : Filed ContinuousActivityCoverage) :
    Prop :=
  s.coverages.get? c.id = some c ∧ ∃ r ∈ s.flowIndex.rows, r.id = c.id ∧ r.reference = s.scope v

variable {v : CapitalViews} {c : Filed ContinuousActivityCoverage} {s : CapitalStore}

theorem FlowIndexed.known (h : FlowIndexed v s c) :
    ∀ f ∈ c.payload.externalFlowIds, f ∈ s.knownFlows v := by
  obtain ⟨hdoc, r, hr, hid, hscope⟩ := h; intro f hf
  unfold CapitalStore.knownFlows
  rw [mem_sortedIds, List.mem_append, List.mem_flatMap]
  refine .inl ⟨c.payload, ?_, hf⟩; unfold CapitalStore.flowDocuments
  rw [List.mem_filterMap]
  refine ⟨r, List.mem_filter.2 ⟨hr, decide_eq_true hscope⟩, ?_⟩; rw [hid, hdoc]
  rfl

variable {s s' : CapitalStore}

theorem FlowIndexed.retained (h : FlowIndexed v s c) (hret : Retained s s') :
    FlowIndexed v s' c := by
  obtain ⟨hdoc, r, hr, hid, hscope⟩ := h
  exact ⟨hret.coverage? hdoc, r, hret.flowIndex r hr, hid, hscope.trans (hret.scope v).symm⟩

/-- Every flow row is the account's. -/
def FlowsScoped (v : CapitalViews) (w : CapitalWorld) : Prop :=
  ∀ r ∈ w.store.flowIndex.rows, r.reference = w.store.scope v

variable {source : ContinuousActivityCoverage}

theorem Noted.flowsScoped (h : Noted v source s s')
    (hs : ∀ r ∈ s.flowIndex.rows, r.reference = s.scope v) :
    ∀ r ∈ s'.flowIndex.rows, r.reference = s'.scope v := by
  intro r hr; rw [h.retained.scope v]; rcases h.flows r hr with hold | hnew
  · exact hs r hold
  · exact hnew

variable {plan : CapturePlan} {captured : Int} {r : Option (Filed AccountRiskAnchor) × List String}

variable {sourceId : String}

theorem Anchoring.flowIndex {reasons : List String}
    (h : Anchoring v plan sourceId captured reasons s r s') : s'.flowIndex = s.flowIndex := by
  cases h <;> rfl

theorem Finishing.flowsScoped
    {r : Except String String} (h : Finishing v plan source captured s r s')
    (hs : ∀ r ∈ s.flowIndex.rows, r.reference = s.scope v) :
    ∀ r ∈ s'.flowIndex.rows, r.reference = s'.scope v := by
  have hret := h.retained
  cases h with
  | flows _ _ hnoted => exact hnoted.flowsScoped hs
  | behind _ _ => exact hs
  | receipt _ hnoted hmoved hanchor _ _ hs' =>
    intro r hr; rw [hret.scope v, ← hnoted.retained.scope v]
    obtain ⟨_, hcursors⟩ := hmoved.rest; refine hnoted.flowsScoped hs r ?_
    rw [hs'] at hr; rw [hanchor.flowIndex, hcursors] at hr; exact hr

variable {w w' : CapitalWorld}

theorem flowsScoped_step {l : CapitalLabel}
    (hw : FlowsScoped v w) (h : (capturing v).step w l w') : FlowsScoped v w' := by
  cases h with
  | begin _ _ | abandon _ => exact hw
  | other hother =>
    intro r hr; rw [hother.retained.scope v]; exact hw r (hother.flowIndex ▸ hr)
  | finish replies captured hmem =>
    rename_i plan
    rcases completeCapture_after v plan replies captured w.store with
      hsame | ⟨_, _, _, _, hcases⟩
    · unfold FlowsScoped; rw [hsame]; exact hw
    · exact hcases.flowsScoped hw

theorem flowsScoped_inductive (v : CapitalViews) : (capturing v).Inductive (FlowsScoped v) where
  init := by
    intro w ⟨_, _, _, _, _, _, hflow, _⟩; unfold FlowsScoped; rw [hflow]
    exact fun r hr => by cases hr
  step _ _ _ := flowsScoped_step

/-! ## Receipts behind a flow -/

theorem Anchoring.reasons {reasons out : List String} {a : Option (Filed AccountRiskAnchor)}
    (h : Anchoring v plan sourceId captured reasons s (a, out) s') (hout : out = []) :
    reasons = [] := by
  cases h with
  | found _ himp => exact himp hout
  | missing hne => exact hout
  | created _ hnone _ _ _ => exact hnone

theorem Anchoring.receipts {reasons : List String}
    (h : Anchoring v plan sourceId captured reasons s r s') : s'.receipts = s.receipts := by
  cases h <;> rfl

theorem Finishing.complete_unflowed
    {r : Except String String} (h : Finishing v plan source captured s r s')
    {x : Filed ContinuousCapitalEvidence} (hx : x ∈ s'.receipts.rows)
    (hcomplete : x.payload.complete = true) :
    x ∈ s.receipts.rows ∨ ∃ t, Retained s t ∧ t.knownFlows v = [] := by
  cases h with
  | flows _ _ hnoted =>
    obtain ⟨_, _, hrest⟩ := hnoted.rest; rw [hrest] at hx; exact .inl hx
  | behind _ _ => exact .inl hx
  | receipt hcursor hnoted hmoved hanchor hreceipt hput hs' =>
    rename_i s₁ s₂ s₃ anchor reasons receipt receipts
    obtain ⟨_, _, hnote⟩ := hnoted.rest; obtain ⟨_, hmove⟩ := hmoved.rest
    rw [hs'] at hx; rcases (FiledTable.put_ok hput).2.2 x hx with hold | hnew
    · left; rw [hanchor.receipts, hmove, hnote] at hold; exact hold
    right; refine ⟨s₂, trans_of Retained hnoted.retained hmoved.retained, ?_⟩
    rw [hnew, hreceipt] at hcomplete
    have hreasons := hanchor.reasons (of_decide_eq_true hcomplete).1
    unfold captureReasons at hreasons; by_contra hflows
    rw [if_pos hflows] at hreasons; simp at hreasons

theorem flowed_step {l : CapitalLabel} (hc : FlowIndexed v w.store c)
    (hflows : c.payload.externalFlowIds ≠ []) (h : (capturing v).step w l w') :
    ∀ x ∈ w'.store.receipts.rows, x.payload.complete = true → x ∈ w.store.receipts.rows := by
  intro x hx hcomplete
  cases h with
  | begin _ _ | abandon _ => exact hx
  | other hother => exact hother.receipts ▸ hx
  | finish replies captured hmem =>
    rename_i plan
    rcases completeCapture_after v plan replies captured w.store with
      hsame | ⟨_, _, _, _, hcases⟩
    · have hx : x ∈ (after (completeCapture v plan replies captured) w.store).receipts.rows := hx
      rw [hsame] at hx; exact hx
    rcases hcases.complete_unflowed hx hcomplete with hold | ⟨t, hret, hnone⟩
    · exact hold
    obtain ⟨f, hf⟩ := List.exists_mem_of_ne_nil _ hflows
    have hknown := (hc.retained hret).known f hf; rw [hnone] at hknown
    cases hknown

theorem flowed_run {ls : List CapitalLabel} (hc : FlowIndexed v w.store c)
    (hflows : c.payload.externalFlowIds ≠ []) (h : (capturing v).Run w ls w') :
    ∀ x ∈ w'.store.receipts.rows, x.payload.complete = true → x ∈ w.store.receipts.rows := by
  induction h with
  | nil => exact fun _ hx _ => hx
  | cons hst _ ih =>
    intro x hx hcomplete
    have hx := ih (hc.retained (capturing_retained hst)) x hx hcomplete
    exact flowed_step hc hflows hst x hx hcomplete

theorem authority_objects {proof : ReconciliationProof}
    {now : Int} {accountEquity lossBps : ℚ} {latest : Bool} {id : Option String}
    {reasons : List String} (hknown : s.knownFlows v ≠ [])
    (h : continuousBudgetAuthority v s proof now accountEquity lossBps latest = .ok (id, reasons)) :
    "ACCOUNT_EXTERNAL_CAPITAL_FLOW" ∈ reasons ∨ reasons = ["CONTINUOUS_POLICY_UNAVAILABLE"] := by
  unfold continuousBudgetAuthority at h; split at h
  · cases h
  split at h
  · cases h; exact .inr rfl
  split at h
  · cases h; exact .inr rfl
  · dsimp only at h; split at h <;> cases h <;> exact .inl (by simp)

/-! ## Captures that lost the cursor -/

/-- The capture's own document meets no other under its content id. -/
def Unconflicted (v : CapitalViews) (s : CapitalStore) (c : ContinuousActivityCoverage) : Prop :=
  ∀ r ∈ s.coverages.get? (v.coverageId c), r.payload = c

/-- A capture that saw flows and lost the cursor passes the inventory check. -/
def LosersChecked (v : CapitalViews) (w : CapitalWorld) (l : CapitalLabel) (_ : CapitalWorld) :
    Prop :=
  match l with
  | .finish plan replies captured =>
    ∀ rows, captureRows plan replies = .ok rows → (activityFlags rows plan.limit).flows ≠ [] →
      w.store.cursor v ≠ plan.cursor →
      entryInventoryObjections v.contentId v.fundsId w.store.toPaperStore plan.proof captured true =
          .ok [] ∧
        Unconflicted v w.store (coverageOf v w.store plan rows captured)
  | _ => True

theorem FiledTable.put_fresh {α : Type} [DecidableEq α] {t : FiledTable α} {id : String}
    {payload : α} (h : ∀ r ∈ t.get? id, r.payload = payload) : ∃ t', t.put id payload = .ok t' := by
  unfold FiledTable.put
  cases hrow : t.get? id with
  | none => exact ⟨_, rfl⟩
  | some existing => exact ⟨t, if_pos (h existing hrow)⟩

variable {rows : List Activity}

theorem lostCapture_commits
    (hinventory : entryInventoryObjections v.contentId v.fundsId s.toPaperStore plan.proof
      captured true = .ok []) (hcursor : s.cursor v ≠ plan.cursor)
    (hflows : (coverageOf v s plan rows captured).externalFlowIds ≠ [])
    (hfresh : Unconflicted v s (coverageOf v s plan rows captured)) :
    ∃ s', finishCapture v plan rows captured s =
      .ok (.error "ACCOUNT_EXTERNAL_CAPITAL_FLOW") s' := by
  obtain ⟨t, ht⟩ := FiledTable.put_fresh hfresh
  refine ⟨{ s with
    coverages := t
    flowIndex := s.flowIndex.insert
      ⟨v.coverageId (coverageOf v s plan rows captured), s.scope v, captured⟩ }, ?_⟩
  refine bind_ok.2 ⟨s, s, get_ok.2 ⟨rfl, rfl⟩, ?_⟩; rw [hinventory]; dsimp only
  rw [if_neg (by simp), if_pos hcursor]; unfold lostCapture; rw [if_pos hflows]
  refine bind_ok.2 ⟨⟨⟩, _, ?_, rfl⟩; unfold noteActivity
  refine bind_ok.2 ⟨⟨⟩, { s with coverages := t }, ?_, ?_⟩
  · unfold putCoverage; rw [ht]
  · unfold indexFlows; rw [if_pos hflows]; rfl

theorem losing_flow_step {replies : List ActivityReply} (hw : FlowsScoped v w)
    (h : ((capturing v).restrict (LosersChecked v)).step w (.finish plan replies captured) w')
    (hrows : captureRows plan replies = .ok rows)
    (hflows : (activityFlags rows plan.limit).flows ≠ []) (hcursor : w.store.cursor v ≠ plan.cursor) :
    ∃ c, FlowIndexed v w'.store c ∧
      c.payload.externalFlowIds = sortedIds (activityFlags rows plan.limit).flows := by
  obtain ⟨hst, hcond⟩ := h
  obtain ⟨hinventory, hfresh⟩ := hcond rows hrows hflows hcursor
  have hne : (coverageOf v w.store plan rows captured).externalFlowIds ≠ [] := by
    obtain ⟨f, hf⟩ := List.exists_mem_of_ne_nil _ hflows
    exact List.ne_nil_of_mem (mem_sortedIds.2 hf)
  obtain ⟨s', hrun⟩ := lostCapture_commits hinventory hcursor hne hfresh
  cases hst with
  | finish _ _ hmem =>
    have hafter : after (completeCapture v plan replies captured) w.store = s' := by
      unfold completeCapture; rw [hrows]; exact after_ok (immediate_ok.2 hrun)
    obtain ⟨_, hcases⟩ := finishCapture_ok hrun
    refine ⟨⟨v.coverageId (coverageOf v w.store plan rows captured),
      coverageOf v w.store plan rows captured⟩, ?_, rfl⟩
    rw [hafter]
    cases hcases with
    | flows _ _ hnoted =>
      refine ⟨hnoted.filed, ?_⟩
      obtain ⟨r, hr⟩ := Option.isSome_iff_exists.1 (hnoted.indexed hne)
      obtain ⟨hmem, hid⟩ := Table.get?_some hr
      exact ⟨r, hmem, hid, hnoted.flowsScoped hw r hmem⟩

/-- **External flows are sticky.** Once an activity document with external flows is
indexed, no receipt that is stored later is complete, and the budget authority has an
objection in every later state. And in every run whose losing captures pass the
inventory check, what a losing capture saw is among the known flows from then on. -/
theorem external_flows_sticky (v : CapitalViews) :
    (∀ w w' ls c, (capturing v).Reachable w → FlowIndexed v w.store c →
      c.payload.externalFlowIds ≠ [] → (capturing v).Run w ls w' →
      (∀ x ∈ w'.store.receipts.rows, x.payload.complete = true → x ∈ w.store.receipts.rows) ∧
      ∀ proof now accountEquity lossBps latest id reasons,
        continuousBudgetAuthority v w'.store proof now accountEquity lossBps latest =
          .ok (id, reasons) → "ACCOUNT_EXTERNAL_CAPITAL_FLOW" ∈ reasons ∨
          reasons = ["CONTINUOUS_POLICY_UNAVAILABLE"]) ∧ ∀ w w₁ w₂ ls plan replies captured rows,
      ((capturing v).restrict (LosersChecked v)).Reachable w →
      ((capturing v).restrict (LosersChecked v)).step w (.finish plan replies captured) w₁ →
      ((capturing v).restrict (LosersChecked v)).Run w₁ ls w₂ →
      captureRows plan replies = .ok rows → w.store.cursor v ≠ plan.cursor →
      ∀ f ∈ (activityFlags rows plan.limit).flows, f ∈ w₂.store.knownFlows v := by
  refine ⟨fun w w' ls c _ hc hflows hrun => ⟨flowed_run hc hflows hrun, ?_⟩, ?_⟩
  · intro proof now accountEquity lossBps latest id reasons hauthority
    refine authority_objects ?_ hauthority
    obtain ⟨f, hf⟩ := List.exists_mem_of_ne_nil _ hflows
    exact List.ne_nil_of_mem ((hc.retained (run_retained hrun)).known f hf)
  · intro w w₁ w₂ ls plan replies captured rows hreach hst hrun hrows hcursor f hf
    have hscoped := (flowsScoped_inductive v).reachable hreach.of_restrict
    obtain ⟨c, hc, hids⟩ := losing_flow_step hscoped hst hrows (List.ne_nil_of_mem hf) hcursor
    refine (hc.retained (run_retained hrun.of_restrict)).known f ?_
    rw [hids, mem_sortedIds]; exact hf

/-! ## A race between two captures -/

/-- What either capture of the first proof plans, four seconds into the session. -/
def firstPlan : CapturePlan :=
  planWindow "policy" firstProof (trustedOpening capitalViews openedCapital (firstOpen + 4 * second) none)
    none none "opening 1" firstOpen (firstOpen + 4 * second)

theorem begunPending_first (pending : List CapturePlan) :
    begunPending capitalViews ⟨openedCapital, pending⟩ firstProof (firstOpen + 4 * second) =
      firstPlan :: pending := by
  have hbegin : beginCapture capitalViews openedCapital firstProof (firstOpen + 4 * second) =
      .ok (.fetch firstPlan) := by decide +kernel
  unfold begunPending; rw [hbegin]

/-- One of the two has written, and saw nothing. -/
def capturedStore : CapitalStore :=
  after (completeCapture capitalViews firstPlan [.page []] (firstOpen + 5 * second)) openedCapital

def depositReplies : List ActivityReply :=
  [.page [some ⟨some "deposit", some "CSD", none, none, some .naive⟩]]

/-- Steps that meet any condition which asks nothing of a capture without flows. -/
theorem raced_reachable {C : CapitalWorld → CapitalLabel → CapitalWorld → Prop}
    (hbegin : ∀ w w' proof now, C w (.begin proof now) w')
    (hfinish : ∀ w', C ⟨openedCapital, [firstPlan, firstPlan]⟩
      (.finish firstPlan [.page []] (firstOpen + 5 * second)) w') :
    ((capturing capitalViews).restrict C).Reachable ⟨capturedStore, [firstPlan]⟩ := by
  refine ⟨⟨openedCapital, []⟩, [.begin firstProof (firstOpen + 4 * second),
    .begin firstProof (firstOpen + 4 * second),
    .finish firstPlan [.page []] (firstOpen + 5 * second)], openedCapital_init, ?_⟩
  have hone : CapitalStep capitalViews ⟨openedCapital, []⟩
      (.begin firstProof (firstOpen + 4 * second)) ⟨openedCapital, [firstPlan]⟩ := by
    rw [← begunPending_first []]; exact .begin _ _ _
  have htwo : CapitalStep capitalViews ⟨openedCapital, [firstPlan]⟩
      (.begin firstProof (firstOpen + 4 * second)) ⟨openedCapital, [firstPlan, firstPlan]⟩ := by
    rw [← begunPending_first [firstPlan]]; exact .begin _ _ _
  have hthree : CapitalStep capitalViews ⟨openedCapital, [firstPlan, firstPlan]⟩
      (.finish firstPlan [.page []] (firstOpen + 5 * second)) ⟨capturedStore, [firstPlan]⟩ := by
    have hmem : firstPlan ∈ [firstPlan, firstPlan] := List.mem_cons_self
    have h := CapitalStep.finish (v := capitalViews) ⟨openedCapital, [firstPlan, firstPlan]⟩
      [.page []] (firstOpen + 5 * second) hmem
    rw [List.erase_cons_head] at h; exact h
  exact .cons ⟨hone, hbegin _ _ _ _⟩ (.cons ⟨htwo, hbegin _ _ _ _⟩ (.cons ⟨hthree, hfinish _⟩
    (.nil _)))

/-- The other one saw a deposit. -/
theorem external_flows_sticky_raced :
    "deposit" ∈ (after (completeCapture capitalViews firstPlan depositReplies
      (firstOpen + 6 * second)) capturedStore).knownFlows capitalViews := by
  have hreach : ((capturing capitalViews).restrict (LosersChecked capitalViews)).Reachable
      ⟨capturedStore, [firstPlan]⟩ := by
    refine raced_reachable (fun _ _ _ _ => trivial) fun w' rows hrows hflows => ?_
    have hempty : captureRows firstPlan [.page []] = .ok [] := by decide
    cases hrows; exact absurd rfl hflows
  have hdeposit : captureRows firstPlan depositReplies =
      .ok [⟨some "deposit", some "CSD", none, none, some .naive⟩] := by decide
  have hst : ((capturing capitalViews).restrict (LosersChecked capitalViews)).step
      ⟨capturedStore, [firstPlan]⟩ (.finish firstPlan depositReplies (firstOpen + 6 * second))
      ⟨after (completeCapture capitalViews firstPlan depositReplies (firstOpen + 6 * second))
        capturedStore, [firstPlan].erase firstPlan⟩ := by
    refine ⟨.finish _ _ _ List.mem_cons_self, fun rows hrows _ _ => ?_⟩
    cases hrows
    exact ⟨by decide, by unfold Unconflicted; decide⟩
  exact (external_flows_sticky capitalViews).2 _ _ _ [] firstPlan depositReplies _ _ hreach hst
    (.nil _) hdeposit (by decide) _ (by decide)

def secondProof : ReconciliationProof :=
  paperProof 2 Nat.two_pos (firstOpen + 5 * second) (paperAccount 1000 L1.thousand_nonneg) true

/-- Meanwhile another proof is certified. -/
def recertifiedStore : CapitalStore :=
  { capturedStore with
    documents := capturedStore.documents.insert ⟨"proof 2", .proof secondProof⟩
    certifications := capturedStore.certifications.insert ⟨2, "proof 2"⟩
    funds := capturedStore.funds.insert ⟨secondProof.acquisitionId,
      fundsReceipt secondProof.recordedAt secondProof.account⟩ }

/-- The deposit that the losing capture saw is lost. -/
theorem losing_flow_dropped :
    ∃ w plan replies captured rows, (capturing capitalViews).Reachable w ∧ plan ∈ w.pending ∧
      captureRows plan replies = .ok rows ∧ w.store.cursor capitalViews ≠ plan.cursor ∧
      "deposit" ∈ (activityFlags rows plan.limit).flows ∧
      "deposit" ∉ (after (completeCapture capitalViews plan replies captured) w.store).knownFlows
        capitalViews := by
  have hreach : ((capturing capitalViews).restrict fun _ _ _ => True).Reachable
      ⟨capturedStore, [firstPlan]⟩ := raced_reachable (fun _ _ _ _ => trivial) fun _ => trivial
  have hother : (capturing capitalViews).step ⟨capturedStore, [firstPlan]⟩ .other
      ⟨recertifiedStore, [firstPlan]⟩ :=
    .other ⟨rfl, rfl, rfl, rfl, rfl, rfl, rfl, rfl, rfl, rfl, fun _ h => h⟩
  exact ⟨⟨recertifiedStore, [firstPlan]⟩, firstPlan, depositReplies, firstOpen + 6 * second,
    [⟨some "deposit", some "CSD", none, none, some .naive⟩], hreach.of_restrict.step hother,
    List.mem_cons_self, by decide, by decide, by decide,
    by decide⟩

end Quantbot.L4
