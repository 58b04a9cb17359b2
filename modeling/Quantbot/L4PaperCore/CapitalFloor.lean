import Quantbot.L4PaperCore.CapitalWindows

/-!
# The carried loss floor

Each risk day's anchor carries the largest of its measured equity, its opening equity
and its predecessor's floor. The predecessor is the newest anchor of an earlier day by
the text of its index time; the verifier reads the anchor's openings again, at the
time of the anchor's proof. Both can differ from what the writer saw: a capture on a
whole second sorts behind a later one of the same second, an opening may be captured
after the proof, and the opening coverage began with may be revoked meanwhile.

* `carried_floor`: what every anchor carries, and, over the runs whose new anchors
  meet `CarriesFloor`, a floor that never falls and anchors that verify.
* `anchor_unverified`: a run that stores an anchor the verifier refuses.
-/
namespace Quantbot.L4

open Core L1 L2 Txn

/-! ## What an anchor carries -/

/-- The floor is at least the equity measured, the opening's and the predecessor's. -/
structure FloorCarried (s : CapitalStore) (a : AccountRiskAnchor) : Prop where
  measured : a.measuredEquity ≤ a.equityFloor
  opening : ∀ id, a.stockOpeningId = some id →
    ∃ o, s.openings.get? id = some o ∧ o.payload.equity ≤ a.equityFloor
  predecessor : ∀ id, a.predecessorId = some id → ∃ p, s.anchors.get? id = some p ∧
    p.payload.riskDay < a.riskDay ∧ p.payload.equityFloor ≤ a.equityFloor

variable {a : AccountRiskAnchor} {s s' : CapitalStore}

theorem FloorCarried.retained (h : FloorCarried s a) (hret : Retained s s') :
    FloorCarried s' a := by
  refine ⟨h.measured, fun id hid => ?_, fun id hid => ?_⟩
  · obtain ⟨o, ho, hle⟩ := h.opening id hid; exact ⟨o, hret.opening? ho, hle⟩
  · obtain ⟨p, hp, hrest⟩ := h.predecessor id hid
    exact ⟨p, hret.anchor? hp, hrest⟩

/-- Coverage starts at the open of the opening it is named after. -/
def Rooted (s : CapitalStore) (bootstrapId : String) (start : Int) : Prop :=
  ∃ o, s.openings.get? bootstrapId = some o ∧ o.payload.sessionOpen = start

theorem Rooted.retained {b : String} {t : Int} (h : Rooted s b t) (hret : Retained s s') :
    Rooted s' b t := by
  obtain ⟨o, ho, hstart⟩ := h; exact ⟨o, hret.opening? ho, hstart⟩

/-- The anchor names the coverage of the cursor. -/
def OnCursor (v : CapitalViews) (s : CapitalStore) (a : AccountRiskAnchor) : Prop :=
  ∃ id c, s.cursor v = some id ∧ s.coverages.get? id = some ⟨id, c⟩ ∧
    a.bootstrapOpeningId = c.bootstrapOpeningId ∧ a.coverageStart = c.coverageStart

/-- What holds of one anchor on record. -/
structure AnchorSound (v : CapitalViews) (s : CapitalStore) (a : AccountRiskAnchor) : Prop where
  carried : FloorCarried s a
  rooted : Rooted s a.bootstrapOpeningId a.coverageStart
  accountId : a.accountId = s.config.accountId
  storeIdentity : a.storeIdentity = s.storeIdentity
  onCursor : OnCursor v s a

/-- What a capture in flight has read of openings and proof. -/
structure PlanRooted (s : CapitalStore) (plan : CapturePlan) : Prop where
  rooted : Rooted s plan.bootstrapId plan.coverageStart
  opening : ∀ o, plan.opening = some o → s.openings.get? o.id = some o
  currency : plan.proof.account.currency = "USD"

variable {plan : CapturePlan}

theorem PlanRooted.retained (h : PlanRooted s plan) (hret : Retained s s') : PlanRooted s' plan :=
  ⟨h.rooted.retained hret, fun o ho => hret.opening? (h.opening o ho), h.currency⟩

structure AnchorInv (v : CapitalViews) (w : CapitalWorld) : Prop where
  anchors : ∀ a ∈ w.store.anchors.rows, AnchorSound v w.store a.payload
  coverages : ∀ c ∈ w.store.coverages.rows,
    Rooted w.store c.payload.bootstrapOpeningId c.payload.coverageStart
  plans : ∀ plan ∈ w.pending, PlanRooted w.store plan
  rows : ∀ r ∈ w.store.anchorIndex.rows, r.scope = w.store.scope v ∧
    ∃ a, w.store.anchors.get? r.id = some a ∧ a.payload.riskDay = r.riskDay

variable {v : CapitalViews}

theorem mem_newestAnchors {a : Filed AccountRiskAnchor} (h : a ∈ s.newestAnchors v) :
    s.anchors.get? a.id = some a := by
  have hmem := List.mem_of_mem_take h
  obtain ⟨r, _, hr⟩ := List.mem_filterMap.1 hmem
  obtain ⟨_, hid⟩ := Table.get?_some hr; rw [hid]; exact hr

variable {o : Filed SessionOpening} {captured now : Int} {i : Option String}

theorem newestOpening_mem (h : newestOpening v s now i = some o) :
    s.openings.get? o.id = some o ∧ ∀ id, i = some id → o.id = id := by
  obtain ⟨r, hr, hget⟩ := List.mem_filterMap.1 (List.mem_of_head? h)
  rw [List.mem_insertionSort, List.mem_filter] at hr
  obtain ⟨_, hid⟩ := Table.get?_some hget; refine ⟨hid ▸ hget, fun id hi => ?_⟩
  exact hid.trans ((of_decide_eq_true hr.2).2.2.2.2 id hi)

theorem trustedOpening_mem (h : trustedOpening v s now i = some o) :
    s.openings.get? o.id = some o ∧ ∀ id, i = some id → o.id = id :=
  newestOpening_mem (Option.filter_eq_some_iff.1 h).1

/-! ## Steps -/

variable {w : CapitalWorld} {proof : ReconciliationProof}

theorem planRooted_begin (hinv : AnchorInv v w)
    (h : beginCapture v w.store proof now = .ok (.fetch plan)) : PlanRooted w.store plan := by
  have hcurrency : proof.account.currency = "USD" := by
    unfold beginCapture at h; split at h
    · cases h
    split at h
    · cases h
    split at h
    · cases h
    split at h
    · cases h
    · next hfunds => exact not_not.1 (not_or.1 hfunds).2
  obtain ⟨policyId, bootstrapId, coverageStart, rfl, hlineage, _, _⟩ := beginCapture_plan h
  refine ⟨?_, fun o ho => (trustedOpening_mem ho).1, hcurrency⟩
  unfold lineage at hlineage; split at hlineage
  · next a ha =>
    cases hlineage; have hmem := mem_newestAnchors (List.mem_of_head? ha)
    exact (hinv.anchors a (Table.get?_some hmem).1).rooted
  · next p _ hp =>
    cases hlineage; obtain ⟨id, _, hget⟩ := Option.bind_eq_some_iff.1 hp
    exact hinv.coverages p (Table.get?_some hget).1
  · next o _ _ ho =>
    cases hlineage; exact ⟨o, (trustedOpening_mem ho).1, rfl⟩
  · cases hlineage

variable {source : ContinuousActivityCoverage}

theorem captureReasons_nil {known : List String} (h : captureReasons source proof known = []) :
    source.protocolComplete = true ∧ proof.recordedAt ≤ source.activityWatermark ∧ known = [] := by
  obtain ⟨h₁₂, h₃⟩ := List.append_eq_nil_iff.1 h
  obtain ⟨h₁, h₂⟩ := List.append_eq_nil_iff.1 h₁₂; refine ⟨?_, ?_, ?_⟩
  · by_contra hne; rw [if_neg hne] at h₁; cases h₁
  · by_contra hlt; rw [if_pos (not_le.1 hlt)] at h₂; cases h₂
  · by_contra hne; rw [if_pos hne] at h₃; cases h₃

theorem knownFlows_kept (hret : Retained s s') (hlegacy : s'.legacyFlows = s.legacyFlows)
    {f : String} (hf : f ∈ s.knownFlows v) : f ∈ s'.knownFlows v := by
  unfold CapitalStore.knownFlows CapitalStore.flowDocuments at *
  rw [mem_sortedIds, List.mem_append, List.mem_flatMap] at *
  rcases hf with ⟨c, hc, hf⟩ | hf
  · obtain ⟨r, hr, hget⟩ := List.mem_filterMap.1 hc
    obtain ⟨hrow, hscope⟩ := List.mem_filter.1 hr
    obtain ⟨d, hd, rfl⟩ := Option.map_eq_some_iff.1 hget
    refine .inl ⟨d.payload, List.mem_filterMap.2 ⟨r, ?_, ?_⟩, hf⟩
    · refine List.mem_filter.2 ⟨hret.flowIndex r hrow, ?_⟩; rw [hret.scope v]
      exact hscope
    · rw [hret.coverage? hd]; rfl
  · exact .inr (hlegacy ▸ hf)

/-- The predecessor a capture picks for the day of its proof. -/
def predecessorOf (v : CapitalViews) (s : CapitalStore) (plan : CapturePlan) :
    Option (Filed AccountRiskAnchor) :=
  (s.newestAnchors v).find? fun a => decide (a.payload.riskDay < v.day plan.proof.recordedAt)

def newAnchor (v : CapitalViews) (s : CapitalStore) (plan : CapturePlan) (sourceId : String)
    (captured : Int) (h : 0 < plan.proof.account.equity) : AccountRiskAnchor :=
  anchorOf v s plan sourceId captured (predecessorOf v s plan) h

/-- A write that stores a new anchor. -/
structure AnchorCreated (v : CapitalViews) (plan : CapturePlan)
    (source : ContinuousActivityCoverage) (captured : Int) (s s' : CapitalStore) : Prop where
  cursor : s.cursor v = plan.cursor
  complete : source.protocolComplete = true
  recorded : plan.proof.recordedAt ≤ source.activityWatermark
  known : s.knownFlows v = []
  unflowed : (∀ r ∈ s.flowIndex.rows, r.reference = s.scope v) → source.externalFlowIds = []
  filed : s'.coverages.get? (v.coverageId source) = some ⟨v.coverageId source, source⟩
  fresh : (s.newestAnchors v).find?
    (fun a => decide (a.payload.riskDay = v.day plan.proof.recordedAt)) = none
  stored : ∃ hpos : 0 < plan.proof.account.equity,
    s.anchors.put (v.anchorId (newAnchor v s plan (v.coverageId source) captured hpos))
        (newAnchor v s plan (v.coverageId source) captured hpos) = .ok s'.anchors ∧
      s'.anchorIndex = s.anchorIndex.insert
        ⟨v.anchorId (newAnchor v s plan (v.coverageId source) captured hpos), s.scope v,
          v.day plan.proof.recordedAt, captured⟩

/-- What the write changes besides the capital tables: nothing. -/
structure CapitalOnly (s s' : CapitalStore) : Prop where
  paper : s'.toPaperStore = s.toPaperStore
  openings : s'.openings = s.openings
  openingIndex : s'.openingIndex = s.openingIndex
  timeEvidence : s'.timeEvidence = s.timeEvidence

theorem CapitalOnly.trustedOpening (h : CapitalOnly s s') (v : CapitalViews) (now : Int)
    (i : Option String) : trustedOpening v s' now i = trustedOpening v s now i := by
  obtain ⟨hp, ho, hi, ht⟩ := h; cases s; cases s'; cases hp; cases ho; cases hi
  cases ht; rfl

variable {r : Except String String}

theorem Finishing.capitalOnly (h : Finishing v plan source captured s r s') : CapitalOnly s s' := by
  have hnote : ∀ {t}, Noted v source s t → CapitalOnly s t := by
    intro t ht; obtain ⟨_, _, rfl⟩ := ht.rest; exact ⟨rfl, rfl, rfl, rfl⟩
  cases h with
  | flows _ _ hnoted => exact hnote hnoted
  | behind _ _ => exact ⟨rfl, rfl, rfl, rfl⟩
  | receipt hcursor hnoted hmoved hanchor hreceipt hput hs' =>
    obtain ⟨hp, ho, hi, ht⟩ := hnote hnoted; obtain ⟨_, rfl⟩ := hmoved.rest
    subst hs'; cases hanchor <;> exact ⟨hp, ho, hi, ht⟩

theorem Finishing.anchors (h : Finishing v plan source captured s r s') :
    (s'.anchors = s.anchors ∧ s'.anchorIndex = s.anchorIndex) ∨
      AnchorCreated v plan source captured s s' := by
  have hnote : ∀ {t}, Noted v source s t →
      t.anchors = s.anchors ∧ t.anchorIndex = s.anchorIndex := by
    intro t ht; obtain ⟨_, _, rfl⟩ := ht.rest; exact ⟨rfl, rfl⟩
  cases h with
  | flows _ _ hnoted => exact .inl (hnote hnoted)
  | behind _ _ => exact .inl ⟨rfl, rfl⟩
  | receipt hcursor hnoted hmoved hanchor hreceipt hput hs' =>
    rename_i s₁ s₂ s₃ anchor reasons receipt receipts
    have hcoverages : s'.coverages = s₁.coverages := by
      rw [hs']; exact hanchor.coverages.trans hmoved.coverages
    have hscoped := fun hs => hnoted.flowsScoped (v := v) hs
    have hret := trans_of Retained hnoted.retained hmoved.retained
    obtain ⟨coverages, flowIndex, hnote'⟩ := hnoted.rest
    obtain ⟨cursors, hmove'⟩ := hmoved.rest
    have hanchors : s₂.anchors = s.anchors := by
      rw [hmove', hnote']
    have hindex : s₂.anchorIndex = s.anchorIndex := by
      rw [hmove', hnote']
    have hnewest : s₂.newestAnchors v = s.newestAnchors v := by
      rw [hmove', hnote']; rfl
    have hflows : s₂.flowIndex = s₁.flowIndex := by
      rw [hmove']
    generalize hknown : captureReasons source plan.proof (s₂.knownFlows v) = known at hanchor
    cases hanchor with
    | found _ _ | missing _ =>
      left; rw [hs']; exact ⟨hanchors, hindex⟩
    | created hpos hnone hday hpred hanchorput =>
      right; rw [hnone] at hknown
      obtain ⟨hcomplete, hrecorded, hempty⟩ := captureReasons_nil hknown
      refine ⟨hcursor, hcomplete, hrecorded, ?_, fun hs => ?_, hcoverages ▸ hnoted.filed,
        hnewest ▸ hday, hpos, ?_⟩
      · refine List.eq_nil_iff_forall_not_mem.2 fun f hf => ?_
        have := knownFlows_kept hret (by rw [hmove', hnote']) hf
        rw [hempty] at this; cases this
      · by_contra hne
        obtain ⟨row, hrow⟩ := Option.isSome_iff_exists.1 (hnoted.indexed hne)
        obtain ⟨hmem, hid⟩ := Table.get?_some hrow
        have hdoc : s₂.coverages.get? (v.coverageId source) =
            some ⟨v.coverageId source, source⟩ := hmoved.coverages ▸ hnoted.filed
        have hc : FlowIndexed v s₂ ⟨v.coverageId source, source⟩ := by
          refine ⟨hdoc, row, hflows ▸ hmem, hid, ?_⟩
          exact (hscoped hs row hmem).trans (hmoved.retained.scope v).symm
        obtain ⟨f, hf⟩ := List.exists_mem_of_ne_nil _ hne; have := hc.known f hf
        rw [hempty] at this; cases this
      · have hanchor : ∀ p, anchorOf v s₂ plan (v.coverageId source) captured p hpos =
            anchorOf v s plan (v.coverageId source) captured p hpos := by
          intro p; unfold anchorOf; rw [hret.binding]
        subst hpred; rw [hanchor, hanchors, hnewest] at hanchorput
        rw [hs', hindex, hanchor, hnewest, hret.scope v]
        exact ⟨hanchorput, rfl⟩

theorem anchorOf_riskDay (v : CapitalViews) (s : CapitalStore) (plan : CapturePlan)
    (sourceId : String) (captured : Int) (p : Option (Filed AccountRiskAnchor))
    (h : 0 < plan.proof.account.equity) :
    (anchorOf v s plan sourceId captured p h).riskDay = v.day plan.proof.recordedAt :=
  v.day_midnight _

variable {p : Filed AccountRiskAnchor}

theorem predecessorOf_mem (h : predecessorOf v s plan = some p) :
    s.anchors.get? p.id = some p ∧ p.payload.riskDay < v.day plan.proof.recordedAt := by
  refine ⟨mem_newestAnchors (List.mem_of_find?_eq_some h), ?_⟩
  simpa using List.find?_some h

theorem newAnchor_carried (hplan : PlanRooted s plan) (sourceId : String) (captured : Int)
    (h : 0 < plan.proof.account.equity) :
    FloorCarried s (newAnchor v s plan sourceId captured h) := by
  refine ⟨?_, fun id hid => ?_, fun id hid => ?_⟩
  · exact (le_max_left _ _).trans (le_max_left _ _)
  · obtain ⟨o, ho, rfl⟩ := Option.map_eq_some_iff.1 hid
    refine ⟨o, hplan.opening o ho, ?_⟩
    show o.payload.equity ≤ carriedFloor plan _; unfold carriedFloor; rw [ho]
    exact le_max_right _ _
  · obtain ⟨p, hp, rfl⟩ := Option.map_eq_some_iff.1 hid
    obtain ⟨hget, hday⟩ := predecessorOf_mem hp
    refine ⟨p, hget, (anchorOf_riskDay v s plan sourceId captured _ h).symm ▸ hday, ?_⟩
    show p.payload.equityFloor ≤ carriedFloor plan _; rw [hp]
    exact (le_max_right _ _).trans (le_max_left _ _)

variable {rows : List Activity}

theorem OnCursor.finish (ha : OnCursor v s a) (hsound : PlanSound v s plan)
    (h : Finishing v plan (coverageOf v s plan rows captured) captured s r s') :
    OnCursor v s' a := by
  obtain ⟨id, c, hcursor, hc, hbootstrap, hstart⟩ := ha
  rcases h.cursor with hsame | ⟨_, hread, hnew, hfiled⟩
  · exact ⟨id, c, hsame.trans hcursor, h.retained.coverage? hc, hbootstrap, hstart⟩
  obtain ⟨c', hc', _, hs, hb, _, _⟩ := hsound.behind id (hread.symm.trans hcursor)
  have hsame : some (Filed.mk id c) = some ⟨id, c'⟩ := hc.symm.trans hc'
  cases hsame; exact ⟨_, _, hnew, hfiled, hbootstrap.trans hb, hstart.trans hs⟩

theorem AnchorSound.finish (ha : AnchorSound v s a) (hsound : PlanSound v s plan)
    (h : Finishing v plan (coverageOf v s plan rows captured) captured s r s') :
    AnchorSound v s' a :=
  ⟨ha.carried.retained h.retained, ha.rooted.retained h.retained,
    ha.accountId.trans (by rw [h.retained.config]), ha.storeIdentity.trans h.retained.storeIdentity.symm,
    ha.onCursor.finish hsound h⟩

theorem newAnchor_sound (hplan : PlanRooted s plan)
    (h : Finishing v plan (coverageOf v s plan rows captured) captured s r s')
    (hcreated : AnchorCreated v plan (coverageOf v s plan rows captured) captured s s')
    (hpos : 0 < plan.proof.account.equity) : AnchorSound v s'
      (newAnchor v s plan (v.coverageId (coverageOf v s plan rows captured)) captured hpos) := by
  refine ⟨(newAnchor_carried hplan _ _ hpos).retained h.retained,
    hplan.rooted.retained h.retained, ?_, ?_, ?_⟩
  · rw [h.retained.config]; rfl
  · rw [h.retained.storeIdentity]; rfl
  · obtain ⟨hcursor, hfiled⟩ := h.moved hcreated.cursor hcreated.complete
    exact ⟨_, _, hcursor, hfiled, rfl, rfl⟩

theorem Finishing.documents (h : Finishing v plan source captured s r s') :
    ∀ c ∈ s'.coverages.rows, c ∈ s.coverages.rows ∨ c = ⟨v.coverageId source, source⟩ := by
  cases h with
  | flows _ _ hnoted => exact hnoted.only
  | behind _ _ => exact fun c hc => .inl hc
  | receipt hcursor hnoted hmoved hanchor hreceipt hput hs' =>
    intro c hc; rw [hs'] at hc; rw [hanchor.coverages, hmoved.coverages] at hc
    exact hnoted.only c hc

variable {pending : List CapturePlan}

theorem anchorInv_finish (hinv : AnchorInv v ⟨s, pending⟩) (hsound : PlanSound v s plan)
    (hmem : plan ∈ pending)
    (h : Finishing v plan (coverageOf v s plan rows captured) captured s r s') :
    AnchorInv v ⟨s', pending.erase plan⟩ := by
  have hret := h.retained; have hplan := hinv.plans plan hmem
  have hrows : ∀ r ∈ s.anchorIndex.rows, r.scope = s'.scope v ∧
      ∃ a, s'.anchors.get? r.id = some a ∧ a.payload.riskDay = r.riskDay := by
    intro r hr; obtain ⟨hscope, a, ha, hday⟩ := hinv.rows r hr
    exact ⟨hscope.trans (hret.scope v).symm, a, hret.anchor? ha, hday⟩
  have hold : ∀ a ∈ s.anchors.rows, AnchorSound v s' a.payload :=
    fun a ha => (hinv.anchors a ha).finish hsound h
  refine ⟨?_, ?_, fun p hp => (hinv.plans p (List.mem_of_mem_erase hp)).retained hret, ?_⟩
  · intro a ha; rcases h.anchors with ⟨hsame, _⟩ | hcreated
    · exact hold a (hsame ▸ ha)
    obtain ⟨hpos, hput, _⟩ := hcreated.stored
    rcases (FiledTable.put_ok hput).2.2 a ha with ha | rfl
    · exact hold a ha
    · exact newAnchor_sound hplan h hcreated hpos
  · intro c hc; rcases h.documents c hc with hc | rfl
    · exact (hinv.coverages c hc).retained hret
    · exact hplan.rooted.retained hret
  · intro r hr; rcases h.anchors with ⟨_, hsame⟩ | hcreated
    · exact hrows r (hsame ▸ hr)
    obtain ⟨hpos, hput, hindex⟩ := hcreated.stored; rw [hindex] at hr
    rcases Table.mem_of_mem_insert hr with hr | rfl
    · exact hrows r hr
    · refine ⟨(hret.scope v).symm, _, (FiledTable.put_ok hput).2.1, ?_⟩
      exact anchorOf_riskDay v s plan _ captured _ hpos

theorem anchorInv_step {w' : CapitalWorld} {l : CapitalLabel} (hinv : AnchorInv v w)
    (hcov : CoverageInv v w) (h : (capturing v).step w l w') : AnchorInv v w' := by
  have hret := capturing_retained h
  cases h with
  | begin proof now =>
    refine ⟨hinv.anchors, hinv.coverages, fun plan hplan => ?_, hinv.rows⟩
    unfold begunPending at hplan; split at hplan
    · next p hbegin =>
      rcases List.mem_cons.1 hplan with rfl | hold
      · exact planRooted_begin (w := w) hinv hbegin
      · exact hinv.plans plan hold
    · exact hinv.plans plan hplan
  | abandon plan =>
    exact ⟨hinv.anchors, hinv.coverages, fun p hp => hinv.plans p (List.mem_of_mem_erase hp),
      hinv.rows⟩
  | other hother =>
    refine ⟨fun a ha => ?_, fun c hc => ?_, fun p hp => (hinv.plans p hp).retained hret,
      fun r hr => ?_⟩
    · obtain ⟨hcarried, hrooted, haccount, hstore, id, c, hcursor, hc, hrest⟩ :=
        hinv.anchors a (hother.anchors ▸ ha)
      exact ⟨hcarried.retained hret, hrooted.retained hret, haccount.trans (by rw [hret.config]),
        hstore.trans hret.storeIdentity.symm, id, c,
        (cursor_congr hret hother.cursors).trans hcursor, hret.coverage? hc, hrest⟩
    · exact (hinv.coverages c (hother.coverages ▸ hc)).retained hret
    · obtain ⟨hscope, a, ha, hday⟩ := hinv.rows r (hother.anchorIndex ▸ hr)
      exact ⟨hscope.trans (hret.scope v).symm, a, hret.anchor? ha, hday⟩
  | finish replies captured hmem =>
    rename_i plan
    rcases completeCapture_after v plan replies captured w.store with
      hsame | ⟨_, _, _, _, hcases⟩
    · have hpending : ∀ p ∈ w.pending.erase plan, PlanRooted w.store p :=
        fun p hp => hinv.plans p (List.mem_of_mem_erase hp)
      rw [hsame]; exact ⟨hinv.anchors, hinv.coverages, hpending, hinv.rows⟩
    · exact anchorInv_finish hinv (hcov.plans plan hmem) hmem hcases

theorem anchorInv_inductive (v : CapitalViews) :
    (capturing v).Inductive fun w => FlowsScoped v w ∧ CoverageInv v w ∧ AnchorInv v w where
  init := by
    intro w hw
    refine ⟨(flowsScoped_inductive v).init w hw, (coverageInv_inductive v).init w hw, ?_⟩
    obtain ⟨hpending, hcoverages, hanchors, hindex, _, _, _, _⟩ := hw
    refine ⟨?_, ?_, ?_, ?_⟩
    · rw [hanchors]; exact fun a ha => by cases ha
    · rw [hcoverages]; exact fun c hc => by cases hc
    · rw [hpending]; exact fun p hp => by cases hp
    · rw [hindex]; exact fun r hr => by cases hr
  step _ _ _ h hst := ⟨flowsScoped_step h.1 hst, coverageInv_step h.2.1 hst,
    anchorInv_step h.2.2 h.2.1 hst⟩

/-! ## The newest anchor -/

theorem newestAnchors_head (hinv : AnchorInv v w) (hne : w.store.anchorIndex.rows ≠ []) :
    ∃ r ∈ w.store.anchorIndex.rows, ∃ a, w.store.anchors.get? r.id = some a ∧
      (w.store.newestAnchors v).head? = some a ∧
      ∀ x ∈ w.store.anchorIndex.rows, textRank x.availableAt ≤ textRank r.availableAt := by
  have hfilter : (w.store.anchorIndex.rows.filter fun r => decide (r.scope = w.store.scope v)) =
      w.store.anchorIndex.rows := by
    rw [List.filter_eq_self]
    exact fun r hr => decide_eq_true (hinv.rows r hr).1
  have hmem : ∀ x, x ∈ w.store.anchorIndex.rows.insertionSort
      (fun a b => textRank b.availableAt ≤ textRank a.availableAt) ↔
      x ∈ w.store.anchorIndex.rows := fun x => List.mem_insertionSort _
  have hsorted := List.pairwise_insertionSort
    (fun a b : AnchorRow => textRank b.availableAt ≤ textRank a.availableAt)
    w.store.anchorIndex.rows
  unfold CapitalStore.newestAnchors; rw [hfilter]
  generalize hl : w.store.anchorIndex.rows.insertionSort
    (fun a b => textRank b.availableAt ≤ textRank a.availableAt) = l at hmem hsorted
  cases l with
  | nil =>
    obtain ⟨x, hx⟩ := List.exists_mem_of_ne_nil _ hne; cases (hmem x).2 hx
  | cons r rest =>
    have hr := (hmem r).1 List.mem_cons_self
    obtain ⟨_, a, ha, _⟩ := hinv.rows r hr
    refine ⟨r, hr, a, ha, ?_, fun x hx => ?_⟩
    · simp only [List.filterMap_cons, ha]; rfl
    · rcases List.mem_cons.1 ((hmem x).2 hx) with rfl | hrest
      · exact le_refl _
      · exact (List.pairwise_cons.1 hsorted).1 x hrest

theorem predecessorOf_newest (hinv : AnchorInv v w)
    (hdays : ∀ r ∈ w.store.anchorIndex.rows, r.riskDay < v.day plan.proof.recordedAt) :
    predecessorOf v w.store plan = (w.store.newestAnchors v).head? := by
  unfold predecessorOf
  cases hlist : w.store.newestAnchors v with
  | nil => rfl
  | cons a rest =>
    have ha : a ∈ w.store.newestAnchors v := hlist ▸ List.mem_cons_self
    obtain ⟨r, hr, hget⟩ := List.mem_filterMap.1 (List.mem_of_mem_take ha)
    rw [List.mem_insertionSort, List.mem_filter] at hr
    obtain ⟨_, a', ha', hday⟩ := hinv.rows r hr.1
    have hsame : a = a' := Option.some.inj (hget.symm.trans ha')
    rw [List.find?_cons_of_pos]
    · rfl
    · rw [hsame, hday]; exact decide_eq_true (hdays r hr.1)

/-! ## Runs that carry the floor -/

/-- A capture that comes to create its day's anchor. -/
structure OpensDay (v : CapitalViews) (s : CapitalStore) (plan : CapturePlan)
    (replies : List ActivityReply) (captured : Int) : Prop where
  cursor : s.cursor v = plan.cursor
  cleared : entryInventoryObjections v.contentId v.fundsId s.toPaperStore plan.proof captured
    true = .ok []
  rows : ∃ rows, captureRows plan replies = .ok rows ∧
    (activityFlags rows plan.limit).valid = true ∧
    sortedIds (activityFlags rows plan.limit).flows = []
  known : s.knownFlows v = []
  recorded : plan.proof.recordedAt ≤ plan.limit
  fresh : (s.newestAnchors v).find?
    (fun a => decide (a.payload.riskDay = v.day plan.proof.recordedAt)) = none

/-- What such a capture has to meet: the clock and the text order put it behind every
anchor, and at the time of its proof its openings are trusted, the one coverage began
with no higher than the floor where it stands in for the day's. -/
structure CarriesFloor (v : CapitalViews) (s : CapitalStore) (plan : CapturePlan)
    (captured : Int) : Prop where
  lane : s.config.evidenceLane = .brokerPaper
  recorded : plan.proof.recordedAt ≤ captured
  behind : ∀ r ∈ s.anchorIndex.rows, r.riskDay < v.day plan.proof.recordedAt ∧
    textRank r.availableAt < textRank captured
  bootstrap : ∃ o ∈ trustedOpening v s plan.proof.recordedAt (some plan.bootstrapId),
    plan.opening = none → o.payload.equity ≤ carriedFloor plan (s.newestAnchors v).head?
  opening : ∀ o ∈ plan.opening,
    (trustedOpening v s plan.proof.recordedAt (some o.id)).isSome

def FloorKept (v : CapitalViews) (w : CapitalWorld) (l : CapitalLabel) (_ : CapitalWorld) : Prop :=
  match l with
  | .finish plan replies captured =>
    OpensDay v w.store plan replies captured → CarriesFloor v w.store plan captured
  | _ => True

/-- The later anchor is of a later day, in the order of the text too, and its floor is
no lower. -/
structure Succeeds (s : CapitalStore) (r r' : AnchorRow) : Prop where
  day : r.riskDay < r'.riskDay
  text : textRank r.availableAt < textRank r'.availableAt
  floor : ∃ a a', s.anchors.get? r.id = some a ∧ s.anchors.get? r'.id = some a' ∧
    a.payload.equityFloor ≤ a'.payload.equityFloor

/-- The account's anchors, in the order they were stored. -/
def FloorsAscend (s : CapitalStore) : Prop := s.anchorIndex.rows.Pairwise (Succeeds s)

theorem Succeeds.retained {r r' : AnchorRow} (h : Succeeds s r r') (hret : Retained s s') :
    Succeeds s' r r' := by
  obtain ⟨a, a', ha, ha', hle⟩ := h.floor
  exact ⟨h.day, h.text, a, a', hret.anchor? ha, hret.anchor? ha', hle⟩

theorem FloorsAscend.of_index (h : FloorsAscend s) (hret : Retained s s')
    (hindex : s'.anchorIndex = s.anchorIndex) : FloorsAscend s' := by
  unfold FloorsAscend; rw [hindex]; exact h.imp fun hr => hr.retained hret

theorem AnchorCreated.opensDay {v : CapitalViews} {plan : CapturePlan} {rows : List Activity}
    {replies : List ActivityReply} {captured : Int} {s s' : CapitalStore}
    (h : AnchorCreated v plan (coverageOf v s plan rows captured) captured s s')
    (hrows : captureRows plan replies = .ok rows)
    (hcleared : entryInventoryObjections v.contentId v.fundsId s.toPaperStore plan.proof captured
      true = .ok []) (hscoped : ∀ r ∈ s.flowIndex.rows, r.reference = s.scope v) :
    OpensDay v s plan replies captured :=
  ⟨h.cursor, hcleared, ⟨rows, hrows, h.complete, h.unflowed hscoped⟩, h.known, h.recorded,
    h.fresh⟩

theorem floorsAscend_created {v : CapitalViews} {s s' : CapitalStore} {pending : List CapturePlan}
    {plan : CapturePlan} {source : ContinuousActivityCoverage} {captured : Int}
    (hinv : AnchorInv v ⟨s, pending⟩) (hasc : FloorsAscend s) (hret : Retained s s')
    (hcreated : AnchorCreated v plan source captured s s')
    (hbehind : ∀ r ∈ s.anchorIndex.rows, r.riskDay < v.day plan.proof.recordedAt ∧
      textRank r.availableAt < textRank captured) : FloorsAscend s' := by
  obtain ⟨hpos, hput, hindex⟩ := hcreated.stored; unfold FloorsAscend
  rw [hindex]
  refine Table.pairwise_insert (hasc.imp fun hr => hr.retained hret) fun r hr => ?_
  obtain ⟨hday, htext⟩ := hbehind r hr; refine ⟨hday, htext, ?_⟩
  obtain ⟨_, a, ha, _⟩ := hinv.rows r hr
  refine ⟨a, _, hret.anchor? ha, (FiledTable.put_ok hput).2.1, ?_⟩
  obtain ⟨n, hn, p, hp, hhead, hmax⟩ :=
    newestAnchors_head hinv (List.ne_nil_of_mem hr)
  have hpred : predecessorOf v s plan = some p :=
    (predecessorOf_newest hinv fun x hx => (hbehind x hx).1).trans hhead
  have hle : a.payload.equityFloor ≤ p.payload.equityFloor := by
    rcases eq_or_ne r n with rfl | hne
    · rw [Option.some.inj (ha.symm.trans hp)]
    have : Std.Symm fun x y => Succeeds s x y ∨ Succeeds s y x := ⟨fun _ _ => Or.symm⟩
    have hor : s.anchorIndex.rows.Pairwise fun x y => Succeeds s x y ∨ Succeeds s y x :=
      hasc.imp .inl
    rcases hor.forall hr hn hne with hrn | hnr
    · obtain ⟨b, c, hb, hc, hbc⟩ := hrn.floor
      rw [Option.some.inj (ha.symm.trans hb), Option.some.inj (hp.symm.trans hc)]
      exact hbc
    · exact absurd hnr.text (not_lt.2 (hmax r hr))
  refine hle.trans ?_
  show p.payload.equityFloor ≤ carriedFloor plan (predecessorOf v s plan)
  rw [hpred]; exact (le_max_right _ _).trans (le_max_left _ _)

theorem bootstrap_of_rooted {b : String} {t : Int} (h : Rooted s b t)
    (ho : s.openings.get? b = some o) : o.payload.sessionOpen = t := by
  obtain ⟨o', ho', hstart⟩ := h; rw [Option.some.inj (ho.symm.trans ho')]
  exact hstart

/-- The predecessor a capture on the cursor picks names the capture's own coverage. -/
theorem predecessor_bound (hinv : AnchorInv v ⟨s, pending⟩)
    (hsound : PlanSound v s plan) (hcursor : s.cursor v = plan.cursor)
    (hp : predecessorOf v s plan = some p) (sourceId : String) (captured : Int)
    (h : 0 < plan.proof.account.equity) :
    PredecessorBound (newAnchor v s plan sourceId captured h) p.payload := by
  obtain ⟨hget, hday⟩ := predecessorOf_mem hp
  obtain ⟨_, _, haccount, hstore, id, c, hc, hdoc, hbootstrap, hstart⟩ :=
    hinv.anchors p (Table.get?_some hget).1
  obtain ⟨c', hc', _, hstart', hbootstrap', _, _⟩ := hsound.behind id (hcursor.symm.trans hc)
  have hsame : some (Filed.mk id c) = some ⟨id, c'⟩ := hdoc.symm.trans hc'
  cases hsame
  exact ⟨hday.trans_eq (anchorOf_riskDay v s plan sourceId captured _ h).symm, haccount, hstore,
    hbootstrap.trans hbootstrap', hstart.trans hstart'⟩

theorem newAnchor_verified (hinv : AnchorInv v ⟨s, pending⟩) (hsound : PlanSound v s plan)
    (hmem : plan ∈ pending) (hscoped : ∀ r ∈ s.flowIndex.rows, r.reference = s.scope v)
    (hcleared : InventoryCleared v.contentId s.toPaperStore plan.proof captured true)
    (h : Finishing v plan (coverageOf v s plan rows captured) captured s r s')
    (hcreated : AnchorCreated v plan (coverageOf v s plan rows captured) captured s s')
    (hfloor : CarriesFloor v s plan captured) (hpos : 0 < plan.proof.account.equity) :
    AnchorVerified v s' (newAnchor v s plan (v.coverageId (coverageOf v s plan rows captured))
      captured hpos) captured := by
  have hret := h.retained; have honly := h.capitalOnly
  have hplan := hinv.plans plan hmem
  obtain ⟨bootstrap, hbootstrap, hstands⟩ := hfloor.bootstrap
  obtain ⟨hbget, hbid⟩ := trustedOpening_mem hbootstrap
  have hstart : bootstrap.payload.sessionOpen = plan.coverageStart :=
    bootstrap_of_rooted hplan.rooted (hbid _ rfl ▸ hbget)
  have hpredecessor : predecessorOf v s plan = (s.newestAnchors v).head? :=
    predecessorOf_newest hinv fun r hr => (hfloor.behind r hr).1
  -- the stock opening: the day's, or the one coverage began with
  obtain ⟨stock, hstock, hstockfloor⟩ : ∃ stock,
      trustedOpening v s plan.proof.recordedAt
        (some ((plan.opening.map (·.id)).getD plan.bootstrapId)) = some stock ∧
      stock.payload.equity ≤ carriedFloor plan (predecessorOf v s plan) := by
    cases hopening : plan.opening with
    | none =>
      rw [hpredecessor]; exact ⟨bootstrap, hbootstrap, hstands hopening⟩
    | some o =>
      obtain ⟨stock, hstock⟩ := Option.isSome_iff_exists.1 (hfloor.opening o hopening)
      refine ⟨stock, hstock, ?_⟩
      obtain ⟨hget, hid⟩ := trustedOpening_mem hstock
      have hsame : o = stock :=
        Option.some.inj ((hplan.opening o hopening).symm.trans (hid _ rfl ▸ hget))
      unfold carriedFloor; rw [hopening, ← hsame]; exact le_max_right _ _
  have hpredecessors : ((predecessorOf v s plan).map (·.id)).bind s'.anchors.get? =
      predecessorOf v s plan := by
    cases hp : predecessorOf v s plan with
    | none => rfl
    | some p => exact hret.anchor? (predecessorOf_mem hp).1
  have hproof : s'.proof? (v.contentId (.proof plan.proof)) = some plan.proof := by
    rw [honly.paper]; exact hcleared.stored
  have hempty := hcreated.unflowed hscoped
  refine ⟨plan.proof, hproof, bootstrap, ?_, stock, ?_, ⟨_, coverageOf v s plan rows captured⟩,
    hcreated.filed, fun id hid => ?_, ?_⟩
  · exact (honly.trustedOpening v _ _).trans hbootstrap
  · exact (honly.trustedOpening v _ _).trans hstock
  · obtain ⟨p, hp, rfl⟩ := Option.map_eq_some_iff.1 hid
    exact ⟨p, hret.anchor? (predecessorOf_mem hp).1,
      predecessor_bound hinv hsound hcreated.cursor hp _ _ hpos⟩
  · have hfloorle : max (max plan.proof.account.equity stock.payload.equity)
        (((((predecessorOf v s plan).map (·.id)).bind s'.anchors.get?).map
          (·.payload.equityFloor)).getD 0) ≤ carriedFloor plan (predecessorOf v s plan) := by
      rw [hpredecessors]; refine max_le (max_le ?_ hstockfloor) ?_
      · exact (le_max_left _ _).trans (le_max_left _ _)
      · exact (le_max_right _ _).trans (le_max_left _ _)
    have hlane : plan.proof.evidenceLane = .brokerPaper := hcleared.evidenceLane.trans hfloor.lane
    unfold AnchorBound
    rw [hret.config, hret.storeIdentity, hret.configId, hret.scope v]
    refine ⟨rfl, hcleared.accountId.symm, rfl, rfl, rfl, rfl, rfl, hcleared.releaseId.symm, ?_,
      hlane, ?_, hplan.currency, rfl, rfl, rfl, rfl, hfloor.recorded, rfl, ?_, hfloorle,
      hstart.symm, hstart, ?_, rfl, hcreated.complete, hempty, hcreated.recorded, rfl⟩
    · exact hcleared.evidenceLane.symm
    · exact hplan.currency.symm
    · exact anchorOf_riskDay v s plan _ captured _ hpos
    · exact (hbid _ rfl).symm

theorem floorKept_step {w' : CapitalWorld} {l : CapitalLabel} (hscoped : FlowsScoped v w)
    (hcov : CoverageInv v w) (hinv : AnchorInv v w) (hasc : FloorsAscend w.store)
    (h : ((capturing v).restrict (FloorKept v)).step w l w') :
    FloorsAscend w'.store ∧ ∀ a ∈ w'.store.anchors.rows, a ∉ w.store.anchors.rows →
      ∃ plan replies captured, l = .finish plan replies captured ∧
        AnchorVerified v w'.store a.payload captured := by
  obtain ⟨hst, hkept⟩ := h; have hret := capturing_retained hst
  cases hst with
  | begin _ _ | abandon _ => exact ⟨hasc, fun a ha hnew => absurd ha hnew⟩
  | other hother =>
    exact ⟨hasc.of_index hret hother.anchorIndex,
      fun a ha hnew => absurd (hother.anchors ▸ ha) hnew⟩
  | finish replies captured hmem =>
    rename_i plan
    rcases completeCapture_after v plan replies captured w.store with
      hsame | ⟨rows, r, hrows, hcleared, hcases⟩
    · refine ⟨?_, fun a ha hnew => absurd ?_ hnew⟩
      · show FloorsAscend (after (completeCapture v plan replies captured) w.store)
        rw [hsame]; exact hasc
      · have ha : a ∈ (after (completeCapture v plan replies captured) w.store).anchors.rows := ha
        rw [hsame] at ha; exact ha
    · rcases hcases.anchors with ⟨hanchors, hindex⟩ | hcreated
      · exact ⟨hasc.of_index hret hindex, fun a ha hnew => absurd (hanchors ▸ ha) hnew⟩
      have hfloor := hkept (hcreated.opensDay hrows hcleared hscoped)
      refine ⟨floorsAscend_created hinv hasc hret hcreated hfloor.behind, fun a ha hnew => ?_⟩
      obtain ⟨hpos, hput, _⟩ := hcreated.stored
      rcases (FiledTable.put_ok hput).2.2 a ha with hold | rfl
      · exact absurd hold hnew
      · exact ⟨plan, replies, captured, rfl, newAnchor_verified hinv (hcov.plans plan hmem) hmem
          hscoped (entryInventory_cleared hcleared) hcases hcreated hfloor hpos⟩

theorem floorKept_inductive (v : CapitalViews) :
    ((capturing v).restrict (FloorKept v)).Inductive fun w =>
      (FlowsScoped v w ∧ CoverageInv v w ∧ AnchorInv v w) ∧ FloorsAscend w.store where
  init := by
    intro w hw; refine ⟨(anchorInv_inductive v).init w hw, ?_⟩
    obtain ⟨_, _, _, hindex, _⟩ := hw; unfold FloorsAscend; rw [hindex]
    exact List.Pairwise.nil
  step w l w' h hst := by
    obtain ⟨⟨hscoped, hcov, hinv⟩, hasc⟩ := h
    exact ⟨(anchorInv_inductive v).step w l w' ⟨hscoped, hcov, hinv⟩ hst.1,
      (floorKept_step hscoped hcov hinv hasc hst).1⟩

/-- **The carried floor.** Every anchor of every run carries at least its measured
equity, the equity of its day's opening and the floor of its predecessor, an anchor of
an earlier day. Over the runs whose captures meet `FloorKept` where they open a day,
each anchor of the account is of a later day than the ones stored before it and its
floor is no lower, and each new anchor verifies in the store it is stored in. -/
theorem carried_floor (v : CapitalViews) :
    (∀ w, (capturing v).Reachable w → ∀ a ∈ w.store.anchors.rows, FloorCarried w.store a.payload) ∧
    ∀ w, ((capturing v).restrict (FloorKept v)).Reachable w → FloorsAscend w.store ∧
      ∀ l w', ((capturing v).restrict (FloorKept v)).step w l w' →
        ∀ a ∈ w'.store.anchors.rows, a ∉ w.store.anchors.rows →
          ∃ plan replies captured, l = .finish plan replies captured ∧
            AnchorVerified v w'.store a.payload captured := by
  refine ⟨fun w hw a ha => ?_, fun w hw => ?_⟩
  · exact (((anchorInv_inductive v).reachable hw).2.2.anchors a ha).carried
  · obtain ⟨⟨hscoped, hcov, hinv⟩, hasc⟩ := (floorKept_inductive v).reachable hw
    exact ⟨hasc, fun l w' hst => (floorKept_step hscoped hcov hinv hasc hst).2⟩

/-- The first anchor of a run verifies. -/
theorem carried_floor_first : ∃ a ∈ tenthSecond.anchors.rows,
    AnchorVerified capitalViews tenthSecond a.payload (firstOpen + 11 * second) := by
  have hbegin : beginCapture capitalViews openedCapital firstProof (firstOpen + 10 * second) =
      .ok (.fetch earlyPlan) := by decide
  have hpending : begunPending capitalViews ⟨openedCapital, []⟩ firstProof
      (firstOpen + 10 * second) = [earlyPlan] := by
    unfold begunPending; rw [hbegin]
  have hone := CapitalStep.begin (v := capitalViews) ⟨openedCapital, []⟩ firstProof
    (firstOpen + 10 * second)
  have hreach : ((capturing capitalViews).restrict (FloorKept capitalViews)).Reachable
      ⟨openedCapital, [earlyPlan]⟩ :=
    ⟨⟨openedCapital, []⟩, [.begin firstProof (firstOpen + 10 * second)], openedCapital_init,
      .cons ⟨hone, trivial⟩ (.nil _)⟩
  have hfloor : CarriesFloor capitalViews openedCapital earlyPlan (firstOpen + 11 * second) := by
    refine ⟨rfl, by decide, fun r hr => ?_, by decide, by decide⟩
    cases hr
  have hst := CapitalStep.finish (v := capitalViews) ⟨openedCapital, [earlyPlan]⟩ [.page []]
    (firstOpen + 11 * second) (List.mem_singleton_self earlyPlan)
  have hstored : ∃ a ∈ tenthSecond.anchors.rows, a ∉ openedCapital.anchors.rows := by
    decide
  obtain ⟨a, ha, hnew⟩ := hstored
  obtain ⟨_, _, captured, hlabel, hverified⟩ := ((carried_floor capitalViews).2 _ hreach).2 _ _
    ⟨hst, fun _ => hfloor⟩ a ha hnew
  cases hlabel; exact ⟨a, ha, hverified⟩

/-! ## A revoked bootstrap -/

def planAt (s : CapitalStore) (proof : ReconciliationProof) (now : Int) : Option CapturePlan :=
  match beginCapture capitalViews s proof now with
  | .ok (.fetch plan) => some plan
  | _ => none

/-- A capture that nothing interrupts, with an empty page. -/
def captureAt (s : CapitalStore) (proof : ReconciliationProof) (now : Int) : CapitalStore :=
  match planAt s proof now with
  | some plan => after (completeCapture capitalViews plan [.page []] (now + second)) s
  | none => s

theorem begun_reachable (h : (capturing capitalViews).Reachable ⟨s, []⟩)
    (hplan : planAt s proof now = some plan) : (capturing capitalViews).Reachable ⟨s, [plan]⟩ := by
  have hbegun := CapitalStep.begin (v := capitalViews) ⟨s, []⟩ proof now
  have hpending : begunPending capitalViews ⟨s, []⟩ proof now = [plan] := by
    unfold planAt at hplan; unfold begunPending; split at hplan
    · next p hbegin =>
      cases hplan; rw [hbegin]
    · cases hplan
  rw [hpending] at hbegun; exact h.step hbegun

theorem captureAt_reachable (h : (capturing capitalViews).Reachable ⟨s, []⟩)
    (proof : ReconciliationProof) (now : Int) :
    (capturing capitalViews).Reachable ⟨captureAt s proof now, []⟩ := by
  unfold captureAt
  cases hplan : planAt s proof now with
  | none => exact h
  | some plan =>
    have hfinish := CapitalStep.finish (v := capitalViews) ⟨s, [plan]⟩ [.page []] (now + second)
      (List.mem_singleton_self plan)
    rw [List.erase_cons_head] at hfinish
    exact (begun_reachable h hplan).step hfinish

/-- A proof of `n` seconds into the session. -/
def laterProof (generation : Nat) (h : 1 ≤ generation) (n : Int) : ReconciliationProof :=
  paperProof generation h (firstOpen + n * second) (paperAccount 1000 L1.thousand_nonneg) true

/-- The certification of a proof. -/
def certifyLater (s : CapitalStore) (p : ReconciliationProof) (id : String) : CapitalStore :=
  { s with
    documents := s.documents.insert ⟨id, .proof p⟩
    certifications := s.certifications.insert ⟨p.generation, id⟩
    funds := s.funds.insert ⟨p.acquisitionId, fundsReceipt p.recordedAt p.account⟩ }

def eveningProof : ReconciliationProof := laterProof 2 Nat.two_pos 21601

def eveningStore : CapitalStore := certifyLater openedCapital eveningProof "proof 2"

/-- The first capture, six hours into the session, has to catch up: it stores no anchor. -/
def behindStore : CapitalStore := captureAt eveningStore eveningProof (firstOpen + 21602 * second)

def morningProof : ReconciliationProof := laterProof 3 (Nat.succ_pos 2) 86403

/-- A ledger change revokes both proofs, and the next session opens on a third. -/
def nextSession : CapitalStore :=
  let s := certifyLater behindStore morningProof "proof 3"
  { s with
    revocations := (s.revocations.insert ⟨"core-certified-proof 1", .ledgerChanged []⟩).insert
      ⟨"core-certified-proof 2", .ledgerChanged []⟩
    openings := s.openings.insert ⟨"opening 2",
      openingOf "proof 3" 1 (firstOpen + 86400 * second) morningProof (by decide)⟩
    openingIndex := ⟨"PA1", "collect-owned-30m-stop100-v1", 1, "store", "opening 2"⟩ ::
      s.openingIndex
    timeEvidence := s.timeEvidence.insert ⟨"time proof 3",
      timingOf (firstOpen + 86400 * second) (firstOpen + 86403 * second)⟩ }

/-- Three captures catch up with the session. -/
def caughtUp : CapitalStore :=
  captureAt (captureAt (captureAt nextSession morningProof (firstOpen + 86404 * second))
    morningProof (firstOpen + 86406 * second)) morningProof (firstOpen + 86408 * second)

/-- The next one stores an anchor. Its coverage is the cursor document's, which began
with the opening that is revoked by now: the verifier does not trust it. -/
theorem anchor_unverified : ∃ w plan replies captured w', (capturing capitalViews).Reachable w ∧
      (capturing capitalViews).step w (.finish plan replies captured) w' ∧
      ∃ a ∈ w'.store.anchors.rows, a ∉ w.store.anchors.rows ∧
        ¬ AnchorVerified capitalViews w'.store a.payload captured := by
  have hstart : (capturing capitalViews).Reachable ⟨openedCapital, []⟩ :=
    ⟨_, [], openedCapital_init, .nil _⟩
  have hcertified : (capturing capitalViews).step ⟨openedCapital, []⟩ .other
      ⟨eveningStore, []⟩ :=
    .other ⟨rfl, rfl, rfl, rfl, rfl, rfl, rfl, rfl, rfl, rfl, fun _ h => h⟩
  have hbehind := captureAt_reachable (hstart.step hcertified) eveningProof
    (firstOpen + 21602 * second)
  have hsession : (capturing capitalViews).step ⟨behindStore, []⟩ .other ⟨nextSession, []⟩ :=
    .other ⟨rfl, rfl, rfl, rfl, rfl, rfl, rfl, rfl, rfl, rfl,
      fun _ h => Table.mem_insert_of_mem h⟩
  have hcaught : (capturing capitalViews).Reachable ⟨caughtUp, []⟩ :=
    captureAt_reachable (captureAt_reachable (captureAt_reachable (hbehind.step hsession) _ _)
      _ _) _ _
  obtain ⟨plan, hplan, hstored⟩ : ∃ plan ∈ planAt caughtUp morningProof
      (firstOpen + 86410 * second), ∃ a ∈ (after (completeCapture capitalViews plan [.page []]
        (firstOpen + 86411 * second)) caughtUp).anchors.rows, a ∉ caughtUp.anchors.rows ∧
      ¬ AnchorVerified capitalViews (after (completeCapture capitalViews plan [.page []]
        (firstOpen + 86411 * second)) caughtUp) a.payload (firstOpen + 86411 * second) := by
    decide
  exact ⟨_, plan, [.page []], firstOpen + 86411 * second, _, begun_reachable hcaught hplan,
    .finish _ _ _ (List.mem_singleton_self plan), hstored⟩

end Quantbot.L4
