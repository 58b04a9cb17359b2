import Quantbot.L4PaperCore.CapitalCapture

/-!
# Runs of captures

What a capture's write does to each table (`finishCapture_cases`), what no
transaction of the store undoes (`Retained`), and the system of captures that race
over one store with the writers of the other tables (`capturing`).
-/
namespace Quantbot.L4

open Core L1 L2 Txn

/-! ## Tables -/

theorem FiledTable.put_ok {α : Type} [DecidableEq α] {t t' : FiledTable α} {id : String}
    {payload : α} (h : t.put id payload = .ok t') :
    (∀ r ∈ t.rows, r ∈ t'.rows) ∧ t'.get? id = some ⟨id, payload⟩ ∧
      ∀ r ∈ t'.rows, r ∈ t.rows ∨ r = ⟨id, payload⟩ := by
  unfold FiledTable.put at h
  cases hrow : t.get? id with
  | some existing =>
    rw [hrow] at h; dsimp only at h; split at h
    · next heq =>
      cases h; refine ⟨fun _ hr => hr, ?_, fun _ hr => .inl hr⟩
      rw [hrow, ← heq, ← (Table.get?_some hrow).2]
    · cases h
  | none =>
    rw [hrow] at h; cases h
    exact ⟨fun _ hr => Table.mem_insert_of_mem hr,
      Table.get?_eq_some.2 ⟨(Table.mem_insert hrow).2 (.inr rfl), rfl⟩,
      fun _ hr => Table.mem_of_mem_insert hr⟩

variable {s s' : CapitalStore} {v : CapitalViews} {source : ContinuousActivityCoverage} {u : PUnit}

theorem putCoverage_ok (h : putCoverage v source s = .ok u s') :
    ∃ t, s.coverages.put (v.coverageId source) source = .ok t ∧ s' = { s with coverages := t } := by
  unfold putCoverage at h; split at h
  · next t ht =>
    cases h; exact ⟨t, ht, rfl⟩
  · cases h

theorem putAnchor_ok {anchor : AccountRiskAnchor} (h : putAnchor v anchor s = .ok u s') :
    ∃ t, s.anchors.put (v.anchorId anchor) anchor = .ok t ∧ s' = { s with anchors := t } := by
  unfold putAnchor at h; split at h
  · next t ht =>
    cases h; exact ⟨t, ht, rfl⟩
  · cases h

theorem putReceipt_ok {receipt : ContinuousCapitalEvidence}
    (h : putReceipt v receipt s = .ok u s') :
    ∃ t, s.receipts.put (v.receiptId receipt) receipt = .ok t ∧ s' = { s with receipts := t } := by
  unfold putReceipt at h; split at h
  · next t ht =>
    cases h; exact ⟨t, ht, rfl⟩
  · cases h

/-! ## What no transaction undoes -/

/-- The binding stays, and every document, flow row and opening. -/
structure Retained (s s' : CapitalStore) : Prop where
  config : s'.config = s.config
  storeIdentity : s'.storeIdentity = s.storeIdentity
  configId : s'.configId = s.configId
  coverages : ∀ r ∈ s.coverages.rows, r ∈ s'.coverages.rows
  anchors : ∀ r ∈ s.anchors.rows, r ∈ s'.anchors.rows
  anchorIndex : ∀ r ∈ s.anchorIndex.rows, r ∈ s'.anchorIndex.rows
  receipts : ∀ r ∈ s.receipts.rows, r ∈ s'.receipts.rows
  flowIndex : ∀ r ∈ s.flowIndex.rows, r ∈ s'.flowIndex.rows
  openings : ∀ r ∈ s.openings.rows, r ∈ s'.openings.rows

instance : IsPreorder CapitalStore Retained where
  refl _ := ⟨rfl, rfl, rfl, fun _ h => h, fun _ h => h, fun _ h => h, fun _ h => h, fun _ h => h,
    fun _ h => h⟩
  trans _ _ _ h h' := ⟨h'.config.trans h.config, h'.storeIdentity.trans h.storeIdentity,
    h'.configId.trans h.configId, fun r hr => h'.coverages r (h.coverages r hr),
    fun r hr => h'.anchors r (h.anchors r hr), fun r hr => h'.anchorIndex r (h.anchorIndex r hr),
    fun r hr => h'.receipts r (h.receipts r hr), fun r hr => h'.flowIndex r (h.flowIndex r hr),
    fun r hr => h'.openings r (h.openings r hr)⟩

namespace Retained

variable {s s' : CapitalStore}

theorem scope (h : Retained s s') (v : CapitalViews) : s'.scope v = s.scope v := by
  unfold CapitalStore.scope; rw [h.config, h.storeIdentity]

theorem binding (h : Retained s s') (t : Int) : s'.binding t = s.binding t := by
  unfold CapitalStore.binding; rw [h.config, h.storeIdentity, h.configId]

variable {id : String}

theorem coverage? (h : Retained s s') {c : Filed ContinuousActivityCoverage}
    (hc : s.coverages.get? id = some c) : s'.coverages.get? id = some c :=
  Table.get?_kept h.coverages hc

theorem anchor? (h : Retained s s') {a : Filed AccountRiskAnchor}
    (ha : s.anchors.get? id = some a) : s'.anchors.get? id = some a :=
  Table.get?_kept h.anchors ha

theorem opening? (h : Retained s s') {o : Filed SessionOpening} (ho : s.openings.get? id = some o) :
    s'.openings.get? id = some o :=
  Table.get?_kept h.openings ho

end Retained

/-! ## A write, case by case -/

/-- The activity half of a write: the document with its flow row. -/
structure Noted (v : CapitalViews) (source : ContinuousActivityCoverage) (s s' : CapitalStore) :
    Prop where
  rest : ∃ coverages flowIndex, s' = { s with coverages, flowIndex }
  coverages : ∀ r ∈ s.coverages.rows, r ∈ s'.coverages.rows
  filed : s'.coverages.get? (v.coverageId source) = some ⟨v.coverageId source, source⟩
  only : ∀ c ∈ s'.coverages.rows, c ∈ s.coverages.rows ∨ c = ⟨v.coverageId source, source⟩
  flowIndex : ∀ r ∈ s.flowIndex.rows, r ∈ s'.flowIndex.rows
  flows : ∀ r ∈ s'.flowIndex.rows, r ∈ s.flowIndex.rows ∨ r.reference = s.scope v
  indexed : source.externalFlowIds ≠ [] → (s'.flowIndex.get? (v.coverageId source)).isSome

theorem movedCursors_reference {cursor : Option String} (hcursor : s.cursor v = cursor)
    (id : String) (captured : Int) :
    ((s.movedCursors v cursor id captured).get? (s.scope v)).map (·.reference) = some id := by
  unfold CapitalStore.cursor at hcursor; unfold CapitalStore.movedCursors
  cases hrow : s.cursors.get? (s.scope v) with
  | none =>
    rw [hrow] at hcursor; subst hcursor
    show ((s.cursors.insert ⟨s.scope v, id, captured⟩).get? (s.scope v)).map _ = _
    rw [Table.get?_eq_some.2 ⟨(Table.mem_insert hrow).2 (.inr rfl), rfl⟩]; rfl
  | some row =>
    rw [hrow] at hcursor; subst hcursor
    show ((s.cursors.modify (s.scope v) _ _).get? (s.scope v)).map _ = _
    rw [Table.get?_modify, if_pos rfl, hrow]; rfl

variable {captured : Int}

theorem indexFlows_ok (h : indexFlows v source captured s = .ok u s') :
    ∃ f, s' = { s with flowIndex := f } ∧ (∀ r ∈ s.flowIndex.rows, r ∈ f.rows) ∧
      (∀ r ∈ f.rows, r ∈ s.flowIndex.rows ∨ r.reference = s.scope v) ∧
      (source.externalFlowIds ≠ [] → (f.get? (v.coverageId source)).isSome) := by
  unfold indexFlows at h
  split at h
  · rw [modify_ok] at h
    subst h
    refine ⟨_, rfl, fun _ hr => Table.mem_insert_of_mem hr, fun r hr => ?_,
      fun _ => Table.insert_present _ _⟩
    rcases Table.mem_of_mem_insert hr with hr | rfl
    · exact .inl hr
    · exact .inr rfl
  · next hnone =>
    obtain ⟨_, rfl⟩ := pure_ok.1 h
    exact ⟨s.flowIndex, rfl, fun _ hr => hr, fun _ hr => .inl hr, fun hne => absurd hne hnone⟩

theorem noteActivity_ok (h : noteActivity v source captured s = .ok u s') :
    Noted v source s s' := by
  unfold noteActivity at h; rw [bind_ok] at h; obtain ⟨_, s₁, hput, hflow⟩ := h
  obtain ⟨t, ht, rfl⟩ := putCoverage_ok hput
  obtain ⟨hkept, hfiled, honly⟩ := FiledTable.put_ok ht
  obtain ⟨f, rfl, hflowkept, hflows, hindexed⟩ := indexFlows_ok hflow
  exact ⟨⟨_, _, rfl⟩, hkept, hfiled, honly, hflowkept, hflows, hindexed⟩

/-- The cursor half of a write. -/
structure CursorMoved (v : CapitalViews) (plan : CapturePlan) (source : ContinuousActivityCoverage)
    (s s' : CapitalStore) : Prop where
  rest : ∃ cursors, s' = { s with cursors }
  kept : source.protocolComplete = false → s'.cursors = s.cursors
  moved : source.protocolComplete = true → s.cursor v = plan.cursor →
    s'.cursor v = some (v.coverageId source)

variable {plan : CapturePlan}

theorem moveCursor_ok (h : moveCursor v plan source captured s = .ok u s') :
    CursorMoved v plan source s s' := by
  unfold moveCursor at h; split at h
  · next hcomplete =>
    rw [modify_ok] at h; subst h
    exact ⟨⟨_, rfl⟩, fun hfalse => absurd (hcomplete.symm.trans hfalse) Bool.noConfusion,
      fun _ hc => movedCursors_reference hc _ _⟩
  · next hcomplete =>
    obtain ⟨_, rfl⟩ := pure_ok.1 h
    exact ⟨⟨s.cursors, rfl⟩, fun _ => rfl, fun htrue => absurd htrue hcomplete⟩

/-- The anchor half: an anchor on record, none, or a new one where no reason stands. -/
inductive Anchoring (v : CapitalViews) (plan : CapturePlan) (sourceId : String) (captured : Int)
    (reasons : List String) (s : CapitalStore) :
    Option (Filed AccountRiskAnchor) × List String → CapitalStore → Prop
  | found {a : Filed AccountRiskAnchor} {out : List String} : a ∈ s.newestAnchors v →
      (out = [] → reasons = []) → Anchoring v plan sourceId captured reasons s (some a, out) s
  | missing : reasons ≠ [] → Anchoring v plan sourceId captured reasons s (none, reasons) s
  | created {predecessor : Option (Filed AccountRiskAnchor)} {t : FiledTable AccountRiskAnchor}
      (hpos : 0 < plan.proof.account.equity) : reasons = [] →
      (s.newestAnchors v).find?
        (fun a => decide (a.payload.riskDay = v.day plan.proof.recordedAt)) = none →
      predecessor = (s.newestAnchors v).find?
        (fun a => decide (a.payload.riskDay < v.day plan.proof.recordedAt)) →
      s.anchors.put (v.anchorId (anchorOf v s plan sourceId captured predecessor hpos))
        (anchorOf v s plan sourceId captured predecessor hpos) = .ok t →
      Anchoring v plan sourceId captured reasons s
        (some ⟨v.anchorId (anchorOf v s plan sourceId captured predecessor hpos),
          anchorOf v s plan sourceId captured predecessor hpos⟩, [])
        { s with
          anchors := t
          anchorIndex := s.anchorIndex.insert
            ⟨v.anchorId (anchorOf v s plan sourceId captured predecessor hpos), s.scope v,
              v.day plan.proof.recordedAt, captured⟩ }

variable {reasons : List String}

theorem dayAnchor_ok {sourceId : String} {r : Option (Filed AccountRiskAnchor) × List String}
    (h : dayAnchor v plan sourceId captured reasons s = .ok r s') :
    Anchoring v plan sourceId captured reasons s r s' := by
  unfold dayAnchor at h; rw [bind_ok] at h; obtain ⟨t, s₁, hget, h⟩ := h
  rw [get_ok] at hget; obtain ⟨rfl, rfl⟩ := hget
  have hday : v.day (v.accountRiskDayBounds plan.proof.recordedAt).1 =
      v.day plan.proof.recordedAt := v.day_midnight _
  rw [hday] at h
  cases hfind : (s₁.newestAnchors v).find?
      (fun a => decide (a.payload.riskDay = v.day plan.proof.recordedAt)) with
  | some a =>
    rw [hfind] at h; obtain ⟨rfl, rfl⟩ := pure_ok.1 h
    exact .found (List.mem_of_find?_eq_some hfind) fun hout => (List.append_eq_nil_iff.1 hout).1
  | none =>
    rw [hfind] at h; dsimp only at h; split at h
    · next hreasons =>
      obtain ⟨rfl, rfl⟩ := pure_ok.1 h; exact .missing hreasons
    next hreasons =>
    rw [bind_ok] at h; obtain ⟨a, s₂, hcreate, h⟩ := h
    obtain ⟨rfl, rfl⟩ := pure_ok.1 h; unfold createAnchor at hcreate
    rw [bind_ok] at hcreate; obtain ⟨t', s₃, hget, hcreate⟩ := hcreate
    obtain ⟨rfl, rfl⟩ := hget; split at hcreate
    · next hpos =>
      rw [bind_ok] at hcreate; obtain ⟨_, s₄, hput, hcreate⟩ := hcreate
      obtain ⟨anchors, hanchors, rfl⟩ := putAnchor_ok hput
      rw [bind_ok] at hcreate; obtain ⟨_, s₅, hindex, hcreate⟩ := hcreate
      rw [modify_ok] at hindex; subst hindex
      obtain ⟨rfl, rfl⟩ := pure_ok.1 hcreate
      exact .created hpos (not_not.1 hreasons) hfind rfl hanchors
    · simp at hcreate

/-- What a write that commits has done. -/
inductive Finishing (v : CapitalViews) (plan : CapturePlan) (source : ContinuousActivityCoverage)
    (captured : Int) (s : CapitalStore) : Except String String → CapitalStore → Prop
  | flows {s' : CapitalStore} : s.cursor v ≠ plan.cursor → source.externalFlowIds ≠ [] →
      Noted v source s s' →
      Finishing v plan source captured s (.error "ACCOUNT_EXTERNAL_CAPITAL_FLOW") s'
  | behind {id : String} : s.cursor v ≠ plan.cursor → source.externalFlowIds = [] →
      Finishing v plan source captured s (.ok id) s
  | receipt {s' s₁ s₂ s₃ : CapitalStore} {anchor : Option (Filed AccountRiskAnchor)}
      {reasons : List String} {receipt : ContinuousCapitalEvidence}
      {receipts : FiledTable ContinuousCapitalEvidence} : s.cursor v = plan.cursor →
      Noted v source s s₁ → CursorMoved v plan source s₁ s₂ →
      Anchoring v plan (v.coverageId source) captured
        (captureReasons source plan.proof (s₂.knownFlows v)) s₂ (anchor, reasons) s₃ →
      receipt = receiptOf s₂ plan source (v.coverageId source)
        (v.contentId (.proof plan.proof)) captured (s₂.knownFlows v) anchor reasons →
      s₃.receipts.put (v.receiptId receipt) receipt = .ok receipts →
      s' = { s₃ with
        receipts := receipts
        receiptIndex := s₃.receiptIndex.insert
          ⟨v.receiptId receipt, receipt.proofId, captured⟩ } →
      Finishing v plan source captured s (.ok (v.receiptId receipt)) s'

variable {r : Except String String}

theorem wonCapture_ok (hcursor : s.cursor v = plan.cursor)
    (h : wonCapture v plan source captured s = .ok r s') :
    Finishing v plan source captured s r s' := by
  unfold wonCapture at h; rw [bind_ok] at h; obtain ⟨_, s₁, hnote, h⟩ := h
  rw [bind_ok] at h; obtain ⟨_, s₂, hmove, h⟩ := h; rw [bind_ok] at h
  obtain ⟨t, s₃, hget, h⟩ := h; obtain ⟨rfl, rfl⟩ := hget; rw [bind_ok] at h
  obtain ⟨⟨anchor, reasons⟩, s₄, hday, h⟩ := h; rw [bind_ok] at h
  obtain ⟨_, s₅, hfile, h⟩ := h; obtain ⟨rfl, rfl⟩ := pure_ok.1 h
  unfold fileReceipt at hfile; rw [bind_ok] at hfile
  obtain ⟨_, s₆, hput, hindex⟩ := hfile
  obtain ⟨receipts, hreceipts, rfl⟩ := putReceipt_ok hput
  rw [modify_ok] at hindex; subst hindex
  exact .receipt hcursor (noteActivity_ok hnote) (moveCursor_ok hmove) (dayAnchor_ok hday) rfl
    hreceipts rfl

theorem lostCapture_ok (hcursor : s.cursor v ≠ plan.cursor)
    (h : lostCapture v plan source captured s = .ok r s') :
    Finishing v plan source captured s r s' := by
  unfold lostCapture at h; split at h
  · next hflows =>
    rw [bind_ok] at h; obtain ⟨_, s₁, hnote, h⟩ := h
    obtain ⟨rfl, rfl⟩ := pure_ok.1 h
    exact .flows hcursor hflows (noteActivity_ok hnote)
  · next hflows =>
    rw [bind_ok] at h; obtain ⟨t, s₁, hget, h⟩ := h; rw [get_ok] at hget
    obtain ⟨rfl, rfl⟩ := hget
    cases hwinner : winnerReceipt v s₁ plan source with
    | some id =>
      rw [hwinner] at h; obtain ⟨rfl, rfl⟩ := pure_ok.1 h
      exact .behind hcursor (not_not.1 hflows)
    | none =>
      rw [hwinner] at h; simp at h

/-- A write that commits has passed the inventory check and is one of the cases. -/
theorem finishCapture_ok {rows : List Activity}
    (h : finishCapture v plan rows captured s = .ok r s') :
    entryInventoryObjections v.contentId v.fundsId s.toPaperStore plan.proof captured true =
        .ok [] ∧ Finishing v plan (coverageOf v s plan rows captured) captured s r s' := by
  unfold finishCapture at h; rw [bind_ok] at h; obtain ⟨t, s₁, hget, h⟩ := h
  rw [get_ok] at hget; obtain ⟨rfl, rfl⟩ := hget
  cases hinventory : entryInventoryObjections v.contentId v.fundsId s₁.toPaperStore plan.proof
      captured true with
  | error e =>
    rw [hinventory] at h; simp at h
  | ok objections =>
    rw [hinventory] at h; dsimp only at h; split at h
    · simp at h
    next hnone =>
    rw [not_not.1 hnone]; refine ⟨rfl, ?_⟩; split at h
    · next hcursor => exact lostCapture_ok hcursor h
    · next hcursor => exact wonCapture_ok (not_not.1 hcursor) h

theorem completeCapture_after (v : CapitalViews) (plan : CapturePlan)
    (replies : List ActivityReply) (captured : Int) (s : CapitalStore) :
    after (completeCapture v plan replies captured) s = s ∨
      ∃ rows r, captureRows plan replies = .ok rows ∧
        entryInventoryObjections v.contentId v.fundsId s.toPaperStore plan.proof captured true =
          .ok [] ∧ Finishing v plan (coverageOf v s plan rows captured) captured s r
          (after (completeCapture v plan replies captured) s) := by
  unfold completeCapture
  cases hrows : captureRows plan replies with
  | error message => exact .inl rfl
  | ok rows =>
    cases hrun : immediate (finishCapture v plan rows captured) s with
    | error e s' =>
      left; show after (immediate (finishCapture v plan rows captured)) s = s
      unfold Txn.after; rw [hrun]; exact immediate_error hrun
    | ok r s' =>
      right
      have hafter : after (immediate (finishCapture v plan rows captured)) s = s' := after_ok hrun
      obtain ⟨hinventory, hcases⟩ := finishCapture_ok (immediate_ok.1 hrun)
      refine ⟨rows, r, rfl, hinventory, ?_⟩; rw [hafter]; exact hcases

/-! ## Runs -/

/-- A store and the captures between their two transactions. -/
structure CapitalWorld where
  store : CapitalStore
  pending : List CapturePlan

/-- What the writers of the other tables leave alone: this module's documents and
rows. They may record openings, proofs and legacy flows, amend the policy and move
the ledger. -/
structure OtherWrites (s s' : CapitalStore) : Prop where
  config : s'.config = s.config
  storeIdentity : s'.storeIdentity = s.storeIdentity
  configId : s'.configId = s.configId
  coverages : s'.coverages = s.coverages
  anchors : s'.anchors = s.anchors
  anchorIndex : s'.anchorIndex = s.anchorIndex
  receipts : s'.receipts = s.receipts
  receiptIndex : s'.receiptIndex = s.receiptIndex
  flowIndex : s'.flowIndex = s.flowIndex
  cursors : s'.cursors = s.cursors
  openings : ∀ r ∈ s.openings.rows, r ∈ s'.openings.rows

inductive CapitalLabel
  | begin (proof : ReconciliationProof) (now : Int)
  | finish (plan : CapturePlan) (replies : List ActivityReply) (captured : Int)
  | abandon (plan : CapturePlan)
  | other

/-- The captures in flight once a call has read the store. -/
def begunPending (v : CapitalViews) (w : CapitalWorld) (proof : ReconciliationProof) (now : Int) :
    List CapturePlan :=
  match beginCapture v w.store proof now with
  | .ok (.fetch plan) => plan :: w.pending
  | _ => w.pending

inductive CapitalStep (v : CapitalViews) : CapitalWorld → CapitalLabel → CapitalWorld → Prop
  | begin (w : CapitalWorld) (proof : ReconciliationProof) (now : Int) :
      CapitalStep v w (.begin proof now) ⟨w.store, begunPending v w proof now⟩
  | finish (w : CapitalWorld) {plan : CapturePlan} (replies : List ActivityReply)
      (captured : Int) : plan ∈ w.pending →
      CapitalStep v w (.finish plan replies captured)
        ⟨after (completeCapture v plan replies captured) w.store, w.pending.erase plan⟩
  | abandon (w : CapitalWorld) (plan : CapturePlan) :
      CapitalStep v w (.abandon plan) ⟨w.store, w.pending.erase plan⟩
  | other {w : CapitalWorld} {s' : CapitalStore} : OtherWrites w.store s' →
      CapitalStep v w .other ⟨s', w.pending⟩

/-- A run starts before the first capture. -/
def capturing (v : CapitalViews) : LTS CapitalWorld CapitalLabel where
  init w := w.pending = [] ∧ w.store.coverages = .empty ∧ w.store.anchors = .empty ∧
    w.store.anchorIndex = .empty ∧ w.store.receipts = .empty ∧ w.store.receiptIndex = .empty ∧
    w.store.flowIndex = .empty ∧ w.store.cursors = .empty
  step := CapitalStep v

theorem Noted.retained (h : Noted v source s s') : Retained s s' := by
  obtain ⟨⟨_, _, rfl⟩, hcov, _, _, hflow, _, _⟩ := h
  exact ⟨rfl, rfl, rfl, hcov, fun _ h => h, fun _ h => h, fun _ h => h, hflow, fun _ h => h⟩

theorem CursorMoved.retained (h : CursorMoved v plan source s s') : Retained s s' := by
  obtain ⟨_, rfl⟩ := h.rest
  exact ⟨rfl, rfl, rfl, fun _ h => h, fun _ h => h, fun _ h => h, fun _ h => h, fun _ h => h,
    fun _ h => h⟩

theorem Anchoring.retained {sourceId : String} {r : Option (Filed AccountRiskAnchor) × List String}
    (h : Anchoring v plan sourceId captured reasons s r s') : Retained s s' := by
  cases h with
  | found | missing => exact refl_of Retained _
  | created hpos _ _ _ hput =>
    exact ⟨rfl, rfl, rfl, fun _ h => h, (FiledTable.put_ok hput).1,
      fun _ h => Table.mem_insert_of_mem h, fun _ h => h, fun _ h => h, fun _ h => h⟩

theorem Finishing.retained (h : Finishing v plan source captured s r s') : Retained s s' := by
  cases h with
  | flows _ _ hnoted => exact hnoted.retained
  | behind _ _ => exact refl_of Retained _
  | receipt _ hnoted hmoved hanchor _ hput hs' =>
    subst hs'
    have h₃ := trans_of Retained hnoted.retained (trans_of Retained hmoved.retained hanchor.retained)
    exact ⟨h₃.config, h₃.storeIdentity, h₃.configId, h₃.coverages, h₃.anchors, h₃.anchorIndex,
      fun r hr => (FiledTable.put_ok hput).1 r (h₃.receipts r hr), h₃.flowIndex, h₃.openings⟩

theorem OtherWrites.retained (h : OtherWrites s s') : Retained s s' :=
  ⟨h.config, h.storeIdentity, h.configId, fun _ hr => h.coverages ▸ hr, fun _ hr => h.anchors ▸ hr,
    fun _ hr => h.anchorIndex ▸ hr, fun _ hr => h.receipts ▸ hr, fun _ hr => h.flowIndex ▸ hr,
    h.openings⟩

theorem capturing_retained {w w' : CapitalWorld} {l : CapitalLabel}
    (h : (capturing v).step w l w') : Retained w.store w'.store := by
  cases h with
  | begin _ _ | abandon _ => exact refl_of Retained _
  | other hother => exact hother.retained
  | finish replies captured hmem =>
    rename_i plan
    rcases completeCapture_after v plan replies captured w.store with
      hsame | ⟨_, _, _, _, hcases⟩
    · show Retained w.store (after (completeCapture v plan replies captured) w.store)
      rw [hsame]; exact refl_of Retained _
    · exact hcases.retained

theorem run_retained {w w' : CapitalWorld} {ls : List CapitalLabel}
    (h : (capturing v).Run w ls w') : Retained w.store w'.store := by
  induction h with
  | nil => exact refl_of Retained _
  | cons hst _ ih => exact trans_of Retained (capturing_retained hst) ih

/-! ## A store before its first capture

Days of January 1970: New York is five hours behind. -/

theorem capitalDay_lt (d : Int) : d * (86400 * second) + 18000 * second <
    (d + 1) * (86400 * second) + 18000 * second := by unfold second; omega

theorem capitalDay_eq (t d : Int) : (t - 18000 * second) / (86400 * second) = d ↔
    d * (86400 * second) + 18000 * second ≤ t ∧
      t < (d + 1) * (86400 * second) + 18000 * second := by unfold second; omega

def capitalViews : CapitalViews where
  contentId
    | .proof p => "proof " ++ toString p.generation
    | _ => ""
  fundsId r := "funds " ++ toString r.recordedAt
  scopeId account store policy := account ++ store ++ policy
  rowsDigest rows := toString rows.length
  coverageId c := "activity " ++ toString c.recordedAt
  anchorId a := "anchor " ++ toString a.recordedAt
  receiptId r := "receipt " ++ toString r.recordedAt
  day t := (t - 18000 * second) / (86400 * second)
  midnight d := d * (86400 * second) + 18000 * second
  midnight_lt d := capitalDay_lt d
  day_eq t d := capitalDay_eq t d

/-- The first session's open, at half past nine. -/
def firstOpen : Int := 52200 * second

def paperAccount (equity : ℚ) (h : 0 ≤ equity) : Account where
  accountId := "PA1"
  cash := 1000
  buyingPower := 1000
  equity := equity
  currency := "USD"
  cash_nonneg := L1.thousand_nonneg
  buyingPower_nonneg := L1.thousand_nonneg
  equity_nonneg := h

/-- A certified proof of an account without fills; its cash is complete or its
ledger's is not. -/
def paperProof (generation : Nat) (hgen : 1 ≤ generation) (recordedAt : Int) (account : Account)
    (cashComplete : Bool) : ReconciliationProof where
  recordedAt := recordedAt
  releaseId := "rel"
  evidenceLane := .brokerPaper
  fundsAuthority := some .brokerPaperBalance
  ledgerStateId := some "ledger"
  account := account
  baselineId := "baseline"
  generation := generation
  fillIds := []
  expectedQuantities := []
  actualQuantities := []
  positions := []
  expectedCash := if cashComplete then some 1000 else none
  cashComplete := cashComplete
  acquisitionId := "funds " ++ toString recordedAt
  complete := true
  generation_pos := hgen

def accountSnapshot (account : Account) : BrokerAccountSnapshot :=
  ⟨account, "1", "ACTIVE", true, []⟩

def fundsReceipt (recordedAt : Int) (account : Account) : PaperFundsEvidence where
  recordedAt := recordedAt
  releaseId := "rel"
  evidenceLane := .brokerPaper
  endpoint := "https://paper-api.alpaca.markets"
  accountId := "PA1"
  storeIdentity := "store"
  configId := "config"
  commissionId := "commission"
  captureStarted := recordedAt - second
  firstAccount := accountSnapshot account
  secondAccount := accountSnapshot account
  firstPositions := []
  secondPositions := []
  firstOpenOrders := []
  secondOpenOrders := []

def openingOf (proofId : String) (day sessionOpen : Int) (proof : ReconciliationProof)
    (h : 0 < proof.account.equity) : SessionOpening where
  recordedAt := proof.recordedAt
  evidenceLane := .brokerPaper
  releaseId := "rel"
  accountId := "PA1"
  storeIdentity := "store"
  configId := "config"
  policyId := "collect-owned-30m-stop100-v1"
  sessionDate := day
  sessionOpen := sessionOpen
  capturedAt := proof.recordedAt
  equity := proof.account.equity
  proofId := proofId
  timeEvidenceId := "time " ++ proofId
  sourceStoreIdentity := "store"
  sourceReleaseId := "rel"
  equity_pos := h

def timingOf (sessionOpen capturedAt : Int) : TimeEvidence where
  samples := [⟨capturedAt, "PA1", sessionOpen, capturedAt⟩,
    ⟨capturedAt + 1, "PA1", sessionOpen, capturedAt + 1⟩]
  objections := []

def firstProof : ReconciliationProof :=
  paperProof 1 Nat.one_pos (firstOpen + 3 * second) (paperAccount 1000 L1.thousand_nonneg) true

/-- One certified proof, taken three seconds into the session, is its opening. -/
def openedCapital : CapitalStore where
  config :=
    { accountId := "PA1", releaseId := "rel", owner := "core", generation := 1
      evidenceLane := .brokerPaper, selectionPolicy := .signalOrExplore
      clockProfile := .paperTime }
  baselines := [{ id := "baseline", quantities := [], cash := 1000 }]
  documents := Table.empty.insert ⟨"proof 1", .proof firstProof⟩
  certifications := Table.empty.insert ⟨1, "proof 1"⟩
  storeIdentity := "store"
  configId := "config"
  funds := Table.empty.insert ⟨firstProof.acquisitionId,
    fundsReceipt firstProof.recordedAt firstProof.account⟩
  surroundings :=
    { ledgerStateId := "ledger"
      commission := some ⟨"commission", "https://paper-api.alpaca.markets"⟩
      scopedQuantity := fun _ _ _ => []
      openOrders := fun _ => []
      scopedOpening := fun _ => false }
  entryPolicy := some ⟨"policy", true⟩
  openings := Table.empty.insert ⟨"opening 1",
    openingOf "proof 1" 0 firstOpen firstProof (by decide)⟩
  openingIndex := [⟨"PA1", "collect-owned-30m-stop100-v1", 0, "store", "opening 1"⟩]
  timeEvidence := Table.empty.insert ⟨"time proof 1",
    timingOf firstOpen (firstOpen + 3 * second)⟩

theorem openedCapital_init : (capturing capitalViews).init ⟨openedCapital, []⟩ :=
  ⟨rfl, rfl, rfl, rfl, rfl, rfl, rfl, rfl⟩

end Quantbot.L4
