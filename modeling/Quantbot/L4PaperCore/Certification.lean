import Quantbot.Core.Decimal
import Quantbot.Core.LTS
import Quantbot.L4PaperCore.ImportFacts

/-!
# Inventory certification

`certify_inventory` of `paper_core/store.py` over the two certificate tables and the
cash revocations. What other modules contribute to a certification stands as a
parameter (`InventoryViews`): the id of the ledger state and the objections of the
custody scope, each a function of the store.

A refusal commits the proof it refuses and then raises, so it is a value here and
not an error; an error rolls the proof back with everything else.

* `inventory_generations`: in every reachable store the two tables hold the
  generations 1..n, one proof each; a quantity certification leaves no earlier cash
  certification unrevoked; a refused proof stays on record and is not certified
  unless it is presented again.
* `refused_then_certified`: presented again, it may be.
-/
namespace Quantbot.L4

open Core L1 L2 Txn

/-- What the certification asks of other modules. -/
structure InventoryViews where
  contentId : ContentId
  /-- `ledger_state_id`. -/
  ledgerStateId : CoreStore → String
  /-- `scoped_quantity_objections(.., now=recorded_at, latest=False)`. -/
  scopeObjections : CoreStore → ReconciliationProof → List String

namespace CoreStore

def allCertifications (s : CoreStore) : List Certification :=
  s.certifications.rows ++ s.quantityCertifications.rows

/-- mirrors store.py:48-55 -/
def latestCertification (s : CoreStore) : Option Certification :=
  s.allCertifications.find? fun c => decide (∀ d ∈ s.allCertifications, d.generation ≤ c.generation)

/-- The table a proof is certified in. -/
def certificatesFor (s : CoreStore) (proof : ReconciliationProof) :
    Table Certification (·.proofId) :=
  if proof.cashComplete then s.certifications else s.quantityCertifications

end CoreStore

/-! ## The checks -/

/-- mirrors contracts.py:445-480 -/
def QuantityScopeShapeValid (p : ReconciliationProof) : Prop :=
  if p.quarantinedSymbols = [] then
    p.complete ∧ p.custodyEvidenceIds = [] ∧ p.expectedQuantities = p.actualQuantities
  else
    let expected := Quantities.ofList p.expectedQuantities
    let actual := Quantities.ofList p.actualQuantities
    let difference := ((p.expectedQuantities ++ p.actualQuantities).map (·.1)).filter fun s =>
      decide (expected.value s ≠ actual.value s)
    ¬ p.complete ∧ ¬ p.cashComplete ∧ p.expectedCash = none ∧ p.evidenceLane = .brokerPaper ∧
      p.fundsAuthority = some .brokerPaperBalance ∧
      (p.expectedQuantities.map (·.1)).Nodup ∧ (p.actualQuantities.map (·.1)).Nodup ∧
      p.quarantinedSymbols.Nodup ∧
      p.custodyEvidenceIds.length = p.quarantinedSymbols.length ∧ p.custodyEvidenceIds.Nodup ∧
      SameIds difference p.quarantinedSymbols ∧
      ∀ s ∈ difference, 0 ≤ actual.value s ∧ actual.value s < expected.value s
deriving Decidable

/-- The proof differs from the ledger, or is not the next generation.
mirrors store.py:466-489 -/
def InventoryMismatch (v : InventoryViews) (s : CoreStore) (proof : ReconciliationProof)
    (baseline : Baseline) (expected : Quantities) (cash : Option ℚ) (fills : List String)
    (last : Nat) : Prop :=
  ¬ QuantityScopeShapeValid proof ∨
  (proof.quarantinedSymbols ≠ [] ∧ v.scopeObjections s proof ≠ []) ∨
  proof.account.accountId ≠ s.config.accountId ∨
  proof.expectedQuantities ≠ expected.rows.insertionSort (·.1 ≤ ·.1) ∨
  proof.baselineId ≠ baseline.id ∨
  proof.orderIds ≠ s.listBrokerOrders.map (·.brokerOrderId) ∨
  proof.releaseId ≠ s.config.releaseId ∨
  proof.fillIds ≠ fills ∨
  (proof.ledgerStateId ≠ none ∧ proof.ledgerStateId ≠ some (v.ledgerStateId s)) ∨
  proof.expectedCash ≠ cash ∨
  proof.cashComplete ≠ cash.isSome ∨
  (cash ≠ none ∧ some proof.account.cash ≠ cash) ∨
  proof.generation ≠ last + 1
deriving Decidable

/-! ## Cost basis -/

/-- What the fills of an intent's order add up to; nothing where it has no order. -/
def ownedQuantity (s : CoreStore) (intent : OrderIntent) : ℚ :=
  match s.orderByClient intent.clientOrderId with
  | none => 0
  | some order => Decimal.sum ((s.fillsOf order.brokerOrderId).map (·.quantity))

/-- Quantity that the lot's exits sold. -/
def exitedQuantity (s : CoreStore) (links : List IntentLink) (lot : String) : CoreTxn ℚ :=
  (links.filter fun l => decide (l.lotId = lot ∧ l.role = .exit)).foldlM (fun exited link =>
    match s.intentOf link with
    | none => throw .noResult
    | some intent => pure (Decimal.add exited (ownedQuantity s intent))) 0

/-- One open entry's basis. -/
def entryBasis (s : CoreStore) (links : List IntentLink) (basis : Quantities)
    (entry : IntentLink) : CoreTxn Quantities :=
  match s.intentOf entry with
  | none => throw .noResult
  | some intent =>
    match s.orderByClient intent.clientOrderId with
    | none => pure basis
    | some order => do
      let fills := s.fillsOf order.brokerOrderId
      let owned := Decimal.sum (fills.map (·.quantity))
      let exited ← exitedQuantity s links entry.lotId
      requireCore (exited ≤ owned) "owned exit exceeds owned entry"
      pure (if exited < owned then
        basis.upsert (intent.symbol, Decimal.div
          (Decimal.sum (fills.map fun f => Decimal.mul f.price f.quantity)) owned)
        else basis)

/-- mirrors store.py:494-540 -/
def inventoryBasis (baseline : Baseline) : CoreTxn Quantities := do
  let s ← get
  let links := s.links.rows.filter fun l => decide (s.roundTrips.get? l.lotId = none)
  (links.filter fun l => decide (l.role = .entry)).foldlM (entryBasis s links)
    (.ofList baseline.averageEntryPrices)

/-- `any(p.symbol not in quarantined and p.average_entry_price != basis[p.symbol] ..)`. -/
def basisDiffers (basis : Quantities) (quarantined : List String) : List Position → CoreTxn Bool
  | [] => pure false
  | p :: rest =>
    if p.symbol ∈ quarantined then basisDiffers basis quarantined rest
    else
      match basis.get? p.symbol with
      | none => throw (.keyError p.symbol)
      | some b =>
        if p.averageEntryPrice ≠ b.2 then pure true else basisDiffers basis quarantined rest

/-- mirrors store.py:541-549 -/
def basisMismatch (proof : ReconciliationProof) (basis : Quantities) : CoreTxn Bool :=
  if ¬ (proof.positions.map (·.symbol)).Nodup ∨
      ¬ (Quantities.ofList (proof.positions.map fun p => (p.symbol, p.quantity))).Same
        (.ofList proof.actualQuantities) then pure true
  else basisDiffers basis proof.quarantinedSymbols proof.positions

/-! ## The writes -/

/-- mirrors repositories.py:1604-1674 -/
def saveAccountSnapshot (row : AccountSnapshot) : CoreTxn PUnit := fun s =>
  match s.accountSnapshots.get? row.snapshotId with
  | some existing =>
    if existing = row then .ok ⟨⟩ s
    else .error (.store (.stateConflict
      ("account snapshot " ++ row.snapshotId ++ " conflicts with stored data"))) s
  | none => .ok ⟨⟩ { s with accountSnapshots := s.accountSnapshots.insert row }

/-- mirrors repositories.py:1848-1904 -/
def saveReconciliation (row : ReconciliationRun) : CoreTxn PUnit := fun s =>
  match s.reconciliationRuns.get? row.reconciliationId with
  | some existing =>
    if existing = row then .ok ⟨⟩ s
    else .error (.store (.stateConflict
      ("reconciliation " ++ row.reconciliationId ++ " conflicts with stored data"))) s
  | none => .ok ⟨⟩ { s with reconciliationRuns := s.reconciliationRuns.insert row }

/-- `certs.insert()`, with the two unique columns of a certificate table. -/
def insertCertification (cashComplete : Bool) (row : Certification) : CoreTxn PUnit := fun s =>
  let certs := if cashComplete then s.certifications else s.quantityCertifications
  if certs.get? row.proofId ≠ none then .error (.integrity "proof_id") s
  else if ∃ c ∈ certs.rows, c.generation = row.generation then .error (.integrity "generation") s
  else if cashComplete then .ok ⟨⟩ { s with certifications := s.certifications.insert row }
  else .ok ⟨⟩ { s with quantityCertifications := s.quantityCertifications.insert row }

/-- One earlier cash certification loses its authority. -/
def revokeIncomplete (recordedAt : Int) (c : Certification) : CoreTxn PUnit := do
  modify fun s => { s with revocations := s.revocations.insert ⟨c.snapshotId, .cashIncomplete⟩ }
  revokedProof c.proofId (some recordedAt)

/-- mirrors store.py:556-575 -/
def revokeAllCash (recordedAt : Int) : CoreTxn PUnit := do
  let s ← get
  (s.certifications.rows.filter fun c =>
    decide (s.revocations.get? c.snapshotId = none)).forM (revokeIncomplete recordedAt)

/-- The snapshot of a certification. -/
def certifiedSnapshot (proofId : String) (proof : ReconciliationProof) : AccountSnapshot where
  snapshotId := (if proof.cashComplete then "core-certified-" else "core-quantity-") ++ proofId
  account := proof.account
  positions := proof.positions.insertionSort (·.symbol ≤ ·.symbol)
  capturedAt := proof.recordedAt

/-- From the snapshot on.
mirrors store.py:550-583 -/
def recordCertification (v : InventoryViews) (proof : ReconciliationProof) : CoreTxn PUnit := do
  let proofId := v.contentId (.proof proof)
  saveAccountSnapshot (certifiedSnapshot proofId proof)
  insertCertification proof.cashComplete ⟨proof.generation, proofId⟩
  if ¬ proof.cashComplete then revokeAllCash proof.recordedAt
  else do
    let s ← get
    saveReconciliation ⟨"core-" ++ proofId, proof.recordedAt, proofId, s.config.evidenceLane⟩

/-- A proof that is not certified yet. -/
def certifyNew (v : InventoryViews) (proof : ReconciliationProof) :
    CoreTxn (Except String Nat) := do
  let (expected, cash, fills) ← ledger v.contentId
  let s ← get
  match s.baselines with
  | [baseline] =>
    if InventoryMismatch v s proof baseline expected cash fills
        ((s.latestCertification.map (·.generation)).getD 0) then
      pure (.error "INVENTORY_MISMATCH")
    else do
      let basis ← inventoryBasis baseline
      if ← basisMismatch proof basis then pure (.error "INVENTORY_BASIS_MISMATCH")
      else do
        recordCertification v proof
        pure (.ok proof.generation)
  | _ => throw .noResult

/-- The generation, or the reason of a committed refusal.
mirrors store.py:438-583 -/
def certifyInventory (v : InventoryViews) (proof : ReconciliationProof) :
    CoreTxn (Except String Nat) := do
  put (v.contentId (.proof proof)) (.proof proof)
  let s ← get
  match (s.certificatesFor proof).get? (v.contentId (.proof proof)) with
  | some existing => pure (.ok existing.generation)
  | none => certifyNew v proof

/-! ## What the writes do -/

/-- Documents and revocations stay. -/
structure EvidenceKept (s s' : CoreStore) : Prop where
  revocations : ∀ r ∈ s.revocations.rows, r ∈ s'.revocations.rows
  documents : ∀ r ∈ s.documents.rows, r ∈ s'.documents.rows

/-- And so do the certificate tables. -/
structure CertificatesKept (s s' : CoreStore) : Prop extends EvidenceKept s s' where
  certifications : s'.certifications = s.certifications
  quantityCertifications : s'.quantityCertifications = s.quantityCertifications

theorem EvidenceKept.rfl' (s : CoreStore) : EvidenceKept s s := ⟨fun _ h => h, fun _ h => h⟩

theorem EvidenceKept.trans' {a b c : CoreStore} (h : EvidenceKept a b) (h' : EvidenceKept b c) :
    EvidenceKept a c :=
  ⟨fun r hr => h'.revocations r (h.revocations r hr),
    fun r hr => h'.documents r (h.documents r hr)⟩

instance : IsPreorder CoreStore CertificatesKept where
  refl s := ⟨.rfl' s, rfl, rfl⟩
  trans _ _ _ h h' := ⟨h.toEvidenceKept.trans' h'.toEvidenceKept,
    h'.certifications.trans h.certifications,
    h'.quantityCertifications.trans h.quantityCertifications⟩

variable {s s' : CoreStore}

theorem Notified.certificatesKept (h : Notified s s') : CertificatesKept s s' := by
  obtain ⟨_, _, _, _, rfl⟩ := h
  exact ⟨⟨fun _ hr => hr, fun _ hr => hr⟩, rfl, rfl⟩

theorem EvidenceKept.revoked (h : EvidenceKept s s') {id : String}
    (hid : (s.revocations.get? id).isSome) : (s'.revocations.get? id).isSome := by
  obtain ⟨r, hr⟩ := Option.isSome_iff_exists.1 hid
  obtain ⟨hm, rfl⟩ := Table.get?_some hr
  rw [Table.get?_key.2 (h.revocations r hm)]; rfl

theorem EvidenceKept.proof? (h : EvidenceKept s s') {id : String} {p : ReconciliationProof}
    (hp : s.proof? id = some p) : s'.proof? id = some p :=
  CoreStore.proof?_eq_some.2 (h.documents _ (CoreStore.proof?_eq_some.1 hp))

variable {u : PUnit}

theorem put_certificatesKept {identity : String} {d : Document} (h : put identity d s = .ok u s') :
    CertificatesKept s s' ∧ ⟨identity, d⟩ ∈ s'.documents.rows := by
  rcases put_stores h with ⟨hmem, rfl⟩ | ⟨hnone, hnotified⟩
  · exact ⟨refl_of CertificatesKept _, hmem⟩
  have hkept := hnotified.certificatesKept
  have hins : ∀ r, r ∈ (s.documents.insert ⟨identity, d⟩).rows ↔ _ :=
    fun r => Table.mem_insert hnone
  refine ⟨trans_of CertificatesKept ?_ hkept, hkept.documents _ ((hins _).2 (.inr rfl))⟩
  exact ⟨⟨fun _ hr => hr, fun r hr => (hins r).2 (.inl hr)⟩, rfl, rfl⟩

variable {t : Int}

theorem revokeIncomplete_ok {c : Certification} (h : revokeIncomplete t c s = .ok u s') :
    CertificatesKept s s' ∧ (s'.revocations.get? c.snapshotId).isSome := by
  obtain ⟨_, s₁, hins, hrev⟩ := bind_ok.1 h; rw [modify_ok] at hins; subst hins
  have hkept := (revokedProof_notified _ _ _ _ _ hrev).certificatesKept
  refine ⟨trans_of CertificatesKept ?_ hkept, hkept.revoked (Table.insert_present _ _)⟩
  exact ⟨⟨fun r hr => Table.mem_insert_of_mem hr, fun _ hr => hr⟩, rfl, rfl⟩

theorem revokeLoop_ok {l : List Certification} (h : l.forM (revokeIncomplete t) s = .ok u s') :
    CertificatesKept s s' ∧ ∀ c ∈ l, (s'.revocations.get? c.snapshotId).isSome := by
  induction l generalizing s with
  | nil =>
    obtain ⟨_, rfl⟩ := pure_ok.1 h
    exact ⟨refl_of CertificatesKept _, fun c hc => by cases hc⟩
  | cons c l ih =>
    obtain ⟨_, s₁, hone, hrest⟩ := bind_ok.1 h
    obtain ⟨hkept, hrevoked⟩ := revokeIncomplete_ok hone
    obtain ⟨hkept', hall⟩ := ih hrest
    refine ⟨trans_of CertificatesKept hkept hkept', fun d hd => ?_⟩
    rcases List.mem_cons.1 hd with rfl | hd
    · exact hkept'.revoked hrevoked
    · exact hall d hd

theorem revokeAllCash_ok (h : revokeAllCash t s = .ok u s') : CertificatesKept s s' ∧
      ∀ c ∈ s.certifications.rows, (s'.revocations.get? c.snapshotId).isSome := by
  obtain ⟨s₀, s₁, hget, hloop⟩ := bind_ok.1 h
  obtain ⟨rfl, rfl⟩ := get_ok.1 hget
  obtain ⟨hkept, hall⟩ := revokeLoop_ok hloop; refine ⟨hkept, fun c hc => ?_⟩
  by_cases hr : s₁.revocations.get? c.snapshotId = none
  · exact hall c (List.mem_filter.2 ⟨hc, decide_eq_true hr⟩)
  · exact hkept.revoked (Option.isSome_iff_ne_none.2 hr)

/-- The certificate tables after a certification. -/
inductive Certifies (proof : ReconciliationProof) (row : Certification) (s s' : CoreStore) : Prop
  | cash : proof.cashComplete = true →
      s'.certifications.rows = s.certifications.rows ++ [row] →
      s'.quantityCertifications = s.quantityCertifications → Certifies proof row s s'
  | quantity : proof.cashComplete = false →
      s'.quantityCertifications.rows = s.quantityCertifications.rows ++ [row] →
      s'.certifications = s.certifications →
      (∀ c ∈ s.certifications.rows, (s'.revocations.get? c.snapshotId).isSome) →
      Certifies proof row s s'

theorem saveAccountSnapshot_kept (row : AccountSnapshot) :
    Moves CertificatesKept (saveAccountSnapshot row) := fun s u s' h => by
  unfold saveAccountSnapshot at h
  split at h
  · split at h
    · cases h
      exact refl_of CertificatesKept _
    · cases h
  · cases h
    exact ⟨⟨fun _ hr => hr, fun _ hr => hr⟩, rfl, rfl⟩

theorem saveReconciliation_kept (row : ReconciliationRun) :
    Moves CertificatesKept (saveReconciliation row) := fun s u s' h => by
  unfold saveReconciliation at h
  split at h
  · split at h
    · cases h
      exact refl_of CertificatesKept _
    · cases h
  · cases h
    exact ⟨⟨fun _ hr => hr, fun _ hr => hr⟩, rfl, rfl⟩

variable {row : Certification}

theorem insertCertification_ok {cashComplete : Bool}
    (h : insertCertification cashComplete row s = .ok u s') :
    (cashComplete = true ∧ s.certifications.get? row.proofId = none ∧
      s' = { s with certifications := s.certifications.insert row }) ∨
    (cashComplete = false ∧ s.quantityCertifications.get? row.proofId = none ∧
      s' = { s with quantityCertifications := s.quantityCertifications.insert row }) := by
  unfold insertCertification at h
  cases cashComplete with
  | true =>
    simp only [if_true] at h
    split at h
    · cases h
    next hnone =>
    split at h
    · cases h
    · cases h
      exact .inl ⟨rfl, not_not.1 hnone, rfl⟩
  | false =>
    simp only [Bool.false_eq_true, if_false] at h
    split at h
    · cases h
    next hnone =>
    split at h
    · cases h
    · cases h
      exact .inr ⟨rfl, not_not.1 hnone, rfl⟩

variable {v : InventoryViews} {proof : ReconciliationProof}

theorem recordCertification_ok (h : recordCertification v proof s = .ok u s') : EvidenceKept s s' ∧
      Certifies proof ⟨proof.generation, v.contentId (.proof proof)⟩ s s' := by
  obtain ⟨_, s₁, hsnapshot, h⟩ := bind_ok.1 h
  obtain ⟨_, s₂, hinsert, h⟩ := bind_ok.1 h
  have hkept := saveAccountSnapshot_kept _ _ _ _ hsnapshot
  rcases insertCertification_ok hinsert with ⟨hcash, hnone, rfl⟩ | ⟨hcash, hnone, rfl⟩
  · rw [if_neg (by simp [hcash])] at h
    obtain ⟨t, s₃, hget, hsave⟩ := bind_ok.1 h
    obtain ⟨rfl, rfl⟩ := get_ok.1 hget
    have hsaved := saveReconciliation_kept _ _ _ _ hsave
    have hafter : EvidenceKept s₁ s' := ⟨hsaved.revocations, hsaved.documents⟩
    refine ⟨hkept.toEvidenceKept.trans' hafter, .cash hcash ?_ ?_⟩
    · rw [hsaved.certifications, ← hkept.certifications]
      exact Table.insert_rows hnone
    · exact hsaved.quantityCertifications.trans hkept.quantityCertifications
  · rw [if_pos (by simp [hcash])] at h
    obtain ⟨hrevoked, hall⟩ := revokeAllCash_ok h
    have hafter : EvidenceKept s₁ s' := ⟨hrevoked.revocations, hrevoked.documents⟩
    refine ⟨hkept.toEvidenceKept.trans' hafter, .quantity hcash ?_ ?_ ?_⟩
    · rw [hrevoked.quantityCertifications, ← hkept.quantityCertifications]
      exact Table.insert_rows hnone
    · exact hrevoked.certifications.trans hkept.certifications
    · rw [← hkept.certifications]; exact hall

theorem inventoryBasis_reads (baseline : Baseline) : Moves Unchanged (inventoryBasis baseline) := by
  refine Moves.get.bind fun s => Moves.foldlM (fun basis entry => ?_) _ _
  unfold entryBasis; split
  · exact Moves.throw _
  split
  · exact Moves.pure _
  refine Moves.bind (Moves.foldlM (fun exited link => ?_) _ _) fun exited =>
    (Moves.require _ _).bind fun _ => Moves.pure _
  split
  · exact Moves.throw _
  · exact Moves.pure _

theorem basisDiffers_reads (basis : Quantities) (quarantined : List String)
    (positions : List Position) : Moves Unchanged (basisDiffers basis quarantined positions) := by
  induction positions with
  | nil => exact Moves.pure _
  | cons p rest ih =>
    refine Moves.ite ih ?_; split
    · exact Moves.throw _
    · exact Moves.ite (Moves.pure _) ih

variable {r : Except String Nat}

theorem certifyNew_ok (h : certifyNew v proof s = .ok r s') :
    s' = s ∨ (proof.generation = (s.latestCertification.map (·.generation)).getD 0 + 1 ∧
      (∃ n, r = .ok n) ∧ recordCertification v proof s = .ok ⟨⟩ s') := by
  unfold certifyNew at h; rw [bind_ok] at h
  obtain ⟨⟨expected, cash, fills⟩, s₁, hledger, h⟩ := h
  have hread : s₁ = s := ledger_reads v.contentId _ _ _ hledger; subst hread
  rw [bind_ok] at h; obtain ⟨t, s₂, hget, h⟩ := h; rw [get_ok] at hget
  obtain ⟨rfl, rfl⟩ := hget
  cases hbase : s₂.baselines with
  | nil =>
    rw [hbase] at h; cases h
  | cons baseline rest =>
    cases rest with
    | cons _ _ =>
      rw [hbase] at h; cases h
    | nil =>
      rw [hbase] at h; dsimp only at h; split at h
      · obtain ⟨_, rfl⟩ := pure_ok.1 h; exact .inl rfl
      next hmatch =>
      have hgen : proof.generation =
          (s₂.latestCertification.map (·.generation)).getD 0 + 1 := by
        by_contra hne; exact hmatch (by unfold InventoryMismatch; tauto)
      rw [bind_ok] at h; obtain ⟨basis, s₃, hbasis, h⟩ := h
      have hread : s₃ = s₂ := inventoryBasis_reads _ _ _ _ hbasis; subst hread
      rw [bind_ok] at h; obtain ⟨mismatch, s₄, hmismatch, h⟩ := h
      have hread : s₄ = s₃ := by
        unfold basisMismatch at hmismatch; split at hmismatch
        · exact (pure_ok.1 hmismatch).2.symm
        · exact basisDiffers_reads _ _ _ _ _ _ hmismatch
      subst hread
      cases mismatch with
      | true =>
        obtain ⟨_, rfl⟩ := pure_ok.1 h; exact .inl rfl
      | false =>
        rw [if_neg (by simp), bind_ok] at h; obtain ⟨_, s₅, hrec, h⟩ := h
        obtain ⟨rfl, rfl⟩ := pure_ok.1 h; exact .inr ⟨hgen, ⟨_, rfl⟩, hrec⟩

theorem Certifies.of_kept {s₁ : CoreStore} (h : Certifies proof row s₁ s')
    (hkept : CertificatesKept s s₁) : Certifies proof row s s' := by
  cases h with
  | cash hcash hrows hother =>
    refine .cash hcash ?_ (hother.trans hkept.quantityCertifications)
    rw [hrows, hkept.certifications]
  | quantity hcash hrows hother hrevoked =>
    refine .quantity hcash ?_ (hother.trans hkept.certifications) ?_
    · rw [hrows, hkept.quantityCertifications]
    · rw [← hkept.certifications]; exact hrevoked

/-- What a call that returns has done: the proof is stored, and it was certified
before, or refused, or certified under the next generation. -/
theorem certifyInventory_ok (h : certifyInventory v proof s = .ok r s') :
    ∃ s₁, CertificatesKept s s₁ ∧ s₁.proof? (v.contentId (.proof proof)) = some proof ∧
      ((s' = s₁ ∧ ∃ n, r = .ok n) ∨
      (s' = s₁ ∧ (s.certificatesFor proof).get? (v.contentId (.proof proof)) = none) ∨
      (proof.generation = (s.latestCertification.map (·.generation)).getD 0 + 1 ∧
        (∃ n, r = .ok n) ∧ EvidenceKept s₁ s' ∧
        Certifies proof ⟨proof.generation, v.contentId (.proof proof)⟩ s s')) := by
  unfold certifyInventory at h; rw [bind_ok] at h; obtain ⟨_, s₁, hput, h⟩ := h
  rw [bind_ok] at h; obtain ⟨t, s₂, hget, h⟩ := h; rw [get_ok] at hget
  obtain ⟨rfl, rfl⟩ := hget
  obtain ⟨hkept, hstored⟩ := put_certificatesKept hput
  refine ⟨s₂, hkept, CoreStore.proof?_eq_some.2 hstored, ?_⟩
  have htable : s₂.certificatesFor proof = s.certificatesFor proof := by
    unfold CoreStore.certificatesFor
    rw [hkept.certifications, hkept.quantityCertifications]
  have hlatest : s₂.latestCertification = s.latestCertification := by
    unfold CoreStore.latestCertification CoreStore.allCertifications
    rw [hkept.certifications, hkept.quantityCertifications]
  rw [htable] at h
  cases hrow : (s.certificatesFor proof).get? (v.contentId (.proof proof)) with
  | some c =>
    rw [hrow] at h; obtain ⟨rfl, rfl⟩ := pure_ok.1 h; exact .inl ⟨rfl, _, rfl⟩
  | none =>
    rw [hrow] at h; refine .inr ?_
    rcases certifyNew_ok h with rfl | ⟨hgen, hok, hrec⟩
    · exact .inl ⟨rfl, rfl⟩
    · obtain ⟨hkept', hcert⟩ := recordCertification_ok hrec
      exact .inr ⟨hlatest ▸ hgen, hok, hkept', hcert.of_kept hkept⟩

/-! ## Runs -/

inductive CertifyLabel
  | certify (proof : ReconciliationProof)
  | write

/-- A call, committed or rolled back, or any transaction that does not certify. -/
inductive CertifyStep (v : InventoryViews) : CoreStore → CertifyLabel → CoreStore → Prop
  | certify (s : CoreStore) (proof : ReconciliationProof) :
      CertifyStep v s (.certify proof) (after (immediate (certifyInventory v proof)) s)
  | write {s s' : CoreStore} : CertificatesKept s s' → CertifyStep v s .write s'

/-- A run starts before the first certification. -/
def certifying (v : InventoryViews) : LTS CoreStore CertifyLabel where
  init s := s.allCertifications = []
  step := CertifyStep v

/-- The two tables share one counter, every certified proof is on record on its own
side, and no cash certification before a quantity one is unrevoked. -/
structure Gapless (s : CoreStore) : Prop where
  generations : (s.allCertifications.map (·.generation)).Perm
    (List.range' 1 s.allCertifications.length)
  cash : ∀ c ∈ s.certifications.rows, ∃ p, s.proof? c.proofId = some p ∧ p.cashComplete = true
  quantity : ∀ c ∈ s.quantityCertifications.rows,
    ∃ p, s.proof? c.proofId = some p ∧ p.cashComplete = false
  revoked : ∀ q ∈ s.quantityCertifications.rows, ∀ c ∈ s.certifications.rows,
    c.generation < q.generation → (s.revocations.get? c.snapshotId).isSome

namespace Gapless

variable {s s' : CoreStore}

section

variable (h : Gapless s)
include h

theorem generation_mem {n : Nat} :
    (∃ c ∈ s.allCertifications, c.generation = n) ↔ 1 ≤ n ∧ n ≤ s.allCertifications.length := by
  have hmem := h.generations.mem_iff (a := n)
  rw [List.mem_map, List.mem_range'_1] at hmem; rw [hmem]; omega

theorem latest :
    (s.latestCertification.map (·.generation)).getD 0 = s.allCertifications.length := by
  cases hlatest : s.latestCertification with
  | none =>
    have hnone := List.find?_eq_none.1 hlatest; by_contra hne
    have hne : ¬ 0 = s.allCertifications.length := hne
    obtain ⟨c, hc, hgen⟩ := h.generation_mem.2 ⟨by omega, le_refl s.allCertifications.length⟩
    refine hnone c hc (decide_eq_true fun d hd => ?_); rw [hgen]
    exact (h.generation_mem.1 ⟨d, hd, rfl⟩).2
  | some c =>
    have hc := List.mem_of_find?_eq_some hlatest
    have hmax : ∀ d ∈ s.allCertifications, d.generation ≤ c.generation := by
      simpa using List.find?_some hlatest
    have hpos := List.length_pos_of_mem hc
    obtain ⟨d, hd, hgen⟩ := h.generation_mem.2 ⟨hpos, le_refl _⟩
    have hle := hmax d hd; have hge := (h.generation_mem.1 ⟨c, hc, rfl⟩).2
    show c.generation = _; omega

theorem kept (hkept : CertificatesKept s s') : Gapless s' := by
  have hall : s'.allCertifications = s.allCertifications := by
    unfold CoreStore.allCertifications
    rw [hkept.certifications, hkept.quantityCertifications]
  refine ⟨hall ▸ h.generations, ?_, ?_, ?_⟩
  · rw [hkept.certifications]; intro c hc; obtain ⟨p, hp, hcash⟩ := h.cash c hc
    exact ⟨p, hkept.proof? hp, hcash⟩
  · rw [hkept.quantityCertifications]; intro c hc
    obtain ⟨p, hp, hcash⟩ := h.quantity c hc; exact ⟨p, hkept.proof? hp, hcash⟩
  · rw [hkept.certifications, hkept.quantityCertifications]
    exact fun q hq c hc hlt => hkept.revoked (h.revoked q hq c hc hlt)

/-- **Certification step.** The next generation, on either side. -/
theorem certifies {proof : ReconciliationProof}
    (hevidence : EvidenceKept s s') (hproof : s'.proof? row.proofId = some proof)
    (hgen : row.generation = s.allCertifications.length + 1)
    (hcert : Certifies proof row s s') : Gapless s' := by
  have hextend : ∀ l : List Certification, l.Perm (s.allCertifications ++ [row]) →
      (l.map (·.generation)).Perm (List.range' 1 l.length) := by
    intro l hl
    rw [hl.length_eq, List.length_append, List.length_singleton, List.range'_concat]
    refine (hl.map _).trans ?_
    rw [List.map_append, List.map_singleton, hgen, Nat.one_mul, Nat.add_comm 1]
    exact h.generations.append_right _
  have hold : ∀ c ∈ s.allCertifications, c.generation < row.generation := by
    intro c hc; have := (h.generation_mem.1 ⟨c, hc, rfl⟩).2; omega
  have hstored : ∀ {b : Bool} {c : Certification},
      (∃ p, s.proof? c.proofId = some p ∧ p.cashComplete = b) →
      ∃ p, s'.proof? c.proofId = some p ∧ p.cashComplete = b :=
    fun ⟨p, hp, hcash⟩ => ⟨p, hevidence.proof? hp, hcash⟩
  cases hcert with
  | cash hcash hrows hother =>
    refine ⟨hextend _ ?_, ?_, ?_, ?_⟩
    · unfold CoreStore.allCertifications
      rw [hrows, hother, List.append_assoc, List.append_assoc]
      exact (List.perm_append_comm).append_left _
    · rw [hrows]; intro c hc; rcases List.mem_append.1 hc with hc | hc
      · exact hstored (h.cash c hc)
      rw [List.mem_singleton] at hc; subst hc; exact ⟨proof, hproof, hcash⟩
    · rw [hother]; exact fun c hc => hstored (h.quantity c hc)
    · rw [hrows, hother]; intro q hq c hc hlt
      rcases List.mem_append.1 hc with hc | hc
      · exact hevidence.revoked (h.revoked q hq c hc hlt)
      -- no quantity certification is later than the new one
      rw [List.mem_singleton] at hc; subst hc
      have := hold q (List.mem_append_right _ hq); omega
  | quantity hcash hrows hother hrevoked =>
    refine ⟨hextend _ ?_, ?_, ?_, ?_⟩
    · unfold CoreStore.allCertifications; rw [hrows, hother, List.append_assoc]
    · rw [hother]; exact fun c hc => hstored (h.cash c hc)
    · rw [hrows]; intro c hc; rcases List.mem_append.1 hc with hc | hc
      · exact hstored (h.quantity c hc)
      rw [List.mem_singleton] at hc; subst hc; exact ⟨proof, hproof, hcash⟩
    · rw [hother]; exact fun q _ c hc _ => hrevoked c hc

theorem proofs_nodup : (s.allCertifications.map (·.proofId)).Nodup := by
  unfold CoreStore.allCertifications; rw [List.map_append, List.nodup_append]
  refine ⟨s.certifications.nodup, s.quantityCertifications.nodup, fun a ha b hb hab => ?_⟩
  obtain ⟨c, hc, rfl⟩ := List.mem_map.1 ha
  obtain ⟨d, hd, rfl⟩ := List.mem_map.1 hb; obtain ⟨p, hp, hcash⟩ := h.cash c hc
  obtain ⟨q, hq, hquantity⟩ := h.quantity d hd; rw [hab, hq] at hp; cases hp
  rw [hcash] at hquantity; cases hquantity

end

end Gapless

theorem certify_gapless (hs : Gapless s) (h : certifyInventory v proof s = .ok r s') :
    Gapless s' ∧ EvidenceKept s s' := by
  obtain ⟨s₁, hkept, hproof, hcase⟩ := certifyInventory_ok h
  rcases hcase with ⟨rfl, _⟩ | ⟨rfl, _⟩ | ⟨hgen, _, hkept', hcert⟩
  · exact ⟨hs.kept hkept, hkept.toEvidenceKept⟩
  · exact ⟨hs.kept hkept, hkept.toEvidenceKept⟩
  · have hevidence := hkept.toEvidenceKept.trans' hkept'; rw [hs.latest] at hgen
    exact ⟨hs.certifies hevidence (hkept'.proof? hproof) hgen hcert, hevidence⟩

theorem certify_step {l : CertifyLabel} (hs : Gapless s) (hst : (certifying v).step s l s') :
    Gapless s' ∧ EvidenceKept s s' := by
  cases hst with
  | certify proof =>
    unfold Txn.after
    cases hc : immediate (certifyInventory v proof) s with
    | ok r s' => exact certify_gapless hs (immediate_ok.1 hc)
    | error e s' =>
      rw [immediate_error hc]; exact ⟨hs, .rfl' s⟩
  | write hkept => exact ⟨hs.kept hkept, hkept.toEvidenceKept⟩

theorem gapless_inductive (v : InventoryViews) : (certifying v).Inductive Gapless where
  init := by
    intro s hs; obtain ⟨hc, hq⟩ := List.append_eq_nil_iff.1 hs
    refine ⟨?_, ?_, ?_, ?_⟩
    · simp [CoreStore.allCertifications, hc, hq]
    · rw [hc]; exact fun c h => by cases h
    · rw [hq]; exact fun c h => by cases h
    · rw [hq]; exact fun c h => by cases h
  step := fun _ _ _ hs hst => (certify_step hs hst).1

/-! ## Refused proofs -/

theorem uncertified_step {l : CertifyLabel}
    (hproof : s.proof? (v.contentId (.proof proof)) = some proof)
    (hnone : ∀ c ∈ s.allCertifications, c.proofId ≠ v.contentId (.proof proof))
    (hst : (certifying v).step s l s') (hl : l ≠ .certify proof) :
    ∀ c ∈ s'.allCertifications, c.proofId ≠ v.contentId (.proof proof) := by
  have hkeep : ∀ {t}, CertificatesKept s t →
      ∀ c ∈ t.allCertifications, c.proofId ≠ v.contentId (.proof proof) := by
    intro t hkept; unfold CoreStore.allCertifications
    rw [hkept.certifications, hkept.quantityCertifications]; exact hnone
  cases hst with
  | write hkept => exact hkeep hkept
  | certify other =>
    unfold Txn.after
    cases hc : immediate (certifyInventory v other) s with
    | error e s' =>
      rw [immediate_error hc]; exact hnone
    | ok r s' =>
      obtain ⟨s₁, hkept, hstored, hcase⟩ := certifyInventory_ok (immediate_ok.1 hc)
      rcases hcase with ⟨rfl, _⟩ | ⟨rfl, _⟩ | ⟨_, _, _, hcert⟩
      · exact hkeep hkept
      · exact hkeep hkept
      -- a new row under this id would make `other` the proof
      have hid : v.contentId (.proof other) ≠ v.contentId (.proof proof) := by
        intro hid; rw [hid, hkept.proof? hproof] at hstored; cases hstored
        exact hl rfl
      intro c hc
      have hmem : c ∈ s.allCertifications ∨
          c = ⟨other.generation, v.contentId (.proof other)⟩ := by
        unfold CoreStore.allCertifications at hc ⊢
        cases hcert with
        | cash _ hrows hother | quantity _ hrows hother _ =>
          rw [hrows, hother] at hc
          simp only [List.mem_append, List.mem_singleton] at hc ⊢; tauto
      rcases hmem with hmem | rfl
      · exact hnone c hmem
      · exact hid

theorem certify_refused {reason : String} (hs : Gapless s)
    (h : certifyInventory v proof s = .ok (.error reason) s') :
    CertificatesKept s s' ∧ s'.proof? (v.contentId (.proof proof)) = some proof ∧
      ∀ c ∈ s'.allCertifications, c.proofId ≠ v.contentId (.proof proof) := by
  obtain ⟨s₁, hkept, hproof, hcase⟩ := certifyInventory_ok h
  rcases hcase with ⟨_, _, hr⟩ | ⟨rfl, hnone⟩ | ⟨_, ⟨_, hr⟩, _⟩
  · cases hr
  · refine ⟨hkept, hproof, fun c hc hid => ?_⟩; have hs' := hs.kept hkept
    unfold CoreStore.certificatesFor at hnone
    rw [← hkept.certifications, ← hkept.quantityCertifications] at hnone
    rcases List.mem_append.1 hc with hc | hc
    · obtain ⟨p, hp, hcash⟩ := hs'.cash c hc; rw [hid, hproof] at hp; cases hp
      rw [if_pos hcash] at hnone; exact Table.get?_none.1 hnone c hc hid
    · obtain ⟨p, hp, hcash⟩ := hs'.quantity c hc; rw [hid, hproof] at hp
      cases hp; rw [if_neg (by simp [hcash])] at hnone
      exact Table.get?_none.1 hnone c hc hid
  · cases hr

theorem uncertified_run {ls : List CertifyLabel} (hrun : (certifying v).Run s ls s')
    (hs : Gapless s) (hproof : s.proof? (v.contentId (.proof proof)) = some proof) :
    s'.proof? (v.contentId (.proof proof)) = some proof ∧
      ((∀ c ∈ s.allCertifications, c.proofId ≠ v.contentId (.proof proof)) →
        (∀ l ∈ ls, l ≠ .certify proof) →
        ∀ c ∈ s'.allCertifications, c.proofId ≠ v.contentId (.proof proof)) := by
  induction hrun with
  | nil s => exact ⟨hproof, fun hnone _ => hnone⟩
  | cons hst _ ih =>
    obtain ⟨hs', hkept⟩ := certify_step hs hst
    obtain ⟨hlater, hrest⟩ := ih hs' (hkept.proof? hproof)
    refine ⟨hlater, fun hnone hl => hrest ?_ fun l h => hl l (List.mem_cons_of_mem _ h)⟩
    exact uncertified_step hproof hnone hst (hl _ List.mem_cons_self)

/-- **Certification generations.** Over every run: the certificates of both tables
carry the generations 1..n, each of one proof of its own; before a quantity
certification no cash certification is left unrevoked; and a refused call certifies
nothing, its proof stays on record, and no certificate names it until it is
presented again. -/
theorem inventory_generations (v : InventoryViews) (s : CoreStore)
    (h : (certifying v).Reachable s) :
    (∃ n, (s.allCertifications.map (·.generation)).Perm (List.range' 1 n)) ∧
    (s.allCertifications.map (·.proofId)).Nodup ∧
    (∀ c ∈ s.allCertifications, (s.proof? c.proofId).isSome) ∧
    (∀ q ∈ s.quantityCertifications.rows, ∀ c ∈ s.certifications.rows,
      c.generation < q.generation → (s.revocations.get? c.snapshotId).isSome) ∧
    ∀ proof reason s₁, certifyInventory v proof s = .ok (.error reason) s₁ →
      s₁.allCertifications = s.allCertifications ∧ ∀ ls s₂, (certifying v).Run s₁ ls s₂ →
        s₂.proof? (v.contentId (.proof proof)) = some proof ∧ ((∀ l ∈ ls, l ≠ .certify proof) →
          ∀ c ∈ s₂.allCertifications, c.proofId ≠ v.contentId (.proof proof)) := by
  have hs := (gapless_inductive v).reachable h
  refine ⟨⟨_, hs.generations⟩, hs.proofs_nodup, ?_, hs.revoked, ?_⟩
  · intro c hc; rcases List.mem_append.1 hc with hc | hc
    · obtain ⟨p, hp, _⟩ := hs.cash c hc; rw [hp]; rfl
    · obtain ⟨p, hp, _⟩ := hs.quantity c hc; rw [hp]; rfl
  · intro proof reason s₁ hrefused
    obtain ⟨hkept, hproof, hnone⟩ := certify_refused hs hrefused
    refine ⟨?_, fun ls s₂ hrun => ?_⟩
    · unfold CoreStore.allCertifications
      rw [hkept.certifications, hkept.quantityCertifications]
    · obtain ⟨hlater, hrest⟩ := uncertified_run hrun (hs.kept hkept) hproof
      exact ⟨hlater, hrest hnone⟩

/-! ## A proof presented too early -/

def labelViews : InventoryViews where
  contentId
    | .proof p => if p.generation = 1 then "p1" else "p2"
    | _ => ""
  ledgerStateId _ := ""
  scopeObjections _ _ := []

def unprovedStore : CoreStore :=
  { config :=
      { accountId := "PA1", releaseId := "rel", owner := "core", generation := 1
        evidenceLane := .syntheticTest }
    baselines := [{ id := "b", quantities := [], cash := 1000 }] }

def cashProof (generation : Nat) (h : 1 ≤ generation) : ReconciliationProof where
  recordedAt := 0
  releaseId := "rel"
  evidenceLane := .syntheticTest
  account :=
    { accountId := "PA1", cash := 1000, buyingPower := 1000, equity := 1000, currency := "USD"
      cash_nonneg := by decide, buyingPower_nonneg := by decide
      equity_nonneg := by decide }
  baselineId := "b"
  generation := generation
  fillIds := []
  expectedQuantities := []
  actualQuantities := []
  positions := []
  expectedCash := some 1000
  acquisitionId := "a"
  complete := true
  generation_pos := h

/-- The second generation before the first, the first, and the second again. -/
def presentedStore : CoreStore :=
  [cashProof 2 (by decide), cashProof 1 Nat.one_pos, cashProof 2 (by decide)].foldl
    (fun s p => after (immediate (certifyInventory labelViews p)) s) unprovedStore

/-- A refused proof that is presented again is certified. -/
theorem refused_then_certified :
    Returns (certifyInventory labelViews (cashProof 2 (by decide))) unprovedStore
      (.error "INVENTORY_MISMATCH") ∧
    presentedStore.allCertifications = [⟨1, "p1"⟩, ⟨2, "p2"⟩] := by
  decide

theorem inventory_generations_presented :
    (∃ n, (presentedStore.allCertifications.map (·.generation)).Perm (List.range' 1 n)) ∧
    (presentedStore.allCertifications.map (·.proofId)).Nodup := by
  have hrun : (certifying labelViews).Run unprovedStore
      [.certify (cashProof 2 (by decide)), .certify (cashProof 1 (by decide)),
        .certify (cashProof 2 (by decide))] presentedStore :=
    .cons (.certify _ _) (.cons (.certify _ _) (.cons (.certify _ _) (.nil _)))
  obtain ⟨hgenerations, hproofs, _⟩ :=
    inventory_generations labelViews presentedStore ⟨unprovedStore, _, rfl, hrun⟩
  exact ⟨hgenerations, hproofs⟩

end Quantbot.L4
