import Quantbot.L4PaperCore.ContinuousCapital

/-!
# Captures of continuous capital

`acquire_continuous_capital` in its two transactions, `continuous_budget_authority`,
and the system of captures that race over one store.

A capture that lost the cursor to another commits its external flows and then
raises, so that raise is a value (`Except`) and every other one rolls back.

* `finishCapture_ok`: what a write that commits has done, case by case.
* `capturing`: any number of captures begun and not finished, in any interleaving
  with the writers of the other tables.
-/
namespace Quantbot.L4

open Core L1 L2 Txn

/-! ## Reading -/

/-- What the first transaction leaves the capture to do. -/
structure CapturePlan where
  policyId : String
  proof : ReconciliationProof
  opening : Option (Filed SessionOpening)
  cursor : Option String
  previousId : Option String
  bootstrapId : String
  coverageStart : Int
  queryStart : Int
  limit : Int
  now : Int
deriving DecidableEq

inductive Begun
  | done (receipt : Option String)
  | fetch (plan : CapturePlan)
deriving DecidableEq

def twoDays : Int := 172800 * second

def sixHours : Int := 21600 * second

/-- A complete receipt of the proof that still stands.
mirrors continuous_capital.py:364-380 -/
def reusableReceipt (v : CapitalViews) (s : CapitalStore) (policy : EntryPolicy)
    (proof : ReconciliationProof) (now : Int) : Option String :=
  (s.receiptFor (v.contentId (.proof proof))).bind fun old =>
    if old.payload.complete = true ∧ old.payload.entryPolicyId = policy.id ∧ s.knownFlows v = [] ∧
        ∃ a ∈ old.payload.anchorId.bind s.anchors.get?, AnchorVerified v s a.payload now then
      some old.id
    else none

/-- The opening coverage starts from, and where it starts.
mirrors continuous_capital.py:392-399 -/
def lineage (prior : Option (Filed AccountRiskAnchor))
    (previous : Option (Filed ContinuousActivityCoverage))
    (opening : Option (Filed SessionOpening)) : Option (String × Int) :=
  match prior, previous, opening with
  | some a, _, _ => some (a.payload.bootstrapOpeningId, a.payload.coverageStart)
  | none, some p, _ => some (p.payload.bootstrapOpeningId, p.payload.coverageStart)
  | none, none, some o => some (o.id, o.payload.sessionOpen)
  | none, none, none => none

/-- The cursor's document belongs to another coverage, or is not complete.
mirrors continuous_capital.py:400-406 -/
def LineageInvalid (v : CapitalViews) (s : CapitalStore) (bootstrapId : String)
    (coverageStart : Int) (previous : ContinuousActivityCoverage) : Prop :=
  previous.scopeId ≠ s.scope v ∨ previous.bootstrapOpeningId ≠ bootstrapId ∨
    previous.coverageStart ≠ coverageStart ∨ previous.protocolComplete = false
deriving Decidable

/-- The window: from two days before the watermark, for at most six hours behind it.
mirrors continuous_capital.py:407-409 -/
def planWindow (policyId : String) (proof : ReconciliationProof)
    (opening : Option (Filed SessionOpening)) (cursor : Option String)
    (previous : Option (Filed ContinuousActivityCoverage)) (bootstrapId : String)
    (coverageStart now : Int) : CapturePlan :=
  let watermark := (previous.map (·.payload.activityWatermark)).getD coverageStart
  { policyId, proof, opening, cursor, previousId := previous.map (·.id), bootstrapId, coverageStart
    queryStart := max coverageStart (watermark - twoDays)
    limit := min now (watermark + sixHours)
    now }

/-- mirrors continuous_capital.py:381-409 -/
def planCapture (v : CapitalViews) (s : CapitalStore) (policyId : String)
    (proof : ReconciliationProof) (now : Int) : Except CapitalError Begun :=
  let prior := (s.newestAnchors v).head?
  let opening := trustedOpening v s now none
  let previous := (s.cursor v).bind s.coverages.get?
  if ∃ a ∈ prior, ¬ AnchorVerified v s a.payload now then
    .error (.value "ACCOUNT_RISK_ANCHOR_UNVERIFIED")
  else if opening = none ∧ prior = none then .ok (.done none)
  else match lineage prior previous opening with
    | none => .ok (.done none)
    | some (bootstrapId, coverageStart) =>
      if ∃ p ∈ previous, LineageInvalid v s bootstrapId coverageStart p.payload then
        .error (.value "CONTINUOUS_ACTIVITY_LINEAGE_INVALID")
      else .ok (.fetch (planWindow policyId proof opening (s.cursor v) previous bootstrapId
        coverageStart now))

/-- The first transaction.
mirrors continuous_capital.py:355-409 -/
def beginCapture (v : CapitalViews) (s : CapitalStore) (proof : ReconciliationProof) (now : Int) :
    Except CapitalError Begun :=
  match s.entryPolicy with
  | none => .error (.value "CONTINUOUS_POLICY_OR_ADAPTER_UNAVAILABLE")
  | some policy =>
    if policy.crypto = false then .error (.value "CONTINUOUS_POLICY_OR_ADAPTER_UNAVAILABLE")
    else match entryInventoryObjections v.contentId v.fundsId s.toPaperStore proof now true with
      | .error e => .error (.core e)
      | .ok objections =>
        if objections ≠ [] ∨ proof.account.currency ≠ "USD" then
          .error (.value "CONTINUOUS_FUNDS_UNVERIFIED")
        else match reusableReceipt v s policy proof now with
          | some id => .ok (.done (some id))
          | none => planCapture v s policy.id proof now

/-! ## Writing -/

/-- `put` of a document table. -/
def FiledTable.put {α : Type} [DecidableEq α] (t : FiledTable α) (id : String) (payload : α) :
    Except CapitalError (FiledTable α) :=
  match t.get? id with
  | some existing => if existing.payload = payload then .ok t else .error (.conflict id)
  | none => .ok (t.insert ⟨id, payload⟩)

def putCoverage (v : CapitalViews) (source : ContinuousActivityCoverage) : CapitalTxn PUnit :=
  fun s => match s.coverages.put (v.coverageId source) source with
    | .ok t => .ok ⟨⟩ { s with coverages := t }
    | .error e => .error e s

def putAnchor (v : CapitalViews) (anchor : AccountRiskAnchor) : CapitalTxn PUnit :=
  fun s => match s.anchors.put (v.anchorId anchor) anchor with
    | .ok t => .ok ⟨⟩ { s with anchors := t }
    | .error e => .error e s

def putReceipt (v : CapitalViews) (receipt : ContinuousCapitalEvidence) : CapitalTxn PUnit :=
  fun s => match s.receipts.put (v.receiptId receipt) receipt with
    | .ok t => .ok ⟨⟩ { s with receipts := t }
    | .error e => .error e s

/-- `_index` of a document with external flows; `insert` keeps a row that is there. -/
def indexFlows (v : CapitalViews) (source : ContinuousActivityCoverage) (captured : Int) :
    CapitalTxn PUnit :=
  if source.externalFlowIds ≠ [] then
    modify fun s => { s with
      flowIndex := s.flowIndex.insert ⟨v.coverageId source, s.scope v, captured⟩ }
  else pure ⟨⟩

/-- The activity document with its flow row. -/
def noteActivity (v : CapitalViews) (source : ContinuousActivityCoverage) (captured : Int) :
    CapitalTxn PUnit := do
  putCoverage v source
  indexFlows v source captured

/-- The cursor row of the account, on to `id`. -/
def CapitalStore.movedCursors (v : CapitalViews) (s : CapitalStore) (cursor : Option String)
    (id : String) (captured : Int) : Table IndexRow (·.id) :=
  match cursor with
  | some _ => s.cursors.modify (s.scope v)
      (fun r => { r with reference := id, availableAt := captured }) fun _ h => h
  | none => s.cursors.insert ⟨s.scope v, id, captured⟩

/-- Only valid pages move the cursor.
mirrors continuous_capital.py:476-484 -/
def moveCursor (v : CapitalViews) (plan : CapturePlan) (source : ContinuousActivityCoverage)
    (captured : Int) : CapitalTxn PUnit :=
  if source.protocolComplete then
    modify fun s => { s with
      cursors := s.movedCursors v plan.cursor (v.coverageId source) captured }
  else pure ⟨⟩

/-- The activity document of a capture.
mirrors continuous_capital.py:416-433 -/
def coverageOf (v : CapitalViews) (s : CapitalStore) (plan : CapturePlan) (rows : List Activity)
    (captured : Int) : ContinuousActivityCoverage :=
  let flags := activityFlags rows plan.limit
  { s.binding captured with
    scopeId := s.scope v
    bootstrapOpeningId := plan.bootstrapId
    previousId := plan.previousId
    coverageStart := plan.coverageStart
    queryStart := plan.queryStart
    activityWatermark := plan.limit
    protocolComplete := flags.valid
    externalFlowIds := sortedIds flags.flows
    feeUncertaintyIds := sortedIds flags.fees
    rawDigest := v.rowsDigest rows
    rows := rows }

/-- The receipt of the capture that won, where it covers this one.
mirrors continuous_capital.py:447-470 -/
def winnerReceipt (v : CapitalViews) (s : CapitalStore) (plan : CapturePlan)
    (source : ContinuousActivityCoverage) : Option String :=
  (s.receiptFor (v.contentId (.proof plan.proof))).bind fun winner =>
    (s.coverages.get? winner.payload.sourceDocumentId).bind fun other =>
      if winner.payload.complete = true ∧ winner.payload.entryPolicyId = plan.policyId ∧
          other.payload.rawDigest = source.rawDigest ∧
          other.payload.queryStart = source.queryStart ∧
          source.activityWatermark ≤ other.payload.activityWatermark ∧ s.knownFlows v = [] then
        some winner.id
      else none

/-- The cursor moved since the capture read it.
mirrors continuous_capital.py:440-471 -/
def lostCapture (v : CapitalViews) (plan : CapturePlan) (source : ContinuousActivityCoverage)
    (captured : Int) : CapitalTxn (Except String String) := do
  if source.externalFlowIds ≠ [] then do
    noteActivity v source captured
    pure (.error "ACCOUNT_EXTERNAL_CAPITAL_FLOW")
  else do
    let s ← get
    match winnerReceipt v s plan source with
    | some id => pure (.ok id)
    | none => throw (.value "CONTINUOUS_ACTIVITY_AUTHORITY_CHANGED")

/-- mirrors continuous_capital.py:485-489 -/
def captureReasons (source : ContinuousActivityCoverage) (proof : ReconciliationProof)
    (known : List String) : List String :=
  (if source.protocolComplete then [] else ["CONTINUOUS_ACTIVITY_PROTOCOL_INVALID"]) ++
  (if source.activityWatermark < proof.recordedAt then ["CONTINUOUS_ACTIVITY_CATCHUP_PENDING"]
    else []) ++
  (if known ≠ [] then ["ACCOUNT_EXTERNAL_CAPITAL_FLOW"] else [])

/-- mirrors continuous_capital.py:498-502 -/
def carriedFloor (plan : CapturePlan) (predecessor : Option (Filed AccountRiskAnchor)) : ℚ :=
  max (max plan.proof.account.equity ((predecessor.map (·.payload.equityFloor)).getD 0))
    ((plan.opening.map (·.payload.equity)).getD 0)

/-- mirrors continuous_capital.py:503-519 -/
def anchorOf (v : CapitalViews) (s : CapitalStore) (plan : CapturePlan) (sourceId : String)
    (captured : Int) (predecessor : Option (Filed AccountRiskAnchor))
    (h : 0 < plan.proof.account.equity) : AccountRiskAnchor :=
  let bounds := v.accountRiskDayBounds plan.proof.recordedAt
  { s.binding captured with
    entryPolicyId := plan.policyId
    riskDay := v.day bounds.1
    riskDayStart := bounds.1
    riskDayEnd := bounds.2
    capturedAt := plan.proof.recordedAt
    measuredEquity := plan.proof.account.equity
    equityFloor := carriedFloor plan predecessor
    proofId := v.contentId (.proof plan.proof)
    fundsEvidenceId := plan.proof.acquisitionId
    bootstrapOpeningId := plan.bootstrapId
    stockOpeningId := plan.opening.map (·.id)
    predecessorId := predecessor.map (·.id)
    sourceDocumentId := sourceId
    coverageStart := plan.coverageStart
    measured_pos := h
    floor_pos := lt_of_lt_of_le h (le_max_of_le_left (le_max_left _ _)) }

/-- A new anchor of the day; its equity is checked by the model.
mirrors continuous_capital.py:497-521 -/
def createAnchor (v : CapitalViews) (plan : CapturePlan) (sourceId : String) (captured day : Int) :
    CapitalTxn (Filed AccountRiskAnchor) := do
  let s ← get
  if h : 0 < plan.proof.account.equity then do
    let anchor := anchorOf v s plan sourceId captured
      ((s.newestAnchors v).find? fun a => decide (a.payload.riskDay < day)) h
    putAnchor v anchor
    modify fun s => { s with
      anchorIndex := s.anchorIndex.insert ⟨v.anchorId anchor, s.scope v, day, captured⟩ }
    pure ⟨v.anchorId anchor, anchor⟩
  else throw (.value "measured_equity must be greater than 0")

/-- The day's anchor and the reasons against it.
mirrors continuous_capital.py:490-521 -/
def dayAnchor (v : CapitalViews) (plan : CapturePlan) (sourceId : String) (captured : Int)
    (reasons : List String) : CapitalTxn (Option (Filed AccountRiskAnchor) × List String) := do
  let s ← get
  let day := v.day (v.accountRiskDayBounds plan.proof.recordedAt).1
  match (s.newestAnchors v).find? (fun a => decide (a.payload.riskDay = day)) with
  | some a =>
    pure (some a, reasons ++
      if a.payload.entryPolicyId ≠ plan.policyId then ["CONTINUOUS_ANCHOR_POLICY_CHANGED"] else [])
  | none =>
    if reasons ≠ [] then pure (none, reasons)
    else do
      let a ← createAnchor v plan sourceId captured day
      pure (some a, [])

/-- mirrors continuous_capital.py:522-534 -/
def receiptOf (s : CapitalStore) (plan : CapturePlan) (source : ContinuousActivityCoverage)
    (sourceId proofId : String) (captured : Int) (known : List String)
    (anchor : Option (Filed AccountRiskAnchor)) (reasons : List String) :
    ContinuousCapitalEvidence :=
  { s.binding captured with
    entryPolicyId := plan.policyId
    anchorId := anchor.map (·.id)
    proofId := proofId
    fundsEvidenceId := plan.proof.acquisitionId
    sourceDocumentId := sourceId
    activityStart := plan.coverageStart
    activityWatermark := plan.limit
    complete := decide (reasons = [] ∧ anchor ≠ none)
    externalFlowIds := known
    feeUncertaintyIds := source.feeUncertaintyIds
    reasons := reasons }

def fileReceipt (v : CapitalViews) (receipt : ContinuousCapitalEvidence) (captured : Int) :
    CapitalTxn PUnit := do
  putReceipt v receipt
  modify fun s => { s with
    receiptIndex := s.receiptIndex.insert ⟨v.receiptId receipt, receipt.proofId, captured⟩ }

/-- The cursor is where the capture read it.
mirrors continuous_capital.py:472-537 -/
def wonCapture (v : CapitalViews) (plan : CapturePlan) (source : ContinuousActivityCoverage)
    (captured : Int) : CapitalTxn (Except String String) := do
  noteActivity v source captured
  moveCursor v plan source captured
  let s ← get
  let known := s.knownFlows v
  let (anchor, reasons) ← dayAnchor v plan (v.coverageId source) captured
    (captureReasons source plan.proof known)
  let receipt := receiptOf s plan source (v.coverageId source) (v.contentId (.proof plan.proof))
    captured known anchor reasons
  fileReceipt v receipt captured
  pure (.ok (v.receiptId receipt))

/-- The second transaction: a receipt, or the reason of a raise behind a commit.
mirrors continuous_capital.py:434-538 -/
def finishCapture (v : CapitalViews) (plan : CapturePlan) (rows : List Activity) (captured : Int) :
    CapitalTxn (Except String String) := do
  let s ← get
  match entryInventoryObjections v.contentId v.fundsId s.toPaperStore plan.proof captured true with
  | .error e => throw (.core e)
  | .ok objections =>
    if objections ≠ [] then throw (.value "CONTINUOUS_FUNDS_UNVERIFIED")
    else if s.cursor v ≠ plan.cursor then
      lostCapture v plan (coverageOf v s plan rows captured) captured
    else wonCapture v plan (coverageOf v s plan rows captured) captured

/-- The rows of a capture's window.
mirrors continuous_capital.py:410-415 -/
def captureRows (plan : CapturePlan) (replies : List ActivityReply) :
    Except String (List Activity) :=
  getPerformanceActivities (plan.queryStart - 1) plan.limit replies

/-- Fetch and write. -/
def completeCapture (v : CapitalViews) (plan : CapturePlan) (replies : List ActivityReply)
    (captured : Int) : CapitalTxn (Except String String) :=
  match captureRows plan replies with
  | .error message => throw (.broker message)
  | .ok rows => immediate (finishCapture v plan rows captured)

/-! ## The authority over a budget -/

/-- The anchor of the day no longer carries its floor.
mirrors continuous_capital.py:566-574 -/
def AnchorObjected (v : CapitalViews) (s : CapitalStore) (policy : EntryPolicy)
    (anchor : AccountRiskAnchor) (proof : ReconciliationProof) (now : Int) : Prop :=
  anchor.entryPolicyId ≠ policy.id ∨ anchor.configId ≠ s.configId ∨
    anchor.currency ≠ proof.account.currency ∨ now < anchor.capturedAt ∨
    anchor.equityFloor < anchor.measuredEquity ∨ ¬ AnchorVerified v s anchor now
deriving Decidable

/-- A receipt that authorizes the proof's capital.
mirrors continuous_capital.py:593-614 -/
def ReceiptValid (v : CapitalViews) (s : CapitalStore) (policy : EntryPolicy)
    (anchor : Filed AccountRiskAnchor) (proof : ReconciliationProof) (now : Int)
    (receipt : ContinuousCapitalEvidence) (source : ContinuousActivityCoverage) : Prop :=
  receipt.complete = true ∧ receipt.anchorId = some anchor.id ∧
    receipt.entryPolicyId = policy.id ∧ receipt.fundsEvidenceId = proof.acquisitionId ∧
    receipt.configId = s.configId ∧ receipt.accountId = s.config.accountId ∧
    receipt.storeIdentity = s.storeIdentity ∧ receipt.releaseId = s.config.releaseId ∧
    receipt.evidenceLane = .brokerPaper ∧ receipt.externalFlowIds = [] ∧ receipt.reasons = [] ∧
    (0 ≤ now - receipt.recordedAt ∧ now - receipt.recordedAt ≤ 120 * second) ∧
    source.protocolComplete = true ∧ source.scopeId = s.scope v ∧
    source.coverageStart = anchor.payload.coverageStart ∧
    anchor.payload.coverageStart = receipt.activityStart ∧
    source.activityWatermark = receipt.activityWatermark ∧
    proof.recordedAt ≤ receipt.activityWatermark ∧ source.rawDigest = v.rowsDigest source.rows
deriving Decidable

/-- The receipts of a proof, each with its activity document. -/
def receiptsOf (s : CapitalStore) (proofId : String) :
    List (ContinuousCapitalEvidence × ContinuousActivityCoverage) :=
  (s.receiptIndex.rows.filter fun r => decide (r.reference = proofId)).filterMap fun r =>
    (s.receipts.get? r.id).bind fun receipt =>
      (s.coverages.get? receipt.payload.sourceDocumentId).map fun c => (receipt.payload, c.payload)

/-- mirrors continuous_capital.py:566-618 -/
def anchorReasons (v : CapitalViews) (s : CapitalStore) (policy : EntryPolicy)
    (anchor : Filed AccountRiskAnchor) (proof : ReconciliationProof) (now : Int)
    (accountEquity lossBps : ℚ) : List String :=
  (if AnchorObjected v s policy anchor.payload proof now then ["ACCOUNT_RISK_ANCHOR_UNVERIFIED"]
    else []) ++
  (if accountEquity * 10000 ≤ anchor.payload.equityFloor * (10000 - lossBps) then
    ["ACCOUNT_CARRY_FORWARD_LOSS_HALT"] else []) ++
  (if ∃ o ∈ trustedOpening v s now none, (v.accountRiskDayBounds now).1 ≤ o.payload.capturedAt ∧
      o.payload.capturedAt < (v.accountRiskDayBounds now).2 ∧
      accountEquity * 10000 ≤ o.payload.equity * (10000 - lossBps) then
    ["SESSION_DAILY_LOSS_HALT"] else []) ++
  (if ∃ p ∈ receiptsOf s (v.contentId (.proof proof)),
      ReceiptValid v s policy anchor proof now p.1 p.2 then []
    else ["CONTINUOUS_CAPITAL_UNVERIFIED"])

/-- The anchor of the day of `now`.
mirrors continuous_capital.py:555-563 -/
def currentAnchor (v : CapitalViews) (s : CapitalStore) (now : Int) :
    Option (Filed AccountRiskAnchor) :=
  (s.newestAnchors v).find? fun a =>
    decide ((a.payload.riskDayStart, a.payload.riskDayEnd) = v.accountRiskDayBounds now)

/-- The anchor and the objections.
mirrors continuous_capital.py:541-619 -/
def continuousBudgetAuthority (v : CapitalViews) (s : CapitalStore) (proof : ReconciliationProof)
    (now : Int) (accountEquity lossBps : ℚ) (latest : Bool) :
    Except CapitalError (Option String × List String) :=
  match entryInventoryObjections v.contentId v.fundsId s.toPaperStore proof now latest with
  | .error e => .error (.core e)
  | .ok objections =>
    match s.entryPolicy with
    | none => .ok (none, ["CONTINUOUS_POLICY_UNAVAILABLE"])
    | some policy =>
      if policy.crypto = false then .ok (none, ["CONTINUOUS_POLICY_UNAVAILABLE"])
      else
        let reasons := objections ++
          if s.knownFlows v ≠ [] then ["ACCOUNT_EXTERNAL_CAPITAL_FLOW"] else []
        match currentAnchor v s now with
        | none => .ok (none, (reasons ++ ["ACCOUNT_RISK_ANCHOR_UNVERIFIED"]).eraseDups)
        | some anchor => .ok (some anchor.id,
            (reasons ++ anchorReasons v s policy anchor proof now accountEquity lossBps).eraseDups)

end Quantbot.L4
