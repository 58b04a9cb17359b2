import Quantbot.L4PaperCore.Funds

/-!
# Continuous capital

`paper_core/continuous_capital.py`: the activity pages behind a spending authority,
the anchors of the carried loss floor and the receipts that name both, with the
opening balances they trust.

A capture reads the store, fetches pages with no transaction open, and writes under
`BEGIN IMMEDIATE`; `beginCapture` and `finishCapture` are the two halves, and what
the first half read is all the second half remembers of it (`CapturePlan`).

The New York calendar is a parameter: the days and their midnights. An opening, an
activity document, an anchor or a receipt is read under the id it was stored by.
-/
namespace Quantbot.L4

open Core L1 L2 Txn

/-! ## Activity rows -/

/-- What `datetime.fromisoformat` makes of a row's time text. -/
inductive Stamp
  | unreadable
  | naive
  | aware (time : Int)
deriving DecidableEq, Repr

/-- The fields of an activity row the capture reads; a value of another type, or a
missing one, is `none`, and so is an empty time. -/
structure Activity where
  id : Option String
  activityType : Option String
  transactionTime : Option Stamp
  createdAt : Option Stamp
  date : Option Stamp
deriving DecidableEq, Repr

/-- `transaction_time`, `created_at` or `date`. -/
def Activity.stamp (row : Activity) : Stamp :=
  ((row.transactionTime <|> row.createdAt) <|> row.date).getD .unreadable

/-- The rows accepted so far: their ids, newest first, and the two kinds of note. -/
structure ActivityFlags where
  valid : Bool := true
  seen : List String := []
  flows : List String := []
  fees : List String := []
deriving DecidableEq

def ActivityFlags.invalid (f : ActivityFlags) : ActivityFlags := { f with valid := false }

/-- The time half of a row.
mirrors continuous_capital.py:336-346 -/
def stampFlags (limit : Int) (f : ActivityFlags) (identity kind : String) : Stamp → ActivityFlags
  | .unreadable => f.invalid
  | .naive =>
    if kind = "FEE" ∨ kind = "CFEE" then { f with fees := identity :: f.fees }
    else if kind = "FILL" then f.invalid
    else f
  | .aware time => if limit < time then f.invalid else f

/-- One row.
mirrors continuous_capital.py:322-346 -/
def rowFlags (limit : Int) (f : ActivityFlags) (row : Activity) : ActivityFlags :=
  match row.id, row.activityType with
  | some identity, some kind =>
    if identity = "" ∨ identity ∈ f.seen then f.invalid
    else stampFlags limit { f with
      seen := identity :: f.seen
      flows := if kind = "FILL" ∨ kind = "FEE" ∨ kind = "CFEE" then f.flows
        else identity :: f.flows } identity kind row.stamp
  | _, _ => f.invalid

/-- mirrors continuous_capital.py:318-347 -/
def activityFlags (rows : List Activity) (limit : Int) : ActivityFlags :=
  rows.foldl (rowFlags limit) {}

/-- `tuple(sorted(..))`. -/
def sortedIds (ids : List String) : List String := ids.dedup.insertionSort (· ≤ ·)

@[simp] theorem mem_sortedIds {ids : List String} {id : String} : id ∈ sortedIds ids ↔ id ∈ ids := by
  simp [sortedIds]

/-! ## Pages -/

/-- A broker reply to a page request; an item that is no object is `none`. -/
inductive ActivityReply
  | failed
  | page (items : List (Option Activity))
deriving DecidableEq

/-- `_text(row, "id")`: text without surrounding blanks.
mirrors brokers/alpaca.py:79-83 -/
def Activity.pageToken (row : Activity) : Option String :=
  row.id.filter fun t => t.toList.head?.any (!·.isWhitespace) && t.toList.getLast?.any (!·.isWhitespace)

/-- The pages of one walk; the walk fails where the replies end before it does.
mirrors brokers/alpaca.py:385-400 -/
def walkPages : List ActivityReply → List String → List Activity → Except String (List Activity)
  | [], _, _ => .error "broker request failed"
  | .failed :: _, _, _ => .error "broker request failed"
  | .page items :: rest, tokens, rows =>
    if 100 < items.length then .error "performance activity page exceeds bound"
    else if none ∈ items then .error "invalid performance activity"
    else if items.length < 100 then .ok (rows ++ items.filterMap id)
    else match ((rows ++ items.filterMap id).getLast?).bind Activity.pageToken with
      | none => .error "broker id must be nonempty text"
      | some token =>
        if token ∈ tokens then .error "repeated performance activity page"
        else walkPages rest (token :: tokens) (rows ++ items.filterMap id)

/-- The rows of a window that starts after `start` and ends at `limit`.
mirrors brokers/alpaca.py:368-400 -/
def getPerformanceActivities (start limit : Int) (replies : List ActivityReply) :
    Except String (List Activity) :=
  if limit ≤ start then .error "performance activity interval must increase"
  else walkPages replies [] []

/-! ## Documents -/

/-- The binding of every document.
mirrors continuous_capital.py:100-109 -/
structure Binding where
  recordedAt : Int
  evidenceLane : EvidenceLane
  releaseId : String
  accountId : String
  storeIdentity : String
  configId : String
  policyId : String
deriving DecidableEq

/-- mirrors continuous_capital.py:58-72 -/
structure ContinuousActivityCoverage extends Binding where
  scopeId : String
  bootstrapOpeningId : String
  previousId : Option String
  coverageStart : Int
  queryStart : Int
  activityWatermark : Int
  protocolComplete : Bool
  externalFlowIds : List String
  feeUncertaintyIds : List String
  rawDigest : String
  rows : List Activity
deriving DecidableEq

/-- A risk day is its ordinal.
mirrors continuous_capital.py:36-55 -/
@[ext] structure AccountRiskAnchor extends Binding where
  entryPolicyId : String
  currency : String := "USD"
  riskDay : Int
  riskDayStart : Int
  riskDayEnd : Int
  capturedAt : Int
  measuredEquity : ℚ
  equityFloor : ℚ
  proofId : String
  fundsEvidenceId : String
  bootstrapOpeningId : String
  stockOpeningId : Option String := none
  predecessorId : Option String := none
  sourceDocumentId : String
  coverageStart : Int
  measured_pos : 0 < measuredEquity
  floor_pos : 0 < equityFloor

instance : DecidableEq AccountRiskAnchor := fun _ _ =>
  decidable_of_iff _ AccountRiskAnchor.ext_iff.symm

/-- mirrors continuous_capital.py:75-91 -/
structure ContinuousCapitalEvidence extends Binding where
  entryPolicyId : String
  anchorId : Option String
  proofId : String
  fundsEvidenceId : String
  sourceDocumentId : String
  activityStart : Int
  activityWatermark : Int
  complete : Bool
  externalFlowIds : List String
  feeUncertaintyIds : List String
  reasons : List String
deriving DecidableEq

/-- mirrors contracts.py:151-159 -/
@[ext] structure SessionOpening extends Binding where
  sessionDate : Int
  sessionOpen : Int
  capturedAt : Int
  equity : ℚ
  proofId : String
  timeEvidenceId : String
  sourceStoreIdentity : String
  sourceReleaseId : String
  equity_pos : 0 < equity

instance : DecidableEq SessionOpening := fun _ _ =>
  decidable_of_iff _ SessionOpening.ext_iff.symm

/-- The fields of a `TimeSample` an opening is checked against. -/
structure TimeSample where
  timestamp : Int
  accountId : String
  sessionOpen : Int
  wallEnd : Int
deriving DecidableEq

structure TimeEvidence where
  samples : List TimeSample
  objections : List String
deriving DecidableEq

/-! ## The store -/

/-- A row of `core_session_opening_index`. -/
structure OpeningRow where
  accountId : String
  policyId : String
  sessionDate : Int
  storeIdentity : String
  documentId : String
deriving DecidableEq

/-- A row of `core_document_index` of one of the kinds below; the text of `availableAt`
orders it. -/
structure IndexRow where
  id : String
  reference : String
  availableAt : Int
deriving DecidableEq

/-- An anchor's row, its reference `scope:day` taken apart. -/
structure AnchorRow where
  id : String
  scope : String
  riskDay : Int
  availableAt : Int
deriving DecidableEq

/-- The fields of `EntryPolicy` the capture reads. -/
structure EntryPolicy where
  id : String
  crypto : Bool
deriving DecidableEq

structure CapitalStore extends PaperStore where
  entryPolicy : Option EntryPolicy
  openings : FiledTable SessionOpening := .empty
  openingIndex : List OpeningRow := []
  timeEvidence : FiledTable TimeEvidence := .empty
  coverages : FiledTable ContinuousActivityCoverage := .empty
  anchors : FiledTable AccountRiskAnchor := .empty
  receipts : FiledTable ContinuousCapitalEvidence := .empty
  anchorIndex : Table AnchorRow (·.id) := .empty
  receiptIndex : Table IndexRow (·.id) := .empty
  flowIndex : Table IndexRow (·.id) := .empty
  cursors : Table IndexRow (·.id) := .empty
  legacyFlows : List String := []

/-- The content ids the capture takes, and the calendar of New York. -/
structure CapitalViews where
  contentId : ContentId
  fundsId : PaperFundsEvidence → String
  scopeId : String → String → String → String
  rowsDigest : List Activity → String
  coverageId : ContinuousActivityCoverage → String
  anchorId : AccountRiskAnchor → String
  receiptId : ContinuousCapitalEvidence → String
  day : Int → Int
  midnight : Int → Int
  midnight_lt : ∀ d, midnight d < midnight (d + 1)
  day_eq : ∀ t d, day t = d ↔ midnight d ≤ t ∧ t < midnight (d + 1)

namespace CapitalViews

variable (v : CapitalViews)

/-- mirrors crypto_policy.py:40-46 -/
def accountRiskDayBounds (t : Int) : Int × Int := (v.midnight (v.day t), v.midnight (v.day t + 1))

theorem day_midnight (d : Int) : v.day (v.midnight d) = d :=
  (v.day_eq _ _).2 ⟨le_refl _, v.midnight_lt d⟩

end CapitalViews

inductive CapitalError
  | core (error : CoreError)
  | value (reason : String)
  | conflict (id : String)
  | broker (message : String)
deriving DecidableEq

abbrev CapitalTxn := Txn CapitalStore CapitalError

namespace CapitalStore

/-- mirrors continuous_capital.py:93-97 -/
def scope (v : CapitalViews) (s : CapitalStore) : String :=
  v.scopeId s.config.accountId s.storeIdentity s.config.policyId

def binding (s : CapitalStore) (recordedAt : Int) : Binding :=
  ⟨recordedAt, s.config.evidenceLane, s.config.releaseId, s.config.accountId, s.storeIdentity, s.configId,
    s.config.policyId⟩

/-- The newest two of the account, by the text of their index times.
mirrors continuous_capital.py:141-154 -/
def newestAnchors (v : CapitalViews) (s : CapitalStore) : List (Filed AccountRiskAnchor) :=
  (((s.anchorIndex.rows.filter fun r => decide (r.scope = s.scope v)).insertionSort
    fun a b => textRank b.availableAt ≤ textRank a.availableAt).filterMap
      fun r => s.anchors.get? r.id).take 2

/-- The documents of the account's flow rows. -/
def flowDocuments (v : CapitalViews) (s : CapitalStore) : List ContinuousActivityCoverage :=
  (s.flowIndex.rows.filter fun r => decide (r.reference = s.scope v)).filterMap
    fun r => (s.coverages.get? r.id).map (·.payload)

/-- mirrors continuous_capital.py:157-173 -/
def knownFlows (v : CapitalViews) (s : CapitalStore) : List String :=
  sortedIds ((s.flowDocuments v).flatMap (·.externalFlowIds) ++
    s.legacyFlows.map ("LEGACY_SOURCE:" ++ ·))

/-- The newest receipt for a proof. -/
def receiptFor (s : CapitalStore) (proofId : String) : Option (Filed ContinuousCapitalEvidence) :=
  ((s.receiptIndex.rows.filter fun r => decide (r.reference = proofId)).insertionSort
    fun a b => textRank b.availableAt ≤ textRank a.availableAt).head?.bind
      fun r => s.receipts.get? r.id

/-- `core_continuous_activity_cursor` of the account. -/
def cursor (v : CapitalViews) (s : CapitalStore) : Option String :=
  (s.cursors.get? (s.scope v)).map (·.reference)

/-- mirrors portfolio.py:224-299 -/
def openingBalanceSourceValid (s : CapitalStore) (proof : ReconciliationProof) : Bool :=
  decide (proof.complete = true ∧ proof.actualQuantities = proof.expectedQuantities) ||
    s.surroundings.scopedOpening proof

end CapitalStore

/-! ## Trusted openings -/

/-- mirrors continuous_capital.py:213-249 -/
def OpeningBound (s : CapitalStore) (opening : SessionOpening) (proof : ReconciliationProof)
    (timing : TimeEvidence) (now : Int) : Prop :=
  opening.configId = s.configId ∧ opening.evidenceLane = .brokerPaper ∧
    opening.accountId = s.config.accountId ∧ opening.storeIdentity = s.storeIdentity ∧
    opening.releaseId = s.config.releaseId ∧ opening.sourceReleaseId = proof.releaseId ∧
    opening.sourceStoreIdentity = s.storeIdentity ∧
    proof.account.accountId = opening.accountId ∧ proof.account.currency = "USD" ∧
    s.openingBalanceSourceValid proof = true ∧ opening.equity = proof.account.equity ∧
    opening.capturedAt = proof.recordedAt ∧
    (0 ≤ opening.capturedAt - opening.sessionOpen ∧
      opening.capturedAt - opening.sessionOpen < 60 * second) ∧
    opening.capturedAt ≤ now ∧ timing.objections = [] ∧
    (match timing.samples with
      | [a, b] => a.timestamp < b.timestamp
      | _ => False) ∧
    (∀ x ∈ timing.samples, x.accountId = opening.accountId ∧
      x.sessionOpen = opening.sessionOpen ∧ |x.wallEnd - opening.capturedAt| ≤ 5 * second) ∧
    ((s.certificatesFor proof).get? opening.proofId).isSome ∧
    s.revocations.get? ("core-certified-" ++ opening.proofId) = none

instance (s : CapitalStore) (o : SessionOpening) (p : ReconciliationProof) (t : TimeEvidence)
    (n : Int) : Decidable (OpeningBound s o p t n) := by
  unfold OpeningBound
  have : Decidable (match t.samples with
      | [a, b] => a.timestamp < b.timestamp
      | _ => False) := by split <;> infer_instance
  infer_instance

/-- The opening with its proof and its time evidence. -/
def OpeningTrusted (s : CapitalStore) (now : Int) (opening : SessionOpening) : Prop :=
  ∃ proof ∈ s.proof? opening.proofId, ∃ timing ∈ s.timeEvidence.get? opening.timeEvidenceId,
    OpeningBound s opening proof timing.payload now

instance (s : CapitalStore) (n : Int) (o : SessionOpening) : Decidable (OpeningTrusted s n o) := by
  unfold OpeningTrusted
  infer_instance

/-- The newest opening the account has by `now`, or the one of a given id.
mirrors continuous_capital.py:182-196 -/
def newestOpening (v : CapitalViews) (s : CapitalStore) (now : Int) (identity : Option String) :
    Option (Filed SessionOpening) :=
  (((s.openingIndex.filter fun r => decide (r.accountId = s.config.accountId ∧
      r.storeIdentity = s.storeIdentity ∧ r.policyId = s.config.policyId ∧
      r.sessionDate ≤ v.day now ∧ ∀ i ∈ identity, r.documentId = i)).insertionSort
    fun a b => b.sessionDate ≤ a.sessionDate).filterMap (s.openings.get? ·.documentId)).head?

/-- mirrors continuous_capital.py:176-251 -/
def trustedOpening (v : CapitalViews) (s : CapitalStore) (now : Int) (identity : Option String) :
    Option (Filed SessionOpening) :=
  (newestOpening v s now identity).filter fun o => decide (OpeningTrusted s now o.payload)

/-! ## Anchors -/

/-- mirrors continuous_capital.py:280-288 -/
def PredecessorBound (anchor predecessor : AccountRiskAnchor) : Prop :=
  predecessor.riskDay < anchor.riskDay ∧ predecessor.accountId = anchor.accountId ∧
    predecessor.storeIdentity = anchor.storeIdentity ∧
    predecessor.bootstrapOpeningId = anchor.bootstrapOpeningId ∧
    predecessor.coverageStart = anchor.coverageStart
deriving Decidable

/-- mirrors continuous_capital.py:289-315 -/
def AnchorBound (v : CapitalViews) (s : CapitalStore) (anchor : AccountRiskAnchor) (now : Int)
    (measured : ReconciliationProof) (bootstrap stock : Filed SessionOpening)
    (source : ContinuousActivityCoverage) (predecessorFloor : ℚ) : Prop :=
  anchor.accountId = s.config.accountId ∧ s.config.accountId = measured.account.accountId ∧
    anchor.storeIdentity = s.storeIdentity ∧ s.storeIdentity = source.storeIdentity ∧
    anchor.configId = s.configId ∧ s.configId = source.configId ∧
    anchor.releaseId = s.config.releaseId ∧ s.config.releaseId = measured.releaseId ∧
    anchor.evidenceLane = measured.evidenceLane ∧ measured.evidenceLane = .brokerPaper ∧
    anchor.currency = measured.account.currency ∧ measured.account.currency = "USD" ∧
    anchor.proofId = v.contentId (.proof measured) ∧
    anchor.fundsEvidenceId = measured.acquisitionId ∧
    anchor.measuredEquity = measured.account.equity ∧
    anchor.capturedAt = measured.recordedAt ∧ measured.recordedAt ≤ now ∧
    (anchor.riskDayStart, anchor.riskDayEnd) = v.accountRiskDayBounds anchor.capturedAt ∧
    anchor.riskDay = v.day anchor.capturedAt ∧
    max (max anchor.measuredEquity stock.payload.equity) predecessorFloor ≤ anchor.equityFloor ∧
    anchor.coverageStart = bootstrap.payload.sessionOpen ∧
    bootstrap.payload.sessionOpen = source.coverageStart ∧
    source.bootstrapOpeningId = bootstrap.id ∧ source.scopeId = s.scope v ∧
    source.protocolComplete = true ∧ source.externalFlowIds = [] ∧
    anchor.capturedAt ≤ source.activityWatermark ∧ source.rawDigest = v.rowsDigest source.rows
deriving Decidable

/-- The opening an anchor's floor is measured by: its stock opening, or the bootstrap. -/
def stockOpening (v : CapitalViews) (s : CapitalStore) (anchor : AccountRiskAnchor) :
    Option (Filed SessionOpening) :=
  trustedOpening v s anchor.capturedAt (some (anchor.stockOpeningId.getD anchor.bootstrapOpeningId))

/-- mirrors continuous_capital.py:254-315 -/
def AnchorVerified (v : CapitalViews) (s : CapitalStore) (anchor : AccountRiskAnchor) (now : Int) :
    Prop :=
  ∃ measured ∈ s.proof? anchor.proofId,
  ∃ bootstrap ∈ trustedOpening v s anchor.capturedAt (some anchor.bootstrapOpeningId),
  ∃ stock ∈ stockOpening v s anchor,
  ∃ source ∈ s.coverages.get? anchor.sourceDocumentId,
    (∀ p ∈ anchor.predecessorId, ∃ predecessor ∈ s.anchors.get? p,
      PredecessorBound anchor predecessor.payload) ∧
    AnchorBound v s anchor now measured bootstrap stock source.payload
      (((anchor.predecessorId.bind s.anchors.get?).map (·.payload.equityFloor)).getD 0)
deriving Decidable

end Quantbot.L4
