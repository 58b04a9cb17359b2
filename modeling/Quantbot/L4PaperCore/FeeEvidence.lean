import Quantbot.L4PaperCore.Contracts

/-!
# Evidence of crypto fees

`paper_core/crypto_costs.py` and the documents of `paper_core/crypto_fee_allocation.py`: a row
of an activity page, the fee activity it is read as, the order query that delivered it and
the allocation that gives it to a lot.

A row is what the parser makes of its fields: a number, a time or a date is decoded, or says
why it is none. `content_id` is an arbitrary function of the content.
-/
namespace Quantbot.L4.Fees

open L1

/-! ## Raw rows -/

inductive RawId
  | absent
  | text (id : String)
  | other (id : String)
deriving DecidableEq, Repr

/-- `Decimal(str(value))`. -/
inductive RawNumber
  | absent
  | number (q : ℚ)
  | nonfinite
  | invalid
deriving DecidableEq, Repr

/-- `datetime.fromisoformat` of a text; an instant without a zone is none. -/
inductive RawTime
  | absent
  | instant (t : Int)
  | naive
  | invalid
deriving DecidableEq, Repr

/-- A date text: a day, or else what the text is as a time. -/
inductive RawDay
  | day
  | time (t : RawTime)
deriving DecidableEq, Repr

/-- A row of `/v2/account/activities`; `rest` is every other field. -/
structure RawActivity where
  id : RawId
  activityType : Option String
  symbol : Option String
  quantity : RawNumber
  netAmount : RawNumber
  price : RawNumber
  date : Option (String × RawDay)
  transactionTime : RawTime
  createdAt : RawTime
  status : Option String
  fillId : Option String
  orderId : Option String
  rest : String := ""
deriving DecidableEq

def RawActivity.textId (r : RawActivity) : Option String :=
  match r.id with
  | .text id => if id = "" then none else some id
  | _ => none

/-- `str(raw["id"])` of a row whose id is not empty. -/
def RawActivity.anyId (r : RawActivity) : Option String :=
  match r.id with
  | .absent => none
  | .text id | .other id => if id = "" then none else some id

/-- `str(value) if value else None`. -/
def truthy (text : Option String) : Option String := text.filter (· ≠ "")

/-! ## Fee activities -/

inductive TimePrecision | timestamp | date | unknown
deriving DecidableEq, Repr

/-- mirrors crypto_costs.py:38-60 -/
structure CryptoFeeActivity where
  activityId : String
  activityType : String
  rawSymbol : Option String
  symbol : Option String
  assetCurrency : Option String
  quantityDelta : Option ℚ
  netCash : ℚ
  reportedPrice : Option ℚ
  rawDate : Option String
  timePrecision : TimePrecision
  effectiveAt : Option Int
  postedAt : Option Int
  status : Option String
  fillId : Option String
  orderId : Option String
  sourceDocumentId : String
  rawDigest : String
deriving DecidableEq

/-- `model_dump(exclude={"source_document_id"})`. -/
def CryptoFeeActivity.reading (f : CryptoFeeActivity) : CryptoFeeActivity :=
  { f with sourceDocumentId := "" }

/-! ## Documents -/

/-- mirrors crypto_fee_allocation.py:41-52 -/
structure OwnedFeeBasis where
  lotId : String
  intentId : String
  orderId : String
  symbol : String
  baselineId : String
  baselineAt : Int
  commissionId : String
  orderDigest : String
  fillIds : List String
  boughtQuantity : ℚ
  terminalSourceId : String
deriving DecidableEq

structure OrderFeeQueryPage where
  pageToken : Option String
  rows : List RawActivity
deriving DecidableEq

/-- What a document is bound to (`_binding`). -/
structure Binding where
  evidenceLane : EvidenceLane
  releaseId : String
  accountId : String
  storeIdentity : String
  configId : String
  policyId : String
deriving DecidableEq

/-- mirrors crypto_fee_allocation.py:60-73 -/
structure OrderFeeQueryEvidence where
  recordedAt : Int
  binding : Binding
  basis : OwnedFeeBasis
  requestOrderId : String
  pages : List OrderFeeQueryPage
  protocolComplete : Bool
  objections : List String
  observedActivityIds : List String
  symbolAliases : List (String × String)
  rawDigest : String
deriving DecidableEq

/-- mirrors crypto_fee_allocation.py:76-90 -/
@[ext] structure OrderFeeAllocation where
  recordedAt : Int
  binding : Binding
  lotId : String
  orderId : String
  symbol : String
  assetCurrency : String
  quantity : ℚ
  activityId : String
  feeDocumentId : String
  queryDocumentId : String
  externalEventId : String
  quantity_pos : 0 < quantity

instance : DecidableEq OrderFeeAllocation := fun _ _ =>
  decidable_of_iff _ OrderFeeAllocation.ext_iff.symm

/-- mirrors crypto_fee_allocation.py:101-112 -/
structure FeeAllocationGap where
  recordedAt : Int
  binding : Binding
  activityId : String
  rawSymbol : String
  rawDigest : String
  closedSearchStart : Int
deriving DecidableEq

/-- A document of `core_provider_acquisitions` that this code writes. -/
inductive FeeDocument
  | query (source : OrderFeeQueryEvidence)
  | fee (activity : CryptoFeeActivity)
  | allocation (allocation : OrderFeeAllocation)
  | gap (gap : FeeAllocationGap)
deriving DecidableEq

/-- The contents an id or a digest is taken of. -/
inductive FeeContent
  | document (document : FeeDocument)
  | raw (row : RawActivity)
  | pages (pages : List OrderFeeQueryPage)
  | order (order : BrokerOrder)
  | activity (account activityId : String)
  | feeCursor (account activityId : String)
  | queryCursor (account store orderId : String)
  | external (account event owner : String)
  | trip (trip : RoundTrip)
  | incident (tripId feeDocumentId : String)

abbrev FeeContentId := FeeContent → String

/-! ## Reading a row -/

/-- What a fee activity is refused for (crypto_costs.py:14-33, 97-119). -/
inductive FeeProtocolError
  | idOrType
  | invalid (field : String)
  | nonfinite (field : String)
  | unsupportedPair
deriving DecidableEq, Repr

def FeeProtocolError.text : FeeProtocolError → String
  | .idOrType => "FEE_ACTIVITY_ID_OR_TYPE_INVALID"
  | .invalid field => "FEE_ACTIVITY_INVALID_" ++ field.toUpper
  | .nonfinite field => "FEE_ACTIVITY_NONFINITE_" ++ field.toUpper
  | .unsupportedPair => "FEE_ACTIVITY_UNSUPPORTED_PAIR"

def finite (value : RawNumber) (field : String) : Except FeeProtocolError ℚ :=
  match value with
  | .number q => .ok q
  | .nonfinite => .error (.nonfinite field)
  | .absent | .invalid => .error (.invalid field)

/-- `_finite(raw[field]) if raw.get(field) is not None else None`. -/
def finiteIfPresent (value : RawNumber) (field : String) : Except FeeProtocolError (Option ℚ) :=
  if value = .absent then .ok none else (finite value field).map some

def timestamp (value : RawTime) (field : String) : Except FeeProtocolError (Option Int) :=
  match value with
  | .absent | .naive => .ok none
  | .instant t => .ok (some t)
  | .invalid => .error (.invalid field)

/-- `symbol.split("/")[0]`. -/
def baseAsset (symbol : String) : String := String.ofList (symbol.toList.takeWhile (· ≠ '/'))

def endsWithUsd (symbol : String) : Bool := "/USD".toList.isSuffixOf symbol.toList

/-- `dict(aliases).get(name)`: the last entry of a name counts. -/
def aliasOf (aliases : List (String × String)) (name : String) : Option String :=
  aliases.reverse.lookup name

/-- The precision and the time of a row, a date first and its own timestamp over it. -/
def effectiveTime (raw : RawActivity) : Except FeeProtocolError (TimePrecision × Option Int) := do
  let effective ← timestamp raw.transactionTime "transaction_time"
  match raw.date with
  | none => pure (if effective.isSome then .timestamp else .unknown, effective)
  | some (_, .day) => pure (if effective.isSome then .timestamp else .date, effective)
  | some (_, .time t) => do
    let dated ← timestamp t "date"
    let effective := effective.or dated
    pure (if effective.isSome then .timestamp else .unknown, effective)

/-- mirrors crypto_costs.py:97-142 -/
def parseFeeActivity (contentId : FeeContentId) (raw : RawActivity)
    (aliases : List (String × String)) (sourceDocumentId : String) :
    Except FeeProtocolError CryptoFeeActivity := do
  match raw.anyId, raw.activityType with
  | some id, some kind =>
    if kind ≠ "CFEE" ∧ kind ≠ "FEE" then throw .idOrType
    else
      let netCash ← finite raw.netAmount "net_amount"
      let quantity ← finiteIfPresent raw.quantity "qty"
      let price ← finiteIfPresent raw.price "price"
      let symbol := aliasOf aliases ((truthy raw.symbol).getD "")
      if ∃ s ∈ symbol, endsWithUsd s = false ∨ s.toList.count '/' ≠ 1 then throw .unsupportedPair
      else
        let (precision, effective) ← effectiveTime raw
        let posted ← timestamp raw.createdAt "created_at"
        pure
          { activityId := id
            activityType := kind
            rawSymbol := truthy raw.symbol
            symbol := symbol
            assetCurrency := if kind = "CFEE" then (symbol.filter (· ≠ "")).map baseAsset else none
            quantityDelta := quantity
            netCash := netCash
            reportedPrice := price
            rawDate := raw.date.map (·.1)
            timePrecision := precision
            effectiveAt := effective
            postedAt := posted
            status := truthy raw.status
            fillId := truthy raw.fillId
            orderId := truthy raw.orderId
            sourceDocumentId := sourceDocumentId
            rawDigest := contentId (.raw raw) }
  | _, _ => throw .idOrType

end Quantbot.L4.Fees
