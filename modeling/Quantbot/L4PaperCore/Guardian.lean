import Quantbot.L4PaperCore.SendGuard

/-!
# The guardian's exit

`paper_core/guardian.py`: the transaction in which a guardian cycle turns what is left
of a lot into one prepared exit, and `paper_core/crypto_custody.py` as far as it bounds
that exit by the custody the broker shows.

A cycle reads the lot's entry, its fills and the broker before it takes the writer
lock; what it read is an argument (`ExitReading`). Under the lock it reads the lot's
earlier exits afresh.
-/
namespace Quantbot.L4

open Core L1 L2 L3 Txn

/-! ## Crypto custody -/

/-- A custody capture. Every check of `read_crypto_lot_basis` and
`crypto_custody_limit` that does not decide a quantity is `objection`. -/
structure CustodyReading where
  objection : Option String := none
  now : Int
  fees : ℚ
  custodyQuantity : ℚ
  quantityStep : ℚ
  minimumQuantity : ℚ
  fees_nonneg : 0 ≤ fees
  step_pos : 0 < quantityStep

/-- What `read_crypto_lot_basis` sums up of a lot's exits. -/
structure LotBasis where
  sold : ℚ := 0
  reserved : ℚ := 0

/-- One exit of a crypto lot.
mirrors crypto_custody.py:402-458 -/
def basisLink (s : CoreStore) (now : Int) (acc : LotBasis) (link : IntentLink) :
    Except String LotBasis :=
  match s.intentOf link with
  | none => .error "CRYPTO_CUSTODY_EXIT_OWNERSHIP_UNVERIFIED"
  | some exit =>
    if definitivelyUnsent s.toStore exit.intentId then .ok acc
    else
      let filled := s.filledByClient exit.clientOrderId
      if exit.quantity < filled then .error "CRYPTO_CUSTODY_EXIT_FILLS_UNVERIFIED"
      else
        match s.orderByClient exit.clientOrderId with
        | none => .ok { sold := acc.sold + filled, reserved := acc.reserved + (exit.quantity - filled) }
        | some order =>
          if filled ≠ order.filledQuantity then .error "CRYPTO_CUSTODY_EXIT_FILLS_UNVERIFIED"
          else if (terminalEvidence s order now).isSome then
            .ok { acc with sold := acc.sold + filled }
          else .ok { sold := acc.sold + filled, reserved := acc.reserved + (exit.quantity - filled) }

/-- `bounded_quantity`, in steps.
mirrors crypto_custody.py:118-127 -/
def boundedQuantity (c : CustodyReading) (ownedRemaining reserved : ℚ) : ℚ :=
  let raw := max 0 (min ownedRemaining c.custodyQuantity - reserved)
  let bounded := (⌊raw / c.quantityStep⌋ : ℚ) * c.quantityStep
  if c.minimumQuantity ≤ bounded then bounded else 0

/-- `crypto_custody_limit` over the lot as it stands.
mirrors crypto_custody.py:216-238 -/
def custodyLimit (s : CoreStore) (lot entryClient : String) (c : CustodyReading) :
    Except String ℚ :=
  match (s.linksOf lot .exit).foldlM (basisLink s c.now) {} with
  | .error reason => .error reason
  | .ok basis =>
    match c.objection with
    | some reason => .error reason
    | none => .ok (boundedQuantity c (s.filledByClient entryClient - basis.sold - c.fees)
        basis.reserved)

/-! ## The exit -/

/-- What a cycle has read of a lot when it takes the lock. -/
structure ExitReading where
  entry : IntentLink
  /-- The entry's intent. -/
  intent : OrderIntent
  owner : String
  entryFills : List Fill
  now : Int
  /-- `now.date()`. -/
  signalDate : Int
  /-- `store.parallel_entries`. -/
  parallel : Bool := false
  custody : Option CustodyReading := none

/-- The entry fills a cycle has read. -/
def ExitReading.owned (r : ExitReading) : ℚ := (r.entryFills.map (·.quantity)).sum

/-- What the earlier exits of a lot hold of it. -/
structure ExitsHeld where
  exited : ℚ := 0
  prepared : Option OrderIntent := none
  reserved : ℚ := 0

/-- The exit's order is closed at the cutoff. -/
def CoreStore.exitClosed (s : CoreStore) (clientOrderId : String) (cutoff : Int) : Bool :=
  match s.orderByClient clientOrderId with
  | none => false
  | some order => (terminalEvidence s order cutoff).isSome

/-- One earlier exit.
mirrors guardian.py:1226-1256 -/
def heldLink (s : CoreStore) (now : Int) (acc : ExitsHeld) (link : IntentLink) :
    Option ExitsHeld :=
  (s.intentOf link).map fun previous =>
    if definitivelyUnsent s.toStore previous.intentId then acc
    else
      let filled := s.filledByClient previous.clientOrderId
      { exited := acc.exited + filled
        prepared :=
          if s.orderByClient previous.clientOrderId = none ∧
              (previous.state = .riskApproved ∨ previous.state = .orderCreated) then some previous
          else acc.prepared
        reserved :=
          if s.exitClosed previous.clientOrderId now then acc.reserved
          else acc.reserved + (previous.quantity - filled) }

/-- What is left to sell; `none` when the custody proves nothing.
mirrors guardian.py:1257-1280 -/
def exitRemaining (s : CoreStore) (r : ExitReading) (held : ExitsHeld) : Option ℚ :=
  match r.custody with
  | none => some (r.owned - held.exited - held.reserved)
  | some c => (custodyLimit s r.entry.lotId r.intent.clientOrderId c).toOption

/-- The new exit of a lot.
mirrors guardian.py:1281-1305 -/
def exitIntent (contentId : ContentId) (r : ExitReading) (previous : List String) (remaining : ℚ)
    (h : 0 < remaining) : OrderIntent :=
  let digest := contentId
    (.exitClaim r.entry.lotId r.entry.protectionId (r.entryFills.map (·.fillId)) previous)
  { intentId := "core-exit-" ++ digest
    clientOrderId := "qb-" ++ String.ofList (digest.toList.take 40)
    strategyId := r.owner
    symbol := r.intent.symbol
    signalDate := r.signalDate
    side := .sell
    orderType := .market
    timeInForce := r.intent.timeInForce
    quantity := remaining
    createdAt := r.now
    quantity_pos := h
    prices := L1.market_unpriced }

/-- The link of an exit. -/
def ExitReading.link (r : ExitReading) (exit : OrderIntent) : IntentLink where
  intentId := exit.intentId
  decisionId := r.entry.decisionId
  protectionId := r.entry.protectionId
  observationId := r.entry.observationId
  role := .exit
  lotId := r.entry.lotId

/-- The row of a triggered exit. -/
def triggeredRow (contentId : ContentId) (r : ExitReading) (exit : OrderIntent) :
    OrderEventRow where
  eventId := "core-exit-trigger-" ++ contentId (.ofIntent exit.intentId)
  intentId := some exit.intentId
  brokerOrderId := none
  eventType := "CORE_OWNED_EXIT_TRIGGERED"
  occurredAt := r.now
  detail := .exitTriggered r.entry.lotId r.entry.protectionId

/-- A new exit is written with its link and its event.
mirrors guardian.py:1306-1343 -/
def insertExit (contentId : ContentId) (r : ExitReading) (exit : OrderIntent) : CoreTxn PUnit := do
  let _ ← onLedger (createOrderIntent exit)
  insertLink (r.link exit)
  recordEvent (triggeredRow contentId r exit)

/-- Parallel lots hand the exit over already created. -/
def handOver (r : ExitReading) (exit : OrderIntent) : CoreTxn OrderIntent :=
  if r.parallel = true ∧ exit.state = .riskApproved then
    onLedger (transitionOrderIntent exit.intentId .orderCreated .riskApproved)
  else pure exit

/-- An exit of what is left, unless one is prepared already. -/
def exitOf (contentId : ContentId) (r : ExitReading) (previous : List String) (held : ExitsHeld)
    (remaining : ℚ) : CoreTxn (Option OrderIntent) :=
  match held.prepared with
  | some prepared => do
    let exit ← handOver r prepared
    pure (some exit)
  | none =>
    if h : 0 < remaining then do
      let exit := exitIntent contentId r previous remaining h
      insertExit contentId r exit
      let exit ← handOver r exit
      pure (some exit)
    else pure none

/-- The exit a cycle goes on to submit, if any.
mirrors guardian.py:1210-1352 -/
def claimLotExit (contentId : ContentId) (r : ExitReading) : CoreTxn (Option OrderIntent) :=
  immediate do
    let s ← get
    match (s.linksOf r.entry.lotId .exit).foldlM (heldLink s r.now) {} with
    | none => throw (.runtime "AssertionError")
    | some held =>
      match exitRemaining s r held with
      | none => pure none
      | some remaining =>
        exitOf contentId r
          (((s.linksOf r.entry.lotId .exit).map (·.intentId)).insertionSort (· ≤ ·)) held remaining

end Quantbot.L4
