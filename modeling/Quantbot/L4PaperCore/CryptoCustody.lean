import Mathlib.Algebra.Order.Floor.Ring
import Quantbot.L4PaperCore.ExitGuard
import Quantbot.L4PaperCore.FeeRuns
import Quantbot.L4PaperCore.Funds

/-!
# The custody bound of a crypto exit

`paper_core/crypto_custody.py`: what a capture of the account lets an exit of a crypto lot sell
(`CryptoCustodyEvidence`, `crypto_custody_limit`), and the basis it is captured against
(`read_crypto_lot_basis`). Amounts are exact.

The read's checks before the entry's order and behind the ownership check decide no quantity:
what they find is a view (`LotViews`), as is what the fee allocations answer.

Results:
* `boundedQuantity_greatest`: the bound is the greatest step of the minimum on within the rest.
* `exitReason_available_iff`: what the exit reason says.
* `custodyLimit_accepts`: what an accepted request leaves.
* `exits_sums`: what the basis sums up over the exits of the lot.
* `crypto_custody_bound`: the three, and that a later read finds the reservations covered.
-/
namespace Quantbot.L4.Custody

open Core L1 L2 L3
open Quantbot.L4.Fees (endsWithUsd)

/-! ## The basis -/

/-- What a refused capture, limit or read says. -/
inductive CustodyFault
  | laneUnsupported | exclusiveEntry | entryOwnership | entryUnsettled | acknowledgement
  | entryFills | exitOwnership | excludedExitSent | exitFills | feeAllocationMissing
  | chronologicalOversell | reservationsExceedOwnership | basisInvalid
  | feeAuthority | captureUnverified | duplicatePosition | unownedQuantity | changedOrder
  | stale | basisChanged | quantityLimit
  /-- A check that is a view. -/
  | viewed (code : String)
deriving DecidableEq, Repr

/-- mirrors crypto_custody.py:31-60 -/
@[ext] structure CryptoLotBasis where
  accountId : String
  storeIdentity : String
  configId : String
  entryPolicyId : Option String := none
  releaseId : String
  owner : String
  evidenceLane : EvidenceLane
  lotId : String
  symbol : String
  baselineId : String
  ledgerStateId : String
  ledgerGeneration : ℕ
  activityDocumentId : String
  activityWatermark : Int
  grossRemaining : ℚ
  provenAssetFeeQuantity : ℚ := 0
  feeAllocationIds : List String := []
  feeActivityIds : List String := []
  feeSourceIds : List String := []
  feeExternalEventIds : List String := []
  expectedAccountQuantity : ℚ
  quantityStep : ℚ
  minimumQuantity : ℚ
  assetEligibilityId : String
  reservedExits : ℚ
  reservationStateId : String
  sourceRefs : List String
  openExitOrders : List BrokerOrder
  gross_nonneg : 0 ≤ grossRemaining
  fee_nonneg : 0 ≤ provenAssetFeeQuantity
  expected_nonneg : 0 ≤ expectedAccountQuantity
  step_pos : 0 < quantityStep
  minimum_pos : 0 < minimumQuantity
  reserved_nonneg : 0 ≤ reservedExits

instance : DecidableEq CryptoLotBasis := fun _ _ =>
  decidable_of_iff _ CryptoLotBasis.ext_iff.symm

/-- mirrors crypto_custody.py:77-80 -/
def CryptoLotBasis.ownedRemaining (b : CryptoLotBasis) : ℚ :=
  b.grossRemaining - b.provenAssetFeeQuantity

/-! ## The capture -/

/-- mirrors crypto_custody.py:87-100 -/
structure CryptoCustodyEvidence where
  basis : CryptoLotBasis
  fundsEvidenceId : String
  firstAccount : BrokerAccountSnapshot
  secondAccount : BrokerAccountSnapshot
  firstPositions : List Position
  secondPositions : List Position
  firstOpenOrders : List BrokerOrder
  secondOpenOrders : List BrokerOrder
  captureStarted : Int
  capturedAt : Int
  elapsedSeconds : ℚ
deriving DecidableEq

inductive ExitReason | noObservedCustody | fullyReserved | available | dust
deriving DecidableEq, Repr

/-- `sorted(orders, key=lambda o: o.broker_order_id)`. -/
def byBrokerOrderId (orders : List BrokerOrder) : List BrokerOrder :=
  orders.insertionSort (·.brokerOrderId ≤ ·.brokerOrderId)

namespace CryptoCustodyEvidence

/-- mirrors crypto_custody.py:106-110 -/
def custodyQuantity (e : CryptoCustodyEvidence) : ℚ :=
  (e.secondPositions.find? (·.symbol = e.basis.symbol)).elim 0 (·.quantity)

/-- What the owned and the shown quantity leave beside the reservations. -/
def rest (e : CryptoCustodyEvidence) : ℚ :=
  min e.basis.ownedRemaining e.custodyQuantity - e.basis.reservedExits

/-- mirrors crypto_custody.py:116-124 -/
def boundedQuantity (e : CryptoCustodyEvidence) : ℚ :=
  let raw := max 0 e.rest
  let bounded := (⌊raw / e.basis.quantityStep⌋ : ℚ) * e.basis.quantityStep
  if e.basis.minimumQuantity ≤ bounded then bounded else 0

/-- mirrors crypto_custody.py:126-136 -/
def exitReason (e : CryptoCustodyEvidence) : ExitReason :=
  if e.custodyQuantity = 0 then .noObservedCustody
  else if min e.basis.ownedRemaining e.custodyQuantity ≤ e.basis.reservedExits then .fullyReserved
  else if e.boundedQuantity ≠ 0 then .available
  else .dust

end CryptoCustodyEvidence

/-- Up to five seconds later. -/
def WithinFive (earlier later : Int) : Prop := 0 ≤ later - earlier ∧ later - earlier ≤ 5000000
deriving Decidable

/-- The identities of the fees: none without a fee, else distinct ones.
mirrors crypto_custody.py:141-155 -/
def FeeSourcesValid (b : CryptoLotBasis) : Prop :=
  0 ≤ b.ownedRemaining ∧
    ∀ ids ∈ [b.feeAllocationIds, b.feeActivityIds, b.feeSourceIds, b.feeExternalEventIds],
      (ids ≠ [] ↔ b.provenAssetFeeQuantity ≠ 0) ∧ ids.Nodup ∧ "" ∉ ids
deriving Decidable

/-- mirrors crypto_custody.py:156-169 -/
def CaptureVerified (e : CryptoCustodyEvidence) : Prop :=
  endsWithUsd e.basis.symbol = true ∧ e.basis.sourceRefs ≠ [] ∧
    (0 ≤ e.elapsedSeconds ∧ e.elapsedSeconds ≤ 5) ∧ WithinFive e.captureStarted e.capturedAt ∧
    (e.captureStarted ≤ e.basis.activityWatermark ∧ e.basis.activityWatermark ≤ e.capturedAt) ∧
    e.firstAccount.account.accountId = e.basis.accountId ∧
    e.secondAccount.account.accountId = e.basis.accountId ∧
    StableAccountReads e.firstAccount e.secondAccount ∧
    StablePositionReads e.firstPositions e.secondPositions ∧
    byBrokerOrderId e.firstOpenOrders = byBrokerOrderId e.secondOpenOrders
deriving Decidable

/-- mirrors crypto_custody.py:139-182 -/
def validateCapture (e : CryptoCustodyEvidence) : Except CustodyFault Unit :=
  if ¬ FeeSourcesValid e.basis then .error .feeAuthority
  else if ¬ CaptureVerified e then .error .captureUnverified
  else if ¬ ((e.firstPositions.map (·.symbol)).Nodup ∧ (e.secondPositions.map (·.symbol)).Nodup) then
    .error .duplicatePosition
  else if ¬ (0 ≤ e.custodyQuantity ∧ e.custodyQuantity ≤ e.basis.ownedRemaining) then
    .error .unownedQuantity
  else if byBrokerOrderId (e.secondOpenOrders.filter (·.symbol = e.basis.symbol)) ≠
      byBrokerOrderId e.basis.openExitOrders then .error .changedOrder
  else .ok ()

/-- `a % b` of a positive amount. -/
def remainder (a b : ℚ) : ℚ := a - (⌊a / b⌋ : ℚ) * b

/-- The limit under the send lock.
mirrors crypto_custody.py:216-238 -/
def cryptoCustodyLimit (contentId : CryptoLotBasis → String) (e : CryptoCustodyEvidence)
    (current : CryptoLotBasis) (now : Int) (requested : Option ℚ) : Except CustodyFault ℚ :=
  if ¬ WithinFive e.capturedAt now then .error .stale
  else if contentId current ≠ contentId e.basis then .error .basisChanged
  else do
    validateCapture e
    let limit := e.boundedQuantity
    match requested with
    | none => .ok limit
    | some q =>
      if ¬ (current.minimumQuantity ≤ q ∧ q ≤ limit) ∨ remainder q current.quantityStep ≠ 0 then
        .error .quantityLimit
      else .ok limit

/-! ## The read of the basis -/

/-- What a read is called with. -/
structure LotRequest where
  lotId : String
  now : Int
  activityDocumentId : String
  excludeIntent : Option String := none

/-- An exit that was sent or may be. -/
structure Reservation where
  intent : OrderIntent
  order : Option BrokerOrder
  fills : List Fill
  settled : Option String

/-- What the lot's plan, observation, baseline and external events answer. -/
structure LotTerms where
  baselineId : String
  assetEligibilityId : String
  quantityStep : ℚ
  minimumQuantity : ℚ
  /-- The fee events bound to an order, with their lots. -/
  relativeFees : List (String × String) := []

/-- What the activity documents, the ledger and the certifications answer. -/
structure LotCoverage where
  activityWatermark : Int
  expectedAccountQuantity : ℚ
  ledgerStateId : String
  ledgerGeneration : ℕ
  entryPolicyId : Option String

/-- The views of a read; a check that fails is told by its code. -/
structure LotViews where
  storeIdentity : String
  configId : String
  /-- mirrors crypto_custody.py:293-367 -/
  terms : IntentLink → OrderIntent → Except String LotTerms
  /-- `lot_asset_fees`. -/
  fees : String → Except String Fees.LotAssetFees
  /-- mirrors crypto_custody.py:459-564 -/
  coverage : List String → List String → ℚ → Except String LotCoverage
  stateId : List Reservation → String

/-- What the loop over the exits comes to. -/
structure LotExits where
  reserved : ℚ := 0
  sold : ℚ := 0
  reservations : List Reservation := []

namespace LotExits

def add (x : LotExits) (e : Reservation) : LotExits :=
  let filled := (e.fills.map (·.quantity)).sum
  { reserved := if e.settled = none then x.reserved + (e.intent.quantity - filled) else x.reserved
    sold := x.sold + filled
    reservations := x.reservations ++ [e] }

/-- `sells`. -/
def sells (x : LotExits) : List Fill := x.reservations.flatMap (·.fills)

/-- `open_exits`. -/
def openExits (x : LotExits) : List BrokerOrder :=
  (x.reservations.filterMap (·.order)).filter isOpenOrder

end LotExits

/-- mirrors crypto_custody.py:272-292 -/
def lotEntry (s : CoreStore) (r : LotRequest) : Except CustodyFault (IntentLink × OrderIntent) :=
  if s.config.evidenceLane = .localSimRealData then .error .laneUnsupported
  else
    match s.linksOf r.lotId .entry with
    | [entry] =>
      if r.lotId ∈ s.quarantinedLots then .error .exclusiveEntry
      else
        match s.intentOf entry with
        | none => .error .entryOwnership
        | some intent =>
          if intent.strategyId ≠ s.config.owner ∨ intent.side ≠ .buy ∨
              endsWithUsd intent.symbol = false then .error .entryOwnership
          else .ok (entry, intent)
    | _ => .error .exclusiveEntry

/-- The entry's order, what closed it, and its fills.
mirrors crypto_custody.py:368-379 -/
def entryFills (s : CoreStore) (r : LotRequest) (intent : OrderIntent) :
    Except CustodyFault (BrokerOrder × String × List Fill) :=
  match s.orderByClient intent.clientOrderId with
  | none => .error .entryUnsettled
  | some order =>
    if ¬ AckMatches intent order then .error .acknowledgement
    else
      match terminalEvidence s order r.now with
      | none => .error .entryUnsettled
      | some terminal =>
        let buys := s.fillsOf order.brokerOrderId
        if buys = [] ∨ ∃ f ∈ buys, f.symbol ≠ intent.symbol ∨ f.side ≠ .buy ∨ r.now < f.occurredAt
        then .error .entryFills
        else .ok (order, terminal, buys)

/-- One exit of the lot.
mirrors crypto_custody.py:387-434 -/
def exitLink (s : CoreStore) (r : LotRequest) (symbol : String) (x : LotExits)
    (link : IntentLink) : Except CustodyFault LotExits :=
  match s.intentOf link with
  | none => .error .exitOwnership
  | some exit =>
    if exit.symbol ≠ symbol ∨ exit.strategyId ≠ s.config.owner ∨ exit.side ≠ .sell then
      .error .exitOwnership
    else if definitivelyUnsent s.toStore exit.intentId then .ok x
    else
      let order := s.orderByClient exit.clientOrderId
      let fills := order.elim [] fun o => s.fillsOf o.brokerOrderId
      let filled := (fills.map (·.quantity)).sum
      if r.excludeIntent = some exit.intentId then
        if order ≠ none ∨ fills ≠ [] then .error .excludedExitSent else .ok x
      else if (∃ f ∈ fills, f.symbol ≠ symbol ∨ f.side ≠ .sell ∨ r.now < f.occurredAt) ∨
          exit.quantity < filled then .error .exitFills
      else
        match order with
        | none => .ok (x.add ⟨exit, none, fills, none⟩)
        | some o =>
          if ¬ AckMatches exit o then .error .acknowledgement
          else if filled ≠ o.filledQuantity then .error .exitFills
          else .ok (x.add ⟨exit, some o, fills, terminalEvidence s o r.now⟩)

def lotExits (s : CoreStore) (r : LotRequest) (symbol : String) : Except CustodyFault LotExits :=
  (s.linksOf r.lotId .exit).foldlM (exitLink s r symbol) {}

/-- The fees of the lot; an event bound to an order is among those of its lot.
mirrors crypto_custody.py:437-445 -/
def allocatedFees (v : LotViews) (lot : String) (relative : List (String × String)) :
    Except CustodyFault Fees.LotAssetFees := do
  let fees ← (v.fees lot).mapError .viewed
  relative.forM fun (event, feeLot) => do
    let allocated ← if feeLot = lot then .ok fees else (v.fees feeLot).mapError .viewed
    if event ∉ allocated.externalEventIds then .error .feeAllocationMissing else .ok ()
  return fees

/-- `owned_remaining`, with the checks on it.
mirrors crypto_custody.py:436-458 -/
def ownedRemaining (buys : List Fill) (x : LotExits) (fees : Fees.LotAssetFees) :
    Except CustodyFault ℚ :=
  let owned := (buys.map (·.quantity)).sum - x.sold - fees.quantity
  if goesShort 0 (chronological (buys ++ x.sells)) then .error .chronologicalOversell
  else if owned < 0 ∨ owned < x.reserved then .error .reservationsExceedOwnership
  else .ok owned

/-- The fields of a basis that `CryptoLotBasis` bounds. -/
def Amounts (remaining fee expected step minimum reserved : ℚ) : Prop :=
  0 ≤ remaining ∧ 0 ≤ fee ∧ 0 ≤ expected ∧ 0 < step ∧ 0 < minimum ∧ 0 ≤ reserved
deriving Decidable

/-- mirrors crypto_custody.py:241-594 -/
def readCryptoLotBasis (v : LotViews) (s : CoreStore) (r : LotRequest) :
    Except CustodyFault CryptoLotBasis := do
  let (entry, intent) ← lotEntry s r
  let terms ← (v.terms entry intent).mapError .viewed
  let (order, terminal, buys) ← entryFills s r intent
  let x ← lotExits s r intent.symbol
  let fees ← allocatedFees v r.lotId terms.relativeFees
  let owned ← ownedRemaining buys x fees
  let fillIds := (buys ++ x.sells).map (·.fillId)
  let orderIds := order.brokerOrderId :: (x.reservations.filterMap (·.order)).map (·.brokerOrderId)
  let cover ← (v.coverage orderIds fillIds owned).mapError .viewed
  let remaining := (buys.map (·.quantity)).sum - x.sold
  if h : Amounts remaining fees.quantity cover.expectedAccountQuantity terms.quantityStep
      terms.minimumQuantity x.reserved then
    .ok
      { accountId := s.config.accountId
        storeIdentity := v.storeIdentity
        configId := v.configId
        entryPolicyId := cover.entryPolicyId
        releaseId := s.config.releaseId
        owner := s.config.owner
        evidenceLane := s.config.evidenceLane
        lotId := r.lotId
        symbol := intent.symbol
        baselineId := terms.baselineId
        ledgerStateId := cover.ledgerStateId
        ledgerGeneration := cover.ledgerGeneration
        activityDocumentId := r.activityDocumentId
        activityWatermark := cover.activityWatermark
        grossRemaining := remaining
        provenAssetFeeQuantity := fees.quantity
        feeAllocationIds := fees.allocationIds
        feeActivityIds := fees.feeIds
        feeSourceIds := fees.sourceIds
        feeExternalEventIds := fees.externalEventIds
        expectedAccountQuantity := cover.expectedAccountQuantity
        quantityStep := terms.quantityStep
        minimumQuantity := terms.minimumQuantity
        assetEligibilityId := terms.assetEligibilityId
        reservedExits := x.reserved
        reservationStateId := v.stateId x.reservations
        sourceRefs := sortedSet ([terminal, entry.protectionId, intent.intentId] ++
          x.reservations.filterMap (·.settled) ++ fees.allocationIds ++ fees.feeIds ++
          fees.sourceIds ++ fees.externalEventIds ++ fillIds)
        openExitOrders := byBrokerOrderId x.openExits
        gross_nonneg := h.1
        fee_nonneg := h.2.1
        expected_nonneg := h.2.2.1
        step_pos := h.2.2.2.1
        minimum_pos := h.2.2.2.2.1
        reserved_nonneg := h.2.2.2.2.2 }
  else .error .basisInvalid

/-! ## The bound -/

section Bound

variable {e : CryptoCustodyEvidence}

theorem steps_le (e : CryptoCustodyEvidence) :
    (⌊max 0 e.rest / e.basis.quantityStep⌋ : ℚ) * e.basis.quantityStep ≤ max 0 e.rest := by
  have hstep := e.basis.step_pos
  calc (⌊max 0 e.rest / e.basis.quantityStep⌋ : ℚ) * e.basis.quantityStep
      ≤ max 0 e.rest / e.basis.quantityStep * e.basis.quantityStep :=
        mul_le_mul_of_nonneg_right (Int.floor_le _) hstep.le
    _ = max 0 e.rest := div_mul_cancel₀ _ hstep.ne'

theorem le_steps {n : ℤ} (h : n * e.basis.quantityStep ≤ max 0 e.rest) : n * e.basis.quantityStep ≤
      (⌊max 0 e.rest / e.basis.quantityStep⌋ : ℚ) * e.basis.quantityStep := by
  have hstep := e.basis.step_pos
  have hfloor : n ≤ ⌊max 0 e.rest / e.basis.quantityStep⌋ :=
    Int.le_floor.2 ((le_div_iff₀ hstep).2 h)
  exact mul_le_mul_of_nonneg_right (by exact_mod_cast hfloor) hstep.le

theorem boundedQuantity_cases (e : CryptoCustodyEvidence) :
    e.boundedQuantity = 0 ∨ e.basis.minimumQuantity ≤ e.boundedQuantity := by
  unfold CryptoCustodyEvidence.boundedQuantity; dsimp only; split
  · rename_i hmin; exact .inr hmin
  · exact .inl rfl

theorem boundedQuantity_steps (e : CryptoCustodyEvidence) :
    ∃ n : ℤ, e.boundedQuantity = n * e.basis.quantityStep := by
  unfold CryptoCustodyEvidence.boundedQuantity; dsimp only; split
  · exact ⟨_, rfl⟩
  · exact ⟨0, by rw [Int.cast_zero, zero_mul]⟩

theorem boundedQuantity_le (e : CryptoCustodyEvidence) : e.boundedQuantity ≤ max 0 e.rest := by
  unfold CryptoCustodyEvidence.boundedQuantity; dsimp only; split
  · exact steps_le e
  · exact le_max_left _ _

/-- The quantities an exit may have: none, or at least the minimum, in whole steps. -/
def Sellable (b : CryptoLotBasis) (x : ℚ) : Prop :=
  (x = 0 ∨ b.minimumQuantity ≤ x) ∧ ∃ n : ℤ, x = n * b.quantityStep

theorem boundedQuantity_sellable (e : CryptoCustodyEvidence) : Sellable e.basis e.boundedQuantity :=
  ⟨boundedQuantity_cases e, boundedQuantity_steps e⟩

/-- **The bound is the greatest** sellable quantity within the rest. -/
theorem boundedQuantity_greatest (h : 0 ≤ e.rest) :
    IsGreatest {x | Sellable e.basis x ∧ x ≤ e.rest} e.boundedQuantity := by
  have hmax : max 0 e.rest = e.rest := max_eq_right h
  refine ⟨⟨boundedQuantity_sellable e, hmax ▸ boundedQuantity_le e⟩, ?_⟩
  rintro x ⟨⟨hx, n, rfl⟩, hle⟩; have hsteps := le_steps (hmax.symm ▸ hle)
  unfold CryptoCustodyEvidence.boundedQuantity; dsimp only; split
  · exact hsteps
  rename_i hmin; rcases hx with hzero | hx
  · exact hzero.le
  · exact absurd (hx.trans hsteps) hmin

theorem boundedQuantity_eq_zero (h : e.rest ≤ 0) : e.boundedQuantity = 0 := by
  rcases boundedQuantity_cases e with hzero | hmin
  · exact hzero
  have hle := boundedQuantity_le e; rw [max_eq_left h] at hle
  exact absurd (e.basis.minimum_pos.trans_le hmin) (not_lt.2 hle)

/-- **The exit reason says available exactly where the bound is positive.** -/
theorem exitReason_available_iff : e.exitReason = .available ↔ 0 < e.boundedQuantity := by
  have hreserved := e.basis.reserved_nonneg; constructor
  · intro h; unfold CryptoCustodyEvidence.exitReason at h; split at h
    · cases h
    split at h
    · cases h
    split at h
    · rename_i hne; rcases boundedQuantity_cases e with hzero | hmin
      · exact absurd hzero hne
      · exact e.basis.minimum_pos.trans_le hmin
    · cases h
  · intro h
    have hrest : 0 < e.rest := by
      by_contra hrest; exact h.ne' (boundedQuantity_eq_zero (not_lt.1 hrest))
    have hmore : e.basis.reservedExits < min e.basis.ownedRemaining e.custodyQuantity :=
      sub_pos.1 hrest
    have hcustody : e.custodyQuantity ≠ 0 :=
      (hreserved.trans_lt (hmore.trans_le (min_le_right _ _))).ne'
    unfold CryptoCustodyEvidence.exitReason
    rw [if_neg hcustody, if_neg (not_le.2 hmore), if_pos h.ne']

theorem custodyLimit_accepts {contentId : CryptoLotBasis → String} {current : CryptoLotBasis}
    {now : Int} {q limit : ℚ}
    (h : cryptoCustodyLimit contentId e current now (some q) = .ok limit) :
    contentId current = contentId e.basis ∧ validateCapture e = .ok () ∧
      limit = e.boundedQuantity ∧ current.minimumQuantity ≤ q ∧ q ≤ e.boundedQuantity := by
  unfold cryptoCustodyLimit at h; split at h
  · cases h
  split at h
  · cases h
  rename_i hid; obtain ⟨_, hvalid, h⟩ := Txn.except_bind_ok.1 h; dsimp only at h
  split at h
  · cases h
  rename_i hrequest; rw [not_or, not_not] at hrequest
  exact ⟨not_not.1 hid, hvalid, (Except.ok.inj h).symm, hrequest.1⟩

theorem add_le_of_le_bounded {q : ℚ} (hpos : 0 < q) (h : q ≤ e.boundedQuantity) :
    e.basis.reservedExits + q ≤ min e.basis.ownedRemaining e.custodyQuantity := by
  have hrest : 0 < e.rest := by
    by_contra hrest; rw [boundedQuantity_eq_zero (not_lt.1 hrest)] at h
    exact absurd hpos (not_lt.2 h)
  have hle := boundedQuantity_le e; rw [max_eq_right hrest.le] at hle
  unfold CryptoCustodyEvidence.rest at hle; linarith

end Bound

/-! ## The exits of the lot -/

/-- What an exit holds of its lot: what it has sold, and what it may still sell. -/
def heldBy (s : CoreStore) (now : Int) (link : IntentLink) : ℚ := soldBy s link + openBy s now link

/-- The exits the loop counts. -/
def counted (r : LotRequest) (links : List IntentLink) : List IntentLink :=
  links.filter fun l => decide (r.excludeIntent ≠ some l.intentId)

section Exits

variable {s : CoreStore} {r : LotRequest} {symbol : String} {x x' : LotExits} {link : IntentLink}
  {now : Int} {exit : OrderIntent}

theorem fills_sum (s : CoreStore) (client : String) :
    (((s.orderByClient client).elim [] fun o => s.fillsOf o.brokerOrderId).map (·.quantity)).sum =
      s.filledByClient client := by
  unfold CoreStore.filledByClient
  cases s.orderByClient client with
  | none => rfl
  | some o => rfl

section

variable (h : s.intentOf link = some exit)
include h

theorem soldBy_eq : soldBy s link = s.filledByClient exit.clientOrderId := by
  unfold soldBy; rw [h]

theorem held_unsent (hunsent : definitivelyUnsent s.toStore exit.intentId = true) :
    soldBy s link = 0 ∧ openBy s now link = 0 := by
  obtain ⟨row, hrow, hnone, _⟩ := definitivelyUnsent_iff.1 hunsent
  have hget : s.orderIntents.get? link.intentId = some exit := h
  rw [intentOf_id h, hget] at hrow; cases hrow
  have hzero : s.filledByClient exit.clientOrderId = 0 := by
    unfold CoreStore.filledByClient; rw [hnone]
  have hnot : ¬ OpenExit s now exit := fun hopen =>
    Bool.false_ne_true (hopen.1.symm.trans hunsent)
  refine ⟨(soldBy_eq h).trans hzero, ?_⟩; unfold openBy; rw [h]
  exact if_neg hnot

theorem openBy_closed
    (hclosed : s.exitClosed exit.clientOrderId now = true) : openBy s now link = 0 := by
  unfold openBy; rw [h]
  exact if_neg fun hopen => Bool.false_ne_true (hopen.2.symm.trans hclosed)

theorem openBy_open (hunsent : definitivelyUnsent s.toStore exit.intentId = false)
    (hclosed : s.exitClosed exit.clientOrderId now = false) :
    openBy s now link = exit.quantity - s.filledByClient exit.clientOrderId := by
  unfold openBy; rw [h]; exact if_pos ⟨hunsent, hclosed⟩

end

/-- What an exit of the loop adds: what it has sold and, unless it is closed, the rest of it. -/
theorem add_sums {o : Option BrokerOrder} {settled : Option String}
    (hlink : s.intentOf link = some exit)
    (hunsent : definitivelyUnsent s.toStore exit.intentId = false)
    (ho : s.orderByClient exit.clientOrderId = o)
    (hclosed : s.exitClosed exit.clientOrderId now = settled.isSome) :
    let added := x.add ⟨exit, o, o.elim [] fun o => s.fillsOf o.brokerOrderId, settled⟩
    added.sold = x.sold + soldBy s link ∧ added.reserved = x.reserved + openBy s now link := by
  have hsum := fills_sum s exit.clientOrderId
  rw [ho] at hsum
  unfold LotExits.add
  dsimp only
  rw [hsum, soldBy_eq hlink]
  refine ⟨rfl, ?_⟩
  split
  · rename_i hnone
    rw [hnone] at hclosed
    rw [openBy_open hlink hunsent hclosed]
  · rename_i hsome
    rw [openBy_closed hlink (hclosed.trans (Option.isSome_iff_ne_none.2 hsome)), add_zero]

theorem exitClosed_none {client : String} (h : s.orderByClient client = none) :
    s.exitClosed client now = false := by
  unfold CoreStore.exitClosed; rw [h]

theorem exitClosed_some {client : String} {o : BrokerOrder} (h : s.orderByClient client = some o) :
    s.exitClosed client now = (terminalEvidence s o now).isSome := by
  unfold CoreStore.exitClosed; rw [h]

/-- **One exit of the loop**: an excluded one is not counted and has sold nothing; any other
one is within its quantity. -/
theorem exitLink_ok (h : exitLink s r symbol x link = .ok x') :
    ∃ exit, s.intentOf link = some exit ∧ if r.excludeIntent = some link.intentId then
        x'.sold = x.sold ∧ x'.reserved = x.reserved ∧ soldBy s link = 0 else
        x'.sold = x.sold + soldBy s link ∧ x'.reserved = x.reserved + openBy s r.now link ∧
          soldBy s link ≤ exit.quantity := by
  unfold exitLink at h
  cases hlink : s.intentOf link with
  | none =>
    rw [hlink] at h; cases h
  | some exit =>
    rw [hlink] at h; dsimp only at h; refine ⟨exit, rfl, ?_⟩
    rw [← intentOf_id hlink]; split at h
    · cases h
    split at h
    · rename_i hunsent; cases h
      obtain ⟨hsold, hopen⟩ : soldBy s link = 0 ∧ openBy s r.now link = 0 :=
        held_unsent hlink hunsent
      rw [hsold, hopen, add_zero, add_zero]; split
      · exact ⟨rfl, rfl, rfl⟩
      · exact ⟨rfl, rfl, exit.quantity_pos.le⟩
    rename_i hunsent; rw [Bool.not_eq_true] at hunsent; split at h
    · rename_i hexclude; rw [if_pos hexclude]; split at h
      · cases h
      rename_i hnone; rw [not_or, not_not] at hnone; cases h
      refine ⟨rfl, rfl, ?_⟩; rw [soldBy_eq hlink]
      unfold CoreStore.filledByClient; rw [hnone.1]
    · rename_i hexclude; rw [if_neg hexclude]; split at h
      · cases h
      rename_i hfills; rw [not_or, fills_sum, not_lt] at hfills
      rw [soldBy_eq hlink]
      cases ho : s.orderByClient exit.clientOrderId with
      | none =>
        rw [ho] at h; cases h
        have hclosed : s.exitClosed exit.clientOrderId r.now = (none : Option String).isSome :=
          exitClosed_none ho
        obtain ⟨hsold, hreserved⟩ := add_sums (x := x) hlink hunsent ho hclosed
        rw [soldBy_eq hlink] at hsold; exact ⟨hsold, hreserved, hfills.2⟩
      | some o =>
        rw [ho] at h; dsimp only at h; split at h
        · cases h
        split at h
        · cases h
        obtain rfl := Except.ok.inj h
        obtain ⟨hsold, hreserved⟩ :=
          add_sums (x := x) hlink hunsent ho (exitClosed_some ho)
        rw [soldBy_eq hlink] at hsold; exact ⟨hsold, hreserved, hfills.2⟩

/-- **What the loop sums up.** -/
theorem exits_sums {links : List IntentLink} (h : links.foldlM (exitLink s r symbol) x = .ok x') :
    x'.sold = x.sold + ((counted r links).map (soldBy s)).sum ∧
      x'.reserved = x.reserved + ((counted r links).map (openBy s r.now)).sum ∧
      ∀ l ∈ links, ∃ exit, s.intentOf l = some exit ∧ soldBy s l ≤ exit.quantity ∧
        (r.excludeIntent = some l.intentId → soldBy s l = 0) := by
  induction links generalizing x with
  | nil =>
    cases h
    exact ⟨(add_zero _).symm, (add_zero _).symm, fun l hl => absurd hl List.not_mem_nil⟩
  | cons link links ih =>
    obtain ⟨next, hone, hrest⟩ := Txn.except_bind_ok.1 h
    obtain ⟨exit, hexit, hstep⟩ := exitLink_ok hone
    obtain ⟨hsold, hreserved, hall⟩ := ih hrest
    unfold counted at hsold hreserved ⊢; rw [List.filter_cons]
    by_cases hexclude : r.excludeIntent = some link.intentId
    · rw [if_pos hexclude] at hstep; obtain ⟨hs, hr, hzero⟩ := hstep
      simp only [hexclude, ne_eq, not_true_eq_false, decide_false, Bool.false_eq_true, if_false]
      simp only [hexclude, ne_eq] at hsold hreserved hall
      refine ⟨hs ▸ hsold, hr ▸ hreserved, fun l hl => ?_⟩
      rcases List.mem_cons.1 hl with rfl | hl
      · exact ⟨exit, hexit, hzero ▸ exit.quantity_pos.le, fun _ => hzero⟩
      · exact hall l hl
    · rw [if_neg hexclude] at hstep; obtain ⟨hs, hr, hle⟩ := hstep
      simp only [hexclude, ne_eq, not_false_eq_true, decide_true, if_true, List.map_cons,
        List.sum_cons]
      refine ⟨by rw [hsold, hs, add_assoc], by rw [hreserved, hr, add_assoc], fun l hl => ?_⟩
      rcases List.mem_cons.1 hl with rfl | hl
      · exact ⟨exit, hexit, hle, fun hex => absurd hex hexclude⟩
      · exact hall l hl

end Exits

/-! ## What a read returns and raises -/

section Reads

variable {v : LotViews} {s : CoreStore} {r : LotRequest} {basis : CryptoLotBasis}
  {entry : IntentLink} {intent : OrderIntent}

theorem lotEntry_ok (h : lotEntry s r = .ok (entry, intent)) :
    s.linksOf r.lotId .entry = [entry] ∧ s.intentOf entry = some intent := by
  unfold lotEntry at h; split at h
  · cases h
  split at h
  · rename_i own hentry; split at h
    · cases h
    split at h
    · cases h
    rename_i found hintent; split at h
    · cases h
    · obtain ⟨rfl, rfl⟩ := Prod.mk.inj (Except.ok.inj h)
      exact ⟨hentry, hintent⟩
  · cases h

theorem entryFills_ok {order : BrokerOrder} {terminal : String} {buys : List Fill}
    (hentry : s.intentOf entry = some intent)
    (h : entryFills s r intent = .ok (order, terminal, buys)) :
    (buys.map (·.quantity)).sum = boughtBy s entry := by
  unfold entryFills at h
  cases ho : s.orderByClient intent.clientOrderId with
  | none =>
    rw [ho] at h; cases h
  | some o =>
    rw [ho] at h; dsimp only at h; split at h
    · cases h
    split at h
    · cases h
    split at h
    · cases h
    obtain ⟨_, hbuys⟩ := Prod.mk.inj (Except.ok.inj h)
    obtain ⟨_, rfl⟩ := Prod.mk.inj hbuys; unfold boughtBy; rw [hentry]
    exact (filledByClient_eq ho).symm

theorem allocatedFees_ok {lot : String} {relative : List (String × String)}
    {fees : Fees.LotAssetFees} (h : allocatedFees v lot relative = .ok fees) :
    v.fees lot = .ok fees := by
  obtain ⟨own, hown, h⟩ := Txn.except_bind_ok.1 h
  obtain ⟨_, _, h⟩ := Txn.except_bind_ok.1 h; cases h
  cases hfees : v.fees lot with
  | error e =>
    rw [hfees] at hown; cases hown
  | ok found =>
    rw [hfees] at hown; exact congrArg _ (Except.ok.inj hown)

/-- **What a basis is read from.** -/
theorem read_ok (h : readCryptoLotBasis v s r = .ok basis) :
    ∃ entry intent x fees, s.linksOf r.lotId .entry = [entry] ∧ s.intentOf entry = some intent ∧
      lotExits s r intent.symbol = .ok x ∧ v.fees r.lotId = .ok fees ∧
      basis.grossRemaining = boughtBy s entry - x.sold ∧
      basis.provenAssetFeeQuantity = fees.quantity ∧ basis.reservedExits = x.reserved := by
  obtain ⟨⟨entry, intent⟩, hentry, h⟩ := Txn.except_bind_ok.1 h
  obtain ⟨terms, _, h⟩ := Txn.except_bind_ok.1 h
  obtain ⟨⟨order, terminal, buys⟩, hbuys, h⟩ := Txn.except_bind_ok.1 h
  obtain ⟨x, hx, h⟩ := Txn.except_bind_ok.1 h
  obtain ⟨fees, hfees, h⟩ := Txn.except_bind_ok.1 h
  obtain ⟨owned, _, h⟩ := Txn.except_bind_ok.1 h
  obtain ⟨cover, _, h⟩ := Txn.except_bind_ok.1 h
  obtain ⟨hentry, hintent⟩ := lotEntry_ok hentry; dsimp only at h; split at h
  · cases h
    refine ⟨entry, intent, x, fees, hentry, hintent, hx, allocatedFees_ok hfees, ?_, rfl, rfl⟩
    show (buys.map (·.quantity)).sum - x.sold = _
    rw [entryFills_ok hintent hbuys]
  · cases h

theorem exitLink_error {symbol : String} {x : LotExits} {link : IntentLink} :
    exitLink s r symbol x link ≠ .error .reservationsExceedOwnership := by
  unfold exitLink; intro h
  cases hlink : s.intentOf link with
  | none =>
    rw [hlink] at h; cases h
  | some exit =>
    rw [hlink] at h; dsimp only at h; split at h
    · cases h
    split at h
    · cases h
    split at h
    · split at h <;> cases h
    split at h
    · cases h
    cases ho : s.orderByClient exit.clientOrderId with
    | none =>
      rw [ho] at h; cases h
    | some o =>
      rw [ho] at h; dsimp only at h; split at h
      · cases h
      split at h <;> cases h

theorem viewed_error {α : Type} {a : Except String α} :
    a.mapError CustodyFault.viewed ≠ .error .reservationsExceedOwnership := by
  cases a with
  | error _ | ok _ =>
    intro h; cases h

/-- **When a read finds the reservations above the ownership.** -/
theorem read_exceeds (h : readCryptoLotBasis v s r = .error .reservationsExceedOwnership) :
    ∃ entry intent x fees, s.linksOf r.lotId .entry = [entry] ∧ s.intentOf entry = some intent ∧
      lotExits s r intent.symbol = .ok x ∧ v.fees r.lotId = .ok fees ∧
      (boughtBy s entry - x.sold - fees.quantity < 0 ∨
        boughtBy s entry - x.sold - fees.quantity < x.reserved) := by
  rcases Txn.except_bind_error h with h | ⟨⟨entry, intent⟩, hentry, h⟩
  · unfold lotEntry at h; split at h
    · cases h
    split at h
    · split at h
      · cases h
      split at h
      · cases h
      · split at h <;> cases h
    · cases h
  rcases Txn.except_bind_error h with h | ⟨terms, _, h⟩
  · exact absurd h viewed_error
  rcases Txn.except_bind_error h with h | ⟨⟨order, terminal, buys⟩, hbuys, h⟩
  · unfold entryFills at h; split at h
    · cases h
    split at h
    · cases h
    split at h
    · cases h
    · dsimp only at h; split at h <;> cases h
  rcases Txn.except_bind_error h with h | ⟨x, hx, h⟩
  · obtain ⟨_, _, _, hlink⟩ := Txn.except_foldlM_error h
    exact absurd hlink exitLink_error
  rcases Txn.except_bind_error h with h | ⟨fees, hfees, h⟩
  · unfold allocatedFees at h
    rcases Txn.except_bind_error h with h | ⟨own, _, h⟩
    · exact absurd h viewed_error
    rcases Txn.except_bind_error h with h | ⟨_, _, h⟩
    · obtain ⟨⟨event, feeLot⟩, _, hcheck⟩ := Txn.except_forM_error h
      dsimp only at hcheck; split at hcheck
      · rcases Txn.except_bind_error hcheck with hcheck | ⟨_, _, hcheck⟩
        · cases hcheck
        · split at hcheck <;> cases hcheck
      · rcases Txn.except_bind_error hcheck with hcheck | ⟨_, _, hcheck⟩
        · exact absurd hcheck viewed_error
        · split at hcheck <;> cases hcheck
    · cases h
  obtain ⟨hentry, hintent⟩ := lotEntry_ok hentry
  refine ⟨entry, intent, x, fees, hentry, hintent, hx, allocatedFees_ok hfees, ?_⟩
  rw [← entryFills_ok hintent hbuys]
  rcases Txn.except_bind_error h with h | ⟨owned, _, h⟩
  · unfold ownedRemaining at h; dsimp only at h; split at h
    · cases h
    split at h
    · assumption
    · cases h
  rcases Txn.except_bind_error h with h | ⟨cover, _, h⟩
  · exact absurd h viewed_error
  · dsimp only at h; split at h <;> cases h

end Reads

/-! ## The next read -/

/-- An exit as it may stand later: it has kept its quantity, and where it was never sent or
was closed it still is, with the fills it had. -/
structure ExitKept (s s' : CoreStore) (now now' : Int) (link : IntentLink) : Prop where
  intent : ∀ exit' ∈ s'.intentOf link, ∃ exit ∈ s.intentOf link,
    exit.clientOrderId = exit'.clientOrderId ∧ exit.quantity = exit'.quantity
  unsent : definitivelyUnsent s.toStore link.intentId = true →
    definitivelyUnsent s'.toStore link.intentId = true
  closed : ∀ exit ∈ s.intentOf link, s.exitClosed exit.clientOrderId now = true →
    s'.exitClosed exit.clientOrderId now' = true ∧
      s'.filledByClient exit.clientOrderId = s.filledByClient exit.clientOrderId

/-- The lot as it may stand later: its entry as it was, and its exits but the one of `i`. -/
structure LotKept (s s' : CoreStore) (now now' : Int) (lot i : String) : Prop where
  entry : s'.linksOf lot .entry = s.linksOf lot .entry
  bought : ∀ l ∈ s.linksOf lot .entry, boughtBy s' l = boughtBy s l
  others : s'.otherExits lot i = s.otherExits lot i
  kept : ∀ l ∈ s.otherExits lot i, ExitKept s s' now now' l

section Later

variable {s s' : CoreStore} {now now' : Int} {link : IntentLink} {lot i : String}

theorem terminalEvidence_later {order : BrokerOrder} (hle : now ≤ now')
    (h : (terminalEvidence s order now).isSome) : (terminalEvidence s order now').isSome := by
  obtain ⟨hopen, hfilled, p, hp, hclient, horder, hrecorded, hrest⟩ := terminalEvidence_isSome.1 h
  exact terminalEvidence_isSome.2
    ⟨hopen, hfilled, p, hp, hclient, horder, hrecorded.trans hle, hrest⟩

theorem LotKept.untouched (hle : now ≤ now') : LotKept s s now now' lot i where
  entry := rfl
  bought _ _ := rfl
  others := rfl
  kept link _ :=
    { intent := fun exit hexit => ⟨exit, hexit, rfl, rfl⟩
      unsent := id
      closed := fun exit _ hclosed => by
        refine ⟨?_, rfl⟩
        unfold CoreStore.exitClosed at hclosed ⊢
        cases ho : s.orderByClient exit.clientOrderId with
        | none =>
          rw [ho] at hclosed
          cases hclosed
        | some order =>
          rw [ho] at hclosed
          exact terminalEvidence_later hle hclosed }

theorem soldBy_nonneg (s : CoreStore) (link : IntentLink) : 0 ≤ soldBy s link := by
  unfold soldBy; split
  · exact le_refl 0
  · exact filledByClient_nonneg s _

theorem heldBy_le {exit : OrderIntent} (h : s.intentOf link = some exit)
    (hsold : soldBy s link ≤ exit.quantity) : heldBy s now link ≤ exit.quantity := by
  unfold heldBy
  by_cases hunsent : definitivelyUnsent s.toStore exit.intentId = true
  · obtain ⟨hzero, hopen⟩ : soldBy s link = 0 ∧ openBy s now link = 0 := held_unsent h hunsent
    rw [hzero, hopen, add_zero]; exact exit.quantity_pos.le
  by_cases hclosed : s.exitClosed exit.clientOrderId now = true
  · rw [openBy_closed h hclosed, add_zero]; exact hsold
  · rw [openBy_open h (Bool.eq_false_of_not_eq_true hunsent)
      (Bool.eq_false_of_not_eq_true hclosed), soldBy_eq h]
    linarith

theorem openBy_nonneg {exit : OrderIntent} (h : s.intentOf link = some exit)
    (hsold : soldBy s link ≤ exit.quantity) : 0 ≤ openBy s now link := by
  rw [soldBy_eq h] at hsold; unfold openBy; rw [h]; dsimp only; split
  · linarith
  · exact le_refl 0

/-- **An exit that is kept holds no more than it did.** -/
theorem ExitKept.heldBy_le {exit exit' : OrderIntent} (hk : ExitKept s s' now now' link)
    (h : s.intentOf link = some exit) (hsold : soldBy s link ≤ exit.quantity)
    (h' : s'.intentOf link = some exit') (hsold' : soldBy s' link ≤ exit'.quantity) :
    heldBy s' now' link ≤ heldBy s now link := by
  obtain ⟨own, hown, hclient, hquantity⟩ := hk.intent exit' h'
  obtain rfl : exit = own := Option.some.inj (h.symm.trans hown)
  have hheld : heldBy s' now' link ≤ exit'.quantity := Custody.heldBy_le h' hsold'
  by_cases hunsent : definitivelyUnsent s.toStore link.intentId = true
  · have hlater := hk.unsent hunsent; rw [← intentOf_id h'] at hlater
    obtain ⟨hzero, hopen⟩ : soldBy s' link = 0 ∧ openBy s' now' link = 0 := held_unsent h' hlater
    have hnonneg : 0 ≤ soldBy s link + openBy s now link :=
      add_nonneg (soldBy_nonneg s link) (openBy_nonneg h hsold)
    unfold heldBy; rw [hzero, hopen, add_zero]; exact hnonneg
  · rw [← intentOf_id h] at hunsent
    by_cases hclosed : s.exitClosed exit.clientOrderId now = true
    · obtain ⟨hlater, hfilled⟩ := hk.closed exit h hclosed
      rw [hclient] at hlater hfilled; unfold heldBy
      rw [openBy_closed h' hlater, openBy_closed h hclosed, soldBy_eq h', soldBy_eq h, hfilled,
        hclient]
    · refine hheld.trans (le_of_eq ?_); unfold heldBy
      rw [openBy_open h (Bool.eq_false_of_not_eq_true hunsent)
        (Bool.eq_false_of_not_eq_true hclosed), soldBy_eq h, ← hquantity]
      ring

/-- The exits of a lot hold what the others hold, and at most its quantity for the exit of `i`. -/
theorem held_all_le {q : ℚ} (hq : 0 ≤ q)
    (hown : ∀ l ∈ s.linksOf lot .exit, l.intentId = i → heldBy s now l ≤ q) :
    ((s.linksOf lot .exit).map (heldBy s now)).sum ≤
      ((s.otherExits lot i).map (heldBy s now)).sum + q := by
  by_cases hmem : ∃ l ∈ s.linksOf lot .exit, l.intentId = i
  · obtain ⟨l, hl, rfl⟩ := hmem; obtain ⟨hrow, rfl, hrole⟩ := mem_linksOf.1 hl
    have hlinked : s.linkIn .exit l.intentId = some l :=
      Option.filter_eq_some_iff.2 ⟨Table.get?_eq_some.2 ⟨hrow, rfl⟩, decide_eq_true hrole⟩
    rw [sum_exits hlinked]; exact add_le_add_right (hown l hl rfl) _
  · have hall : s.otherExits lot i = s.linksOf lot .exit := by
      refine List.filter_eq_self.2 fun l hl => decide_eq_true fun heq => hmem ⟨l, hl, heq⟩
    rw [hall]; exact le_add_of_nonneg_right hq

end Later

/-- The basis counts every exit of the lot but the one of `i`: it is excluded, or not there. -/
def Leaves (s : CoreStore) (r : LotRequest) (i : String) : Prop :=
  r.excludeIntent = some i ∨
    r.excludeIntent = none ∧ ∀ l ∈ s.linksOf r.lotId .exit, l.intentId ≠ i

theorem Leaves.counted_eq {s : CoreStore} {r : LotRequest} {i : String} (h : Leaves s r i) :
    counted r (s.linksOf r.lotId .exit) = s.otherExits r.lotId i := by
  refine List.filter_congr fun l hl => decide_eq_decide.2 ?_
  rcases h with hexclude | ⟨hnone, hfresh⟩
  · rw [hexclude, ne_eq, Option.some.injEq]; exact not_congr eq_comm
  · rw [hnone]; exact ⟨fun _ => hfresh l hl, nofun⟩

/-- A later read of the lot, with the exit of `i` among its exits for the quantity requested. -/
structure NextRead (e : CryptoCustodyEvidence) (s : CoreStore) (r : LotRequest) (i : String) (q : ℚ)
    (v' : LotViews) (s' : CoreStore) (r' : LotRequest) : Prop where
  lot : r'.lotId = r.lotId
  kept : LotKept s s' r.now r'.now r.lotId i
  requested : ∀ exit ∈ s'.orderIntents.get? i, exit.quantity = q
  /-- Fees allocated by then leave what was owned, or what the custody showed. -/
  fees : ∀ f ∈ (v'.fees r.lotId).toOption,
    min e.basis.ownedRemaining e.custodyQuantity ≤ e.basis.grossRemaining - f.quantity

/-- **The next read finds the reservations covered.** -/
theorem NextRead.covered {e : CryptoCustodyEvidence} {v v' : LotViews} {s s' : CoreStore}
    {r r' : LotRequest} {i : String} {q : ℚ} (hnext : NextRead e s r i q v' s' r') (hq : 0 ≤ q)
    (hread : readCryptoLotBasis v s r = .ok e.basis) (hleaves : Leaves s r i)
    (hwithin : e.basis.reservedExits + q ≤ min e.basis.ownedRemaining e.custodyQuantity) :
    readCryptoLotBasis v' s' r' ≠ .error .reservationsExceedOwnership := by
  intro herror
  obtain ⟨entry, intent, x, fees, hentry, hintent, hx, _, hgross, _, hreserved⟩ := read_ok hread
  obtain ⟨entry', intent', x', fees', hentry', _, hx', hfees', hexceeds⟩ := read_exceeds herror
  have hsame : entry' = entry := by
    rw [hnext.lot, hnext.kept.entry, hentry] at hentry'
    exact (List.cons.inj hentry').1.symm
  have hbought : boughtBy s' entry = boughtBy s entry :=
    hnext.kept.bought entry (hentry ▸ List.mem_singleton_self entry)
  have hfees : min e.basis.ownedRemaining e.custodyQuantity ≤
      e.basis.grossRemaining - fees'.quantity := by
    rw [hnext.lot] at hfees'; refine hnext.fees fees' ?_; rw [hfees']; rfl
  obtain ⟨hsold, hres, hall⟩ := exits_sums hx
  obtain ⟨hsold', hres', hall'⟩ := exits_sums hx'
  rw [hnext.lot] at hsold' hres' hall'; rw [hleaves.counted_eq] at hsold hres
  -- what the later read counts is at most what the basis counted and the request
  have hnonneg : ∀ l ∈ s'.linksOf r.lotId .exit, 0 ≤ heldBy s' r'.now l := fun l hl => by
    obtain ⟨exit, hexit, hle, _⟩ := hall' l hl
    exact add_nonneg (soldBy_nonneg s' l) (openBy_nonneg hexit hle)
  have hcounted : ((counted r' (s'.linksOf r.lotId .exit)).map (heldBy s' r'.now)).sum ≤
      ((s'.linksOf r.lotId .exit).map (heldBy s' r'.now)).sum := by
    refine (List.filter_sublist.map _).sum_le_sum fun a ha => ?_
    obtain ⟨l, hl, rfl⟩ := List.mem_map.1 ha; exact hnonneg l hl
  have hown : ((s'.linksOf r.lotId .exit).map (heldBy s' r'.now)).sum ≤
      ((s'.otherExits r.lotId i).map (heldBy s' r'.now)).sum + q := by
    refine held_all_le hq fun l hl hid => ?_
    obtain ⟨exit, hexit, hle, _⟩ := hall' l hl
    have hget : s'.orderIntents.get? l.intentId = some exit := hexit
    rw [hid] at hget; rw [← hnext.requested exit hget]
    exact heldBy_le hexit hle
  have hothers : ((s'.otherExits r.lotId i).map (heldBy s' r'.now)).sum ≤
      ((s.otherExits r.lotId i).map (heldBy s r.now)).sum := by
    rw [hnext.kept.others]; refine List.sum_le_sum fun l hl => ?_
    have hl' : l ∈ s'.linksOf r.lotId .exit :=
      List.mem_of_mem_filter (hnext.kept.others.symm ▸ hl : l ∈ s'.otherExits r.lotId i)
    obtain ⟨exit, hexit, hle, _⟩ := hall l (List.mem_of_mem_filter hl)
    obtain ⟨exit', hexit', hle', _⟩ := hall' l hl'
    exact (hnext.kept.kept l hl).heldBy_le hexit hle hexit' hle'
  have hsplit : ∀ (t : CoreStore) (now : Int) (links : List IntentLink),
      (links.map (heldBy t now)).sum =
        (links.map (soldBy t)).sum + (links.map (openBy t now)).sum := fun t now links =>
    List.sum_map_add
  have hres_nonneg : 0 ≤ x'.reserved := by
    rw [hres', zero_add]; refine List.sum_nonneg fun a ha => ?_
    obtain ⟨l, hl, rfl⟩ := List.mem_map.1 ha
    obtain ⟨exit, hexit, hle, _⟩ := hall' l (List.mem_of_mem_filter hl)
    exact openBy_nonneg hexit hle
  rw [hsplit, hsplit] at hcounted; rw [hsplit, hsplit] at hown hothers
  rw [hsame, hbought] at hexceeds
  have hless : boughtBy s entry - x'.sold - fees'.quantity < x'.reserved :=
    hexceeds.elim (fun h => h.trans_le hres_nonneg) id
  linarith

/-- The exit of three quarters of the coin. -/
def coinExit : OrderIntent where
  intentId := "x1"
  clientOrderId := "q2"
  strategyId := "core"
  symbol := "BTC/USD"
  signalDate := 0
  side := .sell
  orderType := .market
  timeInForce := .gtc
  quantity := 3 / 4
  createdAt := 8
  quantity_pos := by norm_num
  prices := L1.market_unpriced

/-- The coin's lot with its exit prepared. -/
def exitStore : CoreStore :=
  { Fees.coinCore with
    orderIntents := Fees.coinCore.orderIntents.insert coinExit
    links := Fees.coinCore.links.insert ⟨"x1", "d1", "p1", "obs", .exit, "lot"⟩ }

/-- No fee, a step of a thousandth and a minimum of a hundredth. -/
def coinViews : LotViews where
  storeIdentity := "store"
  configId := "config"
  terms := fun _ _ => .ok
    { baselineId := "base"
      assetEligibilityId := "terms"
      quantityStep := 1 / 1000
      minimumQuantity := 1 / 100 }
  fees := fun _ => .ok {}
  coverage := fun _ _ _ => .ok ⟨8, 1, "ledger", 0, none⟩
  stateId := fun _ => "reservations"

def coinRequest (excludeIntent : Option String) : LotRequest where
  lotId := "lot"
  now := 8
  activityDocumentId := "activity"
  excludeIntent := excludeIntent

def coinLotBasis (reserved : ℚ) (h : 0 ≤ reserved) : CryptoLotBasis where
  accountId := "PA1"
  storeIdentity := "store"
  configId := "config"
  releaseId := "rel"
  owner := "core"
  evidenceLane := .brokerPaper
  lotId := "lot"
  symbol := "BTC/USD"
  baselineId := "base"
  ledgerStateId := "ledger"
  ledgerGeneration := 0
  activityDocumentId := "activity"
  activityWatermark := 8
  grossRemaining := 1
  expectedAccountQuantity := 1
  quantityStep := 1 / 1000
  minimumQuantity := 1 / 100
  assetEligibilityId := "terms"
  reservedExits := reserved
  reservationStateId := "reservations"
  sourceRefs := ["F1", "i1", "p1", "s1"]
  openExitOrders := []
  gross_nonneg := L1.unit_nonneg
  fee_nonneg := L1.nil_nonneg
  expected_nonneg := L1.unit_nonneg
  step_pos := by norm_num
  minimum_pos := by norm_num
  reserved_nonneg := h

/-- The account shows a little less than a coin: the broker has taken a fee. -/
def coinCapture (reserved : ℚ) (h : 0 ≤ reserved) : CryptoCustodyEvidence where
  basis := coinLotBasis reserved h
  fundsEvidenceId := "funds"
  firstAccount := ⟨coinAccount, "PA1", "ACTIVE", true, []⟩
  secondAccount := ⟨coinAccount, "PA1", "ACTIVE", true, []⟩
  firstPositions := [coinPosition]
  secondPositions := [coinPosition]
  firstOpenOrders := []
  secondOpenOrders := []
  captureStarted := 7
  capturedAt := 8
  elapsedSeconds := 1
where
  coinAccount : Account :=
    { accountId := "PA1", cash := 0, buyingPower := 0, equity := 100, currency := "USD"
      cash_nonneg := L1.nil_nonneg, buyingPower_nonneg := L1.nil_nonneg
      equity_nonneg := L1.hundred_nonneg }
  coinPosition : Position :=
    { symbol := "BTC/USD", quantity := 9975 / 10000, marketPrice := 100, marketValue := 100
      averageEntryPrice := 100, marketPrice_pos := L1.hundred_pos
      averageEntryPrice_pos := L1.hundred_pos }

end Quantbot.L4.Custody
