import Quantbot.L3Risk.Portfolio
import Quantbot.Core.Txn

/-!
# What aggregation and sizing return

One spec lemma for each function of `Quantbot.L3Risk.Portfolio`:

* `deduplicate_ok`: the members survive, each id once;
* `build_ok`: the fields of the state as sums over holdings and reservations;
* `sizeEntry_approval`: an approved quantity is a multiple of `10⁻⁶`, positive, and at most
  each of the four portfolio caps, which are all positive; a new position has a free slot.
-/
namespace Quantbot.L3.Risk

open Core L1
open Core.Decimal (add sub mul div OnGrid Fits)

/-! ## Deduplication -/

/-- One id, one reservation. -/
def Consistent (reservations : List RiskReservation) : Prop :=
  ∀ a ∈ reservations, ∀ b ∈ reservations, a.reservationId = b.reservationId → a = b

variable {reservations unique : List RiskReservation} {next : List RiskReservation}

variable {r : RiskReservation}

theorem deduplicateStep_ok
    (h : deduplicateStep unique r = .ok next) (hids : (unique.map (·.reservationId)).Nodup) :
    (next.map (·.reservationId)).Nodup ∧ ∀ x, x ∈ next ↔ x ∈ unique ∨ x = r := by
  unfold deduplicateStep at h
  cases hfind : unique.find? fun x => x.reservationId = r.reservationId with
  | none =>
    simp only [hfind] at h; cases h
    have hnew : ∀ x ∈ unique, x.reservationId ≠ r.reservationId := by
      intro x hx; simpa using List.find?_eq_none.1 hfind x hx
    refine ⟨?_, fun x => by simp⟩; rw [List.map_append, List.nodup_append]
    refine ⟨hids, by simp, ?_⟩; intro a ha b hb hab
    obtain ⟨x, hx, rfl⟩ := List.mem_map.1 ha
    have hb' : b = r.reservationId := by simpa using hb
    exact hnew x hx (hab.trans hb')
  | some existing =>
    simp only [hfind] at h; split at h
    · cases h
    rename_i hsame; cases h
    have hmem : r ∈ unique := by
      have := List.mem_of_find?_eq_some hfind; rwa [not_not.1 hsame] at this
    refine ⟨hids, ?_⟩; intro x; constructor
    · exact .inl
    rintro (hx | rfl)
    · exact hx
    · exact hmem

theorem deduplicateStep_total (h : ∀ x ∈ unique, x.reservationId = r.reservationId → x = r) :
    ∃ next, deduplicateStep unique r = .ok next := by
  unfold deduplicateStep
  cases hfind : unique.find? fun x => x.reservationId = r.reservationId with
  | none => exact ⟨_, rfl⟩
  | some existing =>
    have hid : existing.reservationId = r.reservationId := by simpa using List.find?_some hfind
    have hsame := h existing (List.mem_of_find?_eq_some hfind) hid
    simp only [hsame, ne_eq, not_true, if_false]; exact ⟨_, rfl⟩

theorem foldlM_deduplicate_ok (h : reservations.foldlM deduplicateStep unique = .ok next)
    (hids : (unique.map (·.reservationId)).Nodup) :
    (next.map (·.reservationId)).Nodup ∧ ∀ x, x ∈ next ↔ x ∈ unique ∨ x ∈ reservations := by
  induction reservations generalizing unique with
  | nil =>
    cases h; exact ⟨hids, fun x => by simp⟩
  | cons r rest ih =>
    obtain ⟨u, hu, hrest⟩ := Txn.except_bind_ok.1 h
    obtain ⟨hids', hmem⟩ := deduplicateStep_ok hu hids
    obtain ⟨hnext, hmem'⟩ := ih hrest hids'; refine ⟨hnext, fun x => ?_⟩
    rw [hmem', hmem, List.mem_cons, or_assoc]

theorem deduplicate_ok (h : deduplicateReservations reservations = .ok unique) :
    (unique.map (·.reservationId)).Nodup ∧ ∀ x, x ∈ unique ↔ x ∈ reservations := by
  obtain ⟨hids, hmem⟩ := foldlM_deduplicate_ok h List.nodup_nil
  exact ⟨hids, fun x => by simpa using hmem x⟩

theorem foldlM_deduplicate_total (hids : (unique.map (·.reservationId)).Nodup)
    (h : Consistent (unique ++ reservations)) :
    ∃ next, reservations.foldlM deduplicateStep unique = .ok next := by
  induction reservations generalizing unique with
  | nil => exact ⟨unique, rfl⟩
  | cons r rest ih =>
    obtain ⟨u, hu⟩ : ∃ u, deduplicateStep unique r = .ok u := by
      refine deduplicateStep_total ?_; intro x hx hid
      exact h x (by simp [hx]) r (by simp) hid
    obtain ⟨hids', hmem⟩ := deduplicateStep_ok hu hids
    obtain ⟨next, hnext⟩ := ih hids' (by
      intro a ha b hb hid
      have hin : ∀ x, x ∈ u ++ rest → x ∈ unique ++ r :: rest := by
        intro x hx; rcases List.mem_append.1 hx with hx | hx
        · rcases (hmem x).1 hx with hx | rfl
          · simp [hx]
          · simp
        · simp [hx]
      exact h a (hin a ha) b (hin b hb) hid)
    exact ⟨next, by rw [List.foldlM_cons, hu]; exact hnext⟩

theorem deduplicate_total (h : Consistent reservations) :
    ∃ unique, deduplicateReservations reservations = .ok unique :=
  foldlM_deduplicate_total List.nodup_nil (by simpa using h)

theorem deduplicate_consistent (h : deduplicateReservations reservations = .ok unique) :
    Consistent reservations := by
  obtain ⟨hids, hmem⟩ := deduplicate_ok h; intro a ha b hb hid
  exact List.inj_on_of_nodup_map hids ((hmem a).2 ha) ((hmem b).2 hb) hid

theorem deduplicate_nodup (h : (reservations.map (·.reservationId)).Nodup) :
    deduplicateReservations reservations = .ok reservations := by
  have hgen : ∀ unique : List RiskReservation,
      ((unique ++ reservations).map (·.reservationId)).Nodup →
      reservations.foldlM deduplicateStep unique = .ok (unique ++ reservations) := by
    clear h
    induction reservations with
    | nil => intro unique _; rw [List.append_nil]; rfl
    | cons r rest ih =>
      intro unique hids
      have hnone : unique.find? (fun x => x.reservationId = r.reservationId) = none := by
        rw [List.find?_eq_none]; intro x hx
        rw [List.map_append, List.nodup_append] at hids
        simpa using hids.2.2 x.reservationId (List.mem_map_of_mem hx) r.reservationId (by simp)
      have hstep : deduplicateStep unique r = .ok (unique ++ [r]) := by
        unfold deduplicateStep; rw [hnone]
      rw [List.foldlM_cons, hstep]
      have hrest := ih (unique ++ [r]) (by simpa using hids)
      rw [List.append_assoc] at hrest; exact hrest
  exact hgen [] (by simpa using h)

/-! ## The state -/

/-- What the account's buying power is reduced to before planned orders. -/
def buyingPowerBase (account : Account) (bps : ℕ) : ℚ :=
  div (mul account.buyingPower ((10000 - bps : ℕ) : ℚ)) 10000

def newlyCommitted (unique : List RiskReservation) : List ℚ :=
  (unique.filter (!·.buyingPowerAlreadyReserved)).map (·.positionValue)

def openRisks (positions : List PositionRiskInput) (unique : List RiskReservation) : List ℚ :=
  (openPositions positions).filterMap (·.openRisk) ++ unique.map (·.openRisk)

def grossValues (positions : List PositionRiskInput) (unique : List RiskReservation) : List ℚ :=
  (openPositions positions).map (·.grossValue) ++ unique.map (·.grossExposure)

def symbolValues (symbol : String) (positions : List PositionRiskInput)
    (unique : List RiskReservation) : List ℚ :=
  ((openPositions positions).filter (·.position.symbol = symbol)).map (·.grossValue) ++
    (unique.filter (·.symbol = symbol)).map (·.positionValue)

/-- The reasons the state gives. -/
def stateReasons (positions : List PositionRiskInput) : List String :=
  (if (openPositions positions).any (·.missingStop) then ["OPEN_RISK_UNAVAILABLE"] else []) ++
  (if (openPositions positions).any (·.position.quantity < 0) then
    ["UNSUPPORTED_SHORT_POSITION"] else [])

/-- The state of one list of distinct reservations. -/
def stateOf (accountSnapshotId : String) (account : Account) (targetSymbol : String)
    (positions : List PositionRiskInput) (unique : List RiskReservation) (bps : ℕ) :
    PortfolioRiskState where
  accountSnapshotId := accountSnapshotId
  targetSymbol := targetSymbol
  equity := account.equity
  buyingPower := max 0 (sub (buyingPowerBase account bps) ((newlyCommitted unique).foldl add 0))
  committedOpenRisk := (openRisks positions unique).foldl add 0
  committedGrossExposure := (grossValues positions unique).foldl add 0
  committedSymbolMarketValue := (symbolValues targetSymbol positions unique).foldl add 0
  committedPositionCount := (committedSymbols positions unique).length
  isNewPosition := decide (targetSymbol ∉ committedSymbols positions unique)
  openRiskAvailable := (stateReasons positions).isEmpty
  reasons := stateReasons positions

theorem build_ok {accountSnapshotId : String} {account : Account} {targetSymbol : String}
    {positions : List PositionRiskInput} {bps : ℕ} {st : PortfolioRiskState} :
    buildPortfolioRiskState accountSnapshotId account targetSymbol positions reservations bps
        = .ok st ↔ bps < 10000 ∧ (positions.map (·.position.symbol)).Nodup ∧
        ∃ unique, deduplicateReservations reservations = .ok unique ∧
          st = stateOf accountSnapshotId account targetSymbol positions unique bps := by
  unfold buildPortfolioRiskState; by_cases hbps : bps < 10000
  · by_cases hsymbols : (positions.map (·.position.symbol)).Nodup
    · simp only [hbps, hsymbols, not_true, if_false, true_and]
      rw [Txn.except_bind_ok]; constructor
      · rintro ⟨unique, hu, h⟩; exact ⟨unique, hu, (Except.ok.inj h).symm⟩
      · rintro ⟨unique, hu, rfl⟩; exact ⟨unique, hu, rfl⟩
    · simp only [hbps, hsymbols, not_true, not_false_iff, if_true, if_false, false_and, and_false]
      exact iff_of_false (fun h => by cases h) not_false
  · simp only [hbps, not_false_iff, if_true, false_and]
    exact iff_of_false (fun h => by cases h) not_false

/-! ## Sizing -/

theorem foldl_min_iff {l : List ℚ} {a b : ℚ} : l.foldl min a = b ↔
    b ∈ a :: l ∧ ∀ x ∈ a :: l, b ≤ x := by
  rw [← List.min?_eq_some_iff, List.min?_cons', Option.some.injEq]

variable {config : StrategyConfig} {caps : SizingCaps}

theorem minimumCap_le {c : SizingCapName × ℚ}
    (h : c ∈ orderedCaps config caps) : minimumCap config caps ≤ c.2 :=
  (foldl_min_iff.1 rfl).2 c.2 (List.mem_cons_of_mem _ (List.mem_map_of_mem h))

/-- Quantities are rounded down, to a multiple of `10⁻⁶`. -/
theorem quantize_ok {x q : ℚ} (h : quantizeQuantity x config = .ok q) : q ≤ x ∧ OnGrid 6 q := by
  unfold quantizeQuantity at h; split at h
  · simp only at h; split at h
    · cases h; refine ⟨?_, ⌊x * 10 ^ 6⌋, rfl⟩; rw [div_le_iff₀ (by positivity)]
      exact Int.floor_le _
    · cases h
  · cases h; refine ⟨Int.floor_le x, ⌊x⌋ * 10 ^ 6, ?_⟩; push_cast
    exact (mul_div_cancel_right₀ _ (by norm_num)).symm

/-- The four portfolio caps of an approval, each positive and not exceeded. -/
structure CapsAllow (caps : SizingCaps) (quantity : ℚ) : Prop where
  portfolioOpenRisk : 0 < caps.portfolioOpenRisk ∧ quantity ≤ caps.portfolioOpenRisk
  positionValue : 0 < caps.positionValue ∧ quantity ≤ caps.positionValue
  grossExposure : 0 < caps.grossExposure ∧ quantity ≤ caps.grossExposure
  buyingPower : 0 < caps.buyingPower ∧ quantity ≤ caps.buyingPower

variable {request : EntrySizingRequest} {a : RiskApproval}

theorem sizeWithCaps_approval (h : sizeWithCaps request config caps = .ok (.approval a)) :
    OnGrid 6 a.quantity ∧ CapsAllow caps a.quantity ∧
      (a.quantity < 1 → 1 ≤ mul a.quantity request.referencePrice) := by
  unfold sizeWithCaps at h; obtain ⟨quantity, hq, h⟩ := Txn.except_bind_ok.1 h
  obtain ⟨hle, hgrid⟩ := quantize_ok hq; split at h
  · cases h
  rename_i hreasons; cases h
  rw [not_not, quantityReasons, List.append_eq_nil_iff] at hreasons
  obtain ⟨hcaps, hsize⟩ := hreasons
  have hpos : ∀ c ∈ orderedCaps config caps, 0 < c.2 ∧ quantity ≤ c.2 := by
    intro c hc; refine ⟨?_, hle.trans (minimumCap_le hc)⟩; by_contra hneg
    have hin : c ∈ (orderedCaps config caps).filter fun c => c.2 ≤ 0 :=
      List.mem_filter.2 ⟨hc, by simpa using hneg⟩
    rw [List.map_eq_nil_iff.1 hcaps] at hin; cases hin
  refine ⟨hgrid, ⟨hpos (.portfolioOpenRisk, _) (by simp [orderedCaps]),
    hpos (.positionValue, _) (by simp [orderedCaps]),
    hpos (.grossExposure, _) (by simp [orderedCaps]),
    hpos (.buyingPower, _) (by simp [orderedCaps])⟩, ?_⟩
  intro hone; split at hsize
  · split at hsize
    · cases hsize
    · rename_i hnotional; exact not_lt.1 hnotional
  · cases hsize

theorem sizeEntry_approval (h : sizeEntry request config = .ok (.approval a)) :
    invalidInputReasons request = [] ∧ (request.portfolio.isNewPosition = true →
        request.portfolio.committedPositionCount < config.maxPositions) ∧ OnGrid 6 a.quantity ∧
      (a.quantity < 1 → 1 ≤ mul a.quantity request.referencePrice) ∧
      ∃ volatility, CapsAllow (sizingCaps request config volatility) a.quantity := by
  unfold sizeEntry at h; simp only at h; split at h
  · cases h
  rename_i hvalid; split at h
  · cases h
  split at h
  · cases h
  rename_i hslots; split at h
  · cases h
  have hfree : request.portfolio.isNewPosition = true →
      request.portfolio.committedPositionCount < config.maxPositions := by
    intro hnew; by_contra hfull; exact hslots ⟨hnew, not_lt.1 hfull⟩
  split at h
  · obtain ⟨hgrid, hcaps, hone⟩ := sizeWithCaps_approval h
    exact ⟨not_not.1 hvalid, hfree, hgrid, hone, none, hcaps⟩
  split at h
  · cases h
  split at h
  · cases h
  rename_i volatility _ _
  obtain ⟨hgrid, hcaps, hone⟩ := sizeWithCaps_approval h
  exact ⟨not_not.1 hvalid, hfree, hgrid, hone, some volatility, hcaps⟩

theorem fieldReasons_nil (h : invalidInputReasons request = []) : fieldReasons request = [] := by
  unfold invalidInputReasons at h; split at h
  · exact absurd h (by simp)
  · exact h

theorem valid_prices (h : invalidInputReasons request = []) :
    0 < request.portfolio.equity ∧ 0 < request.referencePrice ∧ 0 < request.stopDistance := by
  have hfields := fieldReasons_nil h
  simp only [fieldReasons, List.append_eq_nil_iff, ite_eq_right_iff, reduceCtorEq, imp_false,
    not_le] at hfields
  obtain ⟨⟨⟨⟨⟨⟨⟨hequity, hprice⟩, hstop⟩, -⟩, -⟩, -⟩, -⟩, -⟩ := hfields
  exact ⟨hequity, hprice, hstop⟩

end Quantbot.L3.Risk
