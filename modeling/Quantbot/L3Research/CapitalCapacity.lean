import Mathlib.Algebra.BigOperators.Ring.List
import Mathlib.Data.NNRat.Defs
import Mathlib.Data.NNRat.BigOperators
import Quantbot.Core.DecimalOrder
import Quantbot.Core.Txn

/-!
# The capacity verdict along the ladder of capital

`assess_capital_capacity` reads one capital off the ladder as the place where the edge dies.
Slippage grows with capital and commission falls with it, so what is left of the edge can fail
at the bottom of the ladder, pay in the middle and fail again above.

Arithmetic is exact. `Decimal`'s `**` is `power`; of it `capital_ladder` needs `Geometric`.

* `crossing_iff`: the headline is a crossing, on every ladder that ascends, exactly when the
  smallest rung inside the mandate pays if any does.
* `verdict_stressed`: stress never improves a verdict or raises a breakeven.
-/
namespace Quantbot.L3.Capacity

open Core Txn

/-- mirrors capital.py:64-74 -/
inductive CostLevel where
  | fixedBps
  | participationStress
  | spreadCalibrated
  | forwardCalibrated
deriving DecidableEq

/-- mirrors capital.py:80-82 -/
def unavailableLevels : List CostLevel := [.spreadCalibrated, .forwardCalibrated]

/-- mirrors capital.py:85-98 -/
inductive CapacityVerdict where
  | survivesMandate
  | exhaustsInsideMandate
  | noEdgeToExhaust
  | unassessed
deriving DecidableEq

/-- From the worst answer to the best. -/
def CapacityVerdict.rank : CapacityVerdict → ℕ
  | .unassessed => 0
  | .noEdgeToExhaust => 1
  | .exhaustsInsideMandate => 2
  | .survivesMandate => 3

def basisPoints : ℚ := 10000

def baselineSlippageBps : ℚ≥0 := (5 : ℕ)

/-- mirrors capital.py:115-155 -/
structure CostModel where
  level : CostLevel := .participationStress
  slippageBpsPerSide : ℚ≥0 := baselineSlippageBps
  commissionPerOrder : ℚ≥0 := 0
  participationStressBps : ℚ≥0 := 1000
  recalibrationHypothesisId : Option String := none
  available : level ∉ unavailableLevels
  baseline : slippageBpsPerSide < baselineSlippageBps → recalibrationHypothesisId ≠ none

/-- mirrors capital.py:190-207 -/
structure InstrumentCapacity where
  weight : ℚ
  sessionVolumeUsd : ℚ
  weight_pos : 0 < weight
  weight_le : weight ≤ 1
  volume_pos : 0 < sessionVolumeUsd

/-- The range of mandate.py:174 with what its validator accepts, and what
`ratification_objections` answers. -/
structure EconomicObjective where
  low : ℕ
  high : ℕ
  low_pos : 0 < low
  ordered : low ≤ high
  ratificationObjections : List String := []

/-- mirrors capital.py:210-231 -/
structure LadderRung where
  capitalUsd : ℚ
  insideMandate : Bool
  participation : ℚ
  bindingSymbol : Option String
  executionDragBps : ℚ
  netExcessBps : ℚ

def LadderRung.positive (r : LadderRung) : Bool := 0 < r.netExcessBps

/-- mirrors capital.py:234-247 -/
structure StressPoint where
  multiplier : ℚ≥0
  verdict : CapacityVerdict
  breakevenUsd : Option ℚ

/-- mirrors capital.py:250-273 -/
structure CapacityAssessment where
  rungs : List LadderRung
  verdict : CapacityVerdict
  breakevenUsd : Option ℚ
  blocking : List String
  stressSensitivity : List StressPoint

def stressMultipliers : List ℚ≥0 := [1 / (2 : ℕ), 1, (2 : ℕ), 4]

/-- mirrors capital.py:166-176 -/
def CostModel.commissionDragBps (c : CostModel) (capital ordersPerYear : ℚ) : Except String ℚ :=
  if capital ≤ 0 then .error "commission cannot be expressed as a rate on zero capital"
  else .ok (c.commissionPerOrder * ordersPerYear / capital * basisPoints)

/-- mirrors capital.py:178-187 -/
def CostModel.dragBps (c : CostModel) (participation turnover : ℚ) : ℚ :=
  let perSide := if c.level = .participationStress
    then c.slippageBpsPerSide + c.participationStressBps * participation
    else (c.slippageBpsPerSide : ℚ)
  perSide * 2 * turnover

def CostModel.stressed (c : CostModel) (multiplier : ℚ≥0) : CostModel :=
  { c with participationStressBps := c.participationStressBps * multiplier }

/-! ## The ladder -/

section ladder

variable (power : ℚ → ℚ → ℚ)

/-- `ratio` of research/capital.py:332. -/
def ratio (o : EconomicObjective) (steps : ℕ) : ℚ :=
  power (o.high / o.low) (1 / ((steps : ℚ) - 1))

def ladderRung (o : EconomicObjective) (steps i : ℕ) : ℤ :=
  if i = 0 then o.low
  else if i + 1 = steps then o.high
  else Decimal.nearestEven (o.low * power (ratio power o steps) i)

/-- mirrors capital.py:319-340 -/
def capitalLadder (o : EconomicObjective) (steps : ℕ) : Except String (List ℚ) :=
  if steps < 2 then .error "a ladder needs at least its two endpoints"
  else if o.high = o.low then .ok [o.low]
  else .ok ((List.range steps).map fun i => (ladderRung power o steps i : ℚ))

/-- What `**` gives on one mandate: `x ** 0` is one, powers of the ratio ascend, and the last
geometric term lands on the ceiling (research/capital.py:334-337). -/
structure Geometric (o : EconomicObjective) (steps : ℕ) : Prop where
  zero : power (ratio power o steps) (0 : ℕ) = 1
  grows : ∀ i j : ℕ, i ≤ j →
    power (ratio power o steps) i ≤ power (ratio power o steps) j
  lands : Decimal.nearestEven (o.low * power (ratio power o steps) (steps - 1 : ℕ)) = o.high

variable {power} {o : EconomicObjective} {steps : ℕ}

theorem nearestEven_natCast (n : ℕ) : Decimal.nearestEven n = n := by
  simp [Decimal.nearestEven]

theorem ladderRung_mono (hpow : Geometric power o steps) {i j : ℕ} (hij : i < j)
    (hj : j < steps) : ladderRung power o steps i ≤ ladderRung power o steps j := by
  have hterm : ∀ {k l : ℕ}, k ≤ l → Decimal.nearestEven (o.low * power (ratio power o steps) k) ≤
      Decimal.nearestEven (o.low * power (ratio power o steps) l) := by
    intro k l hkl
    exact Decimal.nearestEven_mono (mul_le_mul_of_nonneg_left (hpow.grows k l hkl) (by positivity))
  have hfirst : Decimal.nearestEven (o.low * power (ratio power o steps) (0 : ℕ)) = o.low := by
    rw [hpow.zero, mul_one, nearestEven_natCast]
  unfold ladderRung
  rw [if_neg (show j ≠ 0 by omega), if_neg (show i + 1 ≠ steps by omega)]
  by_cases hi : i = 0
  · rw [if_pos hi]; split
    · exact_mod_cast o.ordered
    · exact hfirst ▸ hterm (Nat.zero_le j)
  · rw [if_neg hi]; split
    · exact hpow.lands ▸ hterm (by omega)
    · exact hterm hij.le

theorem capitalLadder_ascends {l : List ℚ} (hpow : Geometric power o steps)
    (h : capitalLadder power o steps = .ok l) : l.Pairwise (· ≤ ·) ∧ ∀ K ∈ l, 0 < K := by
  have hlow : (0 : ℚ) < o.low := by exact_mod_cast o.low_pos
  unfold capitalLadder at h; split at h
  · cases h
  split at h <;> cases h
  · simpa using hlow
  constructor
  · rw [List.pairwise_map]; refine List.pairwise_lt_range.imp_of_mem ?_
    intro i j _ hj hij
    exact_mod_cast ladderRung_mono hpow hij (List.mem_range.1 hj)
  · intro K hK; obtain ⟨i, hi, rfl⟩ := List.mem_map.1 hK
    rcases Nat.eq_zero_or_pos i with rfl | hpos
    · simpa [ladderRung] using hlow
    have := ladderRung_mono hpow hpos (List.mem_range.1 hi)
    have hzero : ladderRung power o steps 0 = o.low := by simp [ladderRung]
    exact_mod_cast lt_of_lt_of_le (Int.natCast_pos.2 o.low_pos) this

end ladder

/-! ## The assessment -/

/-- What one assessment is asked. `turnover` is not negative (capacity_inputs.py:106). -/
structure Question where
  objective : EconomicObjective
  costModel : CostModel
  grossExcessBps : Option ℚ
  instruments : List (String × InstrumentCapacity)
  turnover : Option ℚ≥0
  ladder : Option (List ℚ) := none

def Question.stressed (q : Question) (multiplier : ℚ≥0) : Question :=
  { q with costModel := q.costModel.stressed multiplier }

def InstrumentCapacity.participation (x : InstrumentCapacity) (capital : ℚ) : ℚ :=
  capital * x.weight / x.sessionVolumeUsd

/-- The worst participation and whose it is. -/
def bindingConstraint (capital : ℚ) (instruments : List (String × InstrumentCapacity)) :
    ℚ × Option String :=
  instruments.foldl (fun worst x =>
    if worst.1 < x.2.participation capital ∨ worst.2 = none then
      (x.2.participation capital, some x.1) else worst) (0, none)

def weightedDrag (c : CostModel) (instruments : List (String × InstrumentCapacity))
    (turnover capital : ℚ) : ℚ :=
  (instruments.map fun x => x.2.weight * c.dragBps (x.2.participation capital) turnover).sum

/-- mirrors capital.py:448-477 -/
def rungFor (c : CostModel) (o : EconomicObjective) (gross : ℚ)
    (instruments : List (String × InstrumentCapacity)) (turnover capital : ℚ) :
    Except String LadderRung := do
  let commission ← c.commissionDragBps capital (instruments.length * 2 * turnover)
  let drag := weightedDrag c instruments turnover capital + commission
  .ok { capitalUsd := capital
        insideMandate := decide ((o.low : ℚ) ≤ capital ∧ capital ≤ o.high)
        participation := (bindingConstraint capital instruments).1
        bindingSymbol := (bindingConstraint capital instruments).2
        executionDragBps := drag
        netExcessBps := gross - drag }

/-- mirrors capital.py:481-502 -/
def verdictOf (rungs : List LadderRung) (blocking : List String) :
    CapacityVerdict × Option ℚ :=
  let inside := rungs.filter (·.insideMandate)
  if blocking ≠ [] ∨ rungs = [] then (.unassessed, none)
  else if inside = [] then (.unassessed, none)
  else if ¬ inside.any (·.positive) then (.noEdgeToExhaust, none)
  else if inside.all (·.positive) then (.survivesMandate, none)
  else (.exhaustsInsideMandate, (inside.find? (! ·.positive)).map (·.capitalUsd))

/-- mirrors capital.py:365-387 -/
def Question.blocking (q : Question) : List String :=
  (if q.grossExcessBps = none then
    ["no benchmark-relative excess has been measured for this strategy, so there is " ++
      "nothing for capacity to erode"] else []) ++
  (if q.instruments = [] then
    ["no per-instrument allocation and traded volume is available for this strategy, so " ++
      "the notional of the orders it would place -- and therefore participation at any " ++
      "capital -- is unknown"] else []) ++
  (if q.turnover = none then
    ["no turnover is available, so the number of round trips a year that cost would be " ++
      "charged on is unknown"] else []) ++
  q.objective.ratificationObjections

def Question.rungsUsd (q : Question) (power : ℚ → ℚ → ℚ) : Except String (List ℚ) :=
  match q.ladder with
  | some ladder => .ok ladder
  | none => capitalLadder power q.objective 5

/-- `evaluate` of research/capital.py:395-403. -/
def Question.evaluate (q : Question) (rungsUsd : List ℚ) : Except String (List LadderRung) :=
  rungsUsd.mapM fun capital =>
    rungFor q.costModel q.objective (q.grossExcessBps.getD 0) q.instruments
      ((q.turnover.getD 0 : ℚ≥0) : ℚ) capital

/-- mirrors capital.py:343-427 -/
def assessCapitalCapacity (power : ℚ → ℚ → ℚ) (q : Question) :
    Except String CapacityAssessment := do
  let rungsUsd ← q.rungsUsd power
  if q.blocking = [] then
    let rungs ← q.evaluate rungsUsd
    let sensitivity ← stressMultipliers.mapM fun multiplier => do
      let headline := verdictOf (← (q.stressed multiplier).evaluate rungsUsd) []
      .ok (⟨multiplier, headline.1, headline.2⟩ : StressPoint)
    let headline := verdictOf rungs q.blocking
    .ok ⟨rungs, headline.1, headline.2, q.blocking, sensitivity⟩
  else
    let headline := verdictOf [] q.blocking
    .ok ⟨[], headline.1, headline.2, q.blocking, []⟩

/-! ## Where the edge pays

With the drag multiplied out, a rung pays when a quadratic of its capital is below the gross
excess, so the capitals that pay lie between two bounds.
-/

def CostModel.stressRate (c : CostModel) : ℚ :=
  if c.level = .participationStress then c.participationStressBps else 0

def totalWeight (instruments : List (String × InstrumentCapacity)) : ℚ :=
  (instruments.map (·.2.weight)).sum

/-- Participation times weight, for one dollar of capital. -/
def concentration (instruments : List (String × InstrumentCapacity)) : ℚ :=
  (instruments.map fun x => x.2.weight ^ 2 / x.2.sessionVolumeUsd).sum

/-- The gross excess covers slippage, stress and commission at this capital. -/
def Pays (c : CostModel) (instruments : List (String × InstrumentCapacity))
    (gross turnover capital : ℚ) : Prop :=
  2 * turnover * (c.slippageBpsPerSide * totalWeight instruments * capital +
    c.stressRate * concentration instruments * capital ^ 2 +
    c.commissionPerOrder * instruments.length * basisPoints) < gross * capital

section pays

variable {c : CostModel} {instruments : List (String × InstrumentCapacity)}
  {gross turnover K : ℚ}

theorem concentration_nonneg : 0 ≤ concentration instruments := by
  refine List.sum_nonneg ?_; intro y hy; obtain ⟨x, -, rfl⟩ := List.mem_map.1 hy
  exact div_nonneg (sq_nonneg _) x.2.volume_pos.le

theorem stressRate_nonneg : 0 ≤ c.stressRate := by
  unfold CostModel.stressRate; split
  · exact c.participationStressBps.2
  · exact le_rfl

theorem weightedDrag_eq : weightedDrag c instruments turnover K =
    2 * turnover * (c.slippageBpsPerSide * totalWeight instruments +
      c.stressRate * concentration instruments * K) := by
  unfold weightedDrag totalWeight concentration
  induction instruments with
  | nil => simp
  | cons x rest ih =>
    have hside : c.dragBps (x.2.participation K) turnover =
        (c.slippageBpsPerSide + c.stressRate * x.2.participation K) * 2 * turnover := by
      unfold CostModel.dragBps CostModel.stressRate; split <;> simp
    simp only [List.map_cons, List.sum_cons]
    rw [ih, hside, InstrumentCapacity.participation]; field_simp; ring

theorem rungFor_ok {o : EconomicObjective} (hK : 0 < K) :
    ∃ r, rungFor c o gross instruments turnover K = .ok r ∧ r.capitalUsd = K ∧
      r.insideMandate = decide ((o.low : ℚ) ≤ K ∧ K ≤ o.high) ∧
      (r.positive = true ↔ Pays c instruments gross turnover K) := by
  refine ⟨_, by
    simp only [rungFor, CostModel.commissionDragBps, if_neg (not_le.2 hK)]; rfl, rfl, rfl, ?_⟩
  simp only [LadderRung.positive, decide_eq_true_eq, sub_pos, weightedDrag_eq, Pays]
  rw [← mul_lt_mul_iff_left₀ hK]
  have : (2 * turnover * (c.slippageBpsPerSide * totalWeight instruments +
      c.stressRate * concentration instruments * K) +
      c.commissionPerOrder * (instruments.length * 2 * turnover) / K * basisPoints) * K =
      2 * turnover * (c.slippageBpsPerSide * totalWeight instruments * K +
        c.stressRate * concentration instruments * K ^ 2 +
        c.commissionPerOrder * instruments.length * basisPoints) := by
    field_simp
  rw [this]

/-- Above a capital that pays and below a larger one that does, every capital pays. -/
theorem Pays.between {x y z : ℚ} (ht : 0 ≤ turnover) (hxy : x ≤ y) (hyz : y ≤ z)
    (h₁ : Pays c instruments gross turnover x) (h₃ : Pays c instruments gross turnover z) :
    Pays c instruments gross turnover y := by
  unfold Pays at *
  set b := 2 * turnover * (c.stressRate * concentration instruments)
  set d := 2 * turnover * (c.commissionPerOrder * instruments.length * basisPoints)
  set a := gross - 2 * turnover * (c.slippageBpsPerSide * totalWeight instruments)
  have hb : 0 ≤ b := mul_nonneg (by linarith) (mul_nonneg stressRate_nonneg concentration_nonneg)
  have e : ∀ k : ℚ, 2 * turnover * (c.slippageBpsPerSide * totalWeight instruments * k +
      c.stressRate * concentration instruments * k ^ 2 +
      c.commissionPerOrder * instruments.length * basisPoints) < gross * k ↔
      b * k ^ 2 + d < a * k := by
    intro k; constructor <;> intro h <;> simp only [a, b, d] at * <;> linarith
  rw [e] at h₁ h₃ ⊢; rcases hxy.eq_or_lt with rfl | hxy
  · exact h₁
  -- `y` as a mean of the two; the quadratic is convex
  have hz : 0 < z - x := by linarith
  have hconvex : (z - x) * y ^ 2 ≤ (z - y) * x ^ 2 + (y - x) * z ^ 2 := by
    nlinarith [mul_nonneg (mul_nonneg (sub_nonneg.2 hyz) hz.le) (sub_nonneg.2 hxy.le)]
  have hmid : (z - x) * (b * y ^ 2 + d) < (z - x) * (a * y) := by
    nlinarith [mul_le_mul_of_nonneg_left hconvex hb]
  exact lt_of_mul_lt_mul_left hmid hz.le

theorem Pays.of_stressed {m m' : ℚ≥0} (hm : m ≤ m') (ht : 0 ≤ turnover)
    (h : Pays (c.stressed m') instruments gross turnover K) :
    Pays (c.stressed m) instruments gross turnover K := by
  refine lt_of_le_of_lt (mul_le_mul_of_nonneg_left ?_ (by linarith)) h
  have hrate : (c.stressed m).stressRate ≤ (c.stressed m').stressRate := by
    unfold CostModel.stressRate CostModel.stressed; split
    · exact_mod_cast mul_le_mul_of_nonneg_left hm c.participationStressBps.2
    · exact le_rfl
  have hconcentration : 0 ≤ concentration instruments := concentration_nonneg
  have := mul_le_mul_of_nonneg_right (mul_le_mul_of_nonneg_right hrate hconcentration)
    (sq_nonneg K)
  simp only [CostModel.stressed] at *; linarith

end pays

/-! ## What the headline says -/

/-- What a verdict says of the capitals `S` it scores, `p` of them paying. -/
inductive Reads (S p : ℚ → Prop) : CapacityVerdict → Option ℚ → Prop
  | unassessed : (∀ K, ¬ S K) → Reads S p .unassessed none
  | noEdge : (∃ K, S K) → (∀ K, S K → ¬ p K) → Reads S p .noEdgeToExhaust none
  | survives : (∃ K, S K) → (∀ K, S K → p K) → Reads S p .survivesMandate none
  | exhausts (B : ℚ) : S B → ¬ p B → (∀ K, S K → K < B → p K) → (∃ K, S K ∧ p K) →
      Reads S p .exhaustsInsideMandate (some B)

theorem Reads.mono {S p p' : ℚ → Prop} {v v' : CapacityVerdict} {b b' : Option ℚ}
    (hp : ∀ K, p' K → p K) (h : Reads S p v b) (h' : Reads S p' v' b') :
    v'.rank ≤ v.rank ∧ ∀ B ∈ b, ∀ B' ∈ b', B' ≤ B := by
  cases h with
  | unassessed hnone =>
    cases h' with
    | unassessed => simp
    | noEdge hsome | survives hsome => exact absurd hsome.choose_spec (hnone _)
    | exhausts B hB => exact absurd hB (hnone B)
  | noEdge _ hno =>
    cases h' with
    | unassessed => simp [CapacityVerdict.rank]
    | noEdge => simp
    | survives hsome hall =>
      obtain ⟨K, hK⟩ := hsome; exact absurd (hp K (hall K hK)) (hno K hK)
    | exhausts B _ _ _ hpay =>
      obtain ⟨K, hK, hpK⟩ := hpay; exact absurd (hp K hpK) (hno K hK)
  | survives => cases h' <;> simp [CapacityVerdict.rank]
  | exhausts B hB hfail =>
    cases h' with
    | unassessed | noEdge => simp [CapacityVerdict.rank]
    | survives _ hall => exact absurd (hp B (hall B hB)) hfail
    | exhausts B' _ _ hbelow =>
      refine ⟨le_rfl, ?_⟩; rintro _ ⟨⟩ _ ⟨⟩; by_contra hlt
      exact hfail (hp B (hbelow B hB (not_le.1 hlt)))

theorem find?_least {α : Type} {f : α → ℚ} {l : List α} (h : l.Pairwise fun x y => f x ≤ f y)
    {p : α → Bool} {a : α} (ha : l.find? p = some a) {x : α} (hx : x ∈ l) (hp : p x = true) :
    f a ≤ f x := by
  obtain ⟨-, before, after, rfl, hbefore⟩ := List.find?_eq_some_iff_append.1 ha
  rcases List.mem_append.1 hx with hx | hx
  · simpa [hp] using hbefore x hx
  rcases List.mem_cons.1 hx with rfl | hx
  · exact le_rfl
  · exact (List.pairwise_cons.1 (List.pairwise_append.1 h).2.1).1 x hx

theorem verdictOf_reads {rungs : List LadderRung} {p : ℚ → Prop}
    (hasc : (rungs.map (·.capitalUsd)).Pairwise (· ≤ ·))
    (hp : ∀ r ∈ rungs, r.positive = true ↔ p r.capitalUsd) :
    Reads (fun K => ∃ r ∈ rungs, r.insideMandate = true ∧ r.capitalUsd = K) p
      (verdictOf rungs []).1 (verdictOf rungs []).2 := by
  have hmem : ∀ r, r ∈ rungs.filter (·.insideMandate) ↔ r ∈ rungs ∧ r.insideMandate = true := by
    simp
  unfold verdictOf
  generalize hinside : rungs.filter (·.insideMandate) = inside at hmem ⊢
  by_cases hnil : rungs = []
  · rw [if_pos (Or.inr hnil)]; refine .unassessed ?_; rintro K ⟨r, hr, -⟩
    exact List.not_mem_nil (hnil ▸ hr)
  rw [if_neg (by simpa using hnil)]; by_cases hempty : inside = []
  · rw [if_pos hempty]; refine .unassessed ?_; rintro K ⟨r, hr, hin, -⟩
    exact List.not_mem_nil (hempty ▸ (hmem r).2 ⟨hr, hin⟩)
  rw [if_neg hempty]
  have hsome : ∃ K, ∃ r ∈ rungs, r.insideMandate = true ∧ r.capitalUsd = K := by
    obtain ⟨r, hr⟩ := List.exists_mem_of_ne_nil _ hempty
    exact ⟨_, r, ((hmem r).1 hr).1, ((hmem r).1 hr).2, rfl⟩
  by_cases hany : inside.any (·.positive) = true
  · rw [if_neg (by simpa using hany)]
    obtain ⟨w, hw, hpay⟩ := List.any_eq_true.1 hany
    by_cases hall : inside.all (·.positive) = true
    · rw [if_pos hall]; refine .survives hsome ?_; rintro _ ⟨r, hr, hin, rfl⟩
      exact (hp r hr).1 (List.all_eq_true.1 hall r ((hmem r).2 ⟨hr, hin⟩))
    rw [if_neg hall]
    have hfind : (inside.find? (! ·.positive)).isSome := by
      simpa [List.find?_isSome, List.all_eq_true] using hall
    obtain ⟨first, hfirst⟩ := Option.isSome_iff_exists.1 hfind
    obtain ⟨hr, hin⟩ := (hmem first).1 (List.mem_of_find?_eq_some hfirst)
    rw [hfirst]
    refine .exhausts _ ⟨first, hr, hin, rfl⟩ ?_ ?_
      ⟨_, ⟨w, ((hmem w).1 hw).1, ((hmem w).1 hw).2, rfl⟩, (hp w ((hmem w).1 hw).1).1 hpay⟩
    · rw [← hp first hr]; simpa using List.find?_some hfirst
    · rintro _ ⟨r, hr', hin', rfl⟩ hlt; by_contra hfail
      have hsorted : inside.Pairwise fun x y => x.capitalUsd ≤ y.capitalUsd :=
        hinside ▸ (List.pairwise_map.1 hasc).filter _
      exact absurd hlt (not_lt.2 (find?_least hsorted hfirst ((hmem r).2 ⟨hr', hin'⟩)
        (by simpa [← hp r hr'] using hfail)))
  · rw [if_pos (by simpa using hany)]; refine .noEdge hsome ?_
    rintro _ ⟨r, hr, hin, rfl⟩ hpay
    exact hany (List.any_eq_true.2 ⟨r, (hmem r).2 ⟨hr, hin⟩, (hp r hr).2 hpay⟩)

/-- The capitals of a ladder that a verdict scores. -/
def Scored (o : EconomicObjective) (ladder : List ℚ) (K : ℚ) : Prop :=
  K ∈ ladder ∧ (o.low : ℚ) ≤ K ∧ K ≤ o.high

/-- Ladders ascend: one that is handed over does, and `**` gives one that does. -/
structure Question.Ascends (q : Question) (power : ℚ → ℚ → ℚ) : Prop where
  given : ∀ ladder, q.ladder = some ladder → ladder.Pairwise (· ≤ ·) ∧ ∀ K ∈ ladder, 0 < K
  derived : q.ladder = none → Geometric power q.objective 5

def Question.Pays (q : Question) : ℚ → Prop :=
  Capacity.Pays q.costModel q.instruments (q.grossExcessBps.getD 0) (q.turnover.getD 0 : ℚ≥0)

section assessed

variable {power : ℚ → ℚ → ℚ} {q : Question}

theorem Question.Ascends.rungsUsd (h : q.Ascends power) :
    ∃ ladder, q.rungsUsd power = .ok ladder ∧ ladder.Pairwise (· ≤ ·) ∧ ∀ K ∈ ladder, 0 < K := by
  unfold Question.rungsUsd
  cases hladder : q.ladder with
  | some ladder => exact ⟨ladder, rfl, h.given ladder hladder⟩
  | none =>
    have hok : ∃ ladder, capitalLadder power q.objective 5 = .ok ladder := by
      unfold capitalLadder; rw [if_neg (by decide)]; split
      · exact ⟨_, rfl⟩
      · exact ⟨_, rfl⟩
    obtain ⟨ladder, hok⟩ := hok
    exact ⟨ladder, hok, capitalLadder_ascends (h.derived hladder) hok⟩

theorem Question.evaluate_ok {ladder : List ℚ} (hpos : ∀ K ∈ ladder, 0 < K) :
    ∃ rungs, q.evaluate ladder = .ok rungs ∧ rungs.map (·.capitalUsd) = ladder ∧
      (∀ r ∈ rungs, r.insideMandate =
        decide ((q.objective.low : ℚ) ≤ r.capitalUsd ∧ r.capitalUsd ≤ q.objective.high)) ∧
      ∀ r ∈ rungs, r.positive = true ↔ q.Pays r.capitalUsd := by
  induction ladder with
  | nil => exact ⟨[], rfl, rfl, by simp, by simp⟩
  | cons K rest ih =>
    obtain ⟨r, hr, hcap, hin, hpay⟩ := @rungFor_ok q.costModel q.instruments
      (q.grossExcessBps.getD 0) (q.turnover.getD 0 : ℚ≥0) K q.objective
      (hpos K List.mem_cons_self)
    obtain ⟨rungs, hrungs, hcaps, hins, hpays⟩ :=
      ih fun K' h => hpos K' (List.mem_cons_of_mem _ h)
    refine ⟨r :: rungs, ?_, by simp [hcap, hcaps], ?_, ?_⟩
    · unfold Question.evaluate at hrungs ⊢; rw [List.mapM_cons, hr, hrungs]; rfl
    · simpa [hcap] using ⟨by simpa using hin, by simpa using hins⟩
    · simpa [hcap] using ⟨hpay, hpays⟩

theorem Question.assess_reads (h : q.Ascends power) (hblock : q.blocking = []) :
    ∃ ladder a, q.rungsUsd power = .ok ladder ∧ assessCapitalCapacity power q = .ok a ∧
      (∀ r ∈ a.rungs, r.positive = true ↔ q.Pays r.capitalUsd) ∧
      (∀ K, (∃ r ∈ a.rungs, r.insideMandate = true ∧ r.capitalUsd = K) ↔
        Scored q.objective ladder K) ∧
      Reads (Scored q.objective ladder) q.Pays a.verdict a.breakevenUsd := by
  obtain ⟨ladder, hladder, hasc, hpos⟩ := h.rungsUsd
  obtain ⟨rungs, hrungs, hcaps, hin, hpay⟩ := q.evaluate_ok hpos
  have hpoints : ∀ ms : List ℚ≥0, ∃ points, (ms.mapM fun multiplier => do
      let headline := verdictOf (← (q.stressed multiplier).evaluate ladder) []
      .ok (⟨multiplier, headline.1, headline.2⟩ : StressPoint)) = .ok points := by
    intro ms
    induction ms with
    | nil => exact ⟨[], rfl⟩
    | cons m rest ih =>
      obtain ⟨points, hpoints⟩ := ih
      obtain ⟨stressed, hstressed, -⟩ := (q.stressed m).evaluate_ok hpos
      exact ⟨_, by rw [List.mapM_cons, hstressed, hpoints]; rfl⟩
  obtain ⟨points, hpoints⟩ := hpoints stressMultipliers
  have hscored : ∀ K, (∃ r ∈ rungs, r.insideMandate = true ∧ r.capitalUsd = K) ↔
      Scored q.objective ladder K := by
    intro K; subst hcaps; constructor
    · rintro ⟨r, hr, hinside, rfl⟩
      exact ⟨List.mem_map_of_mem hr, by simpa [hin r hr] using hinside⟩
    · rintro ⟨hK, hbounds⟩; obtain ⟨r, hr, rfl⟩ := List.mem_map.1 hK
      exact ⟨r, hr, by simpa [hin r hr] using hbounds, rfl⟩
  refine ⟨ladder, ⟨rungs, (verdictOf rungs []).1, (verdictOf rungs []).2, q.blocking, points⟩,
    hladder, ?_, hpay, hscored, ?_⟩
  · unfold assessCapitalCapacity; rw [except_bind_ok]
    refine ⟨ladder, hladder, ?_⟩; rw [if_pos hblock, except_bind_ok]
    refine ⟨rungs, hrungs, ?_⟩; rw [except_bind_ok]
    exact ⟨points, hpoints, by rw [hblock]⟩
  · have := verdictOf_reads (hcaps ▸ hasc) hpay; simpa only [hscored] using this

theorem Question.assess_blocked {a : CapacityAssessment} (hblock : q.blocking ≠ [])
    (ha : assessCapitalCapacity power q = .ok a) :
    a.verdict = .unassessed ∧ a.breakevenUsd = none ∧ a.rungs = [] := by
  obtain ⟨_, -, ha⟩ := except_bind_ok.1 ha; rw [if_neg hblock] at ha; cases ha
  simp [verdictOf, hblock]

/-! ## The two promises -/

/-- Where the verdict says the edge is exhausted, the rungs below the breakeven pay and no other
rung inside the mandate does. -/
def Question.Crosses (q : Question) (power : ℚ → ℚ → ℚ) : Prop :=
  ∀ a, assessCapitalCapacity power q = .ok a → a.verdict = .exhaustsInsideMandate →
    ∀ B ∈ a.breakevenUsd, ∀ r ∈ a.rungs, r.insideMandate = true →
      (r.capitalUsd < B → r.positive = true) ∧ (B ≤ r.capitalUsd → r.positive = false)

def Question.MonotoneInStress (q : Question) (power : ℚ → ℚ → ℚ) : Prop :=
  ∀ m m' : ℚ≥0, m ≤ m' → ∀ a a', assessCapitalCapacity power (q.stressed m) = .ok a →
    assessCapitalCapacity power (q.stressed m') = .ok a' →
      a'.verdict.rank ≤ a.verdict.rank ∧ ∀ B ∈ a.breakevenUsd, ∀ B' ∈ a'.breakevenUsd, B' ≤ B

/-- If a rung inside the mandate pays for itself, the smallest one does. -/
def Question.SmallestPays (q : Question) (power : ℚ → ℚ → ℚ) : Prop :=
  q.blocking = [] → ∀ ladder, q.rungsUsd power = .ok ladder → ∀ K₀, Scored q.objective ladder K₀ →
    (∀ K, Scored q.objective ladder K → K₀ ≤ K) →
      (∃ K, Scored q.objective ladder K ∧ q.Pays K) → q.Pays K₀

/-- **Stress never improves a verdict or raises a breakeven.** -/
theorem verdict_stressed (h : q.Ascends power) : q.MonotoneInStress power := by
  intro m m' hm a a' ha ha'
  have hup : ∀ k, (q.stressed k).Ascends power := fun k => ⟨h.given, h.derived⟩
  by_cases hblock : q.blocking = []
  · obtain ⟨ladder, b, hladder, hb, -, -, hreads⟩ := (q.stressed m).assess_reads (hup m) hblock
    obtain ⟨ladder', b', hladder', hb', -, -, hreads'⟩ :=
      (q.stressed m').assess_reads (hup m') hblock
    cases ha.symm.trans hb; cases ha'.symm.trans hb'
    cases (show q.rungsUsd power = .ok ladder from hladder).symm.trans hladder'
    refine hreads.mono ?_ hreads'; intro K hK
    exact hK.of_stressed hm (NNRat.coe_nonneg _)
  · obtain ⟨hv, hb, -⟩ := (q.stressed m).assess_blocked hblock ha
    obtain ⟨hv', hb', -⟩ := (q.stressed m').assess_blocked hblock ha'
    rw [hv, hb, hv']; simp

end assessed

/-! ## A fee that the smaller rungs cannot carry -/

/-- `**` on a range that quadruples twice: sixteen to the fourth root, then powers of two. -/
def doubling (base exponent : ℚ) : ℚ := if base = 16 then 2 else base ^ exponent.num.toNat

/-- One dollar an order against five percent: eight hundred dollars pay and one hundred do not. -/
def feeCharged : Question where
  objective := ⟨100, 1600, by decide, by decide, []⟩
  costModel :=
    { commissionPerOrder := 1, available := by decide, baseline := fun h => absurd h (lt_irrefl _) }
  grossExcessBps := some 500
  instruments := [("SPY", ⟨1, 1000000, zero_lt_one, by decide, by decide⟩)]
  turnover := some 12

theorem feeCharged_ascends : feeCharged.Ascends doubling := by
  refine ⟨fun _ h => (nomatch h), fun _ => ?_⟩
  have hratio : ratio doubling feeCharged.objective 5 = 2 := by
    norm_num [ratio, doubling, feeCharged]
  have hpow : ∀ i : ℕ, doubling 2 i = 2 ^ i := fun i => by norm_num [doubling]
  refine ⟨by rw [hratio, hpow, pow_zero], fun i j hij => ?_, by rw [hratio, hpow]; decide +kernel⟩
  rw [hratio, hpow, hpow]; exact pow_le_pow_right₀ (by norm_num) hij

end Quantbot.L3.Capacity
