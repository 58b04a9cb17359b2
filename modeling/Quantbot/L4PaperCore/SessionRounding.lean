import Quantbot.Core.DecimalSteps
import Quantbot.L4PaperCore.SessionOrders

/-!
# Session capital without rounding errors

The 28 digits of the decimal context are enough while the amounts of a session are on one
grid and their sum has 27 digits on it (`Fitting`): every intermediate result is then the exact
one, and the reconstruction computed is the one meant (`reconstruct_exact`).
-/
namespace Quantbot.L4.SessionCapital

open Core L1 Txn Decimal

/-! ## Sizes -/

/-- What a row adds at most to any of the sums. -/
def weight (row : ActivityRow) : ℚ :=
  1 + ((fillFromPayload row).elim 0 fun f => f.quantity + f.quantity * f.price) +
    |row.netAmount.finite?.getD 0|

def size (origin proof : ReconciliationProof) (rows : List ActivityRow) : ℚ :=
  1 + |origin.account.cash| + |proof.account.cash| +
    (origin.actualQuantities.map fun p => |p.2|).sum + (rows.map weight).sum

/-- The amounts of a session are multiples of `10⁻ᵏ`, and together they have 27 digits. -/
structure Fitting (k : ℕ) (origin proof : ReconciliationProof) (rows : List ActivityRow) :
    Prop where
  places : 2 ≤ k
  opening : OnGrid k origin.account.cash
  observed : OnGrid k proof.account.cash
  held : ∀ p ∈ origin.actualQuantities, OnGrid k p.2
  filled : ∀ row ∈ rows, ∀ f, fillFromPayload row = some f →
    OnGrid k f.quantity ∧ OnGrid k (f.quantity * f.price)
  amounts : ∀ row ∈ rows, ∀ x, row.netAmount = .finite x → OnGrid k x
  small : size origin proof rows * 10 ^ k < 10 ^ 27

variable {origin proof : ReconciliationProof}

theorem Fitting.perm {k : ℕ} {rows rows' : List ActivityRow}
    (h : Fitting k origin proof rows) (hp : rows.Perm rows') : Fitting k origin proof rows' where
  places := h.places
  opening := h.opening
  observed := h.observed
  held := h.held
  filled row hrow := h.filled row (hp.mem_iff.2 hrow)
  amounts row hrow := h.amounts row (hp.mem_iff.2 hrow)
  small := by
    have hsize : size origin proof rows' = size origin proof rows := by
      unfold size
      rw [(hp.map weight).sum_eq]
    rw [hsize]
    exact h.small

theorem one_le_weight (row : ActivityRow) : 1 ≤ weight row := by
  unfold weight; have habs := abs_nonneg (row.netAmount.finite?.getD 0)
  cases fillFromPayload row with
  | none =>
    rw [Option.elim_none]; linarith
  | some f =>
    have hq := f.quantity_pos; have hv := mul_pos hq f.price_pos
    rw [Option.elim_some]; linarith

theorem fill_le_weight {row : ActivityRow} {f : Fill} (h : fillFromPayload row = some f) :
    1 + (f.quantity + f.quantity * f.price) ≤ weight row := by
  unfold weight; rw [h, Option.elim_some]
  linarith [abs_nonneg (row.netAmount.finite?.getD 0)]

theorem amount_le_weight {row : ActivityRow} {x : ℚ} (h : row.netAmount = .finite x) :
    |x| ≤ weight row := by
  unfold weight; rw [h]; show |x| ≤ 1 + _ + |x|
  cases fillFromPayload row with
  | none =>
    rw [Option.elim_none]; linarith
  | some f =>
    have hq := f.quantity_pos; have hv := mul_pos hq f.price_pos
    rw [Option.elim_some]; linarith

variable {k : ℕ} {B C x y : ℚ}

theorem decimal_add (hx : Sized k B x) (hy : Sized k C y) (h : (B + C) * 10 ^ k < 10 ^ 28) :
    Arith.decimal.add x y = Arith.exact.add x y := hx.add_eq hy h

theorem decimal_sub (hx : Sized k B x) (hy : Sized k C y) (h : (B + C) * 10 ^ k < 10 ^ 28) :
    Arith.decimal.sub x y = Arith.exact.sub x y := hx.sub_eq hy h

theorem sized_sign (side : OrderSide) (h : Sized k B x) : Sized k B (sign side * x) := by
  cases side with
  | buy =>
    show Sized k B (1 * x); rwa [one_mul]
  | sell =>
    show Sized k B (-1 * x); rw [neg_one_mul]; exact h.neg

theorem decimal_sign (side : OrderSide) (h : Sized k B x) (hB : B * 10 ^ k < 10 ^ 28) :
    Arith.decimal.mul (sign side) x = Arith.exact.mul (sign side) x := (sized_sign side h).round hB

theorem decimal_value (side : OrderSide) (h : Sized k B (x * y)) (hB : B * 10 ^ k < 10 ^ 28) :
    Arith.decimal.mul (sign side * x) y = Arith.exact.mul (sign side * x) y := by
  have hsized := sized_sign side h; rw [← mul_assoc] at hsized
  exact hsized.round hB

/-! ## Reading the rows -/

def executionWeight (e : Execution) : ℚ := 1 + (e.fill.quantity + value e)

/-- The sums of a tally are at most `B`. -/
structure Held (k : ℕ) (B : ℚ) (t : Tally) : Prop where
  cash : Sized k B t.expectedCash
  quantities : ∀ s, Sized k B (t.quantities.value s)
  grid : ∀ e ∈ t.executions, OnGrid k e.fill.quantity ∧ OnGrid k (value e)
  executions : (t.executions.map executionWeight).sum ≤ B

variable {capturedAt sessionDate watermark : Int} {t t' : Tally} {row : ActivityRow}
  {rows : List ActivityRow}

theorem Held.mono (h : Held k B t) (hBC : B ≤ C) : Held k C t :=
  ⟨h.cash.mono hBC, fun s => (h.quantities s).mono hBC, h.grid, h.executions.trans hBC⟩

theorem Held.of_fields (h : Held k B t) (hcash : t'.expectedCash = t.expectedCash)
    (hquantities : t'.quantities = t.quantities) (hexecutions : t'.executions = t.executions) :
    Held k B t' := by
  refine ⟨?_, ?_, ?_, ?_⟩
  · rw [hcash]; exact h.cash
  · rw [hquantities]; exact h.quantities
  · rw [hexecutions]; exact h.grid
  · rw [hexecutions]; exact h.executions

theorem noteExecution_held {fill : Fill} (cumQty : Number) (h : Held k B t)
    (hgrid : OnGrid k fill.quantity ∧ OnGrid k (fill.quantity * fill.price)) :
    Held k (B + (1 + (fill.quantity + fill.quantity * fill.price))) (noteExecution t fill cumQty) ∧
    (noteExecution t fill cumQty).expectedCash = t.expectedCash ∧
    (noteExecution t fill cumQty).quantities = t.quantities := by
  have hpos := fill.quantity_pos; have hvalue := mul_pos hpos fill.price_pos
  have hle : B ≤ B + (1 + (fill.quantity + fill.quantity * fill.price)) := by linarith
  unfold noteExecution
  cases cumQty with
  | unreadable | special => exact ⟨(h.mono hle).of_fields rfl rfl rfl, rfl, rfl⟩
  | finite cumulative =>
    dsimp only; split
    · exact ⟨(h.mono hle).of_fields rfl rfl rfl, rfl, rfl⟩
    refine ⟨⟨(h.mono hle).cash, (h.mono hle).quantities, fun e he => ?_, ?_⟩, rfl, rfl⟩
    · rcases List.mem_append.1 he with he | he
      · exact h.grid e he
      · obtain rfl := List.mem_singleton.1 he; exact hgrid
    · show ((t.executions ++ [_]).map executionWeight).sum ≤ _
      rw [List.map_append, List.sum_append, List.map_singleton, List.sum_singleton]
      exact add_le_add_left h.executions _

variable (capturedAt) in
theorem bookFill_decimal {fill : Fill} (hcash : Sized k B t.expectedCash)
    (hquantities : ∀ s, Sized k B (t.quantities.value s))
    (hgrid : OnGrid k fill.quantity ∧ OnGrid k (fill.quantity * fill.price))
    (hM : (B + (fill.quantity + fill.quantity * fill.price)) * 10 ^ k < 10 ^ 28) :
    bookFill .decimal capturedAt t fill = bookFill .exact capturedAt t fill ∧
      Sized k (B + fill.quantity * fill.price) (bookFill .exact capturedAt t fill).expectedCash ∧
      ∀ s, Sized k (B + fill.quantity)
        ((bookFill .exact capturedAt t fill).quantities.value s) := by
  have hq := fill.quantity_pos; have hv := mul_pos hq fill.price_pos
  have hB := hcash.nonneg; have hpow : (0 : ℚ) ≤ 10 ^ k := by positivity
  have hsmall : ∀ {C : ℚ}, C ≤ B + (fill.quantity + fill.quantity * fill.price) →
      C * 10 ^ k < 10 ^ 28 := fun hC => lt_of_le_of_lt (mul_le_mul_of_nonneg_right hC hpow) hM
  have hsq : Sized k fill.quantity fill.quantity := .of_nonneg hgrid.1 hq.le
  have hsv : Sized k (fill.quantity * fill.price) (fill.quantity * fill.price) :=
    .of_nonneg hgrid.2 hv.le
  have hunits := sized_sign fill.side hsq
  have hpaid : Sized k (fill.quantity * fill.price)
      (sign fill.side * fill.quantity * fill.price) := by
    rw [mul_assoc]; exact sized_sign fill.side hsv
  unfold bookFill; split
  · exact ⟨rfl, hcash.mono (by linarith), fun s => (hquantities s).mono (by linarith)⟩
  have hmul : Arith.decimal.mul (sign fill.side) fill.quantity =
      sign fill.side * fill.quantity := decimal_sign fill.side hsq (hsmall (by linarith))
  have hmul' : Arith.decimal.mul (sign fill.side * fill.quantity) fill.price =
      sign fill.side * fill.quantity * fill.price :=
    decimal_value fill.side hsv (hsmall (by linarith))
  refine ⟨?_, ?_, fun s => ?_⟩
  · rw [hmul, hmul', decimal_sub hcash hpaid (hsmall (by linarith))]
    unfold addQuantity
    rw [decimal_add (hquantities fill.symbol) hunits (hsmall (by linarith))]
    rfl
  · exact hcash.sub hpaid
  · show Sized k _ ((addQuantity .exact t.quantities fill.symbol
      (sign fill.side * fill.quantity)).value s)
    rw [value_addQuantity]; split
    · exact (hquantities s).add hunits
    · rw [add_zero]; exact (hquantities s).mono (by linarith)

variable (capturedAt sessionDate watermark)

/-- **A row is read without rounding**, and adds at most its weight to each sum. -/
theorem readRow_decimal (h : Held k B t) (hfilled : ∀ f, fillFromPayload row = some f →
      OnGrid k f.quantity ∧ OnGrid k (f.quantity * f.price))
    (hamount : ∀ x, row.netAmount = .finite x → OnGrid k x)
    (hM : (B + weight row) * 10 ^ k < 10 ^ 28) :
    readRow .decimal capturedAt sessionDate watermark t row =
        readRow .exact capturedAt sessionDate watermark t row ∧
      ∀ t', readRow .exact capturedAt sessionDate watermark t row = .ok t' →
        Held k (B + weight row) t' := by
  have hw := one_le_weight row; have hle : B ≤ B + weight row := by linarith
  have hpow : (0 : ℚ) ≤ 10 ^ k := by positivity
  have hsmall : ∀ {C : ℚ}, C ≤ B + weight row → C * 10 ^ k < 10 ^ 28 :=
    fun hC => lt_of_le_of_lt (mul_le_mul_of_nonneg_right hC hpow) hM
  unfold readRow; split
  · exact ⟨rfl, fun t' ht' => Except.ok.inj ht' ▸ (h.mono hle).of_fields rfl rfl rfl⟩
  generalize hseen : ({ t with seen := row.id.str :: t.seen } : Tally) = t₁
  have h₁ : Held k B t₁ := by
    rw [← hseen]; exact h.of_fields rfl rfl rfl
  split
  · unfold readFill
    cases hread : fillFromPayload row with
    | none => exact ⟨rfl, fun t' ht' => by cases ht'⟩
    | some fill =>
      dsimp only; split
      · exact ⟨rfl, fun t' ht' => Except.ok.inj ht' ▸ (h₁.mono hle).of_fields rfl rfl rfl⟩
      have hgrid := hfilled fill hread; have hweight := fill_le_weight hread
      obtain ⟨hnote, hcash, hquantities⟩ := noteExecution_held row.cumQty h₁ hgrid
      generalize noteExecution t₁ fill row.cumQty = t₂ at hnote hcash hquantities ⊢
      obtain ⟨heq, hsized, hunits⟩ := bookFill_decimal capturedAt
        (hcash ▸ h₁.cash) (hquantities ▸ h₁.quantities) hgrid (hsmall (by linarith))
      have hq := fill.quantity_pos; have hv := mul_pos hq fill.price_pos
      refine ⟨by rw [heq], fun t' ht' => ?_⟩; cases ht'
      obtain ⟨_, _, _, hexe, _⟩ := bookFill_books capturedAt t₂ fill
      refine ⟨hsized.mono (by linarith), fun s => (hunits s).mono (by linarith), ?_, ?_⟩
      · rw [hexe]; exact hnote.grid
      · rw [hexe]; exact hnote.executions.trans (by linarith)
  · unfold readOther
    cases row.rawTime with
    | empty | untext =>
      exact ⟨rfl, fun t' ht' => Except.ok.inj ht' ▸ (h₁.mono hle).of_fields rfl rfl rfl⟩
    | unreadable => exact ⟨rfl, fun t' ht' => by cases ht'⟩
    | naive date =>
      dsimp only; split
      · exact ⟨rfl, fun t' ht' => Except.ok.inj ht' ▸ h₁.mono hle⟩
      · exact ⟨rfl, fun t' ht' => Except.ok.inj ht' ▸ (h₁.mono hle).of_fields rfl rfl rfl⟩
    | aware time =>
      dsimp only; split
      · exact ⟨rfl, fun t' ht' => Except.ok.inj ht' ▸ h₁.mono hle⟩
      split
      · exact ⟨rfl, fun t' ht' => Except.ok.inj ht' ▸ (h₁.mono hle).of_fields rfl rfl rfl⟩
      cases hn : row.netAmount with
      | unreadable => exact ⟨rfl, fun t' ht' => by cases ht'⟩
      | special =>
        exact ⟨rfl, fun t' ht' => Except.ok.inj ht' ▸ (h₁.mono hle).of_fields rfl rfl rfl⟩
      | finite amount =>
        dsimp only
        have hsized : Sized k |amount| amount := .self (hamount amount hn)
        have hweight := amount_le_weight hn; refine ⟨?_, fun t' ht' => ?_⟩
        · rw [decimal_add h₁.cash hsized (hsmall (by linarith))]
        cases ht'
        exact ⟨(h₁.cash.add hsized).mono (by linarith),
          fun s => (h₁.quantities s).mono hle, h₁.grid, h₁.executions.trans hle⟩

theorem readRows_decimal (h : Held k B t)
    (hfilled : ∀ row ∈ rows, ∀ f, fillFromPayload row = some f →
      OnGrid k f.quantity ∧ OnGrid k (f.quantity * f.price))
    (hamounts : ∀ row ∈ rows, ∀ x, row.netAmount = .finite x → OnGrid k x)
    (hM : (B + (rows.map weight).sum) * 10 ^ k < 10 ^ 28) :
    rows.foldlM (readRow .decimal capturedAt sessionDate watermark) t =
        rows.foldlM (readRow .exact capturedAt sessionDate watermark) t ∧
      ∀ t', rows.foldlM (readRow .exact capturedAt sessionDate watermark) t = .ok t' →
        Held k (B + (rows.map weight).sum) t' := by
  have hpow : (0 : ℚ) ≤ 10 ^ k := by positivity
  induction rows generalizing t B with
  | nil =>
    rw [List.map_nil, List.sum_nil, add_zero]
    exact ⟨rfl, fun t' ht' => Except.ok.inj ht' ▸ h⟩
  | cons row rows ih =>
    obtain ⟨hfirst, hrest⟩ := List.forall_mem_cons.1 hfilled
    obtain ⟨hamount, hothers⟩ := List.forall_mem_cons.1 hamounts
    have hsum : 0 ≤ (rows.map weight).sum := by
      refine List.sum_nonneg fun x hx => ?_
      obtain ⟨r, _, rfl⟩ := List.mem_map.1 hx
      exact zero_le_one.trans (one_le_weight r)
    rw [List.map_cons, List.sum_cons, ← add_assoc] at hM ⊢
    have hrow : (B + weight row) * 10 ^ k < 10 ^ 28 :=
      lt_of_le_of_lt (mul_le_mul_of_nonneg_right (le_add_of_nonneg_right hsum) hpow) hM
    obtain ⟨heq, hheld⟩ := readRow_decimal capturedAt sessionDate watermark h hfirst hamount hrow
    rw [List.foldlM_cons, List.foldlM_cons, heq]
    cases hread : readRow .exact capturedAt sessionDate watermark t row with
    | error e => exact ⟨rfl, fun t' ht' => by cases ht'⟩
    | ok t₁ => exact ih (hheld t₁ hread) hrest hothers hM

/-! ## Rounding the orders -/

variable {es executions : List Execution} {s : OrderTotals}

theorem executionWeight_nonneg (e : Execution) : 1 ≤ executionWeight e := by
  have hq := e.fill.quantity_pos; have hv := mul_pos hq e.fill.price_pos
  unfold executionWeight value; linarith

theorem addExecution_decimal (first : Fill) {e : Execution}
    (hgrid : OnGrid k e.fill.quantity ∧ OnGrid k (value e))
    (hcumulative : Sized k B s.cumulative) (htotal : Sized k B s.total)
    (hbefore : Sized k B s.before) (hM : (B + executionWeight e) * 10 ^ k < 10 ^ 28) :
    addExecution .decimal capturedAt first s e = addExecution .exact capturedAt first s e ∧
      Sized k (B + executionWeight e) (addExecution .exact capturedAt first s e).cumulative ∧
      Sized k (B + executionWeight e) (addExecution .exact capturedAt first s e).total ∧
      Sized k (B + executionWeight e) (addExecution .exact capturedAt first s e).before := by
  have hq := e.fill.quantity_pos
  have hv : 0 < value e := mul_pos hq e.fill.price_pos; have hB := htotal.nonneg
  have hw : executionWeight e = 1 + (e.fill.quantity + value e) := rfl
  have hpow : (0 : ℚ) ≤ 10 ^ k := by positivity
  have hsmall : ∀ {C : ℚ}, C ≤ B + executionWeight e → C * 10 ^ k < 10 ^ 28 :=
    fun hC => lt_of_le_of_lt (mul_le_mul_of_nonneg_right hC hpow) hM
  have hsq : Sized k e.fill.quantity e.fill.quantity := .of_nonneg hgrid.1 hq.le
  have hsv : Sized k (value e) (value e) := .of_nonneg hgrid.2 hv.le
  have hvalue : Arith.decimal.mul e.fill.quantity e.fill.price = value e :=
    hsv.round (hsmall (by linarith))
  unfold addExecution; refine ⟨?_, ?_, ?_, ?_⟩
  · dsimp only
    rw [hvalue, decimal_add hcumulative hsq (hsmall (by linarith)),
      decimal_add htotal hsv (hsmall (by linarith)),
      decimal_add hbefore hsv (hsmall (by linarith))]
    rfl
  · exact (hcumulative.add hsq).mono (by linarith)
  · exact (htotal.add hsv).mono (by linarith)
  · dsimp only; split
    · exact (hbefore.add hsv).mono (by linarith)
    · exact hbefore.mono (by linarith)

theorem sums_decimal (first : Fill)
    (hgrid : ∀ e ∈ es, OnGrid k e.fill.quantity ∧ OnGrid k (value e))
    (hcumulative : Sized k B s.cumulative) (htotal : Sized k B s.total)
    (hbefore : Sized k B s.before) (hM : (B + (es.map executionWeight).sum) * 10 ^ k < 10 ^ 28) :
    es.foldl (addExecution .decimal capturedAt first) s =
        es.foldl (addExecution .exact capturedAt first) s ∧
      Sized k (B + (es.map executionWeight).sum)
        (es.foldl (addExecution .exact capturedAt first) s).total ∧
      Sized k (B + (es.map executionWeight).sum)
        (es.foldl (addExecution .exact capturedAt first) s).before := by
  have hpow : (0 : ℚ) ≤ 10 ^ k := by positivity
  induction es generalizing s B with
  | nil =>
    rw [List.map_nil, List.sum_nil, add_zero]; exact ⟨rfl, htotal, hbefore⟩
  | cons e es ih =>
    obtain ⟨hfirst, hrest⟩ := List.forall_mem_cons.1 hgrid
    have hsum : 0 ≤ (es.map executionWeight).sum := by
      refine List.sum_nonneg fun x hx => ?_
      obtain ⟨a, _, rfl⟩ := List.mem_map.1 hx
      exact zero_le_one.trans (executionWeight_nonneg a)
    rw [List.map_cons, List.sum_cons, ← add_assoc] at hM ⊢
    have hone : (B + executionWeight e) * 10 ^ k < 10 ^ 28 :=
      lt_of_le_of_lt (mul_le_mul_of_nonneg_right (le_add_of_nonneg_right hsum) hpow) hM
    obtain ⟨heq, hcumulative', htotal', hbefore'⟩ :=
      addExecution_decimal capturedAt first hfirst hcumulative htotal hbefore hone
    rw [List.foldl_cons, List.foldl_cons, heq]
    exact ih hrest hcumulative' htotal' hbefore' hM

variable {settling settled : Settling} {orderId : String}

theorem roundOrder_decimal {first : Fill} {fills : List Execution} (hk : 2 ≤ k)
    (hcash : Sized k C settling.expectedCash) (htotal : Sized k B s.total)
    (hbefore : Sized k B s.before) (hM : (C + 4 * B + 4) * 10 ^ k < 10 ^ 28) :
    roundOrder .decimal settling orderId first fills s =
        roundOrder .exact settling orderId first fills s ∧
      ∀ settled, roundOrder .exact settling orderId first fills s = .ok settled →
        Sized k (C + 2) settled.expectedCash := by
  have hB := htotal.nonneg; have hC := hcash.nonneg
  have hpow : (0 : ℚ) ≤ 10 ^ k := by positivity
  have hsmall : ∀ {D : ℚ}, D ≤ C + 4 * B + 4 → D * 10 ^ k < 10 ^ 28 :=
    fun hD => lt_of_le_of_lt (mul_le_mul_of_nonneg_right hD hpow) hM
  have hnearest : ∀ {x : ℚ}, Sized k B x → Sized k (B + 1) (nearest 2 x) := by
    intro x hx; refine ⟨OnGrid.mono (nearest_grid 2 x) hk, ?_⟩
    have hmoved := abs_nearest_sub_le 2 x
    calc |nearest 2 x| = |x + (nearest 2 x - x)| := by rw [add_sub_cancel]
      _ ≤ |x| + |nearest 2 x - x| := abs_add_le _ _
      _ ≤ B + 1 := add_le_add hx.2 hmoved
  unfold roundOrder; split
  · rename_i rounded roundedBefore hrounded hroundedBefore
    obtain rfl := quantizeEven_some hrounded
    obtain rfl := quantizeEven_some hroundedBefore
    have hdiff : Sized k 2 (s.total - s.before - (nearest 2 s.total - nearest 2 s.before)) := by
      refine ⟨(htotal.sub hbefore).1.sub ((hnearest htotal).sub (hnearest hbefore)).1, ?_⟩
      have htotal' := abs_nearest_sub_le 2 s.total
      have hbefore' := abs_nearest_sub_le 2 s.before
      rw [abs_le] at htotal' hbefore' ⊢; constructor
      · linarith
      · linarith
    refine ⟨?_, fun settled hsettled => ?_⟩
    · have hgap : Arith.decimal.sub (Arith.decimal.sub s.total s.before)
          (Arith.decimal.sub (nearest 2 s.total) (nearest 2 s.before)) =
          s.total - s.before - (nearest 2 s.total - nearest 2 s.before) := by
        have hexact : Arith.decimal.sub s.total s.before = s.total - s.before :=
          decimal_sub htotal hbefore (hsmall (by linarith))
        have hcents : Arith.decimal.sub (nearest 2 s.total) (nearest 2 s.before) =
            nearest 2 s.total - nearest 2 s.before :=
          decimal_sub (hnearest htotal) (hnearest hbefore) (hsmall (by linarith))
        rw [hexact, hcents]; exact hdiff.round (hsmall (by linarith))
      have hsigned : Arith.decimal.mul (sign first.side)
          (s.total - s.before - (nearest 2 s.total - nearest 2 s.before)) =
          sign first.side * (s.total - s.before - (nearest 2 s.total - nearest 2 s.before)) :=
        decimal_sign first.side hdiff (hsmall (by linarith))
      rw [hgap, hsigned, decimal_sub htotal (hnearest htotal) (hsmall (by linarith)),
        decimal_sub hbefore (hnearest hbefore) (hsmall (by linarith)),
        decimal_add hcash (sized_sign first.side hdiff) (hsmall (by linarith))]
      rfl
    · cases hsettled; exact hcash.add (sized_sign first.side hdiff)
  · exact ⟨rfl, fun settled hsettled => by cases hsettled⟩

theorem settleOrder_decimal (orderId : String) (fills : List Execution) (hk : 2 ≤ k)
    (hgrid : ∀ e ∈ fills, OnGrid k e.fill.quantity ∧ OnGrid k (value e))
    (hsum : (fills.map executionWeight).sum ≤ B) (hcash : Sized k C settling.expectedCash)
    (hM : (C + 4 * B + 4) * 10 ^ k < 10 ^ 28) :
    settleOrder .decimal capturedAt settling orderId fills =
        settleOrder .exact capturedAt settling orderId fills ∧
      ∀ settled, settleOrder .exact capturedAt settling orderId fills = .ok settled →
        Sized k (C + 2) settled.expectedCash := by
  have hC := hcash.nonneg; have hpow : (0 : ℚ) ≤ 10 ^ k := by positivity
  have hperm := sorted_perm_self fills
  have hname : fills.insertionSort Earlier = sorted fills := rfl
  have hle : C ≤ C + 2 := by linarith
  unfold settleOrder; rw [hname]
  cases hs : sorted fills with
  | nil => exact ⟨rfl, fun settled hsettled => Except.ok.inj hsettled ▸ hcash.mono hle⟩
  | cons e rest =>
    have hgrid' : ∀ a ∈ e :: rest, OnGrid k a.fill.quantity ∧ OnGrid k (value a) := by
      rw [← hs]; exact fun a ha => hgrid a (hperm.mem_iff.1 ha)
    have hsum' : ((e :: rest).map executionWeight).sum ≤ B := by
      rw [← hs, (hperm.map executionWeight).sum_eq]; exact hsum
    have hB : 0 ≤ B := by
      refine le_trans (List.sum_nonneg fun x hx => ?_) hsum'
      obtain ⟨a, _, rfl⟩ := List.mem_map.1 hx
      exact zero_le_one.trans (executionWeight_nonneg a)
    have hfold : (0 + ((e :: rest).map executionWeight).sum) * 10 ^ k < 10 ^ 28 :=
      lt_of_le_of_lt (mul_le_mul_of_nonneg_right (by linarith) hpow) hM
    obtain ⟨heq, htotal, hbefore⟩ := sums_decimal capturedAt (s := {}) e.fill hgrid' (.zero k)
      (.zero k) (.zero k) hfold
    dsimp only; rw [heq]; split
    · exact roundOrder_decimal hk hcash (htotal.mono (by linarith)) (hbefore.mono (by linarith)) hM
    · exact ⟨rfl, fun settled hsettled => Except.ok.inj hsettled ▸ hcash.mono hle⟩

theorem settleOrders_decimal (settling : Settling) (hk : 2 ≤ k)
    (hgrid : ∀ e ∈ executions, OnGrid k e.fill.quantity ∧ OnGrid k (value e))
    (hsum : (executions.map executionWeight).sum ≤ B) (hcash : Sized k B settling.expectedCash)
    (hM : (8 * B + 4) * 10 ^ k < 10 ^ 28) : settleOrders .decimal capturedAt executions settling =
        settleOrders .exact capturedAt executions settling ∧
      ∀ settled, settleOrders .exact capturedAt executions settling = .ok settled →
        Sized k (3 * B) settled.expectedCash := by
  have hpow : (0 : ℚ) ≤ 10 ^ k := by positivity
  have hids : ((orderIds executions).length : ℚ) ≤ B := by
    have hlen : (orderIds executions).length ≤ executions.length := by
      unfold orderIds; rw [List.length_insertionSort]
      exact (List.dedup_sublist _).length_le.trans (List.length_map _).le
    have hcount : (executions.length : ℚ) ≤ (executions.map executionWeight).sum := by
      have hle := List.card_nsmul_le_sum (executions.map executionWeight) 1 fun x hx => by
        obtain ⟨e, _, rfl⟩ := List.mem_map.1 hx; exact executionWeight_nonneg e
      rwa [List.length_map, nsmul_eq_mul, mul_one] at hle
    exact (Nat.cast_le.2 hlen).trans (hcount.trans hsum)
  have hfills : ∀ orderId, ((ofOrder executions orderId).map executionWeight).sum ≤ B := by
    intro orderId; refine le_trans ?_ hsum
    refine (List.filter_sublist.map executionWeight).sum_le_sum fun x hx => ?_
    obtain ⟨e, _, rfl⟩ := List.mem_map.1 hx
    exact zero_le_one.trans (executionWeight_nonneg e)
  -- the cash moves by at most two an order
  have hrun : ∀ (ids : List String) (C : ℚ) (settling : Settling), 0 ≤ C →
      Sized k C settling.expectedCash → C + 2 * ids.length ≤ 3 * B →
      let step A := fun s orderId =>
        settleOrder A capturedAt s orderId (ofOrder executions orderId)
      ids.foldlM (step .decimal) settling = ids.foldlM (step .exact) settling ∧
        ∀ settled, ids.foldlM (step .exact) settling = .ok settled →
          Sized k (3 * B) settled.expectedCash := by
    intro ids
    induction ids with
    | nil =>
      intro C settling _ hcash hle
      rw [List.length_nil, Nat.cast_zero, mul_zero, add_zero] at hle
      exact ⟨rfl, fun settled hsettled => Except.ok.inj hsettled ▸ hcash.mono hle⟩
    | cons orderId ids ih =>
      intro C settling hC hcash hle; rw [List.length_cons, Nat.cast_succ] at hle
      have hone : (C + 4 * B + 4) * 10 ^ k < 10 ^ 28 :=
        lt_of_le_of_lt (mul_le_mul_of_nonneg_right (by linarith) hpow) hM
      obtain ⟨heq, hsized⟩ := settleOrder_decimal capturedAt orderId
        (ofOrder executions orderId) hk (fun e he => hgrid e (List.mem_filter.1 he).1)
        (hfills orderId) hcash hone
      dsimp only; rw [List.foldlM_cons, List.foldlM_cons, heq]
      cases hs : settleOrder .exact capturedAt settling orderId (ofOrder executions orderId) with
      | error e => exact ⟨rfl, fun settled hsettled => by cases hsettled⟩
      | ok settled => exact ih (C + 2) settled (by linarith) (hsized settled hs) (by linarith)
  exact hrun _ B settling hcash.nonneg hcash (by linarith)

/-! ## The reconstruction -/

theorem value_foldl_upsert (l : List (String × ℚ)) (q : Quantities) (symbol : String) :
    Quantities.value (l.foldl (fun q p => q.upsert p) q) symbol = q.value symbol ∨
      ∃ p ∈ l, Quantities.value (l.foldl (fun q p => q.upsert p) q) symbol = p.2 := by
  induction l generalizing q with
  | nil => exact .inl rfl
  | cons p l ih =>
    rw [List.foldl_cons]; rcases ih (q.upsert p) with h | ⟨p', hp', h⟩
    · rw [h]; unfold Quantities.value; rw [Table.get?_upsert]
      by_cases hkey : p.1 = symbol
      · rw [if_pos hkey]; exact .inr ⟨p, List.mem_cons_self, rfl⟩
      · rw [if_neg hkey]; exact .inl rfl
    · exact .inr ⟨p', List.mem_cons_of_mem _ hp', h⟩

theorem sized_ofList (l : List (String × ℚ)) (hgrid : ∀ p ∈ l, OnGrid k p.2) (symbol : String) :
    Sized k (l.map fun p => |p.2|).sum ((Quantities.ofList l).value symbol) := by
  have hnonneg : ∀ x ∈ l.map fun p => |p.2|, 0 ≤ x := by
    intro x hx; obtain ⟨p, _, rfl⟩ := List.mem_map.1 hx; exact abs_nonneg _
  rcases value_foldl_upsert l .empty symbol with h | ⟨p, hp, h⟩
  · unfold Quantities.ofList; rw [h]
    exact (Sized.zero k).mono (List.sum_nonneg hnonneg)
  · unfold Quantities.ofList; rw [h]
    exact ⟨hgrid p hp, List.single_le_sum hnonneg _ (List.mem_map.2 ⟨p, hp, rfl⟩)⟩

/-- **The reconstruction is exact** while 27 digits hold the amounts of the session. -/
theorem reconstruct_exact {opening : SessionOpening} (h : Fitting k origin proof rows) :
    reconstruct .decimal opening origin proof watermark rows =
      reconstruct .exact opening origin proof watermark rows := by
  have hpow : (0 : ℚ) ≤ 10 ^ k := by positivity
  have hheld : 0 ≤ (origin.actualQuantities.map fun p => |p.2|).sum := by
    refine List.sum_nonneg fun x hx => ?_
    obtain ⟨p, _, rfl⟩ := List.mem_map.1 hx; exact abs_nonneg _
  have hweights : 0 ≤ (rows.map weight).sum := by
    refine List.sum_nonneg fun x hx => ?_
    obtain ⟨row, _, rfl⟩ := List.mem_map.1 hx
    exact zero_le_one.trans (one_le_weight row)
  have hcash := abs_nonneg origin.account.cash
  have hobserved := abs_nonneg proof.account.cash
  have hsize : size origin proof rows = 1 + |origin.account.cash| + |proof.account.cash| +
    (origin.actualQuantities.map fun p => |p.2|).sum + (rows.map weight).sum := rfl
  have hsmall : ∀ {C : ℚ}, C ≤ 10 * size origin proof rows → C * 10 ^ k < 10 ^ 28 := by
    intro C hC; have hmul := mul_le_mul_of_nonneg_right hC hpow
    have hten := h.small; linarith
  let start : Tally :=
    { expectedCash := origin.account.cash, quantities := .ofList origin.actualQuantities }
  set B₀ := |origin.account.cash| + (origin.actualQuantities.map fun p => |p.2|).sum with hB₀
  have hstart : Held k B₀ start :=
    { cash := (Sized.self h.opening).mono (by linarith)
      quantities := fun s => (sized_ofList _ h.held s).mono (by linarith)
      grid := List.forall_mem_nil _
      executions := add_nonneg hcash hheld }
  obtain ⟨hrows, hread⟩ := readRows_decimal opening.capturedAt opening.sessionDate watermark
    hstart h.filled h.amounts (hsmall (by linarith))
  unfold reconstruct; rw [hrows]
  cases ht : rows.foldlM (readRow .exact opening.capturedAt opening.sessionDate watermark)
    start with
  | error e => rfl
  | ok t =>
    have hheldt := hread t ht
    let settling : Settling := ⟨t.expectedCash, t.valid, t.roundingObjections, []⟩
    obtain ⟨hsettle, hsized⟩ := settleOrders_decimal opening.capturedAt settling
      h.places hheldt.grid hheldt.executions hheldt.cash (hsmall (by linarith))
    show settleOrders .decimal opening.capturedAt t.executions settling >>= _ =
      settleOrders .exact opening.capturedAt t.executions settling >>= _
    rw [hsettle]
    cases hs : settleOrders .exact opening.capturedAt t.executions settling with
    | error e => rfl
    | ok settled =>
      have hend := hsized settled hs
      show Except.ok (evidenceOf .decimal proof t settled) =
        Except.ok (evidenceOf .exact proof t settled)
      unfold evidenceOf
      rw [decimal_sub (.self h.observed) hend (hsmall (by linarith)),
        decimal_sub hend hheldt.cash (hsmall (by linarith))]

end Quantbot.L4.SessionCapital
