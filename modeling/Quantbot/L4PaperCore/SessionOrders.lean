import Quantbot.Core.Ordered
import Quantbot.L4PaperCore.SessionRows

/-!
# The orders of a session, in cents

With exact arithmetic, an order whose executions, earliest first, report the running sums of
their quantities (`UnbrokenPrefix`) is moved from its exact value to `centNet`: the signed
difference of its cumulative values at the read and at the opening, each to the nearest cent.
Any other order keeps its exact value and spoils the verdict.

The executions of an unbroken order are in one order only (`sorted_perm`), so nothing here
depends on how they were read (`settleOrders_perm`).

* `settleOrders_cash`, `settleOrders_valid`: what the orders come to.
-/
namespace Quantbot.L4.SessionCapital

open Core L1 Txn

/-! ## Cumulative values -/

def value (e : Execution) : ℚ := e.fill.quantity * e.fill.price

/-- The cumulative value of an order. -/
def total (executions : List Execution) : ℚ := (executions.map value).sum

/-- The cumulative value of an order when the opening was captured. -/
def before (capturedAt : Int) (executions : List Execution) : ℚ :=
  total (executions.filter fun e => decide (e.fill.occurredAt ≤ capturedAt))

/-- The executions of one symbol and side, each reporting the sum up to it. -/
def PrefixFrom (first : Fill) : ℚ → List Execution → Prop
  | _, [] => True
  | sum, e :: es => e.fill.symbol = first.symbol ∧ e.fill.side = first.side ∧
      e.cumulative = sum + e.fill.quantity ∧ PrefixFrom first (sum + e.fill.quantity) es

instance (first : Fill) : ∀ sum es, Decidable (PrefixFrom first sum es)
  | _, [] => .isTrue trivial
  | sum, e :: es =>
    have := instDecidablePrefixFrom first (sum + e.fill.quantity) es
    inferInstanceAs (Decidable (_ ∧ _ ∧ _ ∧ _))

/-- The executions of an order, earliest first. -/
def sorted (executions : List Execution) : List Execution := executions.insertionSort Earlier

def UnbrokenPrefix (executions : List Execution) : Prop :=
  match sorted executions with
  | [] => True
  | e :: es => PrefixFrom e.fill 0 (e :: es)

instance (executions : List Execution) : Decidable (UnbrokenPrefix executions) := by
  unfold UnbrokenPrefix
  split <;> infer_instance

/-- The side of an order's first execution, as a sign. -/
def orderSign (executions : List Execution) : ℚ :=
  match sorted executions with
  | [] => 0
  | e :: _ => sign e.fill.side

def cents (x : ℚ) : ℚ := Decimal.nearest 2 x

/-- **The cash of an order in cents**: the signed difference of its rounded cumulative values. -/
def centNet (capturedAt : Int) (executions : List Execution) : ℚ :=
  orderSign executions * (cents (total executions) - cents (before capturedAt executions))

/-- The cash of an order at its exact value. -/
def exactNet (capturedAt : Int) (executions : List Execution) : ℚ :=
  (executions.map fun e => paidAfter capturedAt e.fill).sum

def orderCash (capturedAt : Int) (executions : List Execution) : ℚ :=
  if UnbrokenPrefix executions then centNet capturedAt executions
  else exactNet capturedAt executions

/-- A cumulative value halfway between two cents. -/
def CentTie (capturedAt : Int) (executions : List Execution) : Prop :=
  |total executions - cents (total executions)| = 1 / 200 ∨
    |before capturedAt executions - cents (before capturedAt executions)| = 1 / 200
deriving Decidable

variable {capturedAt : Int} {first : Fill} {es es' executions executions' : List Execution}

theorem total_perm (h : es.Perm es') : total es = total es' := (h.map value).sum_eq

theorem before_perm (h : es.Perm es') : before capturedAt es = before capturedAt es' :=
  total_perm (h.filter _)

/-! ## One order of executions -/

theorem sorted_perm_self (es : List Execution) : (sorted es).Perm es := List.perm_insertionSort _ es

instance : Std.Total Earlier := ⟨fun _ _ => lex_total⟩
instance : IsTrans Execution Earlier := ⟨fun _ _ _ => lex_trans⟩

theorem pairwise_sorted (es : List Execution) : (sorted es).Pairwise Earlier :=
  List.pairwise_insertionSort _ _

theorem PrefixFrom.increasing {sum : ℚ} (h : PrefixFrom first sum es) :
    (∀ e ∈ es, sum < e.cumulative) ∧ es.Pairwise fun a b => a.cumulative < b.cumulative := by
  induction es generalizing sum with
  | nil => exact ⟨fun _ he => (nomatch he), .nil⟩
  | cons e es ih =>
    obtain ⟨_, _, hsum, hrest⟩ := h; obtain ⟨hlater, hpairs⟩ := ih hrest
    have hpos := e.fill.quantity_pos
    refine ⟨fun a ha => ?_, List.pairwise_cons.2 ⟨fun a ha => hsum ▸ hlater a ha, hpairs⟩⟩
    rcases List.mem_cons.1 ha with rfl | ha
    · rw [hsum]; exact lt_add_of_pos_right _ hpos
    · exact (lt_add_of_pos_right _ hpos).trans (hlater a ha)

theorem UnbrokenPrefix.nodup (h : UnbrokenPrefix es) : ((sorted es).map (·.cumulative)).Nodup := by
  unfold UnbrokenPrefix at h
  have hpairs : (sorted es).Pairwise fun a b => a.cumulative < b.cumulative := by
    cases hs : sorted es with
    | nil => exact .nil
    | cons e rest =>
      rw [hs] at h; exact h.increasing.2
  exact List.pairwise_map.2 (hpairs.imp fun hlt => hlt.ne)

/-- **The executions of an unbroken order sort in one way only.** -/
theorem sorted_perm (h : es.Perm es') (hp : UnbrokenPrefix es) : sorted es = sorted es' := by
  have hsorted : (sorted es).Perm (sorted es') :=
    ((sorted_perm_self es).trans h).trans (sorted_perm_self es').symm
  refine hsorted.eq_of_pairwise ?_ (pairwise_sorted es) (pairwise_sorted es')
  intro a b ha hb hab hba
  exact List.inj_on_of_nodup_map hp.nodup ha (hsorted.mem_iff.2 hb) (lex_antisymm hab hba).2

theorem UnbrokenPrefix.perm (h : es.Perm es') (hp : UnbrokenPrefix es) : UnbrokenPrefix es' := by
  unfold UnbrokenPrefix at hp ⊢; rwa [← sorted_perm h hp]

/-! ## Rounding an order -/

theorem foldl_addExecution (s : OrderTotals) :
    es.foldl (addExecution .exact capturedAt first) s =
      { cumulative := s.cumulative + (es.map (·.fill.quantity)).sum
        total := s.total + total es
        before := s.before + before capturedAt es
        completePrefix := s.completePrefix && decide (PrefixFrom first s.cumulative es) } := by
  induction es generalizing s with
  | nil =>
    have htrue : decide (PrefixFrom first s.cumulative []) = true := decide_eq_true trivial
    rw [htrue, Bool.and_true]
    show s = ⟨s.cumulative + 0, s.total + 0, s.before + 0, s.completePrefix⟩
    rw [add_zero, add_zero, add_zero]
  | cons e es ih =>
    have hbefore : before capturedAt (e :: es) =
        (if e.fill.occurredAt ≤ capturedAt then value e else 0) + before capturedAt es := by
      unfold before total
      rw [List.filter_cons]
      by_cases he : e.fill.occurredAt ≤ capturedAt
      · rw [if_pos (decide_eq_true he), if_pos he, List.map_cons, List.sum_cons]
      · rw [if_neg (by simpa using he), if_neg he, zero_add]
    rw [List.foldl_cons, ih, hbefore]
    unfold addExecution
    congr 1
    · rw [List.map_cons, List.sum_cons]
      exact add_assoc ..
    · unfold total
      exact add_assoc ..
    · split
      · exact add_assoc ..
      · rw [zero_add]
    · rw [Bool.and_assoc, ← Bool.decide_and]
      congr 1
      rw [decide_eq_decide]
      rw [and_assoc, and_assoc]
      rfl

variable {s s' : Settling} {orderId : String}

/-- The sums of an order, as the code rounds them. -/
def sumsOf (capturedAt : Int) (fills : List Execution) : OrderTotals where
  cumulative := (fills.map (·.fill.quantity)).sum
  total := total fills
  before := before capturedAt fills
  completePrefix := true

/-- An order without executions is not there; one whose prefix is broken is refused; the others
are rounded. -/
theorem settleOrder_eq (fills : List Execution) :
    settleOrder .exact capturedAt s orderId fills =
      match sorted fills with
      | [] => .ok s
      | e :: _ =>
        if UnbrokenPrefix fills then
          roundOrder .exact s orderId e.fill (sorted fills) (sumsOf capturedAt fills)
        else .ok
          { s with
            valid := false
            roundingObjections := s.roundingObjections ++ [.prefixIncomplete orderId] } := by
  unfold settleOrder
  have hperm := sorted_perm_self fills
  have hname : fills.insertionSort Earlier = sorted fills := rfl
  rw [hname]
  cases hs : sorted fills with
  | nil => rfl
  | cons e rest =>
    have hprefix : PrefixFrom e.fill 0 (sorted fills) ↔ UnbrokenPrefix fills := by
      unfold UnbrokenPrefix
      rw [hs]
    have hsums : (sorted fills).foldl (addExecution .exact capturedAt e.fill) {} =
        { sumsOf capturedAt fills with completePrefix := decide (UnbrokenPrefix fills) } := by
      rw [foldl_addExecution]
      unfold sumsOf
      rw [← total_perm hperm, ← before_perm hperm, ← (hperm.map _).sum_eq, zero_add, zero_add,
        zero_add, Bool.true_and, decide_eq_decide.2 hprefix]
    rw [hs] at hsums
    dsimp only
    rw [hsums]
    by_cases hp : UnbrokenPrefix fills
    · rw [if_pos hp]
      simp only [decide_eq_true hp, if_true]
      rfl
    · rw [if_neg hp]
      simp only [decide_eq_false hp, Bool.false_eq_true, if_false]

theorem settleOrder_perm (h : es.Perm es') :
    settleOrder .exact capturedAt s orderId es = settleOrder .exact capturedAt s orderId es' := by
  rw [settleOrder_eq, settleOrder_eq]; by_cases hp : UnbrokenPrefix es
  · have hsums : sumsOf capturedAt es = sumsOf capturedAt es' := by
      unfold sumsOf; rw [total_perm h, before_perm h, (h.map _).sum_eq]
    rw [← sorted_perm h hp, ← hsums]; simp only [hp, hp.perm h, if_true]
  · have hp' : ¬ UnbrokenPrefix es' := fun h' => hp (h'.perm h.symm)
    have hnil : sorted es = [] ↔ sorted es' = [] := by
      rw [← List.length_eq_zero_iff, ← List.length_eq_zero_iff,
        (sorted_perm_self es).length_eq, (sorted_perm_self es').length_eq, h.length_eq]
    cases hs : sorted es with
    | nil => rw [hnil.1 hs]
    | cons e rest =>
      cases hs' : sorted es' with
      | nil => rw [hnil.2 hs'] at hs; cases hs
      | cons e' rest' => simp only [hp, hp', if_false]

/-- Executions of one side are worth, exactly, what their cumulative values differ by. -/
theorem exactNet_eq {c : ℚ} (h : ∀ e ∈ es, sign e.fill.side = c) :
    exactNet capturedAt es = c * (total es - before capturedAt es) := by
  induction es with
  | nil => simp [exactNet, total, before]
  | cons e es ih =>
    have hrest := ih fun a ha => h a (List.mem_cons_of_mem _ ha)
    have hside := h e List.mem_cons_self
    unfold exactNet before total at hrest ⊢
    rw [List.map_cons, List.sum_cons, List.map_cons, List.sum_cons, hrest, List.filter_cons]
    unfold paidAfter; by_cases he : e.fill.occurredAt ≤ capturedAt
    · rw [if_pos he, if_pos (decide_eq_true he), List.map_cons, List.sum_cons]
      ring
    rw [if_neg he, if_neg (by simpa using he)]; unfold signedValue; rw [hside]
    show c * e.fill.quantity * e.fill.price + _ = c * (e.fill.quantity * e.fill.price + _ - _)
    ring

theorem PrefixFrom.side {sum : ℚ} (h : PrefixFrom first sum es) :
    ∀ e ∈ es, e.fill.side = first.side := by
  induction es generalizing sum with
  | nil => exact List.forall_mem_nil _
  | cons e es ih =>
    obtain ⟨_, hside, _, hrest⟩ := h
    exact List.forall_mem_cons.2 ⟨hside, ih hrest⟩

theorem UnbrokenPrefix.exactNet (h : UnbrokenPrefix es) :
    exactNet capturedAt es = orderSign es * (total es - before capturedAt es) := by
  have hsides : ∀ e ∈ es, sign e.fill.side = orderSign es := by
    intro a ha; have hmem : a ∈ sorted es := (sorted_perm_self es).mem_iff.2 ha
    unfold UnbrokenPrefix at h; unfold orderSign
    cases hs : sorted es with
    | nil =>
      rw [hs] at hmem; cases hmem
    | cons e rest =>
      rw [hs] at h hmem; rw [h.side a hmem]
  exact exactNet_eq hsides

/-- **One order**: its exact cash becomes its cash in cents where its prefix is unbroken. -/
theorem settleOrder_ok {fills : List Execution} (hne : fills ≠ [])
    (h : settleOrder .exact capturedAt s orderId fills = .ok s') :
    s'.expectedCash = s.expectedCash + (exactNet capturedAt fills - orderCash capturedAt fills) ∧
      (s'.valid = true ↔ s.valid = true ∧ UnbrokenPrefix fills ∧ ¬ CentTie capturedAt fills) := by
  rw [settleOrder_eq] at h
  cases hs : sorted fills with
  | nil =>
    have hlen := (sorted_perm_self fills).length_eq; rw [hs] at hlen
    exact absurd (List.length_eq_zero_iff.1 hlen.symm) hne
  | cons e rest =>
    rw [hs] at h; dsimp only at h; unfold orderCash
    by_cases hp : UnbrokenPrefix fills
    · rw [if_pos hp] at h ⊢; unfold roundOrder at h; split at h
      · rename_i rounded roundedBefore hrounded hbefore
        obtain rfl := Decimal.quantizeEven_some hrounded
        obtain rfl := Decimal.quantizeEven_some hbefore; cases h
        have hsign : orderSign fills = sign e.fill.side := by
          unfold orderSign; rw [hs]
        constructor
        · rw [hp.exactNet, hsign]; unfold centNet; rw [hsign]
          show _ + sign e.fill.side * (_ - _) = _ + (sign e.fill.side * _ - sign e.fill.side * _)
          rw [mul_sub]; rfl
        · show (s.valid && !decide (CentTie capturedAt fills)) = true ↔ _
          rw [Bool.and_eq_true, Bool.not_eq_true', decide_eq_false_iff_not, and_iff_right hp]
      · cases h
    · rw [if_neg hp] at h ⊢; cases h
      exact ⟨by rw [sub_self, add_zero],
        iff_of_false Bool.false_ne_true fun hv => hp hv.2.1⟩

/-! ## All orders -/

theorem mem_orderIds {orderId : String} :
    orderId ∈ orderIds executions ↔ ∃ e ∈ executions, e.fill.brokerOrderId = orderId := by
  unfold orderIds
  rw [(List.perm_insertionSort _ _).mem_iff, List.mem_dedup, List.mem_map]

theorem orderIds_perm (h : executions.Perm executions') :
    orderIds executions = orderIds executions' := by
  exact insertionSort_congr (h.map fun e => e.fill.brokerOrderId).dedup
    fun _ _ _ _ => le_antisymm

/-- **The orders come to the same however their executions were read.** -/
theorem settleOrders_perm (h : executions.Perm executions') :
    settleOrders .exact capturedAt executions s = settleOrders .exact capturedAt executions' s := by
  unfold settleOrders; rw [orderIds_perm h]; congr 1
  funext s orderId; exact settleOrder_perm (h.filter _)

theorem settleOrders_ok (h : settleOrders .exact capturedAt executions s = .ok s') :
    s'.expectedCash = s.expectedCash + ((orderIds executions).map fun orderId =>
        exactNet capturedAt (ofOrder executions orderId) -
          orderCash capturedAt (ofOrder executions orderId)).sum ∧
      (s'.valid = true ↔ s.valid = true ∧ ∀ orderId ∈ orderIds executions,
        UnbrokenPrefix (ofOrder executions orderId) ∧
          ¬ CentTie capturedAt (ofOrder executions orderId)) := by
  have hmem : ∀ orderId ∈ orderIds executions, ofOrder executions orderId ≠ [] := by
    intro orderId hid hnil; obtain ⟨e, he, heq⟩ := mem_orderIds.1 hid
    have hin : e ∈ ofOrder executions orderId := List.mem_filter.2 ⟨he, decide_eq_true heq⟩
    rw [hnil] at hin; cases hin
  unfold settleOrders at h; generalize orderIds executions = ids at h hmem
  induction ids generalizing s with
  | nil =>
    cases h; exact ⟨(add_zero _).symm, ⟨fun hv => ⟨hv, nofun⟩, fun hv => hv.1⟩⟩
  | cons orderId ids ih =>
    obtain ⟨s₁, hfirst, h⟩ := except_bind_ok.1 h
    obtain ⟨hcash₁, hvalid₁⟩ := settleOrder_ok (hmem orderId List.mem_cons_self) hfirst
    obtain ⟨hcash, hvalid⟩ := ih h fun id hid => hmem id (List.mem_cons_of_mem _ hid)
    constructor
    · rw [hcash, hcash₁, List.map_cons, List.sum_cons, add_assoc]
    · rw [hvalid, hvalid₁, List.forall_mem_cons, and_assoc]

end Quantbot.L4.SessionCapital
