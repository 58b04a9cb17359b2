import Mathlib.Data.List.Perm.Basic
import Quantbot.L3Execution.OrderEvents

/-!
# Delivery order and the final intent state

Do two delivery orders of one set of distinct events end in the same intent
state, when `apply_order_update` accepts both in full? A run's final state is
computed in closed form (`settled`): membership of a terminal target decides
it, else the last of the partial-fill and pending-cancel events, else whether
the broker acknowledged. Only the middle clause depends on the order: the
lifecycle lists both `PARTIALLY_FILLED -> CANCEL_PENDING` and
`CANCEL_PENDING -> PARTIALLY_FILLED` (lifecycle.py:43-60).

## Results
* `delivery_order_diverges`: partial fill and pending cancel, in both orders,
  are accepted and end in different states.
* `delivery_confluent`: otherwise the final state is the same; and in the
  excluded case it is the state of the last of those events delivered.
-/
namespace Quantbot.L3.OrderEvents

open L1

/-! ## Runs over event targets -/

/-- The targets of the events that have one, in delivery order. -/
def targets (us : List TradeUpdate) : List IntentState :=
  us.filterMap fun u => intentStateForTradeUpdate u.event

/-- Accepted in full from `q` through the targets, ending in the last index. -/
inductive Through : IntentState → List IntentState → IntentState → Prop
  | nil (q : IntentState) : Through q [] q
  | cons {q t q' r : IntentState} {ts : List IntentState} :
      nextState q t = .ok q' → Through q' ts r → Through q (t :: ts) r

/-- The two states a live order moves between. -/
def isOpenTarget (q : IntentState) : Bool := q = .partiallyFilled ∨ q = .cancelPending

def lastOpen : List IntentState → Option IntentState
  | [] => none
  | t :: ts => (lastOpen ts).or (if isOpenTarget t then some t else none)

/-- The final state, from the start state and the delivered targets. -/
def settled (q : IntentState) (ts : List IntentState) : IntentState :=
  if .filled ∈ q :: ts then .filled
  else if .cancelled ∈ q :: ts then .cancelled
  else if .expired ∈ q :: ts then .expired
  else if .rejected ∈ q :: ts then .rejected
  else match lastOpen ts with
    | some t => t
    | none =>
      if (q = .submitting ∨ q = .submissionUnknown) ∧ .brokerAccepted ∈ ts then .brokerAccepted
      else q

/-- A state some event leads to. -/
def IsTarget (t : IntentState) : Prop := ∃ e, intentStateForTradeUpdate e = some t

variable {q t : IntentState}

theorem isTarget_cases (h : IsTarget t) :
    t = .brokerAccepted ∨ t = .partiallyFilled ∨ t = .filled ∨ t = .cancelPending ∨
      t = .cancelled ∨ t = .expired ∨ t = .rejected := by
  obtain ⟨e, he⟩ := h
  cases e <;> simp [intentStateForTradeUpdate] at he <;> simp [← he]

theorem settled_cons {q' : IntentState} (ts : List IntentState) (ht : IsTarget t)
    (h : nextState q t = .ok q') : settled q (t :: ts) = settled q' ts := by
  have hmem : ∀ x : IntentState, (x ∈ q :: t :: ts) = (x = q ∨ x = t ∨ x ∈ ts) := by simp
  have hmem' : ∀ x : IntentState, (x ∈ q' :: ts) = (x = q' ∨ x ∈ ts) := by simp
  unfold settled; simp only [hmem, hmem', lastOpen]
  rcases isTarget_cases ht with rfl | rfl | rfl | rfl | rfl | rfl | rfl <;>
    cases q <;>
    simp [nextState, transitionOrder, IntentState.allowedTransitions,
      ignorableOutOfOrderTransitions] at h <;>
    subst h <;> cases lastOpen ts <;> simp [isOpenTarget]

variable {ts : List IntentState} {r : IntentState}

theorem through_settled (hr : Through q ts r) (ht : ∀ t ∈ ts, IsTarget t) : r = settled q ts := by
  induction hr with
  | nil q => cases q <;> simp [settled, lastOpen]
  | @cons q t q' r ts hst _ ih =>
    rw [ih fun t ht' => ht t (List.mem_cons_of_mem _ ht'),
      settled_cons ts (ht t List.mem_cons_self) hst]

theorem through_terminal (hr : Through q ts r) (hq : q.Terminal) (ht : t ∈ ts) :
    nextState q t = .ok q := by
  induction hr with
  | nil q => cases ht
  | @cons q t' q' r ts hst _ ih =>
    obtain rfl := nextState_terminal hq hst
    rcases List.mem_cons.1 ht with rfl | ht
    · exact hst
    · exact ih hq ht

/-! ## From updates to targets -/

variable {us : List TradeUpdate}

theorem isTarget_of_mem (h : t ∈ targets us) : IsTarget t := by
  obtain ⟨u, _, hu⟩ := List.mem_filterMap.1 h; exact ⟨u.event, hu⟩

/-- A partial fill and a pending cancel, and nothing that ends the order. -/
def Contended (us : List TradeUpdate) : Prop :=
  (∃ u ∈ us, u.event = .partialFill) ∧ (∃ u ∈ us, u.event = .pendingCancel) ∧
    ∀ u ∈ us, u.event ∉ [TradeUpdateEvent.fill, .canceled, .expired, .rejected]
deriving Decidable

theorem mem_targets : t ∈ targets us ↔ ∃ u ∈ us, intentStateForTradeUpdate u.event = some t := by
  simp [targets]

theorem target_eq_iff (e : TradeUpdateEvent) :
    (intentStateForTradeUpdate e = some .partiallyFilled ↔ e = .partialFill) ∧
    (intentStateForTradeUpdate e = some .cancelPending ↔ e = .pendingCancel) ∧
    (intentStateForTradeUpdate e = some .filled ↔ e = .fill) ∧
    (intentStateForTradeUpdate e = some .cancelled ↔ e = .canceled) ∧
    (intentStateForTradeUpdate e = some .expired ↔ e = .expired) ∧
    (intentStateForTradeUpdate e = some .rejected ↔ e = .rejected) := by
  cases e <;> decide

/-- `Contended`, read off the targets. -/
theorem contended_iff (us : List TradeUpdate) : Contended us ↔
    .partiallyFilled ∈ targets us ∧ .cancelPending ∈ targets us ∧ .filled ∉ targets us ∧
      .cancelled ∉ targets us ∧ .expired ∉ targets us ∧ .rejected ∉ targets us := by
  simp only [Contended, mem_targets, target_eq_iff, List.mem_cons, List.not_mem_nil, or_false]
  grind

section Updates

variable {D : Type} [DecidableEq D] {sha256 : TradeUpdate → D} {st st' : OrderEventState D}

/-- The updates of the set not applied before. -/
def fresh (st : OrderEventState D) (us : List TradeUpdate) : List TradeUpdate :=
  us.filter fun u => (st.find? u.eventId).isNone

/-- An accepted delivery of distinct updates runs through the targets of the fresh ones. -/
theorem applyAll_through (hd : (us.map (·.eventId)).Nodup)
    (h : applyAll sha256 st us = (st', none)) :
    Through st.intentState (targets (fresh st us)) st'.intentState := by
  induction us generalizing st with
  | nil => cases h; exact .nil _
  | cons u us ih =>
    rw [List.map_cons, List.nodup_cons] at hd; simp only [applyAll] at h
    split at h
    · next st₁ hu =>
      rcases applyOrderUpdate_ok hu with ⟨⟨a, ha, _⟩, rfl⟩ | ⟨hn, q, hq, rfl⟩
      · have hf : fresh st₁ (u :: us) = fresh st₁ us := by simp [fresh, ha]
        rw [hf]; exact ih hd.2 h
      have hsame : fresh (st.record sha256 q u hn) us = fresh st us := by
        refine List.filter_congr fun v hv => ?_
        have hne : u.eventId ≠ v.eventId := fun he => hd.1 (he ▸ List.mem_map_of_mem hv)
        rw [find?_record, if_neg hne]
      have hf : fresh st (u :: us) = u :: fresh st us := by simp [fresh, hn]
      have ih' := ih hd.2 h; rw [hsame] at ih'
      rw [hf, targets, List.filterMap_cons]; unfold eventState at hq
      split at hq
      · next hnone => cases hq; rw [hnone]; exact ih'
      · next t ht => rw [ht]; exact .cons hq ih'
    · cases h

end Updates

/-! ## The closed form and the order -/

theorem lastOpen_eq_none : lastOpen ts = none ↔ .partiallyFilled ∉ ts ∧ .cancelPending ∉ ts := by
  induction ts with
  | nil => simp [lastOpen]
  | cons t ts ih =>
    cases t <;> cases h : lastOpen ts <;> simp_all [lastOpen, isOpenTarget]

theorem lastOpen_mem (h : lastOpen ts = some t) :
    t ∈ ts ∧ (t = .partiallyFilled ∨ t = .cancelPending) := by
  induction ts with
  | nil => cases h
  | cons t' ts ih =>
    cases hl : lastOpen ts with
    | some x =>
      simp only [lastOpen, hl, Option.some_or, Option.some.injEq] at h; subst h
      exact ⟨List.mem_cons_of_mem _ (ih hl).1, (ih hl).2⟩
    | none =>
      cases t' <;> simp_all [lastOpen, isOpenTarget]

theorem settled_perm (q : IntentState) {ts ts' : List IntentState} (hp : ts.Perm ts')
    (hc : ¬ (.partiallyFilled ∈ ts ∧ .cancelPending ∈ ts ∧ .filled ∉ ts ∧ .cancelled ∉ ts ∧
      .expired ∉ ts ∧ .rejected ∉ ts)) : settled q ts = settled q ts' := by
  have hm : ∀ x : IntentState, x ∈ ts' ↔ x ∈ ts := fun x => hp.symm.mem_iff
  have hopen : ¬ (.partiallyFilled ∈ ts ∧ .cancelPending ∈ ts) → lastOpen ts = lastOpen ts' := by
    intro hno
    cases h : lastOpen ts with
    | none =>
      have := lastOpen_eq_none.1 h
      exact (lastOpen_eq_none.2 (by simpa only [hm] using this)).symm
    | some t =>
      cases h' : lastOpen ts' with
      | none =>
        have := lastOpen_eq_none.1 h'; simp only [hm] at this
        rw [lastOpen_eq_none.2 this] at h; cases h
      | some t' =>
        have h₁ := lastOpen_mem h; have h₂ := lastOpen_mem h'; rw [hm] at h₂
        rcases h₁ with ⟨m₁, rfl | rfl⟩ <;> rcases h₂ with ⟨m₂, rfl | rfl⟩
        · rfl
        · exact absurd ⟨m₁, m₂⟩ hno
        · exact absurd ⟨m₂, m₁⟩ hno
        · rfl
  unfold settled; simp only [List.mem_cons, hm]
  by_cases hno : .partiallyFilled ∈ ts ∧ .cancelPending ∈ ts
  · have : .filled ∈ ts ∨ .cancelled ∈ ts ∨ .expired ∈ ts ∨ .rejected ∈ ts := by
      by_contra hcon; simp only [not_or] at hcon; exact hc ⟨hno.1, hno.2, hcon⟩
    split
    · rfl
    split
    · rfl
    split
    · rfl
    rw [if_pos (by tauto), if_pos (by tauto)]
  · rw [hopen hno]

/-! ## Delivery orders -/

section Delivery

variable {D : Type} [DecidableEq D]

theorem lastOpen_settled {q : IntentState} {ts : List IntentState} (hq : ¬ q.Terminal)
    (hc : .partiallyFilled ∈ ts ∧ .cancelPending ∈ ts ∧ .filled ∉ ts ∧ .cancelled ∉ ts ∧
      .expired ∉ ts ∧ .rejected ∉ ts) : lastOpen ts = some (settled q ts) := by
  obtain ⟨hpf, _, hf, hca, he, hr⟩ := hc
  cases h : lastOpen ts with
  | none => exact absurd hpf (lastOpen_eq_none.1 h).1
  | some t =>
    cases q <;> simp_all [settled, IntentState.Terminal, IntentState.allowedTransitions]

/-- **Delivery orders agree, one case apart.** Two delivery orders of distinct
updates that are both accepted in full end in the same intent state, unless the
updates not applied before hold a partial fill and a pending cancel and nothing
that ends the order; then each ends in the state of the last of those two kinds
it delivered (an intent that was `FILLED` before stays so). -/
theorem delivery_confluent (sha256 : TradeUpdate → D) (st st₁ st₂ : OrderEventState D)
    (us vs : List TradeUpdate) (hp : us.Perm vs) (hd : (us.map (·.eventId)).Nodup)
    (h₁ : applyAll sha256 st us = (st₁, none)) (h₂ : applyAll sha256 st vs = (st₂, none)) :
    (¬ Contended (fresh st us) → st₁.intentState = st₂.intentState) ∧
    (Contended (fresh st us) → st.intentState ≠ .filled →
      lastOpen (targets (fresh st us)) = some st₁.intentState ∧
      lastOpen (targets (fresh st vs)) = some st₂.intentState) := by
  have hd' : (vs.map (·.eventId)).Nodup := (hp.map _).nodup_iff.1 hd
  have r₁ := applyAll_through hd h₁; have r₂ := applyAll_through hd' h₂
  have e₁ := through_settled r₁ fun _ => isTarget_of_mem
  have e₂ := through_settled r₂ fun _ => isTarget_of_mem
  have hpt : (targets (fresh st us)).Perm (targets (fresh st vs)) :=
    (hp.filter _).filterMap _
  constructor
  · intro hc; rw [contended_iff] at hc; rw [e₁, e₂, settled_perm _ hpt hc]
  · intro hc hq; rw [contended_iff] at hc
    have hopen : ¬ st.intentState.Terminal := by
      intro ht; have := through_terminal r₁ ht hc.1; revert ht this hq
      cases st.intentState <;> decide
    have hc' : .partiallyFilled ∈ targets (fresh st vs) ∧ .cancelPending ∈ targets (fresh st vs) ∧
        .filled ∉ targets (fresh st vs) ∧ .cancelled ∉ targets (fresh st vs) ∧
        .expired ∉ targets (fresh st vs) ∧ .rejected ∉ targets (fresh st vs) := by
      simpa only [hpt.mem_iff] using hc
    exact ⟨by rw [e₁]; exact lastOpen_settled hopen hc, by rw [e₂]; exact lastOpen_settled hopen hc'⟩

end Delivery

/-- The cancel race: an accepted order that is filled while its cancel is
pending, in both delivery orders, and one where the broker then ends it. -/
theorem delivery_confluent_cancel_race :
    let start : OrderEventState TradeUpdate := { intentState := .brokerAccepted }
    let fill := workedUpdate .partialFill "e1"
    let pending := workedUpdate .pendingCancel "e2"
    let done := workedUpdate .canceled "e3"
    (applyAll id start [fill, pending, done]).1.intentState =
      (applyAll id start [pending, fill, done]).1.intentState ∧
    lastOpen (targets (fresh start [fill, pending])) =
      some (applyAll id start [fill, pending]).1.intentState := by
  intro start fill pending done
  constructor
  · exact (delivery_confluent id start _ _ [fill, pending, done] [pending, fill, done]
      (.swap _ _ _) (by decide) rfl rfl).1 (by decide)
  · exact ((delivery_confluent id start _ _ [fill, pending] [pending, fill]
      (.swap _ _ _) (by decide) rfl rfl).2 (by decide) (by decide)).1

/-- **Two accepted delivery orders diverge.** A partial fill and a pending
cancel are each legal after the other. -/
theorem delivery_order_diverges :
    let start : OrderEventState TradeUpdate := { intentState := .brokerAccepted }
    let us := [workedUpdate .partialFill "e1", workedUpdate .pendingCancel "e2"]
    let vs := [workedUpdate .pendingCancel "e2", workedUpdate .partialFill "e1"]
    us.Perm vs ∧ (us.map (·.eventId)).Nodup ∧
    (applyAll id start us).2 = none ∧ (applyAll id start vs).2 = none ∧
    (applyAll id start us).1.intentState = .cancelPending ∧
    (applyAll id start vs).1.intentState = .partiallyFilled :=
  ⟨.swap _ _ _, by decide, rfl, rfl, rfl, rfl⟩

end Quantbot.L3.OrderEvents
