import Quantbot.L1Domain.Models

/-!
# Order events applied to an intent state

The pure half of `execution/events.py`: `apply_order_update` folds normalized
stream updates into an intent state and the identities already applied. An
update is known by its `event_id`; a redelivery must carry the content first
applied (the SHA-256 of the update's JSON text, connection generation left
out), and a late event that would regress the lifecycle is ignored when the
pair is listed and refused otherwise. `sha256` is any digest function here:
nothing below needs it to be free of collisions.

`applyAll` is the fold that stops at the first update that raises and keeps the
state reached; `applyEach` is the fold of a caller that catches the error and
goes on.

## Results
* `redelivery_exact` (exactly once): with duplicates of already seen updates
  inserted anywhere later, on any connection, the fold ends in the same state
  with the same error; terminal states are never left; an update that raises
  leaves the folded state as it was.
-/
namespace Quantbot.L3.OrderEvents

open L1

/-! ## Event targets -/

/-- `_EVENT_STATE`, `intent_state_for_trade_update`.
mirrors events.py:52-92 -/
def intentStateForTradeUpdate : TradeUpdateEvent → Option IntentState
  | .accepted | .pendingNew | .new | .held => some .brokerAccepted
  | .partialFill => some .partiallyFilled
  | .fill => some .filled
  | .pendingCancel => some .cancelPending
  | .canceled => some .cancelled
  | .expired => some .expired
  | .rejected => some .rejected
  | .doneForDay | .replaced | .stopped | .pendingReplace | .calculated | .suspended
  | .orderReplaceRejected | .orderCancelRejected | .tradeBust | .tradeCorrect => none

/-- `_IGNORABLE_OUT_OF_ORDER_TRANSITIONS`.
mirrors events.py:77-86 -/
def ignorableOutOfOrderTransitions : List (IntentState × IntentState) :=
  [(.partiallyFilled, .brokerAccepted), (.cancelPending, .brokerAccepted),
    (.filled, .brokerAccepted), (.filled, .partiallyFilled), (.filled, .cancelPending),
    (.filled, .cancelled)]

/-- `OrderEventReconciliationRequired`, by its cause. -/
inductive OrderEventError
  | invalidTransition (current target : IntentState)
  | conflictingDuplicate (eventId : String)
  | intentNotFound (intentId : String)
  | clientOrderMismatch
  | orderIdentityConflict
  | conflictingDurableDuplicate (eventId : String)
  | missingDurableFill
  | conflictingExecution (fillId : String)
deriving DecidableEq, Repr

def OrderEventError.message : OrderEventError → String
  | .invalidTransition c t =>
    "broker event requires an invalid intent transition: " ++ c.value ++ " -> " ++ t.value
  | .conflictingDuplicate e => "conflicting duplicate order event: " ++ e
  | .intentNotFound i => "order intent not found for event: " ++ i
  | .clientOrderMismatch => "broker event client_order_id does not match the local intent"
  | .orderIdentityConflict => "broker event conflicts with the stored order identity"
  | .conflictingDurableDuplicate e => "conflicting duplicate durable order event: " ++ e
  | .missingDurableFill => "duplicate order event is missing its exact durable fill"
  | .conflictingExecution f => "conflicting duplicate execution: " ++ f

/-- `_next_state`.
mirrors events.py:100-108 -/
def nextState (current target : IntentState) : Except OrderEventError IntentState :=
  match transitionOrder current target with
  | .ok q => .ok q
  | .error _ =>
    if (current, target) ∈ ignorableOutOfOrderTransitions then .ok current
    else .error (.invalidTransition current target)

/-- The state one event leads to: events without a target leave the state. -/
def eventState (current : IntentState) (e : TradeUpdateEvent) :
    Except OrderEventError IntentState :=
  match intentStateForTradeUpdate e with
  | none => .ok current
  | some target => nextState current target

theorem nextState_ok {current target q : IntentState} : nextState current target = .ok q ↔
      (Allowed current target ∧ q = target) ∨
      (¬ Allowed current target ∧ (current, target) ∈ ignorableOutOfOrderTransitions ∧
        q = current) := by
  unfold nextState; rw [transitionOrder_eq]; by_cases h : Allowed current target
  · simp [h, eq_comm]
  · simp only [h, if_false]; split <;> simp_all [eq_comm]

theorem nextState_terminal {q target r : IntentState} (hq : q.Terminal)
    (h : nextState q target = .ok r) : r = q := by
  rcases nextState_ok.1 h with ⟨ha, rfl⟩ | ⟨_, _, rfl⟩
  · exact ha.of_terminal hq
  · rfl

theorem eventState_terminal {q r : IntentState} {e : TradeUpdateEvent} (hq : q.Terminal)
    (h : eventState q e = .ok r) : r = q := by
  unfold eventState at h; split at h
  · cases h; rfl
  · exact nextState_terminal hq h

/-! ## The pure fold -/

section Fold

variable {D : Type} [DecidableEq D]

/-- mirrors events.py:31-37 -/
structure AppliedOrderEvent (D : Type) where
  eventId : String
  event : TradeUpdateEvent
  occurredAt : Int
  fingerprint : D
deriving DecidableEq

/-- mirrors events.py:40-51 -/
structure OrderEventState (D : Type) where
  intentState : IntentState
  appliedEvents : List (AppliedOrderEvent D) := []
  nodup : (appliedEvents.map (·.eventId)).Nodup := by simp
deriving DecidableEq

/-- `_event_fingerprint`: the digest of the update without its connection generation.
mirrors events.py:94-97 -/
def eventFingerprint (sha256 : TradeUpdate → D) (u : TradeUpdate) : D := sha256 (u.onGeneration 0)

def appliedOf (sha256 : TradeUpdate → D) (u : TradeUpdate) : AppliedOrderEvent D :=
  ⟨u.eventId, u.event, u.occurredAt, eventFingerprint sha256 u⟩

def OrderEventState.find? (st : OrderEventState D) (eventId : String) :
    Option (AppliedOrderEvent D) :=
  st.appliedEvents.find? fun a => decide (a.eventId = eventId)

/-- `state.model_copy(update=...)` with one more applied event. -/
def OrderEventState.record (sha256 : TradeUpdate → D) (st : OrderEventState D) (q : IntentState)
    (u : TradeUpdate) (h : st.find? u.eventId = none) : OrderEventState D :=
  ⟨q, st.appliedEvents ++ [appliedOf sha256 u], by
    simp only [OrderEventState.find?, List.find?_eq_none, decide_eq_true_eq] at h
    rw [List.map_append, List.nodup_append]
    refine ⟨st.nodup, by simp, fun x hx y hy => ?_⟩
    obtain ⟨b, hb, rfl⟩ := List.mem_map.1 hx
    simp only [List.map_cons, List.map_nil, List.mem_singleton] at hy
    subst hy
    exact h b hb⟩

/-- mirrors events.py:111-138 -/
def applyOrderUpdate (sha256 : TradeUpdate → D) (st : OrderEventState D) (u : TradeUpdate) :
    Except OrderEventError (OrderEventState D) :=
  match h : st.find? u.eventId with
  | some existing =>
    if existing.fingerprint = eventFingerprint sha256 u then .ok st
    else .error (.conflictingDuplicate u.eventId)
  | none =>
    match eventState st.intentState u.event with
    | .error e => .error e
    | .ok q => .ok (st.record sha256 q u h)

/-- Fold up to the first update that raises; the state reached and that error. -/
def applyAll (sha256 : TradeUpdate → D) (st : OrderEventState D) :
    List TradeUpdate → OrderEventState D × Option OrderEventError
  | [] => (st, none)
  | u :: us =>
    match applyOrderUpdate sha256 st u with
    | .ok st' => applyAll sha256 st' us
    | .error e => (st, some e)

/-- One update of a caller that catches the error and keeps its state. -/
def applyOrKeep (sha256 : TradeUpdate → D) (st : OrderEventState D) (u : TradeUpdate) :
    OrderEventState D :=
  (applyOrderUpdate sha256 st u).toOption.getD st

def applyEach (sha256 : TradeUpdate → D) (st : OrderEventState D) (us : List TradeUpdate) :
    OrderEventState D :=
  us.foldl (applyOrKeep sha256) st

/-- The update's identity and content are among the applied events. -/
def Known (sha256 : TradeUpdate → D) (st : OrderEventState D) (u : TradeUpdate) : Prop :=
  ∃ a, st.find? u.eventId = some a ∧ a.fingerprint = eventFingerprint sha256 u

variable {sha256 : TradeUpdate → D} {st st' : OrderEventState D} {u : TradeUpdate}

omit [DecidableEq D] in
omit [DecidableEq D] in
omit [DecidableEq D] in
theorem find?_record {q : IntentState} (h : st.find? u.eventId = none) (i : String) :
    (st.record sha256 q u h).find? i =
      if u.eventId = i then some (appliedOf sha256 u) else st.find? i := by
  unfold OrderEventState.record OrderEventState.find?
  by_cases hi : u.eventId = i
  · subst hi; simp only [OrderEventState.find?] at h; simp [h, appliedOf]
  · simp [hi, appliedOf]

theorem applyOrderUpdate_ok (h : applyOrderUpdate sha256 st u = .ok st') :
    (Known sha256 st u ∧ st' = st) ∨ ∃ (hn : st.find? u.eventId = none) (q : IntentState),
      eventState st.intentState u.event = .ok q ∧ st' = st.record sha256 q u hn := by
  unfold applyOrderUpdate at h; split at h
  · next a ha =>
    split at h
    · next hf => cases h; exact .inl ⟨⟨a, ha, hf⟩, rfl⟩
    · cases h
  · next hn =>
    split at h
    · cases h
    · next q hq => cases h; exact .inr ⟨hn, q, hq, rfl⟩

theorem applyOrderUpdate_fresh (hn : st.find? u.eventId = none) {q : IntentState}
    (hq : eventState st.intentState u.event = .ok q) :
    applyOrderUpdate sha256 st u = .ok (st.record sha256 q u hn) := by
  unfold applyOrderUpdate; split
  · next a ha => rw [hn] at ha; cases ha
  · simp only [hq]

theorem applyOrderUpdate_known (h : Known sha256 st u) : applyOrderUpdate sha256 st u = .ok st := by
  obtain ⟨a, ha, hf⟩ := h; unfold applyOrderUpdate; split
  · next b hb =>
    rw [ha] at hb; cases hb; rw [if_pos hf]
  · next hn => rw [ha] at hn; cases hn

theorem known_of_applied (h : applyOrderUpdate sha256 st u = .ok st') : Known sha256 st' u := by
  rcases applyOrderUpdate_ok h with ⟨hk, rfl⟩ | ⟨hn, q, _, rfl⟩
  · exact hk
  · exact ⟨appliedOf sha256 u, by rw [find?_record, if_pos rfl], rfl⟩

variable {v : TradeUpdate}

theorem Known.step (hv : Known sha256 st v)
    (h : applyOrderUpdate sha256 st u = .ok st') : Known sha256 st' v := by
  obtain ⟨a, ha, hf⟩ := hv
  rcases applyOrderUpdate_ok h with ⟨_, rfl⟩ | ⟨hn, q, _, rfl⟩
  · exact ⟨a, ha, hf⟩
  refine ⟨a, ?_, hf⟩
  have hne : u.eventId ≠ v.eventId := fun he => by rw [he, ha] at hn; cases hn
  rw [find?_record, if_neg hne, ha]

theorem applyOrKeep_of_ok (h : applyOrderUpdate sha256 st u = .ok st') :
    applyOrKeep sha256 st u = st' := by
  simp [applyOrKeep, h, Except.toOption]

variable {e : OrderEventError}

theorem applyOrKeep_of_error (h : applyOrderUpdate sha256 st u = .error e) :
    applyOrKeep sha256 st u = st := by
  simp [applyOrKeep, h, Except.toOption]

theorem Known.keep (hv : Known sha256 st v) : Known sha256 (applyOrKeep sha256 st u) v := by
  cases h : applyOrderUpdate sha256 st u with
  | error e => rw [applyOrKeep_of_error h]; exact hv
  | ok st' => rw [applyOrKeep_of_ok h]; exact hv.step h

theorem Known.each (us : List TradeUpdate) (hv : Known sha256 st v) :
    Known sha256 (applyEach sha256 st us) v := by
  induction us generalizing st with
  | nil => exact hv
  | cons u us ih => exact ih hv.keep

/-! ## Terminal states -/

theorem applyOrderUpdate_terminal (ht : st.intentState.Terminal)
    (h : applyOrderUpdate sha256 st u = .ok st') : st'.intentState = st.intentState := by
  rcases applyOrderUpdate_ok h with ⟨_, rfl⟩ | ⟨_, q, hq, rfl⟩
  · rfl
  · exact eventState_terminal ht hq

theorem applyAll_terminal (us : List TradeUpdate) (ht : st.intentState.Terminal) :
    (applyAll sha256 st us).1.intentState = st.intentState := by
  induction us generalizing st with
  | nil => rfl
  | cons u us ih =>
    simp only [applyAll]; split
    · next st' h =>
      have he := applyOrderUpdate_terminal ht h; rw [ih (he ▸ ht), he]
    · rfl

theorem applyEach_terminal (us : List TradeUpdate) (ht : st.intentState.Terminal) :
    (applyEach sha256 st us).intentState = st.intentState := by
  induction us generalizing st with
  | nil => rfl
  | cons u us ih =>
    have he : (applyOrKeep sha256 st u).intentState = st.intentState := by
      cases h : applyOrderUpdate sha256 st u with
      | error e => rw [applyOrKeep_of_error h]
      | ok st' => rw [applyOrKeep_of_ok h]; exact applyOrderUpdate_terminal ht h
    exact (ih (he ▸ ht)).trans he

/-! ## Redelivery -/

/-- `vs` is `us` with duplicates of already seen updates (same identity and
content, any connection generation) inserted; `seen` is what was delivered
before. -/
inductive Redelivered : List TradeUpdate → List TradeUpdate → List TradeUpdate → Prop
  | nil (seen : List TradeUpdate) : Redelivered seen [] []
  | deliver {seen us vs : List TradeUpdate} (u : TradeUpdate) :
      Redelivered (u :: seen) us vs → Redelivered seen (u :: us) (u :: vs)
  | again {seen us vs : List TradeUpdate} (v : TradeUpdate) (g : Nat) :
      v ∈ seen → Redelivered seen us vs → Redelivered seen us (v.onGeneration g :: vs)

/-- Inserting duplicates of known updates changes neither the state nor the error. -/
theorem applyAll_redelivered {seen us vs : List TradeUpdate} (h : Redelivered seen us vs)
    (hseen : ∀ v ∈ seen, Known sha256 st v) : applyAll sha256 st vs = applyAll sha256 st us := by
  induction h generalizing st with
  | nil => rfl
  | @deliver seen us vs u _ ih =>
    simp only [applyAll]; split
    · next st' hu =>
      refine ih fun v hv => ?_; rcases List.mem_cons.1 hv with rfl | hv
      · exact known_of_applied hu
      · exact (hseen v hv).step hu
    · rfl
  | @again seen us vs v g hv _ ih =>
    have hk : Known sha256 st (v.onGeneration g) := hseen v hv
    simp only [applyAll, applyOrderUpdate_known hk]; exact ih hseen

theorem applyAll_error {us : List TradeUpdate} (h : (applyAll sha256 st us).2 = some e) :
    ∃ pre u post, us = pre ++ u :: post ∧ applyOrderUpdate sha256 (applyAll sha256 st us).1 u = .error e ∧
      applyAll sha256 st pre = ((applyAll sha256 st us).1, none) := by
  induction us generalizing st with
  | nil => cases h
  | cons u us ih =>
    simp only [applyAll] at h ⊢; split at h
    · next st' hu =>
      obtain ⟨pre, v, post, rfl, hv, hpre⟩ := ih h
      exact ⟨u :: pre, v, post, rfl, by simpa only [hu] using hv, by
        simp only [applyAll, hu]; exact hpre⟩
    · next e' hu =>
      cases h
      exact ⟨[], u, us, rfl, by simp only [hu], by simp only [applyAll]⟩

/-- In the fold that goes on after refusals, a redelivery of an applied update
changes nothing, whatever came between. -/
theorem applyEach_redelivered (pre mid post : List TradeUpdate) (v : TradeUpdate) (g : Nat)
    (h : applyOrderUpdate sha256 (applyEach sha256 st pre) v = .ok st') :
    applyEach sha256 st (pre ++ v :: mid ++ v.onGeneration g :: post) =
      applyEach sha256 st (pre ++ v :: mid ++ post) := by
  have hk : Known sha256 (applyEach sha256 st (pre ++ v :: mid)) v := by
    simp only [applyEach, List.foldl_append, List.foldl_cons]
    refine Known.each mid ?_
    rw [show pre.foldl (applyOrKeep sha256) st = applyEach sha256 st pre from rfl,
      applyOrKeep_of_ok h]
    exact known_of_applied h
  have hv : applyOrKeep sha256 (applyEach sha256 st (pre ++ v :: mid)) (v.onGeneration g) =
      applyEach sha256 st (pre ++ v :: mid) :=
    applyOrKeep_of_ok (applyOrderUpdate_known (u := v.onGeneration g) hk)
  simp only [applyEach, List.foldl_append, List.foldl_cons] at hv ⊢; rw [hv]

/-- **Exactly once.** Duplicates of already seen updates, inserted at any later
position and on any connection, change neither the final state nor the error of
the fold, and none of an applied update changes the fold that goes on after
refusals; a terminal state is never left; an update that raises leaves the
folded state as it was. -/
theorem redelivery_exact (sha256 : TradeUpdate → D) (st : OrderEventState D) :
    (∀ us vs, Redelivered [] us vs → applyAll sha256 st vs = applyAll sha256 st us) ∧
    (∀ pre v g mid post st', applyOrderUpdate sha256 (applyEach sha256 st pre) v = .ok st' →
      applyEach sha256 st (pre ++ v :: mid ++ v.onGeneration g :: post) =
        applyEach sha256 st (pre ++ v :: mid ++ post)) ∧ (st.intentState.Terminal → ∀ us,
      (applyAll sha256 st us).1.intentState = st.intentState ∧
      (applyEach sha256 st us).intentState = st.intentState) ∧
    (∀ us e, (applyAll sha256 st us).2 = some e → ∃ pre u post, us = pre ++ u :: post ∧
        applyOrderUpdate sha256 (applyAll sha256 st us).1 u = .error e ∧
        applyAll sha256 st pre = ((applyAll sha256 st us).1, none)) ∧
    (∀ u e, applyOrderUpdate sha256 st u = .error e → applyOrKeep sha256 st u = st) := by
  refine ⟨fun us vs h => applyAll_redelivered h (by simp), ?_, ?_, ?_, ?_⟩
  · intro pre v g mid post st' h; exact applyEach_redelivered pre mid post v g h
  · exact fun ht us => ⟨applyAll_terminal us ht, applyEach_terminal us ht⟩
  · exact fun us e h => applyAll_error h
  · exact fun u e h => applyOrKeep_of_error h

end Fold

/-! ## A worked order

The order of tests/unit/execution/test_events.py:32-80. -/

def workedOrder : BrokerOrder where
  brokerOrderId := "broker-order-1"
  clientOrderId := "qb-client-1"
  symbol := "SPY"
  side := .buy
  orderType := .market
  timeInForce := .day
  quantity := 10
  filledQuantity := 4
  status := "partially_filled"
  submittedAt := 0
  filledAveragePrice := some 100
  quantity_pos := by decide
  filled_nonneg := by decide
  filled_le := by decide

def workedFill (fillId : String) : Fill where
  fillId := fillId
  brokerOrderId := "broker-order-1"
  symbol := "SPY"
  side := .buy
  quantity := 4
  price := 100
  occurredAt := 0
  quantity_pos := L1.lot_pos
  price_pos := L1.hundred_pos
  fee_nonneg := L1.fee_absent
  fee_valid := L1.fee_unknown

def workedUpdate (e : TradeUpdateEvent) (eventId : String)
    (h : eventId ≠ "" ∧ strip eventId = eventId := by decide) : TradeUpdate where
  event := e
  eventId := eventId
  order := workedOrder
  occurredAt := 0
  fill := if e.isFill then some (workedFill eventId) else none
  positionQuantity := if e.isFill then some 4 else none
  connectionGeneration := 0
  fill_shape := by cases e.isFill <;> simp
  eventId_text := h

theorem redelivery_exact_reconnect :
    let new := workedUpdate .new "e1"
    let fill := workedUpdate .fill "e2"
    let start : OrderEventState TradeUpdate := { intentState := .submitting }
    let done : OrderEventState TradeUpdate := { intentState := .filled }
    applyAll id start [new, fill, new.onGeneration 1] = applyAll id start [new, fill] ∧
    applyEach id start ([] ++ new :: [fill] ++ new.onGeneration 1 :: []) =
      applyEach id start ([] ++ new :: [fill] ++ []) ∧
    (applyAll id done [new]).1.intentState = .filled ∧
    (∃ pre u post, [workedUpdate .expired "e3"] = pre ++ u :: post ∧
      applyAll id done pre = (done, none)) ∧
    applyOrKeep id done (workedUpdate .expired "e3") = done := by
  intro new fill start done
  refine ⟨(redelivery_exact id start).1 _ _
      (.deliver new (.deliver fill (.again new 1 (by simp) (.nil _)))),
    (redelivery_exact id start).2.1 [] new 1 [fill] [] _
      (applyOrderUpdate_fresh rfl (q := .brokerAccepted) rfl),
    ((redelivery_exact id done).2.2.1 (by decide) [new]).1, ?_,
    (redelivery_exact id done).2.2.2.2 _ (.invalidTransition .filled .expired) rfl⟩
  obtain ⟨pre, u, post, he, _, hpre⟩ := (redelivery_exact id done).2.2.2.1
    [workedUpdate .expired "e3"] (.invalidTransition .filled .expired) rfl
  exact ⟨pre, u, post, he, hpre⟩

end Quantbot.L3.OrderEvents
