import Quantbot.L2Storage.Repository
import Quantbot.L3Execution.OrderEvents

/-!
# The durable order-update path

`persist_order_update` (events.py:163-223) re-derives from the database what
`apply_order_update` reads off its folded state: duplicates from the
`order_events` row, the current state from `order_intents`, and it records the
fill. `Matches` relates the two: the pure state's applied events are the stored
event rows of the intent.

The two paths know a duplicate by different marks. The row stores every number
by value (`encode_decimal`), the pure fold digests the update's JSON text, which
keeps the spelling of a number ("100" or "100.0"). So a redelivery spelled
otherwise is a duplicate to the durable path and a conflict to the fold.

## Results
* `respelled_redelivery_diverges`: two deliveries the durable path accepts and
  the fold refuses.
* `persist_refines`: over every accepted sequence, the fold accepts it too and
  ends in the stored state iff no redelivery changes its event's digest; the
  fold that goes on after refusals always ends in the stored state, and every
  fill delivered is stored exactly once.
-/
namespace Quantbot.L3.OrderEvents

open Core L1 L2 Txn

/-! ## The durable call -/

/-- `OrderEventReconciliationRequired`, or a repository error that passes through. -/
inductive PersistError
  | reconciliation (error : OrderEventError)
  | storage (error : StoreError)
deriving DecidableEq, Repr

/-- A repository call; under `except StateConflictError`, a conflict becomes `onConflict`. -/
def calling {α : Type} (onConflict : Option OrderEventError) (x : Repo α) :
    Txn Store PersistError α := fun s =>
  match x s with
  | .ok a s' => .ok a s'
  | .error e s' =>
    match e, onConflict with
    | .stateConflict _, some c => .error (.reconciliation c) s'
    | _, _ => .error (.storage e) s'

@[simp] theorem calling_ok {α : Type} {c : Option OrderEventError} {x : Repo α} {s s' : Store}
    {a : α} : calling c x s = .ok a s' ↔ x s = .ok a s' := by
  unfold calling
  cases x s with
  | ok b t => simp
  | error e t => cases e <;> cases c <;> simp

/-- `_durable_event_detail`: the update without its connection generation, numbers by value. -/
def durableEventDetail (u : TradeUpdate) : EventDetail :=
  .tradeUpdate { u.onGeneration 0 with spelling := {} }

/-- The row `persist_order_update` records for an update. -/
def eventRow (intentId : String) (u : TradeUpdate) : OrderEventRow where
  eventId := u.eventId
  intentId := some intentId
  brokerOrderId := some u.order.brokerOrderId
  eventType := u.event.value
  occurredAt := u.occurredAt
  detail := durableEventDetail u

/-- Save an unseen order, or compare the stored order's identity.
mirrors events.py:176-184 -/
def admitOrder (u : TradeUpdate) : Txn Store PersistError PUnit := do
  match ← calling none (getBrokerOrder u.order.brokerOrderId) with
  | none => do
    let _ ← calling (some (.conflictingDurableDuplicate u.eventId)) (saveBrokerOrder u.order)
  | some stored => require (SameIdentity stored u.order) (.reconciliation .orderIdentityConflict)

/-- A duplicate must find its exact fill stored.
mirrors events.py:196-201 -/
def checkDuplicate (u : TradeUpdate) : Txn Store PersistError PUnit := do
  match u.fill with
  | none => pure ⟨⟩
  | some fill =>
    let stored ← calling none (getFill fill.fillId)
    require (stored = some fill) (.reconciliation .missingDurableFill)

/-- mirrors events.py:203-209 -/
def recordUpdateFill (u : TradeUpdate) : Txn Store PersistError PUnit := do
  match u.fill with
  | none => pure ⟨⟩
  | some fill => do
    let _ ← calling (some (.conflictingExecution fill.fillId)) (recordFill fill)

/-- mirrors events.py:211-223 -/
def advanceIntent (intent : OrderIntent) (u : TradeUpdate) : Txn Store PersistError OrderIntent := do
  match intentStateForTradeUpdate u.event with
  | none => pure intent
  | some target =>
    match nextState intent.state target with
    | .error e => throw (.reconciliation e)
    | .ok q =>
      if q = intent.state then pure intent
      else calling none (transitionOrderIntent intent.intentId q intent.state)

/-- mirrors events.py:163-223 -/
def persistOrderUpdate (intentId : String) (u : TradeUpdate) : Txn Store PersistError OrderIntent := do
  match ← calling none (getOrderIntent intentId) with
  | none => throw (.reconciliation (.intentNotFound intentId))
  | some intent =>
    require (intent.clientOrderId = u.order.clientOrderId) (.reconciliation .clientOrderMismatch)
    admitOrder u
    let created ← calling (some (.conflictingDurableDuplicate u.eventId))
      (recordOrderEvent (eventRow intentId u))
    if created = false then
      checkDuplicate u
      pure intent
    else
      recordUpdateFill u
      advanceIntent intent u

/-- A sequence of accepted updates, each in its own transaction. -/
def persistAll (intentId : String) : List TradeUpdate → Txn Store PersistError PUnit
  | [] => pure ⟨⟩
  | u :: us => do
    let _ ← immediate (persistOrderUpdate intentId u)
    persistAll intentId us

/-! ## What one accepted update writes -/

variable {s s' : Store} {u : TradeUpdate} {intentId : String} {x : PUnit}

theorem admitOrder_ok (h : admitOrder u s = .ok x s') :
    s'.orderIntents = s.orderIntents ∧ s'.fills = s.fills ∧ s'.orderEvents = s.orderEvents := by
  unfold admitOrder at h; rw [bind_ok] at h; obtain ⟨o, s₁, hg, h⟩ := h
  obtain ⟨rfl, rfl⟩ := getBrokerOrder_ok.1 (calling_ok.1 hg)
  cases ho : s₁.brokerOrders.get? u.order.brokerOrderId with
  | none =>
    simp only [ho] at h; rw [bind_ok] at h; obtain ⟨b, s₂, hs, h⟩ := h
    obtain ⟨_, rfl⟩ := pure_ok.1 h
    rcases saveBrokerOrder_ok (calling_ok.1 hs) with ⟨_, _, rfl⟩ | ⟨_, _, _, _, rfl⟩
    · exact ⟨rfl, rfl, rfl⟩
    · exact ⟨rfl, rfl, rfl⟩
  | some stored =>
    simp only [ho] at h; obtain ⟨_, rfl⟩ := require_ok.1 h
    exact ⟨rfl, rfl, rfl⟩

theorem checkDuplicate_ok (h : checkDuplicate u s = .ok x s') :
    s' = s ∧ ∀ f ∈ u.fill, (s.fills.get? f.fillId).map fillFromRow = some f := by
  unfold checkDuplicate at h
  cases hf : u.fill with
  | none =>
    simp only [hf] at h; obtain ⟨_, rfl⟩ := pure_ok.1 h; exact ⟨rfl, by simp⟩
  | some fill =>
    simp only [hf] at h; rw [bind_ok] at h; obtain ⟨o, s₁, hg, h⟩ := h
    obtain ⟨rfl, rfl⟩ := getFill_ok.1 (calling_ok.1 hg)
    obtain ⟨he, rfl⟩ := require_ok.1 h; exact ⟨rfl, by simpa using he⟩

/-- The fill is stored by value and every stored fill stays. -/
structure FillStored (s s' : Store) (fill : Option Fill) : Prop where
  keeps : ∀ i row, s.fills.get? i = some row → s'.fills.get? i = some row
  stored : ∀ f ∈ fill, (s'.fills.get? f.fillId).map fillFromRow = some (fillFromRow f)

theorem fillFromRow_idem (row : Fill) : fillFromRow (fillFromRow row) = fillFromRow row := by
  unfold fillFromRow; by_cases h : row.feeSource = .unknown ∧ row.fee = some 0
  · simp [h]
  · simp only [h, dif_neg, not_false_eq_true]

theorem recordUpdateFill_ok (h : recordUpdateFill u s = .ok x s') :
    s'.orderIntents = s.orderIntents ∧ s'.orderEvents = s.orderEvents ∧ FillStored s s' u.fill := by
  unfold recordUpdateFill at h
  cases hf : u.fill with
  | none =>
    simp only [hf] at h; obtain ⟨_, rfl⟩ := pure_ok.1 h
    exact ⟨rfl, rfl, fun _ _ h => h, by simp⟩
  | some fill =>
    simp only [hf] at h; rw [bind_ok] at h; obtain ⟨b, s₁, hr, h⟩ := h
    obtain ⟨_, rfl⟩ := pure_ok.1 h
    rcases recordFill_ok (calling_ok.1 hr) with ⟨_, rfl, row, hrow, hsame⟩ | ⟨_, hn, _, rfl⟩
    · refine ⟨rfl, rfl, fun _ _ h => h, ?_⟩; intro f hf'
      obtain rfl := Option.mem_some_iff.1 hf'; rw [hrow, Option.map_some]
      rcases hsame with rfl | hsame
      · rfl
      · rw [← hsame, fillFromRow_idem]
    · refine ⟨rfl, rfl, fun i row hi => ?_, ?_⟩
      · rw [Table.get?_insert hn, if_neg]
        · exact hi
        rintro rfl; rw [hn] at hi; cases hi
      · intro f hf'; obtain rfl := Option.mem_some_iff.1 hf'
        rw [Table.get?_insert hn, if_pos rfl, Option.map_some]

theorem advanceIntent_ok {intent r : OrderIntent} (hi : s.orderIntents.get? intentId = some intent)
    (h : advanceIntent intent u s = .ok r s') : ∃ q, eventState intent.state u.event = .ok q ∧
      s'.orderIntents.get? intentId = some (intent.withState q) ∧ s'.fills = s.fills ∧
      s'.orderEvents = s.orderEvents := by
  have hid : intent.intentId = intentId := (Table.get?_some hi).2
  unfold advanceIntent at h; unfold eventState
  cases ht : intentStateForTradeUpdate u.event with
  | none =>
    simp only [ht] at h; obtain ⟨_, rfl⟩ := pure_ok.1 h
    exact ⟨intent.state, rfl, hi, rfl, rfl⟩
  | some target =>
    simp only [ht] at h ⊢
    cases hq : nextState intent.state target with
    | error e => simp [hq] at h
    | ok q =>
      simp only [hq] at h; refine ⟨q, rfl, ?_⟩; split at h
      · next hsame =>
        obtain ⟨_, rfl⟩ := pure_ok.1 h
        exact ⟨by rw [hsame, OrderIntent.withState_self]; exact hi, rfl, rfl⟩
      · obtain ⟨stored, hs, _, _, _, rfl⟩ := transitionOrderIntent_ok (calling_ok.1 h)
        rw [hid] at hs ⊢; rw [hi, Option.some.injEq] at hs
        exact ⟨by rw [setState_get?, if_pos rfl, hi, Option.map_some], rfl, rfl⟩

/-- The two ways an update is accepted: its row is stored already, or it is recorded
now and the intent moves where the event leads. -/
theorem persistOrderUpdate_ok {r : OrderIntent} (h : persistOrderUpdate intentId u s = .ok r s') :
    ∃ intent, s.orderIntents.get? intentId = some intent ∧
      ((s.orderEvents.get? u.eventId = some (eventRow intentId u) ∧
          s'.orderIntents = s.orderIntents ∧ s'.orderEvents = s.orderEvents ∧
          FillStored s s' u.fill) ∨ (s.orderEvents.get? u.eventId = none ∧
          s'.orderEvents = s.orderEvents.insert (eventRow intentId u) ∧
          ∃ q, eventState intent.state u.event = .ok q ∧
            s'.orderIntents.get? intentId = some (intent.withState q) ∧
            FillStored s s' u.fill)) := by
  unfold persistOrderUpdate at h; rw [bind_ok] at h; obtain ⟨o, s₁, hg, h⟩ := h
  obtain ⟨rfl, rfl⟩ := getOrderIntent_ok.1 (calling_ok.1 hg)
  cases hi : s₁.orderIntents.get? intentId with
  | none => simp [hi] at h
  | some intent =>
    simp only [hi] at h; rw [bind_ok] at h; obtain ⟨_, s₂, hreq, h⟩ := h
    obtain ⟨_, rfl⟩ := require_ok.1 hreq; rw [bind_ok] at h
    obtain ⟨_, s₃, hadm, h⟩ := h; obtain ⟨ha₁, ha₂, ha₃⟩ := admitOrder_ok hadm
    rw [bind_ok] at h; obtain ⟨created, s₄, hrec, h⟩ := h
    refine ⟨intent, rfl, ?_⟩
    rcases recordOrderEvent_ok (calling_ok.1 hrec) with ⟨rfl, hrow, rfl⟩ | ⟨rfl, hnone, rfl⟩
    · left; rw [if_pos rfl] at h; rw [bind_ok] at h
      obtain ⟨_, s₅, hdup, h⟩ := h
      obtain ⟨rfl, hfill⟩ := checkDuplicate_ok hdup
      obtain ⟨_, rfl⟩ := pure_ok.1 h
      refine ⟨ha₃ ▸ hrow, ha₁, ha₃, fun i row hrow' => by rw [ha₂]; exact hrow', ?_⟩
      intro f hf; have hst := hfill f hf; rw [hst]
      obtain ⟨row, -, hrow⟩ := Option.map_eq_some_iff.1 hst
      rw [← hrow, fillFromRow_idem]
    · right; rw [if_neg (by decide)] at h; rw [bind_ok] at h
      obtain ⟨_, s₅, hfl, h⟩ := h
      obtain ⟨hf₁, hf₂, hf₃⟩ := recordUpdateFill_ok hfl
      have hi' : s₅.orderIntents.get? intentId = some intent := by rw [hf₁]; exact ha₁ ▸ hi
      obtain ⟨q, hq, hget, hfills, hev⟩ := advanceIntent_ok hi' h
      refine ⟨ha₃ ▸ hnone, by rw [hev, hf₂, ha₃], q, hq, hget, ?_, ?_⟩
      · intro i row hrow'; rw [hfills]
        exact hf₃.keeps i row (by rw [← ha₂] at hrow'; exact hrow')
      · rw [hfills]; exact hf₃.stored

/-! ## The stored rows as a pure state -/

section Refinement

variable {D : Type} [DecidableEq D] {sha256 : TradeUpdate → D} {st : OrderEventState D}
  {hist us : List TradeUpdate}

/-- The store and the pure state hold one history: `hist` lists the updates applied,
each once. -/
structure Matches (sha256 : TradeUpdate → D) (intentId : String) (s : Store)
    (st : OrderEventState D) (hist : List TradeUpdate) : Prop where
  intent : ∃ i, s.orderIntents.get? intentId = some i ∧ i.state = st.intentState
  stored : ∀ v ∈ hist, s.orderEvents.get? v.eventId = some (eventRow intentId v)
  complete : ∀ u : TradeUpdate, s.orderEvents.get? u.eventId = some (eventRow intentId u) →
    ∃ v ∈ hist, v.eventId = u.eventId
  applied : ∀ v ∈ hist, st.find? v.eventId = some (appliedOf sha256 v)
  source : ∀ i a, st.find? i = some a → ∃ v ∈ hist, v.eventId = i

omit [DecidableEq D] in
/-- A stored intent with none of its update rows matches the state with no event applied. -/
theorem matches_fresh (sha256 : TradeUpdate → D) {i : OrderIntent}
    (hi : s.orderIntents.get? intentId = some i)
    (hfresh : ∀ u : TradeUpdate, s.orderEvents.get? u.eventId ≠ some (eventRow intentId u)) :
    Matches sha256 intentId s { intentState := i.state } [] where
  intent := ⟨i, hi, rfl⟩
  stored := by simp
  complete u hu := absurd hu (hfresh u)
  applied := by simp
  source j a h := by simp [OrderEventState.find?] at h

/-- The step lemma. A stored update is known to the fold, or refused when its digest
changed; a new one is applied by both paths alike. -/
theorem persist_step {r : OrderIntent} (hm : Matches sha256 intentId s st hist)
    (h : persistOrderUpdate intentId u s = .ok r s') : FillStored s s' u.fill ∧
    ((∃ v ∈ hist, v.eventId = u.eventId ∧ Matches sha256 intentId s' st hist ∧
        applyOrderUpdate sha256 st u =
          if eventFingerprint sha256 v = eventFingerprint sha256 u then .ok st
          else .error (.conflictingDuplicate u.eventId)) ∨
      ∃ st', applyOrderUpdate sha256 st u = .ok st' ∧
        Matches sha256 intentId s' st' (hist ++ [u])) := by
  obtain ⟨i, hi, hstate⟩ := hm.intent
  obtain ⟨intent, hintent, hcase⟩ := persistOrderUpdate_ok h
  obtain rfl : i = intent := by rw [hi, Option.some.injEq] at hintent; exact hintent
  rcases hcase with ⟨hrow, hints, hevs, hfill⟩ | ⟨hnone, hevs, q, hq, hget, hfill⟩
  · refine ⟨hfill, .inl ?_⟩; obtain ⟨v, hv, hid⟩ := hm.complete u hrow
    refine ⟨v, hv, hid, ?_, ?_⟩
    · exact { intent := ⟨i, by rw [hints]; exact hi, hstate⟩
              stored := fun w hw => by rw [hevs]; exact hm.stored w hw
              complete := fun w hw => hm.complete w (by rw [hevs] at hw; exact hw)
              applied := hm.applied
              source := hm.source }
    · have ha := hm.applied v hv; rw [hid] at ha; unfold applyOrderUpdate; split
      · next a ha' =>
        rw [ha, Option.some.injEq] at ha'; subst ha'; rfl
      · next hn => rw [ha] at hn; cases hn
  · refine ⟨hfill, .inr ?_⟩
    have hn : st.find? u.eventId = none := by
      cases ha : st.find? u.eventId with
      | none => rfl
      | some a =>
        obtain ⟨v, hv, hid⟩ := hm.source _ _ ha; have := hm.stored v hv
        rw [hid, hnone] at this; cases this
    rw [hstate] at hq; refine ⟨_, applyOrderUpdate_fresh hn hq, ?_⟩
    have hother : ∀ v ∈ hist, v.eventId ≠ u.eventId := by
      intro v hv hid; have := hm.stored v hv; rw [hid, hnone] at this
      cases this
    have hget' : ∀ j, s'.orderEvents.get? j =
        if u.eventId = j then some (eventRow intentId u) else s.orderEvents.get? j := by
      intro j; rw [hevs]
      exact Table.get?_insert (a := eventRow intentId u) hnone j
    exact { intent := ⟨_, hget, rfl⟩
            stored := fun v hv => by
              rcases List.mem_append.1 hv with hv | hv
              · rw [hget', if_neg (hother v hv).symm]; exact hm.stored v hv
              · rw [List.mem_singleton.1 hv, hget', if_pos rfl]
            complete := fun w hw => by
              rw [hget'] at hw; by_cases hid : u.eventId = w.eventId
              · exact ⟨u, by simp, hid⟩
              rw [if_neg hid] at hw; obtain ⟨v, hv, hvid⟩ := hm.complete w hw
              exact ⟨v, List.mem_append_left _ hv, hvid⟩
            applied := fun v hv => by
              rw [find?_record]; rcases List.mem_append.1 hv with hv | hv
              · rw [if_neg (hother v hv).symm]; exact hm.applied v hv
              · rw [List.mem_singleton.1 hv, if_pos rfl]
            source := fun j a ha => by
              rw [find?_record] at ha; by_cases hid : u.eventId = j
              · exact ⟨u, by simp, hid⟩
              rw [if_neg hid] at ha; obtain ⟨v, hv, hvid⟩ := hm.source j a ha
              exact ⟨v, List.mem_append_left _ hv, hvid⟩ }

/-- Deliveries of one event id carry one digest. -/
def SameDigest (sha256 : TradeUpdate → D) (us : List TradeUpdate) : Prop :=
  ∀ u ∈ us, ∀ v ∈ us, u.eventId = v.eventId → eventFingerprint sha256 u = eventFingerprint sha256 v

instance (us : List TradeUpdate) : Decidable (SameDigest sha256 us) :=
  inferInstanceAs (Decidable (∀ u ∈ us, ∀ v ∈ us, _ → _))

omit [DecidableEq D] in
theorem sameDigest_again {v : TradeUpdate} (hv : v ∈ hist) (hid : v.eventId = u.eventId)
    (hfp : eventFingerprint sha256 v = eventFingerprint sha256 u) :
    SameDigest sha256 (hist ++ u :: us) ↔ SameDigest sha256 (hist ++ us) := by
  constructor
  · intro h a ha b hb
    have hsub : ∀ x ∈ hist ++ us, x ∈ hist ++ u :: us := by
      intro x hx; rcases List.mem_append.1 hx with hx | hx
      · exact List.mem_append_left _ hx
      · exact List.mem_append_right _ (List.mem_cons_of_mem _ hx)
    exact h a (hsub a ha) b (hsub b hb)
  · intro h a ha b hb hab
    have hpick : ∀ x ∈ hist ++ u :: us, ∃ y ∈ hist ++ us, y.eventId = x.eventId ∧
        eventFingerprint sha256 y = eventFingerprint sha256 x := by
      intro x hx; rcases List.mem_append.1 hx with hx | hx
      · exact ⟨x, List.mem_append_left _ hx, rfl, rfl⟩
      rcases List.mem_cons.1 hx with rfl | hx
      · exact ⟨v, List.mem_append_left _ hv, hid, hfp⟩
      · exact ⟨x, List.mem_append_right _ hx, rfl, rfl⟩
    obtain ⟨a', ha', hai, haf⟩ := hpick a ha
    obtain ⟨b', hb', hbi, hbf⟩ := hpick b hb; rw [← haf, ← hbf]
    exact h a' ha' b' hb' (by rw [hai, hbi, hab])

/-- The fold that stops and the fold that goes on agree when nothing is refused. -/
theorem applyAll_each (us : List TradeUpdate) (h : (applyAll sha256 st us).2 = none) :
    (applyAll sha256 st us).1 = applyEach sha256 st us := by
  induction us generalizing st with
  | nil => rfl
  | cons u us ih =>
    simp only [applyAll] at h ⊢; split at h
    · next st' hu =>
      simp only [applyEach, List.foldl_cons, applyOrKeep_of_ok hu]; exact ih h
    · cases h

/-- Every fill delivered is stored by value, under its id, exactly once. -/
def FillsOnce (s : Store) (us : List TradeUpdate) : Prop :=
  ∀ u ∈ us, ∀ f ∈ u.fill, (s.fills.get? f.fillId).map fillFromRow = some (fillFromRow f) ∧
    (s.fills.rows.filter fun row => decide (row.fillId = f.fillId)).length = 1

theorem fill_once {f : Fill} (h : (s.fills.get? f.fillId).map fillFromRow = some (fillFromRow f)) :
    (s.fills.rows.filter fun row => decide (row.fillId = f.fillId)).length = 1 := by
  obtain ⟨row, hrow, -⟩ := Option.map_eq_some_iff.1 h
  exact Table.filter_key_length hrow

/-- The run lemma: the history grows with the sequence, the pure fold follows, and
stored fills stay. -/
theorem persist_run (us : List TradeUpdate) (hm : Matches sha256 intentId s st hist)
    (h : persistAll intentId us s = .ok x s') :
    (∃ hist', Matches sha256 intentId s' (applyEach sha256 st us) hist') ∧
    ((applyAll sha256 st us).2 = none ↔ SameDigest sha256 (hist ++ us)) ∧
    (∀ i row, s.fills.get? i = some row → s'.fills.get? i = some row) ∧ FillsOnce s' us := by
  induction us generalizing s st hist with
  | nil =>
    obtain ⟨_, rfl⟩ := pure_ok.1 h
    refine ⟨⟨hist, hm⟩, ⟨fun _ => ?_, fun _ => rfl⟩, fun _ _ h => h, by simp [FillsOnce]⟩
    intro a ha b hb hab; rw [List.append_nil] at ha hb
    have h₁ := hm.applied a ha
    rw [hab, hm.applied b hb, Option.some.injEq] at h₁
    exact (congrArg AppliedOrderEvent.fingerprint h₁).symm
  | cons u us ih =>
    unfold persistAll at h; rw [bind_ok] at h; obtain ⟨r, s₁, hu, h⟩ := h
    obtain ⟨hfill, hcase⟩ := persist_step hm (immediate_ok.1 hu)
    have honce : ∀ {hist₁ : List TradeUpdate} {st₁ : OrderEventState D},
        Matches sha256 intentId s₁ st₁ hist₁ →
        (∀ i row, s.fills.get? i = some row → s'.fills.get? i = some row) ∧
        FillsOnce s' (u :: us) := by
      intro hist₁ st₁ hm₁; obtain ⟨_, _, hkeep, hrest⟩ := ih hm₁ h
      refine ⟨fun i row hrow => hkeep i row (hfill.keeps i row hrow), ?_⟩
      refine List.forall_mem_cons.2 ⟨fun f hf => ?_, hrest⟩
      obtain ⟨row, hrow, hval⟩ := Option.map_eq_some_iff.1 (hfill.stored f hf)
      have hstored : (s'.fills.get? f.fillId).map fillFromRow = some (fillFromRow f) := by
        rw [hkeep _ _ hrow, Option.map_some, hval]
      exact ⟨hstored, fill_once hstored⟩
    simp only [applyAll, applyEach, List.foldl_cons]
    rcases hcase with ⟨v, hv, hid, hm₁, happly⟩ | ⟨st₁, happly, hm₁⟩
    · obtain ⟨hmatch, hiff, _⟩ := ih hm₁ h
      by_cases hfp : eventFingerprint sha256 v = eventFingerprint sha256 u
      · rw [if_pos hfp] at happly; rw [applyOrKeep_of_ok happly]
        simp only [happly]
        exact ⟨hmatch, hiff.trans (sameDigest_again hv hid hfp).symm, honce hm₁⟩
      rw [if_neg hfp] at happly; rw [applyOrKeep_of_error happly]
      simp only [happly, reduceCtorEq, false_iff]
      refine ⟨hmatch, fun hsame => hfp ?_, honce hm₁⟩
      exact hsame v (List.mem_append_left _ hv) u (by simp) hid
    · obtain ⟨hmatch, hiff, _⟩ := ih hm₁ h; rw [applyOrKeep_of_ok happly]
      simp only [happly]; rw [List.append_assoc, List.singleton_append] at hiff
      exact ⟨hmatch, hiff, honce hm₁⟩

/-- The stored state of an intent. -/
def storedState (s : Store) (intentId : String) : Option IntentState :=
  (s.orderIntents.get? intentId).map (·.state)

/-- **The durable path refines the fold, exactly while redeliveries keep their
digest.** Over every sequence the durable path accepts, from a store that holds
the history `hist` of the pure state: the fold accepts the sequence as well, ends
in the stored state, and each fill is stored once, iff deliveries of one event id
carry one digest. The fold that goes on after refusals ends in the stored state
in any case, and the fills are stored once in any case. -/
theorem persist_refines (sha256 : TradeUpdate → D) (intentId : String) (s s' : Store)
    (st : OrderEventState D) (hist us : List TradeUpdate)
    (hm : Matches sha256 intentId s st hist) (h : persistAll intentId us s = .ok ⟨⟩ s') :
    (((applyAll sha256 st us).2 = none ∧
        storedState s' intentId = some (applyAll sha256 st us).1.intentState ∧ FillsOnce s' us) ↔
      SameDigest sha256 (hist ++ us)) ∧
    storedState s' intentId = some (applyEach sha256 st us).intentState ∧ FillsOnce s' us := by
  obtain ⟨⟨hist', hm'⟩, hiff, _, honce⟩ := persist_run us hm h
  have hstate : storedState s' intentId = some (applyEach sha256 st us).intentState := by
    obtain ⟨i, hi, hq⟩ := hm'.intent; rw [storedState, hi, Option.map_some, hq]
  refine ⟨⟨fun hp => hiff.1 hp.1, fun hs => ?_⟩, hstate, honce⟩
  have hnone := hiff.2 hs
  exact ⟨hnone, by rw [applyAll_each us hnone]; exact hstate, honce⟩

end Refinement

/-! ## A redelivery, in the same spelling and in another -/

/-- The intent of tests/unit/execution/test_events.py:83-97, accepted by the broker. -/
def workedIntent : OrderIntent where
  intentId := "intent-1"
  clientOrderId := "qb-client-1"
  strategyId := "full-v1:test"
  symbol := "SPY"
  signalDate := 0
  side := .buy
  orderType := .market
  timeInForce := .day
  quantity := 10
  state := .brokerAccepted
  createdAt := 0
  quantity_pos := L1.ten_pos
  prices := L1.market_unpriced

def workedStore : Store := { orderIntents := UTable.empty.insert workedIntent }

/-- The partial fill as delivered again after a reconnect, the quantity written "4.0". -/
def respelled : TradeUpdate :=
  { (workedUpdate .partialFill "e1").onGeneration 1 with spelling := { fillQuantity := -1 } }

theorem workedStore_fresh (u : TradeUpdate) :
    workedStore.orderEvents.get? u.eventId ≠ some (eventRow "intent-1" u) := by
  simp [workedStore, Table.get?, Table.empty]

theorem persist_refines_reconnect :
    let us := [workedUpdate .partialFill "e1", (workedUpdate .partialFill "e1").onGeneration 1]
    ∃ s', persistAll "intent-1" us workedStore = .ok ⟨⟩ s' ∧
      (applyAll id { intentState := .brokerAccepted } us).2 = none ∧
      storedState s' "intent-1" = some .partiallyFilled ∧ FillsOnce s' us := by
  intro us
  cases h : persistAll "intent-1" us workedStore with
  | error e t => cases h
  | ok x s' =>
    obtain ⟨hiff, hstate, honce⟩ := persist_refines id "intent-1" workedStore s'
      { intentState := .brokerAccepted } [] us
      (matches_fresh id (i := workedIntent) rfl workedStore_fresh) h
    exact ⟨s', rfl, (hiff.2 (by decide)).1, hstate, honce⟩

/-- **The two paths part.** The durable path accepts a redelivery whose quantity is
written with one more zero; the fold refuses it as a conflicting duplicate. -/
theorem respelled_redelivery_diverges :
    let us := [workedUpdate .partialFill "e1", respelled]
    (∃ s', persistAll "intent-1" us workedStore = .ok ⟨⟩ s' ∧
      storedState s' "intent-1" = some .partiallyFilled) ∧
    (applyAll id { intentState := .brokerAccepted } us).2 = some (.conflictingDuplicate "e1") := by
  intro us
  refine ⟨?_, by decide⟩
  cases h : persistAll "intent-1" us workedStore with
  | error e t => cases h
  | ok x s' => cases h; exact ⟨_, rfl, by decide⟩

end Quantbot.L3.OrderEvents
