import Quantbot.L4PaperCore.ImportAtomicity
import Quantbot.L4PaperCore.Runtime

/-!
# When a stored order reopens

Runs of everything that stores an order snapshot: imports, the adoptions and the
reconciliation of the coordinators, startup recovery and the ingestion of the
broker's order list.

`update_broker_order_lifecycle` overwrites the status of a row, and its callers
check at most that the filled quantity has not regressed. So a snapshot that is
still open reopens a closed order it follows (`Reopens`). Along runs that bring no
such snapshot a closed order stays closed, and a single snapshot that does reopens
its order (`closed_stays_closed`). The canceled order at the end is reopened by a
snapshot that arrives late.
-/
namespace Quantbot.L4

open Core L1 L2 L3 Txn

/-! ## Storing snapshots one after another -/

/-- Storing the snapshot `order` over `row` reopens the order. A `guarded` write
refuses a snapshot whose filled quantity has regressed. -/
def Reopens (guarded : Bool) (row order : BrokerOrder) : Prop :=
  row.brokerOrderId = order.brokerOrderId ∧ isOpenOrder row = false ∧ isOpenOrder order = true ∧
    (guarded = true → row.filledQuantity ≤ order.filledQuantity)
deriving Decidable

/-- No snapshot of the list reopens a stored order, nor one stored before it. -/
structure NoneReopens (guarded : Bool) (t : OrderTable) (orders : List BrokerOrder) : Prop where
  stored : ∀ o ∈ orders, ∀ row ∈ t.rows, ¬ Reopens guarded row o
  earlier : orders.Pairwise fun a b => ¬ Reopens guarded a b

/-- The stored orders keep their rows; others may be added. -/
def OrdersKept (t t' : OrderTable) : Prop := ∀ id row, t.get? id = some row → t'.get? id = some row

theorem OrdersKept.of_eq {t t' : OrderTable} (h : t' = t) : OrdersKept t t' := h ▸ fun _ _ h => h

/-- The snapshot is its order's row; the other rows stay. -/
structure SnapshotStored (guarded : Bool) (order : BrokerOrder) (t t' : OrderTable) : Prop where
  stored : t'.get? order.brokerOrderId = some order
  others : ∀ id, id ≠ order.brokerOrderId → t'.get? id = t.get? id
  guard : guarded = true → ∀ row, t.get? order.brokerOrderId = some row →
    row.filledQuantity ≤ order.filledQuantity

/-- The snapshots of a list were stored, in order. -/
inductive Snapshots (guarded : Bool) : List BrokerOrder → OrderTable → OrderTable → Prop
  | nil {t t' : OrderTable} : OrdersKept t t' → Snapshots guarded [] t t'
  | cons {t t₁ t' : OrderTable} {o : BrokerOrder} {os : List BrokerOrder} :
      SnapshotStored guarded o t t₁ → Snapshots guarded os t₁ t' →
        Snapshots guarded (o :: os) t t'

section Snapshots

variable {g : Bool} {os : List BrokerOrder} {o : BrokerOrder} {t t' : OrderTable}

/-- The closed row is the one the snapshots find: the stored one, or an earlier
snapshot of the order. -/
theorem Snapshots.closed {id : String} {row : BrokerOrder} (h : Snapshots g os t t')
    (hearlier : os.Pairwise fun a b => ¬ Reopens g a b) (hrow : t.get? id = some row)
    (hclosed : isOpenOrder row = false) (hstored : ∀ o ∈ os, ¬ Reopens g row o) :
    ∃ row', t'.get? id = some row' ∧ isOpenOrder row' = false := by
  induction h generalizing row with
  | nil hkept => exact ⟨row, hkept id row hrow, hclosed⟩
  | @cons t t₁ t' o os hone _ ih =>
    obtain ⟨hhead, hrest⟩ := List.pairwise_cons.1 hearlier
    by_cases hid : id = o.brokerOrderId
    · subst hid
      have hkey : row.brokerOrderId = o.brokerOrderId := (Table.get?_some hrow).2
      have ho : isOpenOrder o = false := by
        by_contra hopen; rw [Bool.not_eq_false] at hopen
        exact hstored o List.mem_cons_self ⟨hkey, hclosed, hopen, fun hg => hone.guard hg row hrow⟩
      exact ih hrest hone.stored ho hhead
    · have hrow' : t₁.get? id = some row := (hone.others id hid).trans hrow
      exact ih hrest hrow' hclosed fun o' ho' => hstored o' (List.mem_cons_of_mem _ ho')

theorem Snapshots.reopened (h : Snapshots g [o] t t') (hr : ¬ NoneReopens g t [o]) :
    ∃ row, t.get? o.brokerOrderId = some row ∧ isOpenOrder row = false ∧
      t'.get? o.brokerOrderId = some o ∧ isOpenOrder o = true := by
  cases h with
  | cons hone hrest =>
    cases hrest with
    | nil hkept =>
      by_contra hno
      refine hr ⟨fun o' ho' row hrow hre => hno ?_, List.pairwise_singleton _ _⟩
      rw [List.mem_singleton] at ho'; subst ho'
      exact ⟨row, Table.get?_eq_some.2 ⟨hrow, hre.1⟩, hre.2.1, hkept _ _ hone.stored, hre.2.2.1⟩

end Snapshots

/-! ## The writes -/

section Writes

variable {s s' : Store} {order : BrokerOrder}

variable {b g : Bool}

theorem saveBrokerOrder_kept (h : saveBrokerOrder order s = .ok b s') :
    OrdersKept s.brokerOrders s'.brokerOrders := by
  rcases saveBrokerOrder_ok h with ⟨_, _, rfl⟩ | ⟨_, hnone, _, hclient, rfl⟩
  · exact .of_eq rfl
  intro id row hrow
  rw [UTable.insert_toTable hnone hclient, Table.get?_insert hnone]
  rw [if_neg fun hid => by rw [hid, hrow] at hnone; cases hnone]; exact hrow

theorem insert_stored (hnone : s.brokerOrders.get? order.brokerOrderId = none)
    (hclient : s.brokerOrders.getAlt? order.clientOrderId = none) :
    SnapshotStored g order s.brokerOrders (s.brokerOrders.insert order) := by
  have hget := fun id => Table.get?_insert (a := order) hnone id
  refine ⟨?_, fun id hid => ?_, fun _ row hrow => ?_⟩
  · rw [UTable.insert_toTable hnone hclient, hget, if_pos rfl]
  · rw [UTable.insert_toTable hnone hclient, hget, if_neg (Ne.symm hid)]
  · rw [hnone] at hrow; cases hrow

theorem saveBrokerOrder_stored (h : saveBrokerOrder order s = .ok b s')
    (hnone : s.brokerOrders.get? order.brokerOrderId = none) :
    SnapshotStored g order s.brokerOrders s'.brokerOrders := by
  rcases saveBrokerOrder_ok h with ⟨_, hsome, _⟩ | ⟨_, _, _, hclient, rfl⟩
  · rw [hnone] at hsome; cases hsome
  · exact insert_stored hnone hclient

theorem replace_stored {row : BrokerOrder}
    (hrow : s.brokerOrders.get? order.brokerOrderId = some row)
    (hclient : row.clientOrderId = order.clientOrderId)
    (hguard : g = true → row.filledQuantity ≤ order.filledQuantity) :
    SnapshotStored g order s.brokerOrders (s.brokerOrders.replace order) := by
  have hget := fun id => Table.get?_upsert s.brokerOrders.toTable order id
  refine ⟨?_, fun id hid => ?_, fun hg row' hrow' => ?_⟩
  · rw [UTable.replace_toTable hrow hclient, hget, if_pos rfl]
  · rw [UTable.replace_toTable hrow hclient, hget, if_neg (Ne.symm hid)]
  · rw [hrow] at hrow'; cases hrow'; exact hguard hg

theorem updateBrokerOrderLifecycle_stored (h : updateBrokerOrderLifecycle order s = .ok b s') :
    SnapshotStored false order s.brokerOrders s'.brokerOrders := by
  obtain ⟨row, hrow, hid, rfl⟩ := updateBrokerOrderLifecycle_ok h
  exact replace_stored hrow hid.1 fun h => by cases h

theorem OrderStored.snapshot (h : OrderStored s order s') :
    SnapshotStored true order s.brokerOrders s'.brokerOrders := by
  cases h with
  | saved hclient hnone =>
    exact insert_stored hnone hclient
  | @advanced old hold hid hident hle =>
    obtain ⟨hmem, _⟩ := UTable.getAlt?_eq_some.1 hold
    exact replace_stored (Table.get?_eq_some.2 ⟨hmem, hid⟩) hident.1 fun _ => hle

variable {intent : OrderIntent} {r : OrderIntent}

theorem persistBrokerAcknowledgement_kept
    (h : persistBrokerAcknowledgement intent order s = .ok r s') :
    OrdersKept s.brokerOrders s'.brokerOrders := by
  obtain ⟨_, s₁, b, hsave, hadopted⟩ := persistBrokerAcknowledgement_ok h
  rw [hadopted.orders]; exact saveBrokerOrder_kept hsave

variable {u : PUnit}

theorem adopt_snapshot (h : adopt intent order s = .ok u s') :
    SnapshotStored true order s.brokerOrders s'.brokerOrders := by
  obtain ⟨_, t₁, hstored, hadopted⟩ := adopt_ok h; rw [hadopted.orders]
  exact hstored.snapshot

theorem reconcileAccepted_snapshot (h : reconcileAccepted intent order s = .ok r s') :
    SnapshotStored false order s.brokerOrders s'.brokerOrders := by
  obtain ⟨_, _, s₁, b, _, _, hupdate, hadopted⟩ := reconcileAccepted_ok h
  rw [hadopted.orders]; exact updateBrokerOrderLifecycle_stored hupdate

theorem ingestOrder_snapshot (h : ingestOrder order s = .ok u s') :
    SnapshotStored false order s.brokerOrders s'.brokerOrders := by
  obtain ⟨found, s₁, hget, h⟩ := bind_ok.1 h
  obtain ⟨rfl, rfl⟩ := getBrokerOrder_ok.1 (stored_ok.1 hget)
  cases hfound : s₁.brokerOrders.get? order.brokerOrderId with
  | none =>
    rw [hfound] at h; simp only [bind_ok, stored_ok, pure_ok] at h
    obtain ⟨b, s₂, hsave, _, rfl⟩ := h
    exact saveBrokerOrder_stored hsave hfound
  | some row =>
    rw [hfound] at h; simp only [bind_ok, stored_ok, pure_ok] at h
    obtain ⟨b, s₂, hupdate, _, rfl⟩ := h
    exact updateBrokerOrderLifecycle_stored hupdate

variable {orders : List BrokerOrder}

theorem forM_snapshots {f : BrokerOrder → Exec PUnit}
    (hf : ∀ o s u s', f o s = .ok u s' → SnapshotStored g o s.brokerOrders s'.brokerOrders)
    (h : orders.forM f s = .ok u s') : Snapshots g orders s.brokerOrders s'.brokerOrders := by
  induction orders generalizing s with
  | nil =>
    obtain ⟨_, rfl⟩ := pure_ok.1 h; exact .nil fun _ _ h => h
  | cons o os ih =>
    obtain ⟨_, s₁, hone, hrest⟩ := bind_ok.1 h
    exact .cons (hf o s _ s₁ hone) (ih hrest)

theorem recordFills_orders {fills : List Fill} {u : PUnit}
    (h : (fills.forM fun fill => (do let _ ← stored (recordFill fill); pure ⟨⟩ : Exec PUnit)) s =
      .ok u s') : s'.brokerOrders = s.brokerOrders := by
  induction fills generalizing s with
  | nil =>
    obtain ⟨_, rfl⟩ := pure_ok.1 h; rfl
  | cons f fs ih =>
    obtain ⟨_, s₁, hone, hrest⟩ := bind_ok.1 h
    simp only [bind_ok, stored_ok, pure_ok] at hone
    obtain ⟨b, s₂, hrecord, _, rfl⟩ := hone
    exact (ih hrest).trans (recordFill_orders hrecord)

theorem ingestOrders_snapshots {fills : List Fill} (h : ingestOrders fills orders s = .ok u s') :
    Snapshots false orders s.brokerOrders s'.brokerOrders := by
  unfold ingestOrders at h; rw [immediate_ok, bind_ok] at h
  obtain ⟨_, s₁, hfills, horders⟩ := h; rw [← recordFills_orders hfills]
  exact forM_snapshots (fun _ _ _ _ => ingestOrder_snapshot) horders

theorem settleOrders_snapshots {settled : List BrokerOrder}
    (h : settleOrders settled s = .ok u s') :
    Snapshots false settled s.brokerOrders s'.brokerOrders := by
  refine forM_snapshots (fun o s u s' ho => ?_) (immediate_ok.1 h)
  simp only [bind_ok, stored_ok, pure_ok] at ho
  obtain ⟨b, s₁, hupdate, _, rfl⟩ := ho
  exact updateBrokerOrderLifecycle_stored hupdate

end Writes

/-! ## An accepted batch -/

/-- The snapshots a batch stores: those of events whose source is not stored yet, each
source once. `seen` says which sources are stored. -/
def newOrders (contentId : ContentId) (seen : String → Bool) : List BrokerEvent → List BrokerOrder
  | [] => []
  | e :: es =>
    let rest := newOrders contentId (fun id => seen id || decide (id = sourceId contentId e)) es
    if seen (sourceId contentId e) then newOrders contentId seen es
    else match e.payload with
      | .order o => o :: rest
      | _ => rest

def CoreStore.stored (s : CoreStore) (id : String) : Bool := (s.source? id).isSome

variable {contentId : ContentId} {s s' : CoreStore}

theorem EventImported.stored {e : BrokerEvent} (h : EventImported contentId e s s') :
    s'.stored = fun id => s.stored id || decide (id = sourceId contentId e) := by
  funext id; unfold CoreStore.stored; by_cases hid : id = sourceId contentId e
  · subst hid; rw [h.source]; simp
  · rw [h.sources id (Ne.symm hid)]; simp [hid]

theorem EventsImported.snapshots {es : List BrokerEvent} (h : EventsImported contentId es s s') :
    Snapshots true (newOrders contentId s.stored es) s.brokerOrders s'.brokerOrders := by
  induction h with
  | nil s => exact .nil fun _ _ h => h
  | @replay s s' e old es _ hold _ _ ih =>
    have hseen : s.stored (sourceId contentId e) = true := by
      unfold CoreStore.stored; rw [hold]; rfl
    unfold newOrders; rw [if_pos hseen]; exact ih
  | @new s s₁ s' e es _ hone _ ih =>
    have hseen : ¬ s.stored (sourceId contentId e) = true := by
      unfold CoreStore.stored; rw [hone.new]; decide
    rw [hone.stored] at ih; obtain ⟨intent, _, hpay⟩ := hone.payload
    unfold newOrders; rw [if_neg hseen]; unfold PayloadStored at hpay
    cases hp : e.payload with
    | order o =>
      rw [hp] at hpay; obtain ⟨_, t₁, hstored, hadopted⟩ := hpay
      refine .cons ?_ ih; rw [hadopted.orders]; exact hstored.snapshot
    | fill f =>
      rw [hp] at hpay; obtain ⟨_, _, _, _, _, _, hrec⟩ := hpay
      rw [← recordFill_orders hrec]; exact ih
    | cost _ | cashActivity _ =>
      rw [hp] at hpay; rw [← hpay]; exact ih

theorem importBrokerEvents_snapshots {events : List BrokerEvent} {ids : List String}
    (h : importBrokerEvents contentId events s = .ok ids s') :
    Snapshots true (newOrders contentId s.stored (ordered events)) s.brokerOrders
      s'.brokerOrders := by
  obtain ⟨s₁, himported, _, hbeside⟩ := importEvents_ok (importBrokerEvents_ok h)
  rw [hbeside.ledger]; exact himported.snapshots

/-! ## Runs of imports and recoveries -/

/-- A transaction that may store order snapshots, or any other that keeps the order rows. -/
inductive OrderCall
  | importEvents (events : List BrokerEvent)
  | recoverSubmission (intentId : String) (order : BrokerOrder)
  | adoptAcknowledgement (intent : OrderIntent) (order : BrokerOrder)
  | adoptUnderLock (intent : OrderIntent) (order : BrokerOrder)
  | reconcileAccepted (intent : OrderIntent) (order : BrokerOrder)
  | ingestOrders (fills : List Fill) (orders : List BrokerOrder)
  | settleOrders (orders : List BrokerOrder)
  | other

/-- The call was accepted. -/
def OrderCall.Accepted (contentId : ContentId) (s s' : CoreStore) : OrderCall → Prop
  | .importEvents events => ∃ ids, importBrokerEvents contentId events s = .ok ids s'
  | .recoverSubmission intentId order => ∃ r, onExec (L3.recoverSubmission intentId order) s = .ok r s'
  | .adoptAcknowledgement intent order => ∃ r, onExec (L3.adoptAcknowledgement intent order) s = .ok r s'
  | .adoptUnderLock intent order => ∃ r, onExec (L4.adoptUnderLock intent order) s = .ok r s'
  | .reconcileAccepted intent order => ∃ r, onExec (L3.reconcileAccepted intent order) s = .ok r s'
  | .ingestOrders fills orders => ∃ r, onExec (L3.ingestOrders fills orders) s = .ok r s'
  | .settleOrders orders => ∃ r, onExec (L3.settleOrders orders) s = .ok r s'
  | .other => OrdersKept s.brokerOrders s'.brokerOrders

/-- The snapshots a call brings for stored orders. -/
def OrderCall.snapshots (contentId : ContentId) (s : CoreStore) : OrderCall → List BrokerOrder
  | .importEvents events => newOrders contentId s.stored (ordered events)
  | .adoptUnderLock _ order | .reconcileAccepted _ order => [order]
  | .ingestOrders _ orders | .settleOrders orders => orders
  | .recoverSubmission _ _ | .adoptAcknowledgement _ _ | .other => []

/-- The call refuses a filled quantity that has regressed. -/
def OrderCall.guarded : OrderCall → Bool
  | .importEvents _ | .adoptUnderLock _ _ => true
  | _ => false

/-- Accepted imports and recoveries, from any store. -/
def orderCalls (contentId : ContentId) : LTS CoreStore OrderCall where
  init _ := True
  step s call s' := call.Accepted contentId s s'

/-- None of the call's snapshots reopens an order. -/
def KeepsClosed (contentId : ContentId) (s : CoreStore) (call : OrderCall) (_ : CoreStore) : Prop :=
  NoneReopens call.guarded s.brokerOrders (call.snapshots contentId s)

theorem OrderCall.Accepted.snapshots {call : OrderCall} (h : call.Accepted contentId s s') :
    Snapshots call.guarded (call.snapshots contentId s) s.brokerOrders s'.brokerOrders := by
  have hkept : ∀ {t : OrderTable}, OrdersKept t t := fun _ _ h => h
  cases call with
  | importEvents events =>
    obtain ⟨ids, h⟩ := h; exact importBrokerEvents_snapshots h
  | recoverSubmission intentId order =>
    obtain ⟨r, h⟩ := h; obtain ⟨t, ht, rfl⟩ := zoom_ok.1 h
    obtain ⟨_, _, hpersist⟩ := recoverSubmission_ok ht
    exact .nil (persistBrokerAcknowledgement_kept hpersist)
  | adoptAcknowledgement intent order =>
    obtain ⟨r, h⟩ := h; obtain ⟨t, ht, rfl⟩ := zoom_ok.1 h
    exact .nil (persistBrokerAcknowledgement_kept (adoptAcknowledgement_ok ht))
  | adoptUnderLock intent order =>
    obtain ⟨r, h⟩ := h; obtain ⟨t, ht, rfl⟩ := zoom_ok.1 h
    obtain ⟨_, _, _, hadopt⟩ := adoptUnderLock_ok ht
    exact .cons (adopt_snapshot hadopt) (.nil hkept)
  | reconcileAccepted intent order =>
    obtain ⟨r, h⟩ := h; obtain ⟨t, ht, rfl⟩ := zoom_ok.1 h
    exact .cons (reconcileAccepted_snapshot ht) (.nil hkept)
  | ingestOrders fills orders =>
    obtain ⟨r, h⟩ := h; obtain ⟨t, ht, rfl⟩ := zoom_ok.1 h
    exact ingestOrders_snapshots ht
  | settleOrders orders =>
    obtain ⟨r, h⟩ := h; obtain ⟨t, ht, rfl⟩ := zoom_ok.1 h
    exact settleOrders_snapshots ht
  | other => exact .nil h

/-- **A closed order stays closed** in every run whose calls bring no snapshot that
reopens an order; and a call with one snapshot that reopens an order leaves it open. -/
theorem closed_stays_closed (contentId : ContentId) :
    (∀ s calls s', ((orderCalls contentId).restrict (KeepsClosed contentId)).Run s calls s' →
      ∀ id row, s.brokerOrders.get? id = some row → isOpenOrder row = false →
        ∃ row', s'.brokerOrders.get? id = some row' ∧ isOpenOrder row' = false) ∧
    (∀ s call s' order, (orderCalls contentId).step s call s' →
      call.snapshots contentId s = [order] → ¬ KeepsClosed contentId s call s' →
        ∃ row, s.brokerOrders.get? order.brokerOrderId = some row ∧ isOpenOrder row = false ∧
          s'.brokerOrders.get? order.brokerOrderId = some order ∧ isOpenOrder order = true) := by
  constructor
  · intro s calls s' hrun id row hrow hclosed
    induction hrun generalizing row with
    | nil s => exact ⟨row, hrow, hclosed⟩
    | cons hst _ ih =>
      obtain ⟨hstep, hkeeps⟩ := hst
      have hstored := fun o ho => hkeeps.stored o ho row (Table.get?_some hrow).1
      obtain ⟨row₁, hrow₁, hclosed₁⟩ :=
        hstep.snapshots.closed hkeeps.earlier hrow hclosed hstored
      exact ih row₁ hrow₁ hclosed₁
  · intro s call s' order hstep hone hreopens; have hsnap := hstep.snapshots
    unfold KeepsClosed at hreopens; rw [hone] at hsnap hreopens
    exact hsnap.reopened hreopens

/-! ## A snapshot that arrives late -/

def canceledOrder : BrokerOrder := { partialOrder with status := "canceled" }

def canceledBatch : List BrokerEvent := [paperEvent "o2" 4 (.order canceledOrder)]

/-- The partial fill, read before the cancellation and imported after it. -/
def lateBatch : List BrokerEvent := [paperEvent "o1" 3 (.order partialOrder)]

/-- The claimed store after the cancellation. -/
def canceledStore : CoreStore := after (importBrokerEvents labelDigest canceledBatch) claimedStore

theorem canceled_reopens : ∃ s₂ : CoreStore,
      (orderCalls labelDigest).Run claimedStore [.importEvents canceledBatch] canceledStore ∧
      canceledStore.brokerOrders.get? "B1" = some canceledOrder ∧
      isOpenOrder canceledOrder = false ∧
      (orderCalls labelDigest).Run canceledStore [.importEvents lateBatch] s₂ ∧
      s₂.brokerOrders.get? "B1" = some partialOrder ∧ isOpenOrder partialOrder = true := by
  have hfirst : Returns (importBrokerEvents labelDigest canceledBatch) claimedStore
      ["source:PA1/orders/o2"] := by decide
  have hsecond : Returns (importBrokerEvents labelDigest lateBatch) canceledStore
      ["source:PA1/orders/o1"] := by decide
  have hopen : (after (importBrokerEvents labelDigest lateBatch) canceledStore).brokerOrders.get?
      "B1" = some partialOrder := by decide
  obtain ⟨s₁, h₁⟩ := hfirst; obtain ⟨s₂, h₂⟩ := hsecond
  have hs₁ : canceledStore = s₁ := after_ok h₁; rw [after_ok h₂] at hopen
  refine ⟨s₂, .cons ⟨_, hs₁ ▸ h₁⟩ (.nil _), by decide, by decide, ?_, hopen,
    by decide⟩
  exact .cons ⟨_, h₂⟩ (.nil _)

/-- A snapshot of the canceled order with one more share filled. -/
def settledBatch : List BrokerEvent :=
  [paperEvent "o3" 5 (.order { canceledOrder with
    filledQuantity := 5
    filled_nonneg := by decide
    filled_le := by decide })]

theorem closed_stays_closed_canceled :
    (∃ s₁ row, (orderCalls labelDigest).Run canceledStore [.importEvents settledBatch] s₁ ∧
      s₁.brokerOrders.get? "B1" = some row ∧ isOpenOrder row = false) ∧
    ∃ s₂, (orderCalls labelDigest).Run canceledStore [.importEvents lateBatch] s₂ ∧
      s₂.brokerOrders.get? "B1" = some partialOrder := by
  obtain ⟨hclosed, hreopened⟩ := closed_stays_closed labelDigest
  have hsettled : Returns (importBrokerEvents labelDigest settledBatch) canceledStore
      ["source:PA1/orders/o3"] := by decide
  have hlate : Returns (importBrokerEvents labelDigest lateBatch) canceledStore
      ["source:PA1/orders/o1"] := by decide
  have hstored : canceledStore.brokerOrders.get? "B1" = some canceledOrder := by decide
  obtain ⟨s₁, h₁⟩ := hsettled; obtain ⟨s₂, h₂⟩ := hlate
  have hstep : (orderCalls labelDigest).step canceledStore (.importEvents settledBatch) s₁ :=
    ⟨_, h₁⟩
  have hkeeps : KeepsClosed labelDigest canceledStore (.importEvents settledBatch) s₁ :=
    ⟨by decide, by decide⟩
  have hlost : ¬ KeepsClosed labelDigest canceledStore (.importEvents lateBatch) s₂ := fun h =>
    absurd h.stored (by decide)
  constructor
  · obtain ⟨row, hrow, hopen⟩ := hclosed canceledStore _ s₁ (.cons ⟨hstep, hkeeps⟩ (.nil _)) "B1"
      canceledOrder hstored (by decide)
    exact ⟨s₁, row, .cons hstep (.nil _), hrow, hopen⟩
  · obtain ⟨_, _, _, hopen, _⟩ := hreopened canceledStore (.importEvents lateBatch) s₂ partialOrder
      ⟨_, h₂⟩ (by decide) hlost
    exact ⟨s₂, .cons ⟨_, h₂⟩ (.nil _), hopen⟩

end Quantbot.L4
