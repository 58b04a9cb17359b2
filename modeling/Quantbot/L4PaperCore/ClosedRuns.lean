import Quantbot.L4PaperCore.ClosedOrders
import Quantbot.L4PaperCore.Operation

/-!
# What takes terminal evidence away

Every step of the core stores at most the snapshots it brings: a call of a coordinator
the one it adopts or reconciles (`step_stored`), an import those of its new events
(`EventsImported.closedAlong`), and every other transaction none. So an order keeps its
terminal evidence, and what was filled of it, over every step that does not unsettle it.
-/
namespace Quantbot.L4

open Core L1 L2 L3 Txn

/-! ## Writes of the ledger -/

section Book

variable {s s' t : Store} {order : BrokerOrder} {m : Overwrite}
  {snap : Option BrokerOrder}

theorem BookStored.still (h : BookStored m snap s t) (h' : BookStill t s') :
    BookStored m snap s s' := by
  have hsame : ∀ c, s'.orderByClient c = t.orderByClient c := fun c => by
    unfold Store.orderByClient; rw [h'.orders]
  refine ⟨fun c => ?_, h'.fills.trans h.fills⟩; rw [hsame]; exact h.orders c

theorem OrderStored.book (h : OrderStored s order t) : BookStored .advancing (some order) s t := by
  cases h with
  | saved hclient hnone =>
    have hget := fun c => UTable.getAlt?_insert (a := order) hnone hclient c
    refine ⟨fun c => ?_, rfl⟩; by_cases hc : order.clientOrderId = c
    · refine .inr ⟨order, rfl, hc, (hget c).trans (if_pos hc), fun row hrow => ?_⟩
      subst hc; rw [hclient] at hrow; cases hrow
    · exact .inl ((hget c).trans (if_neg hc))
  | @advanced old hold hid hident hle =>
    have hrow : s.brokerOrders.get? order.brokerOrderId = some old :=
      Table.get?_eq_some.2 ⟨(UTable.getAlt?_eq_some.1 hold).1, hid⟩
    have hget := fun c => UTable.getAlt?_replace (a := order) hrow hident.1 c
    refine ⟨fun c => ?_, rfl⟩; by_cases hc : order.clientOrderId = c
    · refine .inr ⟨order, rfl, hc, (hget c).trans (if_pos hc), fun row hrow => ?_⟩
      subst hc; rw [hold] at hrow; cases hrow; exact ⟨hid, hle⟩
    · exact .inl ((hget c).trans (if_neg hc))

theorem updateBrokerOrderLifecycle_book {b : Bool}
    (h : updateBrokerOrderLifecycle order s = .ok b s') : BookStored .always (some order) s s' := by
  obtain ⟨old, hold, hident, rfl⟩ := updateBrokerOrderLifecycle_ok h
  have hget := fun c => UTable.getAlt?_replace (a := order) hold hident.1 c
  refine ⟨fun c => ?_, rfl⟩; by_cases hc : order.clientOrderId = c
  · refine .inr ⟨order, rfl, hc, (hget c).trans (if_pos hc), fun row hrow => ⟨?_, trivial⟩⟩
    obtain ⟨hmem, hclient⟩ := UTable.getAlt?_eq_some.1 hrow
    have hsame : row = old := UTable.eq_of_alt hmem (Table.get?_some hold).1
      (hclient.trans (hc.symm.trans hident.1.symm))
    exact hsame ▸ (Table.get?_some hold).2
  · exact .inl ((hget c).trans (if_neg hc))

theorem saveBrokerOrder_book {b : Bool} (h : saveBrokerOrder order s = .ok b s') :
    BookStored .never (some order) s s' := by
  rcases saveBrokerOrder_ok h with ⟨_, _, rfl⟩ | ⟨_, hnone, _, hclient, rfl⟩
  · exact (refl_of BookStill _).stored
  have hget := fun c => UTable.getAlt?_insert (a := order) hnone hclient c
  refine ⟨fun c => ?_, rfl⟩; by_cases hc : order.clientOrderId = c
  · refine .inr ⟨order, rfl, hc, (hget c).trans (if_pos hc), fun row hrow => ?_⟩
    subst hc; have hnone : s.orderByClient order.clientOrderId = none := hclient
    rw [hnone] at hrow; cases hrow
  · exact .inl ((hget c).trans (if_neg hc))

theorem intentAdopted_still {intent : OrderIntent} (h : IntentAdopted intent s s') :
    BookStill s s' := by
  cases h with
  | kept => exact refl_of BookStill s
  | moved => exact ⟨rfl, rfl⟩

variable {intent r : OrderIntent}

theorem persistBrokerAcknowledgement_book
    (h : persistBrokerAcknowledgement intent order s = .ok r s') :
    BookStored .never (some order) s s' := by
  obtain ⟨_, s₁, b, hsave, hadopted⟩ := persistBrokerAcknowledgement_ok h
  exact (saveBrokerOrder_book hsave).still (intentAdopted_still hadopted)

theorem adoptUnderLock_book
    (h : adoptUnderLock intent order s = .ok r s') : BookStored .advancing (some order) s s' := by
  obtain ⟨current, _, _, hadopt⟩ := adoptUnderLock_ok h
  obtain ⟨_, t₁, hstored, hadopted⟩ := adopt_ok hadopt
  exact hstored.book.still (intentAdopted_still hadopted)

theorem reconcileAccepted_book (h : reconcileAccepted intent order s = .ok r s') :
    BookStored .always (some order) s s' := by
  obtain ⟨_, _, s₁, b, _, _, hupdate, hadopted⟩ := reconcileAccepted_ok h
  exact (updateBrokerOrderLifecycle_book hupdate).still (intentAdopted_still hadopted)

/-! ## Writes that leave the book alone -/

theorem transitionOrderIntent_still (i : String) (target expected : IntentState) :
    Moves BookStill (transitionOrderIntent i target expected) := fun s r s' h => by
  obtain ⟨_, _, _, _, _, rfl⟩ := transitionOrderIntent_ok h
  exact ⟨rfl, rfl⟩

theorem createOrderIntent_still (intent : OrderIntent) :
    Moves BookStill (createOrderIntent intent) := fun s b s' h => by
  rcases createOrderIntent_ok h with ⟨_, _, rfl⟩ | ⟨_, _, _, rfl⟩
  · exact refl_of BookStill _
  · exact ⟨rfl, rfl⟩

theorem recordOrderEvent_still (row : OrderEventRow) :
    Moves BookStill (recordOrderEvent row) := fun s b s' h => by
  rcases recordOrderEvent_ok h with ⟨_, _, rfl⟩ | ⟨_, _, rfl⟩
  · exact refl_of BookStill _
  · exact ⟨rfl, rfl⟩

theorem stored_still {α : Type} {x : Repo α} (hx : Moves BookStill x) :
    Moves BookStill (stored x) := fun s a s' h => hx s a s' (stored_ok.1 h)

theorem prepareIntent_still (intent : OrderIntent) (purpose : OrderPurpose) :
    Moves BookStill (prepareIntent intent purpose) := by
  have htransition : Moves BookStill (transition intent.intentId .orderCreated .riskApproved) :=
    stored_still (transitionOrderIntent_still _ _ _)
  refine Moves.ite (Moves.get.bind fun t => (Moves.require _ _).bind fun _ => ?_) htransition
  split
  · exact (stored_still (createOrderIntent_still intent)).bind fun _ => htransition
  · exact (Moves.require _ _).bind fun _ => htransition

theorem recordUnknownIncident_still (sha256 : String → String) (intent : OrderIntent)
    (retries : Nat) : Moves BookStill (recordUnknownIncident sha256 intent retries) := by
  refine Moves.bind (fun t r t' h => ?_) fun _ => Moves.pure _
  obtain ⟨_, _, rfl⟩ := createIncident_ok (stored_ok.1 h); exact ⟨rfl, rfl⟩

theorem storedIntent_still (intent : OrderIntent) :
    Moves BookStill (L3.storedIntent intent) := fun s r s' h => by
  obtain ⟨rfl, _⟩ := storedIntent_ok h
  exact refl_of BookStill _

theorem storedOrder_still (intent : OrderIntent) : Moves BookStill (L3.storedOrder intent) := by
  refine Moves.get.bind fun t => ?_; split
  · exact Moves.throw _
  · exact (Moves.require _ _).bind fun _ => Moves.pure _

theorem recordLocalNoSend_still (contentId : ContentId) (i client : String) (at' : Int) :
    Moves BookStill (recordLocalNoSend contentId i client at') := by
  refine Moves.immediate (Moves.get.bind fun s => ?_); split
  · exact Moves.ite ((recordOrderEvent_still _).bind fun _ => Moves.pure _) (Moves.pure _)
  · exact Moves.pure _

end Book

/-! ## Core transactions -/

section Core

variable {α : Type} {s s' : CoreStore}

theorem onLedger_still {x : Repo α} (hx : Moves BookStill x) : Moves Still (onLedger x) :=
  hx.zoom fun _ _ h => ⟨h, rfl, rfl⟩

theorem exec_still {x : Exec α} (hx : Moves BookStill x) : Moves Still (coreSession.exec x) :=
  hx.zoom fun _ _ h => ⟨h, rfl, rfl⟩

theorem recordEvent_still (row : OrderEventRow) : Moves Still (recordEvent row) :=
  (onLedger_still (recordOrderEvent_still row)).bind fun _ => Moves.pure _

theorem recordPreSendRefusal_still (contentId : ContentId) (intent : OrderIntent)
    (purpose : OrderPurpose) (reasons : List String) (at' : Int) :
    Moves Still (recordPreSendRefusal contentId intent purpose reasons at') := by
  unfold recordPreSendRefusal; split
  · exact Moves.pure _
  refine Moves.get.bind fun t => ?_; split
  · exact Moves.throw _
  · exact (Moves.require _ _).bind fun _ => Moves.ite (Moves.pure _) (recordEvent_still _)

section

variable (v : GuardViews)
include v

theorem entrySend_still (r : SendReading) (runtime : List String)
    (intent : OrderIntent) : Moves Still (entrySend v r runtime intent) := by
  refine Moves.get.bind fun t => ?_; split
  · refine Moves.ite (Moves.pure _) ?_; split
    · exact Moves.throw _
    refine Moves.bind (Moves.get.bind fun _ => Moves.ite (recordEvent_still _) ?_) fun _ =>
      Moves.pure _
    exact Moves.ite (recordEvent_still _) (Moves.pure _)
  · exact Moves.pure _

theorem finalSendInSession_still (r : SendReading) (intent : OrderIntent)
    (purpose : OrderPurpose) : Moves Still (finalSendInSession v r intent purpose) := by
  refine Moves.get.bind fun t => Moves.ite (Moves.pure _) (Moves.ite (entrySend_still _ _ _ _) ?_)
  exact (exitSend_reads v r intent).mono fun s s' h => h ▸ refl_of Still s

theorem claimSend_still (kind : CoordinatorKind) (r : SendReading)
    (intent : OrderIntent) (purpose : OrderPurpose) (reasons : List String) :
    Moves Still ((coreCoordinator v kind).claimSend r intent purpose reasons) := by
  refine Moves.bind ?_ fun objections => Moves.bind ?_ fun _ => Moves.bind ?_ fun _ => Moves.pure _
  · cases kind with
    | core | fixture => exact Moves.ite (finalSendInSession_still v r intent purpose) (Moves.pure _)
  · cases kind with
    | core => exact Moves.ite (Moves.pure _) (recordPreSendRefusal_still _ _ _ _ _)
    | fixture => exact Moves.pure _
  · exact exec_still (stored_still (transitionOrderIntent_still _ _ _))

theorem noSend_still (kind : CoordinatorKind) (r : SendReading)
    (intent : OrderIntent) : Moves Still ((coreCoordinator v kind).noSend r intent) := by
  cases kind with
  | core => exact onLedger_still (recordLocalNoSend_still _ _ _ _)
  | fixture => exact Moves.pure _

theorem retireEntry_still (r : RetireReading) (i : String) : Moves Still (retireEntry v r i) := by
  have hretire : ∀ intent latched, Moves Still (retireIntent v.contentId r intent latched) := by
    intro intent latched
    refine Moves.bind (Moves.ite ?_ (Moves.pure _)) fun _ => Moves.bind (Moves.ite (Moves.pure _) ?_)
      fun _ => (onLedger_still (transitionOrderIntent_still _ _ _)).bind fun _ => Moves.pure _
    · exact onLedger_still (transitionOrderIntent_still _ _ _)
    · exact recordPreSendRefusal_still _ _ _ _ _
  refine Moves.immediate (Moves.get.bind fun t => ?_); split
  · refine Moves.ite (Moves.pure _) (Moves.ite (Moves.pure _) (Moves.ite (Moves.pure _) ?_))
    split
    · exact Moves.throw _
    · refine Moves.ite (Moves.pure _) (Moves.ite (Moves.pure _) (Moves.ite (Moves.pure _) ?_))
      exact (hretire _ _).bind fun _ => Moves.pure _
  · exact Moves.pure _

end

end Core

/-! ## One step of a call -/

/-- The core's adoption refuses a filled quantity that has regressed, the other stores
no second snapshot; the reconciliation of an accepted order takes what it is given. -/
def overwrites (kind : CoordinatorKind) : CorePhase → Overwrite
  | .adopting _ _ _ _ _ => if kind = .core then .advancing else .never
  | .reconcile _ _ => .always
  | _ => .never

section Step

variable {α : Type} {s : CoreStore}

theorem commit_still {x : CoreTxn α} {next : α → CorePhase} {raised : CoreError → CorePhase}
    (hx : Moves Still x) : Still s (L3.commit x next raised s).store := by
  unfold L3.commit
  cases hc : Txn.immediate x s with
  | ok a s' => exact hx _ _ _ (immediate_ok.1 hc)
  | error e s' => exact immediate_error hc ▸ refl_of Still _

theorem adoptStep_stored {v : GuardViews} {kind : CoordinatorKind} {intent : OrderIntent}
    {order : BrokerOrder} {onProtocol : Option IntentState} {recovered : Bool} {retries : Nat} :
    Stored (overwrites kind (.adopting intent order onProtocol recovered retries)) (some order) s
      ((coreCoordinator v kind).adoptStep intent order onProtocol recovered retries s).store := by
  have hsame : ∀ m, Stored m (some order) s s := fun m => (refl_of Still s).stored
  unfold Coordinator.adoptStep; split
  · next hok =>
    refine ⟨?_, rfl, rfl⟩
    cases kind with
    | core => exact adoptUnderLock_book (immediate_ok.1 hok)
    | fixture => exact persistBrokerAcknowledgement_book (adoptAcknowledgement_ok (immediate_ok.1 hok))
  · split
    · exact hsame _
    · exact hsame _
  · exact hsame _

theorem reconcileStep_stored {intent : OrderIntent} {found : BrokerOrder} :
    Stored .always (some found) s (coreSession.reconcileStep intent found s).store := by
  have hsame : Stored .always (some found) s s := (refl_of Still s).stored
  unfold Session.reconcileStep; split
  · next hok => exact ⟨reconcileAccepted_book hok, rfl, rfl⟩
  · exact hsame
  · exact hsame
  · exact hsame
  · exact hsame

/-- **One step** of a call stores at most the snapshot it carries. -/
theorem step_stored {v : GuardViews} {kind : CoordinatorKind} {sha256 : String → String}
    {ph : CorePhase} {input : Input SendReading} {st : Step CoreStore CoreError}
    (h : (coreCoordinator v kind).step sha256 s ph input = some st) :
    Stored (overwrites kind ph) (snapshot ph) s st.store := by
  have htransition : ∀ i target expected, Moves Still (coreSession.exec
      (transition i target expected)) := fun i target expected =>
    exec_still (stored_still (transitionOrderIntent_still i target expected))
  cases ph <;> cases input <;> try cases h
  case adopting.run intent order onProtocol recovered retries reading => exact adoptStep_stored
  case reconcile.run intent found reading => exact reconcileStep_stored
  case claim.run intent purpose reasons reading =>
    exact (commit_still (claimSend_still _ _ _ _ _ _)).stored
  case noSend.run intent failure reading => exact (commit_still (noSend_still _ _ _ _)).stored
  case submitDurable.run reading | reconcileDurable.run reading =>
    exact (commit_still (exec_still (storedIntent_still _))).stored
  case prepare.run intent purpose reading =>
    exact (commit_still (exec_still (prepareIntent_still _ _))).stored
  case incident.run intent retries message reading =>
    exact (commit_still (exec_still (recordUnknownIncident_still _ _ _))).stored
  case storedOrder.run intent reading =>
    exact (commit_still (exec_still (storedOrder_still _))).stored
  case rejecting.run reading | unknown.run reading | retry.run reading | failing.run reading
      | recoverUnknown.run reading =>
    exact (commit_still (htransition _ _ _)).stored
  case post.send intent submitting retries => exact (refl_of Still s).stored
  case post.submitReply intent submitting retries reply =>
    rw [Coordinator.step] at h; split at h
    · cases h; exact (refl_of Still s).stored
    · cases h
  case posted.submitReply intent submitting retries reply =>
    rw [Coordinator.step] at h; split at h
    · cases h
    · cases h; exact (refl_of Still s).stored
  case initialGate.gate | initialGate.acquisitionFailed | finalGate.gate
      | finalGate.acquisitionFailed =>
    exact (refl_of Still s).stored
  case lookup.lookupReply reply | recovering.lookupReply reply | reconciling.lookupReply reply =>
    exact (refl_of Still s).stored

end Step

/-! ## Imports -/

section Import

variable {contentId : ContentId} {s₀ s s' : CoreStore} {row : BrokerOrder} {e : BrokerEvent}

/-- Along a batch that began at `s₀`: the order is closed, with what was filled of it. -/
structure ClosedAlong (s₀ : CoreStore) (row : BrokerOrder) (s : CoreStore) : Prop where
  row : ∃ row', s.orderByClient row.clientOrderId = some row' ∧
    row'.brokerOrderId = row.brokerOrderId ∧ isOpenOrder row' = false ∧
    row'.filledQuantity = row.filledQuantity ∧ ∃ id e, s.source? id = some e ∧
      ClosesOrder row' (s₀.fillsOf row.brokerOrderId) e.recordedAt e
  fills : ∀ f ∈ s₀.fills.rows, f ∈ s.fills.rows
  sources : ∀ id e, s₀.source? id = some e → s.source? id = some e

section

variable (h : EventImported contentId e s s')
include h

theorem EventImported.book : ∀ c, s'.orderByClient c = s.orderByClient c ∨
      ∃ o, e.order? = some o ∧ o.clientOrderId = c ∧ s'.orderByClient c = some o ∧
        ∀ row, s.orderByClient c = some row →
          row.brokerOrderId = o.brokerOrderId ∧ row.filledQuantity ≤ o.filledQuantity := by
  obtain ⟨intent, _, hpay⟩ := h.payload; unfold PayloadStored at hpay
  unfold BrokerEvent.order?
  cases hp : e.payload with
  | order o =>
    rw [hp] at hpay; obtain ⟨_, t₁, hstored, hadopted⟩ := hpay
    exact (hstored.book.still (intentAdopted_still hadopted)).orders
  | fill f =>
    rw [hp] at hpay; obtain ⟨_, _, _, _, _, _, hrec⟩ := hpay
    refine fun c => .inl ?_; unfold Store.orderByClient
    rw [recordFill_orders hrec]
  | cost _ | cashActivity _ =>
    rw [hp] at hpay; exact fun c => .inl (by rw [hpay])

theorem EventImported.evolves : Evolves s.toStore s'.toStore := by
  have hharmless : HarmlessCore (fun _ => True) s s' := h.harmless fun _ _ => trivial
  exact hharmless.ledger.evolves

theorem EventImported.closedAlong
    (hsteady : ∀ o, e.order? = some o → o.clientOrderId = row.clientOrderId →
      ¬ Unsettles s₀ .advancing (some e) row o)
    (hc : ClosedAlong s₀ row s) : ClosedAlong s₀ row s' := by
  have hsources : ∀ id e, s.source? id = some e → s'.source? id = some e := fun id old hold =>
    CoreStore.source?_eq_some.2 (h.documents _ (CoreStore.source?_eq_some.1 hold))
  refine ⟨?_, fun f hf => h.evolves.fills f (hc.fills f hf),
    fun id old hold => hsources id old (hc.sources id old hold)⟩
  obtain ⟨row', hrow', hid, hclosed, hfilled, id, old, hold, hcloses⟩ := hc.row
  rcases h.book row.clientOrderId with hsame | ⟨o, horder, hclient, hstored, hover⟩
  · exact ⟨row', hsame.trans hrow', hid, hclosed, hfilled, id, old, hsources id old hold, hcloses⟩
  obtain ⟨hid', hle⟩ := hover row' hrow'
  have hstill : StillClosed s₀ (some e) row o := by
    by_contra hnot
    have haccepts : row.filledQuantity ≤ o.filledQuantity := hfilled ▸ hle
    exact hsteady o horder hclient ⟨haccepts, hnot⟩
  obtain ⟨hclosed', hfilled', e', hmem, hcloses'⟩ := hstill
  refine ⟨o, hstored, hid'.symm.trans hid, hclosed', hfilled', ?_⟩
  rcases List.mem_append.1 hmem with hbrought | hold'
  · cases List.mem_singleton.1 hbrought; exact ⟨_, _, h.source, hcloses'⟩
  · obtain ⟨⟨id', _⟩, hin, rfl⟩ := List.mem_map.1 hold'
    have hin' := CoreStore.source?_eq_some.2 (CoreStore.mem_sources.1 hin)
    exact ⟨id', _, hsources _ _ (hc.sources _ _ hin'), hcloses'⟩

end

/-- No new snapshot of the batch unsettles an order with terminal evidence. -/
def BatchSteady (contentId : ContentId) (s : CoreStore) (events : List BrokerEvent) : Prop :=
  ∀ e ∈ events, s.source? (sourceId contentId e) = none → ∀ o, e.order? = some o →
    s.terminal o.clientOrderId = true → ∀ row, s.orderByClient o.clientOrderId = some row →
      ¬ Unsettles s .advancing (some e) row o

theorem EventsImported.closedAlong {es : List BrokerEvent} (h : EventsImported contentId es s s')
    (hsteady : ∀ e ∈ es, s₀.source? (sourceId contentId e) = none → ∀ o, e.order? = some o →
      o.clientOrderId = row.clientOrderId → ¬ Unsettles s₀ .advancing (some e) row o)
    (hc : ClosedAlong s₀ row s) : ClosedAlong s₀ row s' := by
  induction h with
  | nil s => exact hc
  | replay _ _ _ _ ih => exact ih (fun e he => hsteady e (List.mem_cons_of_mem _ he)) hc
  | @new s s₁ s' e es _ hone _ ih =>
    refine ih (fun e he => hsteady e (List.mem_cons_of_mem _ he)) (hone.closedAlong ?_ hc)
    refine hsteady e List.mem_cons_self ?_
    cases hold : s₀.source? (sourceId contentId e) with
    | none => rfl
    | some old =>
      have hstored := hc.sources _ _ hold; rw [hone.new] at hstored
      cases hstored

theorem OnlyEvidence.still (h : OnlyEvidence s s') : Still s s' :=
  ⟨⟨h.brokerOrders, h.fills⟩, h.documents, h.links⟩

/-- **A batch**, accepted or rejected, keeps the evidence it does not unsettle. -/
theorem import_evidence {events : List BrokerEvent} (hsteady : BatchSteady contentId s events) :
    TerminalKept s (after (importBrokerEvents contentId events) s) := by
  unfold Txn.after
  cases himport : importBrokerEvents contentId events s with
  | error e s' =>
    have hstill := (importBrokerEvents_error himport).still
    exact .of_still hstill.book fun id e he => (source?_of_documents hstill.documents id).trans he
  | ok ids s' =>
    obtain ⟨s₁, himported, hchecked, hbeside⟩ := importEvents_ok (importBrokerEvents_ok himport)
    intro c hterm; obtain ⟨row, hrow, hsettled⟩ := terminal_iff.1 hterm
    have hclient : row.clientOrderId = c := (UTable.getAlt?_eq_some.1 hrow).2
    subst hclient; obtain ⟨id, e, hsource, hcloses⟩ := hsettled.source
    have hbegin : ClosedAlong s row s :=
      ⟨⟨row, hrow, rfl, hsettled.closed, rfl, id, e, hsource, hcloses⟩, fun _ h => h, fun _ _ h => h⟩
    have hend : ClosedAlong s row s₁ := by
      refine himported.closedAlong (fun e he hnew o ho hclient => ?_) hbegin
      exact hsteady e (mem_ordered.1 he) hnew o ho (hclient ▸ hterm) row (hclient ▸ hrow)
    obtain ⟨row', hrow', hid, hclosed, hfilled, id', e', hsource', hcloses'⟩ := hend.row
    have hle : s₁.filled row.brokerOrderId ≤ row.filledQuantity :=
      hid ▸ hfilled ▸ hchecked row' (UTable.getAlt?_eq_some.1 hrow').1
    have hledger := hbeside.ledger
    refine terminal_kept hrow (hledger ▸ hrow') hid hclosed hfilled hsettled.filled
      (hledger ▸ hend.fills) (hledger ▸ hle) ⟨id', e', (hbeside.sources id').trans hsource', hcloses'⟩

end Import

end Quantbot.L4
