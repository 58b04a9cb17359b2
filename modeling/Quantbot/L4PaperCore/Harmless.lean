import Quantbot.L4PaperCore.SendGuard

/-!
# Transactions that refuse nothing

`Harmless` is what every transaction of the core but a refusal respects: no order event
is added, orders belong to ids that were posted, and a created intent whose id was not
posted stays created or ends in `ERROR`. Each repository call, the adoptions, the
recovery of a submission and an import of broker evidence are harmless.
-/
namespace Quantbot.L4

open Core L1 L2 L3 Txn

/-- The ledger evolves, with no new event and no order of an id that was not posted. -/
structure Harmless (posted : String → Prop) (s s' : Store) : Prop where
  evolves : Evolves s s'
  events : s'.orderEvents = s.orderEvents
  orders : ∀ o ∈ s'.brokerOrders.rows, posted o.clientOrderId ∨
    ∃ o' ∈ s.brokerOrders.rows, o'.clientOrderId = o.clientOrderId
  created : ∀ i row, s.orderIntents.get? i = some row → row.state = .orderCreated →
    ¬ posted row.clientOrderId →
    ∃ q, s'.orderIntents.get? i = some (row.withState q) ∧ (q = .orderCreated ∨ q = .error)

section Harmless

variable {posted : String → Prop} {s s' : Store}

theorem Harmless.of_evolves (he : Evolves s s') (hevents : s'.orderEvents = s.orderEvents)
    (horders : s'.brokerOrders = s.brokerOrders)
    (hcreated : ∀ i row, s.orderIntents.get? i = some row → row.state = .orderCreated →
      ¬ posted row.clientOrderId →
      ∃ q, s'.orderIntents.get? i = some (row.withState q) ∧ (q = .orderCreated ∨ q = .error)) :
    Harmless posted s s' :=
  ⟨he, hevents, fun o ho => .inr ⟨o, horders ▸ ho, rfl⟩, hcreated⟩

theorem created_kept (he : ∀ i row, s.orderIntents.get? i = some row →
    s'.orderIntents.get? i = some row) (i : String) (row : OrderIntent)
    (hrow : s.orderIntents.get? i = some row) (hstate : row.state = .orderCreated) :
    ∃ q, s'.orderIntents.get? i = some (row.withState q) ∧ (q = .orderCreated ∨ q = .error) :=
  ⟨row.state, he i row hrow, .inl hstate⟩

instance : IsPreorder Store (Harmless posted) where
  refl s := .of_evolves (.rfl' s) rfl rfl fun i row h hstate _ =>
    created_kept (fun _ _ h => h) i row h hstate
  trans a b c h h' := by
    refine ⟨h.evolves.trans' h'.evolves, h'.events.trans h.events, fun o ho => ?_,
      fun i row hrow hstate hnot => ?_⟩
    · rcases h'.orders o ho with hp | ⟨o₁, ho₁, hc₁⟩
      · exact .inl hp
      rcases h.orders o₁ ho₁ with hp | ⟨o₂, ho₂, hc₂⟩
      · exact .inl (hc₁ ▸ hp)
      · exact .inr ⟨o₂, ho₂, hc₂.trans hc₁⟩
    · obtain ⟨q, hq, hcase⟩ := h.created i row hrow hstate hnot
      rcases hcase with rfl | rfl
      · obtain ⟨q', hq', hcase'⟩ := h'.created i _ hq rfl hnot
        exact ⟨q', hq', hcase'⟩
      · obtain ⟨q', hq', hleads⟩ := h'.evolves.intents i _ hq
        have herror : q' = .error := hleads.of_terminal (by decide)
        exact ⟨q', hq', .inr herror⟩

variable {i : String}

/-- One intent moves, to `ERROR` or from a state past the claim. -/
theorem harmless_setState {i : String} {q : IntentState} (he : Evolves s (s.setState i q))
    (h : q = .error ∨ ∀ row, s.orderIntents.get? i = some row → posted row.clientOrderId ∨
      row.state ≠ .orderCreated) : Harmless posted s (s.setState i q) := by
  refine .of_evolves he rfl rfl fun j row hrow hstate hnot => ?_
  have hget := setState_get? s i j q; by_cases hj : j = i
  · subst hj; rw [if_pos rfl, hrow] at hget; refine ⟨q, hget, .inr ?_⟩
    rcases h with h | h
    · exact h
    rcases h row hrow with hp | hne
    · exact absurd hp hnot
    · exact absurd hstate hne
  · rw [if_neg hj, hrow] at hget; exact ⟨row.state, hget, .inl hstate⟩

theorem transition_harmless {target expected : IntentState}
    (h : target = .error ∨ expected ≠ .orderCreated) :
    Moves (Harmless posted) (transition i target expected) := fun s r s' hx => by
  have hevolves := transition_evolves i target expected s r s' hx
  obtain ⟨row, hrow, hstate, _, _, rfl⟩ := transitionOrderIntent_ok (stored_ok.1 hx)
  refine harmless_setState hevolves ?_
  rcases h with h | h
  · exact .inl h
  refine .inr fun row' hrow' => .inr ?_
  rw [hrow] at hrow'
  cases hrow'
  exact hstate ▸ h

theorem createOrderIntent_harmless (intent : OrderIntent) :
    Moves (Harmless posted) (createOrderIntent intent) := fun s b s' h => by
  have hevolves := createOrderIntent_evolves intent s b s' h
  rcases createOrderIntent_ok h with ⟨_, _, rfl⟩ | ⟨_, hnone, hclient, rfl⟩
  · exact refl_of (Harmless posted) _
  refine .of_evolves hevolves rfl rfl fun i row hrow hstate _ =>
    created_kept (fun i row hrow => ?_) i row hrow hstate
  show (s.orderIntents.insert intent).get? i = some row
  rw [UTable.insert_toTable hnone hclient, Table.get?_insert hnone,
    if_neg fun hi => by rw [hi, hrow] at hnone; cases hnone]
  exact hrow

theorem createIncident_harmless (row : IncidentRow) :
    Moves (Harmless posted) (createIncident row) := fun s b s' h => by
  have hevolves := createIncident_evolves row s b s' h
  obtain ⟨t, _, rfl⟩ := createIncident_ok h
  exact .of_evolves hevolves rfl rfl fun i row hrow hstate _ =>
    created_kept (fun _ _ h => h) i row hrow hstate

theorem recordFill_harmless (fill : Fill) : Moves (Harmless posted) (recordFill fill) :=
  fun s b s' h => by
  have hevolves := recordFill_evolves fill s b s' h
  rcases recordFill_ok h with ⟨_, rfl, _⟩ | ⟨_, _, _, rfl⟩
  · exact refl_of (Harmless posted) _
  · exact .of_evolves hevolves rfl rfl fun i row hrow hstate _ =>
      created_kept (fun _ _ h => h) i row hrow hstate

variable {order : BrokerOrder}

theorem saveBrokerOrder_harmless (hp : posted order.clientOrderId) :
    Moves (Harmless posted) (saveBrokerOrder order) := fun s b s' h => by
  have hevolves := saveBrokerOrder_evolves order s b s' h
  rcases saveBrokerOrder_ok h with ⟨_, _, rfl⟩ | ⟨_, hnone, _, hclient, rfl⟩
  · exact refl_of (Harmless posted) _
  refine ⟨hevolves, rfl, fun o ho => ?_, fun i row hrow hstate _ =>
    created_kept (fun _ _ h => h) i row hrow hstate⟩
  have ho' : o ∈ (s.brokerOrders.insert order).toTable.rows := ho
  rw [UTable.insert_toTable hnone hclient, Table.mem_insert hnone] at ho'
  rcases ho' with ho' | rfl
  · exact .inr ⟨o, ho', rfl⟩
  · exact .inl hp

theorem updateBrokerOrderLifecycle_harmless (order : BrokerOrder) :
    Moves (Harmless posted) (updateBrokerOrderLifecycle order) := fun s b s' h => by
  have hevolves := updateBrokerOrderLifecycle_evolves order s b s' h
  obtain ⟨row, hrow, hid, rfl⟩ := updateBrokerOrderLifecycle_ok h
  refine ⟨hevolves, rfl, fun o ho => .inr ?_, fun i row hrow hstate _ =>
    created_kept (fun _ _ h => h) i row hrow hstate⟩
  have ho' : o ∈ (s.brokerOrders.replace order).toTable.rows := ho
  rw [UTable.replace_toTable hrow hid.1] at ho'
  have hget := Table.get?_eq_some.2 ⟨ho', rfl⟩
  rw [Table.get?_upsert] at hget
  split at hget
  · cases hget
    exact ⟨row, (Table.get?_some hrow).1, hid.1⟩
  · exact ⟨o, (Table.get?_some hget).1, rfl⟩

/-! ## Adoptions -/

/-- The adopted intent is past its claim, or its id was posted. -/
def Adoptable (posted : String → Prop) (s : Store) (i : String) : Prop :=
  ∀ row, s.orderIntents.get? i = some row → posted row.clientOrderId ∨ row.state ≠ .orderCreated

theorem Adoptable.of_past (h : PastCreated s i) : Adoptable posted s i := by
  obtain ⟨row, hrow, _, hne⟩ := h; intro row' hrow'; rw [hrow] at hrow'
  cases hrow'; exact .inr hne

theorem Adoptable.congr {t : Store} (h : Adoptable posted s i)
    (ht : t.orderIntents = s.orderIntents) : Adoptable posted t i := by
  unfold Adoptable; rw [ht]; exact h

variable {intent r : OrderIntent}

theorem intentAdopted_harmless (h : IntentAdopted intent s s')
    (ha : Adoptable posted s intent.intentId) : Harmless posted s s' := by
  cases h with
  | kept => exact refl_of (Harmless posted) s
  | moved hrow hstate hleads hq =>
    refine harmless_setState (evolves_setState fun row hrow' => ?_) (.inr ha)
    rw [hrow] at hrow'; cases hrow'; exact hstate ▸ hleads

theorem saveBrokerOrder_intents {b : Bool} (h : saveBrokerOrder order s = .ok b s') :
    s'.orderIntents = s.orderIntents := by
  rcases saveBrokerOrder_ok h with ⟨_, _, rfl⟩ | ⟨_, _, _, _, rfl⟩ <;> rfl

theorem persistBrokerAcknowledgement_harmless (hp : posted order.clientOrderId)
    (ha : Adoptable posted s intent.intentId)
    (h : persistBrokerAcknowledgement intent order s = .ok r s') : Harmless posted s s' := by
  obtain ⟨_, s₁, b, hsave, hadopted⟩ := persistBrokerAcknowledgement_ok h
  exact trans_of (Harmless posted) (saveBrokerOrder_harmless hp _ _ _ hsave)
    (intentAdopted_harmless hadopted (ha.congr (saveBrokerOrder_intents hsave)))

theorem OrderStored.get? (h : OrderStored s order s') (id : String) : s'.brokerOrders.get? id =
      if order.brokerOrderId = id then some order else s.brokerOrders.get? id := by
  cases h with
  | saved hclient hnone =>
    rw [UTable.insert_toTable hnone hclient, Table.get?_insert hnone]
  | @advanced old hold hid hident hle =>
    have hrow : s.brokerOrders.get? order.brokerOrderId = some old :=
      Table.get?_eq_some.2 ⟨(UTable.getAlt?_eq_some.1 hold).1, hid⟩
    rw [UTable.replace_toTable hrow hident.1, Table.get?_upsert]

theorem OrderStored.harmless (h : OrderStored s order s') (hp : posted order.clientOrderId) :
    Harmless posted s s' ∧ s'.orderIntents = s.orderIntents := by
  have hget := h.get?
  have hintents : s'.orderIntents = s.orderIntents := by cases h <;> rfl
  have hfills : s'.fills = s.fills := by cases h <;> rfl
  have hevents : s'.orderEvents = s.orderEvents := by cases h <;> rfl
  have hsame : ∀ row, s.brokerOrders.get? order.brokerOrderId = some row →
      SameIdentity row order := by
    intro row hrow
    cases h with
    | saved hclient hnone =>
      rw [hnone] at hrow; cases hrow
    | @advanced old hold hid hident hle =>
      rw [Table.get?_eq_some.2 ⟨(UTable.getAlt?_eq_some.1 hold).1, hid⟩] at hrow
      cases hrow; exact hident
  refine ⟨⟨⟨fun i row hrow => ⟨row.state, ?_, .refl⟩, fun id row hrow => ?_, fun f hf => ?_,
    fun e he => hevents ▸ he⟩, hevents, fun o ho => ?_, fun i row hrow hstate _ => ?_⟩, hintents⟩
  · rw [hintents]; exact hrow
  · rw [hget]; split
    · next hid =>
      subst hid; exact ⟨order, rfl, hsame row hrow⟩
    · exact ⟨row, hrow, .rfl' row⟩
  · rw [hfills]; exact hf
  · have ho' := hget o.brokerOrderId; rw [Table.get?_key.2 ho] at ho'
    split at ho'
    · cases ho'; exact .inl hp
    · exact .inr ⟨o, (Table.get?_some ho'.symm).1, rfl⟩
  · refine ⟨row.state, ?_, .inl hstate⟩; rw [hintents]; exact hrow

theorem adopt_harmless {u : PUnit} (hp : posted order.clientOrderId)
    (ha : Adoptable posted s intent.intentId) (h : adopt intent order s = .ok u s') :
    Harmless posted s s' := by
  obtain ⟨_, t₁, hstored, hadopted⟩ := adopt_ok h
  obtain ⟨hharmless, hintents⟩ := hstored.harmless hp
  exact trans_of (Harmless posted) hharmless (intentAdopted_harmless hadopted (ha.congr hintents))

theorem adoptUnderLock_harmless (hp : posted order.clientOrderId)
    (ha : Adoptable posted s intent.intentId) (h : adoptUnderLock intent order s = .ok r s') :
    Harmless posted s s' := by
  obtain ⟨current, hcurrent, _, hadopt⟩ := adoptUnderLock_ok h
  exact adopt_harmless hp ((Table.get?_some hcurrent).2 ▸ ha) hadopt

theorem reconcileAccepted_harmless {found : BrokerOrder} (ha : Adoptable posted s intent.intentId)
    (h : reconcileAccepted intent found s = .ok r s') : Harmless posted s s' := by
  obtain ⟨_, _, s₁, b, _, _, hupdate, hadopted⟩ := reconcileAccepted_ok h
  have hintents : s₁.orderIntents = s.orderIntents := by
    obtain ⟨_, _, _, rfl⟩ := updateBrokerOrderLifecycle_ok hupdate; rfl
  exact trans_of (Harmless posted) (updateBrokerOrderLifecycle_harmless found _ _ _ hupdate)
    (intentAdopted_harmless hadopted (ha.congr hintents))

theorem recoverSubmission_harmless (hp : posted order.clientOrderId)
    (h : recoverSubmission i order s = .ok r s') : Harmless posted s s' := by
  obtain ⟨current, hcurrent, hpersist⟩ := recoverSubmission_ok h
  refine persistBrokerAcknowledgement_harmless hp (fun row hrow => .inl ?_) hpersist
  -- the intent recovered is the row whose id the order carries
  rw [(Table.get?_some hcurrent).2, hcurrent] at hrow; cases hrow
  obtain ⟨hack, _⟩ := persistBrokerAcknowledgement_ok hpersist
  exact hack.1 ▸ hp

end Harmless

/-! ## Imports -/

section Core

variable {posted : String → Prop} {s s' : CoreStore}

/-- A harmless transaction over the whole store; links stay. -/
structure HarmlessCore (posted : String → Prop) (s s' : CoreStore) : Prop where
  ledger : Harmless posted s.toStore s'.toStore
  links : ∀ l ∈ s.links.rows, l ∈ s'.links.rows

instance : IsPreorder CoreStore (HarmlessCore posted) where
  refl _ := ⟨refl_of (Harmless posted) _, fun _ h => h⟩
  trans _ _ _ h h' :=
    ⟨trans_of (Harmless posted) h.ledger h'.ledger, fun l hl => h'.links l (h.links l hl)⟩

theorem HarmlessCore.of_eq (ht : s'.toStore = s.toStore) (hl : s'.links = s.links) :
    HarmlessCore posted s s' :=
  ⟨ht ▸ refl_of (Harmless posted) _, fun _ h => hl ▸ h⟩

theorem linkedClient_row {client : String} {intent : OrderIntent}
    (h : s.linkedClient client = some intent) :
    s.orderIntents.get? intent.intentId = some intent ∧ intent.clientOrderId = client := by
  have hmem := List.mem_of_find?_eq_some h
  have hclient : intent.clientOrderId = client := by simpa using List.find?_some h
  obtain ⟨⟨link, i⟩, hp, rfl⟩ := List.mem_map.1 hmem
  obtain ⟨l, _, hl⟩ := List.mem_filterMap.1 hp
  obtain ⟨i', hi', heq⟩ := Option.map_eq_some_iff.1 hl; cases heq
  exact ⟨(Table.get?_some hi').2.symm ▸ hi', hclient⟩

theorem EventImported.harmless {contentId : ContentId} {e : BrokerEvent}
    (h : EventImported contentId e s s') (hp : ∀ o, e.order? = some o → posted o.clientOrderId) :
    HarmlessCore posted s s' := by
  refine ⟨?_, fun _ hl => h.links ▸ hl⟩
  obtain ⟨intent, hlinked, hpay⟩ := h.payload
  obtain ⟨hrow, _⟩ := linkedClient_row hlinked; unfold PayloadStored at hpay
  unfold BrokerEvent.order? at hp
  cases hpayload : e.payload with
  | order o =>
    rw [hpayload] at hpay hp; obtain ⟨hack, t₁, hstored, hadopted⟩ := hpay
    obtain ⟨hharmless, hintents⟩ := hstored.harmless (hp o rfl)
    have ha : Adoptable posted s.toStore intent.intentId := by
      intro row hrow'; rw [hrow] at hrow'; cases hrow'
      exact .inl (hack.1 ▸ hp o rfl)
    exact trans_of (Harmless posted) hharmless (intentAdopted_harmless hadopted (ha.congr hintents))
  | fill f =>
    rw [hpayload] at hpay; obtain ⟨_, _, _, _, _, _, hrecord⟩ := hpay
    exact recordFill_harmless f _ _ _ hrecord
  | cost _ | cashActivity _ =>
    rw [hpayload] at hpay; have ht : s'.toStore = s.toStore := hpay
    exact ht ▸ refl_of (Harmless posted) _

theorem OnlyEvidence.harmless (h : OnlyEvidence s s') : HarmlessCore posted s s' := by
  refine ⟨⟨⟨fun i row hrow => ⟨row.state, ?_, .refl⟩, fun id row hrow => ⟨row, ?_, .rfl' row⟩,
    fun f hf => ?_, fun e he => ?_⟩, h.orderEvents, fun o ho => .inr ⟨o, ?_, rfl⟩,
    fun i row hrow hstate _ => ⟨row.state, ?_, .inl hstate⟩⟩, fun l hl => h.links ▸ hl⟩
  · rw [h.orderIntents]; exact hrow
  · rw [h.brokerOrders]; exact hrow
  · rw [h.fills]; exact hf
  · rw [h.orderEvents]; exact he
  · rw [← h.brokerOrders]; exact ho
  · rw [h.orderIntents]; exact hrow

theorem import_harmless (contentId : ContentId) {events : List BrokerEvent}
    (hp : ∀ e ∈ events, ∀ o, e.order? = some o → posted o.clientOrderId) (s : CoreStore) :
    HarmlessCore posted s (after (importBrokerEvents contentId events) s) := by
  unfold Txn.after
  cases himport : importBrokerEvents contentId events s with
  | ok ids s' =>
    obtain ⟨s₁, himported, _, hbeside⟩ := importEvents_ok (importBrokerEvents_ok himport)
    refine trans_of (HarmlessCore posted) (himported.rel fun e he a b hone => ?_)
      (.of_eq hbeside.ledger hbeside.links)
    exact hone.harmless (hp e (mem_ordered.1 he))
  | error e s' => exact (importBrokerEvents_error himport).harmless

end Core

end Quantbot.L4
