import Quantbot.L4PaperCore.Outcomes

/-!
# What an import does

Inversion of `import_broker_events`, one lemma per step: what adopting a snapshot
has done to the ledger (`adopt_ok`), what one accepted event has done to the store
(`importEvent_ok`), what a batch has (`importEvents_ok`), and all that a rejected
batch can have (`importBrokerEvents_error`). Later proofs use only these.
-/
namespace Quantbot.L4

open Core L1 L2 L3 Txn

/-! ## Writes beside the ledger -/

/-- The ledger, the links and the sources stay; other documents may be added. -/
structure Beside (s s' : CoreStore) : Prop where
  ledger : s'.toStore = s.toStore
  config : s'.config = s.config
  links : s'.links = s.links
  documents : ∀ r ∈ s.documents.rows, r ∈ s'.documents.rows
  sources : ∀ id, s'.source? id = s.source? id

theorem Beside.rfl' (s : CoreStore) : Beside s s :=
  ⟨rfl, rfl, rfl, fun _ h => h, fun _ => rfl⟩

instance : IsPreorder CoreStore Beside where
  refl := Beside.rfl'
  trans _ _ _ h h' := ⟨h'.ledger.trans h.ledger, h'.config.trans h.config,
    h'.links.trans h.links, fun r hr => h'.documents r (h.documents r hr),
    fun id => (h'.sources id).trans (h.sources id)⟩

theorem notified_beside (s s' : CoreStore) (h : Notified s s') : Beside s s' := by
  obtain ⟨_, _, _, _, rfl⟩ := h
  exact ⟨rfl, rfl, rfl, fun _ h => h, fun _ => rfl⟩

theorem dirty_beside (lots : List String) (at' : Option Int) (claim : Bool) :
    Moves Beside (dirty lots at' claim) := (dirty_notified _ _ _).mono notified_beside

theorem notifyDocument_beside (identity : String) (d : Document) :
    Moves Beside (notifyDocument identity d) := (notifyDocument_notified _ _).mono notified_beside

theorem revokedProof_beside (proofId : String) (at' : Option Int) :
    Moves Beside (revokedProof proofId at') := (revokedProof_notified _ _).mono notified_beside

variable {s s' : CoreStore} {d : Document} {identity : String}

theorem source?_insert (h : s.documents.get? (d.kind, identity) = none) (id : String) :
    ({ s with documents := s.documents.insert ⟨identity, d⟩ } : CoreStore).source? id =
      if d.kind = .source ∧ identity = id then d.source? else s.source? id := by
  have hnone : s.documents.get? (DocRow.key ⟨identity, d⟩) = none := h
  have hget := Table.get?_insert hnone (.source, id)
  unfold CoreStore.source? CoreStore.document
  rw [hget]
  by_cases hk : d.kind = .source ∧ identity = id
  · have hkey : DocRow.key ⟨identity, d⟩ = (.source, id) := Prod.ext hk.1 hk.2
    rw [if_pos hkey, if_pos hk]
    rfl
  · have hkey : DocRow.key ⟨identity, d⟩ ≠ (.source, id) := fun he =>
      hk ⟨congrArg Prod.fst he, congrArg Prod.snd he⟩
    rw [if_neg hkey, if_neg hk]

variable {u : PUnit}

/-- What a put of any document has done: the document is stored, and no other source
has changed. -/
theorem put_ok (h : put identity d s = .ok u s') :
    s'.toStore = s.toStore ∧ s'.config = s.config ∧ s'.links = s.links ∧
      (∀ r ∈ s.documents.rows, r ∈ s'.documents.rows) ∧ ⟨identity, d⟩ ∈ s'.documents.rows ∧
      ∀ id, (d.kind = .source → identity ≠ id) → s'.source? id = s.source? id := by
  unfold put at h; rw [bind_ok] at h; obtain ⟨b, s₁, h₁, h₂⟩ := h
  rcases insertDocument_ok h₁ with ⟨rfl, hmem, rfl⟩ | ⟨rfl, hnone, rfl⟩
  · obtain ⟨_, rfl⟩ := pure_ok.1 h₂
    exact ⟨rfl, rfl, rfl, fun _ h => h, hmem, fun _ _ => rfl⟩
  have hb := notifyDocument_beside identity d _ _ _ h₂
  have hins : ∀ r, r ∈ (s.documents.insert ⟨identity, d⟩).rows ↔ _ :=
    fun r => Table.mem_insert hnone
  refine ⟨hb.ledger, hb.config, hb.links,
    fun r hr => hb.documents r ((hins r).2 (.inl hr)), hb.documents _ ((hins _).2 (.inr rfl)), ?_⟩
  intro id hid
  rw [hb.sources id, source?_insert hnone id, if_neg fun hk => hid hk.1 hk.2]

theorem put_beside (hd : d.kind ≠ .source) :
    Moves Beside (put identity d) := fun s u s' h => by
  obtain ⟨h₁, h₂, h₃, h₄, _, h₅⟩ := put_ok h
  exact ⟨h₁, h₂, h₃, h₄, fun id => h₅ id fun hk => absurd hk hd⟩

theorem advanceCursor_beside (source : String) (at' : Int) (eventId : String) :
    Moves Beside (advanceCursor source at' eventId) := fun s u s' h => by
  rw [advanceCursor, modify_ok] at h
  subst h
  repeat' split
  all_goals exact ⟨rfl, rfl, rfl, fun _ h => h, fun _ => rfl⟩

theorem recordCost_beside (contentId : ContentId) (item : CostItem) (fill : Fill) :
    Moves Beside (recordCost contentId item fill) := by
  refine (Moves.require _ _).bind fun _ => Moves.get.bind fun s => ?_; split
  · exact (Moves.require _ _).bind fun _ => put_beside nofun
  · refine Moves.ite (Moves.pure _) ?_
    exact (Moves.require _ _).bind fun _ => put_beside nofun

theorem importCost_beside (contentId : ContentId) (e : BrokerEvent) (i : OrderIntent)
    (c : CostItem) : Moves Beside (importCost contentId e i c) := by
  refine Moves.get.bind fun s => ?_; split
  · refine (Moves.require _ _).bind fun _ => (Moves.require _ _).bind fun _ =>
      (Moves.require _ _).bind fun _ => ?_
    split
    · exact recordCost_beside contentId c _
    · exact put_beside nofun
  · exact Moves.throw _

theorem importCashActivity_beside (contentId : ContentId) (e : BrokerEvent) (a : CashActivity) :
    Moves Beside (importCashActivity contentId e a) :=
  Moves.get.bind fun _ => (Moves.require _ _).bind fun _ => (Moves.require _ _).bind fun _ =>
    (Moves.require _ _).bind fun _ => put_beside nofun

theorem ledgerFill_reads (t : CoreStore) (l : LedgerState) (f : Fill) :
    Moves Unchanged (ledgerFill t l f) := by
  unfold ledgerFill; split
  · exact Moves.throw _
  split
  · exact Moves.throw _
  · exact (Moves.require _ _).bind fun _ => (Moves.require _ _).bind fun _ => Moves.pure _

theorem ledger_reads (contentId : ContentId) : Moves Unchanged (ledger contentId) := by
  refine Moves.get.bind fun t => ?_; split
  · exact (Moves.foldlM (fun l f => ledgerFill_reads t l f) _ _).bind fun _ => Moves.pure _
  · exact Moves.throw _

theorem revokeStaleCash_beside (contentId : ContentId) (ids : List String) (at' : Int) :
    Moves Beside (revokeStaleCash contentId ids at') := by
  have hledger : Moves Beside (ledger contentId) :=
    (ledger_reads contentId).mono fun s s' h => h ▸ .rfl' s
  refine hledger.bind fun ⟨q, c, f⟩ => Moves.get.bind fun s => Moves.forM (fun row => ?_) _
  refine Moves.get.bind fun t => ?_; split
  · exact Moves.throw _
  refine Moves.ite (Moves.pure _) (Moves.bind ?_ fun _ => revokedProof_beside _ _)
  intro a u b h; rw [modify_ok] at h; subst h
  exact ⟨rfl, rfl, rfl, fun _ h => h, fun _ => rfl⟩

/-! ## Adoption -/

/-- The snapshot became the client's row: a new row, or its row advanced. -/
inductive OrderStored (s : Store) (order : BrokerOrder) : Store → Prop
  | saved : s.orderByClient order.clientOrderId = none →
      s.brokerOrders.get? order.brokerOrderId = none →
      OrderStored s order { s with brokerOrders := s.brokerOrders.insert order }
  | advanced {old : BrokerOrder} : s.orderByClient order.clientOrderId = some old →
      old.brokerOrderId = order.brokerOrderId → SameIdentity old order →
      old.filledQuantity ≤ order.filledQuantity →
      OrderStored s order { s with brokerOrders := s.brokerOrders.replace order }

variable {order : BrokerOrder} {intent : OrderIntent} {t : Store}

theorem adoptOrder_ok {s : Store} {b : Bool} (hack : AckMatches intent order)
    (h : adoptOrder intent order s = .ok b t) : OrderStored s order t := by
  have hclient : intent.clientOrderId = order.clientOrderId := hack.1.symm
  unfold adoptOrder at h; rw [bind_ok] at h; obtain ⟨s₀, s₁, hget, h⟩ := h
  obtain ⟨rfl, rfl⟩ := get_ok.1 hget; rw [hclient] at h
  cases hold : s₁.orderByClient order.clientOrderId with
  | none =>
    rw [hold] at h
    rcases saveBrokerOrder_ok (stored_ok.1 h) with ⟨_, hrow, _⟩ | ⟨_, hnone, _, _, rfl⟩
    · have hmem := (Table.get?_some hrow).1
      exact absurd rfl (UTable.getAlt?_none.1 hold order hmem)
    · exact .saved hold hnone
  | some old =>
    rw [hold] at h; simp only [bind_ok, require_ok] at h
    obtain ⟨_, _, ⟨hle, rfl⟩, h⟩ := h
    obtain ⟨row, hrow, hid, rfl⟩ := updateBrokerOrderLifecycle_ok (stored_ok.1 h)
    obtain ⟨hmem, hk⟩ := Table.get?_some hrow
    obtain ⟨hmem', hc⟩ := UTable.getAlt?_eq_some.1 hold
    have heq : row = old := UTable.eq_of_alt hmem hmem' (hid.1.trans hc.symm)
    subst heq; exact .advanced hold hk hid hle

theorem adoptTarget_ok {s : Store} (h : adoptTarget intent order s = .ok u t) :
    IntentAdopted intent s t := by
  unfold adoptTarget at h
  cases htarget : ackTerminalTarget order with
  | none =>
    rw [htarget] at h; obtain ⟨_, rfl⟩ := pure_ok.1 h; exact .kept
  | some target =>
    rw [htarget] at h; simp only at h; split at h
    · obtain ⟨_, rfl⟩ := pure_ok.1 h; exact .kept
    simp only [bind_ok, stored_ok, pure_ok] at h; obtain ⟨_, _, h, _, rfl⟩ := h
    obtain ⟨row, hrow, hstate, hallowed, _, rfl⟩ := transitionOrderIntent_ok h
    refine .moved hrow hstate hallowed.leads ?_
    exact List.mem_cons_of_mem _ (ackTerminalTarget_mem htarget)

/-- **Adoption.** The snapshot acknowledges the intent and is its client's row; the
intent has moved along accepted transitions, if at all. -/
theorem adopt_ok {s : Store} (h : adopt intent order s = .ok u t) :
    AckMatches intent order ∧ ∃ t₁, OrderStored s order t₁ ∧ IntentAdopted intent t₁ t := by
  unfold adopt assertAckMatchesIntent at h; simp only [bind_ok, require_ok] at h
  obtain ⟨_, _, ⟨hack, rfl⟩, _, t₁, horder, current, t₂, hsent, h⟩ := h
  refine ⟨hack, t₁, adoptOrder_ok hack horder, ?_⟩; unfold adoptSent at hsent
  split at hsent
  · obtain ⟨row, hrow, hstate, hallowed, hcurrent, rfl⟩ := transitionOrderIntent_ok
      (stored_ok.1 hsent)
    have hid : row.intentId = intent.intentId := (Table.get?_some hrow).2
    have haccepted : IntentAdopted intent t₁ (t₁.setState intent.intentId .brokerAccepted) :=
      .moved hrow hstate hallowed.leads (by decide)
    subst hcurrent
    cases adoptTarget_ok h with
    | kept => exact haccepted
    | moved hrow' _ hleads hq =>
      rw [OrderIntent.withState_intentId, hid, setState_setState]
      exact .moved hrow hstate (hallowed.leads.trans hleads) hq
  · obtain ⟨rfl, rfl⟩ := pure_ok.1 hsent; exact adoptTarget_ok h

/-! ## One event -/

/-- What the payload of an accepted event did to the ledger. -/
def PayloadStored (event : BrokerEvent) (intent : OrderIntent) (s t : Store) : Prop :=
  match event.payload with
  | .order o => AckMatches intent o ∧ ∃ t₁, OrderStored s o t₁ ∧ IntentAdopted intent t₁ t
  | .fill f => ∃ o b, s.orderByClient intent.clientOrderId = some o ∧
      f.brokerOrderId = o.brokerOrderId ∧ f.symbol = intent.symbol ∧ f.side = intent.side ∧
      recordFill f s = .ok b t
  | .cost _ | .cashActivity _ => t = s

variable {contentId : ContentId} {event : BrokerEvent}

theorem importPayload_ok (h : importPayload contentId event intent s = .ok u s') :
    PayloadStored event intent s.toStore s'.toStore ∧ s'.config = s.config ∧ s'.links = s.links ∧
      (∀ r ∈ s.documents.rows, r ∈ s'.documents.rows) ∧ ∀ id, s'.source? id = s.source? id := by
  unfold importPayload at h; unfold PayloadStored
  cases hp : event.payload with
  | order o =>
    rw [hp] at h; obtain ⟨t, ht, rfl⟩ := zoom_ok.1 h
    exact ⟨adopt_ok ht, rfl, rfl, fun _ h => h, fun _ => rfl⟩
  | fill f =>
    rw [hp] at h; unfold importFill at h; rw [bind_ok] at h
    obtain ⟨s₀, s₁, hget, h⟩ := h; obtain ⟨rfl, rfl⟩ := get_ok.1 hget
    cases horder : s₁.orderByClient intent.clientOrderId with
    | none =>
      rw [horder] at h; cases h
    | some order =>
      rw [horder] at h; simp only [bind_ok, require_ok, pure_ok] at h
      obtain ⟨_, _, ⟨⟨hid, hsym, hside, _⟩, rfl⟩, b, _, hrec, _, rfl⟩ := h
      obtain ⟨t, ht, rfl⟩ := zoom_ok.1 hrec
      exact ⟨⟨order, b, rfl, hid, hsym, hside, ht⟩, rfl, rfl, fun _ h => h, fun _ => rfl⟩
  | cost c =>
    rw [hp] at h; have hb := importCost_beside contentId event intent c _ _ _ h
    exact ⟨hb.ledger, hb.config, hb.links, hb.documents, hb.sources⟩
  | cashActivity a =>
    rw [hp] at h; have hb := importCashActivity_beside contentId event a _ _ _ h
    exact ⟨hb.ledger, hb.config, hb.links, hb.documents, hb.sources⟩

/-- What one new event did: the payload's writes, and the event is its source's document. -/
structure EventImported (contentId : ContentId) (event : BrokerEvent) (s s' : CoreStore) :
    Prop where
  new : s.source? (sourceId contentId event) = none
  payload : ∃ intent, s.linkedClient event.clientOrderId = some intent ∧
    PayloadStored event intent s.toStore s'.toStore
  config : s'.config = s.config
  links : s'.links = s.links
  documents : ∀ r ∈ s.documents.rows, r ∈ s'.documents.rows
  source : s'.source? (sourceId contentId event) = some event
  sources : ∀ id, sourceId contentId event ≠ id → s'.source? id = s.source? id

/-- **One event.** An accepted event is bound to the store; it is a replay of an equal
source and changes nothing, or it is new. -/
theorem importEvent_ok {r : Option String} (h : importEvent contentId event s = .ok r s') :
    Bound s.config event ∧
    ((r = none ∧ s' = s ∧ ∃ old, s.source? (sourceId contentId event) = some old ∧
        old.semantic = event.semantic) ∨
      (r = some (sourceId contentId event) ∧ EventImported contentId event s s')) := by
  have hbody : importEventBody contentId event s = .ok r s' := by
    unfold importEvent at h; split at h
    · next heq => rw [heq, ← h]
    all_goals cases h
  unfold importEventBody at hbody; rw [bind_ok] at hbody
  obtain ⟨s₀, s₁, hget, hbody⟩ := hbody; obtain ⟨rfl, rfl⟩ := get_ok.1 hget
  rw [bind_ok] at hbody; obtain ⟨_, s₂, hbound, hbody⟩ := hbody
  obtain ⟨hbound, rfl⟩ := require_ok.1 hbound; refine ⟨hbound, ?_⟩
  cases hsrc : s₂.source? (sourceId contentId event) with
  | some old =>
    rw [hsrc] at hbody; simp only at hbody; split at hbody
    · next hsem =>
      obtain ⟨rfl, rfl⟩ := pure_ok.1 hbody
      exact .inl ⟨rfl, rfl, old, rfl, hsem⟩
    · cases hbody
  | none =>
    rw [hsrc] at hbody
    cases hintent : s₂.linkedClient event.clientOrderId with
    | none =>
      rw [hintent] at hbody; cases hbody
    | some intent =>
      rw [hintent] at hbody; simp only [bind_ok, pure_ok] at hbody
      obtain ⟨_, s₃, hpay, _, s₄, hput, _, s₅, hcur, rfl, rfl⟩ := hbody
      obtain ⟨hstored, hc, hl, hd, hs⟩ := importPayload_ok hpay
      obtain ⟨pt, pc, pl, pd, pm, ps⟩ := put_ok hput
      have hb := advanceCursor_beside _ _ _ _ _ _ hcur
      refine .inr ⟨rfl, ⟨hsrc, ⟨intent, hintent, ?_⟩, ?_, ?_, ?_, ?_, ?_⟩⟩
      · rw [hb.ledger, pt]; exact hstored
      · exact hb.config.trans (pc.trans hc)
      · exact hb.links.trans (pl.trans hl)
      · exact fun r hr => hb.documents r (pd r (hd r hr))
      · rw [hb.sources]; exact CoreStore.source?_eq_some.2 pm
      · intro id hne; rw [hb.sources, ps id fun _ => hne, hs]

/-! ## A batch -/

/-- A list of events, each a replay or new to the store it meets. -/
inductive EventsImported (contentId : ContentId) :
    List BrokerEvent → CoreStore → CoreStore → Prop
  | nil (s : CoreStore) : EventsImported contentId [] s s
  | replay {s s' : CoreStore} {e old : BrokerEvent} {es : List BrokerEvent} :
      Bound s.config e → s.source? (sourceId contentId e) = some old →
      old.semantic = e.semantic → EventsImported contentId es s s' →
      EventsImported contentId (e :: es) s s'
  | new {s s₁ s' : CoreStore} {e : BrokerEvent} {es : List BrokerEvent} :
      Bound s.config e → EventImported contentId e s s₁ → EventsImported contentId es s₁ s' →
      EventsImported contentId (e :: es) s s'

theorem importAll_ok {es : List BrokerEvent} {acc r : List (String × Int)}
    (h : importAll contentId es acc s = .ok r s') : EventsImported contentId es s s' := by
  induction es generalizing acc s with
  | nil =>
    obtain ⟨_, rfl⟩ := pure_ok.1 h; exact .nil s
  | cons e es ih =>
    unfold importAll at h; rw [bind_ok] at h; obtain ⟨o, s₁, hone, h⟩ := h
    obtain ⟨hbound, ⟨rfl, rfl, old, hold, hsem⟩ | ⟨rfl, hnew⟩⟩ := importEvent_ok hone
    · exact .replay hbound hold hsem (ih h)
    · exact .new hbound hnew (ih h)

theorem EventsImported.rel {es : List BrokerEvent} {R : CoreStore → CoreStore → Prop}
    [IsPreorder CoreStore R] (hR : ∀ e ∈ es, ∀ a b, EventImported contentId e a b → R a b)
    (h : EventsImported contentId es s s') : R s s' := by
  induction h with
  | nil s => exact refl_of R s
  | replay _ _ _ _ ih => exact ih fun e he => hR e (List.mem_cons_of_mem _ he)
  | new _ hone _ ih =>
    exact trans_of R (hR _ List.mem_cons_self _ _ hone)
      (ih fun e he => hR e (List.mem_cons_of_mem _ he))

/-- The stored fills of every order are within what the broker acknowledged. -/
def Checked (s : Store) : Prop :=
  ∀ o ∈ s.brokerOrders.rows, s.filled o.brokerOrderId ≤ o.filledQuantity

theorem mem_listBrokerOrders {s : Store} {o : BrokerOrder} :
    o ∈ s.listBrokerOrders ↔ o ∈ s.brokerOrders.rows :=
  (List.perm_insertionSort _ _).mem_iff

variable {events : List BrokerEvent}

theorem checkFilled_ok :
    checkFilled contentId events s = .ok u s' ↔ Checked s.toStore ∧ s' = s := by
  have hfind : (s.listBrokerOrders.find? fun o =>
      decide (o.filledQuantity < s.filled o.brokerOrderId)) = none ↔ Checked s.toStore := by
    rw [List.find?_eq_none]; constructor
    · intro h o ho; simpa using h o (mem_listBrokerOrders.2 ho)
    · intro h o ho; simpa using h o (mem_listBrokerOrders.1 ho)
  unfold checkFilled; rw [bind_ok]; constructor
  · rintro ⟨t, s₁, hget, h⟩; obtain ⟨rfl, rfl⟩ := get_ok.1 hget
    cases hf : s₁.listBrokerOrders.find? fun o =>
        decide (o.filledQuantity < s₁.filled o.brokerOrderId) with
    | none =>
      rw [hf] at h; obtain ⟨_, rfl⟩ := pure_ok.1 h; exact ⟨hfind.1 hf, rfl⟩
    | some o =>
      rw [hf] at h; cases h
  · rintro ⟨hc, rfl⟩; refine ⟨s', s', get_ok.2 ⟨rfl, rfl⟩, ?_⟩; rw [hfind.2 hc]
    exact pure_ok.2 ⟨rfl, rfl⟩

/-- **A batch.** An accepted batch imported its events in order, left the fills within
what the broker acknowledged, and wrote beside the ledger after that. -/
theorem importEvents_ok {ids : List String} (h : importEvents contentId events s = .ok ids s') :
    ∃ s₁, EventsImported contentId (ordered events) s s₁ ∧ Checked s₁.toStore ∧ Beside s₁ s' := by
  unfold importEvents at h; rw [immediate_ok, bind_ok] at h
  obtain ⟨imported, s₁, hall, h⟩ := h; rw [bind_ok] at h
  obtain ⟨_, s₂, hcheck, h⟩ := h
  obtain ⟨hchecked, rfl⟩ := checkFilled_ok.1 hcheck
  refine ⟨s₂, importAll_ok hall, hchecked, ?_⟩
  cases hmax : (imported.map (·.2)).max? with
  | none =>
    rw [hmax] at h; obtain ⟨_, rfl⟩ := pure_ok.1 h; exact .rfl' _
  | some latest =>
    rw [hmax] at h; simp only [bind_ok, pure_ok] at h
    obtain ⟨_, s₃, hrev, _, rfl⟩ := h
    exact revokeStaleCash_beside _ _ _ _ _ _ hrev

theorem importBrokerEvents_ok {ids : List String}
    (h : importBrokerEvents contentId events s = .ok ids s') :
    importEvents contentId events s = .ok ids s' := by
  unfold importBrokerEvents at h; split at h
  · next hi => rw [hi, ← h]
  split at h
  · cases h
  · split at h <;> cases h

/-! ## Rejected batches -/

/-- Incidents are added, outcomes quarantined and work marked dirty; all else stays. -/
structure OnlyEvidence (s s' : CoreStore) : Prop where
  orderIntents : s'.orderIntents = s.orderIntents
  brokerOrders : s'.brokerOrders = s.brokerOrders
  fills : s'.fills = s.fills
  orderEvents : s'.orderEvents = s.orderEvents
  config : s'.config = s.config
  links : s'.links = s.links
  documents : s'.documents = s.documents
  roundTrips : s'.roundTrips = s.roundTrips
  sourceCursors : s'.sourceCursors = s.sourceCursors
  certifications : s'.certifications = s.certifications
  revocations : s'.revocations = s.revocations
  guardianCurrent : s'.guardianCurrent = s.guardianCurrent
  incidents : ∀ r ∈ s.incidents.rows, r ∈ s'.incidents.rows
  outcomeIndex : ∀ lot, s'.outcomeIndex.get? lot = s.outcomeIndex.get? lot ∨
    s'.outcomeIndex.get? lot =
      (s.outcomeIndex.get? lot).map (·.withStatus "INTEGRITY_FAILURE")
  work : ∀ lot w, s.work.get? lot = some w → ∃ w', s'.work.get? lot = some w' ∧
    w'.processedVersion = w.processedVersion ∧ w.version ≤ w'.version

theorem OnlyEvidence.rfl' (s : CoreStore) : OnlyEvidence s s :=
  ⟨rfl, rfl, rfl, rfl, rfl, rfl, rfl, rfl, rfl, rfl, rfl, rfl, fun _ h => h, fun _ => .inl rfl,
    fun _ w h => ⟨w, h, rfl, le_refl _⟩⟩

theorem OnlyEvidence.trans' {a b c : CoreStore} (h : OnlyEvidence a b) (h' : OnlyEvidence b c) :
    OnlyEvidence a c where
  orderIntents := h'.orderIntents.trans h.orderIntents
  brokerOrders := h'.brokerOrders.trans h.brokerOrders
  fills := h'.fills.trans h.fills
  orderEvents := h'.orderEvents.trans h.orderEvents
  config := h'.config.trans h.config
  links := h'.links.trans h.links
  documents := h'.documents.trans h.documents
  roundTrips := h'.roundTrips.trans h.roundTrips
  sourceCursors := h'.sourceCursors.trans h.sourceCursors
  certifications := h'.certifications.trans h.certifications
  revocations := h'.revocations.trans h.revocations
  guardianCurrent := h'.guardianCurrent.trans h.guardianCurrent
  incidents r hr := h'.incidents r (h.incidents r hr)
  outcomeIndex lot := by
    rcases h.outcomeIndex lot with h₁ | h₁ <;> rcases h'.outcomeIndex lot with h₂ | h₂
    · exact .inl (h₂.trans h₁)
    · exact .inr (by rw [h₂, h₁])
    · exact .inr (h₂.trans h₁)
    · refine .inr ?_
      rw [h₂, h₁, Option.map_map]
      rfl
  work lot w hw := by
    obtain ⟨w₁, hw₁, p₁, v₁⟩ := h.work lot w hw
    obtain ⟨w₂, hw₂, p₂, v₂⟩ := h'.work lot w₁ hw₁
    exact ⟨w₂, hw₂, p₂.trans p₁, by omega⟩

instance : IsPreorder CoreStore OnlyEvidence where
  refl := OnlyEvidence.rfl'
  trans _ _ _ := OnlyEvidence.trans'

theorem dirty_onlyEvidence (lots : List String) (at' : Option Int) (claim : Bool) :
    Moves OnlyEvidence (dirty lots at' claim) := by
  refine dirty_moves (fun s lot => ?_) lots
  refine ⟨rfl, rfl, rfl, rfl, rfl, rfl, rfl, rfl, rfl, rfl, rfl, rfl, fun _ h => h,
    fun _ => .inl rfl, fun other w hw => ?_⟩
  have hget := Table.get?_upsert s.work (nextWork (s.work.get? lot) lot) other
  by_cases hlot : (nextWork (s.work.get? lot) lot).lotId = other
  · rw [if_pos hlot] at hget
    cases hprev : s.work.get? lot with
    | none =>
      rw [hprev] at hlot; have hlot : lot = other := hlot
      rw [← hlot, hprev] at hw; cases hw
    | some w₀ =>
      rw [hprev] at hlot hget; have hlot : w₀.lotId = other := hlot
      rw [(Table.get?_some hprev).2] at hlot; rw [← hlot, hprev] at hw; cases hw
      refine ⟨nextWork (some w) lot, ?_, rfl, Nat.le_succ _⟩
      show (s.work.upsert (nextWork (s.work.get? lot) lot)).get? other = _
      rw [hprev]; exact hget
  · rw [if_neg hlot] at hget; exact ⟨w, hget.trans hw, rfl, le_refl _⟩

theorem createIncident_onlyEvidence (row : IncidentRow) :
    Moves OnlyEvidence (onLedger (createIncident row)) := fun s b s' h => by
  obtain ⟨t, ht, rfl⟩ := zoom_ok.1 h
  obtain ⟨rows, hrows, rfl⟩ := createIncident_ok ht
  exact ⟨rfl, rfl, rfl, rfl, rfl, rfl, rfl, rfl, rfl, rfl, rfl, rfl, hrows, fun _ => .inl rfl,
    fun _ w h => ⟨w, h, rfl, le_refl _⟩⟩

theorem quarantine_get? (t : OutcomeTable) (lots : List String) (lot : String) :
    (lots.foldl (setOutcomeStatus "INTEGRITY_FAILURE") t).get? lot = t.get? lot ∨
      (lots.foldl (setOutcomeStatus "INTEGRITY_FAILURE") t).get? lot =
        (t.get? lot).map (·.withStatus "INTEGRITY_FAILURE") := by
  induction lots generalizing t with
  | nil => exact .inl rfl
  | cons l lots ih =>
    have hone := setOutcomeStatus_get? "INTEGRITY_FAILURE" t l lot
    rw [List.foldl_cons]; by_cases hlot : lot = l
    · subst hlot; rw [if_pos rfl] at hone
      refine .inr ((ih _).elim (fun h => h.trans hone) fun h => ?_)
      rw [h, hone, Option.map_map]; rfl
    · rw [if_neg hlot] at hone; rw [← hone]; exact ih _

theorem rejectEvidence_onlyEvidence (contentId : ContentId) (events : List BrokerEvent)
    (error : CoreError) (reason : String) :
    Moves OnlyEvidence (rejectEvidence contentId events error reason) := by
  refine Moves.immediate (Moves.get.bind fun s => ?_); split
  · exact Moves.throw _
  refine (createIncident_onlyEvidence _).bind fun _ => Moves.ite (Moves.bind ?_ fun _ => ?_)
    (Moves.pure _)
  · intro a u b h; rw [modify_ok] at h; subst h
    exact ⟨rfl, rfl, rfl, rfl, rfl, rfl, rfl, rfl, rfl, rfl, rfl, rfl, fun _ h => h,
      fun lot => quarantine_get? _ _ lot, fun _ w h => ⟨w, h, rfl, le_refl _⟩⟩
  · exact dirty_onlyEvidence _ _ _

/-- **A rejected batch.** Only the evidence of the rejection can be new. -/
theorem importBrokerEvents_error {e : CoreError}
    (h : importBrokerEvents contentId events s = .error e s') : OnlyEvidence s s' := by
  unfold importBrokerEvents at h; split at h
  · cases h
  next e₁ s₁ hi =>
  -- the business transaction rolled back
  have hs₁ : s₁ = s := immediate_error hi; subst hs₁; split at h
  · cases h; exact .rfl' _
  next reason _ =>
  split at h
  · next hr => cases h; exact rejectEvidence_onlyEvidence _ _ _ _ _ _ _ hr
  next hr =>
  cases h; rw [immediate_error hr]; exact .rfl' _

end Quantbot.L4
