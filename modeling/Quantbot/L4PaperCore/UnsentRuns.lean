import Quantbot.L4PaperCore.Unsent

/-!
# Unsent, along any run

Any number of coordinator calls over one store that the guards, the retirements, the
imports and every other transaction of the core write as well. A refusal is only written
of an intent that is `ORDER_CREATED` and leaves it there or in `ERROR`; the claim of the
send is a compare-and-set from `ORDER_CREATED` behind a check that no refused entry
passes. So the two exclude each other, whatever the order (`Guarded`), and what is
unsent once stays so (`unsent_permanent`).

`write` stands for the other transactions; each must be a `GuardedWrite`.
-/
namespace Quantbot.L4

open Core L1 L2 L3 Txn

/-! ## Writes -/

/-- The link of an entry. -/
def IsEntry (s : CoreStore) (i : String) : Prop :=
  ∃ link ∈ s.links.rows, link.intentId = i ∧ link.role = .entry

/-- A refusal that shows is of an intent not claimed yet, and ends it in `ERROR` or
leaves a created entry behind. -/
def RefusalWritten (s s' : CoreStore) (e : OrderEventRow) : Prop :=
  ∃ i row, e.intentId = some i ∧ s.orderIntents.get? i = some row ∧
    (row.state = .riskApproved ∨ row.state = .orderCreated) ∧
    (s'.orderIntents.get? i = some (row.withState .error) ∨
      s'.orderIntents.get? i = some (row.withState .orderCreated) ∧
        e.eventType = entryRefusal ∧ IsEntry s' i)

/-- What no transaction but a claim oversteps. -/
structure Respects (posted : String → Prop) (s s' : CoreStore) : Prop where
  evolves : Evolves s.toStore s'.toStore
  links : ∀ l ∈ s.links.rows, l ∈ s'.links.rows
  orders : ∀ o ∈ s'.brokerOrders.rows, posted o.clientOrderId ∨
    ∃ o' ∈ s.brokerOrders.rows, o'.clientOrderId = o.clientOrderId
  created : ∀ i row, s.orderIntents.get? i = some row → row.state = .orderCreated →
    ¬ posted row.clientOrderId →
    ∃ q, s'.orderIntents.get? i = some (row.withState q) ∧ (q = .orderCreated ∨ q = .error)

/-- A transaction that records no send as not attempted, and a refusal only before the
claim. -/
structure GuardedWrite (posted : String → Prop) (s s' : CoreStore) : Prop where
  respects : Respects posted s s'
  added : ∀ e ∈ s'.orderEvents.rows, e ∈ s.orderEvents.rows ∨
    (∀ c, showsNoSend c e = false) ∧ (showsRefusal e = true → RefusalWritten s s' e)

section Writes

variable {posted : String → Prop} {s s' : CoreStore} {i : String}

theorem HarmlessCore.respects (h : HarmlessCore posted s s') : Respects posted s s' :=
  ⟨h.ledger.evolves, h.links, h.ledger.orders, h.ledger.created⟩

theorem HarmlessCore.guarded (h : HarmlessCore posted s s') : GuardedWrite posted s s' :=
  ⟨h.respects, fun _ he => .inl (h.ledger.events ▸ he)⟩

theorem Retired.guarded (h : Retired i s s') : GuardedWrite posted s s' := by
  obtain ⟨row, hrow, hstate, hrow'⟩ := h.prepared
  refine ⟨⟨h.evolves, fun l hl => h.links ▸ hl, fun o ho => .inr ⟨o, h.orders ▸ ho, rfl⟩,
    fun j q hq hcreated _ => ?_⟩, fun e he => ?_⟩
  · by_cases hj : j = i
    · subst hj; rw [hrow] at hq; cases hq; exact ⟨.error, hrow', .inr rfl⟩
    · exact ⟨q.state, (h.others j hj).trans hq, .inl hcreated⟩
  · rcases h.added e he with hold | ⟨hid, hnosend⟩
    · exact .inl hold
    · exact .inr ⟨hnosend, fun _ => ⟨i, row, hid, hrow, hstate, .inl hrow'⟩⟩

variable {v : GuardViews}

theorem retireEntry_guarded {r : RetireReading} {b : Bool} (h : retireEntry v r i s = .ok b s') :
    GuardedWrite posted s s' := by
  rcases retireEntry_ok h with rfl | hretired
  · exact (refl_of (HarmlessCore posted) _).guarded
  · exact hretired.guarded

/-! ## The claim of the send -/

/-- The compare-and-set took the intent to `SUBMITTING`. -/
structure Taken (i : String) (purpose : OrderPurpose) (s s' : CoreStore) : Prop where
  evolves : Evolves s.toStore s'.toStore
  orders : s'.brokerOrders = s.brokerOrders
  links : s'.links = s.links
  created : ∃ row, s.orderIntents.get? i = some row ∧ row.state = .orderCreated
  others : ∀ j, j ≠ i → s'.orderIntents.get? j = s.orderIntents.get? j
  added : ∀ e ∈ s'.orderEvents.rows, e ∈ s.orderEvents.rows ∨
    (∀ c, showsNoSend c e = false) ∧ showsRefusal e = false
  clear : purpose = .entry → hasEvent s.toStore i entryRefusal = false

variable {kind : CoordinatorKind} {reasons : List String} {intent : OrderIntent}
  {purpose : OrderPurpose} {r : SendReading}

theorem sendObjections_ok {objections : List String}
    (h : (coreCoordinator v kind).sendObjections r intent purpose reasons s = .ok objections s') :
    EventsAdded intent.intentId s s' ∧ (∀ e ∈ s'.orderEvents.rows, e ∈ s.orderEvents.rows ∨
        (showsRefusal e = true → objections ≠ [])) ∧
      (purpose = .entry → reasons ++ objections = [] →
        hasEvent s.toStore intent.intentId entryRefusal = false) := by
  have hcheck : (coreCoordinator v kind).sendObjections r intent purpose reasons =
      if reasons = [] then finalSendInSession v r intent purpose else pure [] := by
    cases kind <;> rfl
  rw [hcheck] at h; split at h
  · obtain ⟨hadded, hnew, hclear⟩ := finalSendInSession_ok h
    refine ⟨hadded, fun e he => ?_, fun hp hempty => hclear hp (List.append_eq_nil_iff.1 hempty).2⟩
    exact (hnew e he).imp_right fun hshows hs => (hshows hs).2
  · next hreasons =>
    obtain ⟨rfl, rfl⟩ := pure_ok.1 h
    exact ⟨refl_of (EventsAdded _) _, fun _ he => .inl he,
      fun _ hempty => absurd (List.append_eq_nil_iff.1 hempty).1 hreasons⟩

variable {u : PUnit}

theorem recordRefusal_ok
    (h : (coreCoordinator v kind).recordRefusal r intent purpose reasons s = .ok u s') :
    EventsAdded intent.intentId s s' ∧ (reasons = [] → s' = s) := by
  cases kind with
  | fixture =>
    obtain ⟨_, rfl⟩ := pure_ok.1 h
    exact ⟨refl_of (EventsAdded _) _, fun _ => rfl⟩
  | core =>
    have hrefuse : (coreCoordinator v .core).recordRefusal r intent purpose reasons =
        if reasons = [] then pure ⟨⟩
        else recordPreSendRefusal v.contentId intent purpose reasons r.now := rfl
    rw [hrefuse] at h; split at h
    · obtain ⟨_, rfl⟩ := pure_ok.1 h
      exact ⟨refl_of (EventsAdded _) _, fun _ => rfl⟩
    · next hreasons => exact ⟨recordPreSendRefusal_events _ _ _ _ _ _ _ _ h, fun hr => absurd hr hreasons⟩

/-- **The claim** takes the send, or is a guarded write that ends the intent. -/
theorem claimSend_taken {claimed : OrderIntent} {left : List String}
    (h : (coreCoordinator v kind).claimSend r intent purpose reasons s = .ok (left, claimed) s') :
    (left = [] → Taken intent.intentId purpose s s') ∧ (left ≠ [] → GuardedWrite posted s s') := by
  obtain ⟨objections, s₁, s₂, t, hleft, hcheck, hrefuse, hset, rfl⟩ := claimSend_ok h
  obtain ⟨hadded₁, hnew₁, hclear⟩ := sendObjections_ok hcheck
  obtain ⟨hadded₂, hsame⟩ := recordRefusal_ok hrefuse
  have hadded := trans_of (EventsAdded intent.intentId) hadded₁ hadded₂
  have hevolves : Evolves s₂.toStore t := transition_evolves _ _ _ _ _ _ hset
  obtain ⟨row, hrow, hstate, _, _, rfl⟩ := transitionOrderIntent_ok (stored_ok.1 hset)
  have hrow₀ : s.orderIntents.get? intent.intentId = some row := hadded.intents ▸ hrow
  have hget : ∀ j q, ((s₂.toStore.setState intent.intentId q).orderIntents.get? j) =
      if j = intent.intentId then some (row.withState q) else s.orderIntents.get? j := by
    intro j q; rw [setState_get?, hadded.intents, hrow₀]; rfl
  refine ⟨fun hempty => ?_, fun hblocked => ?_⟩
  · refine ⟨hadded.evolves.trans' hevolves, hadded.orders, hadded.links, ⟨row, hrow₀, hstate⟩,
      fun j hj => ?_, fun e he => ?_, fun hp => hclear hp (hleft ▸ hempty)⟩
    · exact (hget j _).trans (if_neg hj)
    have he₁ : e ∈ s₁.orderEvents.rows := hsame hempty ▸ he
    rcases hadded.added e he with hold | ⟨_, hnosend⟩
    · exact .inl hold
    rcases hnew₁ e he₁ with hold | hshows
    · exact .inl hold
    · refine .inr ⟨hnosend, Bool.eq_false_iff.2 fun hs => hshows hs ?_⟩
      exact (List.append_eq_nil_iff.1 (hleft ▸ hempty)).2
  · have hend : (coreSession.setLedger s₂ (s₂.toStore.setState intent.intentId .error)).orderIntents.get?
        intent.intentId = some (row.withState .error) := (hget _ _).trans (if_pos rfl)
    rw [if_neg hblocked] at hevolves ⊢
    refine ⟨⟨hadded.evolves.trans' hevolves, fun l hl => hadded.links ▸ hl,
      fun o ho => .inr ⟨o, hadded.orders ▸ ho, rfl⟩, fun j q hq hcreated _ => ?_⟩, fun e he => ?_⟩
    · by_cases hj : j = intent.intentId
      · subst hj; rw [hrow₀] at hq; cases hq; exact ⟨.error, hend, .inr rfl⟩
      · exact ⟨q.state, ((hget j _).trans (if_neg hj)).trans hq, .inl hcreated⟩
    · rcases hadded.added e he with hold | ⟨hid, hnosend⟩
      · exact .inl hold
      · exact .inr ⟨hnosend, fun _ => ⟨intent.intentId, row, hid, hrow₀, .inr hstate, .inl hend⟩⟩

/-! ## The evidence of no send -/

theorem recordLocalNoSend_ok {contentId : ContentId} {client : String} {at' : Int} {t t' : Store}
    (h : recordLocalNoSend contentId i client at' t = .ok u t') :
    t' = t ∨ ∃ row, t.orderIntents.get? i = some row ∧ row.state = .rejected ∧
      t'.orderIntents = t.orderIntents ∧ t'.brokerOrders = t.brokerOrders ∧
      ∀ e ∈ t'.orderEvents.rows, e ∈ t.orderEvents.rows ∨
        e.intentId = some i ∧ showsRefusal e = false := by
  unfold recordLocalNoSend at h; rw [immediate_ok, bind_ok] at h
  obtain ⟨t₁, t₂, hget, h⟩ := h; rw [get_ok] at hget; obtain ⟨rfl, rfl⟩ := hget
  cases hrow : t₂.orderIntents.get? i with
  | none =>
    rw [hrow] at h; exact .inl (pure_ok.1 h).2.symm
  | some row =>
    rw [hrow] at h; dsimp only at h; split at h
    · next hguard =>
      rw [bind_ok] at h; obtain ⟨_, t₃, hrecord, h⟩ := h
      obtain ⟨_, rfl⟩ := pure_ok.1 h
      rcases recordOrderEvent_ok hrecord with ⟨_, _, rfl⟩ | ⟨_, hnone, rfl⟩
      · exact .inl rfl
      refine .inr ⟨row, rfl, hguard.1, rfl, rfl, fun e he => ?_⟩
      rcases (Table.mem_insert hnone).1 he with he | rfl
      · exact .inl he
      · exact .inr ⟨rfl, rfl⟩
    · exact .inl (pure_ok.1 h).2.symm

/-- What recording that no send was attempted does. -/
structure NoSendNoted (posted : String → Prop) (i : String) (s s' : CoreStore) : Prop where
  respects : Respects posted s s'
  added : ∀ e ∈ s'.orderEvents.rows, e ∈ s.orderEvents.rows ∨ showsRefusal e = false ∧
    e.intentId = some i ∧ ∃ row, s.orderIntents.get? i = some row ∧ row.state = .rejected

theorem noSend_noted (h : (coreCoordinator v kind).noSend r intent s = .ok u s') :
    NoSendNoted posted intent.intentId s s' := by
  have hsame : NoSendNoted posted intent.intentId s s :=
    ⟨(refl_of (HarmlessCore posted) _).respects, fun _ he => .inl he⟩
  cases kind with
  | fixture =>
    obtain ⟨_, rfl⟩ := pure_ok.1 h; exact hsame
  | core =>
    have hrecord : onLedger (recordLocalNoSend v.contentId intent.intentId intent.clientOrderId
        r.now) s = .ok u s' := h
    obtain ⟨t, ht, rfl⟩ := zoom_ok.1 hrecord
    have hevolves := recordLocalNoSend_evolves _ _ _ _ _ _ _ ht
    rcases recordLocalNoSend_ok ht with rfl | ⟨row, hrow, hstate, hintents, horders, hadded⟩
    · exact hsame
    refine ⟨⟨hevolves, fun _ hl => hl, fun o ho => .inr ⟨o, ?_, rfl⟩,
      fun j q hq hcreated _ => ⟨q.state, ?_, .inl hcreated⟩⟩, fun e he => ?_⟩
    · show o ∈ s.brokerOrders.rows; rw [← horders]; exact ho
    · show t.orderIntents.get? j = _; rw [hintents]; exact hq
    · rcases hadded e he with hold | ⟨hid, hshows⟩
      · exact .inl hold
      · exact .inr ⟨hshows, hid, row, hrow, hstate⟩

end Writes

/-! ## Worlds -/

section Worlds

variable {ι : Type}

abbrev CoreWorld (ι : Type) := World ι CoreStore CoreError

/-- A request under the client id has left. -/
def Posted (w : CoreWorld ι) (client : String) : Prop :=
  ∃ a ∈ w.log, ∃ i, a.2 = .submit i client true

/-- No call sends the intent. -/
def Idle (w : CoreWorld ι) (i : String) : Prop :=
  ∀ p x, sender (w.phases p) = some x → x.intentId ≠ i

/-- An intent past its claim of which no request has left or will leave. -/
structure Spared (w : CoreWorld ι) (i : String) : Prop where
  past : PastCreated w.store.toStore i
  idle : Idle w i
  unsent : ∀ a ∈ submits i w.log, ∀ c, a.2 ≠ .submit i c true

/-- A refusal on record: nothing was sent, and nothing is claimed past it. -/
structure RefusalStands (w : CoreWorld ι) (i : String) (e : OrderEventRow) : Prop where
  idle : Idle w i
  unsent : submits i w.log = []
  row : ∃ row, w.store.orderIntents.get? i = some row ∧
    (row.state = .error ∨
      row.state = .orderCreated ∧ e.eventType = entryRefusal ∧ IsEntry w.store i)

/-- What a step leaves of an intent it does not claim. -/
structure Leaves (j : String) (w w' : CoreWorld ι) : Prop where
  evolves : Evolves w.store.toStore w'.store.toStore
  links : ∀ l ∈ w.store.links.rows, l ∈ w'.store.links.rows
  created : ∀ row, w.store.orderIntents.get? j = some row → row.state = .orderCreated →
    ¬ Posted w row.clientOrderId →
    ∃ q, w'.store.orderIntents.get? j = some (row.withState q) ∧ (q = .orderCreated ∨ q = .error)
  idle : Idle w j → Idle w' j
  submits : Idle w j → submits j w'.log = submits j w.log

section Leaves

variable {w w' : CoreWorld ι} {i : String} {e : OrderEventRow}

theorem Spared.leaves (h : Spared w i) (hl : Leaves i w w') : Spared w' i where
  past := hl.evolves.pastCreated h.past
  idle := hl.idle h.idle
  unsent := by
    rw [hl.submits h.idle]
    exact h.unsent

theorem IsEntry.mono {s s' : CoreStore} (h : IsEntry s i)
    (hl : ∀ l ∈ s.links.rows, l ∈ s'.links.rows) : IsEntry s' i := by
  obtain ⟨link, hmem, hlink⟩ := h; exact ⟨link, hl link hmem, hlink⟩

theorem RefusalStands.leaves (h : RefusalStands w i e) (hl : Leaves i w w')
    (hunposted : ∀ row, w.store.orderIntents.get? i = some row → ¬ Posted w row.clientOrderId) :
    RefusalStands w' i e := by
  refine ⟨hl.idle h.idle, (hl.submits h.idle).trans h.unsent, ?_⟩
  obtain ⟨row, hrow, herror | ⟨hcreated, htype, hentry⟩⟩ := h.row
  · obtain ⟨q, hq, hleads⟩ := hl.evolves.intents i row hrow
    rw [herror] at hleads; exact ⟨_, hq, .inl (hleads.of_terminal (by decide))⟩
  · obtain ⟨q, hq, rfl | rfl⟩ := hl.created row hrow hcreated (hunposted row hrow)
    · exact ⟨_, hq, .inr ⟨rfl, htype, hentry.mono hl.links⟩⟩
    · exact ⟨_, hq, .inl rfl⟩

end Leaves

/-! ## The invariant -/

/-- What holds in every state of the system. -/
structure Guarded (coordinator : ι → Coordinator coreSession SendReading) (w : CoreWorld ι) :
    Prop where
  single : ∀ i, SingleSender coordinator i w
  /-- The broker holds only what was posted, and so does the store. -/
  orders : ∀ o ∈ w.store.brokerOrders.rows, Posted w o.clientOrderId
  snapshots : ∀ p o, snapshot (w.phases p) = some o → Posted w o.clientOrderId
  past : ∀ p i, pastIntent (w.phases p) = some i → PastCreated w.store.toStore i
  /-- A call's purpose is that of its intent's link. -/
  called : ∀ p i purpose, calledFor (w.phases p) = some (i, purpose) →
    ∃ link ∈ w.store.links.rows, link.intentId = i ∧ (link.role = .entry ↔ purpose = .entry)
  refused : ∀ e ∈ w.store.orderEvents.rows, showsRefusal e = true →
    ∀ i, e.intentId = some i → RefusalStands w i e
  noSends : ∀ e ∈ w.store.orderEvents.rows, ∀ c, showsNoSend c e = true →
    ∀ i, e.intentId = some i →
      (∃ row, w.store.orderIntents.get? i = some row ∧ row.state = .rejected) ∧ Spared w i
  sparing : ∀ p i, sparedIntent (w.phases p) = some i → Spared w i

section Invariant

variable {coordinator : ι → Coordinator coreSession SendReading} {w w' : CoreWorld ι} {i : String}

/-- An intent of which no request has left: neither has one under its client id. -/
theorem Guarded.unposted (h : Guarded coordinator w) {row : OrderIntent}
    (hrow : w.store.orderIntents.get? i = some row)
    (hunsent : ∀ a ∈ submits i w.log, ∀ c, a.2 ≠ .submit i c true) :
    ¬ Posted w row.clientOrderId := by
  rintro ⟨a, ha, k, hsubmit⟩
  have hmem : a ∈ submits k w.log :=
    List.mem_filter.2 ⟨ha, by rw [hsubmit]; exact decide_eq_true rfl⟩
  obtain ⟨other, sent, hother, hclient⟩ := (h.single k).client a hmem
  rw [hsubmit] at hclient
  injection hclient with _ hclient _
  -- client ids are unique, so the request was this intent's
  have hsame : other = row := UTable.eq_of_alt (Table.get?_some hother).1 (Table.get?_some hrow).1
    hclient.symm
  have hk : k = i := by
    rw [← (Table.get?_some hother).2, hsame]; exact (Table.get?_some hrow).2
  subst hk; exact hunsent a hmem _ hsubmit

variable {e : OrderEventRow}

section

variable (h : Guarded coordinator w)
include h

theorem RefusalStands.unposted (hs : RefusalStands w i e)
    (row : OrderIntent) (hrow : w.store.orderIntents.get? i = some row) :
    ¬ Posted w row.clientOrderId := by
  refine h.unposted hrow fun a ha => ?_; rw [hs.unsent] at ha; cases ha

theorem Guarded.unclaimed (hpast : ¬ PastCreated w.store.toStore i) :
    Idle w i ∧ submits i w.log = [] := by
  refine ⟨fun p x hx hi => hpast ?_, not_not.1 fun hne => hpast ((h.single i).left hne)⟩
  obtain ⟨y, hy, rfl⟩ := Option.map_eq_some_iff.1 hx
  exact (h.single i).taken p y hy hi

theorem Guarded.refused_next (hl : ∀ j, Leaves j w w')
    (hadded : ∀ e ∈ w'.store.orderEvents.rows, e ∈ w.store.orderEvents.rows ∨
      (showsRefusal e = true → RefusalWritten w.store w'.store e)) :
    ∀ e ∈ w'.store.orderEvents.rows, showsRefusal e = true →
      ∀ i, e.intentId = some i → RefusalStands w' i e := by
  intro e he hshows i hi; rcases hadded e he with hold | hnew
  · have hstands := h.refused e hold hshows i hi
    exact hstands.leaves (hl i) (hstands.unposted h)
  obtain ⟨j, row, hj, hrow, hstate, hrow'⟩ := hnew hshows; rw [hi] at hj
  cases hj
  have hpast : ¬ PastCreated w.store.toStore i := by
    rintro ⟨row', hget, hra, hoc⟩; rw [hrow] at hget; cases hget
    exact hstate.elim hra hoc
  obtain ⟨hidle, hunsent⟩ := h.unclaimed hpast
  refine ⟨(hl i).idle hidle, ((hl i).submits hidle).trans hunsent, ?_⟩
  rcases hrow' with hend | ⟨hcreated, htype, hentry⟩
  · exact ⟨_, hend, .inl rfl⟩
  · exact ⟨_, hcreated, .inr ⟨rfl, htype, hentry⟩⟩

theorem Guarded.noSend_kept {c : String}
    (he : e ∈ w.store.orderEvents.rows) (hshows : showsNoSend c e = true)
    (hi : e.intentId = some i) (hl : Leaves i w w') :
    (∃ row, w'.store.orderIntents.get? i = some row ∧ row.state = .rejected) ∧ Spared w' i := by
  obtain ⟨⟨row, hrow, hstate⟩, hspared⟩ := h.noSends e he c hshows i hi
  obtain ⟨q, hq, hleads⟩ := hl.evolves.intents i row hrow; rw [hstate] at hleads
  exact ⟨⟨_, hq, hleads.of_terminal (by decide)⟩, hspared.leaves hl⟩

/-! ## What it says of unsent intents -/

theorem Guarded.orderless {c : String} (hc : ¬ Posted w c) : w.store.orderByClient c = none := by
  refine UTable.getAlt?_none.2 fun o ho hclient => hc ?_
  exact hclient ▸ h.orders o ho

theorem Guarded.unsent (hu : definitivelyUnsent w.store.toStore i = true) :
    ∃ row, w.store.orderIntents.get? i = some row ∧ ¬ Posted w row.clientOrderId ∧
      (row.state = .rejected ∨ row.state = .error) := by
  obtain ⟨row, hrow, _, ⟨hstate, e, he, hshows⟩ | ⟨hstate, e, he, hshows⟩⟩ := definitivelyUnsent_iff.1 hu
  · obtain ⟨hmem, hi⟩ := List.mem_filter.1 he
    obtain ⟨_, hspared⟩ := h.noSends e hmem _ hshows i (of_decide_eq_true hi)
    exact ⟨row, hrow, h.unposted hrow hspared.unsent, .inl hstate⟩
  · obtain ⟨hmem, hi⟩ := List.mem_filter.1 he
    have hstands := h.refused e hmem hshows i (of_decide_eq_true hi)
    exact ⟨row, hrow, hstands.unposted h row hrow, .inr hstate⟩

end

theorem eventsOf_evolves {s s' : Store} (h : Evolves s s') {i : String} (he : e ∈ s.eventsOf i) :
    e ∈ s'.eventsOf i := by
  obtain ⟨hmem, hi⟩ := List.mem_filter.1 he
  exact List.mem_filter.2 ⟨h.events e hmem, hi⟩

/-- **Permanence** across an evolution of the ledger. -/
theorem Guarded.unsent_kept (h : Guarded coordinator w')
    (he : Evolves w.store.toStore w'.store.toStore)
    (hu : definitivelyUnsent w.store.toStore i = true) :
    definitivelyUnsent w'.store.toStore i = true := by
  obtain ⟨row, hrow, _, ⟨hstate, e, hmem, hshows⟩ | ⟨hstate, e, hmem, hshows⟩⟩ := definitivelyUnsent_iff.1 hu
  · obtain ⟨q, hq, hleads⟩ := he.intents i row hrow; rw [hstate] at hleads
    have hkept : q = .rejected := hleads.of_terminal (by decide)
    have hmem' := eventsOf_evolves he hmem
    obtain ⟨hin, hi⟩ := List.mem_filter.1 hmem'
    obtain ⟨_, hspared⟩ := h.noSends e hin _ hshows i (of_decide_eq_true hi)
    exact definitivelyUnsent_iff.2 ⟨_, hq, h.orderless (h.unposted hq hspared.unsent),
      .inl ⟨hkept, e, hmem', hshows⟩⟩
  · obtain ⟨q, hq, hleads⟩ := he.intents i row hrow; rw [hstate] at hleads
    have hkept : q = .error := hleads.of_terminal (by decide)
    have hmem' := eventsOf_evolves he hmem
    obtain ⟨hin, hi⟩ := List.mem_filter.1 hmem'
    have hstands := h.refused e hin hshows i (of_decide_eq_true hi)
    exact definitivelyUnsent_iff.2 ⟨_, hq, h.orderless (hstands.unposted h _ hq),
      .inr ⟨hkept, e, hmem', hshows⟩⟩

end Invariant

/-! ## Steps -/

variable {w w' : CoreWorld ι}

theorem Posted.mono {c : String} (h : Posted w c)
    (hlog : ∀ a ∈ w.log, a ∈ w'.log) : Posted w' c := by
  obtain ⟨a, ha, i, hsubmit⟩ := h; exact ⟨a, hlog a ha, i, hsubmit⟩

section Writes

variable {coordinator : ι → Coordinator coreSession SendReading} {w : CoreWorld ι} {s : CoreStore}

/-- **Another transaction** keeps the invariant. -/
theorem Guarded.write (h : Guarded coordinator w) (hg : GuardedWrite (Posted w) w.store s) :
    Guarded coordinator { w with store := s } := by
  have hr := hg.respects
  have hl : ∀ j, Leaves j w { w with store := s } := fun j =>
    ⟨hr.evolves, hr.links, hr.created j, fun hidle => hidle, fun _ => rfl⟩
  refine ⟨fun i => (h.single i).write hr.evolves, fun o ho => ?_, h.snapshots,
    fun p i hi => hr.evolves.pastCreated (h.past p i hi), fun p i purpose hc => ?_,
    h.refused_next hl fun e he => (hg.added e he).imp_right And.right, fun e he c hshows i hi => ?_,
    fun p i hi => (h.sparing p i hi).leaves (hl i)⟩
  · rcases hr.orders o ho with hp | ⟨o', ho', hclient⟩
    · exact hp
    · exact hclient ▸ h.orders o' ho'
  · obtain ⟨link, hmem, hlink⟩ := h.called p i purpose hc
    exact ⟨link, hr.links link hmem, hlink⟩
  · rcases hg.added e he with hold | ⟨hnone, _⟩
    · exact h.noSend_kept hold hshows hi (hl i)
    · rw [hnone c] at hshows; cases hshows

end Writes

section Moves

variable [DecidableEq ι] {coordinator : ι → Coordinator coreSession SendReading}
  {w : CoreWorld ι} {p : ι} {input : Input SendReading} {st : Step CoreStore CoreError}

theorem move_log {a : ι × Action} (h : a ∈ w.log) : a ∈ (w.move p st).log :=
  List.mem_append_right _ h

theorem move_submits {j : String} (hm : Moved (coordinator p) w.store (w.phases p) st)
    (hidle : Idle w j) : submits j (w.move p st).log = submits j w.log := by
  show submits j ((st.action.map fun a => (p, a)).toList ++ w.log) = _
  cases hact : st.action with
  | none => rfl
  | some a =>
    refine submits_cons_quiet ?_
    cases hm.sends with
    | aside _ hquiet => exact hquiet a (by simp [hact]) j
    | kept _ hquiet | claimed _ _ hquiet => rw [hact] at hquiet; cases hquiet
    | submitted intent posts sent hbefore haction =>
      rw [hact] at haction; cases haction
      refine decide_eq_false (hidle p intent ?_)
      show (w.phases p).sending.map (·.intent) = some intent; rw [hbefore]; rfl
    | missed intent posts _ _ haction =>
      rw [hact] at haction; cases haction; rfl

theorem move_leaves (hm : Moved (coordinator p) w.store (w.phases p) st)
    (hr : Respects (Posted w) w.store st.store)
    (hc : Continues st.store (w.phases p) input st.phase) (j : String) :
    Leaves j w (w.move p st) := by
  refine ⟨hr.evolves, hr.links, hr.created j, fun hidle q x hx => ?_, move_submits hm⟩
  rw [move_phase] at hx; split at hx
  · exact hidle p x (hc.sender x hx)
  · exact hidle q x hx

/-- **A step of a call** that claims nothing keeps the invariant. -/
theorem Guarded.move (h : Guarded coordinator w)
    (hm : Moved (coordinator p) w.store (w.phases p) st) (hr : Respects (Posted w) w.store st.store)
    (hc : Continues st.store (w.phases p) input st.phase)
    (hhonest : ∀ o, Delivers o input → Posted w o.clientOrderId)
    (hrefused : ∀ e ∈ st.store.orderEvents.rows, e ∈ w.store.orderEvents.rows ∨
      (showsRefusal e = true → RefusalWritten w.store st.store e))
    (hnosend : ∀ e ∈ st.store.orderEvents.rows, e ∈ w.store.orderEvents.rows ∨
      ∀ c, showsNoSend c e = true → ∀ i, e.intentId = some i →
        (∃ row, w.store.orderIntents.get? i = some row ∧ row.state = .rejected) ∧ Spared w i)
    (hfirst : ∀ i, sparedIntent st.phase = some i → RefusesFirst (w.phases p) input i →
      Spared (w.move p st) i) : Guarded coordinator (w.move p st) := by
  have hl := move_leaves hm hr hc
  refine ⟨fun i => (h.single i).move hm, fun o ho => ?_, fun q o ho => ?_, fun q i hi => ?_,
    fun q i purpose hcalled => ?_, h.refused_next hl hrefused, fun e he c hshows i hi => ?_,
    fun q i hi => ?_⟩
  · rcases hr.orders o ho with hp | ⟨o', ho', hclient⟩
    · exact hp.mono fun a => move_log
    · exact hclient ▸ (h.orders o' ho').mono fun a => move_log
  · rw [move_phase] at ho; split at ho
    · rcases hc.snapshot o ho with hold | hnew
      · exact (h.snapshots p o hold).mono fun a => move_log
      · exact (hhonest o hnew).mono fun a => move_log
    · exact (h.snapshots q o ho).mono fun a => move_log
  · rw [move_phase] at hi; split at hi
    · exact hc.past i hi
    · exact hr.evolves.pastCreated (h.past q i hi)
  · have hbefore : ∃ r, calledFor (w.phases r) = some (i, purpose) := by
      rw [move_phase] at hcalled; split at hcalled
      · exact ⟨p, hc.called _ hcalled⟩
      · exact ⟨q, hcalled⟩
    obtain ⟨r, hr'⟩ := hbefore
    obtain ⟨link, hmem, hlink⟩ := h.called r i purpose hr'
    exact ⟨link, hr.links link hmem, hlink⟩
  · rcases hnosend e he with hold | hnew
    · exact h.noSend_kept hold hshows hi (hl i)
    obtain ⟨⟨row, hrow, hstate⟩, hspared⟩ := hnew c hshows i hi
    obtain ⟨q, hq, hleads⟩ := hr.evolves.intents i row hrow
    rw [hstate] at hleads
    exact ⟨⟨_, hq, hleads.of_terminal (by decide)⟩, hspared.leaves (hl i)⟩
  · rw [move_phase] at hi; split at hi
    · rcases hc.spared i hi with hold | hnew
      · exact (h.sparing p i hold).leaves (hl i)
      · exact hfirst i hi hnew
    · exact (h.sparing q i hi).leaves (hl i)

theorem sender_of_spared {ph : CorePhase} {i : String} (h : sparedIntent ph = some i) :
    sender ph = none := by
  cases ph <;> first | rfl | cases h

/-- A refusal before any I/O of the first request: nothing has left, and nothing will. -/
theorem Guarded.first_refusal (h : Guarded coordinator w) {sha256 : String → String}
    (hstep : (coordinator p).step sha256 w.store (w.phases p) input = some st) {i : String}
    (hspared : sparedIntent st.phase = some i) (hfirst : RefusesFirst (w.phases p) input i) :
    Spared (w.move p st) i := by
  have hm := step_moved hstep
  obtain ⟨intent, submitting, reply, hph, rfl, rfl, hunsent⟩ := hfirst
  have hsending : (w.phases p).sending = some ⟨intent, 0, true⟩ := by rw [hph]; rfl
  have hsingle := h.single intent.intentId
  obtain ⟨hone, _⟩ := hsingle.one p _ hsending rfl
  have hnone : submits intent.intentId w.log = [] :=
    List.eq_nil_of_length_eq_zero (hsingle.count p _ hsending rfl).1
  refine ⟨hm.evolves.pastCreated (hsingle.taken p _ hsending rfl), fun q x hx hi => ?_,
    fun a ha c hsubmit => ?_⟩
  · rw [move_phase] at hx; split at hx
    · rw [sender_of_spared hspared] at hx; cases hx
    · next hq =>
      obtain ⟨y, hy, rfl⟩ := Option.map_eq_some_iff.1 hx
      exact hq (hone q y hy hi)
  · have hact : st.action = some (.submit intent.intentId intent.clientOrderId false) := by
      rw [hph, Coordinator.step, if_pos hunsent] at hstep; cases hstep; rfl
    have hlog : (w.move p st).log =
        (p, .submit intent.intentId intent.clientOrderId false) :: w.log := by
      show (st.action.map fun a => (p, a)).toList ++ w.log = _; rw [hact]; rfl
    obtain ⟨hmem, _⟩ := List.mem_filter.1 ha; rw [hlog] at hmem
    rcases List.mem_cons.1 hmem with rfl | hold
    · cases hsubmit
    have hin : a ∈ submits intent.intentId w.log :=
      List.mem_filter.2 ⟨hold, by rw [hsubmit]; exact decide_eq_true rfl⟩
    rw [hnone] at hin; cases hin

variable {intent : OrderIntent} {purpose : OrderPurpose} {reasons : List String}

/-- **The claim** of the send keeps the invariant: no refusal of the intent stands. -/
theorem Guarded.taken (h : Guarded coordinator w) {intent submitting : OrderIntent}
    {s : CoreStore} (hph : w.phases p = .claim intent purpose reasons)
    (ht : Taken intent.intentId purpose w.store s) (hid : submitting.intentId = intent.intentId)
    (hm : Moved (coordinator p) w.store (w.phases p)
      { phase := .post intent submitting 0, store := s }) :
    Guarded coordinator (w.move p { phase := .post intent submitting 0, store := s }) := by
  have hrow := ht.created
  have hunclaimed : ¬ PastCreated w.store.toStore intent.intentId := by
    obtain ⟨row, hget, hstate⟩ := hrow
    rintro ⟨row', hget', _, hne⟩
    rw [hget] at hget'
    cases hget'
    exact hne hstate
  -- every other intent is left alone
  have hl : ∀ j, j ≠ intent.intentId →
      Leaves j w (w.move p { phase := .post intent submitting 0, store := s }) := by
    intro j hj
    refine ⟨ht.evolves, fun l hlink => ht.links ▸ hlink, fun row hget hstate _ =>
      ⟨row.state, (ht.others j hj).trans hget, .inl hstate⟩, fun hidle q x hx => ?_, move_submits hm⟩
    rw [move_phase] at hx
    split at hx
    · cases hx
      exact hj.symm
    · exact hidle q x hx
  have hpast : PastCreated s.toStore intent.intentId := by
    cases hm.sends with
    | claimed claimed _ _ _ htaken hafter => cases hafter; exact htaken
    | aside hafter => cases hafter
    | kept hafter | submitted _ _ _ hafter | missed _ _ hafter => rw [hph] at hafter; cases hafter
  refine ⟨fun i => (h.single i).move hm, fun o ho => ?_, fun q o ho => ?_, fun q i hi => ?_,
    fun q i called hcalled => ?_, fun e he hshows i hi => ?_, fun e he c hshows i hi => ?_,
    fun q i hi => ?_⟩
  · exact (h.orders o (ht.orders ▸ ho)).mono fun a => move_log
  · rw [move_phase] at ho
    split at ho
    · cases ho
    · exact (h.snapshots q o ho).mono fun a => move_log
  · rw [move_phase] at hi
    split at hi
    · cases hi
      exact hid.symm ▸ hpast
    · exact ht.evolves.pastCreated (h.past q i hi)
  · rw [move_phase] at hcalled
    split at hcalled
    · cases hcalled
    · obtain ⟨link, hmem, hlink⟩ := h.called q i called hcalled
      exact ⟨link, ht.links ▸ hmem, hlink⟩
  · rcases ht.added e he with hold | ⟨_, hnone⟩
    · have hstands := h.refused e hold hshows i hi
      by_cases hij : i = intent.intentId
      · -- a refused intent that is still created is an entry, and its check fails
        exfalso
        subst hij
        obtain ⟨row, hget, hstate⟩ := hrow
        obtain ⟨row', hget', herror | ⟨_, htype, entry, hentry, hentryId, hrole⟩⟩ := hstands.row
        · rw [hget] at hget'
          cases hget'
          rw [hstate] at herror
          cases herror
        obtain ⟨link, hmem, hlinkId, hpurpose⟩ := h.called p intent.intentId purpose (by rw [hph]; rfl)
        have hsame : entry = link :=
          Table.eq_of_key hentry hmem (hentryId.trans hlinkId.symm)
        have hclear := ht.clear (hpurpose.1 (hsame ▸ hrole))
        unfold hasEvent at hclear
        rw [List.any_eq_false] at hclear
        refine hclear e (List.mem_filter.2 ⟨hold, ?_⟩) (decide_eq_true htype)
        exact decide_eq_true hi
      · exact hstands.leaves (hl i hij) (hstands.unposted h)
    · rw [hnone] at hshows
      cases hshows
  · rcases ht.added e he with hold | ⟨hnone, _⟩
    · obtain ⟨_, hspared⟩ := h.noSends e hold c hshows i hi
      exact h.noSend_kept hold hshows hi (hl i fun hij => hunclaimed (hij ▸ hspared.past))
    · rw [hnone c] at hshows
      cases hshows
  · rw [move_phase] at hi
    split at hi
    · cases hi
    · have hspared := h.sparing q i hi
      exact hspared.leaves (hl i fun hij => hunclaimed (hij ▸ hspared.past))

theorem Guarded.goto (h : Guarded coordinator w) {ph : CorePhase} (hs : ph.sending = none)
    (hr : ph.request = none) (hpast : pastIntent ph = none) (hsnapshot : snapshot ph = none)
    (hspared : sparedIntent ph = none) (hcalled : ∀ i purpose, calledFor ph = some (i, purpose) →
      ∃ link ∈ w.store.links.rows, link.intentId = i ∧ (link.role = .entry ↔ purpose = .entry)) :
    Guarded coordinator (w.goto p ph) := by
  have hl : ∀ j, Leaves j w (w.goto p ph) := by
    intro j
    refine ⟨.rfl' _, fun _ hl => hl, fun row hrow hstate _ => ⟨row.state, hrow, .inl hstate⟩,
      fun hidle q x hx => ?_, fun _ => rfl⟩
    obtain ⟨y, hy, rfl⟩ := Option.map_eq_some_iff.1 hx
    rcases move_sending hy with ⟨_, hnow⟩ | ⟨_, hkept⟩
    · rw [hs] at hnow; cases hnow
    · exact hidle q y.intent (Option.map_eq_some_iff.2 ⟨y, hkept, rfl⟩)
  have hmoved : ∀ q, (w.goto p ph).phases q = if q = p then ph else w.phases q := move_phase
  refine ⟨fun i => (h.single i).goto hs hr, h.orders, fun q o ho => ?_, fun q i hi => ?_,
    fun q i purpose hq => ?_, h.refused_next hl fun _ he => .inl he,
    fun e he c hshows i hi => h.noSend_kept he hshows hi (hl i), fun q i hi => ?_⟩
  · rw [hmoved] at ho; split at ho
    · rw [hsnapshot] at ho; cases ho
    · exact h.snapshots q o ho
  · rw [hmoved] at hi; split at hi
    · rw [hpast] at hi; cases hi
    · exact h.past q i hi
  · rw [hmoved] at hq; split at hq
    · exact hcalled i purpose hq
    · exact h.called q i purpose hq
  · rw [hmoved] at hi; split at hi
    · rw [hspared] at hi; cases hi
    · exact (h.sparing q i hi).leaves (hl i)

/-! ## One step of a call -/

variable {v : GuardViews} {kind : ι → CoordinatorKind} {sha256 : String → String}

/-- The coordinators of the system. -/
abbrev coordinators (v : GuardViews) (kind : ι → CoordinatorKind) (p : ι) :
    Coordinator coreSession SendReading := coreCoordinator v (kind p)

section

variable (h : Guarded (coordinators v kind) w)
include h

theorem Guarded.stepped
    (hstep : (coordinators v kind p).step sha256 w.store (w.phases p) input = some st)
    (hs : Stepped (Posted w) w.store (w.phases p) input st)
    (hhonest : ∀ o, Delivers o input → Posted w o.clientOrderId) :
    Guarded (coordinators v kind) (w.move p st) := by
  have hevents : st.store.orderEvents = w.store.orderEvents := hs.write.ledger.events
  refine h.move (step_moved hstep) hs.write.respects hs.next hhonest (fun e he => .inl (hevents ▸ he))
    (fun e he => .inl (hevents ▸ he)) fun i => h.first_refusal hstep

theorem Guarded.claim_step (hph : w.phases p = .claim intent purpose reasons)
    (hstep : (coordinators v kind p).step sha256 w.store (w.phases p) input = some st)
    (hhonest : ∀ o, Delivers o input → Posted w o.clientOrderId) :
    Guarded (coordinators v kind) (w.move p st) := by
  have hm := step_moved hstep; rw [hph] at hstep
  cases input with
  | run r =>
    cases hstep
    have hbare : ∀ s' (ph : CorePhase), ph = .crashed ∨ (∃ result, ph = .done result) →
        Continues s' (w.phases p) (.run r) ph := by
      rintro s' ph (rfl | ⟨_, rfl⟩) <;> exact .bare rfl rfl rfl rfl rfl
    unfold L3.commit at hm ⊢
    cases hc : Txn.immediate ((coordinators v kind p).claimSend r intent purpose reasons) w.store with
    | error e s' =>
      rw [hc] at hm; cases immediate_error hc
      exact h.move hm (refl_of (HarmlessCore (Posted w)) _).respects (hbare _ _ (.inr ⟨_, rfl⟩))
        hhonest (fun _ he => .inl he) (fun _ he => .inl he) nofun
    | ok result s' =>
      obtain ⟨left, claimed⟩ := result; rw [hc] at hm
      have hclaim := immediate_ok.1 hc
      obtain ⟨htaken, hblocked⟩ : (left = [] → Taken intent.intentId purpose w.store s') ∧
          (left ≠ [] → GuardedWrite (Posted w) w.store s') := claimSend_taken hclaim
      cases left with
      | nil =>
        obtain ⟨_, _, _, _, _, _, _, hset, _⟩ := claimSend_ok hclaim
        exact h.taken hph (htaken rfl) (transition_row hset).1 hm
      | cons reason rest =>
        have hg := hblocked (List.cons_ne_nil _ _)
        refine h.move hm hg.respects (hbare _ _ (.inr ⟨_, rfl⟩)) hhonest
          (fun e he => (hg.added e he).imp_right And.right) (fun e he => ?_)
          nofun
        refine (hg.added e he).imp_right fun hnew c hshows => ?_
        rw [hnew.1 c] at hshows; cases hshows
  | _ => cases hstep

theorem Guarded.noSend_step {failure : BrokerFailure} (hph : w.phases p = .noSend intent failure)
    (hstep : (coordinators v kind p).step sha256 w.store (w.phases p) input = some st)
    (hhonest : ∀ o, Delivers o input → Posted w o.clientOrderId) :
    Guarded (coordinators v kind) (w.move p st) := by
  have hm := step_moved hstep
  have hspared : Spared w intent.intentId := h.sparing p _ (by rw [hph]; rfl)
  rw [hph] at hstep
  cases input with
  | run r =>
    cases hstep
    have hbare : ∀ s' result, Continues s' (w.phases p) (.run r) (.done result) :=
      fun _ _ => .bare rfl rfl rfl rfl rfl
    unfold L3.commit at hm ⊢
    cases hc : Txn.immediate ((coordinators v kind p).noSend r intent) w.store with
    | error e s' =>
      rw [hc] at hm; cases immediate_error hc
      exact h.move hm (refl_of (HarmlessCore (Posted w)) _).respects (hbare _ _) hhonest
        (fun _ he => .inl he) (fun _ he => .inl he) nofun
    | ok u s' =>
      rw [hc] at hm
      have hnoted : NoSendNoted (Posted w) intent.intentId w.store s' :=
        noSend_noted (immediate_ok.1 hc)
      refine h.move hm hnoted.respects (hbare _ _) hhonest (fun e he => ?_) (fun e he => ?_)
        nofun
      · refine (hnoted.added e he).imp_right fun hnew hshows => ?_
        rw [hnew.1] at hshows; cases hshows
      · refine (hnoted.added e he).imp_right fun hnew c _ i hi => ?_
        obtain ⟨_, hid, hrow⟩ := hnew; rw [hi] at hid; cases hid
        exact ⟨hrow, hspared⟩
  | _ => cases hstep

/-- **One step of a call** keeps the invariant. -/
theorem Guarded.run
    (hstep : (coordinators v kind p).step sha256 w.store (w.phases p) input = some st)
    (hhonest : ∀ o, Delivers o input → Posted w o.clientOrderId) :
    Guarded (coordinators v kind) (w.move p st) := by
  by_cases hclaim : ∃ intent purpose reasons, w.phases p = .claim intent purpose reasons
  · obtain ⟨_, _, _, hph⟩ := hclaim; exact h.claim_step hph hstep hhonest
  by_cases hnosend : ∃ intent failure, w.phases p = .noSend intent failure
  · obtain ⟨_, _, hph⟩ := hnosend; exact h.noSend_step hph hstep hhonest
  refine h.stepped hstep (step_stepped hstep (h.past p) (h.snapshots p) ?_ ?_) hhonest
  · exact fun intent purpose reasons hph => hclaim ⟨intent, purpose, reasons, hph⟩
  · exact fun intent failure hph => hnosend ⟨intent, failure, hph⟩

end

end Moves

/-! ## The system -/

/-- Nothing is on record yet. -/
structure Fresh (s : CoreStore) : Prop where
  intents : s.orderIntents.rows = []
  orders : s.brokerOrders.rows = []
  events : s.orderEvents.rows = []

variable {Λ : Type}

/-- What the callers and the broker keep to: an intent is submitted for the purpose of
its link, and an order is reported only under a client id that was posted. -/
def Honest (brings : Λ → BrokerOrder → Prop) (w : CoreWorld ι) : SendLabel ι SendReading Λ → Prop
  | .submitDurable _ intent purpose => ∃ link ∈ w.store.links.rows,
      link.intentId = intent.intentId ∧ (link.role = .entry ↔ purpose = .entry)
  | .run _ input => ∀ o, Delivers o input → Posted w o.clientOrderId
  | .write l => ∀ o, brings l o → Posted w o.clientOrderId
  | .reconcileDurable _ _ | .crash _ => True

/-- The coordinators of any number of processes over one store, beside every other
transaction. -/
def operating [DecidableEq ι] (sha256 : String → String) (v : GuardViews)
    (kind : ι → CoordinatorKind) (write : CoreStore → Λ → CoreStore → Prop)
    (brings : Λ → BrokerOrder → Prop) : LTS (CoreWorld ι) (SendLabel ι SendReading Λ) where
  init w := (∀ call, w.phases call = .idle) ∧ w.log = [] ∧ Fresh w.store
  step w l w' := SendStep sha256 (coordinators v kind) write w l w' ∧ Honest brings w l

/-- Every other transaction is guarded, given the orders it is brought were posted. -/
def GuardedWrites (write : CoreStore → Λ → CoreStore → Prop) (brings : Λ → BrokerOrder → Prop) :
    Prop :=
  ∀ posted s l s', write s l s' → (∀ o, brings l o → posted o.clientOrderId) →
    GuardedWrite posted s s'

section System

variable [DecidableEq ι] {sha256 : String → String} {v : GuardViews} {kind : ι → CoordinatorKind}
  {write : CoreStore → Λ → CoreStore → Prop} {brings : Λ → BrokerOrder → Prop}

section

variable (hwrite : GuardedWrites write brings)
include hwrite

theorem guarded_inductive :
    (operating sha256 v kind write brings).Inductive (Guarded (coordinators v kind)) where
  init w := by
    rintro ⟨hidle, hlog, hfresh⟩
    have hsender : ∀ i, (sending sha256 (coordinators v kind) fun s (_ : Unit) s' =>
        coreSession.Evolves s s').Inductive (SingleSender (coordinators v kind) i) :=
      singleSender_inductive sha256 (coordinators v kind) fun _ _ _ h => h
    have hsingle : ∀ i, SingleSender (coordinators v kind) i w := fun i =>
      (hsender i).init w ⟨hidle, hlog⟩
    refine ⟨hsingle, fun o ho => ?_, fun p o ho => ?_, fun p i hi => ?_, fun p i purpose hc => ?_,
      fun e he => ?_, fun e he => ?_, fun p i hi => ?_⟩
    · rw [hfresh.orders] at ho; cases ho
    · rw [hidle p] at ho; cases ho
    · rw [hidle p] at hi; cases hi
    · rw [hidle p] at hc; cases hc
    · rw [hfresh.events] at he; cases he
    · rw [hfresh.events] at he; cases he
    · rw [hidle p] at hi; cases hi
  step w l w' h hst := by
    obtain ⟨hst, hhonest⟩ := hst
    cases l with
    | submitDurable call intent purpose =>
      obtain ⟨_, rfl⟩ := hst; refine h.goto rfl rfl rfl rfl rfl fun i p hc => ?_
      cases hc; exact hhonest
    | reconcileDurable call intent =>
      obtain ⟨_, rfl⟩ := hst; exact h.goto rfl rfl rfl rfl rfl nofun
    | run call input =>
      obtain ⟨st, hstep, rfl⟩ := hst; exact h.run hstep hhonest
    | crash call =>
      cases hst; exact h.goto rfl rfl rfl rfl rfl nofun
    | write l =>
      obtain ⟨s, hs, rfl⟩ := hst
      exact h.write (hwrite (Posted w) _ _ _ hs hhonest)

theorem guarded_evolves {l : SendLabel ι SendReading Λ}
    (hst : (operating sha256 v kind write brings).step w l w') :
    Evolves w.store.toStore w'.store.toStore := by
  obtain ⟨hst, hhonest⟩ := hst
  cases l with
  | submitDurable _ _ _ | reconcileDurable _ _ => obtain ⟨_, rfl⟩ := hst; exact .rfl' _
  | run call input => obtain ⟨st, hstep, rfl⟩ := hst; exact (step_moved hstep).evolves
  | crash call => cases hst; exact .rfl' _
  | write l =>
    obtain ⟨s, hs, rfl⟩ := hst
    exact (hwrite (Posted w) _ _ _ hs hhonest).respects.evolves

/-- **Unsent for good.** What is definitively unsent in a state of the system was never
posted, and in every later state it is definitively unsent and has not been posted. -/
theorem unsent_permanent {ls : List (SendLabel ι SendReading Λ)} {i : String}
    (hreach : (operating sha256 v kind write brings).Reachable w)
    (hu : definitivelyUnsent w.store.toStore i = true)
    (hrun : (operating sha256 v kind write brings).Run w ls w') :
    definitivelyUnsent w'.store.toStore i = true ∧
      ∃ row, w'.store.orderIntents.get? i = some row ∧ ¬ Posted w' row.clientOrderId := by
  have hinv : (operating sha256 v kind write brings).Inductive (Guarded (coordinators v kind)) :=
    guarded_inductive hwrite
  have h := hinv.reachable hreach; have h' := hrun.keeps hinv.step h
  have hsteps : ∀ a l b, Guarded (coordinators v kind) a →
      (operating sha256 v kind write brings).step a l b →
      coreSession.Evolves a.store b.store := fun _ _ _ _ hs => guarded_evolves hwrite hs
  have hevolves : coreSession.Evolves w.store w'.store := by
    refine hrun.rel (R := fun a b => coreSession.Evolves a.store b.store) ?_ ?_ hinv.step hsteps h
    · exact fun _ => Evolves.rfl' _
    · exact fun _ _ _ => Evolves.trans'
  have hu' := h'.unsent_kept hevolves hu
  obtain ⟨row, hrow, hunposted, _⟩ := h'.unsent hu'
  exact ⟨hu', row, hrow, hunposted⟩

end

end System

end Worlds

end Quantbot.L4
