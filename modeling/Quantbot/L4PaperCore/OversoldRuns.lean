import Quantbot.L4PaperCore.Oversold

/-!
# No lot is oversold

Any number of guardian cycles beside the core's other processes. A cycle reads a lot's
entry and its fills in one transaction (`read`) and claims the exit in a later one, with
whatever has happened in between.

`never_oversold`: along every run in which no stored snapshot unsettles an order with
terminal evidence, what the exits of a lot hold stays within what its entries bought.
`stale_snapshot_oversells`: one snapshot that arrives late is enough to break that.
-/
namespace Quantbot.L4

open Core L1 L2 L3 Txn

variable {ι : Type}

/-! ## The desk -/

/-- The world of the core, with what the guardian's cycles have read so far. -/
structure Desk (ι : Type) where
  world : CoreWorld ι
  readings : List ExitReading

inductive DeskLabel (ι : Type)
  /-- A cycle reads a lot's entry and its fills.
  mirrors guardian.py:1070-1080 -/
  | read (r : ExitReading)
  | act (l : SendLabel ι SendReading CoreWrite)

/-- The reading is what the store shows. -/
def Reads (s : CoreStore) (r : ExitReading) : Prop :=
  r.entry ∈ s.links.rows ∧ r.entry.role = .entry ∧ s.intentOf r.entry = some r.intent ∧
    ∃ order, s.orderByClient r.intent.clientOrderId = some order ∧
      r.entryFills.Perm (s.fillsOf order.brokerOrderId)

/-- The order reports no more filled than its intent asked for. -/
def FilledInFull (s : CoreStore) (o : BrokerOrder) : Prop :=
  ∃ i row, s.orderIntents.get? i = some row ∧ row.clientOrderId = o.clientOrderId ∧
    o.filledQuantity ≤ row.quantity

/-- The orders a label has from the broker. -/
def Reports : SendLabel ι SendReading CoreWrite → BrokerOrder → Prop
  | .run _ input, o => Delivers o input
  | .write l, o => l.Brings o
  | _, _ => False

/-- The core beside its guardian cycles. A cycle claims only an exit it has read up to,
and the broker never fills an order beyond its quantity. -/
def desk [DecidableEq ι] (sha256 : String → String) (v : GuardViews) (kind : ι → CoordinatorKind) :
    LTS (Desk ι) (DeskLabel ι) where
  init d := (core sha256 v kind).init d.world ∧ d.world.store.links.rows = [] ∧ d.readings = []
  step d l d' :=
    match l with
    | .read r => Reads d.world.store r ∧ d' = { d with readings := r :: d.readings }
    | .act l => (core sha256 v kind).step d.world l d'.world ∧ d'.readings = d.readings ∧
        (∀ r, l = .write (.exit r) → r ∈ d.readings) ∧
        ∀ o, Reports l o → FilledInFull d.world.store o

/-- No snapshot the step stores unsettles an order with terminal evidence. -/
def Settling (v : GuardViews) (kind : ι → CoordinatorKind) (w : CoreWorld ι) :
    SendLabel ι SendReading CoreWrite → Prop
  | .run p _ => ∀ o, snapshot (w.phases p) = some o → w.store.terminal o.clientOrderId = true →
      ∀ row, w.store.orderByClient o.clientOrderId = some row →
        ¬ Unsettles w.store (overwrites (kind p) (w.phases p)) none row o
  | .write (.importEvents events) => BatchSteady v.contentId w.store events
  | _ => True

/-- The condition on one step of the desk. -/
def Steady (v : GuardViews) (kind : ι → CoordinatorKind) (d : Desk ι) (l : DeskLabel ι)
    (_ : Desk ι) : Prop :=
  ∀ a, l = .act a → Settling v kind d.world a

/-! ## What a step does to the book -/

section Book

variable {s s' : CoreStore} {v : GuardViews} {o : BrokerOrder}

theorem fillsOf_nodup (s : Store) (id : String) : (s.fillsOf id).Nodup := by
  have hids : ∀ f : Fill, (fillFromRow f).fillId = f.fillId := fun f => by
    unfold fillFromRow; split <;> rfl
  refine List.Nodup.of_map (·.fillId) ?_; unfold Store.fillsOf
  rw [List.map_map]
  have hmap : (s.fills.rows.filter fun f => decide (f.brokerOrderId = id)).map
      ((·.fillId) ∘ fillFromRow) =
      (s.fills.rows.filter fun f => decide (f.brokerOrderId = id)).map (·.fillId) :=
    List.map_congr_left fun f _ => hids f
  rw [hmap]; exact (List.filter_sublist.map _).nodup s.fills.nodup

theorem Reads.seen {r : ExitReading} (h : Reads s r) : Seen s r := by
  obtain ⟨hentry, hrole, hintent, order, horder, hperm⟩ := h
  exact ⟨hentry, hrole, ⟨r.intent.state, hintent⟩,
    ⟨order, horder, fun f hf => hperm.mem_iff.1 hf⟩, hperm.nodup_iff.2 (fillsOf_nodup _ _)⟩

theorem Seen.evolves {r : ExitReading} (h : Seen s r) (he : Evolves s.toStore s'.toStore)
    (hlinks : ∀ l ∈ s.links.rows, l ∈ s'.links.rows) : Seen s' r := by
  obtain ⟨q, hq⟩ := h.intent; obtain ⟨order, horder, hfills⟩ := h.fills
  obtain ⟨hmem, hclient⟩ := UTable.getAlt?_eq_some.1 horder
  obtain ⟨order', horder', hsame⟩ := he.orders order.brokerOrderId order (Table.get?_key.2 hmem)
  obtain ⟨hmem', hid⟩ := Table.get?_some horder'
  refine ⟨hlinks _ h.entry, h.role, ?_, ⟨order', ?_, fun f hf => ?_⟩, h.distinct⟩
  · obtain ⟨q', hq'⟩ := intentOf_evolves he hq; exact ⟨q', hq'⟩
  · exact UTable.getAlt?_eq_some.2 ⟨hmem', hsame.1.symm.trans hclient⟩
  · rw [hid]; obtain ⟨row, hrow, rfl⟩ := List.mem_map.1 (hfills f hf)
    obtain ⟨hin, horderId⟩ := List.mem_filter.1 hrow
    exact List.mem_map.2 ⟨row, List.mem_filter.2 ⟨he.fills row hin, horderId⟩, rfl⟩

theorem FilledInFull.evolves (h : FilledInFull s o) (he : Evolves s.toStore s'.toStore) :
    FilledInFull s' o := by
  obtain ⟨i, row, hrow, hclient, hle⟩ := h
  obtain ⟨q, hq, _⟩ := he.intents i row hrow; exact ⟨i, _, hq, hclient, hle⟩

theorem filledWithin_of_orders (h : ∀ o ∈ s.brokerOrders.rows, FilledInFull s o) :
    FilledWithin s := by
  intro i row hrow hterm
  obtain ⟨order, horder, hsettled⟩ := terminal_iff.1 hterm
  obtain ⟨hmem, hclient⟩ := UTable.getAlt?_eq_some.1 horder
  obtain ⟨j, row', hrow', hclient', hle⟩ := h order hmem
  -- client ids are unique among the intents
  have hsame : row' = row := UTable.eq_of_alt (Table.get?_some hrow').1 (Table.get?_some hrow).1
    (hclient'.trans hclient)
  rw [filledByClient_eq horder, hsettled.filled]; exact hsame ▸ hle

theorem rows_of_clients {s s' : Store} {P : BrokerOrder → Prop}
    (h : ∀ c, s'.orderByClient c = s.orderByClient c ∨ ∃ o, P o ∧ s'.orderByClient c = some o) :
    ∀ o ∈ s'.brokerOrders.rows, o ∈ s.brokerOrders.rows ∨ P o := by
  intro o ho
  have hrow : s'.orderByClient o.clientOrderId = some o := UTable.getAlt?_eq_some.2 ⟨ho, rfl⟩
  rcases h o.clientOrderId with hsame | ⟨o', hP, hstored⟩
  · rw [hsame] at hrow; exact .inl (UTable.getAlt?_eq_some.1 hrow).1
  · rw [hstored] at hrow; cases hrow; exact .inr hP

theorem BookStored.rows {s s' : Store} {m : Overwrite} {snap : Option BrokerOrder}
    (h : BookStored m snap s s') :
    ∀ o ∈ s'.brokerOrders.rows, o ∈ s.brokerOrders.rows ∨ snap = some o := by
  refine rows_of_clients fun c => (h.orders c).imp_right ?_
  rintro ⟨o, hsnap, _, hstored, _⟩; exact ⟨o, hsnap, hstored⟩

variable {es : List BrokerEvent} {contentId : ContentId}

theorem EventsImported.rows (h : EventsImported contentId es s s') :
    ∀ o ∈ s'.brokerOrders.rows, o ∈ s.brokerOrders.rows ∨ ∃ e ∈ es, e.order? = some o := by
  induction h with
  | nil s => exact fun o ho => .inl ho
  | replay _ _ _ _ ih =>
    refine fun o ho => (ih o ho).imp_right ?_; rintro ⟨e, he, horder⟩
    exact ⟨e, List.mem_cons_of_mem _ he, horder⟩
  | @new s s₁ s' e es _ hone _ ih =>
    intro o ho; rcases ih o ho with hold | ⟨e', he', horder⟩
    · have hrows : ∀ o ∈ s₁.brokerOrders.rows, o ∈ s.brokerOrders.rows ∨ e.order? = some o := by
        refine rows_of_clients fun c => (hone.book c).imp_right ?_
        rintro ⟨o, horder, _, hstored, _⟩; exact ⟨o, horder, hstored⟩
      exact (hrows o hold).imp_right fun h => ⟨e, List.mem_cons_self, h⟩
    · exact .inr ⟨e', List.mem_cons_of_mem _ he', horder⟩

theorem EventsImported.links (h : EventsImported contentId es s s') : s'.links = s.links := by
  induction h with
  | nil s => rfl
  | replay _ _ _ _ ih => exact ih
  | new _ hone _ ih => exact ih.trans hone.links

variable {l : CoreWrite}

theorem CoreWrite.rows (h : l.Writes v s s') :
    ∀ o ∈ s'.brokerOrders.rows, o ∈ s.brokerOrders.rows ∨ l.Brings o := by
  have hstill : BookStill s.toStore s'.toStore → ∀ o ∈ s'.brokerOrders.rows,
      o ∈ s.brokerOrders.rows ∨ l.Brings o := fun hb o ho => .inl (hb.orders ▸ ho)
  cases l with
  | admission =>
    exact hstill ⟨h.orders, h.fills⟩
  | exit r =>
    obtain ⟨_, h⟩ := h; exact hstill (claimLotExit_ok h).1
  | create _ | markUnknown _ =>
    obtain ⟨_, h⟩ := h
    exact hstill (onLedger_still (transitionOrderIntent_still _ _ _) _ _ _ h).book
  | retire r i =>
    obtain ⟨_, h⟩ := h; exact hstill (retireEntry_still _ _ _ _ _ _ h).book
  | importEvents events =>
    subst h; unfold Txn.after
    cases himport : importBrokerEvents v.contentId events s with
    | error e t =>
      have hkept := (importBrokerEvents_error himport).still.book
      exact fun o ho => .inl (hkept.orders ▸ ho)
    | ok ids t =>
      obtain ⟨s₁, himported, _, hbeside⟩ := importEvents_ok (importBrokerEvents_ok himport)
      intro o ho; have ho₁ : o ∈ s₁.brokerOrders.rows := hbeside.ledger ▸ ho
      refine (himported.rows o ho₁).imp_right ?_; rintro ⟨e, he, horder⟩
      exact ⟨e, mem_ordered.1 he, horder⟩
  | recoverSubmission i order =>
    obtain ⟨_, h⟩ := h; obtain ⟨t, ht, rfl⟩ := zoom_ok.1 h
    obtain ⟨_, _, hpersist⟩ := recoverSubmission_ok ht
    refine fun o ho => ((persistBrokerAcknowledgement_book hpersist).rows o ho).imp_right ?_
    rintro ⟨⟩; rfl

theorem CoreWrite.kept (h : l.Writes v s s')
    (hsteady : ∀ events, l = .importEvents events → BatchSteady v.contentId s events) :
    TerminalKept s s' := by
  have hstill : Still s s' → TerminalKept s s' := fun hs =>
    .of_still hs.book fun id e he => (source?_of_documents hs.documents id).trans he
  cases l with
  | admission =>
    exact .of_still ⟨h.orders, h.fills⟩ fun id e he => (h.sources id).trans he
  | exit r =>
    obtain ⟨_, h⟩ := h; obtain ⟨hbook, hdocuments, _⟩ := claimLotExit_ok h
    exact .of_still hbook fun id e he => (source?_of_documents hdocuments id).trans he
  | create _ | markUnknown _ =>
    obtain ⟨_, h⟩ := h
    exact hstill (onLedger_still (transitionOrderIntent_still _ _ _) _ _ _ h)
  | retire r i =>
    obtain ⟨_, h⟩ := h; exact hstill (retireEntry_still _ _ _ _ _ _ h)
  | importEvents events =>
    subst h; exact import_evidence (hsteady events rfl)
  | recoverSubmission i order =>
    obtain ⟨_, h⟩ := h; obtain ⟨t, ht, rfl⟩ := zoom_ok.1 h
    obtain ⟨_, _, hpersist⟩ := recoverSubmission_ok ht
    have hstored : Stored .never (some order) s (coreSession.setLedger s t) :=
      ⟨persistBrokerAcknowledgement_book hpersist, rfl, rfl⟩
    exact hstored.evidence fun _ _ _ _ _ hover => hover.1

/-- The links after any transaction but the guardian's are from before, or of entries. -/
theorem CoreWrite.links (h : l.Writes v s s') (hexit : ∀ r, l ≠ .exit r) :
    ∀ k ∈ s'.links.rows, k ∈ s.links.rows ∨ k.role = .entry := by
  have hsame : s'.links = s.links → ∀ k ∈ s'.links.rows, k ∈ s.links.rows ∨ k.role = .entry :=
    fun hl k hk => .inl (hl ▸ hk)
  cases l with
  | admission =>
    exact h.entries
  | exit r => exact absurd rfl (hexit r)
  | create _ | markUnknown _ =>
    obtain ⟨_, h⟩ := h
    exact hsame (onLedger_still (transitionOrderIntent_still _ _ _) _ _ _ h).links
  | retire r i =>
    obtain ⟨_, h⟩ := h; exact hsame (retireEntry_still _ _ _ _ _ _ h).links
  | importEvents events =>
    subst h; unfold Txn.after
    cases himport : importBrokerEvents v.contentId events s with
    | error e t => exact fun k hk => .inl ((importBrokerEvents_error himport).links ▸ hk)
    | ok ids t =>
      obtain ⟨s₁, himported, _, hbeside⟩ := importEvents_ok (importBrokerEvents_ok himport)
      exact fun k hk => .inl (himported.links ▸ hbeside.links ▸ hk)
  | recoverSubmission i order =>
    obtain ⟨_, h⟩ := h; obtain ⟨t, _, rfl⟩ := zoom_ok.1 h; exact hsame rfl

end Book

/-! ## The invariant -/

section Desk

variable {sha256 : String → String} {v : GuardViews} {kind : ι → CoordinatorKind}

/-- What holds in every state of the desk. -/
structure Covered (v : GuardViews) (kind : ι → CoordinatorKind) (d : Desk ι) : Prop where
  guarded : Guarded (coordinators v kind) d.world
  orders : ∀ o ∈ d.world.store.brokerOrders.rows, FilledInFull d.world.store o
  /-- The orders that calls carry. -/
  carried : ∀ p o, snapshot (d.world.phases p) = some o → FilledInFull d.world.store o
  linked : ∀ l ∈ d.world.store.links.rows, l.role = .exit →
    ∃ row, d.world.store.intentOf l = some row
  readings : ∀ r ∈ d.readings, Seen d.world.store r
  covered : ∀ lot, d.world.store.committed lot ≤ d.world.store.bought lot

/-- What a step of the core leaves of a desk, but for its exits. -/
structure Advances (v : GuardViews) (kind : ι → CoordinatorKind) (d d' : Desk ι) : Prop where
  guarded : Guarded (coordinators v kind) d'.world
  evolves : Evolves d.world.store.toStore d'.world.store.toStore
  links : ∀ l ∈ d.world.store.links.rows, l ∈ d'.world.store.links.rows
  kept : TerminalKept d.world.store d'.world.store
  orders : ∀ o ∈ d'.world.store.brokerOrders.rows,
    o ∈ d.world.store.brokerOrders.rows ∨ FilledInFull d.world.store o
  carried : ∀ p o, snapshot (d'.world.phases p) = some o →
    (∃ q, snapshot (d.world.phases q) = some o) ∨ FilledInFull d.world.store o
  readings : d'.readings = d.readings

section Advances

variable {d d' : Desk ι}

theorem Advances.orders_next (ha : Advances v kind d d') (h : Covered v kind d) :
    ∀ o ∈ d'.world.store.brokerOrders.rows, FilledInFull d'.world.store o := fun o ho => by
  rcases ha.orders o ho with hold | hnew
  · exact (h.orders o hold).evolves ha.evolves
  · exact hnew.evolves ha.evolves

theorem Advances.unsent (ha : Advances v kind d d') (i : String)
    (hu : definitivelyUnsent d.world.store.toStore i = true) :
    definitivelyUnsent d'.world.store.toStore i = true :=
  ha.guarded.unsent_kept ha.evolves hu

theorem Covered.advance (h : Covered v kind d) (ha : Advances v kind d d')
    (hlinked : ∀ l ∈ d'.world.store.links.rows, l.role = .exit →
      ∃ row, d'.world.store.intentOf l = some row)
    (hcovered : ∀ lot, d'.world.store.committed lot ≤ d'.world.store.bought lot) :
    Covered v kind d' := by
  refine ⟨ha.guarded, ha.orders_next h, fun p o ho => ?_, hlinked, fun r hr => ?_, hcovered⟩
  · rcases ha.carried p o ho with ⟨q, hq⟩ | hnew
    · exact (h.carried q o hq).evolves ha.evolves
    · exact hnew.evolves ha.evolves
  · exact (h.readings r (ha.readings ▸ hr)).evolves ha.evolves ha.links

theorem Covered.keep (h : Covered v kind d) (ha : Advances v kind d d')
    (hentries : ∀ l ∈ d'.world.store.links.rows, l ∈ d.world.store.links.rows ∨ l.role = .entry) :
    Covered v kind d' := by
  refine h.advance ha (fun l hl hrole => ?_) fun lot => ?_
  · rcases hentries l hl with hold | hentry
    · obtain ⟨row, hrow⟩ := h.linked l hold hrole
      obtain ⟨q, hq⟩ := intentOf_evolves ha.evolves hrow; exact ⟨_, hq⟩
    · rw [hrole] at hentry; cases hentry
  · have hwithin := filledWithin_of_orders (ha.orders_next h)
    have hcommitted := committed_le ha.evolves ha.unsent ha.kept hwithin h.linked hentries lot
    exact hcommitted.trans ((h.covered lot).trans (bought_mono ha.evolves ha.links lot))

end Advances

/-! ## One step -/

theorem step_snapshot {w : CoreWorld ι} {p : ι} {input : Input SendReading}
    {st : Step CoreStore CoreError} (h : Guarded (coordinators v kind) w)
    (hstep : (coordinators v kind p).step sha256 w.store (w.phases p) input = some st) {o : BrokerOrder}
    (ho : snapshot st.phase = some o) : snapshot (w.phases p) = some o ∨ Delivers o input := by
  by_cases hclaim : ∃ intent purpose reasons, w.phases p = .claim intent purpose reasons
  · obtain ⟨intent, purpose, reasons, hph⟩ := hclaim; rw [hph] at hstep
    cases input with
    | run r =>
      cases hstep; unfold L3.commit at ho; split at ho
      · next result _ _ =>
        obtain ⟨left, claimed⟩ := result; cases left <;> cases ho
      · cases ho
    | _ => cases hstep
  by_cases hnosend : ∃ intent failure, w.phases p = .noSend intent failure
  · obtain ⟨intent, failure, hph⟩ := hnosend; rw [hph] at hstep
    cases input with
    | run r =>
      cases hstep; unfold L3.commit at ho; split at ho <;> cases ho
    | _ => cases hstep
  have hs : Stepped (Posted w) w.store (w.phases p) input st :=
    step_stepped hstep (h.past p) (h.snapshots p)
      (fun intent purpose reasons hph => hclaim ⟨intent, purpose, reasons, hph⟩)
      fun intent failure hph => hnosend ⟨intent, failure, hph⟩
  exact hs.next.snapshot o ho

variable [DecidableEq ι]

theorem Covered.goto {d d' : Desk ι} {p : ι} {ph : CorePhase} (h : Covered v kind d)
    (hg : Guarded (coordinators v kind) d'.world) (hworld : d'.world = d.world.goto p ph)
    (hread : d'.readings = d.readings) (hsnapshot : snapshot ph = none) : Covered v kind d' := by
  have hstore : d'.world.store = d.world.store := by rw [hworld]; rfl
  refine h.keep ⟨hg, hstore ▸ .rfl' _, fun l hl => hstore ▸ hl, ?_, fun o ho => .inl (hstore ▸ ho),
    fun q o ho => .inl ?_, hread⟩ fun l hl => .inl (hstore ▸ hl)
  · rw [hstore]; exact fun c hc => ⟨hc, rfl⟩
  · have hmoved : d'.world.phases q = if q = p then ph else d.world.phases q := by
      rw [hworld]; exact move_phase q
    rw [hmoved] at ho; split at ho
    · rw [hsnapshot] at ho; cases ho
    · exact ⟨q, ho⟩

theorem covered_step (d : Desk ι) (l : DeskLabel ι) (d' : Desk ι) (h : Covered v kind d)
    (hst : ((desk sha256 v kind).restrict (Steady v kind)).step d l d') : Covered v kind d' := by
  obtain ⟨hst, hsteady⟩ := hst
  cases l with
  | read r =>
    obtain ⟨hreads, rfl⟩ := hst
    refine ⟨h.guarded, h.orders, h.carried, h.linked, fun r' hr' => ?_, h.covered⟩
    rcases List.mem_cons.1 hr' with rfl | hold
    · exact hreads.seen
    · exact h.readings r' hold
  | act l =>
    obtain ⟨hcore, hread, hexit, hfilled⟩ := hst
    have hinv : (core sha256 v kind).Inductive (Guarded (coordinators v kind)) :=
      guarded_inductive (coreWrite_guarded v)
    have hg : Guarded (coordinators v kind) d'.world := hinv.step _ _ _ h.guarded hcore
    have hsettling : Settling v kind d.world l := hsteady l rfl
    cases l with
    | submitDurable _ _ _ | reconcileDurable _ _ =>
      obtain ⟨⟨_, hworld⟩, _⟩ := hcore; exact h.goto hg hworld hread rfl
    | crash p =>
      obtain ⟨hworld, _⟩ := hcore; exact h.goto hg hworld hread rfl
    | run p input =>
      obtain ⟨⟨st, hstep, hworld⟩, _⟩ := hcore
      have hstore : d'.world.store = st.store := by rw [hworld]; rfl
      have hstored := step_stored hstep
      have hkept : TerminalKept d.world.store st.store := hstored.evidence hsettling
      have hevolves : Evolves d.world.store.toStore st.store.toStore := (step_moved hstep).evolves
      have hlinks := hstored.links
      refine h.keep ⟨hg, hstore ▸ hevolves, fun l hl => hstore ▸ hlinks ▸ hl, hstore ▸ hkept,
        fun o ho => ?_, fun q o ho => ?_, hread⟩ fun l hl => .inl (hlinks ▸ hstore ▸ hl)
      · rcases hstored.book.rows o (hstore ▸ ho) with hold | hnew
        · exact .inl hold
        · exact .inr (h.carried p o hnew)
      · rw [hworld, move_phase] at ho; split at ho
        · rcases step_snapshot h.guarded hstep ho with hold | hnew
          · exact .inl ⟨p, hold⟩
          · exact .inr (hfilled o hnew)
        · exact .inl ⟨q, ho⟩
    | write l =>
      obtain ⟨⟨s, hwrites, hworld⟩, hhonest⟩ := hcore
      have hstore : d'.world.store = s := by rw [hworld]
      have hphases : d'.world.phases = d.world.phases := by rw [hworld]
      have hguardedWrite := coreWrite_guarded v (Posted d.world) _ _ _ hwrites hhonest
      have hkept : TerminalKept d.world.store s := by
        refine CoreWrite.kept hwrites fun events hl => ?_; subst hl
        exact hsettling
      have ha : Advances v kind d d' := by
        refine ⟨hg, hstore ▸ hguardedWrite.respects.evolves,
          fun l hl => hstore ▸ hguardedWrite.respects.links l hl, hstore ▸ hkept, fun o ho => ?_,
          fun q o ho => .inl ⟨q, hphases ▸ ho⟩, hread⟩
        exact (CoreWrite.rows hwrites o (hstore ▸ ho)).imp_right (hfilled o)
      by_cases hisExit : ∃ r, l = .exit r
      · obtain ⟨r, rfl⟩ := hisExit; obtain ⟨_, hclaim⟩ := hwrites
        obtain ⟨_, _, hclaimed⟩ := claimLotExit_ok hclaim
        have hwithin := filledWithin_of_orders h.orders
        have hwithin' := filledWithin_of_orders (ha.orders_next h)
        have hseen := h.readings r (hexit r rfl)
        refine h.advance ha (fun k hk hrole => ?_) fun lot => ?_
        · rw [hstore] at hk ⊢
          cases hclaimed with
          | none hlinks =>
            obtain ⟨row, hrow⟩ := h.linked k (hlinks ▸ hk) hrole
            obtain ⟨q, hq⟩ := intentOf_evolves hguardedWrite.respects.evolves hrow
            exact ⟨_, hq⟩
          | inserted held exit _ _ hfresh hlinks hrow =>
            rw [hlinks] at hk
            rcases (Table.mem_insert hfresh).1 hk with hold | rfl
            · obtain ⟨row, hrow⟩ := h.linked k hold hrole
              obtain ⟨q, hq⟩ := intentOf_evolves hguardedWrite.respects.evolves hrow
              exact ⟨_, hq⟩
            · obtain ⟨q, hq⟩ := hrow; exact ⟨_, hq⟩
        · have hunsent := ha.unsent; rw [hstore] at hunsent hwithin' ⊢
          exact hclaimed.covered hseen hwithin hguardedWrite.respects.evolves hunsent hkept hwithin'
            h.linked h.covered lot
      · refine h.keep ha fun k hk => ?_
        exact CoreWrite.links hwrites (fun r hl => hisExit ⟨r, hl⟩) k (hstore ▸ hk)

theorem covered_inductive :
    ((desk sha256 v kind).restrict (Steady v kind)).Inductive (Covered v kind) where
  init d := by
    rintro ⟨hinit, hlinks, hread⟩
    have hinv : (core sha256 v kind).Inductive (Guarded (coordinators v kind)) :=
      guarded_inductive (coreWrite_guarded v)
    have hguarded : Guarded (coordinators v kind) d.world := hinv.init _ hinit
    obtain ⟨hidle, _, hfresh⟩ := hinit
    have hnone : ∀ lot role, d.world.store.linksOf lot role = [] := fun lot role => by
      unfold CoreStore.linksOf; rw [hlinks]; rfl
    refine ⟨hguarded, fun o ho => ?_, fun p o ho => ?_, fun l hl => ?_, fun r hr => ?_,
      fun lot => ?_⟩
    · rw [hfresh.orders] at ho; cases ho
    · rw [hidle p] at ho; cases ho
    · rw [hlinks] at hl; cases hl
    · rw [hread] at hr; cases hr
    · unfold CoreStore.committed CoreStore.bought; rw [hnone, hnone]
      exact le_refl _
  step := covered_step

/-- **Never oversold.** Guardian cycles, imports, refusals and coordinator calls in any
order, each reading as old as it may be: in every run in which no step stores, over an
order with terminal evidence, a snapshot that unsettles it, what the exits of a lot may
take never exceeds what its entries have bought. -/
theorem never_oversold (sha256 : String → String) (v : GuardViews) (kind : ι → CoordinatorKind)
    (d : Desk ι) (hreach : ((desk sha256 v kind).restrict (Steady v kind)).Reachable d)
    (lot : String) : d.world.store.committed lot ≤ d.world.store.bought lot :=
  (covered_inductive.reachable hreach).covered lot

end Desk

/-! ## A snapshot that arrives late -/

/-- The broker reports no fill of an order after it has reported the order closed with
its complete activity. -/
def FinalOnceClosed (s : CoreStore) : SendLabel ι SendReading CoreWrite → Prop
  | .write (.importEvents events) => ∀ e ∈ events, ∀ row ∈ s.brokerOrders.rows,
      s.terminal row.clientOrderId = true →
        (∀ o ∈ e.order?, o.clientOrderId = row.clientOrderId → o.filledQuantity ≤ row.filledQuantity) ∧
        ∀ f ∈ e.fill?, f.brokerOrderId = row.brokerOrderId →
          f.fillId ∈ (s.fillsOf row.brokerOrderId).map (·.fillId)
  | l => ∀ o, Reports l o → ∀ row ∈ s.brokerOrders.rows, s.terminal row.clientOrderId = true →
      o.clientOrderId = row.clientOrderId → o.filledQuantity ≤ row.filledQuantity

def Final (d : Desk ι) (l : DeskLabel ι) (_ : Desk ι) : Prop :=
  ∀ a, l = .act a → FinalOnceClosed d.world.store a

section Play

/-- A desk of numbered calls, all of the core's coordinator. -/
abbrev paperDesk : LTS (Desk Nat) (DeskLabel Nat) := desk id paperViews fun _ => .core

/-- Both conditions. -/
def Both (d : Desk Nat) (l : DeskLabel Nat) (d' : Desk Nat) : Prop :=
  Steady paperViews (fun _ => .core) d l d' ∧ Final d l d'

/-- A reachable desk over the store: what has been read, the first call not made yet, and
client ids that were posted. -/
def Reaches (s : CoreStore) (readings : List ExitReading) (next : Nat) (clients : List String) :
    Prop :=
  ∃ d : Desk Nat, (paperDesk.restrict Both).Reachable d ∧ d.world.store = s ∧
    d.readings = readings ∧ (∀ p, next ≤ p → d.world.phases p = .idle) ∧
    ∀ c ∈ clients, Posted d.world c

variable {s s' : CoreStore} {readings : List ExitReading} {next : Nat} {clients : List String}

theorem reaches_fresh (hfresh : Fresh s) (hlinks : s.links.rows = []) : Reaches s [] 0 [] :=
  ⟨⟨⟨s, fun _ => .idle, []⟩, []⟩, ⟨_, [], ⟨⟨fun _ => rfl, rfl, hfresh⟩, hlinks, rfl⟩, .nil _⟩, rfl, rfl,
    fun _ _ => rfl, nofun⟩

theorem filledInFull_of_row {o : BrokerOrder}
    (h : ∃ row ∈ s.orderIntents.rows, row.clientOrderId = o.clientOrderId ∧
      o.filledQuantity ≤ row.quantity) : FilledInFull s o := by
  obtain ⟨row, hmem, hrow⟩ := h
  exact ⟨row.intentId, row, Table.get?_key.2 hmem, hrow⟩

theorem act_step {d : Desk Nat} {l : SendLabel Nat SendReading CoreWrite} {w' : CoreWorld Nat}
    (hcore : (core id paperViews fun _ : Nat => .core).step d.world l w')
    (hexit : ∀ r, l = .write (.exit r) → r ∈ d.readings)
    (hreports : ∀ o, Reports l o → FilledInFull d.world.store o)
    (hsettling : Settling paperViews (fun _ => .core) d.world l)
    (hfinal : FinalOnceClosed d.world.store l) :
    (paperDesk.restrict Both).step d (.act l) ⟨w', d.readings⟩ := by
  refine ⟨⟨hcore, rfl, hexit, hreports⟩, fun a ha => ?_, fun a ha => ?_⟩
  · cases ha; exact hsettling
  · cases ha; exact hfinal

section

variable (h : Reaches s readings next clients)
include h

theorem Reaches.read {r : ExitReading} (hr : Reads s r) :
    Reaches s (r :: readings) next clients := by
  obtain ⟨d, hreach, rfl, rfl, hidle, hposted⟩ := h
  have hstep : (paperDesk.restrict Both).step d (.read r)
      { d with readings := r :: d.readings } := by
    refine ⟨⟨hr, rfl⟩, fun a ha => ?_, fun a ha => ?_⟩
    · cases ha
    · cases ha
  exact ⟨_, hreach.step hstep, rfl, rfl, hidle, hposted⟩

theorem Reaches.write {l : CoreWrite}
    (hw : l.Writes paperViews s s') (hexit : ∀ r, l = .exit r → r ∈ readings)
    (hquiet : ∀ o, ¬ l.Brings o) (himport : ∀ events, l ≠ .importEvents events) :
    Reaches s' readings next clients := by
  obtain ⟨d, hreach, rfl, rfl, hidle, hposted⟩ := h
  refine ⟨⟨{ d.world with store := s' }, d.readings⟩, hreach.step (act_step (l := .write l)
    ⟨⟨s', hw, rfl⟩, fun o ho => absurd ho (hquiet o)⟩ (fun r hr => ?_) (fun o ho => absurd ho (hquiet o)) ?_ ?_), rfl, rfl, hidle,
    hposted⟩
  · cases hr; exact hexit r rfl
  · cases l with
    | importEvents events => exact absurd rfl (himport events)
    | _ => trivial
  · cases l with
    | importEvents events => exact absurd rfl (himport events)
    | _ => exact fun o ho => absurd ho (hquiet o)

theorem Reaches.import {events : List BrokerEvent}
    (hs : s' = after (importBrokerEvents labelDigest events) s)
    (hbrings : ∀ e ∈ events, ∀ o ∈ e.order?, o.clientOrderId ∈ clients ∧
      ∃ row ∈ s.orderIntents.rows, row.clientOrderId = o.clientOrderId ∧
        o.filledQuantity ≤ row.quantity)
    (hopen : ∀ row ∈ s.brokerOrders.rows, s.terminal row.clientOrderId = false) :
    Reaches s' readings next clients := by
  obtain ⟨d, hreach, rfl, rfl, hidle, hposted⟩ := h
  have hopen' : ∀ row ∈ d.world.store.brokerOrders.rows,
      ¬ d.world.store.terminal row.clientOrderId = true := fun row hrow => by
    rw [hopen row hrow]; exact Bool.false_ne_true
  have hposted' : ∀ o, (CoreWrite.importEvents events).Brings o → Posted d.world o.clientOrderId := by
    rintro o ⟨e, he, ho⟩; exact hposted _ (hbrings e he o ho).1
  have hfilled : ∀ o, (CoreWrite.importEvents events).Brings o → FilledInFull d.world.store o := by
    rintro o ⟨e, he, ho⟩; exact filledInFull_of_row (hbrings e he o ho).2
  have hsteady : BatchSteady labelDigest d.world.store events := by
    intro e _ _ o _ hterm row hrow
    obtain ⟨hmem, hclient⟩ := UTable.getAlt?_eq_some.1 hrow
    exact absurd (hclient.symm ▸ hterm) (hopen' row hmem)
  refine ⟨⟨{ d.world with store := s' }, d.readings⟩, hreach.step (act_step
    (l := .write (.importEvents events)) ⟨⟨s', hs, rfl⟩, hposted'⟩
    (fun r hr => ?_) hfilled hsteady fun e _ row hrow hterm => absurd hterm (hopen' row hrow)),
    rfl, rfl, hidle, hposted⟩
  cases hr

end

theorem run_step {d : Desk Nat} {p : Nat} (input : Input SendReading) {st : Step CoreStore CoreError}
    (hstep : (coreCoordinator paperViews .core).step id d.world.store (d.world.phases p) input =
      some st) (hnone : snapshot (d.world.phases p) = none) (hquiet : ∀ o, ¬ Delivers o input) :
    (paperDesk.restrict Both).step d (.act (.run p input)) ⟨d.world.move p st, d.readings⟩ := by
  refine act_step ⟨⟨st, hstep, rfl⟩, fun o ho => absurd ho (hquiet o)⟩ (fun r hr => ?_)
    (fun o ho => absurd ho (hquiet o)) (fun o ho => ?_) fun o ho => absurd ho (hquiet o)
  · cases hr
  · rw [hnone] at ho; cases ho

variable {purpose : OrderPurpose} {reading : SendReading} {intent submitting : OrderIntent}

section

variable (h : Reaches s readings next clients)
include h

/-- **A call that is let through** posts its intent, and waits for the answer. -/
theorem Reaches.posting (hlink : ∃ link ∈ s.links.rows, link.intentId = intent.intentId ∧
      (link.role = .entry ↔ purpose = .entry))
    (hrow : s.orderIntents.get? intent.intentId = some intent) (hstate : intent.state = .orderCreated)
    (hclaim : (coreCoordinator paperViews .core).claimSend reading intent purpose [] s =
      .ok ([], submitting) s') :
    ∃ d : Desk Nat, (paperDesk.restrict Both).Reachable d ∧ d.world.store = s' ∧
      d.readings = readings ∧ d.world.phases next = .posted intent submitting 0 ∧
      (∀ p, next < p → d.world.phases p = .idle) ∧
      ∀ c ∈ intent.clientOrderId :: clients, Posted d.world c := by
  obtain ⟨d, hreach, rfl, rfl, hidle, hposted⟩ := h
  have hstored : coreSession.exec (L3.storedIntent intent) d.world.store = .ok intent d.world.store := by
    refine coreSession.exec_ok.2 ⟨d.world.store.toStore, ?_, rfl⟩
    refine bind_ok.2 ⟨some intent, d.world.store.toStore,
      stored_ok.2 (getOrderIntent_ok.2 ⟨hrow.symm, rfl⟩), ?_⟩
    exact bind_ok.2 ⟨⟨⟩, _, require_ok.2 ⟨rfl, rfl⟩, rfl⟩
  have hresume : resume purpose intent = (.finalGate intent purpose : CorePhase) := by
    unfold resume; rw [hstate]
  have hphase : ∀ (w : CoreWorld Nat) st, (w.move next st).phases next = st.phase := fun w st =>
    (move_phase next).trans (if_pos rfl)
  -- the call is made
  let w₁ := d.world.goto next (.submitDurable intent purpose)
  have h₁ : (paperDesk.restrict Both).Reachable ⟨w₁, d.readings⟩ := by
    have hcore : (core id paperViews fun _ : Nat => .core).step d.world
        (.submitDurable next intent purpose) w₁ := ⟨⟨hidle next le_rfl, rfl⟩, hlink⟩
    refine hreach.step (act_step hcore (fun r hr => ?_) (fun o ho => ?_) trivial fun o ho => ?_)
    · cases hr
    · cases ho
    · cases ho
  have hphase₁ : w₁.phases next = .submitDurable intent purpose := hphase _ _
  -- its intent is read
  let st₂ : Step CoreStore CoreError := { phase := .finalGate intent purpose, store := d.world.store }
  have h₂ : (paperDesk.restrict Both).Reachable ⟨w₁.move next st₂, d.readings⟩ := by
    refine h₁.step (run_step (.run reading) ?_ ?_ fun o ho => nomatch ho)
    · rw [hphase₁]
      show some (L3.commit (coreSession.exec (L3.storedIntent intent)) (resume purpose) L3.raised
        d.world.store) = some st₂
      unfold L3.commit; rw [immediate_ok.2 hstored]; dsimp only; rw [hresume]
    · rw [hphase₁]; rfl
  -- the gate lets it through
  let st₃ : Step CoreStore CoreError := { phase := .claim intent purpose [], store := d.world.store }
  have h₃ : (paperDesk.restrict Both).Reachable ⟨(w₁.move next st₂).move next st₃, d.readings⟩ := by
    refine h₂.step (run_step (.gate []) ?_ ?_ fun o ho => nomatch ho)
    · rw [hphase]; rfl
    · rw [hphase]; rfl
  -- the claim
  let st₄ : Step CoreStore CoreError := { phase := .post intent submitting 0, store := s' }
  have h₄ : (paperDesk.restrict Both).Reachable
      ⟨((w₁.move next st₂).move next st₃).move next st₄, d.readings⟩ := by
    refine h₃.step (run_step (.run reading) ?_ ?_ fun o ho => nomatch ho)
    · rw [hphase]
      show some (L3.commit ((coreCoordinator paperViews .core).claimSend reading intent purpose [])
        (Coordinator.afterClaim intent) L3.raised d.world.store) = some st₄
      unfold L3.commit; rw [immediate_ok.2 hclaim]; rfl
    · rw [hphase]; rfl
  -- the request leaves
  let st₅ : Step CoreStore CoreError :=
    { phase := .posted intent submitting 0, store := s',
      action := some (.submit intent.intentId intent.clientOrderId true) }
  refine ⟨⟨(((w₁.move next st₂).move next st₃).move next st₄).move next st₅, d.readings⟩, ?_, rfl, rfl,
    hphase _ _, fun p hp => ?_, fun c hc => ?_⟩
  · refine h₄.step (run_step .send ?_ ?_ fun o ho => nomatch ho)
    · rw [hphase]; rfl
    · rw [hphase]; rfl
  · have hne : p ≠ next := by omega
    simp only [move_phase, if_neg hne]
    rw [show w₁.phases p = if p = next then _ else d.world.phases p from move_phase p, if_neg hne]
    exact hidle p (by omega)
  · rcases List.mem_cons.1 hc with rfl | hold
    · exact ⟨(next, .submit intent.intentId intent.clientOrderId true), List.mem_cons_self, _, rfl⟩
    · exact (hposted c hold).mono fun a ha => List.mem_cons_of_mem _ ha

theorem Reaches.posts (hlink : ∃ link ∈ s.links.rows, link.intentId = intent.intentId ∧
      (link.role = .entry ↔ purpose = .entry))
    (hrow : s.orderIntents.get? intent.intentId = some intent) (hstate : intent.state = .orderCreated)
    (hclaim : (coreCoordinator paperViews .core).claimSend reading intent purpose [] s =
      .ok ([], submitting) s') :
    Reaches s' readings (next + 1) (intent.clientOrderId :: clients) := by
  obtain ⟨d, hreach, hs, hr, _, hidle, hposted⟩ := h.posting hlink hrow hstate hclaim
  exact ⟨d, hreach, hs, hr, fun p hp => hidle p (by omega), hposted⟩

/-- A posted intent whose answer is malformed ends in `ERROR`. -/
theorem Reaches.garbled {intent submitting failed : OrderIntent} {s'' : CoreStore}
    (hlink : ∃ link ∈ s.links.rows, link.intentId = intent.intentId ∧
      (link.role = .entry ↔ purpose = .entry))
    (hrow : s.orderIntents.get? intent.intentId = some intent) (hstate : intent.state = .orderCreated)
    (hclaim : (coreCoordinator paperViews .core).claimSend reading intent purpose [] s =
      .ok ([], submitting) s')
    (hfail : coreSession.exec (transition intent.intentId .error .submitting) s' = .ok failed s'') :
    Reaches s'' readings (next + 1) (intent.clientOrderId :: clients) := by
  obtain ⟨d, hreach, rfl, rfl, hwaits, hidle, hposted⟩ := h.posting hlink hrow hstate hclaim
  have hphase : ∀ (w : CoreWorld Nat) st, (w.move next st).phases next = st.phase := fun w st =>
    (move_phase next).trans (if_pos rfl)
  -- the answer is read
  let st₁ : Step CoreStore CoreError :=
    { phase := .failing intent.intentId .submitting (.broker .protocol), store := d.world.store }
  have h₁ : (paperDesk.restrict Both).Reachable ⟨d.world.move next st₁, d.readings⟩ := by
    refine hreach.step (run_step (.submitReply (.error .protocol)) ?_ ?_ fun o ho => nomatch ho)
    · rw [hwaits]; rfl
    · rw [hwaits]; rfl
  -- the intent is failed
  let st₂ : Step CoreStore CoreError :=
    { phase := .done (.error (.broker .protocol)), store := s'' }
  refine ⟨⟨(d.world.move next st₁).move next st₂, d.readings⟩, ?_, rfl, rfl, fun p hp => ?_, ?_⟩
  · refine h₁.step (run_step (.run reading) ?_ ?_ fun o ho => nomatch ho)
    · rw [hphase]
      show some (L3.commit (coreSession.exec (transition intent.intentId .error .submitting))
        (fun _ => .done (.error (.broker .protocol))) L3.raised d.world.store) = some st₂
      unfold L3.commit; rw [immediate_ok.2 hfail]
    · rw [hphase]; rfl
  · have hne : p ≠ next := by omega
    simp only [move_phase, if_neg hne]; exact hidle p (by omega)
  · exact hposted

end

end Play

/-! An entry of ten, filled. Its exit is canceled with three filled, so the guardian
prepares another of seven; then a snapshot of the first exit arrives from before its
cancellation. -/

def clearReading : SendReading := { now := 1 }

def fundedStore : CoreStore := { emptyStore with baselines := [{ quantities := [], cash := 1000 }] }

def enteredStore : CoreStore :=
  after (claimEntry labelDigest entryDecision preparedEntry "plan") fundedStore

def readyStore : CoreStore :=
  after (onLedger (transitionOrderIntent "core-entry-1" .orderCreated .riskApproved)) enteredStore

def sendingEntry : CoreStore :=
  after ((coreCoordinator paperViews .core).claimSend clearReading
    (preparedEntry.withState .orderCreated) .entry []) readyStore

def wholeOrder : BrokerOrder := { partialOrder with
  filledQuantity := 10
  status := "filled"
  filled_nonneg := L1.ten_pos.le
  filled_le := (by decide : partialOrder.quantity ≥ 10) }

def wholeExecution : Fill := { partialExecution with
  quantity := 10
  quantity_pos := L1.ten_pos }

def boughtBatch : List BrokerEvent :=
  [paperEvent "o1" 3 (.order wholeOrder), paperEvent "f1" 3 (.fill wholeExecution)]

def boughtStore : CoreStore := after (importBrokerEvents labelDigest boughtBatch) sendingEntry

def exitReading : ExitReading where
  entry := ⟨"core-entry-1", "decision:obs", "plan", "obs", .entry, "decision:obs"⟩
  intent := entryIntent.withState .filled
  owner := "core"
  entryFills := [wholeExecution]
  now := 10
  signalDate := 0
  parallel := true

def exitStore : CoreStore := after (claimLotExit labelDigest exitReading) boughtStore

def firstExit : OrderIntent :=
  (exitIntent labelDigest exitReading [] 10 L1.ten_pos).withState .orderCreated

def sendingExit : CoreStore :=
  after ((coreCoordinator paperViews .core).claimSend clearReading firstExit .strategyExit []) exitStore

def openExit : BrokerOrder where
  brokerOrderId := "B2"
  clientOrderId := "qb-exit:decision:obs"
  symbol := "SPY"
  side := .sell
  orderType := .market
  timeInForce := .day
  quantity := 10
  filledQuantity := 3
  status := "partially_filled"
  submittedAt := 4
  filledAveragePrice := some 100
  quantity_pos := L1.ten_pos
  filled_nonneg := by decide
  filled_le := by decide

def closedExit : BrokerOrder := { openExit with status := "canceled" }

def soldExecution : Fill := { partialExecution with
  fillId := "F2"
  brokerOrderId := "B2"
  side := .sell
  quantity := 3
  occurredAt := 5
  quantity_pos := (by decide : (3 : ℚ) > 0) }

def exitEvent (eventId : String) (at' : Int) (payload : EventPayload) : BrokerEvent :=
  { paperEvent eventId at' payload with clientOrderId := "qb-exit:decision:obs" }

def canceledExitEvent : BrokerEvent where
  recordedAt := 7
  releaseId := "rel"
  evidenceLane := .syntheticTest
  eventId := "o3"
  rawDigest := "o3"
  provider := .explicitSynthetic
  accountId := "PA1"
  endpoint := "orders"
  clientOrderId := "qb-exit:decision:obs"
  occurredAt := 7
  payload := .order closedExit
  activityComplete := true
  activityFillIds := ["F2"]
  activityWatermark := some 6
  occurred_le := le_refl _
  complete_order := fun _ => rfl
  complete_watermark := fun _ => ⟨6, rfl, by decide⟩

def closingBatch : List BrokerEvent := [canceledExitEvent, exitEvent "f2" 6 (.fill soldExecution)]

def canceledExitStore : CoreStore := after (importBrokerEvents labelDigest closingBatch) sendingExit

def releasedStore : CoreStore := after (claimLotExit labelDigest exitReading) canceledExitStore

/-- The first exit, still open, received after it was closed. -/
def staleBatch : List BrokerEvent := [exitEvent "o2" 8 (.order openExit)]

def staleStore : CoreStore := after (importBrokerEvents labelDigest staleBatch) releasedStore

theorem ready_reached : Reaches readyStore [] 0 [] := by
  have hentered : Returns (claimEntry labelDigest entryDecision preparedEntry "plan") fundedStore
      ⟨⟩ := by decide
  have hready : Returns (onLedger (transitionOrderIntent "core-entry-1" .orderCreated
      .riskApproved)) enteredStore (preparedEntry.withState .orderCreated) := by decide
  obtain ⟨s₁, h₁⟩ := hentered; obtain ⟨s₂, h₂⟩ := hready
  have hs₁ : enteredStore = s₁ := after_ok h₁
  have hs₂ : readyStore = s₂ := after_ok h₂
  have hfresh : Reaches fundedStore [] 0 [] := reaches_fresh ⟨rfl, rfl, rfl⟩ rfl
  have hadmit : Admits fundedStore enteredStore := claimEntry_admits rfl _ _ _ (hs₁ ▸ h₁)
  have hcreate : CoreWrite.Writes paperViews enteredStore (.create "core-entry-1") readyStore :=
    ⟨_, hs₂ ▸ h₂⟩
  have hadmitted : Reaches enteredStore [] 0 [] :=
    hfresh.write (l := .admission) hadmit (fun r hr => by cases hr) (fun _ => id)
      fun events he => by cases he
  exact hadmitted.write hcreate (fun r hr => by cases hr) (fun _ => id) fun events he => by cases he

theorem entry_claimed : Returns ((coreCoordinator paperViews .core).claimSend clearReading
    (preparedEntry.withState .orderCreated) .entry []) readyStore
    ([], preparedEntry.withState .submitting) := by decide

theorem bought_reached : Reaches boughtStore [] 1 ["qb-1"] := by
  obtain ⟨s₃, h₃⟩ := entry_claimed; have hs₃ : sendingEntry = s₃ := after_ok h₃
  have hposted : Reaches sendingEntry [] 1 ["qb-1"] :=
    ready_reached.posts (by decide) (by decide) rfl (hs₃ ▸ h₃)
  exact hposted.import rfl (by decide) (by decide)

theorem released_reached :
    Reaches releasedStore [exitReading] 2 [firstExit.clientOrderId, "qb-1"] := by
  have hexit : Returns (claimLotExit labelDigest exitReading) boughtStore (some firstExit) := by
    decide +kernel
  have hsend : Returns ((coreCoordinator paperViews .core).claimSend clearReading firstExit
      .strategyExit []) exitStore ([], firstExit.withState .submitting) := by decide +kernel
  have hrelease : Returns (claimLotExit labelDigest exitReading) canceledExitStore
      (some ((exitIntent labelDigest exitReading ["core-exit-exit:decision:obs"] 7
        (by decide +kernel)).withState .orderCreated)) := by decide +kernel
  obtain ⟨s₁, h₁⟩ := hexit; obtain ⟨s₂, h₂⟩ := hsend
  obtain ⟨s₃, h₃⟩ := hrelease; have hs₁ : exitStore = s₁ := after_ok h₁
  have hs₂ : sendingExit = s₂ := after_ok h₂
  have hs₃ : releasedStore = s₃ := after_ok h₃
  have hread : Reaches boughtStore [exitReading] 1 ["qb-1"] := by
    refine bought_reached.read
      ⟨by decide +kernel, rfl, by decide +kernel, wholeOrder, by decide +kernel, ?_⟩
    have hfills : boughtStore.fillsOf "B1" = [wholeExecution] := by decide +kernel
    exact List.Perm.of_eq hfills.symm
  have hclaimed : CoreWrite.Writes paperViews boughtStore (.exit exitReading) exitStore :=
    ⟨_, hs₁ ▸ h₁⟩
  have hprepared : Reaches exitStore [exitReading] 1 ["qb-1"] := by
    refine hread.write hclaimed (fun r hr => ?_) (fun _ => id) fun events he => by cases he
    cases hr; exact List.mem_cons_self
  have hsent : Reaches sendingExit [exitReading] 2 [firstExit.clientOrderId, "qb-1"] :=
    hprepared.posts (by decide +kernel) (by decide +kernel) rfl (hs₂ ▸ h₂)
  have hclosed : Reaches canceledExitStore [exitReading] 2 [firstExit.clientOrderId, "qb-1"] :=
    hsent.import rfl (by decide +kernel) (by decide +kernel)
  have hagain : CoreWrite.Writes paperViews canceledExitStore (.exit exitReading) releasedStore :=
    ⟨_, hs₃ ▸ h₃⟩
  refine hclosed.write hagain (fun r hr => ?_) (fun _ => id) fun events he => by cases he
  cases hr; exact List.mem_cons_self

/-- Three sold and seven prepared of ten bought. -/
theorem never_oversold_released : ∃ d : Desk Nat, d.world.store = releasedStore ∧
    d.world.store.committed "decision:obs" ≤ d.world.store.bought "decision:obs" ∧
    releasedStore.committed "decision:obs" = 10 := by
  obtain ⟨d, hreach, hstore, _⟩ := released_reached
  have hsteady : (paperDesk.restrict (Steady paperViews fun _ => .core)).Reachable d :=
    hreach.restrict_mono fun _ _ _ h => h.1
  exact ⟨d, hstore, never_oversold id paperViews (fun _ => .core) d hsteady _, by decide +kernel⟩

/-- With the late snapshot both exits hold what only one of them can sell. -/
theorem stale_snapshot_oversells : ∃ d : Desk Nat, (paperDesk.restrict Final).Reachable d ∧
      d.world.store.bought "decision:obs" = 10 ∧ d.world.store.committed "decision:obs" = 17 := by
  obtain ⟨d, hreach, hstore, _, _, hposted⟩ := released_reached
  have hfinal : (paperDesk.restrict Final).Reachable d := hreach.restrict_mono fun _ _ _ h => h.2
  have horders : ∀ o, (CoreWrite.importEvents staleBatch).Brings o → o = openExit := by
    rintro o ⟨e, he, ho⟩; cases List.mem_singleton.1 he; cases ho; rfl
  have hclient : firstExit.clientOrderId = openExit.clientOrderId := by decide
  have hfilled : FilledInFull releasedStore openExit := filledInFull_of_row (by decide +kernel)
  have hlate : ∀ e ∈ staleBatch, ∀ row ∈ releasedStore.brokerOrders.rows,
      releasedStore.terminal row.clientOrderId = true →
        (∀ o ∈ e.order?, o.clientOrderId = row.clientOrderId →
          o.filledQuantity ≤ row.filledQuantity) ∧
        ∀ f ∈ e.fill?, f.brokerOrderId = row.brokerOrderId →
          f.fillId ∈ (releasedStore.fillsOf row.brokerOrderId).map (·.fillId) := by
    decide +kernel
  let d' : Desk Nat := ⟨{ d.world with store := staleStore }, d.readings⟩
  have hstep : (paperDesk.restrict Final).step d (.act (.write (.importEvents staleBatch))) d' := by
    refine ⟨⟨⟨⟨staleStore, ?_, rfl⟩, fun o ho => ?_⟩, rfl, fun r hr => ?_, fun o ho => ?_⟩,
      fun a ha => ?_⟩
    · rw [hstore]; rfl
    · rw [horders o ho]; exact hclient ▸ hposted _ List.mem_cons_self
    · cases hr
    · rw [horders o ho, hstore]; exact hfilled
    · cases ha; rw [hstore]; exact hlate
  have hbought : staleStore.bought "decision:obs" = 10 := by decide +kernel
  have hcommitted : staleStore.committed "decision:obs" = 17 := by decide +kernel
  refine ⟨d', hfinal.step hstep, ?_⟩; dsimp only [d']; exact ⟨hbought, hcommitted⟩

end Quantbot.L4
