import Quantbot.Core.Sums
import Quantbot.L4PaperCore.Guardian

/-!
# Orders with terminal evidence

An order has terminal evidence when its row is closed, its fills add up to the quantity
the row reports, and a source on record shows exactly this row with exactly these fills
(`terminal_evidence` of `paper_core/outcomes.py`, at whatever cutoff).

A snapshot that is stored over such a row takes the evidence away, unless it is closed
itself and a source shows it so (`Unsettles`). Nothing else does: fills are only ever
added, and a batch that leaves more fills than its snapshots report is rejected.
-/
namespace Quantbot.L4

open Core L1 L2 L3 Txn

/-! ## Fills of an order -/

section Fills

variable {s s' : Store} {id : String}

theorem fillFromRow_quantity (f : Fill) : (fillFromRow f).quantity = f.quantity := by
  unfold fillFromRow; split <;> rfl

/-- The rows of an order's fills. -/
def fillRows (s : Store) (id : String) : List Fill :=
  s.fills.rows.filter fun f => decide (f.brokerOrderId = id)

theorem filled_eq (s : Store) (id : String) :
    s.filled id = ((fillRows s id).map (·.quantity)).sum := by
  unfold Store.filled Store.fillsOf fillRows; rw [List.map_map]; congr 1
  exact List.map_congr_left fun f _ => fillFromRow_quantity f

theorem fillRows_nodup (s : Store) (id : String) : (fillRows s id).Nodup :=
  (List.Nodup.of_map _ s.fills.nodup).filter _

theorem fillRows_mono (h : ∀ f ∈ s.fills.rows, f ∈ s'.fills.rows) :
    ∀ f ∈ fillRows s id, f ∈ fillRows s' id := fun f hf => by
  obtain ⟨hmem, hid⟩ := List.mem_filter.1 hf
  exact List.mem_filter.2 ⟨h f hmem, hid⟩

theorem filled_nonneg (s : Store) (id : String) : 0 ≤ s.filled id := by
  refine List.sum_nonneg fun x hx => ?_; obtain ⟨f, _, rfl⟩ := List.mem_map.1 hx
  exact f.quantity_pos.le

theorem filled_mono (h : ∀ f ∈ s.fills.rows, f ∈ s'.fills.rows) : s.filled id ≤ s'.filled id := by
  rw [filled_eq, filled_eq]
  exact sum_le_of_subset (fillRows_nodup s id) (fillRows_mono h) fun f _ => f.quantity_pos.le

theorem fillsOf_perm (h : ∀ f ∈ s.fills.rows, f ∈ s'.fills.rows)
    (hle : s'.filled id ≤ s.filled id) : (s'.fillsOf id).Perm (s.fillsOf id) := by
  rw [filled_eq, filled_eq] at hle
  have hback : ∀ f ∈ fillRows s' id, f ∈ fillRows s id := fun f hf =>
    subset_of_sum_le (fillRows_nodup s id) (fillRows_mono h) (fun f _ => f.quantity_pos) hle hf
  refine List.Perm.map _ ((List.perm_ext_iff_of_nodup (fillRows_nodup s' id)
    (fillRows_nodup s id)).2 fun f => ⟨hback f, fillRows_mono h f⟩)

end Fills

/-! ## Terminal evidence -/

/-- The order under a client id has terminal evidence at some cutoff. -/
def CoreStore.terminal (s : CoreStore) (clientOrderId : String) : Bool :=
  match s.orderByClient clientOrderId with
  | none => false
  | some order => s.sources.any fun p => (terminalEvidence s order p.2.recordedAt).isSome

/-- What terminal evidence says of a row. -/
structure Settled (s : CoreStore) (row : BrokerOrder) : Prop where
  closed : isOpenOrder row = false
  filled : s.filled row.brokerOrderId = row.filledQuantity
  source : ∃ id e, s.source? id = some e ∧
    ClosesOrder row (s.fillsOf row.brokerOrderId) e.recordedAt e

section Evidence

variable {s s' : CoreStore} {order row : BrokerOrder} {c : String} {cutoff : Int}

theorem terminalEvidence_isSome : (terminalEvidence s order cutoff).isSome ↔
    isOpenOrder order = false ∧ s.filled order.brokerOrderId = order.filledQuantity ∧
      ∃ p ∈ s.sources, ClosesOrder order (s.fillsOf order.brokerOrderId) cutoff p.2 := by
  unfold terminalEvidence
  cases hopen : isOpenOrder order with
  | true => simp
  | false =>
    rw [if_neg Bool.false_ne_true]
    by_cases hfilled : s.filled order.brokerOrderId = order.filledQuantity
    · have hsort : ∀ l : List (String × BrokerEvent), l.insertionSort (fun a b =>
          toLex (a.2.recordedAt, a.1) ≤ toLex (b.2.recordedAt, b.1)) = [] ↔ l = [] := by
        intro l
        rw [← List.length_eq_zero_iff, ← List.length_eq_zero_iff,
          (List.perm_insertionSort _ l).length_eq]
      rw [if_neg (not_not.2 hfilled), List.isSome_head?, ne_eq, List.map_eq_nil_iff, hsort,
        List.filter_eq_nil_iff]
      simp [hfilled]
    · rw [if_pos hfilled]; simp [hfilled]

theorem ClosesOrder.at_receipt {fills : List Fill} {e : BrokerEvent}
    (h : ClosesOrder order fills cutoff e) : ClosesOrder order fills e.recordedAt e := by
  obtain ⟨hclient, horder, _, hrest⟩ := h
  exact ⟨hclient, horder, le_refl _, hrest⟩

theorem ClosesOrder.perm {fills fills' : List Fill} {e : BrokerEvent}
    (h : ClosesOrder order fills cutoff e) (hp : fills'.Perm fills) :
    ClosesOrder order fills' cutoff e := by
  obtain ⟨hclient, horder, hcutoff, hcomplete, hids, hlength, w, hw, hmark⟩ := h
  have hmem : ∀ i, i ∈ fills'.map (·.fillId) ↔ i ∈ fills.map (·.fillId) := fun i =>
    (hp.map _).mem_iff
  refine ⟨hclient, horder, hcutoff, hcomplete, ⟨fun x hx => (hmem x).2 (hids.1 x hx),
    fun x hx => hids.2 x ((hmem x).1 hx)⟩, hlength.trans hp.length_eq.symm, w, hw,
    fun f hf => hmark f (hp.mem_iff.1 hf)⟩

theorem Settled.of_evidence (h : (terminalEvidence s order cutoff).isSome) : Settled s order := by
  obtain ⟨hclosed, hfilled, ⟨id, e⟩, hmem, hcloses⟩ := terminalEvidence_isSome.1 h
  exact ⟨hclosed, hfilled, id, e, CoreStore.source?_eq_some.2 (CoreStore.mem_sources.1 hmem),
    hcloses.at_receipt⟩

theorem terminal_iff : s.terminal c = true ↔
    ∃ row, s.orderByClient c = some row ∧ Settled s row := by
  unfold CoreStore.terminal
  cases horder : s.orderByClient c with
  | none => simp
  | some order =>
    rw [List.any_eq_true]; constructor
    · rintro ⟨_, _, h⟩; exact ⟨order, rfl, .of_evidence h⟩
    · rintro ⟨row, hrow, hsettled⟩; cases hrow
      obtain ⟨id, e, hsource, hcloses⟩ := hsettled.source
      have hmem : (id, e) ∈ s.sources := CoreStore.mem_sources.2 (CoreStore.source?_eq_some.1 hsource)
      exact ⟨(id, e), hmem, terminalEvidence_isSome.2
        ⟨hsettled.closed, hsettled.filled, (id, e), hmem, hcloses⟩⟩

theorem terminal_of_closed (h : s.exitClosed c cutoff = true) : s.terminal c = true := by
  unfold CoreStore.exitClosed at h
  cases horder : s.orderByClient c with
  | none =>
    rw [horder] at h; cases h
  | some order =>
    rw [horder] at h; exact terminal_iff.2 ⟨order, horder, .of_evidence h⟩

theorem filledByClient_eq (h : s.orderByClient c = some row) :
    s.filledByClient c = s.filled row.brokerOrderId := by
  unfold CoreStore.filledByClient; rw [h]

theorem filledByClient_nonneg (s : CoreStore) (c : String) : 0 ≤ s.filledByClient c := by
  unfold CoreStore.filledByClient; split
  · exact le_refl 0
  · exact filled_nonneg _ _

end Evidence

/-! ## What keeps it -/

/-- The snapshot is closed like the row, and a source shows it: one on record, or the
event that brings it. -/
def StillClosed (s : CoreStore) (brought : Option BrokerEvent) (row order : BrokerOrder) : Prop :=
  isOpenOrder order = false ∧ order.filledQuantity = row.filledQuantity ∧
    ∃ e ∈ brought.toList ++ s.sources.map (·.2),
      ClosesOrder order (s.fillsOf row.brokerOrderId) e.recordedAt e
deriving Decidable

/-- When a snapshot is stored over a row: never, unless its filled quantity has
regressed, or always. -/
inductive Overwrite | never | advancing | always
deriving DecidableEq, Repr

def Overwrite.Accepts (m : Overwrite) (row order : BrokerOrder) : Prop :=
  match m with
  | .never => False
  | .advancing => row.filledQuantity ≤ order.filledQuantity
  | .always => True

/-- The snapshot is stored over a row with terminal evidence and takes it away. -/
def Unsettles (s : CoreStore) (m : Overwrite) (brought : Option BrokerEvent)
    (row order : BrokerOrder) : Prop :=
  m.Accepts row order ∧ ¬ StillClosed s brought row order

/-- At most one snapshot was stored, over the row of its client. -/
structure BookStored (m : Overwrite) (snap : Option BrokerOrder) (s s' : Store) : Prop where
  orders : ∀ c, s'.orderByClient c = s.orderByClient c ∨
    ∃ o, snap = some o ∧ o.clientOrderId = c ∧ s'.orderByClient c = some o ∧
      ∀ row, s.orderByClient c = some row →
        row.brokerOrderId = o.brokerOrderId ∧ m.Accepts row o
  fills : s'.fills = s.fills

/-- The orders and their fills stay. -/
structure BookStill (s s' : Store) : Prop where
  orders : s'.brokerOrders = s.brokerOrders
  fills : s'.fills = s.fills

/-- Such a write of the order ledger; documents and links stay. -/
structure Stored (m : Overwrite) (snap : Option BrokerOrder) (s s' : CoreStore) : Prop where
  book : BookStored m snap s.toStore s'.toStore
  documents : s'.documents = s.documents
  links : s'.links = s.links

/-- Orders, fills, documents and links stay. -/
structure Still (s s' : CoreStore) : Prop where
  book : BookStill s.toStore s'.toStore
  documents : s'.documents = s.documents
  links : s'.links = s.links

instance : IsPreorder Store BookStill where
  refl _ := ⟨rfl, rfl⟩
  trans _ _ _ h h' := ⟨h'.orders.trans h.orders, h'.fills.trans h.fills⟩

instance : IsPreorder CoreStore Still where
  refl s := ⟨refl_of BookStill s.toStore, rfl, rfl⟩
  trans _ _ _ h h' := ⟨trans_of BookStill h.book h'.book, h'.documents.trans h.documents,
    h'.links.trans h.links⟩

section Kept

variable {s s' : CoreStore} {c : String} {m : Overwrite} {snap : Option BrokerOrder}

theorem BookStill.stored {s s' : Store} (h : BookStill s s') : BookStored m snap s s' :=
  ⟨fun c => .inl (by unfold Store.orderByClient; rw [h.orders]), h.fills⟩

theorem Still.stored (h : Still s s') : Stored m snap s s' :=
  ⟨h.book.stored, h.documents, h.links⟩

theorem source?_of_documents (h : s'.documents = s.documents) (id : String) :
    s'.source? id = s.source? id := by
  unfold CoreStore.source? CoreStore.document; rw [h]

theorem fillsOf_of_fills {s s' : Store} (h : s'.fills = s.fills) (id : String) :
    s'.fillsOf id = s.fillsOf id := by
  unfold Store.fillsOf; rw [h]

theorem terminal_kept {row row' : BrokerOrder} (hrow : s.orderByClient c = some row)
    (hrow' : s'.orderByClient c = some row') (hid : row'.brokerOrderId = row.brokerOrderId)
    (hclosed : isOpenOrder row' = false) (hfilled : row'.filledQuantity = row.filledQuantity)
    (hsettled : s.filled row.brokerOrderId = row.filledQuantity)
    (hfills : ∀ f ∈ s.fills.rows, f ∈ s'.fills.rows)
    (hle : s'.filled row.brokerOrderId ≤ row.filledQuantity)
    (hsource : ∃ id e, s'.source? id = some e ∧
      ClosesOrder row' (s.fillsOf row.brokerOrderId) e.recordedAt e) :
    s'.terminal c = true ∧ s'.filledByClient c = s.filledByClient c := by
  have hsame : s'.filled row.brokerOrderId = s.filled row.brokerOrderId :=
    le_antisymm (hle.trans hsettled.ge) (filled_mono hfills)
  have hperm : (s'.fillsOf row.brokerOrderId).Perm (s.fillsOf row.brokerOrderId) :=
    fillsOf_perm hfills hsame.le
  refine ⟨terminal_iff.2 ⟨row', hrow', hclosed, ?_, ?_⟩, ?_⟩
  · rw [hid, hsame, hsettled, hfilled]
  · obtain ⟨id, e, he, hcloses⟩ := hsource; refine ⟨id, e, he, ?_⟩; rw [hid]
    exact hcloses.perm hperm
  · rw [filledByClient_eq hrow, filledByClient_eq hrow', hid, hsame]

/-- Terminal evidence stays, and what was filled. -/
def TerminalKept (s s' : CoreStore) : Prop :=
  ∀ c, s.terminal c = true → s'.terminal c = true ∧ s'.filledByClient c = s.filledByClient c

theorem TerminalKept.of_still (h : BookStill s.toStore s'.toStore)
    (hsources : ∀ id e, s.source? id = some e → s'.source? id = some e) : TerminalKept s s' := by
  intro c hterm; obtain ⟨row, hrow, hsettled⟩ := terminal_iff.1 hterm
  obtain ⟨id, e, hsource, hcloses⟩ := hsettled.source
  have hrow' : s'.orderByClient c = some row := by
    unfold Store.orderByClient; rw [h.orders]; exact hrow
  have hle : s'.filled row.brokerOrderId ≤ row.filledQuantity := by
    unfold Store.filled; rw [fillsOf_of_fills h.fills]; exact hsettled.filled.le
  exact terminal_kept hrow hrow' rfl hsettled.closed rfl hsettled.filled
    (fun f hf => h.fills ▸ hf) hle ⟨id, e, hsources id e hsource, hcloses⟩

/-- **One snapshot** that does not unsettle its order. -/
theorem Stored.evidence (h : Stored m snap s s')
    (hsteady : ∀ o, snap = some o → s.terminal o.clientOrderId = true →
      ∀ row, s.orderByClient o.clientOrderId = some row → ¬ Unsettles s m none row o) :
    TerminalKept s s' := by
  intro c hterm; obtain ⟨row, hrow, hsettled⟩ := terminal_iff.1 hterm
  have hfills : ∀ f ∈ s.fills.rows, f ∈ s'.fills.rows := fun f hf => h.book.fills ▸ hf
  have hle : s'.filled row.brokerOrderId ≤ row.filledQuantity := by
    unfold Store.filled; rw [fillsOf_of_fills h.book.fills]
    exact hsettled.filled.le
  obtain ⟨id, e, hsource, hcloses⟩ := hsettled.source
  rcases h.book.orders c with hsame | ⟨o, hsnap, rfl, hstored, hover⟩
  · exact terminal_kept hrow (hsame.trans hrow) rfl hsettled.closed rfl hsettled.filled hfills hle
      ⟨id, e, (source?_of_documents h.documents id).trans hsource, hcloses⟩
  obtain ⟨hid, haccepts⟩ := hover row hrow
  have hstill : StillClosed s none row o := by
    by_contra hnot; exact hsteady o hsnap hterm row hrow ⟨haccepts, hnot⟩
  obtain ⟨hclosed, hfilled, e', hmem, hcloses'⟩ := hstill
  obtain ⟨⟨id', _⟩, hin, rfl⟩ := List.mem_map.1 hmem
  refine terminal_kept hrow hstored hid.symm hclosed hfilled hsettled.filled hfills hle
    ⟨id', _, (source?_of_documents h.documents id').trans ?_, hcloses'⟩
  exact CoreStore.source?_eq_some.2 (CoreStore.mem_sources.1 hin)

end Kept

end Quantbot.L4
