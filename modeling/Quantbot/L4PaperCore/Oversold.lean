import Quantbot.L4PaperCore.ClosedRuns

/-!
# A lot's exits against its entries

What the exits of a lot may take (`committed`) against what its entries bought
(`bought`). An exit that is not definitively unsent holds its whole quantity until its
order has terminal evidence, then what was filled of it.

* while evidence is kept, `committed` never rises and `bought` never falls
  (`committed_le`, `bought_mono`);
* the guardian inserts an exit of at most what the other exits leave
  (`ExitClaimed.covered`).
-/
namespace Quantbot.L4

open Core L1 L2 L3 Txn

/-! ## What a lot has bought and what its exits hold -/

/-- What one exit may take, or has taken. -/
def committedBy (s : CoreStore) (link : IntentLink) : ℚ :=
  match s.intentOf link with
  | none => 0
  | some exit =>
    if definitivelyUnsent s.toStore exit.intentId then 0
    else if s.terminal exit.clientOrderId then s.filledByClient exit.clientOrderId
    else exit.quantity

/-- What one entry has bought. -/
def boughtBy (s : CoreStore) (link : IntentLink) : ℚ :=
  match s.intentOf link with
  | none => 0
  | some entry => s.filledByClient entry.clientOrderId

def CoreStore.committed (s : CoreStore) (lot : String) : ℚ :=
  ((s.linksOf lot .exit).map (committedBy s)).sum

def CoreStore.bought (s : CoreStore) (lot : String) : ℚ :=
  ((s.linksOf lot .entry).map (boughtBy s)).sum

section Quantities

variable {s s' : CoreStore} {lot : String} {link : IntentLink} {role : LinkRole}

theorem mem_linksOf : link ∈ s.linksOf lot role ↔
    link ∈ s.links.rows ∧ link.lotId = lot ∧ link.role = role := by
  unfold CoreStore.linksOf; rw [List.mem_filter, decide_eq_true_iff]

theorem linksOf_nodup (s : CoreStore) (lot : String) (role : LinkRole) :
    (s.linksOf lot role).Nodup :=
  (List.Nodup.of_map _ s.links.nodup).filter _

theorem filledByClient_mono (h : Evolves s.toStore s'.toStore) (c : String) :
    s.filledByClient c ≤ s'.filledByClient c := by
  cases hrow : s.orderByClient c with
  | none =>
    have hzero : s.filledByClient c = 0 := by
      unfold CoreStore.filledByClient; rw [hrow]
    exact hzero ▸ filledByClient_nonneg s' c
  | some row =>
    obtain ⟨hmem, hclient⟩ := UTable.getAlt?_eq_some.1 hrow
    obtain ⟨row', hrow', hsame⟩ := h.orders row.brokerOrderId row (Table.get?_key.2 hmem)
    obtain ⟨hmem', hid⟩ := Table.get?_some hrow'
    have hrow₁ : s'.orderByClient c = some row' :=
      UTable.getAlt?_eq_some.2 ⟨hmem', hsame.1.symm.trans hclient⟩
    rw [filledByClient_eq hrow, filledByClient_eq hrow₁, hid]
    exact filled_mono h.fills

theorem boughtBy_nonneg (s : CoreStore) (link : IntentLink) : 0 ≤ boughtBy s link := by
  unfold boughtBy; split
  · exact le_refl 0
  · exact filledByClient_nonneg _ _

section

variable (h : Evolves s.toStore s'.toStore)
include h

theorem intentOf_evolves {row : OrderIntent}
    (hrow : s.intentOf link = some row) : ∃ q, s'.intentOf link = some (row.withState q) := by
  obtain ⟨q, hq, _⟩ := h.intents _ row hrow; exact ⟨q, hq⟩

theorem boughtBy_mono (link : IntentLink) : boughtBy s link ≤ boughtBy s' link := by
  cases hrow : s.intentOf link with
  | none =>
    have hzero : boughtBy s link = 0 := by
      unfold boughtBy; rw [hrow]
    exact hzero ▸ boughtBy_nonneg s' link
  | some row =>
    obtain ⟨q, hq⟩ := intentOf_evolves h hrow; unfold boughtBy; rw [hrow, hq]
    exact filledByClient_mono h row.clientOrderId

/-- **Bought** never decreases. -/
theorem bought_mono (hlinks : ∀ l ∈ s.links.rows, l ∈ s'.links.rows) (lot : String) :
    s.bought lot ≤ s'.bought lot := by
  refine sum_le_of_subset_of_le (linksOf_nodup s lot .entry) (fun l hl => ?_)
    (fun l _ => boughtBy_mono h l) fun l _ => boughtBy_nonneg s' l
  obtain ⟨hmem, hlot⟩ := mem_linksOf.1 hl
  exact mem_linksOf.2 ⟨hlinks l hmem, hlot⟩

end

/-- Closed orders have filled no more than their intents ask for. -/
def FilledWithin (s : CoreStore) : Prop :=
  ∀ i row, s.orderIntents.get? i = some row → s.terminal row.clientOrderId = true →
    s.filledByClient row.clientOrderId ≤ row.quantity

theorem committedBy_nonneg (s : CoreStore) (link : IntentLink) : 0 ≤ committedBy s link := by
  unfold committedBy; split
  · exact le_refl 0
  next exit _ =>
  split
  · exact le_refl 0
  split
  · exact filledByClient_nonneg _ _
  · exact exit.quantity_pos.le

theorem committedBy_le_quantity (hw : FilledWithin s) {row : OrderIntent}
    (hrow : s.intentOf link = some row) : committedBy s link ≤ row.quantity := by
  unfold committedBy; rw [hrow]; dsimp only; split
  · exact row.quantity_pos.le
  split
  · next hterm => exact hw _ row hrow hterm
  · exact le_refl _

theorem committedBy_le (he : Evolves s.toStore s'.toStore)
    (hu : ∀ i, definitivelyUnsent s.toStore i = true → definitivelyUnsent s'.toStore i = true)
    (hk : TerminalKept s s') (hw : FilledWithin s') (hlinked : ∃ row, s.intentOf link = some row) :
    committedBy s' link ≤ committedBy s link := by
  obtain ⟨row, hrow⟩ := hlinked; obtain ⟨q, hq⟩ := intentOf_evolves he hrow
  by_cases hunsent : definitivelyUnsent s'.toStore row.intentId = true
  · have hzero : committedBy s' link = 0 := by
      unfold committedBy; rw [hq]; exact if_pos hunsent
    exact hzero ▸ committedBy_nonneg s link
  have hbefore : ¬ definitivelyUnsent s.toStore row.intentId = true := fun h =>
    hunsent (hu _ h)
  by_cases hterm : s.terminal row.clientOrderId = true
  · obtain ⟨hterm', hfilled⟩ := hk _ hterm
    have hnow : committedBy s' link = s'.filledByClient row.clientOrderId := by
      unfold committedBy; rw [hq]; exact (if_neg hunsent).trans (if_pos hterm')
    have hthen : committedBy s link = s.filledByClient row.clientOrderId := by
      unfold committedBy; rw [hrow]; exact (if_neg hbefore).trans (if_pos hterm)
    rw [hnow, hthen, hfilled]
  · have hthen : committedBy s link = row.quantity := by
      unfold committedBy; rw [hrow]; exact (if_neg hbefore).trans (if_neg hterm)
    have hle : committedBy s' link ≤ (row.withState q).quantity := committedBy_le_quantity hw hq
    rw [hthen]; exact hle

/-- **Committed** never increases by itself. -/
theorem committed_le (he : Evolves s.toStore s'.toStore)
    (hu : ∀ i, definitivelyUnsent s.toStore i = true → definitivelyUnsent s'.toStore i = true)
    (hk : TerminalKept s s') (hw : FilledWithin s')
    (hlinked : ∀ l ∈ s.links.rows, l.role = .exit → ∃ row, s.intentOf l = some row)
    (hlinks : ∀ l ∈ s'.links.rows, l ∈ s.links.rows ∨ l.role = .entry) (lot : String) :
    s'.committed lot ≤ s.committed lot := by
  have hold : ∀ l ∈ s'.linksOf lot .exit, l ∈ s.linksOf lot .exit := by
    intro l hl; obtain ⟨hmem, hlot, hrole⟩ := mem_linksOf.1 hl
    rcases hlinks l hmem with h | h
    · exact mem_linksOf.2 ⟨h, hlot, hrole⟩
    · rw [hrole] at h; cases h
  refine sum_le_of_subset_of_le (linksOf_nodup s' lot .exit) hold (fun l hl => ?_)
    fun l _ => committedBy_nonneg s l
  obtain ⟨hmem, _, hrole⟩ := mem_linksOf.1 (hold l hl)
  exact committedBy_le he hu hk hw (hlinked l hmem hrole)

end Quantities

/-! ## What the guardian finds held -/

section Held

variable {s : CoreStore} {now : Int} {acc held : ExitsHeld} {link : IntentLink}

theorem heldLink_covers (hw : FilledWithin s) (h : heldLink s now acc link = some held) :
    acc.exited + acc.reserved + committedBy s link ≤ held.exited + held.reserved := by
  obtain ⟨row, hrow, rfl⟩ := Option.map_eq_some_iff.1 h
  by_cases hunsent : definitivelyUnsent s.toStore row.intentId = true
  · have hzero : committedBy s link = 0 := by
      unfold committedBy; rw [hrow]; exact if_pos hunsent
    rw [hzero, if_pos hunsent, add_zero]
  rw [if_neg hunsent]
  cases hclosed : s.exitClosed row.clientOrderId now with
  | true =>
    have hfilled : committedBy s link = s.filledByClient row.clientOrderId := by
      unfold committedBy; rw [hrow]
      exact (if_neg hunsent).trans (if_pos (terminal_of_closed hclosed))
    simp only [if_true]; linarith
  | false =>
    have hle := committedBy_le_quantity hw hrow
    simp only [Bool.false_eq_true, if_false]; linarith

variable {links : List IntentLink}

theorem heldLinks_cover (hw : FilledWithin s) (h : links.foldlM (heldLink s now) acc = some held) :
    acc.exited + acc.reserved + (links.map (committedBy s)).sum ≤ held.exited + held.reserved := by
  induction links generalizing acc with
  | nil =>
    cases h; simp
  | cons link links ih =>
    obtain ⟨acc₁, hone, hrest⟩ := Option.bind_eq_some_iff.1 h
    have hhead := heldLink_covers hw hone; have htail := ih hrest
    rw [List.map_cons, List.sum_cons]; linarith

theorem basisLink_covers (hw : FilledWithin s) {acc basis : LotBasis}
    (h : basisLink s now acc link = .ok basis) :
    acc.sold + acc.reserved + committedBy s link ≤ basis.sold + basis.reserved := by
  unfold basisLink at h
  cases hrow : s.intentOf link with
  | none =>
    rw [hrow] at h; cases h
  | some row =>
    rw [hrow] at h; dsimp only at h; have hle := committedBy_le_quantity hw hrow
    split at h
    · next hunsent =>
      have hzero : committedBy s link = 0 := by
        unfold committedBy; rw [hrow]; exact if_pos hunsent
      cases h; linarith
    next hunsent =>
    split at h
    · cases h
    cases horder : s.orderByClient row.clientOrderId with
    | none =>
      rw [horder] at h; cases h; linarith
    | some order =>
      rw [horder] at h; dsimp only at h; split at h
      · cases h
      split at h
      · next hevidence =>
        cases h
        have hterm : s.terminal row.clientOrderId = true :=
          terminal_iff.2 ⟨order, horder, .of_evidence hevidence⟩
        have hfilled : committedBy s link = s.filledByClient row.clientOrderId := by
          unfold committedBy; rw [hrow]
          exact (if_neg hunsent).trans (if_pos hterm)
        linarith
      · cases h; linarith

theorem basisLinks_cover (hw : FilledWithin s) {acc basis : LotBasis}
    (h : links.foldlM (basisLink s now) acc = .ok basis) :
    acc.sold + acc.reserved + (links.map (committedBy s)).sum ≤ basis.sold + basis.reserved := by
  induction links generalizing acc with
  | nil =>
    cases h; simp
  | cons link links ih =>
    rw [List.foldlM_cons] at h
    cases hone : basisLink s now acc link with
    | error e =>
      rw [hone] at h; cases h
    | ok acc₁ =>
      rw [hone] at h; have hhead := basisLink_covers hw hone; have htail := ih h
      rw [List.map_cons, List.sum_cons]; linarith

theorem boundedQuantity_le {c : CustodyReading} {owned reserved : ℚ}
    (h : 0 < boundedQuantity c owned reserved) :
    boundedQuantity c owned reserved ≤ owned - reserved := by
  have hfloor : (⌊max 0 (min owned c.custodyQuantity - reserved) / c.quantityStep⌋ : ℚ) *
      c.quantityStep ≤ max 0 (min owned c.custodyQuantity - reserved) := by
    calc _ ≤ max 0 (min owned c.custodyQuantity - reserved) / c.quantityStep * c.quantityStep :=
          mul_le_mul_of_nonneg_right (Int.floor_le _) c.step_pos.le
      _ = _ := div_mul_cancel₀ _ c.step_pos.ne'
  unfold boundedQuantity at h ⊢; dsimp only at h ⊢; split at h
  · next hmin =>
    rw [if_pos hmin]; have hpos := h.trans_le hfloor
    have hmax : max 0 (min owned c.custodyQuantity - reserved) =
        min owned c.custodyQuantity - reserved := by
      refine max_eq_right (le_of_lt ?_); by_contra hneg
      rw [max_eq_left (not_lt.1 hneg)] at hpos; exact lt_irrefl 0 hpos
    have howned := min_le_left owned c.custodyQuantity; linarith
  · cases lt_irrefl 0 h

end Held

/-! ## The guardian's claim -/

section Claim

variable {contentId : ContentId} {r : ExitReading} {s s' : CoreStore}

/-- What a claim does beside the order book: no new link, or one of an exit of what is
left. -/
inductive ExitClaimed (r : ExitReading) (s s' : CoreStore) : Prop
  | none (links : s'.links = s.links)
  | inserted (held : ExitsHeld) (exit : OrderIntent)
      (covers : (s.linksOf r.entry.lotId .exit).foldlM (heldLink s r.now) {} = some held)
      (remaining : exitRemaining s r held = some exit.quantity)
      (fresh : s.links.get? exit.intentId = Option.none)
      (links : s'.links = s.links.insert (r.link exit))
      (stored : ∃ q, s'.orderIntents.get? exit.intentId = some (exit.withState q))

theorem handOver_still (r : ExitReading) (exit : OrderIntent) : Moves Still (handOver r exit) :=
  Moves.ite (onLedger_still (transitionOrderIntent_still _ _ _)) (Moves.pure _)

theorem handOver_evolves (r : ExitReading) (exit : OrderIntent) :
    Moves coreSession.Evolves (handOver r exit) :=
  Moves.ite ((transitionOrderIntent_evolves _ _ _).zoom fun _ _ h => h) (Moves.pure _)

theorem insertExit_ok {exit : OrderIntent} {u : PUnit}
    (h : insertExit contentId r exit s = .ok u s') :
    BookStill s.toStore s'.toStore ∧ s'.documents = s.documents ∧
      s.links.get? exit.intentId = none ∧ s'.links = s.links.insert (r.link exit) ∧
      s'.orderIntents.get? exit.intentId = some exit := by
  unfold insertExit at h; simp only [bind_ok] at h
  obtain ⟨_, s₁, hcreate, _, s₂, hlink, hrecord⟩ := h
  obtain ⟨t, ht, rfl⟩ := zoom_ok.1 hcreate
  have hbook : BookStill s.toStore t := createOrderIntent_still _ _ _ _ ht
  obtain ⟨hfresh, rfl⟩ := insertLink_ok hlink
  have hrecorded := recordEvent_still _ _ _ _ hrecord
  have hintents : s'.orderIntents = t.orderIntents := by
    obtain ⟨_, s₃, hone, hpure⟩ := bind_ok.1 hrecord
    obtain ⟨_, rfl⟩ := pure_ok.1 hpure; obtain ⟨u, hu, rfl⟩ := zoom_ok.1 hone
    rcases recordOrderEvent_ok hu with ⟨_, _, rfl⟩ | ⟨_, _, rfl⟩ <;> rfl
  refine ⟨trans_of BookStill hbook hrecorded.book, hrecorded.documents, hfresh, hrecorded.links, ?_⟩
  rw [hintents]
  rcases createOrderIntent_ok ht with ⟨_, hrow, rfl⟩ | ⟨_, hnone, hclient, rfl⟩
  · exact hrow
  · show (s.orderIntents.insert exit).get? exit.intentId = some exit
    rw [UTable.insert_toTable hnone hclient, Table.get?_insert hnone, if_pos rfl]

/-- **A claim** leaves the order book as it is, and inserts at most one exit. -/
theorem claimLotExit_ok {exit : Option OrderIntent} (h : claimLotExit contentId r s = .ok exit s') :
    BookStill s.toStore s'.toStore ∧ s'.documents = s.documents ∧ ExitClaimed r s s' := by
  have hsame : ∀ t : CoreStore, Still s t →
      BookStill s.toStore t.toStore ∧ t.documents = s.documents ∧ ExitClaimed r s t := fun t ht =>
    ⟨ht.book, ht.documents, .none ht.links⟩
  unfold claimLotExit at h; rw [immediate_ok, bind_ok] at h
  obtain ⟨t, s₁, hget, h⟩ := h; rw [get_ok] at hget; obtain ⟨rfl, rfl⟩ := hget
  cases hheld : (s₁.linksOf r.entry.lotId .exit).foldlM (heldLink s₁ r.now) {} with
  | none =>
    rw [hheld] at h; cases h
  | some held =>
    rw [hheld] at h; dsimp only at h
    cases hremaining : exitRemaining s₁ r held with
    | none =>
      rw [hremaining] at h; obtain ⟨_, rfl⟩ := pure_ok.1 h
      exact hsame _ (refl_of Still _)
    | some remaining =>
      rw [hremaining] at h; unfold exitOf at h
      cases hprepared : held.prepared with
      | some prepared =>
        rw [hprepared] at h; obtain ⟨_, s₂, hhand, h⟩ := bind_ok.1 h
        obtain ⟨_, rfl⟩ := pure_ok.1 h
        exact hsame _ (handOver_still _ _ _ _ _ hhand)
      | none =>
        rw [hprepared] at h; dsimp only at h; split at h
        · simp only [bind_ok, pure_ok] at h
          obtain ⟨_, s₂, hinsert, _, s₃, hhand, _, rfl⟩ := h
          obtain ⟨hbook, hdocuments, hfresh, hlinks, hstored⟩ := insertExit_ok hinsert
          have hover := handOver_still _ _ _ _ _ hhand
          obtain ⟨q, hq, _⟩ := (handOver_evolves _ _ _ _ _ hhand).intents _ _ hstored
          refine ⟨trans_of BookStill hbook hover.book, hover.documents.trans hdocuments, ?_⟩
          exact .inserted held _ hheld hremaining hfresh (hover.links.trans hlinks) ⟨q, hq⟩
        · obtain ⟨_, rfl⟩ := pure_ok.1 h; exact hsame _ (refl_of Still _)

/-- A cycle has read the lot's entry and some of its fills. -/
structure Seen (s : CoreStore) (r : ExitReading) : Prop where
  entry : r.entry ∈ s.links.rows
  role : r.entry.role = .entry
  intent : ∃ q, s.intentOf r.entry = some (r.intent.withState q)
  fills : ∃ order, s.orderByClient r.intent.clientOrderId = some order ∧
    ∀ f ∈ r.entryFills, f ∈ s.fillsOf order.brokerOrderId
  distinct : r.entryFills.Nodup

theorem Seen.entry_bought (h : Seen s r) :
    s.filledByClient r.intent.clientOrderId ≤ s.bought r.entry.lotId := by
  obtain ⟨q, hq⟩ := h.intent
  have hone : boughtBy s r.entry = s.filledByClient r.intent.clientOrderId := by
    unfold boughtBy; rw [hq]; rfl
  have hmem : r.entry ∈ s.linksOf r.entry.lotId .entry := mem_linksOf.2 ⟨h.entry, rfl, h.role⟩
  rw [← hone]
  refine List.single_le_sum (fun x hx => ?_) _ (List.mem_map.2 ⟨_, hmem, rfl⟩)
  obtain ⟨l, _, rfl⟩ := List.mem_map.1 hx; exact boughtBy_nonneg s l

theorem Seen.owned_le (h : Seen s r) : r.owned ≤ s.bought r.entry.lotId := by
  obtain ⟨order, horder, hfills⟩ := h.fills; refine le_trans ?_ h.entry_bought
  rw [filledByClient_eq horder]
  exact sum_le_of_subset h.distinct hfills fun f _ => f.quantity_pos.le

theorem exitRemaining_covered (h : Seen s r) (hw : FilledWithin s) {held : ExitsHeld}
    (hheld : (s.linksOf r.entry.lotId .exit).foldlM (heldLink s r.now) {} = some held) {q : ℚ}
    (hremaining : exitRemaining s r held = some q) (hq : 0 < q) :
    s.committed r.entry.lotId + q ≤ s.bought r.entry.lotId := by
  unfold exitRemaining at hremaining
  cases hcustody : r.custody with
  | none =>
    rw [hcustody] at hremaining; cases hremaining
    have hcover : 0 + 0 + s.committed r.entry.lotId ≤ held.exited + held.reserved :=
      heldLinks_cover hw hheld
    have howned := h.owned_le; linarith
  | some c =>
    rw [hcustody] at hremaining; dsimp only at hremaining
    unfold custodyLimit at hremaining
    cases hbasis : (s.linksOf r.entry.lotId .exit).foldlM (basisLink s c.now) {} with
    | error e =>
      rw [hbasis] at hremaining; cases hremaining
    | ok basis =>
      rw [hbasis] at hremaining; dsimp only at hremaining; split at hremaining
      · cases hremaining
      cases hremaining
      have hcover : 0 + 0 + s.committed r.entry.lotId ≤ basis.sold + basis.reserved :=
        basisLinks_cover hw hbasis
      have hbound := boundedQuantity_le hq; have howned := h.entry_bought
      have hfees := c.fees_nonneg; linarith

theorem committed_insert (he : Evolves s.toStore s'.toStore)
    (hu : ∀ i, definitivelyUnsent s.toStore i = true → definitivelyUnsent s'.toStore i = true)
    (hk : TerminalKept s s') (hw : FilledWithin s')
    (hlinked : ∀ l ∈ s.links.rows, l.role = .exit → ∃ row, s.intentOf l = some row)
    {link : IntentLink} (hlinks : s'.links = s.links.insert link)
    (hfresh : s.links.get? link.intentId = none) (hrole : link.role = .exit) {row : OrderIntent}
    (hrow : s'.intentOf link = some row) (lot : String) :
    s'.committed lot ≤ s.committed lot + if link.lotId = lot then row.quantity else 0 := by
  have hrows : s'.linksOf lot .exit =
      s.linksOf lot .exit ++ if link.lotId = lot then [link] else [] := by
    unfold CoreStore.linksOf
    rw [hlinks, Table.insert_rows hfresh, List.filter_append]
    by_cases hlot : link.lotId = lot <;> simp [hlot, hrole]
  unfold CoreStore.committed; rw [hrows, List.map_append, List.sum_append]
  refine add_le_add (List.sum_le_sum fun l hl => ?_) ?_
  · obtain ⟨hmem, _, hexit⟩ := mem_linksOf.1 hl
    exact committedBy_le he hu hk hw (hlinked l hmem hexit)
  · by_cases hlot : link.lotId = lot
    · rw [if_pos hlot, if_pos hlot]; simpa using committedBy_le_quantity hw hrow
    · rw [if_neg hlot, if_neg hlot]; simp

/-- **The guardian** leaves every lot covered. -/
theorem ExitClaimed.covered (h : ExitClaimed r s s') (hseen : Seen s r) (hw : FilledWithin s)
    (he : Evolves s.toStore s'.toStore)
    (hu : ∀ i, definitivelyUnsent s.toStore i = true → definitivelyUnsent s'.toStore i = true)
    (hk : TerminalKept s s') (hw' : FilledWithin s')
    (hlinked : ∀ l ∈ s.links.rows, l.role = .exit → ∃ row, s.intentOf l = some row)
    (hcovered : ∀ lot, s.committed lot ≤ s.bought lot) (lot : String) :
    s'.committed lot ≤ s'.bought lot := by
  cases h with
  | none hlinks =>
    have hcommitted := committed_le he hu hk hw' hlinked (fun l hl => .inl (hlinks ▸ hl)) lot
    have hbought := bought_mono he (fun l hl => hlinks ▸ hl) lot
    exact hcommitted.trans ((hcovered lot).trans hbought)
  | inserted held exit hheld hremaining hfresh hlinks hstored =>
    obtain ⟨q, hq⟩ := hstored
    have hrow : s'.intentOf (r.link exit) = some (exit.withState q) := hq
    have hcommitted := committed_insert he hu hk hw' hlinked hlinks hfresh rfl hrow lot
    have hbought := bought_mono he
      (fun l hl => hlinks ▸ (Table.mem_insert hfresh).2 (.inl hl)) lot
    by_cases hlot : (r.link exit).lotId = lot
    · rw [if_pos hlot] at hcommitted; have hlot : r.entry.lotId = lot := hlot
      have hleft : s.committed r.entry.lotId + exit.quantity ≤ s.bought r.entry.lotId :=
        exitRemaining_covered hseen hw hheld hremaining exit.quantity_pos
      rw [hlot] at hleft; exact hcommitted.trans (hleft.trans hbought)
    · rw [if_neg hlot, add_zero] at hcommitted
      exact hcommitted.trans ((hcovered lot).trans hbought)

end Claim

end Quantbot.L4
