import Quantbot.L4PaperCore.Revisions

/-!
# Cost receipts

`record_cost` and `current_costs` of `paper_core/costs.py`, over any receipts in any
order: recorded alone or by an import, repeated, late or backdated. An append reads the
whole chain of its fill and component, whatever its own recorded time, so it can only
extend the chain at its end, and never with an earlier recorded time.

* `cost_chains`: in every run the items of a fill's component are one chain, in order of
  time, without a fork, and `current_costs` at a cutoff returns the last item available
  there, with a revision that never decreases as the cutoff grows.
-/
namespace Quantbot.L4

open Core L1 L2 Txn

variable {contentId : ContentId}

/-! ## Writes that add no cost -/

/-- The cost items on record are the same. -/
def CostsSame (s s' : CoreStore) : Prop := s'.costs = s.costs

variable {s s' : CoreStore}

theorem notified_costs (h : Notified s s') : CostsSame s s' := by
  obtain ⟨_, _, _, _, rfl⟩ := h; rfl

theorem put_costs {id : String} {d : Document} {u : PUnit} (h : put id d s = .ok u s') :
    CostsSame s s' ∨ s'.costs = s.costs ++ (d.cost?.map (id, ·)).toList := by
  rcases put_stores h with ⟨_, rfl⟩ | ⟨hnone, hnotified⟩
  · exact .inl rfl
  right; rw [notified_costs hnotified]
  show (s.documents.insert ⟨id, d⟩).rows.filterMap _ = _
  rw [Table.insert_rows hnone, List.filterMap_append]; cases d <;> rfl

theorem put_costsSame (id : String) (d : Document) (hd : d.kind ≠ .cost) :
    Moves CostsSame (put id d) := fun s u s' h => by
  rcases put_costs h with h | h
  · exact h
  have hnone : d.cost? = none := by
    cases d <;> first | rfl | exact absurd rfl hd
  rw [hnone] at h
  show s'.costs = s.costs
  rw [h]
  exact List.append_nil _

/-! ## The chain of a fill's component -/

/-- The stored items of a fill's component are a linear chain in order of time. -/
structure CostChain (contentId : ContentId) (s : CoreStore) (fillId : String)
    (component : CostComponent) (l : List CostItem) : Prop where
  linear : Linear (·.revision) (·.supersedes) (fun c => contentId (.cost c)) l
  stored : ∀ id c, ((id, c) ∈ s.costs ∧ c.fillId = fillId ∧ c.component = component) ↔
    c ∈ l ∧ id = contentId (.cost c)
  ascending : l.Pairwise fun a b => a.recordedAt ≤ b.recordedAt

def CostsChained (contentId : ContentId) (s : CoreStore) : Prop :=
  ∀ fillId component, ∃ l, CostChain contentId s fillId component l

/-- The chains survive. -/
def ChainsKept (contentId : ContentId) (s s' : CoreStore) : Prop :=
  CostsChained contentId s → CostsChained contentId s'

instance : IsPreorder CoreStore (ChainsKept contentId) where
  refl _ h := h
  trans _ _ _ h h' hc := h' (h hc)

theorem CostsSame.kept (h : CostsSame s s') : ChainsKept contentId s s' := by
  intro hc fillId component; obtain ⟨l, hl⟩ := hc fillId component
  refine ⟨l, hl.linear, fun id c => ?_, hl.ascending⟩
  rw [show s'.costs = s.costs from h]; exact hl.stored id c

section Chain

variable {s s' : CoreStore} {fillId : String} {component : CostComponent} {l : List CostItem}

theorem CostChain.items (h : CostChain contentId s fillId component l) {p : CostItem → Bool}
    (a : CostItem) : a ∈ (s.costs.map (·.2)).filter
        (fun c => decide (c.fillId = fillId ∧ c.component = component) && p c) ↔
      a ∈ l ∧ p a = true := by
  rw [List.mem_filter, List.mem_map, Bool.and_eq_true, decide_eq_true_eq]
  constructor
  · rintro ⟨⟨⟨id, c⟩, hmem, rfl⟩, hkey, hp⟩
    exact ⟨((h.stored id c).1 ⟨hmem, hkey⟩).1, hp⟩
  · rintro ⟨ha, hp⟩; obtain ⟨hmem, hkey⟩ := (h.stored _ a).2 ⟨ha, rfl⟩
    exact ⟨⟨_, hmem, rfl⟩, hkey, hp⟩

/-- What `record_cost` takes for the predecessor is the last of the chain. -/
theorem CostChain.current (h : CostChain contentId s fillId component l) :
    s.currentCost fillId component = l.getLast? := by
  have hlatest : s.currentCost fillId component =
      latest (·.revision) ((s.costs.map (·.2)).filter fun c =>
        decide (c.fillId = fillId ∧ c.component = component)) := by
    unfold CoreStore.currentCost latest; congr 1; funext best c
    cases best <;> rfl
  rw [hlatest]; refine latest_linear h.linear fun a => ?_
  have hitems := h.items (p := fun _ => true) a
  simp only [Bool.and_true, and_true] at hitems; exact hitems

theorem CostChain.append {item : CostItem} (hc : CostsChained contentId s)
    (h : CostChain contentId s item.fillId item.component l)
    (hrevision : item.revision = l.length + 1)
    (hsupersedes : item.supersedes = l.getLast?.map fun c => contentId (.cost c))
    (htime : ∀ a ∈ l, a.recordedAt ≤ item.recordedAt)
    (hcosts : s'.costs = s.costs ++ [(contentId (.cost item), item)]) :
    CostsChained contentId s' := by
  intro fillId component
  have hmem : ∀ id c, (id, c) ∈ s'.costs ↔
      (id, c) ∈ s.costs ∨ id = contentId (.cost item) ∧ c = item := by
    intro id c; rw [hcosts, List.mem_append, List.mem_singleton, Prod.mk.injEq]
  by_cases hkey : item.fillId = fillId ∧ item.component = component
  · obtain ⟨rfl, rfl⟩ := hkey
    refine ⟨l ++ [item], h.linear.snoc hrevision hsupersedes, fun id c => ?_, ?_⟩
    · rw [hmem, List.mem_append, List.mem_singleton]; constructor
      · rintro ⟨hold | ⟨rfl, rfl⟩, hck⟩
        · obtain ⟨hcl, hid⟩ := (h.stored id c).1 ⟨hold, hck⟩
          exact ⟨.inl hcl, hid⟩
        · exact ⟨.inr rfl, rfl⟩
      · rintro ⟨hcl | rfl, hid⟩
        · obtain ⟨hold, hck⟩ := (h.stored id c).2 ⟨hcl, hid⟩
          exact ⟨.inl hold, hck⟩
        · exact ⟨.inr ⟨hid, rfl⟩, rfl, rfl⟩
    · rw [List.pairwise_append]
      refine ⟨h.ascending, List.pairwise_singleton _ _, fun a ha b hb => ?_⟩
      rw [List.mem_singleton.1 hb]; exact htime a ha
  · obtain ⟨k, hk⟩ := hc fillId component
    refine ⟨k, hk.linear, fun id c => ?_, hk.ascending⟩
    rw [← hk.stored id c, hmem]; constructor
    · rintro ⟨hold | ⟨_, rfl⟩, hck⟩
      · exact ⟨hold, hck⟩
      · exact absurd hck hkey
    · exact fun ⟨hold, hck⟩ => ⟨.inl hold, hck⟩

theorem CostChain.recorded_le (h : CostChain contentId s fillId component l) {old a : CostItem}
    (hold : l.getLast? = some old) (ha : a ∈ l) : a.recordedAt ≤ old.recordedAt := by
  obtain ⟨k, rfl⟩ := List.getLast?_eq_some_iff.1 hold
  rcases List.mem_append.1 ha with ha | ha
  · exact (List.pairwise_append.1 h.ascending).2.2 a ha old (List.mem_singleton.2 rfl)
  · rw [List.mem_singleton.1 ha]

end Chain

/-! ## A receipt -/

theorem recordCost_chained (item : CostItem) (fill : Fill) :
    Moves (ChainsKept contentId) (recordCost contentId item fill) := fun s u s' h hc => by
  obtain ⟨l, hl⟩ := hc item.fillId item.component
  have hput : ∀ t, put (contentId (.cost item)) (.cost item) s = .ok u t →
      item.revision = l.length + 1 →
      item.supersedes = (l.getLast?.map fun c => contentId (.cost c)) →
      (∀ a ∈ l, a.recordedAt ≤ item.recordedAt) → CostsChained contentId t := by
    intro t ht hrevision hsupersedes htime
    rcases put_costs ht with hsame | hcosts
    · exact hsame.kept hc
    · exact CostChain.append hc hl hrevision hsupersedes htime hcosts
  unfold recordCost at h
  rw [bind_ok] at h
  obtain ⟨_, s₁, hrequire, h⟩ := h
  obtain ⟨_, rfl⟩ := require_ok.1 hrequire
  rw [bind_ok] at h
  obtain ⟨s₂, s₃, hget, h⟩ := h
  obtain ⟨rfl, rfl⟩ := hget
  rw [hl.current] at h
  cases hlast : l.getLast? with
  | none =>
    rw [hlast] at h
    rw [bind_ok] at h
    obtain ⟨_, s₄, hfirst, h⟩ := h
    obtain ⟨⟨hone, hnone⟩, rfl⟩ := require_ok.1 hfirst
    rw [List.getLast?_eq_none_iff] at hlast
    subst hlast
    exact hput s' h hone hnone fun a ha => by cases ha
  | some old =>
    rw [hlast] at h
    dsimp only at h
    split at h
    · obtain ⟨_, rfl⟩ := pure_ok.1 h
      exact hc
    rw [bind_ok] at h
    obtain ⟨_, s₄, hnext, h⟩ := h
    obtain ⟨⟨hrevision, hsupersedes, htime⟩, rfl⟩ := require_ok.1 hnext
    have hnumber := hl.linear.last hlast
    refine hput s' h ?_ ?_ fun a ha => ?_
    · rw [hrevision, hnumber]
    · rw [hsupersedes, hlast]
      rfl
    · exact le_trans (hl.recorded_le hlast ha) htime

/-! ## Imports -/

theorem dirty_costs (lots : List String) (t : Option Int) (b : Bool) :
    Moves CostsSame (dirty lots t b) := (dirty_notified lots t b).mono fun _ _ => notified_costs

theorem importCost_chained (e : BrokerEvent) (i : OrderIntent) (item : CostItem) :
    Moves (ChainsKept contentId) (importCost contentId e i item) := by
  refine Moves.get.bind fun s => ?_; split
  · refine (Moves.require _ _).bind fun _ => (Moves.require _ _).bind fun _ =>
      (Moves.require _ _).bind fun _ => ?_
    split
    · exact recordCost_chained item _
    · have hrefusal : ∀ r, (Document.acquisition r).kind ≠ .cost := nofun
      exact (put_costsSame _ _ (hrefusal _)).mono fun _ _ => CostsSame.kept
  · exact Moves.throw _

theorem chainsKept_import : ImportKinds contentId (ChainsKept contentId) where
  payload e i := by
    unfold importPayload; split
    · exact (adopt_evolves _ _).zoom fun s t _ => CostsSame.kept rfl
    · refine Moves.get.bind fun s => ?_; split
      · exact Moves.throw _
      · refine (Moves.require _ _).bind fun _ => Moves.bind ?_ fun _ => Moves.pure _
        exact (recordFill_evolves _).zoom fun s t _ => CostsSame.kept rfl
    · exact importCost_chained e i _
    · have hactivity : ∀ a, (Document.cashActivity a).kind ≠ .cost := nofun
      exact Moves.get.bind fun s => (Moves.require _ _).bind fun _ =>
        (Moves.require _ _).bind fun _ => (Moves.require _ _).bind fun _ =>
          (put_costsSame _ _ (hactivity _)).mono fun _ _ => CostsSame.kept
  ledger _ _ _ := CostsSame.kept rfl
  source id e :=
    have hsource : (Document.source e).kind ≠ .cost := nofun
    (put_costsSame id _ hsource).mono fun _ _ => CostsSame.kept
  cursors _ _ := CostsSame.kept rfl
  revocations _ _ := CostsSame.kept rfl
  statuses _ _ _ := CostsSame.kept rfl
  dirty lots t b := (dirty_costs lots t b).mono fun _ _ => CostsSame.kept

/-! ## Runs -/

inductive CostLabel
  /-- A transaction around `record_cost`. -/
  | receipt (item : CostItem) (fill : Fill)
  | importBatch (events : List BrokerEvent)
  /-- Any write that adds no cost. -/
  | other

inductive CostStep (contentId : ContentId) : CoreStore → CostLabel → CoreStore → Prop
  | receipt (s : CoreStore) (item : CostItem) (fill : Fill) :
      CostStep contentId s (.receipt item fill) (after (immediate (recordCost contentId item fill)) s)
  | importBatch (s : CoreStore) (events : List BrokerEvent) :
      CostStep contentId s (.importBatch events) (after (importBrokerEvents contentId events) s)
  | other {s s' : CoreStore} : CostsSame s s' → CostStep contentId s .other s'

/-- From a store without costs. -/
def costReceipts (contentId : ContentId) : LTS CoreStore CostLabel where
  init s := s.costs = []
  step := CostStep contentId

theorem costsChained_inductive (contentId : ContentId) :
    (costReceipts contentId).Inductive (CostsChained contentId) where
  init s h fillId component := by
    refine ⟨[], .nil, fun id c => ?_, List.Pairwise.nil⟩
    rw [show s.costs = [] from h]
    exact ⟨fun ⟨hmem, _⟩ => (by cases hmem), fun ⟨hmem, _⟩ => (by cases hmem)⟩
  step s l s' h hst := by
    cases hst with
    | receipt item fill => exact (recordCost_chained item fill).after s h
    | importBatch events => exact chainsKept_import.after events s h
    | other hsame => exact hsame.kept h

/-! ## Reading at a cutoff -/

section Chain

variable {s : CoreStore} {fillId : String} {component : CostComponent} {l : List CostItem}

theorem costs_id_inj {id : String} {a b : CostItem} (ha : (id, a) ∈ s.costs)
    (hb : (id, b) ∈ s.costs) : a = b := by
  unfold CoreStore.costs at ha hb
  simp only [CoreStore.mem_documentsOf, Document.cost?_eq_some] at ha hb
  obtain ⟨_, ha, rfl⟩ := ha; obtain ⟨_, hb, rfl⟩ := hb
  have hga := Table.get?_key.2 ha; have hgb := Table.get?_key.2 hb
  have hkey : DocRow.key ⟨id, .cost a⟩ = DocRow.key ⟨id, .cost b⟩ := rfl
  rw [hkey, hgb] at hga; cases hga; rfl

section

variable (h : CostChain contentId s fillId component l)
include h

theorem CostChain.no_fork {a b : CostItem}
    (ha : a ∈ l) (hb : b ∈ l) (hp : a.supersedes = b.supersedes) : a = b := by
  refine h.linear.no_fork (fun x hx y hy hname => ?_) ha hb hp
  have hxs := ((h.stored _ x).2 ⟨hx, rfl⟩).1
  have hys := ((h.stored _ y).2 ⟨hy, rfl⟩).1
  have hid : contentId (.cost x) = contentId (.cost y) := hname; rw [hid] at hxs
  exact costs_id_inj hxs hys

theorem CostChain.available (cutoff : Int) (a : CostItem) : a ∈ (s.costs.map (·.2)).filter (fun c =>
        decide (c.fillId = fillId ∧ c.component = component ∧ c.recordedAt ≤ cutoff)) ↔
      a ∈ l ∧ a.recordedAt ≤ cutoff := by
  have hitems := h.items (p := fun c => decide (c.recordedAt ≤ cutoff)) a
  simp only [← Bool.decide_and, and_assoc, decide_eq_true_eq] at hitems
  exact hitems

/-- `current_costs` at a cutoff is the last item available there. -/
theorem CostChain.costAt (cutoff : Int) : costAt s cutoff fillId component =
      (l.filter fun c => decide (c.recordedAt ≤ cutoff)).getLast? := by
  refine latest_filter h.linear h.ascending (fun a b hab hb => ?_) fun a => ?_
  · exact decide_eq_true (le_trans hab (of_decide_eq_true hb))
  · rw [h.available, decide_eq_true_eq]

theorem CostChain.costAt_mono {c c' : Int}
    (hc : c ≤ c') {a : CostItem} (ha : L4.costAt s c fillId component = some a) :
    ∃ b, L4.costAt s c' fillId component = some b ∧ a.revision ≤ b.revision := by
  rw [h.costAt] at ha
  obtain ⟨hal, hac⟩ := List.mem_filter.1 (List.mem_of_getLast? ha)
  have hitem := (h.available c' a).2 ⟨hal, le_trans (of_decide_eq_true hac) hc⟩
  rcases latest_spec (·.revision) ((s.costs.map (·.2)).filter fun x =>
    decide (x.fillId = fillId ∧ x.component = component ∧ x.recordedAt ≤ c')) with
    ⟨_, hempty⟩ | ⟨b, _, hb, hmax⟩
  · rw [hempty] at hitem; cases hitem
  · exact ⟨b, hb, hmax a hitem⟩

end

end Chain

/-- **Linear cost chains.** Whatever receipts arrive, alone or in imports, in any order
and with any recorded times: the items of a fill's component are one chain numbered
`1..n`, each naming its predecessor, in order of time, without a fork. So a read at a
cutoff returns the last item available there, and its revision never decreases as the
cutoff grows. -/
theorem cost_chains (contentId : ContentId) {s : CoreStore}
    (h : (costReceipts contentId).Reachable s) (fillId : String) (component : CostComponent) :
    ∃ l, CostChain contentId s fillId component l ∧
      (∀ a ∈ l, ∀ b ∈ l, a.supersedes = b.supersedes → a = b) ∧
      (∀ cutoff, costAt s cutoff fillId component =
        (l.filter fun c => decide (c.recordedAt ≤ cutoff)).getLast?) ∧
      ∀ c c' a, c ≤ c' → costAt s c fillId component = some a →
        ∃ b, costAt s c' fillId component = some b ∧ a.revision ≤ b.revision := by
  obtain ⟨l, hl⟩ := (costsChained_inductive contentId).reachable h fillId component
  exact ⟨l, hl, fun a ha b hb => hl.no_fork ha hb, hl.costAt,
    fun c c' a hc ha => hl.costAt_mono hc ha⟩

/-! ## Three receipts for one fill -/

def revisionDigest : ContentId
  | .cost item => "cost:" ++ item.fillId ++ "/" ++ toString item.revision
  | c => labelDigest c

/-- A correction of the fill's first fee. -/
def correctedFee (recordedAt : Int) : CostItem where
  recordedAt := recordedAt
  releaseId := "rel"
  evidenceLane := .syntheticTest
  fillId := "F1"
  amount := some 2
  source := .brokerReported
  documentId := some "statement"
  effectiveStart := 0
  effectiveEnd := 100
  revision := 2
  supersedes := some "cost:F1/1"
  effective_le := (by decide : (100 : Int) ≥ 0)
  valid := ⟨by decide, nofun, by decide, nofun, by decide, by decide, by decide⟩

def receivedAfter (s : CoreStore) (item : CostItem) : CoreStore :=
  after (immediate (recordCost revisionDigest item (wholeFill "F1" "B1" .buy 5))) s

def receivedFirst : CoreStore := receivedAfter { config := paperConfig } (lateFee "F1")

/-- The correction is recorded at thirty; one backdated to ten was refused before it. -/
def receivedBoth : CoreStore :=
  receivedAfter (receivedAfter receivedFirst (correctedFee 10)) (correctedFee 30)

theorem cost_chains_received : receivedAfter receivedFirst (correctedFee 10) = receivedFirst ∧
      (costAt receivedBoth 25 "F1" .fee).map (·.revision) = some 1 ∧
      (costAt receivedBoth 35 "F1" .fee).map (·.revision) = some 2 ∧
      ∃ l, CostChain revisionDigest receivedBoth "F1" .fee l := by
  have hreceipt : ∀ s item, (costReceipts revisionDigest).step s
      (.receipt item (wholeFill "F1" "B1" .buy 5)) (receivedAfter s item) :=
    fun _ _ => .receipt _ _ _
  have hreach : (costReceipts revisionDigest).Reachable receivedBoth :=
    ⟨{ config := paperConfig }, _, rfl,
      .cons (hreceipt _ _) (.cons (hreceipt _ _) (.cons (hreceipt _ _) (.nil _)))⟩
  obtain ⟨l, hl, _⟩ := cost_chains revisionDigest hreach "F1" .fee
  exact ⟨by decide, by decide, by decide, l, hl⟩

end Quantbot.L4
