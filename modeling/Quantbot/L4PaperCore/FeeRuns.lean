import Quantbot.L4PaperCore.ClosedOrders
import Quantbot.L4PaperCore.FeeCharges

/-!
# No fee is charged twice

Calls of `retain_order_fee_allocations` among the other writers of the store
(`paper_core/crypto_fee_allocation.py:410-575`).

* `Assigned`: every allocation is the one its activity is assigned to.
* `Bounded`: what a lot was charged, its entry order bought.
-/
namespace Quantbot.L4.Fees

open Core Txn L1 L2

variable {contentId : FeeContentId} {Q : CryptoFeeActivity → Prop}

/-! ## What a call keeps -/

/-- The order of programs that keep a property. -/
def Keeps (P : FeeStore → Prop) (s s' : FeeStore) : Prop := P s → P s'

instance (P : FeeStore → Prop) : IsPreorder FeeStore (Keeps P) where
  refl _ h := h
  trans _ _ _ h h' hs := h' (h hs)

/-- What is known of a source while its rows are allocated. -/
structure Held (contentId : FeeContentId) (incoming source : OrderFeeQueryEvidence)
    (basis : OwnedFeeBasis) (t : Int) (s : FeeStore) : Prop where
  like : { source with recordedAt := 0 } = { incoming with recordedAt := 0 }
  based : source.basis = basis
  recorded : source.recordedAt ≤ t
  valid : queryValid contentId s source = true
  entry : entryBasis contentId s basis.lotId source.recordedAt false = .ok basis
  stored : s.document? (contentId (.document (.query source))) = some (.query source)

theorem entryBasis_bareLedger (s : FeeStore) (lot : String) (t : Int) :
    entryBasis contentId (bareLedger s) lot t false = entryBasis contentId s lot t false := rfl

theorem queryValid_bareLedger (s : FeeStore) (source : OrderFeeQueryEvidence) :
    queryValid contentId (bareLedger s) source = queryValid contentId s source := rfl

variable {s s' : FeeStore} {t : Int} {incoming source : OrderFeeQueryEvidence}
  {basis : OwnedFeeBasis}

theorem Held.kept (h : Held contentId incoming source basis t s)
    (hledger : bareLedger s' = bareLedger s)
    (hdocuments : ∀ r ∈ s.acquisitions.rows, r ∈ s'.acquisitions.rows) :
    Held contentId incoming source basis t s' where
  like := h.like
  based := h.based
  recorded := h.recorded
  valid := by
    rw [← queryValid_bareLedger, hledger, queryValid_bareLedger]
    exact h.valid
  entry := by
    rw [← entryBasis_bareLedger, hledger, entryBasis_bareLedger]
    exact h.entry
  stored := document?_kept hdocuments h.stored

theorem entryBasis_exclusive {lot : String} (h : entryBasis contentId s lot t true = .ok basis) :
    entryBasis contentId s lot t false = .ok basis := by
  unfold entryBasis at *; split at h
  · cases h
  split at h
  · cases h
  · exact h

variable {a : OrderFeeAllocation} {raw : RawActivity}

theorem RowAllocated.bareLedger (h : RowAllocated contentId source basis t raw a s s') :
    bareLedger s' = bareLedger s := by
  obtain ⟨_, _, s₁, _, _, hretain, _, _, _, hall⟩ := h.allocated
  have haside : Aside contentId (fun _ => True) s s₁ :=
    retainFeeActivity_aside trivial _ _ _ _ hretain
  exact hall.ledger.trans haside.bareLedger

/-- The fee rows of a source read as `Q`. -/
def ReadAs (contentId : FeeContentId) (Q : CryptoFeeActivity → Prop)
    (source : OrderFeeQueryEvidence) : Prop :=
  ∀ raw ∈ sourceRows source, raw.activityType = some "CFEE" → ∀ sourceId read,
    parse contentId raw source.symbolAliases sourceId = .ok read → Q read

theorem sourceRows_like (h : { source with recordedAt := 0 } = { incoming with recordedAt := 0 }) :
    sourceRows source = sourceRows incoming := by
  have hpages : source.pages = incoming.pages := congrArg (·.pages) h
  unfold sourceRows
  rw [hpages]

theorem ReadAs.like (h : ReadAs contentId Q incoming)
    (hlike : { source with recordedAt := 0 } = { incoming with recordedAt := 0 }) :
    ReadAs contentId Q source := by
  intro raw hraw hkind sourceId read hread
  have haliases : source.symbolAliases = incoming.symbolAliases :=
    congrArg (·.symbolAliases) hlike
  rw [sourceRows_like hlike] at hraw
  rw [haliases] at hread
  exact h raw hraw hkind sourceId read hread

theorem readAs_true (source : OrderFeeQueryEvidence) : ReadAs contentId (fun _ => True) source :=
  fun _ _ _ _ _ _ => trivial

theorem RowAllocated.noted (h : RowAllocated contentId source basis t raw a s s')
    (hsource : ReadAs contentId Q source) (hraw : raw ∈ sourceRows source)
    (hkind : raw.activityType = some "CFEE") : Noted contentId Q s s' := by
  obtain ⟨read, _, s₁, _, hread, hretain, _, _, _, hall⟩ := h.allocated
  have haside : Aside contentId Q s s₁ :=
    retainFeeActivity_aside (hsource raw hraw hkind _ read hread) _ _ _ _ hretain
  exact trans_of (Noted contentId Q) haside.noted (hall.noted.mono fun _ h => h.elim)

/-- What a call has to keep of a property, one write and one allocated row at a time. -/
structure Safe (contentId : FeeContentId) (Q : CryptoFeeActivity → Prop)
    (sources : List OrderFeeQueryEvidence) (t : Int) (P : FeeStore → Prop) : Prop where
  readAs : ∀ incoming ∈ sources, ReadAs contentId Q incoming
  aside : ∀ s s', Aside contentId Q s s' → P s → P s'
  row : ∀ incoming ∈ sources, ∀ source basis raw a s s',
    Held contentId incoming source basis t s → raw ∈ sourceRows source →
    raw.activityType = some "CFEE" → RowAllocated contentId source basis t raw a s s' →
    P s → P s'

section keeps

variable {sources : List OrderFeeQueryEvidence} {t : Int} {P : FeeStore → Prop}

variable {incoming : OrderFeeQueryEvidence} {source : OrderFeeQueryEvidence}

theorem allocateRows_keeps (hP : Safe contentId Q sources t P)
    {basis : OwnedFeeBasis} (hin : incoming ∈ sources) {rows : List RawActivity}
    (hrows : ∀ raw ∈ rows, raw ∈ sourceRows source ∧ raw.activityType = some "CFEE") :
    Moves (Keeps fun s => P s ∧ Held contentId incoming source basis t s)
      (allocateRows contentId source basis t rows) := by
  induction rows with
  | nil => exact Moves.pure _
  | cons raw rows ih =>
    have hraw := hrows raw (List.mem_cons_self ..)
    refine Moves.bind (fun s o s' h ⟨hs, hheld⟩ => ?_) fun _ =>
      Moves.bind (ih fun r hr => hrows r (List.mem_cons_of_mem _ hr)) fun _ => Moves.pure _
    have hsource := (hP.readAs incoming hin).like hheld.like
    rcases allocateRow_ok (hsource raw hraw.1 hraw.2 _) h with ⟨_, haside⟩ | ⟨a, _, hrow⟩
    · exact ⟨hP.aside s s' haside hs, hheld.kept haside.bareLedger haside.noted.documents⟩
    · exact ⟨hP.row incoming hin source basis raw a s s' hheld hraw.1 hraw.2 hrow hs,
        hheld.kept hrow.bareLedger (hrow.noted hsource hraw.1 hraw.2).documents⟩

theorem sourceOf_like {s : FeeStore} (h : sourceOf contentId s incoming = .ok source) :
    { source with recordedAt := 0 } = { incoming with recordedAt := 0 } := by
  unfold sourceOf at h; split at h
  · cases h; rfl
  obtain ⟨old, _, h⟩ := except_bind_ok.1 h; cases h; split
  · assumption
  · rfl

section

variable (hP : Safe contentId Q sources t P)
include hP

theorem retainSource_keeps (hin : incoming ∈ sources) :
    Moves (Keeps P) (retainSource contentId incoming t) := by
  intro s added s' h hs; unfold retainSource at h; rw [bind_ok] at h
  obtain ⟨source, s₀, hread, h⟩ := h; obtain ⟨hsource, rfl⟩ := reads_ok.1 hread
  rw [bind_ok] at h; obtain ⟨_, s₁, hput, h⟩ := h
  have hs₁ := hP.aside _ _ (putQuery_aside _ _ _ _ hput) hs; rw [bind_ok] at h
  obtain ⟨_, s₂, hmove, h⟩ := h
  have hmoved : Aside contentId Q s₁ s₂ := moveCursors_aside _ _ _ _ _ hmove
  have hs₂ := hP.aside _ _ hmoved hs₁; rw [bind_ok] at h
  obtain ⟨_, s₃, hget, h⟩ := h; obtain ⟨rfl, rfl⟩ := get_ok.1 hget; split at h
  · obtain ⟨_, rfl⟩ := pure_ok.1 h; exact hs₂
  rename_i hvalid; rw [bind_ok] at h; obtain ⟨basis, s₄, hbasis, h⟩ := h
  obtain ⟨hentry, rfl⟩ := reads_ok.1 hbasis; rw [bind_ok] at h
  obtain ⟨_, s₅, hrequire, h⟩ := h
  obtain ⟨⟨rfl, hrecorded⟩, rfl⟩ := require_ok.1 hrequire
  refine (allocateRows_keeps hP hin (fun raw hraw => ?_) _ _ _ h ⟨hs₂, ?_⟩).1
  · exact ⟨(List.mem_filter.1 hraw).1, of_decide_eq_true (List.mem_filter.1 hraw).2⟩
  exact
    { like := sourceOf_like hsource
      based := rfl
      recorded := hrecorded
      valid := Bool.not_eq_false _ ▸ hvalid
      entry := entryBasis_exclusive hentry
      stored := hmoved.document? (putFee_stored hput) }

theorem retainSources_keeps {some' : List OrderFeeQueryEvidence}
    (hin : ∀ incoming ∈ some', incoming ∈ sources) :
    Moves (Keeps P) (retainSources contentId t some') := by
  induction some' with
  | nil => exact Moves.pure _
  | cons incoming rest ih =>
    refine Moves.bind (retainSource_keeps hP (hin _ (List.mem_cons_self ..))) fun _ => ?_
    exact Moves.bind (ih fun i hi => hin i (List.mem_cons_of_mem _ hi)) fun _ => Moves.pure _

theorem retainOrderFeeAllocations_keeps (observed : List RawActivity) :
    Moves (Keeps P) (retainOrderFeeAllocations contentId sources t observed) := by
  refine Moves.bind (retainSources_keeps hP fun _ h => h) fun _ => ?_
  refine Moves.bind (Moves.forM (fun raw => ?_) _) fun _ => Moves.pure _
  exact (recordGap_aside t raw).mono hP.aside

end

end keeps

/-! ## One lot for an activity -/

namespace FeeStore

def allocation? (s : FeeStore) (id : String) : Option OrderFeeAllocation :=
  (s.document? id).bind FeeDocument.allocation?

theorem allocation?_eq {s : FeeStore} {id : String} {a : OrderFeeAllocation} :
    s.allocation? id = some a ↔ s.document? id = some (.allocation a) := by
  unfold allocation?; rw [Option.bind_eq_some_iff]
  refine ⟨fun ⟨d, hd, ha⟩ => ?_, fun h => ⟨_, h, rfl⟩⟩
  rw [allocation?_some] at ha; rw [hd, ha]

end FeeStore

/-- A fee cursor is of a fee that is filed under it. -/
def Keyed (contentId : FeeContentId) (s : FeeStore) : Prop :=
  ∀ id c, s.feeCursor? contentId id = some c →
    ∃ f, s.document? c.eventId = some (.fee f) ∧
      c.sourceId = contentId (.feeCursor s.account f.activityId)

theorem Noted.keyed (h : Noted contentId Q s s') (hs : Keyed contentId s) : Keyed contentId s' := by
  intro id c hc; rw [h.account]; rcases h.moved id c hc with hold | hnew
  · obtain ⟨f, hf, hfiled⟩ := hs id c hold
    exact ⟨f, document?_kept h.documents hf, hfiled⟩
  · exact hnew

/-- The allocation of an index row. Its activity is assigned to it, and was retained with a
symbol, so that no later reading replaces it. -/
structure AssignedRow (contentId : FeeContentId) (s : FeeStore) (r : IndexRow)
    (a : OrderFeeAllocation) : Prop where
  stored : s.document? r.id = some (.allocation a)
  lot : a.lotId = r.reference
  recorded : a.recordedAt = r.availableAt
  based : ∃ source, s.document? a.queryDocumentId = some (.query source) ∧
    source.basis.lotId = a.lotId ∧ source.basis.orderId = a.orderId
  assigned : (s.activityIndex.get? (contentId (.activity s.account a.activityId))).map
    (·.reference) = some r.id
  retained : ∃ c f, s.feeCursor? contentId a.activityId = some c ∧
    s.document? c.eventId = some (.fee f) ∧ f.symbol.isSome = true ∧ f.activityId = a.activityId

variable {r : IndexRow}

theorem AssignedRow.kept (h : AssignedRow contentId s r a) (hnoted : Noted contentId Q s s')
    (hindex : ∀ x ∈ s.activityIndex.rows, x ∈ s'.activityIndex.rows) :
    AssignedRow contentId s' r a where
  stored := document?_kept hnoted.documents h.stored
  lot := h.lot
  recorded := h.recorded
  based := by
    obtain ⟨source, hsource, hbasis⟩ := h.based
    exact ⟨source, document?_kept hnoted.documents hsource, hbasis⟩
  assigned := by
    obtain ⟨x, hx, hreference⟩ := Option.map_eq_some_iff.1 h.assigned
    rw [hnoted.account, Table.get?_kept hindex hx, Option.map_some, hreference]
  retained := by
    obtain ⟨c, f, hc, hf, hsome, hid⟩ := h.retained
    exact ⟨c, f, hnoted.kept _ c f hc hf hsome, document?_kept hnoted.documents hf, hsome, hid⟩

/-- Every allocation is the one its activity is assigned to. -/
def Assigned (contentId : FeeContentId) (s : FeeStore) : Prop :=
  Keyed contentId s ∧ ∀ r ∈ s.allocationIndex.rows, ∃ a, AssignedRow contentId s r a

theorem Assigned.kept (h : Assigned contentId s) (hnoted : Noted contentId Q s s')
    (hactivity : s'.activityIndex = s.activityIndex)
    (hallocation : s'.allocationIndex = s.allocationIndex) : Assigned contentId s' := by
  refine ⟨hnoted.keyed h.1, fun r hr => ?_⟩; rw [hallocation] at hr
  obtain ⟨a, ha⟩ := h.2 r hr; refine ⟨a, ha.kept hnoted fun x hx => ?_⟩
  rw [hactivity]; exact hx

theorem retainFeeActivity_cursor {e f : CryptoFeeActivity}
    (h : retainFeeActivity contentId e t s = .ok f s') (hs : Keyed contentId s) :
    ∃ c, s'.feeCursor? contentId f.activityId = some c ∧
      s'.document? c.eventId = some (.fee f) := by
  unfold FeeStore.feeCursor?
  rcases retainFeeActivity_ok h with ⟨rfl, hstored⟩ | ⟨rfl, _, _, c, hc, hf⟩
  · refine ⟨⟨contentId (.feeCursor s.account f.activityId), t, contentId (.document (.fee f))⟩,
      ?_, hstored.stored⟩
    have haccount : s'.account = s.account := congrArg (·.core.config.accountId) hstored.same
    rw [haccount, hstored.cursors, Table.get?_upsert, if_pos rfl]
  obtain ⟨f', hf', hfiled⟩ := hs _ c hc; cases hf.symm.trans hf'
  rw [(Table.get?_some hc).2] at hfiled; rw [hfiled] at hc; exact ⟨c, hc, hf⟩

theorem RowAllocated.assignedRow (h : RowAllocated contentId source basis t raw a s s')
    (hheld : Held contentId incoming source basis t s) (hnoted : Noted contentId Q s s')
    (hs : Keyed contentId s) :
    AssignedRow contentId s' ⟨contentId (.document (.allocation a)), basis.lotId, t⟩ a := by
  obtain ⟨read, fee, s₁, q, _, hretain, hvalid, _, _, hall⟩ := h.allocated
  obtain ⟨hq, rfl⟩ := hall.allocation
  have haccount : s'.account = s₁.account := bareLedger_account hall.ledger
  refine ⟨hall.stored, rfl, rfl, ⟨source, ?_, ?_, ?_⟩, ?_, ?_⟩
  · exact document?_kept hnoted.documents hheld.stored
  · exact congrArg (·.lotId) hheld.based
  · exact congrArg (·.orderId) hheld.based
  · rw [haccount, hall.activityIndex]
    show Option.map _ (Table.get? _ (contentId (.activity s₁.account fee.activityId))) = _
    rw [Table.get?_insert hall.fresh, if_pos rfl]; rfl
  · obtain ⟨c, hc, hf⟩ := retainFeeActivity_cursor hretain hs
    have hsome : fee.symbol.isSome = true := by
      rw [hvalid.2.1]; rfl
    exact ⟨c, fee, hall.noted.kept _ c fee hc hf hsome,
      document?_kept hall.noted.documents hf, hsome, rfl⟩

variable {sources : List OrderFeeQueryEvidence}

theorem assigned_safe (hsources : ∀ incoming ∈ sources, ReadAs contentId Q incoming) (t : Int) :
    Safe contentId Q sources t (Assigned contentId) where
  readAs := hsources
  aside s s' h hs := hs.kept h.noted h.activityIndex h.allocationIndex
  row incoming hin source basis raw a s s' hheld hraw hkind hrow hs := by
    have hnoted := hrow.noted ((hsources incoming hin).like hheld.like) hraw hkind
    refine ⟨hnoted.keyed hs.1, fun r hr => ?_⟩
    have hnew := hrow.assignedRow hheld hnoted hs.1
    obtain ⟨_, fee, s₁, _, _, hretain, _, _, _, hall⟩ := hrow.allocated
    have haside : Aside contentId (fun _ => True) s s₁ :=
      retainFeeActivity_aside trivial _ _ _ _ hretain
    rw [hall.allocationIndex, Table.mem_insert hall.freshId, haside.allocationIndex] at hr
    rcases hr with hr | rfl
    · obtain ⟨b, hb⟩ := hs.2 r hr
      refine ⟨b, hb.kept hnoted fun x hx => ?_⟩
      rw [hall.activityIndex, haside.activityIndex]
      exact Table.mem_insert_of_mem hx
    · exact ⟨a, hnew⟩

theorem Assigned.unique (h : Assigned contentId s) {r' : IndexRow} {a' : OrderFeeAllocation}
    (hr : r ∈ s.allocationIndex.rows) (hr' : r' ∈ s.allocationIndex.rows)
    (ha : s.allocation? r.id = some a) (ha' : s.allocation? r'.id = some a')
    (hsame : a.activityId = a'.activityId) : r = r' := by
  obtain ⟨b, hb⟩ := h.2 r hr; obtain ⟨b', hb'⟩ := h.2 r' hr'
  cases hb.stored.symm.trans (FeeStore.allocation?_eq.1 ha)
  cases hb'.stored.symm.trans (FeeStore.allocation?_eq.1 ha')
  have hassigned := hb.assigned; rw [hsame, hb'.assigned] at hassigned
  exact Table.eq_of_key hr hr' (Option.some.inj hassigned).symm

/-! ## The quantity that was bought -/

/-- The fee units of a lot's allocations. -/
def FeeStore.charged (s : FeeStore) (lot : String) : ℚ :=
  ((s.allocationIndex.rows.filter (·.reference = lot)).map fun r =>
    (s.allocation? r.id).elim 0 (·.quantity)).sum

/-- A lot was charged no more than the fills of its entry order bought. -/
def Bounded (s : FeeStore) : Prop :=
  ∀ r ∈ s.allocationIndex.rows, ∀ a, s.allocation? r.id = some a →
    s.charged r.reference ≤ s.core.filled a.orderId

/-- At `t` the index shows the allocations the lots of the sources have. -/
def OnTime (sources : List OrderFeeQueryEvidence) (t : Int) (s : FeeStore) : Prop :=
  ∀ incoming ∈ sources, ∀ r ∈ s.allocationIndex.rows, r.reference = incoming.basis.lotId →
    textRank r.availableAt ≤ textRank t

theorem Assigned.allocation?_kept (h : Assigned contentId s)
    (hdocuments : ∀ r ∈ s.acquisitions.rows, r ∈ s'.acquisitions.rows)
    (hr : r ∈ s.allocationIndex.rows) : s'.allocation? r.id = s.allocation? r.id := by
  obtain ⟨a, ha⟩ := h.2 r hr; rw [FeeStore.allocation?_eq.2 ha.stored]
  exact FeeStore.allocation?_eq.2 (document?_kept hdocuments ha.stored)

theorem Assigned.charged_kept (h : Assigned contentId s)
    (hdocuments : ∀ r ∈ s.acquisitions.rows, r ∈ s'.acquisitions.rows)
    (hindex : s'.allocationIndex = s.allocationIndex) (lot : String) :
    s'.charged lot = s.charged lot := by
  unfold FeeStore.charged; rw [hindex]
  refine congrArg List.sum (List.map_congr_left fun r hr => ?_)
  rw [h.allocation?_kept hdocuments (List.mem_filter.1 hr).1]

theorem Bounded.kept (h : Bounded s) (hassigned : Assigned contentId s)
    (hdocuments : ∀ r ∈ s.acquisitions.rows, r ∈ s'.acquisitions.rows)
    (hindex : s'.allocationIndex = s.allocationIndex)
    (hfills : ∀ f ∈ s.core.fills.rows, f ∈ s'.core.fills.rows) : Bounded s' := by
  intro r hr a ha; rw [hindex] at hr
  rw [hassigned.allocation?_kept hdocuments hr] at ha
  rw [hassigned.charged_kept hdocuments hindex]
  exact (h r hr a ha).trans (filled_mono hfills)

variable {sourceId : String}

theorem Allocated.charged {fee : CryptoFeeActivity} {q : ℚ}
    (h : Allocated contentId sourceId basis fee t q a s s') (hs : Assigned contentId s)
    (lot : String) :
    s'.charged lot = s.charged lot + if basis.lotId = lot then a.quantity else 0 := by
  have hold : ∀ r ∈ s.allocationIndex.rows, s'.allocation? r.id = s.allocation? r.id :=
    fun r hr => hs.allocation?_kept h.noted.documents hr
  unfold FeeStore.charged
  rw [h.allocationIndex, Table.insert_rows h.freshId, List.filter_append, List.map_append,
    List.sum_append]
  congr 1
  · refine congrArg List.sum (List.map_congr_left fun r hr => ?_)
    rw [hold r (List.mem_filter.1 hr).1]
  · by_cases hlot : basis.lotId = lot
    · have hstored := FeeStore.allocation?_eq.2 h.stored; simp [hlot, hstored]
    · simp [hlot]

/-- Where the index shows all of a lot's allocations, a tally is what the lot was charged, and
all of them are of the lot's entry order. -/
theorem lotAssetFees_charged {lot : String} {fees : LotAssetFees}
    (h : lotAssetFees contentId s lot t = .ok fees)
    (htime : ∀ r ∈ s.allocationIndex.rows, r.reference = lot → textRank r.availableAt ≤ textRank t) :
    fees.quantity = s.charged lot ∧ ∀ r ∈ s.allocationIndex.rows, r.reference = lot →
      ∀ a, s.allocation? r.id = some a →
        ∃ o, entryOrder s.core lot = some o ∧ a.orderId = o.brokerOrderId := by
  obtain ⟨vs, hids, hall, hsum⟩ := lotAssetFees_ok h
  have hshown : shown s lot t = s.allocationIndex.rows.filter (·.reference = lot) := by
    unfold shown; refine List.filter_congr fun r hr => ?_; rw [decide_eq_decide]
    exact ⟨fun hr => hr.1, fun hlot => ⟨hlot, htime r hr hlot⟩⟩
  have hread : ∀ v ∈ vs, s.allocation? v.id = some v.allocation := fun v hv => by
    obtain ⟨_, source, raw, parsed, e, hdocument, _⟩ := verifyAllocation_ok (hall v hv)
    obtain ⟨d, hd, hkind, _⟩ := document_ok.1 hdocument
    rw [allocation?_some] at hkind; rw [FeeStore.allocation?_eq, hd, hkind]
  refine ⟨?_, fun r hr hlot a ha => ?_⟩
  · calc fees.quantity = (vs.map (·.allocation.quantity)).sum := hsum
      _ = (vs.map fun v => (s.allocation? v.id).elim 0 (·.quantity)).sum := by
        refine congrArg List.sum (List.map_congr_left fun v hv => ?_)
        rw [hread v hv]; rfl
      _ = (((shown s lot t).map (·.id)).map fun id =>
          (s.allocation? id).elim 0 (·.quantity)).sum := by
        rw [← hids, List.map_map]; rfl
      _ = s.charged lot := by
        rw [hshown, List.map_map]; rfl
  · have hmem : r.id ∈ vs.map (·.id) := by
      rw [hids, hshown]
      exact List.mem_map_of_mem (List.mem_filter.2 ⟨hr, decide_eq_true hlot⟩)
    obtain ⟨v, hv, hid⟩ := List.mem_map.1 hmem
    obtain ⟨_, source, raw, parsed, e, _, _, _, hbasis, _, _, _, hverified⟩ :=
      verifyAllocation_ok (hall v hv)
    obtain ⟨o, ho, horder, _⟩ := entryBasis_order hbasis
    have hsame := hread v hv; rw [hid, ha] at hsame; cases hsame
    exact ⟨o, ho, hverified.orderId.trans horder⟩

/-- What a call keeps: assignments, and the bound where it sees them all. -/
structure Charging (contentId : FeeContentId) (sources : List OrderFeeQueryEvidence) (t : Int)
    (s : FeeStore) : Prop where
  assigned : Assigned contentId s
  bounded : Bounded s
  onTime : OnTime sources t s

theorem charging_safe (hsources : ∀ incoming ∈ sources, ReadAs contentId Q incoming) (t : Int) :
    Safe contentId Q sources t (Charging contentId sources t) where
  readAs := hsources
  aside s s' h hs :=
    { assigned := (assigned_safe hsources t).aside s s' h hs.assigned
      bounded := by
        refine hs.bounded.kept hs.assigned h.noted.documents h.allocationIndex fun f hf => ?_
        rw [h.fills]
        exact hf
      onTime := fun incoming hin r hr => by
        rw [h.allocationIndex] at hr
        exact hs.onTime incoming hin r hr }
  row incoming hin source basis raw a s s' hheld hraw hkind hrow hs := by
    have hnoted := hrow.noted ((hsources incoming hin).like hheld.like) hraw hkind
    have hassigned' := (assigned_safe hsources t).row incoming hin source basis raw a s s' hheld
      hraw hkind hrow hs.assigned
    have hlot : basis.lotId = incoming.basis.lotId := by
      rw [← hheld.based]
      exact congrArg (·.basis.lotId) hheld.like
    obtain ⟨_, fee, s₁, q, _, hretain, _, _, _, hall⟩ := hrow.allocated
    have haside : Aside contentId (fun _ => True) s s₁ :=
      retainFeeActivity_aside trivial _ _ _ _ hretain
    have hassigned := hs.assigned.kept haside.noted haside.activityIndex haside.allocationIndex
    have hledger : bareLedger s' = bareLedger s := hrow.bareLedger
    have hrows : ∀ r ∈ s'.allocationIndex.rows, r ∈ s.allocationIndex.rows ∨
        r = ⟨contentId (.document (.allocation a)), basis.lotId, t⟩ := fun r hr => by
      rw [hall.allocationIndex, haside.allocationIndex] at hr
      exact Table.mem_of_mem_insert hr
    refine ⟨hassigned', fun r hr b hb => ?_, fun incoming' hin' r hr hreference => ?_⟩
    · have hfilled : s'.core.filled b.orderId = s.core.filled b.orderId := by
        unfold Store.filled Store.fillsOf
        rw [show s'.core.fills = s.core.fills from congrArg (·.core.fills) hledger]
      have hcharged := hall.charged hassigned r.reference
      rw [hs.assigned.charged_kept haside.noted.documents haside.allocationIndex] at hcharged
      rw [hcharged, hfilled]
      by_cases hsame : basis.lotId = r.reference
      · -- the lot that was charged: the writer tallied all of it
        rw [if_pos hsame, ← hsame]
        obtain ⟨fees, hfees, hwithin⟩ := hall.within
        obtain ⟨hquantity, horders⟩ := lotAssetFees_charged hfees fun r hr hreference => by
          rw [haside.allocationIndex] at hr
          exact hs.onTime incoming hin r hr (hreference.trans hlot)
        rw [hs.assigned.charged_kept haside.noted.documents haside.allocationIndex] at hquantity
        obtain ⟨o, ho, horder, _, hbought⟩ := entryBasis_order hheld.entry
        have hb' : b.orderId = basis.orderId := by
          rcases hrows r hr with hold | rfl
          · have hbs : s₁.allocation? r.id = some b := by
              rw [hs.assigned.allocation?_kept haside.noted.documents hold]
              rwa [hs.assigned.allocation?_kept hnoted.documents hold] at hb
            have hold₁ : r ∈ s₁.allocationIndex.rows := by
              rw [haside.allocationIndex]
              exact hold
            obtain ⟨o', ho', horder'⟩ := horders r hold₁ hsame.symm b hbs
            have hcore : entryOrder s₁.core basis.lotId = entryOrder s.core basis.lotId :=
              congrArg (fun x => entryOrder x.core basis.lotId) haside.bareLedger
            rw [hcore, ho] at ho'
            cases ho'
            rw [horder', horder]
          · cases (FeeStore.allocation?_eq.2 hall.stored).symm.trans hb
            obtain ⟨hq, rfl⟩ := hall.allocation
            rfl
        calc s.charged basis.lotId + a.quantity = fees.quantity + a.quantity := by rw [hquantity]
          _ ≤ basis.boughtQuantity := hwithin
          _ = s.core.filled b.orderId := by rw [hbought, hb']
      · rw [if_neg hsame, add_zero]
        rcases hrows r hr with hold | rfl
        · rw [hs.assigned.allocation?_kept hnoted.documents hold] at hb
          exact hs.bounded r hold b hb
        · exact absurd rfl hsame
    · rcases hrows r hr with hold | rfl
      · exact hs.onTime incoming' hin' r hold hreference
      · exact le_refl _

/-! ## Evidence that comes again -/

/-- A row of an activity that a lot was charged for. -/
def Charged (s : FeeStore) (raw : RawActivity) : Prop :=
  ∃ r ∈ s.allocationIndex.rows, ∃ a, s.allocation? r.id = some a ∧ raw.anyId = some a.activityId

/-- Only the place of a query changed, and its document is there. -/
structure Repolled (contentId : FeeContentId) (sources : List OrderFeeQueryEvidence)
    (s s' : FeeStore) : Prop where
  same : { s' with
    acquisitions := s.acquisitions
    queryCursors := s.queryCursors
    rotations := s.rotations } = s
  documents : ∀ d ∈ s.acquisitions.rows, d ∈ s'.acquisitions.rows
  queries : ∀ d ∈ s'.acquisitions.rows, d ∈ s.acquisitions.rows ∨
    ∃ source ∈ sources, d = ⟨contentId (.document (.query source)), .query source⟩

instance (sources : List OrderFeeQueryEvidence) :
    IsPreorder FeeStore (Repolled contentId sources) where
  refl _ := ⟨rfl, fun _ h => h, fun _ h => .inl h⟩
  trans s s' s'' h h' := by
    refine ⟨?_, fun d hd => h'.documents d (h.documents d hd), fun d hd => ?_⟩
    · exact (congrArg (fun x : FeeStore => { x with
        acquisitions := s.acquisitions
        queryCursors := s.queryCursors
        rotations := s.rotations }) h'.same).trans h.same
    · rcases h'.queries d hd with hd | hnew
      · exact h.queries d hd
      · exact .inr hnew

theorem Repolled.charged (h : Repolled contentId sources s s') (hraw : Charged s raw) :
    Charged s' raw := by
  obtain ⟨r, hr, a, ha, hid⟩ := hraw; refine ⟨r, ?_, a, ?_, hid⟩
  · rw [show s'.allocationIndex = s.allocationIndex from congrArg (·.allocationIndex) h.same]
    exact hr
  · rw [FeeStore.allocation?_eq] at *; exact document?_kept h.documents ha

variable {aliases : List (String × String)}

theorem parseFeeActivity_ok {f : CryptoFeeActivity}
    (h : parseFeeActivity contentId raw aliases sourceId = .ok f) :
    raw.anyId = some f.activityId ∧ f.rawDigest = contentId (.raw raw) ∧
      f.symbol = aliasOf aliases ((truthy raw.symbol).getD "") := by
  unfold parseFeeActivity at h; split at h
  · rename_i id kind hid _; by_cases hkind : kind ≠ "CFEE" ∧ kind ≠ "FEE"
    · rw [if_pos hkind] at h; cases h
    rw [if_neg hkind] at h; obtain ⟨_, _, h⟩ := except_bind_ok.1 h
    obtain ⟨_, _, h⟩ := except_bind_ok.1 h
    obtain ⟨_, _, h⟩ := except_bind_ok.1 h; dsimp only at h; split at h
    · cases h
    obtain ⟨_, _, h⟩ := except_bind_ok.1 h
    obtain ⟨_, _, h⟩ := except_bind_ok.1 h; cases h; exact ⟨hid, rfl, rfl⟩
  · cases h

theorem parse_ok {read : CryptoFeeActivity} : parse contentId raw aliases sourceId = .ok read ↔
      parseFeeActivity contentId raw aliases sourceId = .ok read := by
  unfold parse
  cases parseFeeActivity contentId raw aliases sourceId with
  | error e => exact ⟨nofun, nofun⟩
  | ok f => exact ⟨fun h => congrArg Except.ok (Except.ok.inj h),
      fun h => congrArg Except.ok (Except.ok.inj h)⟩

theorem allocateRow_repeat {o : Option String} (hs : Assigned contentId s) (hraw : Charged s raw)
    (h : allocateRow contentId source basis t raw s = .ok o s') : o = none ∧ s' = s := by
  obtain ⟨r, hr, a, ha, hid⟩ := hraw; obtain ⟨b, hb⟩ := hs.2 r hr
  cases hb.stored.symm.trans (FeeStore.allocation?_eq.1 ha)
  obtain ⟨c, f, hc, hf, hsome, hfiled⟩ := hb.retained; unfold allocateRow at h
  rw [bind_ok] at h; obtain ⟨read, s₀, hparse, h⟩ := h
  obtain ⟨hread, rfl⟩ := reads_ok.1 hparse
  have hreadId : read.activityId = a.activityId :=
    Option.some.inj ((parseFeeActivity_ok (parse_ok.1 hread)).1.symm.trans hid)
  rw [bind_ok] at h; obtain ⟨fee, s₁, hretain, h⟩ := h
  have hkept : s₁ = s₀ ∧ fee = f := by
    rcases retainFeeActivity_ok hretain with ⟨_, hstored⟩ | ⟨hsame, _, _, c', hc', hf'⟩
    · have hunread := hstored.unread c (hreadId ▸ hc) f hf
      rw [hunread] at hsome; cases hsome
    · rw [hreadId] at hc'; cases hc.symm.trans hc'; cases hf.symm.trans hf'
      exact ⟨hsame, rfl⟩
  obtain ⟨rfl, rfl⟩ := hkept; split at h
  · obtain ⟨rfl, rfl⟩ := pure_ok.1 h; exact ⟨rfl, rfl⟩
  rw [bind_ok] at h; obtain ⟨_, s₂, hget, h⟩ := h
  obtain ⟨rfl, rfl⟩ := get_ok.1 hget
  obtain ⟨assigned, hassigned, _⟩ := Option.map_eq_some_iff.1 hb.assigned
  rw [← hfiled] at hassigned; simp only [hassigned] at h; rw [bind_ok] at h
  obtain ⟨old, s₃, hold, h⟩ := h; obtain ⟨_, rfl⟩ := reads_ok.1 hold
  rw [bind_ok] at h; obtain ⟨_, s₄, hrequire, h⟩ := h
  obtain ⟨_, rfl⟩ := require_ok.1 hrequire; obtain ⟨rfl, rfl⟩ := pure_ok.1 h
  exact ⟨rfl, rfl⟩

variable {added : List String}

theorem allocateRows_repeat {rows : List RawActivity} (hs : Assigned contentId s)
    (hrows : ∀ raw ∈ rows, Charged s raw)
    (h : allocateRows contentId source basis t rows s = .ok added s') : added = [] ∧ s' = s := by
  induction rows generalizing added with
  | nil =>
    obtain ⟨rfl, rfl⟩ := pure_ok.1 h; exact ⟨rfl, rfl⟩
  | cons raw rows ih =>
    unfold allocateRows at h; rw [bind_ok] at h; obtain ⟨o, s₁, hrow, h⟩ := h
    obtain ⟨rfl, rfl⟩ := allocateRow_repeat hs (hrows raw (List.mem_cons_self ..)) hrow
    rw [bind_ok] at h; obtain ⟨more, s₂, hmore, h⟩ := h
    obtain ⟨rfl, rfl⟩ := pure_ok.1 h
    exact ih (fun raw hraw => hrows raw (List.mem_cons_of_mem _ hraw)) hmore

theorem sourceOf_ok (h : sourceOf contentId s incoming = .ok source) : source = incoming ∨
      s.document? (contentId (.document (.query source))) = some (.query source) := by
  unfold sourceOf at h; split at h
  · cases h; exact .inl rfl
  obtain ⟨old, hold, h⟩ := except_bind_ok.1 h; cases h; split
  · obtain ⟨d, hd, hkind, hid⟩ := document_ok.1 hold; rw [query?_some] at hkind
    subst hkind; rw [hid]; exact .inr hd
  · exact .inl rfl

variable {u : PUnit}

theorem putFee_repolled (hin : incoming ∈ sources)
    (hsource : sourceOf contentId s incoming = .ok source)
    (h : putFee contentId (.query source) s = .ok u s') : Repolled contentId sources s s' := by
  unfold putFee at h; split at h
  · split at h
    · obtain ⟨rfl⟩ := h; exact refl_of (Repolled contentId sources) _
    · cases h
  rename_i hnone; obtain ⟨rfl⟩ := h
  rcases sourceOf_ok hsource with rfl | hstored
  · refine ⟨rfl, fun d hd => Table.mem_insert_of_mem hd, fun d hd => ?_⟩
    exact (Table.mem_of_mem_insert hd).imp_right fun heq => ⟨source, hin, heq⟩
  · unfold FeeStore.document? at hstored; rw [hnone] at hstored; cases hstored

theorem retainSource_repeat (hin : incoming ∈ sources) (hs : Assigned contentId s)
    (hrows : ∀ raw ∈ sourceRows incoming, raw.activityType = some "CFEE" → Charged s raw)
    (h : retainSource contentId incoming t s = .ok added s') :
    added = [] ∧ Repolled contentId sources s s' := by
  unfold retainSource at h; rw [bind_ok] at h
  obtain ⟨source, s₀, hread, h⟩ := h; obtain ⟨hsource, rfl⟩ := reads_ok.1 hread
  rw [bind_ok] at h; obtain ⟨_, s₁, hput, h⟩ := h
  have hputs := putFee_repolled hin hsource hput
  have hputs' : Aside contentId (fun _ => True) s₀ s₁ := putQuery_aside _ _ _ _ hput
  have hs₁ := hs.kept hputs'.noted hputs'.activityIndex hputs'.allocationIndex
  rw [bind_ok] at h; obtain ⟨_, s₂, hmove, h⟩ := h
  have hmoves : Aside contentId (fun _ => True) s₁ s₂ := moveCursors_aside _ _ _ _ _ hmove
  have hs₂ := hs₁.kept hmoves.noted hmoves.activityIndex hmoves.allocationIndex
  have hmoved : Repolled contentId sources s₁ s₂ := by
    rw [moveCursors, modify_ok] at hmove; subst hmove
    exact ⟨rfl, fun _ hd => hd, fun _ hd => .inl hd⟩
  have hrepolled := trans_of (Repolled contentId sources) hputs hmoved
  rw [bind_ok] at h; obtain ⟨_, s₃, hget, h⟩ := h
  obtain ⟨rfl, rfl⟩ := get_ok.1 hget; split at h
  · obtain ⟨rfl, rfl⟩ := pure_ok.1 h; exact ⟨rfl, hrepolled⟩
  rw [bind_ok] at h; obtain ⟨basis, s₄, hbasis, h⟩ := h
  obtain ⟨_, rfl⟩ := reads_ok.1 hbasis; rw [bind_ok] at h
  obtain ⟨_, s₅, hrequire, h⟩ := h; obtain ⟨_, rfl⟩ := require_ok.1 hrequire
  have hcharged : ∀ raw ∈ (sourceRows source).filter fun raw => raw.activityType = some "CFEE",
      Charged _ raw := fun raw hraw => by
    obtain ⟨hraw, hkind⟩ := List.mem_filter.1 hraw
    rw [sourceRows_like (sourceOf_like hsource)] at hraw
    exact hrepolled.charged (hrows raw hraw (of_decide_eq_true hkind))
  obtain ⟨rfl, rfl⟩ := allocateRows_repeat hs₂ hcharged h
  exact ⟨rfl, hrepolled⟩

variable {added : List String} {s s' : FeeStore}

theorem retainSources_repeat {sources some' : List OrderFeeQueryEvidence} {t : Int}
    (hin : ∀ incoming ∈ some', incoming ∈ sources) (hs : Assigned contentId s)
    (hrows : ∀ incoming ∈ some', ∀ raw ∈ sourceRows incoming,
      raw.activityType = some "CFEE" → Charged s raw)
    (h : retainSources contentId t some' s = .ok added s') :
    added = [] ∧ Repolled contentId sources s s' := by
  induction some' generalizing s added with
  | nil =>
    obtain ⟨rfl, rfl⟩ := pure_ok.1 h
    exact ⟨rfl, refl_of (Repolled contentId sources) _⟩
  | cons incoming rest ih =>
    unfold retainSources at h; rw [bind_ok] at h
    obtain ⟨first, s₁, hfirst, h⟩ := h
    have hmem := hin incoming (List.mem_cons_self ..)
    obtain ⟨rfl, hrepolled⟩ :=
      retainSource_repeat hmem hs (hrows incoming (List.mem_cons_self ..)) hfirst
    have hs₁ := retainSource_keeps (assigned_safe (fun i _ => readAs_true i) t) hmem _ _ _ hfirst hs
    rw [bind_ok] at h; obtain ⟨more, s₂, hmore, h⟩ := h
    obtain ⟨rfl, rfl⟩ := pure_ok.1 h
    obtain ⟨rfl, hrest⟩ := ih (fun i hi => hin i (List.mem_cons_of_mem _ hi)) hs₁
      (fun i hi raw hraw hkind =>
        hrepolled.charged (hrows i (List.mem_cons_of_mem _ hi) raw hraw hkind)) hmore
    exact ⟨rfl, trans_of (Repolled contentId sources) hrepolled hrest⟩

theorem recordGap_repeat (hs : Assigned contentId s)
    (hraw : raw.activityType = some "CFEE" → Charged s raw)
    (h : recordGap contentId t raw s = .ok u s') : s' = s := by
  unfold recordGap at h; rw [bind_ok] at h; obtain ⟨_, s₀, hget, h⟩ := h
  obtain ⟨rfl, rfl⟩ := get_ok.1 hget
  cases hid : raw.anyId with
  | none =>
    simp only [hid] at h; exact (pure_ok.1 h).2.symm
  | some id =>
    cases hsymbol : truthy raw.symbol with
    | none =>
      simp only [hid, hsymbol] at h; exact (pure_ok.1 h).2.symm
    | some symbol =>
      simp only [hid, hsymbol] at h; split at h
      · rename_i hgap; obtain ⟨r, hr, a, ha, hsame⟩ := hraw hgap.1
        obtain ⟨b, hb⟩ := hs.2 r hr
        cases hb.stored.symm.trans (FeeStore.allocation?_eq.1 ha)
        cases hid.symm.trans hsame; have hassigned := hb.assigned
        rw [hgap.2.1] at hassigned; cases hassigned
      · exact (pure_ok.1 h).2.symm

variable {observed : List RawActivity}

theorem recordGaps_repeat (hs : Assigned contentId s)
    (hrows : ∀ raw ∈ observed, raw.activityType = some "CFEE" → Charged s raw)
    (h : observed.forM (recordGap contentId t) s = .ok u s') : s' = s := by
  induction observed with
  | nil => exact (pure_ok.1 h).2.symm
  | cons raw observed ih =>
    change (recordGap contentId t raw >>= fun _ => observed.forM (recordGap contentId t)) s = _ at h
    rw [bind_ok] at h; obtain ⟨_, s₁, hgap, h⟩ := h
    obtain rfl := recordGap_repeat hs (hrows raw (List.mem_cons_self ..)) hgap
    exact ih (fun raw hraw => hrows raw (List.mem_cons_of_mem _ hraw)) h

theorem retainOrderFeeAllocations_repeat {sources : List OrderFeeQueryEvidence} {t : Int}
    (hs : Assigned contentId s) (hsources : ∀ source ∈ sources, ∀ raw ∈ sourceRows source,
      raw.activityType = some "CFEE" → Charged s raw)
    (hobserved : ∀ raw ∈ observed, raw.activityType = some "CFEE" → Charged s raw)
    (h : retainOrderFeeAllocations contentId sources t observed s = .ok added s') :
    added = [] ∧ Repolled contentId sources s s' := by
  unfold retainOrderFeeAllocations at h; rw [bind_ok] at h
  obtain ⟨first, s₁, hretain, h⟩ := h
  obtain ⟨rfl, hrepolled⟩ := retainSources_repeat (fun _ hin => hin) hs hsources hretain
  have hs₁ := retainSources_keeps (assigned_safe (fun i _ => readAs_true i) t) (fun _ hin => hin) _ _ _ hretain hs
  rw [bind_ok] at h; obtain ⟨_, s₂, hgaps, h⟩ := h
  obtain rfl := recordGaps_repeat hs₁
    (fun raw hraw hkind => hrepolled.charged (hobserved raw hraw hkind)) hgaps
  obtain ⟨rfl, rfl⟩ := pure_ok.1 h; exact ⟨rfl, hrepolled⟩

/-! ## Runs -/

/-- A write of the ledger by other code: fills are added, fee cursors are not theirs. -/
structure Written (contentId : FeeContentId) (s s' : FeeStore) : Prop where
  own : { s' with
    core := s.core
    commission := s.commission
    tripAssetFees := s.tripAssetFees } = s
  config : s'.core.config = s.core.config
  fills : ∀ f ∈ s.core.fills.rows, f ∈ s'.core.fills.rows
  cursors : ∀ id, s'.core.sourceCursors.get? (contentId (.feeCursor s.account id)) =
    s.feeCursor? contentId id

/-- Who moves: a capture of order queries, the reading of one activity of an account page, an
owner event of another kind (alpaca_adapter.py:1203-1345), or the ledger. -/
inductive FeeMove
  | capture (sources : List OrderFeeQueryEvidence) (recordedAt : Int)
      (observed : List RawActivity)
  | activity (raw : RawActivity) (aliases : List (String × String)) (sourceId : String)
      (receivedAt : Int)
  | external (event : OwnerEvent)
  | ledger

/-- mirrors alpaca_adapter.py:1203-1217 -/
def readActivity (contentId : FeeContentId) (raw : RawActivity) (aliases : List (String × String))
    (sourceId : String) (t : Int) : FeeTxn CryptoFeeActivity := do
  let read ← reads fun _ => parse contentId raw aliases sourceId
  retainFeeActivity contentId read t

/-- Each call is a transaction of its own. -/
def feeRuns (contentId : FeeContentId) : LTS FeeStore FeeMove where
  init s := s.acquisitions = .empty ∧ s.ownerEvents = .empty ∧ s.activityIndex = .empty ∧
    s.allocationIndex = .empty ∧
    ∀ id, s.feeCursor? contentId id = none
  step s l s' :=
    match l with
    | .capture sources t observed =>
      s' = after (immediate (retainOrderFeeAllocations contentId sources t observed)) s
    | .activity raw aliases sourceId t =>
      s' = after (immediate (readActivity contentId raw aliases sourceId t)) s
    | .external event => event.binding = none ∧
      s' = after (immediate (recordExternal contentId event)) s
    | .ledger => Written contentId s s'

theorem readActivity_aside (hQ : ∀ read, parse contentId raw aliases sourceId = .ok read → Q read)
    (t : Int) : Moves (Aside contentId Q) (readActivity contentId raw aliases sourceId t) := by
  intro s f s' h; unfold readActivity at h; rw [bind_ok] at h
  obtain ⟨read, s₀, hparse, h⟩ := h; obtain ⟨hread, rfl⟩ := reads_ok.1 hparse
  exact retainFeeActivity_aside (hQ read hread) _ _ _ _ h

/-- An owner event changes the events, and what the ledger reads of them. -/
structure Owned (contentId : FeeContentId) (s s' : FeeStore) : Prop where
  same : { s' with
    ownerEvents := s.ownerEvents
    core := { s'.core with externalEvents := s.core.externalEvents } } = s
  events : ∀ e ∈ s.ownerEvents.rows, e ∈ s'.ownerEvents.rows

instance : IsPreorder FeeStore (Owned contentId) where
  refl _ := ⟨rfl, fun _ h => h⟩
  trans s s' s'' h h' := by
    refine ⟨?_, fun e he => h'.events e (h.events e he)⟩
    exact (congrArg (fun x : FeeStore => { x with
      ownerEvents := s.ownerEvents
      core := { x.core with externalEvents := s.core.externalEvents } }) h'.same).trans h.same

theorem recordExternal_owned (e : OwnerEvent) :
    Moves (Owned contentId) (recordExternal contentId e) := by
  intro s u s' h; unfold recordExternal at h; dsimp only at h; split at h
  · split at h
    · obtain ⟨rfl⟩ := h; exact refl_of (Owned contentId) _
    · cases h
  · obtain ⟨rfl⟩ := h; exact ⟨rfl, fun _ he => Table.mem_insert_of_mem he⟩

theorem Owned.noted (h : Owned contentId s s') : Noted contentId Q s s' := by
  have hcore := congrArg (fun x : FeeStore => (x.core.config, x.core.sourceCursors)) h.same
  obtain ⟨hconfig, hcursors⟩ := Prod.mk.inj hcore
  refine .of_cursors (congrArg (·.accountId) hconfig) (congrArg (·.acquisitions) h.same)
    fun id => ?_
  unfold FeeStore.feeCursor? FeeStore.account
  rw [show s'.core.config = s.core.config from hconfig,
    show s'.core.sourceCursors = s.core.sourceCursors from hcursors]

theorem Written.noted (h : Written contentId s s') : Noted contentId Q s s' := by
  have haccount : s'.account = s.account := congrArg (·.accountId) h.config
  refine .of_cursors haccount (congrArg (·.acquisitions) h.own) fun id => ?_
  unfold FeeStore.feeCursor?; rw [haccount]; exact h.cursors id

theorem feeRuns_other {l : FeeMove} (h : (feeRuns contentId).step s l s')
    (hl : ∀ sources t observed, l ≠ .capture sources t observed) :
    Noted contentId (fun _ => True) s s' ∧ s'.activityIndex = s.activityIndex ∧
      s'.allocationIndex = s.allocationIndex ∧ ∀ f ∈ s.core.fills.rows, f ∈ s'.core.fills.rows := by
  cases l with
  | capture sources t observed => exact absurd rfl (hl sources t observed)
  | activity raw aliases sourceId t =>
    obtain rfl : s' = _ := h
    have hmoves : Moves (Aside contentId fun _ => True)
        (readActivity contentId raw aliases sourceId t) := readActivity_aside (fun _ _ => trivial) t
    have haside := hmoves.after s
    refine ⟨haside.noted, haside.activityIndex, haside.allocationIndex, fun f hf => ?_⟩
    rw [haside.fills]; exact hf
  | external event =>
    obtain ⟨_, rfl⟩ := h
    have howned : Owned contentId s _ := (recordExternal_owned event).after s
    refine ⟨howned.noted, congrArg (·.activityIndex) howned.same,
      congrArg (·.allocationIndex) howned.same, fun f hf => ?_⟩
    rw [← howned.same] at hf; exact hf
  | ledger =>
    have hwritten : Written contentId s s' := h
    exact ⟨hwritten.noted, congrArg (·.activityIndex) hwritten.own,
      congrArg (·.allocationIndex) hwritten.own, hwritten.fills⟩

theorem assigned_step {l : FeeMove} (hs : Assigned contentId s)
    (h : (feeRuns contentId).step s l s') : Assigned contentId s' := by
  by_cases hl : ∃ sources t observed, l = .capture sources t observed
  · obtain ⟨sources, t, observed, rfl⟩ := hl; obtain rfl : s' = _ := h
    have hsafe : Safe contentId (fun _ => True) sources t (Assigned contentId) :=
      assigned_safe (fun i _ => readAs_true i) t
    exact (retainOrderFeeAllocations_keeps hsafe observed).after s hs
  · push Not at hl
    obtain ⟨hnoted, hactivity, hallocation, _⟩ := feeRuns_other h hl
    exact hs.kept hnoted hactivity hallocation

theorem assigned_inductive : (feeRuns contentId).Inductive (Assigned contentId) where
  init s h := by
    obtain ⟨_, _, _, hallocation, hcursors⟩ := h
    refine ⟨fun id c hc => ?_, fun r hr => ?_⟩
    · rw [hcursors] at hc; cases hc
    · rw [hallocation] at hr; cases hr
  step _ _ _ hs h := assigned_step hs h

/-- Captures are recorded no earlier than the allocations of the lots they query, in the order
of the index. -/
def Timely (s : FeeStore) : FeeMove → FeeStore → Prop
  | .capture sources t _, _ => OnTime sources t s
  | _, _ => True

theorem bounded_inductive : ((feeRuns contentId).restrict Timely).Inductive
    fun s => Assigned contentId s ∧ Bounded s where
  init s h := by
    refine ⟨assigned_inductive.init s h, fun r hr => ?_⟩; rw [h.2.2.2.1] at hr
    cases hr
  step s l s' hs h := by
    refine ⟨assigned_step hs.1 h.1, ?_⟩
    by_cases hl : ∃ sources t observed, l = .capture sources t observed
    · obtain ⟨sources, t, observed, rfl⟩ := hl; obtain rfl : s' = _ := h.1
      have hcharging : Charging contentId sources t s := ⟨hs.1, hs.2, h.2⟩
      have hsafe : Safe contentId (fun _ => True) sources t (Charging contentId sources t) :=
        charging_safe (fun i _ => readAs_true i) t
      exact ((retainOrderFeeAllocations_keeps hsafe observed).after s hcharging).bounded
    · push Not at hl
      obtain ⟨hnoted, _, hallocation, hfills⟩ := feeRuns_other h.1 hl
      exact hs.2.kept hs.1 hnoted.documents hallocation hfills

/-- **No fee is charged twice.** Whatever is captured in whatever order, an activity has one
allocation, of one lot; a call of which every fee has a lot allocates nothing and changes only
the place of its queries; and where captures are recorded in order, no lot is charged more
than the fills of its entry order bought. -/
theorem fees_charged_once {s : FeeStore} (h : (feeRuns contentId).Reachable s) :
    (∀ r ∈ s.allocationIndex.rows, ∃ a, s.allocation? r.id = some a ∧ a.lotId = r.reference ∧
      ∃ source, s.document? a.queryDocumentId = some (.query source) ∧
        source.basis.lotId = a.lotId ∧ source.basis.orderId = a.orderId) ∧
    (∀ r ∈ s.allocationIndex.rows, ∀ r' ∈ s.allocationIndex.rows, ∀ a a',
      s.allocation? r.id = some a → s.allocation? r'.id = some a' →
      a.activityId = a'.activityId → r = r') ∧ (((feeRuns contentId).restrict Timely).Reachable s →
      ∀ r ∈ s.allocationIndex.rows, ∀ a, s.allocation? r.id = some a →
        s.charged r.reference ≤ s.core.filled a.orderId) ∧ ∀ sources t observed,
      (∀ source ∈ sources, ∀ raw ∈ sourceRows source,
        raw.activityType = some "CFEE" → Charged s raw) →
      (∀ raw ∈ observed, raw.activityType = some "CFEE" → Charged s raw) →
      (∀ added s', immediate (retainOrderFeeAllocations contentId sources t observed) s =
        .ok added s' → added = []) ∧ Repolled contentId sources s
        (after (immediate (retainOrderFeeAllocations contentId sources t observed)) s) := by
  have hs := assigned_inductive.reachable h
  refine ⟨fun r hr => ?_, fun r hr r' hr' a a' => hs.unique hr hr', fun h => ?_,
    fun sources t observed hsources hobserved => ⟨fun added s' hrun => ?_, ?_⟩⟩
  · obtain ⟨a, ha⟩ := hs.2 r hr
    exact ⟨a, FeeStore.allocation?_eq.2 ha.stored, ha.lot, ha.based⟩
  · exact (bounded_inductive.reachable h).2
  · exact (retainOrderFeeAllocations_repeat hs hsources hobserved (immediate_ok.1 hrun)).1
  · cases hrun : immediate (retainOrderFeeAllocations contentId sources t observed) s with
    | ok added s' =>
      rw [after_ok hrun]
      exact (retainOrderFeeAllocations_repeat hs hsources hobserved (immediate_ok.1 hrun)).2
    | error e s' =>
      have hsame := immediate_error hrun; subst hsame; unfold after
      rw [hrun]; exact refl_of (Repolled contentId sources) _

/-! ## A bought coin -/

def feeLabel : FeeContentId
  | .document (.query q) => "query:" ++ toString q.recordedAt
  | .document (.fee f) => "fee:" ++ f.activityId
  | .document (.allocation a) => "allocation:" ++ a.activityId
  | .document (.gap g) => "gap:" ++ g.activityId
  | .raw r => "raw:" ++ r.anyId.getD ""
  | .pages _ => "pages"
  | .order o => "order:" ++ o.brokerOrderId ++ "@" ++ toString o.submittedAt
  | .activity _ id => "activity:" ++ id
  | .feeCursor _ id => "fee-cursor:" ++ id
  | .queryCursor _ _ order => "query-cursor:" ++ order
  | .external _ event owner => owner ++ ":" ++ event
  | .trip trip => "trip:" ++ trip.lotId
  | .incident trip fee => trip ++ "/" ++ fee

def coinIntent : OrderIntent where
  intentId := "i1"
  clientOrderId := "q1"
  strategyId := "core"
  symbol := "BTC/USD"
  signalDate := 0
  side := .buy
  orderType := .market
  timeInForce := .gtc
  quantity := 1
  state := .filled
  createdAt := 2
  quantity_pos := L1.unit_pos
  prices := L1.market_unpriced

def coinOrder : BrokerOrder where
  brokerOrderId := "B1"
  clientOrderId := "q1"
  symbol := "BTC/USD"
  side := .buy
  orderType := .market
  timeInForce := .gtc
  quantity := 1
  filledQuantity := 1
  status := "filled"
  submittedAt := 3
  filledAveragePrice := some 100
  quantity_pos := L1.unit_pos
  filled_nonneg := L1.unit_nonneg
  filled_le := L1.unit_le

def coinFill : Fill where
  fillId := "F1"
  brokerOrderId := "B1"
  symbol := "BTC/USD"
  side := .buy
  quantity := 1
  price := 100
  occurredAt := 4
  quantity_pos := L1.unit_pos
  price_pos := L1.hundred_pos
  fee_nonneg := L1.fee_absent
  fee_valid := L1.fee_unknown

/-- The snapshot that shows the order filled. -/
def coinSource : BrokerEvent where
  recordedAt := 5
  releaseId := "rel"
  evidenceLane := .brokerPaper
  eventId := "o1"
  rawDigest := "o1"
  provider := .alpaca
  accountId := "PA1"
  endpoint := "orders"
  clientOrderId := "q1"
  occurredAt := 5
  payload := .order coinOrder
  activityComplete := true
  activityFillIds := ["F1"]
  activityWatermark := some 4
  occurred_le := le_refl _
  complete_order := fun _ => rfl
  complete_watermark := fun _ => ⟨4, rfl, by decide⟩

def coinCore : CoreStore where
  config := ⟨"PA1", "rel", "core", 0, .brokerPaper, "collect-owned-30m-stop100-v1", .modelOnly,
    .strict⟩
  orderIntents := UTable.empty.insert coinIntent
  brokerOrders := UTable.empty.insert coinOrder
  fills := Table.empty.insert coinFill
  links := Table.empty.insert ⟨"i1", "d1", "p1", "obs", .entry, "lot"⟩
  documents := Table.empty.insert ⟨"s1", .source coinSource⟩
  baselines := [{ id := "base", quantities := [], cash := 0 }]

/-- One coin bought by a commissioned core, and no fee read. -/
def coinStore : FeeStore where
  core := coinCore
  storeIdentity := "store"
  configId := "config"
  commission := some ⟨"commission", 1⟩
  baselineAccountId := "PA1"

def coinBasis : OwnedFeeBasis where
  lotId := "lot"
  intentId := "i1"
  orderId := "B1"
  symbol := "BTC/USD"
  baselineId := "base"
  baselineAt := 1
  commissionId := "commission"
  orderDigest := "order:B1@3"
  fillIds := ["F1"]
  boughtQuantity := 1
  terminalSourceId := "s1"

def coinFee (id : String) (q : ℚ) : RawActivity where
  id := .text id
  activityType := some "CFEE"
  symbol := some "BTCUSD"
  quantity := .number q
  netAmount := .number 0
  price := .absent
  date := none
  transactionTime := .instant 4
  createdAt := .absent
  status := some "executed"
  fillId := none
  orderId := some "B1"

def coinQuery (t : Int) (rows : List RawActivity) : OrderFeeQueryEvidence where
  recordedAt := t
  binding := coinStore.binding
  basis := coinBasis
  requestOrderId := "B1"
  pages := [⟨none, rows⟩]
  protocolComplete := true
  objections := []
  observedActivityIds := rows.filterMap RawActivity.textId
  symbolAliases := [("BTCUSD", "BTC/USD")]
  rawDigest := "pages"

/-- A fee of three fifths, captured. -/
def chargedStore (t : Int) : FeeStore :=
  after (immediate (retainOrderFeeAllocations feeLabel [coinQuery 6 [coinFee "A" (-3/5)]] t []))
    coinStore


theorem coinStore_init : (feeRuns feeLabel).init coinStore := ⟨rfl, rfl, rfl, rfl, fun _ => rfl⟩

theorem chargedStore_reachable (t : Int) : (feeRuns feeLabel).Reachable (chargedStore t) :=
  ⟨coinStore, [.capture [coinQuery 6 [coinFee "A" (-3/5)]] t []], coinStore_init,
    .cons rfl (.nil _)⟩

/-- The captured fee has a lot. -/
theorem fees_charged_once_coin : (chargedStore 7).allocationIndex.rows.length = 1 ∧
    (chargedStore 7).charged "lot" ≤ (chargedStore 7).core.filled "B1" := by
  refine ⟨by decide +kernel, ?_⟩
  have hreach : ((feeRuns feeLabel).restrict Timely).Reachable (chargedStore 7) :=
    ⟨coinStore, [.capture [coinQuery 6 [coinFee "A" (-3/5)]] 7 []], coinStore_init,
      .cons ⟨rfl, fun incoming _ r hr => (by cases hr)⟩ (.nil _)⟩
  have hrow : ∃ r ∈ (chargedStore 7).allocationIndex.rows, r.reference = "lot" ∧
      ∃ a ∈ (chargedStore 7).allocation? r.id, a.orderId = "B1" := by decide +kernel
  obtain ⟨r, hr, hlot, a, ha, horder⟩ := hrow
  have hbound := (fees_charged_once (chargedStore_reachable 7)).2.2.1 hreach r hr a ha
  rwa [hlot, horder] at hbound

/-- The same capture again moves the query's cursor; and a capture recorded before the last one
does not see its allocation, so that a coin that was bought once is charged for twice three
fifths. -/
theorem repeat_moves_and_backdated_overcharges :
    (∃ s, (feeRuns feeLabel).Reachable s ∧ Charged s (coinFee "A" (-3/5)) ∧
      after (immediate (retainOrderFeeAllocations feeLabel
        [coinQuery 6 [coinFee "A" (-3/5)]] 8 [])) s ≠ s) ∧
    ∃ s, (feeRuns feeLabel).Reachable s ∧ ∃ r ∈ s.allocationIndex.rows,
      ∃ a ∈ s.allocation? r.id, s.core.filled a.orderId < s.charged r.reference := by
  refine ⟨⟨chargedStore 7, chargedStore_reachable 7, ?_, by decide +kernel⟩, ?_⟩
  · have hrow : ∃ r ∈ (chargedStore 7).allocationIndex.rows,
        ∃ a ∈ (chargedStore 7).allocation? r.id, (coinFee "A" (-3/5)).anyId = some a.activityId := by
      decide +kernel
    obtain ⟨r, hr, a, ha, hid⟩ := hrow; exact ⟨r, hr, a, ha, hid⟩
  · refine ⟨after (immediate (retainOrderFeeAllocations feeLabel
      [coinQuery 9 [coinFee "A" (-3/5), coinFee "B" (-3/5)]] 10 [])) (chargedStore 20), ?_,
      by decide +kernel⟩
    exact (chargedStore_reachable 20).step (l := FeeMove.capture _ 10 []) rfl

end Quantbot.L4.Fees
