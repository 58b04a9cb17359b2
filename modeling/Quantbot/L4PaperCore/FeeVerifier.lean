import Mathlib.Tactic.Linarith
import Quantbot.L4PaperCore.FeeRuns

/-!
# What the writer commits, the reader accepts

`lot_asset_fees` (`paper_core/crypto_fee_allocation.py:702-806`) holds every allocation of a lot
against the rows it was made of. It hashes the whole order row, so that it accepts an
allocation for as long as no write touches what the entry was based on.

* `Sound`: every committed allocation verifies at the time it was recorded.
* `allocations_stay_verified`: over runs that leave the entries of charged lots alone.
* `committed_allocations_refused`: an accepted lifecycle update, and a time within the second.
-/
namespace Quantbot.L4.Fees

open Core Txn L1 L2

variable {contentId : FeeContentId} {Q : CryptoFeeActivity → Prop}

/-! ## Rows of a valid query -/

theorem filter_eq_singleton {α β : Type} [DecidableEq β] {f : α → β} {l : List α} {a : α}
    (hl : (l.map f).Nodup) (ha : a ∈ l) : (l.filter fun b => f b = f a) = [a] := by
  induction l with
  | nil => cases ha
  | cons b l ih =>
    obtain ⟨hnotin, hl⟩ := List.nodup_cons.1 hl
    rcases List.mem_cons.1 ha with rfl | ha
    · have hrest : (l.filter fun b => f b = f a) = [] := by
        refine List.filter_eq_nil_iff.2 fun c hc heq => hnotin ?_
        rw [← of_decide_eq_true heq]; exact List.mem_map_of_mem hc
      rw [List.filter_cons_of_pos (by simp), hrest]
    · have hne : f b ≠ f a := fun heq => hnotin (heq ▸ List.mem_map_of_mem ha)
      rw [List.filter_cons_of_neg (by simpa using hne), ih hl ha]

theorem rowsValid_ids {orderId : String} {seen : List String} {rows : List RawActivity}
    (h : rowsValid orderId seen rows = true) : (rows.map RawActivity.textId).Nodup ∧
      ∀ raw ∈ rows, ∃ id, raw.textId = some id ∧ id ∉ seen := by
  induction rows generalizing seen with
  | nil => exact ⟨List.nodup_nil, fun _ h => (by cases h)⟩
  | cons raw rows ih =>
    unfold rowsValid at h
    cases hid : raw.textId with
    | none =>
      simp only [hid] at h; cases h
    | some id =>
      simp only [hid, Bool.and_eq_true, decide_eq_true_eq] at h
      obtain ⟨⟨hseen, _⟩, hrest⟩ := h; obtain ⟨hnodup, hids⟩ := ih hrest
      refine ⟨?_, fun r hr => ?_⟩
      · rw [List.map_cons, List.nodup_cons, hid]
        refine ⟨fun hmem => ?_, hnodup⟩
        obtain ⟨r, hr, hsame⟩ := List.mem_map.1 hmem
        obtain ⟨id', hid', hnotin⟩ := hids r hr; cases hsame.symm.trans hid'
        exact hnotin (List.mem_cons_self ..)
      · rcases List.mem_cons.1 hr with rfl | hr
        · exact ⟨id, hid, hseen⟩
        · obtain ⟨id', hid', hnotin⟩ := hids r hr
          exact ⟨id', hid', fun h => hnotin (List.mem_cons_of_mem _ h)⟩

theorem pagesValid_ids {orderId : String} {token : Option String} {seen : List String}
    {pages : List OrderFeeQueryPage} (h : pagesValid orderId token seen pages = true) :
    ((pages.flatMap (·.rows)).map RawActivity.textId).Nodup ∧
      ∀ raw ∈ pages.flatMap (·.rows), ∃ id, raw.textId = some id ∧ id ∉ seen := by
  induction pages generalizing token seen with
  | nil => exact ⟨List.nodup_nil, fun _ h => (by cases h)⟩
  | cons page pages ih =>
    unfold pagesValid at h; rw [Bool.and_eq_true, Bool.and_eq_true] at h
    obtain ⟨⟨_, hrows⟩, hrest⟩ := h
    obtain ⟨hnodup, hids⟩ := rowsValid_ids hrows
    obtain ⟨hnodup', hids'⟩ := ih hrest; rw [List.flatMap_cons]
    refine ⟨?_, fun raw hraw => ?_⟩
    · rw [List.map_append, List.nodup_append]
      refine ⟨hnodup, hnodup', fun x hx y hy heq => ?_⟩
      obtain ⟨raw, hraw, rfl⟩ := List.mem_map.1 hx
      obtain ⟨raw', hraw', rfl⟩ := List.mem_map.1 hy
      obtain ⟨id, hid, hnotin⟩ := hids' raw' hraw'; rw [hid] at heq
      exact hnotin (List.mem_append_left _ (List.mem_filterMap.2 ⟨raw, hraw, heq⟩))
    · rcases List.mem_append.1 hraw with hraw | hraw
      · exact hids raw hraw
      · obtain ⟨id, hid, hnotin⟩ := hids' raw hraw
        exact ⟨id, hid, fun h => hnotin (List.mem_append_right _ h)⟩

variable {s s' : FeeStore} {source : OrderFeeQueryEvidence} {raw : RawActivity} {id lot : String}

theorem queryValid_row (h : queryValid contentId s source = true) (hraw : raw ∈ sourceRows source)
    (hid : raw.anyId = some id) :
    ((sourceRows source).filter fun raw => raw.id = .text id) = [raw] := by
  unfold queryValid at h; rw [Bool.and_eq_true] at h
  obtain ⟨hnodup, hids⟩ := pagesValid_ids h.2
  have htext : ∀ r ∈ sourceRows source, (r.id = .text id ↔ r.textId = some id) := by
    intro r hr; obtain ⟨id', hid', _⟩ := hids r hr
    unfold RawActivity.textId at hid' ⊢
    cases hr' : r.id with
    | absent | other _ => simp [hr'] at hid'
    | text x =>
      simp only [hr'] at hid' ⊢; split at hid'
      · cases hid'
      · rename_i hne; rw [if_neg hne, RawId.text.injEq, Option.some.injEq]
  obtain ⟨id', hid', _⟩ := hids raw hraw
  have hsame : raw.textId = some id := by
    unfold RawActivity.textId RawActivity.anyId at *
    cases hr' : raw.id with
    | absent | other _ => simp [hr'] at hid'
    | text x =>
      simp only [hr'] at hid hid' ⊢; exact hid
  calc ((sourceRows source).filter fun raw => raw.id = .text id)
      = (sourceRows source).filter fun r => r.textId = raw.textId := by
        refine List.filter_congr fun r hr => ?_; rw [decide_eq_decide, hsame]
        exact htext r hr
    _ = [raw] := filter_eq_singleton hnodup hraw

/-! ## What keeps an allocation verified -/

/-- Configuration, documents, assignments and owner events stay. -/
structure Upheld (s s' : FeeStore) : Prop where
  config : s'.core.config = s.core.config
  store : s'.storeIdentity = s.storeIdentity ∧ s'.configId = s.configId
  documents : ∀ r ∈ s.acquisitions.rows, r ∈ s'.acquisitions.rows
  activities : ∀ r ∈ s.activityIndex.rows, r ∈ s'.activityIndex.rows
  events : ∀ e ∈ s.ownerEvents.rows, e ∈ s'.ownerEvents.rows

theorem document_kept {α : Type} {kind : FeeDocument → Option α} {a : α}
    (h : ∀ r ∈ s.acquisitions.rows, r ∈ s'.acquisitions.rows)
    (ha : document contentId s id kind = .ok a) : document contentId s' id kind = .ok a := by
  obtain ⟨d, hd, hkind⟩ := document_ok.1 ha
  exact document_ok.2 ⟨d, document?_kept h hd, hkind⟩

variable {asOf t : Int} {v : VerifiedFee} {s s' : FeeStore}

theorem verifyAllocation_kept {lot id : String} {t t' : Int} {v : VerifiedFee} (h : Upheld s s')
    (hbasis : ∀ a source, s.document? id = some (.allocation a) →
      s.document? a.queryDocumentId = some (.query source) →
      entryBasis contentId s' lot source.recordedAt false =
        entryBasis contentId s lot source.recordedAt false)
    (hv : verifyAllocation contentId s lot t id = .ok v) (ht : t ≤ t') :
    verifyAllocation contentId s' lot t' id = .ok v := by
  obtain ⟨rfl, source, raw, parsed, e, ha, hsource, hfee, hentry, hraw, hparsed, he, hverified⟩ :=
    verifyAllocation_ok hv
  have haccount : s'.account = s.account := congrArg (·.accountId) h.config
  obtain ⟨d, hd, hkind, _⟩ := document_ok.1 ha; rw [allocation?_some] at hkind
  obtain ⟨d', hd', hkind', _⟩ := document_ok.1 hsource
  rw [query?_some] at hkind'; subst hkind hkind'
  refine verifyAllocation_of (document_kept h.documents ha) (document_kept h.documents hsource)
    (document_kept h.documents hfee) ?_ hraw hparsed (Table.get?_kept h.events he) ?_
  · rw [hbasis _ source hd hd']; exact hentry
  · exact
      { hverified with
        queried := by
          have hqueried := hverified.queried; unfold queryValid at hqueried ⊢
          rw [haccount, h.config, h.store.1, h.store.2]; exact hqueried
        ordered := ⟨hverified.ordered.1, hverified.ordered.2.trans ht⟩
        bound := by
          rw [haccount, h.config, h.store.1, h.store.2]; exact hverified.bound
        assigned := by
          obtain ⟨r, hr, hreference⟩ := Option.map_eq_some_iff.1 hverified.assigned
          rw [haccount, Table.get?_kept h.activities hr, Option.map_some, hreference]
        externalId := by
          rw [haccount]; exact hverified.externalId
        external := by
          rw [haccount]; exact hverified.external }

/-! ## The writer's side -/

/-- One raw digest is read one way. -/
def Alike (Q : CryptoFeeActivity → Prop) : Prop :=
  ∀ f f', Q f → Q f' → f.rawDigest = f'.rawDigest → f.reading = f'.reading

/-- Documents lie under their ids, and fees are read as `Q`. -/
def Filed (contentId : FeeContentId) (Q : CryptoFeeActivity → Prop) (s : FeeStore) : Prop :=
  ∀ r ∈ s.acquisitions.rows,
    r.id = contentId (.document r.payload) ∧ ∀ f, r.payload = .fee f → Q f

theorem Noted.filedKept (h : Noted contentId Q s s') (hs : Filed contentId Q s) :
    Filed contentId Q s' := fun r hr => by
  rcases h.filed r hr with hr | hnew
  · exact hs r hr
  · exact hnew

theorem Filed.fee (h : Filed contentId Q s) {f : CryptoFeeActivity}
    (hf : s.document? id = some (.fee f)) : id = contentId (.document (.fee f)) ∧ Q f := by
  obtain ⟨r, hr, hpayload⟩ := Option.map_eq_some_iff.1 hf
  obtain ⟨hmem, rfl⟩ := Table.get?_some hr; obtain ⟨hid, hfee⟩ := h r hmem
  exact ⟨hpayload ▸ hid, hfee f hpayload⟩

theorem retainFeeActivity_alike (hQ : Alike Q) {e f : CryptoFeeActivity}
    (h : retainFeeActivity contentId e t s = .ok f s') (hs : Filed contentId Q s) (he : Q e) :
    e.reading = f.reading ∧ f.rawDigest = e.rawDigest ∧
      s'.document? (contentId (.document (.fee f))) = some (.fee f) := by
  rcases retainFeeActivity_ok h with ⟨rfl, hstored⟩ | ⟨rfl, hdigest, _, c, _, hf⟩
  · exact ⟨rfl, rfl, hstored.stored⟩
  · obtain ⟨hid, hfQ⟩ := hs.fee hf
    exact ⟨hQ e f he hfQ hdigest.symm, hdigest, hid ▸ hf⟩

/-- Owner events that were written for an allocation are of one the index has. -/
def EventsOwned (s : FeeStore) : Prop :=
  ∀ e ∈ s.ownerEvents.rows, ∀ b ∈ e.payload.binding, ∃ r ∈ s.allocationIndex.rows,
    ∃ a, s.allocation? r.id = some a ∧ a.activityId = e.payload.eventId ∧
      a.externalEventId = e.id ∧ r.reference = b.lotId ∧ r.availableAt = b.recognizedAt

variable {a : OrderFeeAllocation} {basis : OwnedFeeBasis}

theorem RowAllocated.upheld
    (h : RowAllocated contentId source basis t raw a s s') (hnoted : Noted contentId Q s s') :
    Upheld s s' := by
  have hledger := h.bareLedger
  obtain ⟨_, _, s₁, _, _, hretain, _, _, _, hall⟩ := h.allocated
  have haside : Aside contentId (fun _ => True) s s₁ :=
    retainFeeActivity_aside trivial _ _ _ _ hretain
  refine ⟨congrArg (·.core.config) hledger, ⟨congrArg (·.storeIdentity) hledger,
    congrArg (·.configId) hledger⟩, hnoted.documents, fun r hr => ?_, fun e he => ?_⟩
  · rw [hall.activityIndex, haside.activityIndex]
    exact Table.mem_insert_of_mem hr
  · refine hall.events e ?_; rw [haside.ownerEvents]; exact he

theorem EventsOwned.unbound (h : EventsOwned s) (hs : Assigned contentId s) {e : OwnerEventRow}
    (he : e ∈ s.ownerEvents.rows) (hid : e.payload.eventId = id)
    (hfresh : s.activityIndex.get? (contentId (.activity s.account id)) = none) :
    e.payload.binding = none := by
  cases hb : e.payload.binding with
  | none => rfl
  | some b =>
    obtain ⟨r, hr, a, ha, hactivity, _⟩ := h e he b hb
    obtain ⟨a', ha'⟩ := hs.2 r hr
    cases ha'.stored.symm.trans (FeeStore.allocation?_eq.1 ha)
    have hassigned := ha'.assigned; rw [hactivity, hid, hfresh] at hassigned
    cases hassigned

/-- **Writer and verifier.** A row that is allocated verifies at once. -/
theorem RowAllocated.verified (hQ : Alike Q) {incoming : OrderFeeQueryEvidence}
    (h : RowAllocated contentId source basis t raw a s s')
    (hheld : Held contentId incoming source basis t s) (hsource : ReadAs contentId Q source)
    (hraw : raw ∈ sourceRows source) (hkind : raw.activityType = some "CFEE")
    (hassigned : Assigned contentId s) (hfiled : Filed contentId Q s) (hevents : EventsOwned s) :
    ∃ v, verifyAllocation contentId s' basis.lotId t (contentId (.document (.allocation a))) =
      .ok v := by
  have hnoted := h.noted hsource hraw hkind
  have hheld' := hheld.kept h.bareLedger hnoted.documents
  have hrow := h.assignedRow hheld hnoted hassigned.1
  obtain ⟨read, fee, s₁, q, hread, hretain, hvalid, heffective, hq, hall⟩ := h.allocated
  have haside : Aside contentId (fun _ => True) s s₁ :=
    retainFeeActivity_aside trivial _ _ _ _ hretain
  obtain ⟨halike, hdigest, hstored⟩ :=
    retainFeeActivity_alike hQ hretain hfiled (hsource raw hraw hkind _ read hread)
  obtain ⟨hrawId, hrawDigest, _⟩ := parseFeeActivity_ok (parse_ok.1 hread)
  have hsameId : read.activityId = fee.activityId := congrArg (·.activityId) halike
  rw [hsameId] at hrawId
  have haccount : s'.account = s₁.account := bareLedger_account hall.ledger
  have hconfig : s'.core.config = s₁.core.config := congrArg (·.core.config) hall.ledger
  obtain ⟨e, he, _, hevent⟩ := hall.event; obtain ⟨hneg, rfl⟩ := hall.allocation
  refine ⟨_, verifyAllocation_of
    (document_ok.2 ⟨_, hall.stored, rfl, rfl⟩)
    (document_ok.2 ⟨_, hheld'.stored, rfl, rfl⟩)
    (document_ok.2 ⟨_, document?_kept hall.noted.documents hstored, rfl, rfl⟩)
    hheld'.entry (queryValid_row hheld.valid hraw hrawId) hread he ?_⟩
  exact
    { queried := hheld'.valid
      based := hheld.based
      charged := hvalid
      ordered := ⟨hheld.recorded, le_refl t⟩
      effective := heffective
      lotId := rfl
      orderId := rfl
      quantity := by
        rw [hq]; exact congrArg some (neg_neg q).symm
      symbol := rfl
      currency := by
        show fee.assetCurrency = some (fee.assetCurrency.getD "")
        rw [hvalid.2.2.1]; rfl
      activity := rfl
      bound := by
        rw [haccount, hconfig]
        exact ⟨rfl, (congrArg (·.storeIdentity) hall.ledger).symm,
          (congrArg (·.configId) hall.ledger).symm, rfl⟩
      assigned := hrow.assigned
      digest := hrawDigest.symm.trans hdigest.symm
      read := halike
      externalId := by
        rw [haccount]; rfl
      relative := by
        rcases hevent with ⟨hold, hmatches⟩ | hnew
        · rw [haside.ownerEvents] at hold; have hfresh := hall.fresh
          rw [haside.activityIndex, haside.account] at hfresh; intro b hb
          rw [hevents.unbound hassigned hold hmatches.1 hfresh] at hb; cases hb
        · intro b hb; rw [hnew] at hb; cases hb
          rw [hnew]; exact ⟨rfl, rfl, rfl, rfl, rfl, rfl⟩
      external := by
        rw [haccount]; rcases hevent with ⟨_, hmatches⟩ | hnew
        · exact hmatches
        · rw [hnew]; exact ⟨rfl, rfl, rfl, hvalid.2.1, hq, rfl, rfl, rfl, rfl⟩ }

/-- What a committed allocation rests on, in every state of a run. -/
structure Sound (contentId : FeeContentId) (Q : CryptoFeeActivity → Prop) (s : FeeStore) :
    Prop where
  assigned : Assigned contentId s
  bounded : Bounded s
  filed : Filed contentId Q s
  verified : ∀ r ∈ s.allocationIndex.rows,
    ∃ v, verifyAllocation contentId s r.reference r.availableAt r.id = .ok v
  owned : EventsOwned s

theorem Sound.kept (h : Sound contentId Q s) (hnoted : Noted contentId Q s s')
    (hupheld : Upheld s s') (hactivity : s'.activityIndex = s.activityIndex)
    (hallocation : s'.allocationIndex = s.allocationIndex)
    (hfills : ∀ f ∈ s.core.fills.rows, f ∈ s'.core.fills.rows)
    (hbasis : ∀ r ∈ s.allocationIndex.rows, ∀ a source, s.document? r.id = some (.allocation a) →
      s.document? a.queryDocumentId = some (.query source) →
      entryBasis contentId s' r.reference source.recordedAt false =
        entryBasis contentId s r.reference source.recordedAt false)
    (hevents : ∀ e ∈ s'.ownerEvents.rows, e ∈ s.ownerEvents.rows ∨ e.payload.binding = none) :
    Sound contentId Q s' where
  assigned := h.assigned.kept hnoted hactivity hallocation
  bounded := h.bounded.kept h.assigned hnoted.documents hallocation hfills
  filed := hnoted.filedKept h.filed
  verified r hr := by
    rw [hallocation] at hr
    obtain ⟨v, hv⟩ := h.verified r hr
    exact ⟨v, verifyAllocation_kept hupheld (hbasis r hr) hv (le_refl _)⟩
  owned e he b hb := by
    rcases hevents e he with hold | hnone
    · obtain ⟨r, hr, a, ha, hrest⟩ := h.owned e hold b hb
      refine ⟨r, hallocation ▸ hr, a, ?_, hrest⟩
      rw [h.assigned.allocation?_kept hnoted.documents hr]
      exact ha
    · rw [hnone] at hb
      cases hb

theorem Aside.upheld (h : Aside contentId Q s s') : Upheld s s' where
  config := congrArg (·.core.config) h.same
  store := ⟨congrArg (·.storeIdentity) h.same, congrArg (·.configId) h.same⟩
  documents := h.noted.documents
  activities r hr := by
    rw [h.activityIndex]
    exact hr
  events e he := by
    rw [h.ownerEvents]
    exact he

theorem Sound.aside (hs : Sound contentId Q s) (h : Aside contentId Q s s') :
    Sound contentId Q s' := by
  refine hs.kept h.noted h.upheld h.activityIndex h.allocationIndex (fun f hf => ?_)
    (fun r _ a source _ _ => h.entryBasis _ _ _) fun e he => ?_
  · rw [h.fills]; exact hf
  · rw [h.ownerEvents] at he; exact .inl he

theorem sound_safe (hQ : Alike Q) {sources : List OrderFeeQueryEvidence}
    (hsources : ∀ incoming ∈ sources, ReadAs contentId Q incoming) (t : Int) :
    Safe contentId Q sources t fun s => Sound contentId Q s ∧ OnTime sources t s where
  readAs := hsources
  aside s s' h hs := by
    refine ⟨hs.1.aside h, fun incoming hin r hr => ?_⟩
    rw [h.allocationIndex] at hr
    exact hs.2 incoming hin r hr
  row incoming hin source basis raw a s s' hheld hraw hkind hrow hs := by
    obtain ⟨hsound, htime⟩ := hs
    have hsource := (hsources incoming hin).like hheld.like
    have hnoted := hrow.noted hsource hraw hkind
    have hupheld := hrow.upheld hnoted
    have hcharging := (charging_safe hsources t).row incoming hin source basis raw a s s' hheld
      hraw hkind hrow ⟨hsound.assigned, hsound.bounded, htime⟩
    have hverified := hrow.verified hQ hheld hsource hraw hkind hsound.assigned hsound.filed
      hsound.owned
    have hledger : bareLedger s' = bareLedger s := hrow.bareLedger
    obtain ⟨_, fee, s₁, q, _, hretain, _, _, _, hall⟩ := hrow.allocated
    have haside : Aside contentId (fun _ => True) s s₁ :=
      retainFeeActivity_aside trivial _ _ _ _ hretain
    have hindex := hall.allocationIndex
    have hfreshId := hall.freshId
    rw [haside.allocationIndex] at hindex hfreshId
    refine ⟨⟨hcharging.assigned, hcharging.bounded, hnoted.filedKept hsound.filed,
      fun r hr => ?_, fun e he b hb => ?_⟩, hcharging.onTime⟩
    · rw [hindex, Table.mem_insert hfreshId] at hr
      rcases hr with hold | rfl
      · obtain ⟨v, hv⟩ := hsound.verified r hold
        refine ⟨v, verifyAllocation_kept hupheld (fun b source _ _ => ?_) hv (le_refl _)⟩
        rw [← entryBasis_bareLedger s', hledger, entryBasis_bareLedger]
      · exact hverified
    · obtain ⟨e₀, he₀, hnew, hevent⟩ := hall.event
      have hold : e ∈ s.ownerEvents.rows → ∃ r ∈ s'.allocationIndex.rows, ∃ a',
          s'.allocation? r.id = some a' ∧ a'.activityId = e.payload.eventId ∧
          a'.externalEventId = e.id ∧ r.reference = b.lotId ∧ r.availableAt = b.recognizedAt := by
        intro hmem
        obtain ⟨r, hr, a', ha', hrest⟩ := hsound.owned e hmem b hb
        refine ⟨r, ?_, a', ?_, hrest⟩
        · rw [hindex]
          exact Table.mem_insert_of_mem hr
        · rw [hsound.assigned.allocation?_kept hnoted.documents hr]
          exact ha'
      rcases hnew e he with hmem | rfl
      · rw [haside.ownerEvents] at hmem
        exact hold hmem
      rcases hevent with ⟨hmem, _⟩ | hpayload
      · rw [haside.ownerEvents] at hmem
        exact hold hmem
      -- the event of this allocation
      obtain ⟨hneg, ha⟩ := hall.allocation
      rw [hpayload] at hb
      cases hb
      have hmem : (⟨contentId (.document (.allocation a)), basis.lotId, t⟩ : IndexRow) ∈
          s'.allocationIndex.rows := by
        rw [hindex, Table.mem_insert hfreshId]
        exact .inr rfl
      refine ⟨_, hmem, a, FeeStore.allocation?_eq.2 hall.stored, ?_, ?_, rfl, rfl⟩
      · rw [hpayload, ha]
        rfl
      · exact (Table.get?_some he₀).2.symm

/-! ## What the reader answers -/

/-- At `asOf` the index shows of a lot what was recorded by then. -/
def Aligned (s : FeeStore) (lot : String) (asOf : Int) : Prop :=
  ∀ r ∈ s.allocationIndex.rows, r.reference = lot →
    (r.availableAt ≤ asOf ↔ textRank r.availableAt ≤ textRank asOf)

theorem LotAssetFees.add_of {t : LotAssetFees}
    (hbound : t.quantity + v.allocation.quantity ≤ v.basis.boughtQuantity)
    (hnew : v.fee.activityId ∉ t.feeIds) : ∃ t', t.add v = .ok t' ∧
      t'.quantity = t.quantity + v.allocation.quantity ∧
      t'.allocationIds = t.allocationIds ++ [v.id] ∧ t'.feeIds = t.feeIds ++ [v.fee.activityId] ∧
      t'.externalEventIds = t.externalEventIds ++ [v.allocation.externalEventId] := by
  refine ⟨_, if_neg ?_, rfl, rfl, rfl, rfl⟩; rw [not_or]
  exact ⟨not_lt.2 hbound, hnew⟩

/-- Verified allocations of distinct activities, within what was bought, are added up. -/
theorem tally_of {vs : List VerifiedFee} {t : LotAssetFees}
    (hall : ∀ v ∈ vs, verifyAllocation contentId s lot asOf v.id = .ok v)
    (hsum : ∀ v ∈ vs, t.quantity + (vs.map (·.allocation.quantity)).sum ≤ v.basis.boughtQuantity)
    (hfees : (vs.map (·.fee.activityId)).Nodup) (hnew : ∀ v ∈ vs, v.fee.activityId ∉ t.feeIds) :
    ∃ t', tally contentId s lot asOf t (vs.map (·.id)) = .ok t' ∧
      t'.allocationIds = t.allocationIds ++ vs.map (·.id) ∧
      t'.externalEventIds = t.externalEventIds ++ vs.map (·.allocation.externalEventId) := by
  induction vs generalizing t with
  | nil => exact ⟨t, rfl, (List.append_nil _).symm, (List.append_nil _).symm⟩
  | cons v vs ih =>
    have hv := hall v (List.mem_cons_self ..)
    have hbound := hsum v (List.mem_cons_self ..)
    have hrest : 0 ≤ (vs.map (·.allocation.quantity)).sum := by
      refine List.sum_nonneg fun x hx => ?_
      obtain ⟨w, _, rfl⟩ := List.mem_map.1 hx
      exact w.allocation.quantity_pos.le
    obtain ⟨hnotin, hnodup⟩ := List.nodup_cons.1 hfees
    rw [List.map_cons, List.sum_cons] at hbound
    obtain ⟨t₁, hadd, hquantity, hids₁, hfees₁, hexternal₁⟩ :=
      LotAssetFees.add_of (t := t) (v := v) (by linarith) (hnew v (List.mem_cons_self ..))
    obtain ⟨t', htally, hids, hexternal⟩ := ih (t := t₁)
      (fun w hw => hall w (List.mem_cons_of_mem _ hw))
      (fun w hw => by
        have hw' := hsum w (List.mem_cons_of_mem _ hw)
        rw [List.map_cons, List.sum_cons, ← add_assoc, ← hquantity] at hw'
        exact hw')
      hnodup
      (fun w hw hmem => by
        rw [hfees₁] at hmem; rcases List.mem_append.1 hmem with hmem | hmem
        · exact hnew w (List.mem_cons_of_mem _ hw) hmem
        · exact hnotin (List.mem_map.2 ⟨w, hw, List.mem_singleton.1 hmem⟩))
    refine ⟨t', ?_, ?_, ?_⟩
    · rw [List.map_cons]
      exact except_bind_ok.2 ⟨v, hv, except_bind_ok.2 ⟨t₁, hadd, htally⟩⟩
    · rw [hids, hids₁, List.map_cons, List.append_assoc]; rfl
    · rw [hexternal, hexternal₁, List.map_cons, List.append_assoc]; rfl

theorem verified_rows {rows : List IndexRow}
    (h : ∀ r ∈ rows, ∃ v, verifyAllocation contentId s lot asOf r.id = .ok v) :
    ∃ vs : List VerifiedFee, vs.map (·.id) = rows.map (·.id) ∧
      ∀ v ∈ vs, verifyAllocation contentId s lot asOf v.id = .ok v := by
  induction rows with
  | nil => exact ⟨[], rfl, fun _ h => (by cases h)⟩
  | cons r rows ih =>
    obtain ⟨v, hv⟩ := h r (List.mem_cons_self ..)
    obtain ⟨vs, hids, hall⟩ := ih fun r hr => h r (List.mem_cons_of_mem _ hr)
    have hid := (verifyAllocation_ok hv).1
    refine ⟨v :: vs, by rw [List.map_cons, List.map_cons, hids, hid], fun w hw => ?_⟩
    rcases List.mem_cons.1 hw with rfl | hw
    · rw [hid]; exact hv
    · exact hall w hw

theorem verifyAllocation_stored (h : verifyAllocation contentId s lot asOf id = .ok v) :
    s.allocation? v.id = some v.allocation ∧ v.basis.orderId = v.allocation.orderId ∧
      v.basis.boughtQuantity = s.core.filled v.allocation.orderId ∧
      (s.activityIndex.get? (contentId (.activity s.account v.fee.activityId))).map
        (·.reference) = some v.id := by
  obtain ⟨rfl, source, raw, parsed, e, ha, _, _, hentry, _, _, _, hverified⟩ :=
    verifyAllocation_ok h
  obtain ⟨d, hd, hkind, _⟩ := document_ok.1 ha; rw [allocation?_some] at hkind
  subst hkind; obtain ⟨o, _, _, _, hbought⟩ := entryBasis_order hentry
  refine ⟨FeeStore.allocation?_eq.2 hd, hverified.orderId.symm, ?_, hverified.assigned⟩
  rw [hbought, hverified.orderId]

/-- Where everything committed is sound, the reader answers, with all that was recorded. -/
theorem Sound.answers (h : Sound contentId Q s) (haligned : Aligned s lot asOf) :
    ∃ fees, lotAssetFees contentId s lot asOf = .ok fees ∧
      ∀ r ∈ s.allocationIndex.rows, r.reference = lot → r.availableAt ≤ asOf →
        r.id ∈ fees.allocationIds := by
  have hshown : ∀ r ∈ shown s lot asOf,
      r ∈ s.allocationIndex.rows ∧ r.reference = lot ∧ r.availableAt ≤ asOf := fun r hr => by
    obtain ⟨hmem, hr⟩ := List.mem_filter.1 hr
    obtain ⟨hlot, hrank⟩ := of_decide_eq_true hr
    exact ⟨hmem, hlot, (haligned r hmem hlot).2 hrank⟩
  have hin : ∀ r ∈ s.allocationIndex.rows, r.reference = lot → r.availableAt ≤ asOf →
      r ∈ shown s lot asOf := fun r hr hlot hle =>
    List.mem_filter.2 ⟨hr, decide_eq_true ⟨hlot, (haligned r hr hlot).1 hle⟩⟩
  have hverify : ∀ r ∈ shown s lot asOf,
      ∃ v, verifyAllocation contentId s lot asOf r.id = .ok v := fun r hr => by
    obtain ⟨hmem, hlot, hle⟩ := hshown r hr; obtain ⟨v, hv⟩ := h.verified r hmem
    rw [hlot] at hv
    exact ⟨v, verifyAllocation_kept ⟨rfl, ⟨rfl, rfl⟩, fun _ h => h, fun _ h => h, fun _ h => h⟩
      (fun _ _ _ _ => rfl) hv hle⟩
  obtain ⟨vs, hids, hall⟩ := verified_rows hverify
  have hrow : ∀ v ∈ vs, ∃ r ∈ shown s lot asOf, r.id = v.id := fun v hv => by
    have hmem : v.id ∈ (shown s lot asOf).map (·.id) := hids ▸ List.mem_map_of_mem hv
    exact List.mem_map.1 hmem
  have hcharged : (vs.map (·.allocation.quantity)).sum ≤ s.charged lot := by
    have hquantity : vs.map (·.allocation.quantity) =
        (shown s lot asOf).map fun r => (s.allocation? r.id).elim 0 (·.quantity) := by
      calc vs.map (·.allocation.quantity)
          = (vs.map (·.id)).map fun id => (s.allocation? id).elim 0 (·.quantity) := by
            rw [List.map_map]; refine List.map_congr_left fun v hv => ?_
            show v.allocation.quantity = (s.allocation? v.id).elim 0 (·.quantity)
            rw [(verifyAllocation_stored (hall v hv)).1]; rfl
        _ = _ := by
            rw [hids, List.map_map]; rfl
    rw [hquantity]
    have hnodup : s.allocationIndex.rows.Nodup := List.Nodup.of_map _ s.allocationIndex.nodup
    refine sum_le_of_subset (hnodup.filter _) (fun r hr => ?_) fun r _ => ?_
    · obtain ⟨hmem, hlot, _⟩ := hshown r hr
      exact List.mem_filter.2 ⟨hmem, decide_eq_true hlot⟩
    · cases s.allocation? r.id with
      | none => exact le_refl _
      | some a => exact a.quantity_pos.le
  have hfees : (vs.map (·.fee.activityId)).Nodup := by
    refine List.Nodup.of_map (fun id =>
      (s.activityIndex.get? (contentId (.activity s.account id))).map (·.reference)) ?_
    have hsame : (vs.map (·.fee.activityId)).map (fun id =>
        (s.activityIndex.get? (contentId (.activity s.account id))).map (·.reference)) =
        (vs.map (·.id)).map some := by
      rw [List.map_map, List.map_map]
      exact List.map_congr_left fun v hv => (verifyAllocation_stored (hall v hv)).2.2.2
    rw [hsame, hids]; refine List.Nodup.map (Option.some_injective _) ?_
    exact (s.allocationIndex.nodup.sublist ((List.filter_sublist).map _))
  have hwithin : ∀ v ∈ vs, ({} : LotAssetFees).quantity + (vs.map (·.allocation.quantity)).sum ≤
      v.basis.boughtQuantity := fun v hv => by
    obtain ⟨r, hr, hid⟩ := hrow v hv; obtain ⟨hmem, hlot, _⟩ := hshown r hr
    obtain ⟨ha, _, hbought, _⟩ := verifyAllocation_stored (hall v hv)
    rw [← hid] at ha; have hbound := h.bounded r hmem v.allocation ha
    rw [hlot] at hbound; rw [hbought]; rw [zero_add]
    exact hcharged.trans hbound
  obtain ⟨t, htally, halloc, hexternal⟩ := tally_of (t := {}) hall hwithin hfees
    fun _ _ hmem => by cases hmem
  refine ⟨t.sorted, ?_, fun r hr hlot hle => ?_⟩
  · refine except_bind_ok.2 ⟨t, hids ▸ htally, ?_⟩; rw [if_neg]
    · rfl
    intro horphaned; obtain ⟨e, he, hbound⟩ := List.any_eq_true.1 horphaned
    obtain ⟨hsome, hb'⟩ := (Option.any_eq_true_iff_get _ _).1 hbound
    have hb := Option.get_mem hsome
    generalize e.payload.binding.get hsome = b at hb hb'
    obtain ⟨hlot, hle, hnotin⟩ := of_decide_eq_true hb'
    obtain ⟨r, hr, a, ha, _, hid, hreference, htime⟩ := h.owned e he b hb
    have hmem : r.id ∈ vs.map (·.id) := by
      rw [hids]
      exact List.mem_map_of_mem (hin r hr (hreference.trans hlot) (htime ▸ hle))
    obtain ⟨v, hv, hvid⟩ := List.mem_map.1 hmem
    have hv' := (verifyAllocation_stored (hall v hv)).1; rw [hvid, ha] at hv'
    cases hv'; rw [hexternal] at hnotin
    exact hnotin (List.mem_append_right _ (List.mem_map.2 ⟨v, hv, hid⟩))
  · have hmem : r.id ∈ t.allocationIds := by
      rw [halloc, hids]
      exact List.mem_append_right _ (List.mem_map_of_mem (hin r hr hlot hle))
    exact (List.perm_insertionSort _ _).mem_iff.2 hmem

/-! ## Runs -/

/-- A write of the ledger leaves what the entries of charged lots were based on: their links and
intents, their order rows and fills, the evidence that closed them, the baseline and the
commission. -/
def EntriesKept (s s' : FeeStore) : Prop :=
  s'.commission = s.commission ∧
    ∀ r ∈ s.allocationIndex.rows, ∀ a source, s.document? r.id = some (.allocation a) →
      s.document? a.queryDocumentId = some (.query source) →
      entryFacts s'.core r.reference source.recordedAt =
        entryFacts s.core r.reference source.recordedAt

/-- Captures are recorded in order, rows are read as `Q`, and the ledger leaves the entries of
charged lots alone. -/
def Steady (contentId : FeeContentId) (Q : CryptoFeeActivity → Prop) (s : FeeStore) :
    FeeMove → FeeStore → Prop
  | .capture sources t _, _ => OnTime sources t s ∧ ∀ source ∈ sources, ReadAs contentId Q source
  | .activity raw aliases sourceId _, _ =>
    ∀ read, parse contentId raw aliases sourceId = .ok read → Q read
  | .external _, _ => True
  | .ledger, s' => EntriesKept s s'

theorem sound_init (h : (feeRuns contentId).init s) : Sound contentId Q s where
  assigned := assigned_inductive.init s h
  bounded r hr := by
    rw [h.2.2.2.1] at hr
    cases hr
  filed r hr := by
    rw [h.1] at hr
    cases hr
  verified r hr := by
    rw [h.2.2.2.1] at hr
    cases hr
  owned e he := by
    rw [h.2.1] at he
    cases he

theorem recordExternal_events {e : OwnerEvent} (hnone : e.binding = none) (s : FeeStore) :
    ∀ x ∈ (after (immediate (recordExternal contentId e)) s).ownerEvents.rows,
      x ∈ s.ownerEvents.rows ∨ x.payload.binding = none := by
  cases hrun : immediate (recordExternal contentId e) s with
  | error _ s' =>
    have hsame := immediate_error hrun; subst hsame; unfold after
    rw [hrun]; exact fun _ hx => .inl hx
  | ok u s' =>
    rw [after_ok hrun]; have h := immediate_ok.1 hrun
    unfold recordExternal at h; dsimp only at h; split at h
    · split at h
      · obtain ⟨rfl⟩ := h; exact fun _ hx => .inl hx
      · cases h
    obtain ⟨rfl⟩ := h; intro x hx
    rcases Table.mem_of_mem_insert hx with hx | rfl
    · exact .inl hx
    · exact .inr hnone

theorem Owned.bareLedger (h : Owned contentId s s') : bareLedger s' = bareLedger s := by
  have hledger := congrArg Fees.bareLedger h.same; exact hledger

theorem Owned.upheld (h : Owned contentId s s') : Upheld s s' where
  config := congrArg (·.core.config) h.bareLedger
  store := ⟨congrArg (·.storeIdentity) h.same, congrArg (·.configId) h.same⟩
  documents r hr := by
    rw [show s'.acquisitions = s.acquisitions from congrArg (·.acquisitions) h.same]
    exact hr
  activities r hr := by
    rw [show s'.activityIndex = s.activityIndex from congrArg (·.activityIndex) h.same]
    exact hr
  events := h.events

theorem Written.upheld (h : Written contentId s s') : Upheld s s' where
  config := h.config
  store := ⟨congrArg (·.storeIdentity) h.own, congrArg (·.configId) h.own⟩
  documents r hr := by
    rw [show s'.acquisitions = s.acquisitions from congrArg (·.acquisitions) h.own]
    exact hr
  activities r hr := by
    rw [show s'.activityIndex = s.activityIndex from congrArg (·.activityIndex) h.own]
    exact hr
  events e he := by
    rw [show s'.ownerEvents = s.ownerEvents from congrArg (·.ownerEvents) h.own]
    exact he

theorem Written.entryBasis (h : Written contentId s s') (hcommission : s'.commission = s.commission)
    (hfacts : entryFacts s'.core lot t = entryFacts s.core lot t) :
    entryBasis contentId s' lot t false = entryBasis contentId s lot t false := by
  have hbaseline : s'.baselineAccountId = s.baselineAccountId :=
    congrArg (·.baselineAccountId) h.own
  unfold Fees.entryBasis; rw [h.config, hcommission, hbaseline, hfacts]; rfl

theorem sound_inductive (hQ : Alike Q) :
    ((feeRuns contentId).restrict (Steady contentId Q)).Inductive (Sound contentId Q) where
  init s h := sound_init h
  step s l s' hs h := by
    obtain ⟨hstep, hsteady⟩ := h
    cases l with
    | capture sources t observed =>
      obtain rfl : s' = _ := hstep
      have hsafe := sound_safe hQ hsteady.2 t
      exact ((retainOrderFeeAllocations_keeps hsafe observed).after s ⟨hs, hsteady.1⟩).1
    | activity raw aliases sourceId t =>
      obtain rfl : s' = _ := hstep
      have hmoves : Moves (Aside contentId Q) (readActivity contentId raw aliases sourceId t) :=
        readActivity_aside hsteady t
      exact hs.aside (hmoves.after s)
    | external event =>
      obtain ⟨hnone, rfl⟩ := hstep
      have howned : Owned contentId s _ := (recordExternal_owned event).after s
      refine hs.kept howned.noted howned.upheld (congrArg (·.activityIndex) howned.same)
        (congrArg (·.allocationIndex) howned.same) (fun f hf => ?_) (fun r _ a source _ _ => ?_)
        (recordExternal_events hnone s)
      · rw [← howned.same] at hf
        exact hf
      · rw [← entryBasis_bareLedger, howned.bareLedger, entryBasis_bareLedger]
    | ledger =>
      have hwritten : Written contentId s s' := hstep
      have hkept : EntriesKept s s' := hsteady
      refine hs.kept hwritten.noted hwritten.upheld (congrArg (·.activityIndex) hwritten.own)
        (congrArg (·.allocationIndex) hwritten.own) hwritten.fills
        (fun r hr a source ha hsource => ?_) fun e he => ?_
      · exact hwritten.entryBasis hkept.1 (hkept.2 r hr a source ha hsource)
      · rw [show s'.ownerEvents = s.ownerEvents from congrArg (·.ownerEvents) hwritten.own] at he
        exact .inl he

/-- **What the writer commits, the reader accepts.** In every run that reads a digest one way,
records captures in order and leaves the entries of charged lots alone, a committed allocation
is among what `lot_asset_fees` answers at every later time that the index places as the clock
does. -/
theorem allocations_stay_verified (hQ : Alike Q) {s : FeeStore}
    (h : ((feeRuns contentId).restrict (Steady contentId Q)).Reachable s) {r : IndexRow}
    (hr : r ∈ s.allocationIndex.rows) {asOf : Int} (hlater : r.availableAt ≤ asOf)
    (haligned : Aligned s r.reference asOf) :
    ∃ fees, lotAssetFees contentId s r.reference asOf = .ok fees ∧ r.id ∈ fees.allocationIds := by
  obtain ⟨fees, hfees, hall⟩ := ((sound_inductive hQ).reachable h).answers haligned
  exact ⟨fees, hfees, hall r hr rfl hlater⟩

/-- The readings of the coin's fees. -/
def coinReading (f : CryptoFeeActivity) : Prop :=
  ∃ sourceId, parse feeLabel (coinFee "A" (-3/5)) [("BTCUSD", "BTC/USD")] sourceId = .ok f

theorem coinReading_alike : Alike coinReading := by
  rintro f f' ⟨sourceId, hf⟩ ⟨sourceId', hf'⟩ _; cases hf; cases hf'; rfl

/-- The captured coin fee, a moment later. -/
theorem allocations_stay_verified_coin :
    ∃ fees, lotAssetFees feeLabel (chargedStore 7) "lot" 8 = .ok fees ∧
      "allocation:A" ∈ fees.allocationIds := by
  have hreach : ((feeRuns feeLabel).restrict (Steady feeLabel coinReading)).Reachable
      (chargedStore 7) := by
    refine ⟨coinStore, [.capture [coinQuery 6 [coinFee "A" (-3/5)]] 7 []], coinStore_init,
      .cons ⟨rfl, fun incoming _ r hr => (by cases hr), fun source hsource raw hraw _ sourceId read
        hread => ?_⟩ (.nil _)⟩
    cases List.mem_singleton.1 hsource; cases List.mem_singleton.1 hraw
    exact ⟨sourceId, hread⟩
  exact allocations_stay_verified coinReading_alike hreach (r := ⟨"allocation:A", "lot", 7⟩)
    (by decide +kernel) (by decide) (fun r hr _ => by
      have hrows : ∀ r ∈ (chargedStore 7).allocationIndex.rows,
          (r.availableAt ≤ 8 ↔ textRank r.availableAt ≤ textRank 8) := by decide +kernel
      exact hrows r hr)

/-- The coin's order with another average price. -/
def repricedOrder : BrokerOrder := { coinOrder with filledAveragePrice := some 101 }

def repriced (s : FeeStore) : FeeStore :=
  { s with core := { s.core with
      toStore := after (updateBrokerOrderLifecycle repricedOrder) s.core.toStore } }

/-- A lifecycle update of the entry order is accepted, and no allocation of the lot any more;
and an allocation that was recorded at a whole second is refused within that second. -/
theorem committed_allocations_refused : ((feeRuns feeLabel).Reachable (repriced (chargedStore 7)) ∧
      Returns (updateBrokerOrderLifecycle repricedOrder) (chargedStore 7).core.toStore true ∧
      (⟨"allocation:A", "lot", 7⟩ : IndexRow) ∈ (repriced (chargedStore 7)).allocationIndex.rows ∧
      lotAssetFees feeLabel (repriced (chargedStore 7)) "lot" 8 =
        conflict "CRYPTO_FEE_ENTRY_FILLS_UNVERIFIED") ∧
    (feeRuns feeLabel).Reachable (chargedStore 1000000) ∧
      (⟨"allocation:A", "lot", 1000000⟩ : IndexRow) ∈ (chargedStore 1000000).allocationIndex.rows ∧
      lotAssetFees feeLabel (chargedStore 1000000) "lot" 1300000 = conflict unverified := by
  refine ⟨⟨?_, by decide +kernel, by decide +kernel, by decide +kernel⟩,
    chargedStore_reachable _, by decide +kernel, by decide +kernel⟩
  refine (chargedStore_reachable 7).step (l := FeeMove.ledger) ⟨rfl, rfl, ?_, fun _ => rfl⟩
  decide +kernel

end Quantbot.L4.Fees
