import Mathlib.Tactic.Ring
import Quantbot.L4PaperCore.FeeAllocation

/-!
# No fee is charged twice

What a call of `retain_order_fee_allocations` writes, and what follows over runs of calls
among other writers of the ledger: the writes beside an allocation (`Aside`) and an
allocation itself (`Allocated`).
-/
namespace Quantbot.L4.Fees

open Core Txn L1 L2

variable {contentId : FeeContentId} {Q : CryptoFeeActivity → Prop}

/-! ## Writes beside an allocation -/

/-- The ledger without what is written about it: work, incidents, outcomes and cursors. -/
def bareCore (c : CoreStore) : CoreStore :=
  { c with
    incidents := .empty
    outcomeIndex := .empty
    work := .empty
    notifications := .empty
    sourceCursors := .empty
    externalEvents := []
    journal := [] }

/-- The store without documents, cursors and gaps. -/
def bare (s : FeeStore) : FeeStore :=
  { s with
    core := bareCore s.core
    acquisitions := .empty
    queryCursors := .empty
    rotations := .empty
    gapIndex := .empty }

/-- The cursor of an activity. -/
def FeeStore.feeCursor? (contentId : FeeContentId) (s : FeeStore) (id : String) :
    Option SourceCursor :=
  s.core.sourceCursors.get? (contentId (.feeCursor s.account id))

/-- Documents are filed under their ids, fees as `Q` reads them. A fee cursor whose fee has a
symbol stays, and one that moves is of the fee it is filed under. -/
structure Noted (contentId : FeeContentId) (Q : CryptoFeeActivity → Prop) (s s' : FeeStore) :
    Prop where
  account : s'.account = s.account
  documents : ∀ r ∈ s.acquisitions.rows, r ∈ s'.acquisitions.rows
  filed : ∀ r ∈ s'.acquisitions.rows, r ∈ s.acquisitions.rows ∨
    r.id = contentId (.document r.payload) ∧ ∀ f, r.payload = .fee f → Q f
  kept : ∀ id c f, s.feeCursor? contentId id = some c → s.document? c.eventId = some (.fee f) →
    f.symbol.isSome = true → s'.feeCursor? contentId id = some c
  moved : ∀ id c, s'.feeCursor? contentId id = some c → s.feeCursor? contentId id = some c ∨
    ∃ f, s'.document? c.eventId = some (.fee f) ∧
      c.sourceId = contentId (.feeCursor s.account f.activityId)

variable {d : FeeDocument} {s s' : FeeStore} {id lot : String}

theorem document?_kept (h : ∀ r ∈ s.acquisitions.rows, r ∈ s'.acquisitions.rows)
    (hd : s.document? id = some d) : s'.document? id = some d := by
  unfold FeeStore.document? at *
  obtain ⟨r, hr, rfl⟩ := Option.map_eq_some_iff.1 hd; rw [Table.get?_kept h hr]
  rfl

instance : IsPreorder FeeStore (Noted contentId Q) where
  refl _ := ⟨rfl, fun _ h => h, fun _ h => .inl h, fun _ _ _ h _ _ => h, fun _ _ h => .inl h⟩
  trans s s' s'' h h' := by
    refine ⟨h'.account.trans h.account, fun r hr => h'.documents r (h.documents r hr),
      fun r hr => ?_, fun id c f hc hf hsome => ?_, fun id c hc => ?_⟩
    · rcases h'.filed r hr with hr | hnew
      · exact h.filed r hr
      · exact .inr hnew
    · exact h'.kept id c f (h.kept id c f hc hf hsome) (document?_kept h.documents hf) hsome
    · rcases h'.moved id c hc with hc | ⟨f, hf, hkey⟩
      · refine (h.moved id c hc).imp_right fun ⟨f, hf, hkey⟩ => ?_
        exact ⟨f, document?_kept h'.documents hf, hkey⟩
      · rw [h.account] at hkey
        exact .inr ⟨f, hf, hkey⟩

theorem Noted.mono {Q' : CryptoFeeActivity → Prop} (h : Noted contentId Q s s')
    (hQ : ∀ f, Q f → Q' f) : Noted contentId Q' s s' where
  account := h.account
  documents := h.documents
  filed r hr := (h.filed r hr).imp_right fun ⟨hid, hf⟩ => ⟨hid, fun f hfee => hQ f (hf f hfee)⟩
  kept := h.kept
  moved := h.moved

theorem Noted.of_cursors (haccount : s'.account = s.account)
    (hdocuments : s'.acquisitions = s.acquisitions)
    (hcursors : ∀ id, s'.feeCursor? contentId id = s.feeCursor? contentId id) :
    Noted contentId Q s s' where
  account := haccount
  documents r hr := by
    rw [hdocuments]
    exact hr
  filed r hr := by
    rw [hdocuments] at hr
    exact .inl hr
  kept id _ _ hc _ _ := (hcursors id).trans hc
  moved id _ hc := .inl ((hcursors id).symm.trans hc)

/-- Notes are taken, and nothing else that an allocation rests on changes. -/
structure Aside (contentId : FeeContentId) (Q : CryptoFeeActivity → Prop) (s s' : FeeStore) :
    Prop where
  same : bare s' = bare s
  noted : Noted contentId Q s s'

instance : IsPreorder FeeStore (Aside contentId Q) where
  refl s := ⟨rfl, refl_of (Noted contentId Q) s⟩
  trans _ _ _ h h' := ⟨h'.same.trans h.same, trans_of (Noted contentId Q) h.noted h'.noted⟩

theorem putFee_aside (hd : ∀ f, d = .fee f → Q f) :
    Moves (Aside contentId Q) (putFee contentId d) := by
  intro s u s' h; unfold putFee at h; split at h
  · split at h
    · obtain ⟨rfl⟩ := h; exact refl_of (Aside contentId Q) _
    · cases h
  obtain ⟨rfl⟩ := h
  refine ⟨rfl, ⟨rfl, fun _ hr => Table.mem_insert_of_mem hr, fun r hr => ?_,
    fun _ _ _ h _ _ => h, fun _ _ h => .inl h⟩⟩
  rcases Table.mem_of_mem_insert hr with hr | rfl
  · exact .inl hr
  · exact .inr ⟨rfl, hd⟩

theorem putQuery_aside (source : OrderFeeQueryEvidence) :
    Moves (Aside contentId Q) (putFee contentId (.query source)) :=
  putFee_aside fun _ h => by cases h

variable {u : PUnit}

theorem putFee_core (h : putFee contentId d s = .ok u s') : s'.core = s.core := by
  unfold putFee at h; split at h
  · split at h
    · obtain ⟨rfl⟩ := h; rfl
    · cases h
  · obtain ⟨rfl⟩ := h; rfl

theorem putFee_stored (h : putFee contentId d s = .ok u s') :
    s'.document? (contentId (.document d)) = some d := by
  unfold putFee at h; unfold FeeStore.document?; split at h
  · rename_i existing hexisting; split at h
    · rename_i hpayload; obtain ⟨rfl⟩ := h
      rw [hexisting, Option.map_some, hpayload]
    · cases h
  · rename_i hnone; obtain ⟨rfl⟩ := h; rw [Table.get?_insert hnone, if_pos rfl]
    rfl

theorem moveCursors_aside (source : OrderFeeQueryEvidence) (t : Int) :
    Moves (Aside contentId Q) (moveCursors contentId source t) :=
  Moves.modify fun _ => ⟨rfl, .of_cursors rfl rfl fun _ => rfl⟩

variable {a : OrderFeeAllocation}

theorem allocation?_some : d.allocation? = some a ↔ d = .allocation a := by
  cases d <;> simp [FeeDocument.allocation?]

theorem query?_some {q : OrderFeeQueryEvidence} : d.query? = some q ↔ d = .query q := by
  cases d <;> simp [FeeDocument.query?]

variable {f : CryptoFeeActivity}

theorem fee?_some : d.fee? = some f ↔ d = .fee f := by
  cases d <;> simp [FeeDocument.fee?]

/-- A fee is stored, and its cursor moved to it. -/
structure FeeStored (contentId : FeeContentId) (e : CryptoFeeActivity) (t : Int)
    (s s' : FeeStore) : Prop where
  same : bare s' = bare s
  documents : ∀ r ∈ s.acquisitions.rows, r ∈ s'.acquisitions.rows
  filed : ∀ r ∈ s'.acquisitions.rows, r ∈ s.acquisitions.rows ∨
    r.id = contentId (.document r.payload) ∧ ∀ f, r.payload = .fee f → f = e
  stored : s'.document? (contentId (.document (.fee e))) = some (.fee e)
  cursors : s'.core.sourceCursors = s.core.sourceCursors.upsert
    ⟨contentId (.feeCursor s.account e.activityId), t, contentId (.document (.fee e))⟩
  unread : ∀ c, s.core.sourceCursors.get? (contentId (.feeCursor s.account e.activityId)) =
    some c → ∀ f, s.document? c.eventId = some (.fee f) → f.symbol = none

variable {e fee : CryptoFeeActivity} {asOf t : Int}

/-- The activity under a cursor is what is answered, as it was read first or as it is now. -/
theorem retainFeeActivity_ok (h : retainFeeActivity contentId e t s = .ok f s') :
    f = e ∧ FeeStored contentId e t s s' ∨
    s' = s ∧ f.rawDigest = e.rawDigest ∧ (f.symbol.isSome = true ∨ e.symbol = none) ∧
      ∃ c, s.core.sourceCursors.get? (contentId (.feeCursor s.account e.activityId)) = some c ∧
        s.document? c.eventId = some (.fee f) := by
  have hstore : (do
      moveFeeCursor
        ⟨contentId (.feeCursor s.account e.activityId), t, contentId (.document (.fee e))⟩
      putFee contentId (.fee e)
      pure e : FeeTxn _) s = .ok f s' →
      (∀ c, s.core.sourceCursors.get? (contentId (.feeCursor s.account e.activityId)) =
        some c → ∀ f, s.document? c.eventId = some (.fee f) → f.symbol = none) →
      f = e ∧ FeeStored contentId e t s s' := by
    intro h hunread; rw [bind_ok] at h; obtain ⟨_, s₁, hmove, h⟩ := h
    rw [moveFeeCursor, modify_ok] at hmove; rw [bind_ok] at h
    obtain ⟨_, s₂, hput, h⟩ := h; obtain ⟨rfl, rfl⟩ := pure_ok.1 h
    have haside : Aside contentId (fun f => f = e) s₁ s₂ :=
      putFee_aside (fun _ h => (FeeDocument.fee.inj h).symm) _ _ _ hput
    have hacquired : s₁.acquisitions = s.acquisitions := by
      rw [hmove]
    refine ⟨rfl, ⟨haside.same.trans ?_, fun r hr => haside.noted.documents r ?_, fun r hr => ?_,
      putFee_stored hput, ?_, hunread⟩⟩
    · rw [hmove]; rfl
    · rw [hacquired]; exact hr
    · rw [← hacquired]; exact haside.noted.filed r hr
    · rw [putFee_core hput, hmove]
  unfold retainFeeActivity at h; rw [bind_ok] at h; obtain ⟨_, s₀, hget, h⟩ := h
  obtain ⟨rfl, rfl⟩ := get_ok.1 hget
  cases hc : s₀.core.sourceCursors.get? (contentId (.feeCursor s₀.account e.activityId)) with
  | none =>
    simp only [hc] at h; exact .inl (hstore h (by simp [hc]))
  | some c =>
    simp only [hc] at h
    cases hold : (s₀.document? c.eventId).bind FeeDocument.fee? with
    | none => simp only [hold, throw_ok] at h
    | some old =>
      simp only [hold] at h
      obtain ⟨d, hd, hfee⟩ := Option.bind_eq_some_iff.1 hold
      rw [fee?_some] at hfee; subst hfee; rw [bind_ok] at h
      obtain ⟨_, s₁, hrequire, h⟩ := h
      obtain ⟨⟨hdigest, _⟩, rfl⟩ := require_ok.1 hrequire; split at h
      · rename_i hkept; obtain ⟨rfl, rfl⟩ := pure_ok.1 h
        exact .inr ⟨rfl, hdigest, hkept, c, rfl, hd⟩
      rename_i hunread; refine .inl (hstore h fun c' hc' f hf => ?_)
      cases hc.symm.trans hc'; cases hd.symm.trans hf
      exact Option.not_isSome_iff_eq_none.1 fun h => hunread (.inl h)

theorem FeeStored.aside (h : FeeStored contentId e t s s') (hQ : Q e) : Aside contentId Q s s' := by
  have haccount : s'.account = s.account := congrArg (·.core.config.accountId) h.same
  have hcursor : ∀ id, s'.feeCursor? contentId id =
      if contentId (.feeCursor s.account e.activityId) = contentId (.feeCursor s.account id) then
        some ⟨contentId (.feeCursor s.account e.activityId), t, contentId (.document (.fee e))⟩
      else s.feeCursor? contentId id := fun id => by
    unfold FeeStore.feeCursor?; rw [haccount, h.cursors, Table.get?_upsert]
  refine ⟨h.same, ⟨haccount, h.documents, fun r hr => ?_,
    fun id c f hc hf hsome => ?_, fun id c hc => ?_⟩⟩
  · refine (h.filed r hr).imp_right fun ⟨hid, he⟩ => ⟨hid, fun f hf => ?_⟩
    rw [he f hf]; exact hQ
  · rw [hcursor, if_neg]
    · exact hc
    intro heq; unfold FeeStore.feeCursor? at hc; rw [← heq] at hc
    rw [h.unread c hc f hf] at hsome; cases hsome
  · rw [hcursor] at hc; split at hc
    · cases hc; exact .inr ⟨e, h.stored, rfl⟩
    · exact .inl hc

theorem retainFeeActivity_aside (hQ : Q e) (t : Int) :
    Moves (Aside contentId Q) (retainFeeActivity contentId e t) := by
  intro s f s' h; rcases retainFeeActivity_ok h with ⟨_, hstored⟩ | ⟨rfl, _⟩
  · exact hstored.aside hQ
  · exact refl_of (Aside contentId Q) _

theorem onCore_aside {α : Type} {x : CoreTxn α}
    (h : Moves (fun c c' => bareCore c' = bareCore c ∧ c'.sourceCursors = c.sourceCursors) x) :
    Moves (Aside contentId Q) (onCore x) := by
  refine Moves.zoom h fun s c hc => ?_
  have hconfig : c.config = s.core.config := congrArg (·.config) hc.1
  refine ⟨?_, .of_cursors (congrArg (·.accountId) hconfig) rfl fun id => ?_⟩
  · unfold bare; rw [hc.1]
  · unfold FeeStore.feeCursor? FeeStore.account; rw [hconfig, hc.2]

theorem dirty_aside (lots : List String) (t : Option Int) (b : Bool) :
    Moves (Aside contentId Q) (onCore (dirty lots t b)) := by
  refine onCore_aside fun c u c' h => ?_; rw [dirty, modify_ok] at h; subst h
  generalize lots.dedup.insertionSort (· ≤ ·) = l
  induction l generalizing c with
  | nil => exact ⟨rfl, rfl⟩
  | cons lot l ih => exact ⟨(ih _).1.trans rfl, (ih _).2.trans rfl⟩

theorem createIncident_aside (row : IncidentRow) :
    Moves (Aside contentId Q) (onCore (onLedger (createIncident row))) := by
  refine onCore_aside fun c u c' h => ?_; obtain ⟨st, hst, rfl⟩ := zoom_ok.1 h
  unfold createIncident at hst; split at hst
  · obtain ⟨rfl⟩ := hst; exact ⟨rfl, rfl⟩
  · split at hst
    · obtain ⟨rfl⟩ := hst; exact ⟨rfl, rfl⟩
    · cases hst

theorem quarantineClosedFee_aside (a : OrderFeeAllocation) (b : Bool) :
    Moves (Aside contentId Q) (quarantineClosedFee contentId a b) := by
  refine Moves.bind Moves.get fun s => ?_; split
  · exact Moves.pure _
  refine Moves.ite (Moves.pure _) ?_
  refine Moves.ite (Moves.pure _) (Moves.bind (createIncident_aside _) fun _ => ?_)
  refine Moves.bind (onCore_aside (Moves.modify fun _ => ⟨rfl, rfl⟩)) fun _ => ?_
  exact Moves.bind (dirty_aside _ _ _) fun _ => Moves.pure _

theorem insertGap_aside (r : IndexRow) : Moves (Aside contentId Q) (insertGap r) := by
  intro s u s' h; unfold insertGap at h; split at h
  · obtain ⟨rfl⟩ := h; exact ⟨rfl, .of_cursors rfl rfl fun _ => rfl⟩
  · cases h

theorem recordGap_aside (t : Int) (raw : RawActivity) :
    Moves (Aside contentId Q) (recordGap contentId t raw) := by
  refine Moves.bind Moves.get fun s => ?_; split
  · refine Moves.ite ?_ (Moves.pure _)
    exact Moves.bind (putFee_aside fun _ h => by cases h) fun _ => insertGap_aside _
  · exact Moves.pure _

/-! ## Readers under it -/

theorem entryBasis_bare (s : FeeStore) (lot : String) (t : Int) (exclusive : Bool) :
    entryBasis contentId (bare s) lot t exclusive = entryBasis contentId s lot t exclusive := rfl

section aside

variable {s s' : FeeStore}

section

variable (h : Aside contentId Q s s')
include h

theorem Aside.entryBasis (lot : String) (t : Int) (exclusive : Bool) :
    entryBasis contentId s' lot t exclusive = entryBasis contentId s lot t exclusive := by
  rw [← entryBasis_bare s', h.same, entryBasis_bare]

theorem Aside.activityIndex : s'.activityIndex = s.activityIndex :=
  congrArg (·.activityIndex) h.same

theorem Aside.allocationIndex : s'.allocationIndex = s.allocationIndex :=
  congrArg (·.allocationIndex) h.same

theorem Aside.ownerEvents : s'.ownerEvents = s.ownerEvents :=
  congrArg (·.ownerEvents) h.same

theorem Aside.account : s'.account = s.account :=
  congrArg (·.core.config.accountId) h.same

theorem Aside.fills : s'.core.fills = s.core.fills :=
  congrArg (·.core.fills) h.same

theorem Aside.document? {id : String} {d : FeeDocument}
    (hd : s.document? id = some d) : s'.document? id = some d :=
  document?_kept h.noted.documents hd

end

end aside

/-! ## What the readers answer -/

theorem document_ok {α : Type} {kind : FeeDocument → Option α} {a : α} :
    document contentId s id kind = .ok a ↔
      ∃ d, s.document? id = some d ∧ kind d = some a ∧ contentId (.document d) = id := by
  unfold document conflict
  cases hd : s.document? id with
  | none => simp
  | some d =>
    cases hk : kind d with
    | none => simp [hk]
    | some b =>
      by_cases hid : contentId (.document d) = id <;> simp [hk, hid]

theorem entryBasis_order {exclusive : Bool} {b : OwnedFeeBasis}
    (h : entryBasis contentId s lot t exclusive = .ok b) :
    ∃ o, entryOrder s.core lot = some o ∧ b.orderId = o.brokerOrderId ∧ b.lotId = lot ∧
      b.boughtQuantity = s.core.filled b.orderId := by
  unfold entryBasis at h; split at h
  · cases h
  rename_i basis hbasis
  have hb : basis = b := by
    split at h
    · cases h
    · cases h; rfl
  subst hb; unfold basisOf at hbasis; split at hbasis; · cases hbasis
  split at hbasis; · cases hbasis
  split at hbasis
  · rename_i intent order hintent horder
    have horder' : entryOrder s.core lot = some order := horder
    split at hbasis; · cases hbasis
    split at hbasis; · cases hbasis
    split at hbasis; · cases hbasis
    rename_i hfills; split at hbasis
    · split at hbasis; · cases hbasis
      cases hbasis; refine ⟨order, horder', rfl, rfl, ?_⟩
      have hsum := not_not.1 (not_or.1 (not_or.1 hfills).2).1
      unfold entryFacts at hsum; rw [horder'] at hsum; exact hsum.symm
    · cases hbasis
  · cases hbasis

theorem verifyAllocation_ok {v : VerifiedFee}
    (h : verifyAllocation contentId s lot asOf id = .ok v) : v.id = id ∧ ∃ source raw parsed e,
      document contentId s id FeeDocument.allocation? = .ok v.allocation ∧
      document contentId s v.allocation.queryDocumentId FeeDocument.query? = .ok source ∧
      document contentId s v.allocation.feeDocumentId FeeDocument.fee? = .ok v.fee ∧
      entryBasis contentId s lot source.recordedAt false = .ok v.basis ∧
      (sourceRows source).filter (fun raw => raw.id = .text v.fee.activityId) = [raw] ∧
      parse contentId raw source.symbolAliases v.allocation.queryDocumentId = .ok parsed ∧
      s.ownerEvents.get? v.allocation.externalEventId = some e ∧
      Verifies contentId s lot asOf id v.allocation source v.fee v.basis raw parsed e.payload := by
  obtain ⟨a, ha, h⟩ := except_bind_ok.1 h
  obtain ⟨source, hsource, h⟩ := except_bind_ok.1 h
  obtain ⟨fee, hfee, h⟩ := except_bind_ok.1 h
  obtain ⟨basis, hbasis, h⟩ := except_bind_ok.1 h; split at h
  · rename_i raw hraw; obtain ⟨parsed, hparsed, h⟩ := except_bind_ok.1 h
    split at h
    · rename_i e he; split at h
      · rename_i hv; cases h
        exact ⟨rfl, source, raw, parsed, e, ha, hsource, hfee, hbasis, hraw, hparsed, he, hv⟩
      · cases h
    · cases h
  · cases h

variable {basis : OwnedFeeBasis} {source : OrderFeeQueryEvidence} {raw : RawActivity}

theorem verifyAllocation_of {parsed : CryptoFeeActivity} {e : OwnerEventRow}
    (ha : document contentId s id FeeDocument.allocation? = .ok a)
    (hsource : document contentId s a.queryDocumentId FeeDocument.query? = .ok source)
    (hfee : document contentId s a.feeDocumentId FeeDocument.fee? = .ok fee)
    (hbasis : entryBasis contentId s lot source.recordedAt false = .ok basis)
    (hraw : (sourceRows source).filter (fun raw => raw.id = .text fee.activityId) = [raw])
    (hparsed : parse contentId raw source.symbolAliases a.queryDocumentId = .ok parsed)
    (he : s.ownerEvents.get? a.externalEventId = some e)
    (hv : Verifies contentId s lot asOf id a source fee basis raw parsed e.payload) :
    verifyAllocation contentId s lot asOf id = .ok ⟨id, a, fee, basis⟩ := by
  refine except_bind_ok.2 ⟨a, ha, except_bind_ok.2 ⟨source, hsource, ?_⟩⟩
  refine except_bind_ok.2 ⟨fee, hfee, except_bind_ok.2 ⟨basis, hbasis, ?_⟩⟩
  rw [hraw]; refine except_bind_ok.2 ⟨parsed, hparsed, ?_⟩; rw [he]
  dsimp only; rw [if_pos hv]; rfl

theorem tally_ok {ids : List String} {t t' : LotAssetFees}
    (h : tally contentId s lot asOf t ids = .ok t') : ∃ vs : List VerifiedFee, vs.map (·.id) = ids ∧
      (∀ v ∈ vs, verifyAllocation contentId s lot asOf v.id = .ok v) ∧
      t'.quantity = t.quantity + (vs.map (·.allocation.quantity)).sum := by
  induction ids generalizing t with
  | nil =>
    cases h; exact ⟨[], rfl, fun v hv => (by cases hv), by simp⟩
  | cons id ids ih =>
    obtain ⟨v, hv, h⟩ := except_bind_ok.1 h
    obtain ⟨t₁, hadd, h⟩ := except_bind_ok.1 h
    obtain ⟨vs, hids, hall, hsum⟩ := ih h
    have hid := (verifyAllocation_ok hv).1; unfold LotAssetFees.add at hadd
    split at hadd
    · cases hadd
    cases hadd
    refine ⟨v :: vs, by rw [List.map_cons, hids, hid], fun w hw => ?_, ?_⟩
    · rcases List.mem_cons.1 hw with rfl | hw
      · rw [hid]; exact hv
      · exact hall w hw
    · rw [hsum, List.map_cons, List.sum_cons]; ring

theorem lotAssetFees_ok {fees : LotAssetFees} (h : lotAssetFees contentId s lot asOf = .ok fees) :
    ∃ vs : List VerifiedFee, vs.map (·.id) = (shown s lot asOf).map (·.id) ∧
      (∀ v ∈ vs, verifyAllocation contentId s lot asOf v.id = .ok v) ∧
      fees.quantity = (vs.map (·.allocation.quantity)).sum := by
  obtain ⟨t, ht, h⟩ := except_bind_ok.1 h; split at h
  · cases h
  cases h; obtain ⟨vs, hids, hall, hsum⟩ := tally_ok ht
  refine ⟨vs, hids, hall, ?_⟩; show t.quantity = _; rw [hsum]; exact zero_add _

/-! ## An allocation -/

/-- What no write of a call changes. -/
def bareLedger (s : FeeStore) : FeeStore :=
  { bare s with activityIndex := .empty, allocationIndex := .empty, ownerEvents := .empty }

/-- An allocation with its documents, its index rows and its owner event. -/
structure Allocated (contentId : FeeContentId) (sourceId : String) (basis : OwnedFeeBasis)
    (fee : CryptoFeeActivity) (t : Int) (q : ℚ) (a : OrderFeeAllocation) (s s' : FeeStore) :
    Prop where
  allocation : ∃ hq, a = allocationOf contentId s sourceId basis fee t q hq
  ledger : bareLedger s' = bareLedger s
  noted : Noted contentId (fun _ => False) s s'
  stored : s'.document? (contentId (.document (.allocation a))) = some (.allocation a)
  fresh : s.activityIndex.get? (contentId (.activity s.account fee.activityId)) = none
  activityIndex : s'.activityIndex = s.activityIndex.insert
    ⟨contentId (.activity s.account fee.activityId), contentId (.document (.allocation a)), t⟩
  freshId : s.allocationIndex.get? (contentId (.document (.allocation a))) = none
  allocationIndex : s'.allocationIndex = s.allocationIndex.insert
    ⟨contentId (.document (.allocation a)), basis.lotId, t⟩
  within : ∃ fees, lotAssetFees contentId s basis.lotId t = .ok fees ∧
    fees.quantity + a.quantity ≤ basis.boughtQuantity
  events : ∀ e ∈ s.ownerEvents.rows, e ∈ s'.ownerEvents.rows
  event : ∃ e, s'.ownerEvents.get? a.externalEventId = some e ∧
    (∀ e' ∈ s'.ownerEvents.rows, e' ∈ s.ownerEvents.rows ∨ e' = e) ∧
    (e ∈ s.ownerEvents.rows ∧ externalMatches e.payload fee s.account ∨
      e.payload = allocationEvent s sourceId basis fee t q)

theorem recordExternal_new {e : OwnerEvent} (h : recordExternal contentId e s = .ok u s')
    (hnone : s.ownerEvents.get? (contentId (.external e.accountId e.eventId e.owner)) = none) :
    s'.ownerEvents = s.ownerEvents.insert ⟨contentId (.external e.accountId e.eventId e.owner), e⟩ ∧
      bareLedger s' = bareLedger s ∧ Noted contentId (fun _ => False) s s' ∧
      s'.activityIndex = s.activityIndex ∧ s'.allocationIndex = s.allocationIndex := by
  unfold recordExternal at h; dsimp only at h; rw [hnone] at h
  obtain ⟨rfl⟩ := h
  exact ⟨rfl, rfl, .of_cursors rfl rfl fun _ => rfl, rfl, rfl⟩

theorem Aside.bareLedger (h : Aside contentId Q s s') : bareLedger s' = bareLedger s := by
  unfold Fees.bareLedger; rw [h.same]

theorem insertActivity_ok {r : IndexRow} (h : insertActivity r s = .ok u s') :
    s.activityIndex.get? r.id = none ∧
      s' = { s with activityIndex := s.activityIndex.insert r } := by
  unfold insertActivity at h; split at h
  · rename_i hnone; obtain ⟨rfl⟩ := h; exact ⟨hnone, rfl⟩
  · cases h

theorem insertAllocation_ok {r : IndexRow} (h : insertAllocation r s = .ok u s') :
    s.allocationIndex.get? r.id = none ∧
      s' = { s with allocationIndex := s.allocationIndex.insert r } := by
  unfold insertAllocation at h; split at h
  · rename_i hnone; obtain ⟨rfl⟩ := h; exact ⟨hnone, rfl⟩
  · cases h

theorem ownFee_ok {sourceId : String} {q : ℚ}
    (h : ownFee contentId sourceId basis fee t q s = .ok u s') :
    (bareLedger s' = bareLedger s ∧ Noted contentId (fun _ => False) s s' ∧
      s'.activityIndex = s.activityIndex ∧ s'.allocationIndex = s.allocationIndex) ∧
    (∀ e ∈ s.ownerEvents.rows, e ∈ s'.ownerEvents.rows) ∧
    ∃ e, s'.ownerEvents.get? (externalId contentId s.account fee.activityId) = some e ∧
      (∀ e' ∈ s'.ownerEvents.rows, e' ∈ s.ownerEvents.rows ∨ e' = e) ∧
      (e ∈ s.ownerEvents.rows ∧ externalMatches e.payload fee s.account ∨
        e.payload = allocationEvent s sourceId basis fee t q) := by
  unfold ownFee at h; rw [bind_ok] at h; obtain ⟨_, s₀, hget, h⟩ := h
  obtain ⟨rfl, rfl⟩ := get_ok.1 hget
  cases hprevious : s₀.ownerEvents.get? (externalId contentId s₀.account fee.activityId) with
  | some previous =>
    simp only [hprevious] at h; obtain ⟨hmatches, rfl⟩ := require_ok.1 h
    exact ⟨⟨rfl, refl_of (Noted contentId _) _, rfl, rfl⟩, fun _ he => he, previous, hprevious, fun _ he => .inl he,
      .inl ⟨(Table.get?_some hprevious).1, hmatches⟩⟩
  | none =>
    simp only [hprevious] at h
    obtain ⟨hevents, hledger, hnoted, hactivity, hallocation⟩ := recordExternal_new h hprevious
    refine ⟨⟨hledger, hnoted, hactivity, hallocation⟩, fun e he => ?_, ?_⟩
    · rw [hevents]; exact Table.mem_insert_of_mem he
    · refine ⟨⟨externalId contentId s₀.account fee.activityId,
        allocationEvent s₀ sourceId basis fee t q⟩, ?_, fun e he => ?_, .inr rfl⟩
      · rw [hevents]; exact (Table.get?_insert hprevious _).trans (if_pos rfl)
      · rw [hevents] at he; exact (Table.mem_insert hprevious).1 he

theorem fileAllocation_ok (h : fileAllocation contentId a s = .ok u s') :
    bareLedger s' = bareLedger s ∧ Noted contentId (fun _ => False) s s' ∧
      s'.ownerEvents = s.ownerEvents ∧
      s'.document? (contentId (.document (.allocation a))) = some (.allocation a) ∧
      (s.activityIndex.get? (contentId (.activity s.account a.activityId)) = none ∧
        s'.activityIndex = s.activityIndex.insert
          ⟨contentId (.activity s.account a.activityId), contentId (.document (.allocation a)),
            a.recordedAt⟩) ∧ s.allocationIndex.get? (contentId (.document (.allocation a))) = none ∧
      s'.allocationIndex = s.allocationIndex.insert
        ⟨contentId (.document (.allocation a)), a.lotId, a.recordedAt⟩ := by
  unfold fileAllocation at h; rw [bind_ok] at h; obtain ⟨_, s₀, hget, h⟩ := h
  obtain ⟨rfl, rfl⟩ := get_ok.1 hget; rw [bind_ok] at h
  obtain ⟨_, s₁, hput, h⟩ := h; have hstored := putFee_stored hput
  have hput : Aside contentId (fun _ => False) s₀ s₁ := putFee_aside (fun _ h => by cases h) _ _ _ hput
  rw [bind_ok] at h; obtain ⟨_, s₂, hactivity, h⟩ := h
  obtain ⟨hfresh, rfl⟩ := insertActivity_ok hactivity; rw [bind_ok] at h
  obtain ⟨_, s₃, hallocation, h⟩ := h
  obtain ⟨hfreshId, rfl⟩ := insertAllocation_ok hallocation
  have hlast : Aside contentId (fun _ => False) _ s' :=
    Moves.bind (quarantineClosedFee_aside a true)
      (fun _ => Moves.ite (Moves.pure _) (dirty_aside _ _ _)) _ _ _ h
  have hindexed : Noted contentId (fun _ => False) s₁ s' :=
    ⟨hlast.noted.account, hlast.noted.documents, hlast.noted.filed, hlast.noted.kept,
      hlast.noted.moved⟩
  rw [hput.activityIndex] at hfresh; rw [hput.allocationIndex] at hfreshId
  refine ⟨hlast.bareLedger.trans hput.bareLedger,
    trans_of (Noted contentId _) hput.noted hindexed,
    hlast.ownerEvents.trans hput.ownerEvents, hlast.document? hstored,
    ⟨hfresh, hlast.activityIndex.trans ?_⟩, hfreshId, hlast.allocationIndex.trans ?_⟩
  · show s₁.activityIndex.insert _ = _; rw [hput.activityIndex]
  · show s₁.allocationIndex.insert _ = _; rw [hput.allocationIndex]

theorem bareLedger_account (h : bareLedger s' = bareLedger s) : s'.account = s.account :=
  congrArg (·.core.config.accountId) h

theorem allocate_ok {sourceId : String} {q : ℚ} {hq : q < 0} {o : Option String}
    (h : allocate contentId sourceId basis fee t q hq s = .ok o s') :
    o = none ∧ Aside contentId Q s s' ∨ ∃ a, o = some (contentId (.document (.allocation a))) ∧
      Allocated contentId sourceId basis fee t q a s s' := by
  unfold allocate at h; rw [bind_ok] at h; obtain ⟨_, s₀, hget, h⟩ := h
  obtain ⟨rfl, rfl⟩ := get_ok.1 hget; rw [bind_ok] at h
  obtain ⟨existing, s₁, hread, h⟩ := h; obtain ⟨hfees, rfl⟩ := reads_ok.1 hread
  split at h
  · rw [bind_ok] at h; obtain ⟨quarantined, s₂, hquarantine, h⟩ := h
    rw [bind_ok] at h; obtain ⟨_, s₃, hrequire, h⟩ := h
    obtain ⟨_, rfl⟩ := require_ok.1 hrequire; obtain ⟨rfl, rfl⟩ := pure_ok.1 h
    exact .inl ⟨rfl, quarantineClosedFee_aside _ _ _ _ _ hquarantine⟩
  · rename_i hwithin; rw [bind_ok] at h; obtain ⟨_, s₂, hown, h⟩ := h
    rw [bind_ok] at h; obtain ⟨_, s₃, hfile, h⟩ := h
    obtain ⟨rfl, rfl⟩ := pure_ok.1 h
    obtain ⟨⟨hledger, hnoted, hactivity, hallocation⟩, hevents, e, he, hnew, hevent⟩ :=
      ownFee_ok hown
    obtain ⟨hledger', hnoted', hsame, hstored, ⟨hfresh, hindex⟩, hfreshId, hindex'⟩ :=
      fileAllocation_ok hfile
    rw [bareLedger_account hledger, hactivity] at hfresh hindex
    rw [hallocation] at hfreshId hindex'
    refine .inr ⟨_, rfl, ⟨⟨hq, rfl⟩, hledger'.trans hledger,
      trans_of (Noted contentId _) hnoted hnoted', hstored,
      hfresh, hindex, hfreshId, hindex', ⟨existing, hfees, ?_⟩, ?_, e, ?_, ?_, hevent⟩⟩
    · have hle := not_lt.1 hwithin; rwa [sub_eq_add_neg] at hle
    · rw [hsame]; exact hevents
    · rw [hsame]; exact he
    · rw [hsame]; exact hnew

/-- A row that was allocated: how it reads, what it was retained as, and the allocation. -/
structure RowAllocated (contentId : FeeContentId) (source : OrderFeeQueryEvidence)
    (basis : OwnedFeeBasis) (t : Int) (raw : RawActivity) (a : OrderFeeAllocation)
    (s s' : FeeStore) : Prop where
  allocated : ∃ read fee s₁ q,
    parse contentId raw source.symbolAliases (contentId (.document (.query source))) = .ok read ∧
    retainFeeActivity contentId read t s = .ok fee s₁ ∧ feeValid fee basis ∧
    (∀ τ ∈ fee.effectiveAt, τ ≤ source.recordedAt) ∧ fee.quantityDelta = some q ∧
    Allocated contentId (contentId (.document (.query source))) basis fee t q a s₁ s'

theorem allocateRow_ok {basis : OwnedFeeBasis} {t : Int} {s s' : FeeStore} {o : Option String}
    (hQ : ∀ read, parse contentId raw source.symbolAliases
      (contentId (.document (.query source))) = .ok read → Q read)
    (h : allocateRow contentId source basis t raw s = .ok o s') :
    o = none ∧ Aside contentId Q s s' ∨ ∃ a, o = some (contentId (.document (.allocation a))) ∧
      RowAllocated contentId source basis t raw a s s' := by
  unfold allocateRow at h; rw [bind_ok] at h; obtain ⟨read, s₀, hparse, h⟩ := h
  obtain ⟨hread, rfl⟩ := reads_ok.1 hparse; rw [bind_ok] at h
  obtain ⟨fee, s₁, hretain, h⟩ := h
  have haside := retainFeeActivity_aside (hQ read hread) _ _ _ _ hretain
  split at h
  · obtain ⟨rfl, rfl⟩ := pure_ok.1 h; exact .inl ⟨rfl, haside⟩
  rename_i hvalid; rw [not_or, not_not] at hvalid; rw [bind_ok] at h
  obtain ⟨_, s₂, hget, h⟩ := h; obtain ⟨rfl, rfl⟩ := get_ok.1 hget
  cases hassigned : s₂.activityIndex.get? (contentId (.activity s₂.account fee.activityId)) with
  | some assigned =>
    simp only [hassigned] at h; rw [bind_ok] at h
    obtain ⟨old, s₃, hold, h⟩ := h; obtain ⟨_, rfl⟩ := reads_ok.1 hold
    rw [bind_ok] at h; obtain ⟨_, s₄, hrequire, h⟩ := h
    obtain ⟨_, rfl⟩ := require_ok.1 hrequire; obtain ⟨rfl, rfl⟩ := pure_ok.1 h
    exact .inl ⟨rfl, haside⟩
  | none =>
    simp only [hassigned] at h
    cases hq : fee.quantityDelta with
    | none =>
      simp only [hq] at h; obtain ⟨rfl, rfl⟩ := pure_ok.1 h
      exact .inl ⟨rfl, haside⟩
    | some q =>
      simp only [hq] at h; split at h
      · rcases allocate_ok h with ⟨ho, hrest⟩ | ⟨a, ho, hall⟩
        · exact .inl ⟨ho, trans_of (Aside contentId Q) haside hrest⟩
        · refine .inr ⟨a, ho, ⟨read, fee, _, q, hread, hretain, hvalid.1, ?_, hq, hall⟩⟩
          exact fun τ hτ => not_lt.1 fun hlt => hvalid.2 ⟨τ, hτ, hlt⟩
      · obtain ⟨rfl, rfl⟩ := pure_ok.1 h; exact .inl ⟨rfl, haside⟩

end Quantbot.L4.Fees
