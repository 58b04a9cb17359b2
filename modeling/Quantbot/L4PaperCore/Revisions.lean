import Quantbot.L4PaperCore.Resolve

/-!
# Outcome revisions

`process_outcomes` with `_resolve`, over any cutoffs and any arrival of evidence. The
revisions of a lot are a linear chain: numbered from one, each naming the one before
it, the current outcome the last of them.

The chain is ordered by arrival, not by cutoff: `_resolve` reads every revision on
record, whatever the cutoff it resolves at, so a revision resolved at an earlier cutoff
names the current outcome as its predecessor and replaces it. The guard against a
rollback (outcomes.py:920-923) compares exactly these two ids, which are equal.

* `outcome_chain`: the chain in every run, and ascending cutoffs along it in the runs
  whose early cutoffs meet `Stands`.
* `outcome_rolled_back`: a run with an earlier cutoff forgets a cost.
-/
namespace Quantbot.L4

open Core L1 L2 Txn

/-! ## Writes elsewhere -/

/-- The id of a lot's current outcome. -/
def CoreStore.current (s : CoreStore) (lot : String) : Option String :=
  (s.outcomeIndex.get? lot).map (·.outcomeId)

/-- No revision is written and no current outcome changes; statuses may. -/
structure Elsewhere (s s' : CoreStore) : Prop where
  revisions : s'.revisions = s.revisions
  current : ∀ lot, s'.current lot = s.current lot

instance : IsPreorder CoreStore Elsewhere where
  refl _ := ⟨rfl, fun _ => rfl⟩
  trans _ _ _ h h' := ⟨h'.revisions.trans h.revisions, fun lot => (h'.current lot).trans (h.current lot)⟩

variable {s s' : CoreStore}

theorem Elsewhere.of_evidence (h : s'.evidence = s.evidence) : Elsewhere s s' := by
  refine ⟨?_, fun lot => ?_⟩
  · show s'.evidence.revisions = s.evidence.revisions; rw [h]
  · show s'.evidence.current lot = s.evidence.current lot; rw [h]

theorem current_setOutcomeStatus (s : CoreStore) (status lot other : String) :
    ({ s with outcomeIndex := setOutcomeStatus status s.outcomeIndex lot } : CoreStore).current
      other = s.current other := by
  show ((setOutcomeStatus status s.outcomeIndex lot).get? other).map (·.outcomeId) = _
  rw [setOutcomeStatus_get?]
  split
  · next heq =>
    subst heq
    rw [Option.map_map]
    rfl
  · rfl

theorem statuses_elsewhere (s : CoreStore) (status : String) (lots : List String) :
    Elsewhere s { s with outcomeIndex := lots.foldl (setOutcomeStatus status) s.outcomeIndex } := by
  induction lots generalizing s with
  | nil => exact refl_of Elsewhere s
  | cons lot lots ih =>
    have hone : Elsewhere s { s with outcomeIndex := setOutcomeStatus status s.outcomeIndex lot } :=
      ⟨rfl, current_setOutcomeStatus s status lot⟩
    exact trans_of Elsewhere hone (ih _)

theorem dirty_evidence {lots : List String} {t : Option Int} {b : Bool} {u : PUnit}
    (h : dirty lots t b s = .ok u s') : s'.evidence = s.evidence := by
  rw [dirty, modify_ok] at h; subst h
  generalize lots.dedup.insertionSort (· ≤ ·) = l
  induction l generalizing s with
  | nil => rfl
  | cons lot l ih => exact ih

theorem dirty_elsewhere (lots : List String) (t : Option Int) (b : Bool) :
    Moves Elsewhere (dirty lots t b) := fun _ _ _ h => .of_evidence (dirty_evidence h)

theorem insertDocument_elsewhere (id : String) (d : Document) (hd : d.kind ≠ .revision) :
    Moves Elsewhere (insertDocument id d) := fun s b s' h => by
  rcases insertDocument_ok h with ⟨_, _, rfl⟩ | ⟨_, hnone, rfl⟩
  · exact refl_of Elsewhere _
  refine ⟨?_, fun _ => rfl⟩
  have hrev : d.revision? = none := by
    cases d <;> first | rfl | exact absurd rfl hd
  unfold CoreStore.revisions CoreStore.documentsOf
  rw [Table.insert_rows hnone, List.filterMap_append, List.filterMap_cons, hrev]
  simp

theorem notifyDocument_elsewhere (id : String) (d : Document) :
    Moves Elsewhere (notifyDocument id d) := fun _ _ _ h => by
  obtain ⟨_, _, _, _, rfl⟩ := notifyDocument_notified _ _ _ _ _ h
  exact ⟨rfl, fun _ => rfl⟩

theorem put_elsewhere (id : String) (d : Document) (hd : d.kind ≠ .revision) :
    Moves Elsewhere (put id d) :=
  (insertDocument_elsewhere id d hd).bind fun _ => Moves.ite (notifyDocument_elsewhere id d)
    (Moves.pure _)

theorem elsewhere_importWrites : ImportWrites Elsewhere where
  ledger _ _ _ := ⟨rfl, fun _ => rfl⟩
  put := put_elsewhere
  cursors _ _ := ⟨rfl, fun _ => rfl⟩
  revocations _ _ := ⟨rfl, fun _ => rfl⟩
  statuses := statuses_elsewhere
  dirty := dirty_elsewhere

theorem claimEntry_elsewhere (contentId : ContentId) (d : Decision) (i : OrderIntent) (p : String)
    (s : CoreStore) : Elsewhere s (after (claimEntry contentId d i p) s) := by
  have hlink : ∀ link, Moves Elsewhere (insertLink link) := fun link s u s' h => by
    obtain ⟨_, rfl⟩ := insertLink_ok h; exact ⟨rfl, fun _ => rfl⟩
  have hdecision : (Document.decision d).kind ≠ .revision := nofun
  exact ((put_elsewhere _ _ hdecision).bind fun _ =>
    (elsewhere_importWrites.onLedger (createOrderIntent_evolves i)).bind fun _ =>
      (hlink _).bind fun _ => dirty_elsewhere _ _ _).after s

/-! ## Processing a lot -/

/-- A round trip is recorded and becomes its lot's current outcome. -/
structure Recorded (v : OutcomeViews) (lot : String) (trip : RoundTrip) (s s' : CoreStore) :
    Prop where
  stored : (v.contentId (.roundTrip trip), trip) ∈ s'.revisions
  revisions : s'.revisions = s.revisions ∨
    s'.revisions = s.revisions ++ [(v.contentId (.roundTrip trip), trip)]
  current : s'.current lot = some (v.contentId (.roundTrip trip))
  others : ∀ other, other ≠ lot → s'.current other = s.current other

/-- What processing a lot writes. -/
inductive LotWrite (v : OutcomeViews) (lot : String) (cutoff : Int) (s : CoreStore) :
    CoreStore → Prop
  | kept {s' : CoreStore} : Elsewhere s s' → LotWrite v lot cutoff s s'
  | revised {s' : CoreStore} (trip : RoundTrip) : s.entryUnsent lot = false →
      resolve v s lot cutoff = .ok (.trip trip) →
      s.current lot ≠ some (v.contentId (.roundTrip trip)) →
      (s.current lot = none ∨ trip.supersedes = s.current lot) →
      Recorded v lot trip s s' → LotWrite v lot cutoff s s'

variable {version : Nat} {lot : String}

theorem ensureVersion_evidence (h : ensureVersion lot s = .ok version s') :
    s'.evidence = s.evidence := by
  unfold ensureVersion at h; rw [bind_ok] at h; obtain ⟨t, s₁, hget, h⟩ := h
  obtain ⟨rfl, rfl⟩ := hget; split at h
  · simp only [bind_ok, pure_ok] at h; obtain ⟨_, s₂, hdirty, rfl, rfl⟩ := h
    exact dirty_evidence hdirty
  · obtain ⟨_, rfl⟩ := pure_ok.1 h; rfl

variable {cutoff : Int} {covered : Bool}

theorem coveredVersion_evidence
    (h : coveredVersion lot version cutoff s = .ok covered s') : s'.evidence = s.evidence := by
  unfold coveredVersion at h; dsimp only at h; split at h
  · cases h; rfl
  split at h
  · cases h; rfl
  · cases h; rfl

theorem acknowledge_elsewhere (lot : String) (version : Nat) (covered : Bool) :
    Moves Elsewhere (acknowledge lot version covered) :=
  Moves.modify fun _ => .of_evidence rfl

theorem setStatus_elsewhere (lot status : String) : Moves Elsewhere (setStatus lot status) :=
  Moves.modify fun s => statuses_elsewhere s status [lot]

variable {v : OutcomeViews} {trip : RoundTrip}

theorem recordOutcome_recorded {u : PUnit} (h : recordOutcome v.contentId lot trip s = .ok u s') :
    Recorded v lot trip s s' := by
  unfold recordOutcome at h; rw [bind_ok] at h; obtain ⟨_, s₁, hput, h⟩ := h
  rw [modify_ok] at h; subst h; unfold put at hput
  rw [bind_ok] at hput; obtain ⟨b, s₂, hinsert, hnotify⟩ := hput
  have hsame : s₁ = s₂ := by
    cases b with
    | false | true => exact (pure_ok.1 hnotify).2.symm
  subst hsame
  have hcurrent : ∀ other, (s₁.outcomeIndex.upsert
      { lotId := lot
        outcomeId := v.contentId (.roundTrip trip)
        availableAt := trip.availableAt
        sourceStart := trip.sourceStart
        sourceEnd := trip.sourceEnd
        dataset := trip.dataset
        policyId := trip.policyId
        evidenceLane := s₁.config.evidenceLane
        status := trip.status }).get? other = _ := fun other => Table.get?_upsert _ _ other
  have hindex : s₁.outcomeIndex = s.outcomeIndex := by
    rcases insertDocument_ok hinsert with ⟨_, _, rfl⟩ | ⟨_, _, rfl⟩ <;> rfl
  refine ⟨?_, ?_, ?_, fun other hother => ?_⟩
  · show _ ∈ s₁.documentsOf _; rw [CoreStore.mem_documentsOf]
    refine ⟨.revision trip, ?_, rfl⟩
    rcases insertDocument_ok hinsert with ⟨_, hmem, rfl⟩ | ⟨_, hnone, rfl⟩
    · exact hmem
    · exact (Table.mem_insert hnone).2 (.inr rfl)
  · rcases insertDocument_ok hinsert with ⟨_, _, rfl⟩ | ⟨_, hnone, rfl⟩
    · exact .inl rfl
    right; show (s.documents.insert _).rows.filterMap _ = _
    rw [Table.insert_rows hnone, List.filterMap_append]; rfl
  · show Option.map _ (Table.get? _ lot) = _; rw [hcurrent, if_pos rfl]; rfl
  · show Option.map _ (Table.get? _ other) = _
    rw [hcurrent, if_neg (Ne.symm hother), hindex]; rfl

theorem LotWrite.of_evidence {t : CoreStore} (h : LotWrite v lot cutoff t s')
    (hevidence : t.evidence = s.evidence) : LotWrite v lot cutoff s s' := by
  have helse : Elsewhere s t := .of_evidence hevidence
  cases h with
  | kept hkept => exact .kept (trans_of Elsewhere helse hkept)
  | revised trip hsent hresolve hnew hsupersedes hrecorded =>
    have hsame : t.entryUnsent lot = s.entryUnsent lot := by
      show t.evidence.entryUnsent lot = s.evidence.entryUnsent lot
      rw [hevidence]
    have hresolved : resolve v t lot cutoff = resolve v s lot cutoff := by
      rw [← resolve_evidence v t, hevidence, resolve_evidence]
    have hcurrent := helse.current lot
    refine .revised trip (hsame ▸ hsent) (hresolved ▸ hresolve) (hcurrent ▸ hnew)
      (hcurrent ▸ hsupersedes) ⟨hrecorded.stored, ?_, hrecorded.current, fun other hother => ?_⟩
    · rw [← helse.revisions]; exact hrecorded.revisions
    · exact (hrecorded.others other hother).trans (helse.current other)

theorem settleTrip_write {out : LotOutcome} (hsent : s.entryUnsent lot = false)
    (hresolve : resolve v s lot cutoff = .ok (.trip trip))
    (h : settleTrip v.contentId lot version covered trip s = .ok out s') :
    LotWrite v lot cutoff s s' := by
  unfold settleTrip at h; rw [bind_ok] at h; obtain ⟨t, s₁, hget, h⟩ := h
  obtain ⟨rfl, rfl⟩ := hget; split at h
  · simp only [bind_ok, pure_ok] at h
    obtain ⟨_, s₂, hset, _, s₃, hack, rfl, rfl⟩ := h
    exact .kept (trans_of Elsewhere (setStatus_elsewhere _ _ _ _ _ hset)
      (acknowledge_elsewhere _ _ _ _ _ _ hack))
  next hnew =>
  split at h
  · obtain ⟨_, rfl⟩ := pure_ok.1 h; exact .kept (refl_of Elsewhere _)
  next hsupersedes =>
  simp only [bind_ok, pure_ok] at h
  obtain ⟨_, s₂, hrecord, _, s₃, hack, rfl, rfl⟩ := h
  have hrecorded := recordOutcome_recorded hrecord
  have hkept := acknowledge_elsewhere _ _ _ _ _ _ hack
  refine .revised trip hsent hresolve hnew ?_ ⟨?_, ?_, ?_, fun other hother => ?_⟩
  · by_contra hne; obtain ⟨hnone, hother⟩ := not_or.1 hne
    exact hsupersedes ⟨hnone, hother⟩
  · rw [hkept.revisions]; exact hrecorded.stored
  · rw [hkept.revisions]; exact hrecorded.revisions
  · exact (hkept.current lot).trans hrecorded.current
  · exact (hkept.current other).trans (hrecorded.others other hother)

theorem processLot_write {out : LotOutcome}
    (h : processLot v.contentId (resolve v) cutoff lot s = .ok out s') :
    LotWrite v lot cutoff s s' := by
  unfold processLot at h; rw [immediate_ok, bind_ok] at h
  obtain ⟨version, s₁, hversion, h⟩ := h; rw [bind_ok] at h
  obtain ⟨covered, s₂, hcovered, h⟩ := h; rw [bind_ok] at h
  obtain ⟨_, s₃, hattempted, h⟩ := h; rw [bind_ok] at h
  obtain ⟨t, s₄, hget, h⟩ := h; rw [get_ok] at hget; obtain ⟨rfl, rfl⟩ := hget
  rw [markAttempted, modify_ok] at hattempted
  have hevidence : s₄.evidence = s.evidence := by
    rw [hattempted]
    exact (coveredVersion_evidence hcovered).trans (ensureVersion_evidence hversion)
  refine LotWrite.of_evidence ?_ hevidence; split at h
  · obtain ⟨_, rfl⟩ := pure_ok.1 h; exact .kept (refl_of Elsewhere _)
  next hsent =>
  cases hresolve : resolve v s₄ lot cutoff with
  | error e =>
    rw [hresolve] at h; cases h
  | ok r =>
    rw [hresolve] at h
    cases r with
    | incomplete reason =>
      simp only [bind_ok, pure_ok] at h; obtain ⟨_, s₅, hset, _, rfl⟩ := h
      exact .kept (setStatus_elsewhere _ _ _ _ _ hset)
    | trip trip =>
      exact settleTrip_write (Bool.not_eq_true _ ▸ hsent) hresolve h

theorem processLot_after (v : OutcomeViews) (lot : String) (cutoff : Int) (s : CoreStore) :
    LotWrite v lot cutoff s (after (processLot v.contentId (resolve v) cutoff lot) s) := by
  unfold Txn.after
  cases h : processLot v.contentId (resolve v) cutoff lot s with
  | ok out s' => exact processLot_write h
  | error e s' =>
    have hs' : s' = s := immediate_error h; rw [hs']
    exact .kept (refl_of Elsewhere s)

/-! ## The chain of a lot -/

/-- The stored revisions of a lot are a linear chain, the current outcome its last. -/
structure Chain (v : OutcomeViews) (s : CoreStore) (lot : String) (l : List RoundTrip) : Prop where
  linear : Linear (·.revision) (·.supersedes) (fun t => v.contentId (.roundTrip t)) l
  stored : ∀ id t, ((id, t) ∈ s.revisions ∧ t.lotId = lot) ↔
    t ∈ l ∧ id = v.contentId (.roundTrip t)
  current : s.current lot = l.getLast?.map fun t => v.contentId (.roundTrip t)

/-- The cutoffs of the chain ascend. -/
def Ascends (l : List RoundTrip) : Prop := l.Pairwise fun a b => a.availableAt ≤ b.availableAt

variable {l : List RoundTrip}

theorem Chain.elsewhere (h : Chain v s lot l) (he : Elsewhere s s') : Chain v s' lot l :=
  ⟨h.linear, fun id t => he.revisions ▸ h.stored id t, (he.current lot).trans h.current⟩

theorem Chain.previous (h : Chain v s lot l) : s.previousOutcome lot = l.getLast? := by
  refine latest_linear h.linear fun t => ?_; unfold CoreStore.revisionsOf
  rw [List.mem_filter, List.mem_map]; constructor
  · rintro ⟨⟨⟨id, t'⟩, hmem, rfl⟩, hlot⟩
    exact ((h.stored id t').1 ⟨hmem, of_decide_eq_true hlot⟩).1
  · intro ht; obtain ⟨hmem, hlot⟩ := (h.stored _ t).2 ⟨ht, rfl⟩
    exact ⟨⟨_, hmem, rfl⟩, decide_eq_true hlot⟩

/-- The evidence of an early cutoff is that of the current outcome, or incomplete. -/
def Stands (v : OutcomeViews) (s : CoreStore) (lot : String) (cutoff : Int) : Prop :=
  ∀ t e, s.previousOutcome lot = some t → cutoff < t.availableAt → s.entryUnsent lot = false →
    lotEvidence v s lot cutoff (some t.reconciliationId) = .ok e →
      v.stateHash e.sources e.fills = t.sourceStateHash

theorem Chain.recorded {e : LotEvidence} (h : Chain v s lot l)
    (hrecorded : Recorded v lot (nextRevision v s lot cutoff (s.previousOutcome lot) e) s s') :
    Chain v s' lot (l ++ [nextRevision v s lot cutoff (s.previousOutcome lot) e]) := by
  have hprevious := h.previous
  generalize htrip : nextRevision v s lot cutoff (s.previousOutcome lot) e = trip at hrecorded ⊢
  have hlot : trip.lotId = lot := htrip ▸ rfl
  have hrevision : trip.revision = l.length + 1 := by
    rw [← htrip]; rw [hprevious]
    cases hlast : l.getLast? with
    | none =>
      rw [List.getLast?_eq_none_iff.1 hlast]; rfl
    | some t =>
      rw [← h.linear.last hlast]; rfl
  have hfresh : trip ∉ l := fun hmem => by
    have := h.linear.number_le hmem; omega
  have hrevisions : s'.revisions = s.revisions ++ [(v.contentId (.roundTrip trip), trip)] := by
    rcases hrecorded.revisions with hsame | happend
    · have hstored := hrecorded.stored; rw [hsame] at hstored
      exact absurd ((h.stored _ trip).1 ⟨hstored, hlot⟩).1 hfresh
    · exact happend
  refine ⟨h.linear.snoc hrevision ?_, fun id t => ?_, ?_⟩
  · rw [← htrip]; show (s.previousOutcome lot).map _ = _; rw [hprevious]
  · rw [hrevisions, List.mem_append, List.mem_append, List.mem_singleton, List.mem_singleton]
    constructor
    · rintro ⟨hold | hnew, hlot'⟩
      · obtain ⟨hmem, hid⟩ := (h.stored id t).1 ⟨hold, hlot'⟩
        exact ⟨.inl hmem, hid⟩
      · cases hnew; exact ⟨.inr rfl, rfl⟩
    · rintro ⟨hold | rfl, hid⟩
      · obtain ⟨hmem, hlot'⟩ := (h.stored id t).2 ⟨hold, hid⟩
        exact ⟨.inl hmem, hlot'⟩
      · rw [hid]; exact ⟨.inr rfl, hlot⟩
  · rw [hrecorded.current, List.getLast?_append, List.getLast?_singleton]; rfl

theorem Chain.other {other : String} (h : Chain v s other l) (hne : other ≠ lot)
    (hlot : trip.lotId = lot) (hrecorded : Recorded v lot trip s s') : Chain v s' other l := by
  refine ⟨h.linear, fun id t => ?_, (hrecorded.others other hne).trans h.current⟩
  rw [← h.stored id t]; rcases hrecorded.revisions with hsame | happend
  · rw [hsame]
  rw [happend, List.mem_append, List.mem_singleton]; constructor
  · rintro ⟨hold | hnew, hlot'⟩
    · exact ⟨hold, hlot'⟩
    · cases hnew; exact absurd (hlot'.symm.trans hlot) hne
  · rintro ⟨hold, hlot'⟩; exact ⟨.inl hold, hlot'⟩

/-- Every lot has its chain; `P` holds of it. -/
def Chained (v : OutcomeViews) (P : List RoundTrip → Prop) (s : CoreStore) : Prop :=
  ∀ lot, ∃ l, Chain v s lot l ∧ P l

variable {v : OutcomeViews} {P : List RoundTrip → Prop}

/-- **One lot.** Processing keeps every chain, and keeps the cutoffs ascending where the
early ones meet the condition. -/
theorem chained_process {s s' : CoreStore}
    {lot : String} {cutoff : Int} (h : Chained v P s) (hw : LotWrite v lot cutoff s s')
    (hP : ∀ l e, Chain v s lot l → P l → s.entryUnsent lot = false →
      lotEvidence v s lot cutoff ((s.previousOutcome lot).map (·.reconciliationId)) = .ok e →
      (∀ t, s.previousOutcome lot = some t → t.sourceStateHash ≠ v.stateHash e.sources e.fills) →
      P (l ++ [nextRevision v s lot cutoff (s.previousOutcome lot) e])) : Chained v P s' := by
  cases hw with
  | kept hkept =>
    intro other; obtain ⟨l, hl, hPl⟩ := h other
    exact ⟨l, hl.elsewhere hkept, hPl⟩
  | revised trip hsent hresolve hnew _ hrecorded =>
    obtain ⟨l, hl, hPl⟩ := h lot
    rcases resolve_trip hresolve with hsame | ⟨e, he, hhash, rfl⟩
    · -- the latest revision is the current outcome
      refine absurd ?_ hnew; rw [hl.current, ← hl.previous, hsame]; rfl
    intro other; by_cases hother : other = lot
    · subst hother
      exact ⟨_, hl.recorded hrecorded, hP l e hl hPl hsent he hhash⟩
    · obtain ⟨l', hl', hPl'⟩ := h other
      exact ⟨l', hl'.other hother rfl hrecorded, hPl'⟩

theorem ascends_snoc {s : CoreStore} {lot : String} {cutoff : Int}
    {l : List RoundTrip} {e : LotEvidence} (hstands : Stands v s lot cutoff)
    (hl : Chain v s lot l) (hasc : Ascends l) (hsent : s.entryUnsent lot = false)
    (he : lotEvidence v s lot cutoff ((s.previousOutcome lot).map (·.reconciliationId)) = .ok e)
    (hhash : ∀ t, s.previousOutcome lot = some t →
      t.sourceStateHash ≠ v.stateHash e.sources e.fills) :
    Ascends (l ++ [nextRevision v s lot cutoff (s.previousOutcome lot) e]) := by
  unfold Ascends; rw [List.pairwise_append]
  refine ⟨hasc, List.pairwise_singleton _ _, fun a ha b hb => ?_⟩
  rw [List.mem_singleton.1 hb]; have hne : l ≠ [] := List.ne_nil_of_mem ha
  have hlast := List.getLast?_eq_some_getLast hne
  have hprevious := hl.previous.trans hlast
  have hle : (l.getLast hne).availableAt ≤ cutoff := by
    by_contra hlt; rw [hprevious] at he
    exact hhash _ hprevious (hstands _ e hprevious (not_le.1 hlt) hsent he).symm
  refine le_trans ?_ hle
  rcases List.mem_append.1 (List.dropLast_append_getLast hne ▸ ha) with hbefore | hlast'
  · have hpair := List.dropLast_append_getLast hne ▸ hasc
    exact (List.pairwise_append.1 hpair).2.2 a hbefore _ (List.mem_singleton_self _)
  · rw [List.mem_singleton.1 hlast']

/-! ## Runs -/

inductive OutcomeLabel
  /-- A run of `process_outcomes` processes a lot. -/
  | process (lot : String) (cutoff : Int)
  | importBatch (events : List BrokerEvent)
  | claim (decision : Decision) (intent : OrderIntent) (protectionId : String)
  /-- `store.record`. -/
  | publish (identity : String) (document : Document)
  | other

inductive OutcomeStep (v : OutcomeViews) : CoreStore → OutcomeLabel → CoreStore → Prop
  | process (s : CoreStore) (lot : String) (cutoff : Int) :
      OutcomeStep v s (.process lot cutoff)
        (after (processLot v.contentId (resolve v) cutoff lot) s)
  | importBatch (s : CoreStore) (events : List BrokerEvent) :
      OutcomeStep v s (.importBatch events) (after (importBrokerEvents v.contentId events) s)
  | claim (s : CoreStore) (d : Decision) (i : OrderIntent) (p : String) :
      OutcomeStep v s (.claim d i p) (after (claimEntry v.contentId d i p) s)
  | publish (s : CoreStore) (id : String) {d : Document} : d.kind ≠ .revision →
      OutcomeStep v s (.publish id d) (after (immediate (put id d)) s)
  | other {s s' : CoreStore} : Elsewhere s s' → OutcomeStep v s .other s'

/-- From a store without outcomes, whatever evidence it has. -/
def outcomes (v : OutcomeViews) : LTS CoreStore OutcomeLabel where
  init s := s.revisions = [] ∧ s.outcomeIndex = .empty
  step := OutcomeStep v

/-- The condition on the steps of a run. -/
def EarlyStands (v : OutcomeViews) (s : CoreStore) (l : OutcomeLabel) (_ : CoreStore) : Prop :=
  match l with
  | .process lot cutoff => Stands v s lot cutoff
  | _ => True

theorem outcomes_init (h : (outcomes v).init s) (lot : String) : Chain v s lot [] := by
  obtain ⟨hrevisions, hindex⟩ := h; refine ⟨.nil, fun id t => ?_, ?_⟩
  · rw [hrevisions]
    exact ⟨fun ⟨hmem, _⟩ => (by cases hmem), fun ⟨hmem, _⟩ => (by cases hmem)⟩
  · unfold CoreStore.current; rw [hindex]; rfl

theorem outcomes_elsewhere {l : OutcomeLabel} (h : (outcomes v).step s l s') :
    Elsewhere s s' ∨ ∃ lot cutoff, l = .process lot cutoff ∧ LotWrite v lot cutoff s s' := by
  cases h with
  | process lot cutoff => exact .inr ⟨lot, cutoff, rfl, processLot_after v lot cutoff s⟩
  | importBatch events => exact .inl (elsewhere_importWrites.after v.contentId events s)
  | claim d i p => exact .inl (claimEntry_elsewhere v.contentId d i p s)
  | publish id hd => exact .inl ((put_elsewhere id _ hd).after s)
  | other he => exact .inl he

theorem chained_step {s s' : CoreStore}
    {l : OutcomeLabel} (h : Chained v P s) (hst : (outcomes v).step s l s')
    (hP : ∀ lot cutoff, l = .process lot cutoff → ∀ chain e, Chain v s lot chain → P chain →
      s.entryUnsent lot = false →
      lotEvidence v s lot cutoff ((s.previousOutcome lot).map (·.reconciliationId)) = .ok e →
      (∀ t, s.previousOutcome lot = some t → t.sourceStateHash ≠ v.stateHash e.sources e.fills) →
      P (chain ++ [nextRevision v s lot cutoff (s.previousOutcome lot) e])) : Chained v P s' := by
  rcases outcomes_elsewhere hst with helse | ⟨lot, cutoff, rfl, hwrite⟩
  · intro lot; obtain ⟨l, hl, hPl⟩ := h lot; exact ⟨l, hl.elsewhere helse, hPl⟩
  · exact chained_process h hwrite (hP lot cutoff rfl)

theorem chained_inductive (v : OutcomeViews) :
    (outcomes v).Inductive (Chained v fun _ => True) where
  init _ h lot := ⟨[], outcomes_init h lot, trivial⟩
  step _ _ _ h hst := chained_step h hst fun _ _ _ _ _ _ _ _ _ _ => trivial

theorem ascending_inductive (v : OutcomeViews) :
    ((outcomes v).restrict (EarlyStands v)).Inductive (Chained v Ascends) where
  init _ h lot := ⟨[], outcomes_init h lot, List.Pairwise.nil⟩
  step _ _ _ h hst := by
    obtain ⟨hst, hstands⟩ := hst
    refine chained_step h hst fun lot cutoff hl chain e hchain hasc hsent he hhash => ?_
    subst hl
    exact ascends_snoc hstands hchain hasc hsent he hhash

/-- **The chain of outcomes.** In every run the stored revisions of a lot are a linear
chain whose last item is the current outcome. In the runs whose early cutoffs meet
`Stands`, the cutoffs ascend along it: no outcome is replaced by one of an earlier
cutoff. -/
theorem outcome_chain (v : OutcomeViews) :
    (∀ s, (outcomes v).Reachable s → ∀ lot, ∃ l, Chain v s lot l) ∧
    ∀ s, ((outcomes v).restrict (EarlyStands v)).Reachable s →
      ∀ lot, ∃ l, Chain v s lot l ∧ Ascends l := by
  refine ⟨fun s hs lot => ?_, fun s hs lot => (ascending_inductive v).reachable hs lot⟩
  obtain ⟨l, hl, _⟩ := (chained_inductive v).reachable hs lot; exact ⟨l, hl⟩

/-! ## A closed lot -/

def outcomeDigest : ContentId
  | .roundTrip t => "trip:" ++ t.lotId ++ "/" ++ toString t.revision
  | c => labelDigest c

def closedViews : OutcomeViews where
  contentId := outcomeDigest
  stateHash sources _ := String.join sources
  terms _ := ⟨"policy", some 0⟩
  observationStart _ := none
  plan? id := if id = "plan" then some ⟨"lot", "core", 1⟩ else none
  authorization _ := none
  assetFees _ _ _ := .ok {}
  scopedQuantity _ _ := false

def filledOrder (id client : String) (side : OrderSide) : BrokerOrder :=
  { partialOrder with
    brokerOrderId := id
    clientOrderId := client
    side := side
    filledQuantity := 10
    status := "filled"
    filled_nonneg := by decide
    filled_le := by decide }

def wholeFill (id order : String) (side : OrderSide) (occurredAt : Int) : Fill where
  fillId := id
  brokerOrderId := order
  symbol := "SPY"
  side := side
  quantity := 10
  price := 100
  occurredAt := occurredAt
  quantity_pos := L1.ten_pos
  price_pos := L1.hundred_pos
  fee_nonneg := L1.fee_absent
  fee_valid := L1.fee_unknown

/-- The closed order with the activity of its one fill, two seconds later. -/
def closingEvent (order : BrokerOrder) (fill : Fill) : BrokerEvent where
  recordedAt := fill.occurredAt + 2
  releaseId := "rel"
  evidenceLane := .syntheticTest
  eventId := order.brokerOrderId
  rawDigest := ""
  provider := .explicitSynthetic
  accountId := "PA1"
  endpoint := "orders"
  clientOrderId := order.clientOrderId
  occurredAt := fill.occurredAt
  payload := .order order
  activityComplete := true
  activityFillIds := [fill.fillId]
  activityWatermark := some (fill.occurredAt + 1)
  occurred_le := by omega
  complete_order _ := rfl
  complete_watermark _ := ⟨_, rfl, by omega⟩

/-- The fee of a fill, received at twenty. -/
def lateFee (fillId : String) : CostItem where
  recordedAt := 20
  releaseId := "rel"
  evidenceLane := .syntheticTest
  fillId := fillId
  amount := some 1
  source := .brokerReported
  documentId := some "statement"
  effectiveStart := 0
  effectiveEnd := 100
  effective_le := by decide
  valid := ⟨by decide, nofun, by decide, nofun, by decide, by decide, by decide⟩

def closedOrders : List BrokerOrder :=
  [filledOrder "B1" "qb-1" .buy, filledOrder "B2" "qb-2" .sell]

def closedFills : List Fill := [wholeFill "F1" "B1" .buy 5, wholeFill "F2" "B2" .sell 8]

def closedProof : ReconciliationProof where
  recordedAt := 11
  releaseId := "rel"
  evidenceLane := .syntheticTest
  account := ⟨"PA1", 1000, 1000, 1000, "USD", none, L1.thousand_nonneg, L1.thousand_nonneg,
    L1.thousand_nonneg⟩
  baselineId := "baseline"
  generation := 1
  fillIds := ["F1", "F2"]
  expectedQuantities := []
  actualQuantities := []
  positions := []
  expectedCash := none
  acquisitionId := ""
  complete := true
  generation_pos := Nat.one_pos

def closedDocuments : List DocRow :=
  [⟨"lot", .decision ⟨0, "obs", "SPY", 10⟩⟩, ⟨"receipt", .receipt ⟨4, "core", 1, 50, ["plan"]⟩⟩,
    ⟨"proof", .proof closedProof⟩, ⟨"cost:F1", .cost (lateFee "F1")⟩,
    ⟨"cost:F2", .cost (lateFee "F2")⟩] ++
  (List.zipWith closingEvent closedOrders closedFills).map fun e =>
    ⟨sourceId outcomeDigest e, .source e⟩

/-- A lot bought and sold whole, both fees known at twenty. -/
def closedStore : CoreStore where
  config := paperConfig
  orderIntents := (UTable.empty.insert (entryIntent.withState .filled)).insert
    { entryIntent with
      intentId := "core-exit-1", clientOrderId := "qb-2", side := .sell, state := .filled }
  brokerOrders := closedOrders.foldl UTable.insert .empty
  fills := closedFills.foldl Table.insert .empty
  links := (Table.empty.insert ⟨"core-entry-1", "lot", "plan", "obs", .entry, "lot"⟩).insert
    ⟨"core-exit-1", "lot", "plan", "obs", .exit, "lot"⟩
  documents := closedDocuments.foldl Table.insert .empty
  certifications := Table.empty.insert ⟨1, "proof"⟩

def processedAt (s : CoreStore) (cutoff : Int) : CoreStore :=
  after (processLot closedViews.contentId (resolve closedViews) cutoff "lot") s

def costedStore : CoreStore := processedAt closedStore 25

/-- The outcome of the first run, both fees in it. -/
theorem outcome_chain_first : ∃ l, Chain closedViews costedStore "lot" l ∧ Ascends l ∧
      costedStore.current "lot" = some "trip:lot/1" := by
  have hstands : EarlyStands closedViews closedStore (.process "lot" 25) costedStore := by
    intro t e ht
    have hnone : closedStore.previousOutcome "lot" = none := by decide
    cases ht
  have hreach : ((outcomes closedViews).restrict (EarlyStands closedViews)).Reachable
      costedStore :=
    ⟨closedStore, [.process "lot" 25], ⟨by decide, rfl⟩,
      .cons ⟨.process closedStore "lot" 25, hstands⟩ (.nil _)⟩
  obtain ⟨l, hl, hasc⟩ := (outcome_chain closedViews).2 _ hreach "lot"
  exact ⟨l, hl, hasc, by decide +kernel⟩

/-- A later run whose cutoff is before the fees: both runs select the lot, and the
second one replaces the complete outcome. -/
theorem outcome_rolled_back : (outcomes closedViews).Reachable costedStore ∧
      (outcomes closedViews).step costedStore (.process "lot" 15) (processedAt costedStore 15) ∧
      "lot" ∈ selectLots closedStore ∧ "lot" ∈ selectLots costedStore ∧
      ∃ t t', costedStore.previousOutcome "lot" = some t ∧ t.status = "COMPLETE" ∧
        t.availableAt = 25 ∧ (processedAt costedStore 15).previousOutcome "lot" = some t' ∧
        t'.status = "COSTS_PENDING" ∧ t'.availableAt = 15 ∧
        (processedAt costedStore 15).current "lot" = some (outcomeDigest (.roundTrip t')) := by
  refine ⟨⟨closedStore, [.process "lot" 25], ⟨by decide, rfl⟩,
    .cons (.process closedStore "lot" 25) (.nil _)⟩, .process costedStore "lot" 15,
    by decide +kernel, by decide +kernel, ?_⟩
  have hfirst : ∃ t ∈ costedStore.previousOutcome "lot", t.status = "COMPLETE" ∧
      t.availableAt = 25 := by decide +kernel
  have hsecond : ∃ t' ∈ (processedAt costedStore 15).previousOutcome "lot",
      t'.status = "COSTS_PENDING" ∧ t'.availableAt = 15 ∧
        (processedAt costedStore 15).current "lot" = some (outcomeDigest (.roundTrip t')) := by
    decide +kernel
  obtain ⟨t, ht, hstatus, hcutoff⟩ := hfirst; obtain ⟨t', ht', hrest⟩ := hsecond
  exact ⟨t, t', ht, hstatus, hcutoff, ht', hrest⟩

end Quantbot.L4
