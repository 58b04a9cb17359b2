import Quantbot.Core.IsoText
import Quantbot.Core.LTS
import Quantbot.L4PaperCore.Queue

/-!
# The current guardian receipt

`notify_document` (`paper_core/work.py:273-324`) moves the pointer when the text of the new
receipt's time is not before the text of the current one's. The texts are those of
`datetime.isoformat` (`research/manifest.py:70-71`), of instants in UTC (`brokers/base.py:42-49`).

Results:
* `putGuardianReceipt_eq_put`: comparing the texts is comparing the instants, as `put` is modelled.
* `guardian_pointer_greatest`: over every order of publishing.
-/
namespace Quantbot.L4

open Core L1 L2 Txn

/-! ## Publishing by the texts -/

/-- mirrors work.py:295-303 -/
def publishReceiptText (identity : String) (receipt : GuardianReceipt) : CoreTxn PUnit := fun s =>
  match s.guardianCurrent with
  | none => .ok ⟨⟩ { s with guardianCurrent := some identity }
  | some previous =>
    match s.receipt? previous with
    | none => .error .noResult s
    | some old =>
      if isoformat receipt.recordedAt ≥ isoformat old.recordedAt then
        .ok ⟨⟩ { s with guardianCurrent := some identity }
      else .ok ⟨⟩ s

/-- `put` of a receipt: a new one is published, and the open lots are told.
mirrors store.py:32-45, work.py:284-304 -/
def putGuardianReceipt (identity : String) (receipt : GuardianReceipt) : CoreTxn PUnit := do
  if ← insertDocument identity (.receipt receipt) then
    publishReceiptText identity receipt
    let s ← get
    dirty s.pending (some receipt.recordedAt) false

/-- The times on record are `datetime`s. -/
def Dated (s : CoreStore) : Prop := ∀ id r, s.receipt? id = some r → Representable r.recordedAt

variable {s s' : CoreStore} {receipt : GuardianReceipt} {identity : String}

theorem publishReceiptText_eq (hs : Dated s) (hreceipt : Representable receipt.recordedAt) :
    publishReceiptText identity receipt s = publishReceipt identity receipt s := by
  unfold publishReceiptText publishReceipt
  cases s.guardianCurrent with
  | none => rfl
  | some previous =>
    dsimp only
    cases hold : s.receipt? previous with
    | none => rfl
    | some old => simp only [ge_iff_le, isoformat_le_iff (hs _ _ hold) hreceipt]

theorem receipt?_insert {receipt : GuardianReceipt}
    (h : s.documents.get? (.receipt, identity) = none) (id : String) :
    CoreStore.receipt? { s with documents := s.documents.insert ⟨identity, .receipt receipt⟩ } id =
      if identity = id then some receipt else s.receipt? id := by
  have hkey : s.documents.get? (DocRow.key ⟨identity, .receipt receipt⟩) = none := h
  unfold CoreStore.receipt? CoreStore.document
  rw [Table.get?_insert hkey]
  by_cases hid : identity = id
  · subst hid
    simp [DocRow.key, Document.kind, Document.receipt?]
  · simp [DocRow.key, Document.kind, hid]

theorem Dated.insert (hs : Dated s) (hreceipt : Representable receipt.recordedAt)
    (h : s.documents.get? (.receipt, identity) = none) :
    Dated { s with documents := s.documents.insert ⟨identity, .receipt receipt⟩ } := by
  intro id r hr; rw [receipt?_insert h] at hr; split at hr
  · cases hr; exact hreceipt
  · exact hs id r hr

/-! ## Runs -/

/-- A receipt that is published, or a step of code that writes neither receipts nor pointer. -/
inductive PointerMove
  | publish (identity : String) (receipt : GuardianReceipt)
  | other

/-- The pointer and the receipts are as they were. -/
structure SameReceipts (s s' : CoreStore) : Prop where
  current : s'.guardianCurrent = s.guardianCurrent
  receipts : ∀ id, s'.receipt? id = s.receipt? id

/-- A new store, or one whose pointer the migration set to the last text.
mirrors 0036_core_recovery.py:58-64 -/
def Seeded (s : CoreStore) : Prop :=
  s.guardianCurrent = none ∧ (∀ id, s.receipt? id = none) ∨
    ∃ current r, s.guardianCurrent = some current ∧ s.receipt? current = some r ∧
      ∀ id r', s.receipt? id = some r' → isoformat r'.recordedAt ≤ isoformat r.recordedAt

def pointerRuns : LTS CoreStore PointerMove where
  init s := Dated s ∧ Seeded s
  step s move s' :=
    match move with
    | .publish identity receipt => Representable receipt.recordedAt ∧
      s' = after (immediate (putGuardianReceipt identity receipt)) s
    | .other => SameReceipts s s'

/-- The pointer names a receipt recorded last, and there is one as soon as there are receipts. -/
def Newest (s : CoreStore) : Prop :=
  s.guardianCurrent = none ∧ (∀ id, s.receipt? id = none) ∨
    ∃ current r, s.guardianCurrent = some current ∧ s.receipt? current = some r ∧
      ∀ id r', s.receipt? id = some r' → r'.recordedAt ≤ r.recordedAt

theorem Seeded.newest (h : Seeded s) (hs : Dated s) : Newest s := by
  rcases h with h | ⟨current, r, hcurrent, hr, hmax⟩
  · exact .inl h
  · refine .inr ⟨current, r, hcurrent, hr, fun id r' hr' => ?_⟩
    exact (isoformat_le_iff (hs _ _ hr') (hs _ _ hr)).1 (hmax id r' hr')

theorem SameReceipts.newest (h : SameReceipts s s') (hs : Newest s) : Newest s' := by
  unfold Newest; simp only [h.current, h.receipts]; exact hs

theorem SameReceipts.dated (h : SameReceipts s s') (hs : Dated s) : Dated s' := by
  intro id r hr; rw [h.receipts] at hr; exact hs id r hr

instance : IsPreorder CoreStore SameReceipts where
  refl _ := ⟨rfl, fun _ => rfl⟩
  trans _ _ _ h h' := ⟨h'.current.trans h.current, fun id =>
    (h'.receipts id).trans (h.receipts id)⟩

theorem dirty_sameReceipts (lots : List String) (t : Option Int) (b : Bool) :
    Moves SameReceipts (dirty lots t b) := dirty_moves (fun _ _ => ⟨rfl, fun _ => rfl⟩) lots

/-- **One publication.** A receipt that has been stored takes the pointer unless an earlier one
is later. -/
theorem publishReceiptText_newest {t t' : CoreStore} {u : PUnit}
    (h : publishReceiptText identity receipt t = .ok u t') (hs : Newest s)
    (hnew : s.receipt? identity = none) (hcurrent : t.guardianCurrent = s.guardianCurrent)
    (hreceipts : ∀ id, t.receipt? id = if identity = id then some receipt else s.receipt? id)
    (hdated : Dated t) : Newest t' ∧ ∀ id, t'.receipt? id = t.receipt? id := by
  have hstored : t.receipt? identity = some receipt := by rw [hreceipts, if_pos rfl]
  have hmoved : (∀ id r, s.receipt? id = some r → r.recordedAt ≤ receipt.recordedAt) →
      Newest { t with guardianCurrent := some identity } := by
    intro hle; refine .inr ⟨identity, receipt, rfl, hstored, fun id r hr => ?_⟩
    have hr' : t.receipt? id = some r := hr; rw [hreceipts] at hr'; split at hr'
    · cases hr'; exact le_refl _
    · exact hle id r hr'
  rw [publishReceiptText_eq hdated (hdated _ _ hstored)] at h
  unfold publishReceipt at h
  rcases hs with ⟨hnone, hempty⟩ | ⟨current, r, hsome, hr, hmax⟩
  · rw [hcurrent, hnone] at h; obtain ⟨rfl⟩ := h
    refine ⟨hmoved fun id r hr => ?_, fun _ => rfl⟩; rw [hempty] at hr; cases hr
  · have hother : identity ≠ current := by
      rintro rfl; rw [hnew] at hr; cases hr
    have hold : t.receipt? current = some r := by rw [hreceipts, if_neg hother, hr]
    rw [hcurrent, hsome] at h; simp only [hold] at h; split at h
    · rename_i hle; obtain ⟨rfl⟩ := h
      exact ⟨hmoved fun id r' hr' => (hmax id r' hr').trans hle, fun _ => rfl⟩
    rename_i hlt; obtain ⟨rfl⟩ := h
    refine ⟨.inr ⟨current, r, hcurrent.trans hsome, hold, fun id r' hr' => ?_⟩, fun _ => rfl⟩
    rw [hreceipts] at hr'; split at hr'
    · cases hr'; omega
    · exact hmax id r' hr'

/-- What every store of a run is. -/
def Pointed (s : CoreStore) : Prop := Newest s ∧ Dated s

/-- Receipts stay under their identities. -/
def Retains (s s' : CoreStore) : Prop := ∀ id r, s.receipt? id = some r → s'.receipt? id = some r

instance : IsPreorder CoreStore Retains where
  refl _ _ _ hr := hr
  trans _ _ _ h h' id r hr := h' id r (h id r hr)

theorem SameReceipts.pointed (h : SameReceipts s s') (hs : Pointed s) :
    Pointed s' ∧ Retains s s' := by
  refine ⟨⟨h.newest hs.1, h.dated hs.2⟩, fun id r hr => ?_⟩; rw [h.receipts]
  exact hr

/-- A publication that returns stores its receipt, keeps the others and points to the last. -/
theorem putGuardianReceipt_pointed {u : PUnit} (hs : Pointed s)
    (hreceipt : Representable receipt.recordedAt)
    (h : putGuardianReceipt identity receipt s = .ok u s') :
    Pointed s' ∧ Retains s s' ∧ s'.receipt? identity = some receipt := by
  unfold putGuardianReceipt at h; rw [bind_ok] at h
  obtain ⟨inserted, s₁, hinsert, h⟩ := h
  rcases insertDocument_ok hinsert with ⟨rfl, hmem, rfl⟩ | ⟨rfl, hnone, rfl⟩
  · obtain ⟨_, rfl⟩ := pure_ok.1 h
    exact ⟨hs, refl_of Retains _, CoreStore.receipt?_eq_some.2 hmem⟩
  rw [if_pos rfl, bind_ok] at h; obtain ⟨_, s₂, hpublish, h⟩ := h
  have hnew : s.receipt? identity = none := by
    have hkey : s.documents.get? (.receipt, identity) = none := hnone
    unfold CoreStore.receipt? CoreStore.document; rw [hkey]; rfl
  have hdated := hs.2.insert hreceipt hnone
  obtain ⟨hnewest, hreceipts⟩ :=
    publishReceiptText_newest hpublish hs.1 hnew rfl (receipt?_insert hnone) hdated
  have hrest : Moves SameReceipts (do
      let s ← get
      dirty s.pending (some receipt.recordedAt) false : CoreTxn PUnit) :=
    Moves.get.bind fun s => dirty_sameReceipts _ _ _
  have hsame := hrest _ _ _ h
  have hnow : ∀ id, s'.receipt? id = if identity = id then some receipt else s.receipt? id := by
    intro id; rw [hsame.receipts, hreceipts, receipt?_insert hnone]
  refine ⟨⟨hsame.newest hnewest, fun id r hr => ?_⟩, fun id r hr => ?_, ?_⟩
  · rw [hnow] at hr; split at hr
    · cases hr; exact hreceipt
    · exact hs.2 id r hr
  · rw [hnow, if_neg]
    · exact hr
    rintro rfl; rw [hnew] at hr; cases hr
  · rw [hnow, if_pos rfl]

theorem pointerRuns_step {l : PointerMove} (hs : Pointed s) (h : pointerRuns.step s l s') :
    Pointed s' ∧ Retains s s' := by
  cases l with
  | publish identity receipt =>
    obtain ⟨hreceipt, rfl⟩ := h
    rcases after_cases (putGuardianReceipt identity receipt) s with hsame | ⟨u, hput⟩
    · rw [hsame]; exact ⟨hs, refl_of Retains _⟩
    · obtain ⟨hpointed, hretains, _⟩ := putGuardianReceipt_pointed hs hreceipt hput
      exact ⟨hpointed, hretains⟩
  | other =>
    have hsame : SameReceipts s s' := h; exact hsame.pointed hs

theorem pointed_inductive : pointerRuns.Inductive Pointed where
  init _ h := ⟨h.2.newest h.1, h.1⟩
  step _ _ _ hs h := (pointerRuns_step hs h).1

/-- **The pointer is monotone.** In every store of a run, whatever receipts were published in
whatever order: a receipt that was published is stored from then on, and as soon as there is one
the pointer names a stored receipt whose recorded instant is the greatest. -/
theorem guardian_pointer_greatest {s : CoreStore} (h : pointerRuns.Reachable s) :
    (∀ id r, s.receipt? id = some r →
      ∃ current newest, s.guardianCurrent = some current ∧ s.receipt? current = some newest ∧
        ∀ id r, s.receipt? id = some r → r.recordedAt ≤ newest.recordedAt) ∧
    ∀ identity receipt u s₁ ls s', Representable receipt.recordedAt →
      putGuardianReceipt identity receipt s = .ok u s₁ → pointerRuns.Run s₁ ls s' →
      s'.receipt? identity = some receipt := by
  have hs := pointed_inductive.reachable h
  refine ⟨fun id r hr => ?_, fun identity receipt u s₁ ls s' hreceipt hput hrun => ?_⟩
  · rcases hs.1 with ⟨_, hempty⟩ | hnewest
    · rw [hempty] at hr; cases hr
    · exact hnewest
  · obtain ⟨hpointed, _, hstored⟩ := putGuardianReceipt_pointed hs hreceipt hput
    have hretains : Retains s₁ s' := hrun.rel (refl_of Retains) (fun _ _ _ => trans_of Retains)
      (fun _ _ _ hs hstep => (pointerRuns_step hs hstep).1)
      (fun _ _ _ hs hstep => (pointerRuns_step hs hstep).2) hpointed
    exact hretains identity receipt hstored

/-! ## A late publisher -/

def pointerStore : CoreStore where
  config := ⟨"PA1", "rel", "core", 0, .brokerPaper, "collect-owned-30m-stop100-v1", .modelOnly,
    .strict⟩

def pointerReceipt (t : Int) : GuardianReceipt := ⟨t, "core", 1, t + 120000000, []⟩

/-- A receipt of half a second, then one of the whole second before it. -/
def halfStore : CoreStore :=
  after (immediate (putGuardianReceipt "half" (pointerReceipt 1735689599500000))) pointerStore

def lateStore : CoreStore :=
  after (immediate (putGuardianReceipt "whole" (pointerReceipt 1735689599000000))) halfStore

theorem guardian_pointer_greatest_late : lateStore.guardianCurrent = some "half" ∧
    lateStore.receipt? "half" = some (pointerReceipt 1735689599500000) ∧
    ∃ current newest, lateStore.guardianCurrent = some current ∧
      lateStore.receipt? current = some newest ∧
      ∀ id r, lateStore.receipt? id = some r → r.recordedAt ≤ newest.recordedAt := by
  have hlate : pointerRuns.Run halfStore [.publish "whole" (pointerReceipt 1735689599000000)]
      lateStore := .cons ⟨by decide, rfl⟩ (.nil _)
  have hrun : pointerRuns.Run pointerStore
      [.publish "half" (pointerReceipt 1735689599500000),
        .publish "whole" (pointerReceipt 1735689599000000)] lateStore :=
    .cons ⟨by decide, rfl⟩ hlate
  have hinit : pointerRuns.init pointerStore := by
    refine ⟨fun id r hr => ?_, .inl ⟨rfl, fun _ => rfl⟩⟩; cases hr
  have hput : putGuardianReceipt "half" (pointerReceipt 1735689599500000) pointerStore =
      .ok ⟨⟩ halfStore := by
    obtain ⟨s', hs'⟩ :
        Returns (putGuardianReceipt "half" (pointerReceipt 1735689599500000)) pointerStore
        ⟨⟩ := by decide +kernel
    rw [halfStore, after_ok (immediate_ok.2 hs'), hs']
  have hhalf := (guardian_pointer_greatest ⟨_, _, hinit, .nil _⟩).2 "half" _ _ _ _ _
    (by decide) hput hlate
  exact ⟨by decide +kernel, hhalf,
    (guardian_pointer_greatest ⟨_, _, hinit, hrun⟩).1 "half" _ hhalf⟩

end Quantbot.L4
