import Quantbot.Core.LTS
import Quantbot.L4PaperCore.Learning

/-!
# The trial budget over runs

Any number of callers of `consider_learning` (paper_core/learning.py:634-720), the fit
processes they start and everybody else who writes to the search ledger, with a crash of
a caller or of a fit between any two of their steps. A crash releases the locks of the
process that died; a fit outlives the caller that started it, and files stay.

* `learning_budget`: a completed session and an input revision are attempted at most once,
  every attempt has exactly one charge and every charge an attempt, a run has at most one
  consideration and one receipt, none of these rows is ever taken back, and a fit starts
  only when its attempt and its charge are committed.
-/
namespace Quantbot.L4.Learning

open Core Txn L2

variable {contentId : ContentId}

/-! ## The books -/

/-- The row is the charge of a run. -/
def Charges (r : SearchRun) (runId : String) : Prop :=
  ∃ t, r.detail = .trialCharge t ∧ t.runId = runId

/-- A run was attempted. -/
def Attempted (s : LearningStore) (runId : String) : Prop :=
  ∃ a ∈ s.attempts.rows, a.runId = runId

/-- Attempts and charges answer to each other, and every receipt to a consideration. -/
structure Books (s : LearningStore) : Prop where
  charged : ∀ a ∈ s.attempts.rows, a.searchId = chargeId a.runId ∧
    ∃ r ∈ s.searchRuns.rows, r.searchId = a.searchId ∧ Charges r a.runId ∧
      r.candidatesEvaluated = 1
  owed : ∀ r ∈ s.searchRuns.rows, ∀ runId, Charges r runId →
    r.searchId = chargeId runId ∧ Attempted s runId
  reserved : ∀ a ∈ s.attempts.rows, a.reservation.runId = a.runId
  receipts : ∀ d ∈ s.receipts.rows, ⟨d.payload.runId, d.id⟩ ∈ s.considerations.rows

/-- Nothing is taken back. -/
structure Kept (s s' : LearningStore) : Prop where
  attempts : s.attempts.rows <+: s'.attempts.rows
  considerations : ∀ c ∈ s.considerations.rows, c ∈ s'.considerations.rows
  receipts : ∀ d ∈ s.receipts.rows, d ∈ s'.receipts.rows
  searchRuns : ∀ r ∈ s.searchRuns.rows, r ∈ s'.searchRuns.rows

instance : IsPreorder LearningStore Kept where
  refl _ := ⟨List.prefix_refl _, fun _ h => h, fun _ h => h, fun _ h => h⟩
  trans _ _ _ h h' := ⟨h.attempts.trans h'.attempts,
    fun c hc => h'.considerations c (h.considerations c hc),
    fun d hd => h'.receipts d (h.receipts d hd), fun r hr => h'.searchRuns r (h.searchRuns r hr)⟩

variable {runId : String}

theorem Kept.attempted {s s' : LearningStore} (h : Kept s s') (ha : Attempted s runId) :
    Attempted s' runId := by
  obtain ⟨a, hmem, hrun⟩ := ha; exact ⟨a, h.attempts.subset hmem, hrun⟩

/-- A write that attempts nothing. -/
structure Noted (w w' : World) : Prop where
  kept : Kept w.store w'.store
  attempts : w'.store.attempts = w.store.attempts
  books : Books w.store → Books w'.store

instance : IsPreorder World Noted where
  refl _ := ⟨refl_of Kept _, rfl, fun h => h⟩
  trans _ _ _ h h' := ⟨trans_of Kept h.kept h'.kept, h'.attempts.trans h.attempts,
    fun hb => h'.books (h.books hb)⟩

variable {w w' : World}

theorem Noted.files (h : w'.store = w.store) : Noted w w' := by
  refine ⟨?_, ?_, ?_⟩
  · rw [h]; exact refl_of Kept _
  · rw [h]
  · rw [h]; exact fun hb => hb

theorem writeFolder_noted (w : World) (runId : String) (files : Scratch) :
    Noted w (w.writeFolder runId files) :=
  .files rfl

theorem withdraw_noted (w : World) (runId : String) : Noted w (w.withdraw runId) :=
  writeFolder_noted w runId _

/-! ## Documents and receipts -/

theorem putIn_some {α : Type} [DecidableEq α] {docs docs' : Documents α} {id : String} {a : α}
    (h : putIn docs id a = some docs') :
    ⟨id, a⟩ ∈ docs'.rows ∧ (∀ d ∈ docs'.rows, d ∈ docs.rows ∨ d = ⟨id, a⟩) ∧
      ∀ d ∈ docs.rows, d ∈ docs'.rows := by
  unfold putIn at h
  cases hd : docs.get? id with
  | some d =>
    simp only [hd, Option.ite_none_right_eq_some, Option.some.injEq] at h
    obtain ⟨hpayload, rfl⟩ := h; obtain ⟨hmem, hid⟩ := Table.get?_some hd
    have hrow : d = ⟨id, a⟩ := by rw [← hpayload, ← hid]
    exact ⟨hrow ▸ hmem, fun d hd => .inl hd, fun d hd => hd⟩
  | none =>
    simp only [hd, Option.some.injEq] at h; subst h
    refine ⟨(Table.mem_insert hd).2 (.inr rfl), fun d h => (Table.mem_insert hd).1 h,
      fun d h => Table.mem_insert_of_mem h⟩

theorem putModel_noted (m : ModelArtifact) : Moves Noted (putModel contentId m) := by
  intro w u w' h; unfold putModel at h; split at h
  · obtain ⟨rfl⟩ := h
    exact ⟨⟨List.prefix_refl _, fun _ h => h, fun _ h => h, fun _ h => h⟩, rfl,
      fun hb => ⟨hb.charged, hb.owed, hb.reserved, hb.receipts⟩⟩
  · cases h

theorem putExport_noted (e : Export) : Moves Noted (putExport contentId e) := by
  intro w u w' h; unfold putExport at h; split at h
  · obtain ⟨rfl⟩ := h
    exact ⟨⟨List.prefix_refl _, fun _ h => h, fun _ h => h, fun _ h => h⟩, rfl,
      fun hb => ⟨hb.charged, hb.owed, hb.reserved, hb.receipts⟩⟩
  · cases h

variable {u : PUnit}

theorem saveReceipt_ok {r : LearningReceipt} (h : saveReceipt contentId r w = .ok u w') :
    Noted w w' ∧ (w'.store.considerations.get? r.runId).isSome := by
  unfold saveReceipt at h; rw [bind_ok] at h; obtain ⟨_, w₁, hput, hinsert⟩ := h
  unfold putReceipt at hput; split at hput
  · rename_i receipts hreceipts; obtain ⟨rfl⟩ := hput
    obtain ⟨hin, hback, hkept⟩ := putIn_some hreceipts
    unfold insertConsideration at hinsert; split at hinsert
    · rename_i hnew; obtain ⟨rfl⟩ := hinsert
      have hcons : ∀ c ∈ w.store.considerations.rows, c ∈ (w.store.considerations.insert
          ⟨r.runId, contentId (.receipt r)⟩).rows := fun c hc => Table.mem_insert_of_mem hc
      refine ⟨⟨⟨List.prefix_refl _, hcons, hkept, fun _ h => h⟩, rfl, fun hb =>
        ⟨hb.charged, hb.owed, hb.reserved, fun d hd => ?_⟩⟩, ?_⟩
      · rcases hback d hd with hd | rfl
        · exact hcons _ (hb.receipts d hd)
        · exact (Table.mem_insert hnew).2 (.inr rfl)
      · exact Table.insert_present _ (⟨r.runId, contentId (.receipt r)⟩ : Consideration)
    · cases hinsert
  · cases hput

theorem saveReceipt_noted (r : LearningReceipt) : Moves Noted (saveReceipt contentId r) :=
  fun _ _ _ h => (saveReceipt_ok h).1

theorem previousReceipt_ok {o : Option LearningReceipt} (h : previousReceipt runId w = .ok o w') :
    w' = w ∧ (o = none → w.store.considerations.get? runId = none) := by
  unfold previousReceipt at h; split at h
  · rename_i hnone; obtain ⟨rfl, rfl⟩ := h; exact ⟨rfl, fun _ => hnone⟩
  · split at h
    · obtain ⟨rfl, rfl⟩ := h; exact ⟨rfl, fun h => by cases h⟩
    · cases h

/-! ## Transactions -/

theorem refusalReceipt_noted (v : Invocation) (reason : Refusal) (selected : Selection)
    (now : Int) : Moves Noted (refusalReceipt contentId v reason selected now) := by
  intro w r w' h; unfold refusalReceipt at h; rw [bind_ok] at h
  obtain ⟨o, w₁, hprevious, h⟩ := h
  obtain ⟨rfl, _⟩ := previousReceipt_ok hprevious
  cases o with
  | some receipt =>
    obtain ⟨_, rfl⟩ := pure_ok.1 h; exact refl_of Noted _
  | none =>
    exact Moves.bind (putModel_noted _)
      (fun _ => Moves.bind (saveReceipt_noted _) fun _ => Moves.pure _) _ _ _ h

theorem saveFinal_noted (candidate : Option ModelArtifact) (receipt : LearningReceipt) :
    Moves Noted (saveFinal contentId candidate receipt) := by
  have hmodel : Moves Noted (candidate.elim (pure ⟨⟩) (putModel contentId)) := by
    cases candidate with
    | none => exact Moves.pure _
    | some m => exact putModel_noted m
  exact Moves.bind hmodel fun _ => Moves.bind (saveReceipt_noted _) fun _ => Moves.pure _

theorem recoverEach_ok {domain : String} {as : List Attempt} {now : Attempt → Int}
    (h : recoverEach contentId domain as now w = .ok u w') :
    Noted w w' ∧ ∀ a ∈ as, (w'.store.considerations.get? a.reservation.runId).isSome := by
  induction as generalizing w with
  | nil =>
    obtain ⟨_, rfl⟩ := pure_ok.1 h
    exact ⟨refl_of Noted _, fun a ha => by cases ha⟩
  | cons a as ih =>
    unfold recoverEach at h; rw [bind_ok] at h; obtain ⟨_, w₁, hmodify, h⟩ := h
    rw [modify_ok] at hmodify; rw [bind_ok] at h
    obtain ⟨_, w₂, hsave, hrest⟩ := h
    obtain ⟨hnoted, hconsidered⟩ := saveReceipt_ok hsave
    obtain ⟨hafter, hall⟩ := ih hrest
    have hfiles : Noted w w₁ := by
      rw [hmodify]; exact withdraw_noted w a.runId
    refine ⟨trans_of Noted hfiles (trans_of Noted hnoted hafter), fun b hb => ?_⟩
    rcases List.mem_cons.1 hb with rfl | hb
    · obtain ⟨c, hc⟩ := Option.isSome_iff_exists.1 hconsidered
      have hkept := Table.get?_kept hafter.kept.considerations hc
      rw [show b.reservation.runId = (lostReceipt b (now b) domain).runId from rfl, hkept]
      rfl
    · exact hall b hb

theorem record_noted {row : SearchRun} (hdetail : ∀ c, row.detail ≠ .trialCharge c)
    (hnew : w.store.searchRuns.get? row.searchId = none) : Noted w { w with store :=
      { w.store with searchRuns := w.store.searchRuns.insert row } } := by
  have hkept : ∀ r ∈ w.store.searchRuns.rows, r ∈ (w.store.searchRuns.insert row).rows :=
    fun r hr => Table.mem_insert_of_mem hr
  refine ⟨⟨List.prefix_refl _, fun _ h => h, fun _ h => h, hkept⟩, rfl, fun hb =>
    ⟨fun a ha => ?_, fun r hr runId hcharge => ?_, hb.reserved, hb.receipts⟩⟩
  · obtain ⟨hid, r, hr, hcharge⟩ := hb.charged a ha
    exact ⟨hid, r, hkept r hr, hcharge⟩
  · rcases (Table.mem_insert hnew).1 hr with hr | rfl
    · exact hb.owed r hr runId hcharge
    · obtain ⟨t, ht, _⟩ := hcharge
      exact absurd ht (hdetail t)

/-- Every attempt has a consideration. -/
def Settled (s : LearningStore) : Prop :=
  ∀ a ∈ s.attempts.rows, (s.considerations.get? a.runId).isSome

theorem recoverPending_ok {domain : String} {now : Attempt → Int}
    (h : recoverPending contentId domain now w = .ok u w') (hb : Books w.store) :
    Noted w w' ∧ Settled w'.store := by
  unfold recoverPending at h; rw [bind_ok] at h; obtain ⟨_, t, hget, h⟩ := h
  obtain ⟨rfl, rfl⟩ := get_ok.1 hget; obtain ⟨hnoted, hall⟩ := recoverEach_ok h
  refine ⟨hnoted, fun a ha => ?_⟩; rw [hnoted.attempts] at ha
  cases hold : t.store.considerations.get? a.runId with
  | some c =>
    rw [Table.get?_kept hnoted.kept.considerations hold]; rfl
  | none =>
    have := hall a (List.mem_filter.2 ⟨ha, by rw [hold]; rfl⟩)
    rwa [hb.reserved a ha] at this

/-- A write that charges an attempt, with nothing taken back. -/
structure Charged (runId : String) (w w' : World) : Prop where
  kept : Kept w.store w'.store
  attempted : Attempted w'.store runId
  books : Books w.store → Books w'.store

theorem insertSearchRun_ok {r : SearchRun} (h : insertSearchRun r w = .ok u w') :
    w.store.searchRuns.get? r.searchId = none ∧
      w' = { w with store := { w.store with searchRuns := w.store.searchRuns.insert r } } := by
  unfold insertSearchRun at h; split at h
  · rename_i hnew; obtain ⟨rfl⟩ := h; exact ⟨hnew.1, rfl⟩
  · cases h

theorem insertAttempt_ok {a : Attempt} (h : insertAttempt a w = .ok u w') :
    w'.store.attempts.rows = w.store.attempts.rows ++ [a] ∧
      w'.store = { w.store with attempts := w'.store.attempts } := by
  unfold insertAttempt at h; split at h
  · obtain ⟨rfl⟩ := h; exact ⟨rfl, rfl⟩
  · cases h

variable {c : Charge} {v : Invocation}

/-- **One charge for one attempt.** Both are written, or neither. -/
theorem chargeAttempt_ok {r : Reading} {p : Plan}
    (h : chargeAttempt contentId v r p w = .ok c w') : Charged c.runId w w' := by
  unfold chargeAttempt at h; simp only [bind_ok, require_ok] at h
  obtain ⟨_, w₀, ⟨_, rfl⟩, _, w₁, hrun, _, w₂, hattempt, h⟩ := h
  obtain ⟨rfl, rfl⟩ := pure_ok.1 h
  obtain ⟨hnew, rfl⟩ := insertSearchRun_ok hrun
  obtain ⟨hrows, hrest⟩ := insertAttempt_ok hattempt
  have hruns := congrArg LearningStore.searchRuns hrest
  have hcons := congrArg LearningStore.considerations hrest
  have hdocs := congrArg LearningStore.receipts hrest
  have hmine := (Table.mem_insert hnew).2 (.inr rfl)
  have hlast := List.mem_append_right w₀.store.attempts.rows (List.mem_singleton_self
    (⟨chargedSession v r, considerationRunId contentId v r.selected,
      chargeId (considerationRunId contentId v r.selected), splitDigest contentId p,
      revisionDigest contentId v r p, { considerationFields contentId v r p with
        trialChargeId := some (chargeId (considerationRunId contentId v r.selected)) }⟩ : Attempt))
  refine ⟨⟨⟨_, hrows.symm⟩, fun c hc => hcons ▸ hc, fun d hd => hdocs ▸ hd, fun x hx => ?_⟩,
    ⟨_, hrows ▸ hlast, rfl⟩,
    fun hb => ⟨fun a ha => ?_, fun x hx runId hcharge => ?_, fun a ha => ?_, ?_⟩⟩
  · rw [hruns]; exact Table.mem_insert_of_mem hx
  · rw [hrows] at ha; rw [hruns]; rcases List.mem_append.1 ha with ha | ha
    · obtain ⟨hid, x, hx, hcharge⟩ := hb.charged a ha
      exact ⟨hid, x, Table.mem_insert_of_mem hx, hcharge⟩
    · rw [List.mem_singleton.1 ha]
      exact ⟨rfl, _, hmine, rfl, ⟨_, rfl, rfl⟩, rfl⟩
  · rw [hruns] at hx
    have hkept : ∀ runId, Attempted w₀.store runId → Attempted w₂.store runId := by
      rintro runId ⟨a, ha, hrun⟩
      exact ⟨a, hrows ▸ List.mem_append_left _ ha, hrun⟩
    rcases (Table.mem_insert hnew).1 hx with hx | rfl
    · obtain ⟨hid, hattempted⟩ := hb.owed x hx runId hcharge
      exact ⟨hid, hkept runId hattempted⟩
    · obtain ⟨t, ht, rfl⟩ := hcharge; obtain ⟨rfl⟩ := ht
      exact ⟨rfl, _, hrows ▸ hlast, rfl⟩
  · rw [hrows] at ha; rcases List.mem_append.1 ha with ha | ha
    · exact hb.reserved a ha
    · rw [List.mem_singleton.1 ha]
  · rw [hcons, hdocs]; exact hb.receipts

/-- What a consideration wrote. -/
def Considered.Wrote : Considered → World → World → Prop
  | .settled _ => Noted
  | .charged c => Charged c.runId

/-- Behind a recovery no attempt is unfinished, so a consideration charges a new one or
attempts nothing. -/
theorem consider_ok {r : Reading} {a : Considered}
    (h : consider contentId v r w = .ok a w') (hsettled : Settled w.store) : a.Wrote w w' := by
  unfold consider at h; rw [bind_ok] at h; obtain ⟨_, t, hget, h⟩ := h
  obtain ⟨rfl, rfl⟩ := get_ok.1 hget; rw [bind_ok] at h
  obtain ⟨_, _, hspent, h⟩ := h; obtain ⟨_, rfl⟩ := require_ok.1 hspent
  rw [bind_ok] at h; obtain ⟨o, w₁, hprevious, h⟩ := h
  obtain ⟨rfl, hnone⟩ := previousReceipt_ok hprevious
  cases o with
  | some receipt =>
    obtain ⟨rfl, rfl⟩ := pure_ok.1 h; exact refl_of Noted _
  | none =>
    rw [bind_ok] at h; obtain ⟨_, w₂, hput, h⟩ := h
    have hmodel := putModel_noted _ _ _ _ hput
    have hsave : ∀ receipt : LearningReceipt, ∀ a,
        (do saveReceipt contentId receipt; pure (.settled receipt) : LearningTxn Considered) w₂ =
          .ok a w' → ∃ receipt, a = .settled receipt ∧ Noted w₁ w' := by
      intro receipt a h; rw [bind_ok] at h; obtain ⟨_, w₃, hsave, h⟩ := h
      obtain ⟨rfl, rfl⟩ := pure_ok.1 h
      exact ⟨receipt, rfl, trans_of Noted hmodel (saveReceipt_noted _ _ _ _ hsave)⟩
    cases hobjection : objection v r (plan v r) with
    | some reason =>
      simp only [hobjection] at h; obtain ⟨receipt, rfl, hnoted⟩ := hsave _ _ h
      exact hnoted
    | none =>
      cases hbudget : budgetReason w₁.store (considerationFields contentId v r (plan v r)).runId
          (chargedSession v r) (revisionDigest contentId v r (plan v r)) with
      | none =>
        simp only [hobjection, hbudget] at h; rw [bind_ok] at h
        obtain ⟨c, w₃, hcharge, h⟩ := h; obtain ⟨rfl, rfl⟩ := pure_ok.1 h
        have hcharged := chargeAttempt_ok hcharge
        exact ⟨trans_of Kept hmodel.kept hcharged.kept, hcharged.attempted,
          fun hb => hcharged.books (hmodel.books hb)⟩
      | some found =>
        obtain ⟨existing, reason⟩ := found; simp only [hobjection, hbudget] at h
        split at h
        · -- the attempt of this run was considered, so its receipt was returned
          rename_i hrun; unfold budgetReason at hbudget
          rw [Option.map_eq_some_iff] at hbudget
          obtain ⟨b, hfind, hb⟩ := hbudget; obtain ⟨rfl, _⟩ := Prod.mk.inj hb
          have hconsidered := hsettled b (List.mem_of_find?_eq_some hfind)
          rw [show b.runId = considerationRunId contentId v r.selected from hrun, hnone rfl]
            at hconsidered
          cases hconsidered
        · obtain ⟨receipt, rfl, hnoted⟩ := hsave _ _ h; exact hnoted

/-! ## Processes -/

/-- Where a caller is; each phase begins behind a commit or a lock.
mirrors learning.py:634-720, 1028-1170 -/
inductive Pc
  | idle
  | entering (v : Invocation)
  | admitted (v : Invocation)
  | recovering (v : Invocation)
  | recovered (v : Invocation)
  | considering (v : Invocation)
  | refusing (v : Invocation) (reason : Refusal)
  | charged (c : Charge)
  | launching (c : Charge) (f : Fields) (e : Export)
  | fitting (c : Charge) (f : Fields) (child : Nat)
  | concluding (c : Charge) (f : Fields) (result : Except String Fitted)
deriving DecidableEq

/-- The attempt a caller carries. -/
def Pc.charge : Pc → Option Charge
  | .charged c => some c
  | .launching c _ _ => some c
  | .fitting c _ _ => some c
  | .concluding c _ _ => some c
  | _ => none

/-- The phases within the admission lock. A refusal may also stand there. -/
def Pc.admits : Pc → Bool
  | .admitted _ | .recovering _ | .recovered _ | .considering _ => true
  | p => p.charge.isSome

/-- The phases behind the recovery, before the consideration. -/
def Pc.settles : Pc → Bool
  | .recovered _ | .considering _ => true
  | _ => false

inductive ChildPhase
  | started
  | locked
  | fitting
  | done (result : Fitted)
  | dead
deriving DecidableEq

/-- A fit process: the folder it was given and how far it is.
mirrors learning.py:1186-1226 -/
structure Child where
  runId : String
  phase : ChildPhase
deriving DecidableEq

inductive Holder
  | caller (p : Nat)
  | child (k : Nat)
deriving DecidableEq

structure Sys where
  world : World := {}
  admission : Option Nat := none
  worker : Option Holder := none
  pc : Nat → Pc := fun _ => .idle
  children : Nat → Option Child := fun _ => none

def Sys.goto (s : Sys) (p : Nat) (pc : Pc) : Sys := { s with pc := Function.update s.pc p pc }

/-- The call is over, its `finally` clauses run or its process is gone. -/
def Sys.leave (s : Sys) (p : Nat) : Sys :=
  { s.goto p .idle with
    admission := if s.admission = some p then none else s.admission
    worker := if s.worker = some (.caller p) then none else s.worker }

def Sys.setChild (s : Sys) (k : Nat) (c : Child) : Sys :=
  { s with children := Function.update s.children k (some c) }

/-- The process ends and its lock with it. -/
def Sys.endChild (s : Sys) (k : Nat) (c : Child) : Sys :=
  { s.setChild k c with
    worker := if s.worker = some (.child k) then none else s.worker }

/-! ## Steps -/

inductive Label
  | caller (p : Nat)
  | crash (p : Nat)
  | child (k : Nat)
  | fitStart (k : Nat) (e : Export)
  | crashChild (k : Nat)
  /-- Another writer of the search ledger. -/
  | record (row : SearchRun)

/-- After a transaction: on to the next phase, or out of the call where it raised. -/
def Sys.commit {α : Type} (s : Sys) (p : Nat) (x : LearningTxn α) (next : α → Sys → Sys) : Sys :=
  match transaction x s.world with
  | .ok a w => next a { s with world := w }
  | .error _ w => { s with world := w }.leave p

/-- The material of an export becomes the run's document. -/
def Charge.export (c : Charge) (material : String) : Export :=
  ⟨material, c.invocation.policy.parentModel, c.invocation.policy, c.runId⟩

/-- The export is kept and the fit may start, or another document stands under its id. -/
def Sys.keepExport (contentId : ContentId) (s : Sys) (p : Nat) (c : Charge)
    (canonical : List String) (material : String) (now : Int) : Sys :=
  let f := { c.fields with sourceRefs := c.fields.sourceRefs ++ canonical }
  match transaction (putExport contentId (c.export material)) s.world with
  | .ok _ w => { s with world := w }.goto p (.launching c
      { f with
        inputExportId := some (contentId (.exported (c.export material)))
        fitStartedAt := some now } (c.export material))
  | .error _ w => { s with world := w }.goto p (.concluding c f (.error "StateConflictError"))

inductive LearningStep (contentId : ContentId) : Sys → Label → Sys → Prop
  /-- mirrors learning.py:644-664 -/
  | call {s : Sys} {p : Nat} (v : Invocation) : s.pc p = .idle →
      LearningStep contentId s (.caller p)
        (s.goto p (if v.policy.procedureVersion.isSome ∧ v.startedAt < v.cutoff then
          .refusing v .futureCutoff else .entering v))
  /-- mirrors learning.py:668-672 -/
  | enter {s : Sys} {p : Nat} {v : Invocation} : s.pc p = .entering v → s.admission = none →
      LearningStep contentId s (.caller p) { s.goto p (.admitted v) with admission := some p }
  | enterBusy {s : Sys} {p : Nat} {v : Invocation} : s.pc p = .entering v → s.admission ≠ none →
      LearningStep contentId s (.caller p) (s.goto p (.refusing v .busy))
  /-- mirrors learning.py:673-678 -/
  | lockWorker {s : Sys} {p : Nat} {v : Invocation} : s.pc p = .admitted v → s.worker = none →
      LearningStep contentId s (.caller p)
        { s.goto p (.recovering v) with worker := some (.caller p) }
  | workerBusy {s : Sys} {p : Nat} {v : Invocation} : s.pc p = .admitted v → s.worker ≠ none →
      LearningStep contentId s (.caller p) (s.goto p (.refusing v .busy))
  /-- mirrors learning.py:679-706 -/
  | recover {s : Sys} {p : Nat} {v : Invocation} (now : Attempt → Int) : s.pc p = .recovering v →
      LearningStep contentId s (.caller p)
        (s.commit p (recoverPending contentId v.domain now) fun _ s => s.goto p (.recovered v))
  /-- mirrors learning.py:707-708 -/
  | releaseWorker {s : Sys} {p : Nat} {v : Invocation} : s.pc p = .recovered v →
      LearningStep contentId s (.caller p) { s.goto p (.considering v) with worker := none }
  /-- mirrors learning.py:804-1028 -/
  | consider {s : Sys} {p : Nat} {v : Invocation} (r : Reading) : s.pc p = .considering v →
      LearningStep contentId s (.caller p) (s.commit p (consider contentId v r) fun a s =>
        match a with
        | .settled _ => s.leave p
        | .charged c => s.goto p (.charged c))
  /-- mirrors learning.py:734-791 -/
  | refuse {s : Sys} {p : Nat} {v : Invocation} {reason : Refusal} (selected : Selection)
      (now : Int) : s.pc p = .refusing v reason →
      LearningStep contentId s (.caller p)
        (s.commit p (refusalReceipt contentId v reason selected now) fun _ s => s.leave p)
  /-- The documents were read; `canonical` extends the sources.
  mirrors learning.py:1034-1108 -/
  | materialize {s : Sys} {p : Nat} {c : Charge} (canonical : List String) (material : String)
      (now : Int) : s.pc p = .charged c →
      LearningStep contentId s (.caller p) (s.keepExport contentId p c canonical material now)
  /-- A hold or a missing document before the fit.
  mirrors learning.py:1051-1068, 1150-1155 -/
  | unmaterialized {s : Sys} {p : Nat} {c : Charge} (canonical : List String) (reason : String) :
      s.pc p = .charged c →
      LearningStep contentId s (.caller p) (s.goto p (.concluding c
        { c.fields with sourceRefs := c.fields.sourceRefs ++ canonical } (.error reason)))
  /-- The input and the permission are written and the fit started, as a process of a new number.
  mirrors learning.py:551-577 -/
  | launch {s : Sys} {p : Nat} {c : Charge} {f : Fields} {e : Export} (k : Nat) :
      s.pc p = .launching c f e → s.children k = none →
      (∀ d ∈ (s.world.folder c.runId).source, d = e) →
      LearningStep contentId s (.caller p)
        (({ s with world := s.world.writeFolder c.runId ⟨some e, some (contentId (.exported e))⟩
            }.setChild k ⟨c.runId, .started⟩).goto p (.fitting c f k))
  | inputConflict {s : Sys} {p : Nat} {c : Charge} {f : Fields} {e : Export} :
      s.pc p = .launching c f e → (∃ d ∈ (s.world.folder c.runId).source, d ≠ e) →
      LearningStep contentId s (.caller p)
        (s.goto p (.concluding c f (.error "IMMUTABLE_SCRATCH_INPUT_CONFLICT")))
  /-- mirrors learning.py:578-586 -/
  | fitted {s : Sys} {p : Nat} {c : Charge} {f : Fields} {k : Nat} {runId : String} {x : Fitted} :
      s.pc p = .fitting c f k → s.children k = some ⟨runId, .done x⟩ →
      LearningStep contentId s (.caller p)
        ({ s with world := s.world.withdraw c.runId }.goto p (.concluding c f (.ok x)))
  /-- The fit failed, or ran out of time and was killed.
  mirrors learning.py:563-583 -/
  | fitLost {s : Sys} {p : Nat} {c : Charge} {f : Fields} {k : Nat} (reason : String) :
      s.pc p = .fitting c f k →
      LearningStep contentId s (.caller p)
        (({ s with world := s.world.withdraw c.runId }.endChild k ⟨c.runId, .dead⟩).goto p
          (.concluding c f (.error reason)))
  /-- mirrors learning.py:1156-1170 -/
  | save {s : Sys} {p : Nat} {c : Charge} {f : Fields} {result : Except String Fitted}
      (now : Int) : s.pc p = .concluding c f result →
      LearningStep contentId s (.caller p)
        (s.commit p (saveFinal contentId (result.toOption.bind (·.candidate))
          (finalReceipt contentId c f result now)) fun _ s => s.leave p)
  | crash (s : Sys) (p : Nat) : LearningStep contentId s (.crash p) (s.leave p)
  /-- mirrors learning.py:1189 -/
  | childLock {s : Sys} {k : Nat} {runId : String} : s.children k = some ⟨runId, .started⟩ →
      s.worker = none →
      LearningStep contentId s (.child k)
        { s.setChild k ⟨runId, .locked⟩ with worker := some (.child k) }
  | childBusy {s : Sys} {k : Nat} {runId : String} : s.children k = some ⟨runId, .started⟩ →
      s.worker ≠ none → LearningStep contentId s (.child k) (s.endChild k ⟨runId, .dead⟩)
  /-- The permission stands for this very input, and the fit starts.
  mirrors learning.py:1190-1195 -/
  | fitStart {s : Sys} {k : Nat} {runId : String} {e : Export} :
      s.children k = some ⟨runId, .locked⟩ → (s.world.folder runId).source = some e →
      (s.world.folder runId).allowed = some (contentId (.exported e)) → e.runId = runId →
      LearningStep contentId s (.fitStart k e) (s.setChild k ⟨runId, .fitting⟩)
  /-- A permission withdrawn, another input or a fit that did not reproduce. -/
  | childFails {s : Sys} {k : Nat} {c : Child} : s.children k = some c →
      LearningStep contentId s (.child k) (s.endChild k ⟨c.runId, .dead⟩)
  | childEnds {s : Sys} {k : Nat} {runId : String} (x : Fitted) :
      s.children k = some ⟨runId, .fitting⟩ →
      LearningStep contentId s (.child k) (s.endChild k ⟨runId, .done x⟩)
  | crashChild {s : Sys} {k : Nat} {c : Child} : s.children k = some c →
      LearningStep contentId s (.crashChild k) (s.endChild k ⟨c.runId, .dead⟩)
  /-- Workers, recombinations, campaigns and intraday attempts append under new ids, and none
  of them writes the learner's event. -/
  | record {s : Sys} (row : SearchRun) : (∀ c, row.detail ≠ .trialCharge c) → row.Checked →
      s.world.store.searchRuns.get? row.searchId = none →
      LearningStep contentId s (.record row) { s with world := { s.world with store :=
        { s.world.store with searchRuns := s.world.store.searchRuns.insert row } } }

/-- From an empty database, nobody at work. -/
def learning (contentId : ContentId) : LTS Sys Label where
  init s := s.world = {} ∧ s.admission = none ∧ s.worker = none ∧ (∀ p, s.pc p = .idle) ∧
    ∀ k, s.children k = none
  step := LearningStep contentId

/-! ## The invariant -/

/-- The books stand, one caller is within the admission lock, behind its recovery every attempt
has a consideration, and whoever carries a run or fits one has its attempt committed. -/
structure Inv (s : Sys) : Prop where
  books : Books s.world.store
  admission : ∀ p, (s.pc p).admits = true → s.admission = some p
  settled : ∀ p, (s.pc p).settles = true → Settled s.world.store
  callers : ∀ p c, (s.pc p).charge = some c → Attempted s.world.store c.runId
  children : ∀ k c, s.children k = some c → Attempted s.world.store c.runId

theorem Noted.settled (h : Noted w w') (hs : Settled w.store) :
    Settled w'.store := fun a ha => by
  rw [h.attempts] at ha
  obtain ⟨c, hc⟩ := Option.isSome_iff_exists.1 (hs a ha)
  rw [Table.get?_kept h.kept.considerations hc]
  rfl

variable {pc : Pc}

theorem Pc.admits_of_settles (h : pc.settles = true) : pc.admits = true := by
  cases pc <;> first | rfl | cases h

theorem Pc.admits_of_charge (h : pc.charge = some c) : pc.admits = true := by
  cases pc <;> first | rfl | cases h

theorem Pc.settles_of_charge (h : pc.charge = some c) : pc.settles = false := by
  cases pc <;> first | rfl | cases h

variable {s s' : Sys}

theorem Inv.world (h : Inv s) (hw : Noted s.world w) :
    Inv { s with world := w } where
  books := hw.books h.books
  admission := h.admission
  settled p hp := hw.settled (h.settled p hp)
  callers p c hc := hw.kept.attempted (h.callers p c hc)
  children k c hc := hw.kept.attempted (h.children k c hc)

theorem Inv.worker (h : Inv s) (holder : Option Holder) : Inv { s with worker := holder } :=
  ⟨h.books, h.admission, h.settled, h.callers, h.children⟩

theorem goto_pc (s : Sys) (p q : Nat) (pc : Pc) :
    (s.goto p pc).pc q = if q = p then pc else s.pc q :=
  Function.update_apply s.pc p pc q

variable {p : Nat}

theorem Inv.goto (h : Inv s) (hadmits : pc.admits = true → s.admission = some p)
    (hsettles : pc.settles = true → Settled s.world.store)
    (hcharge : ∀ c, pc.charge = some c → Attempted s.world.store c.runId) : Inv (s.goto p pc) := by
  refine ⟨h.books, fun q hq => ?_, fun q hq => ?_, fun q c hc => ?_, h.children⟩
  · rw [goto_pc] at hq; split at hq
    · rename_i hqp; rw [hqp]; exact hadmits hq
    · exact h.admission q hq
  · rw [goto_pc] at hq; split at hq
    · exact hsettles hq
    · exact h.settled q hq
  · rw [goto_pc] at hc; split at hc
    · exact hcharge c hc
    · exact h.callers q c hc

theorem Inv.leave (h : Inv s) (p : Nat) : Inv (s.leave p) := by
  have hidle : Inv (s.goto p .idle) :=
    h.goto (fun h => by cases h) (fun h => by cases h) fun c hc => by cases hc
  refine ⟨hidle.books, fun q hq => ?_, hidle.settled, hidle.callers, hidle.children⟩
  have hq' : ((s.goto p .idle).pc q).admits = true := hq; rw [goto_pc] at hq'
  split at hq'
  · cases hq'
  rename_i hne; have hadmission := h.admission q hq'
  show (if s.admission = some p then none else s.admission) = some q
  rw [hadmission, if_neg fun heq => hne (Option.some.inj heq)]

theorem Inv.setChild (h : Inv s) (k : Nat) (phase : ChildPhase)
    (hc : Attempted s.world.store runId) : Inv (s.setChild k ⟨runId, phase⟩) := by
  refine ⟨h.books, h.admission, h.settled, h.callers, fun j d hd => ?_⟩
  have hd' : Function.update s.children k (some ⟨runId, phase⟩) j = some d := hd
  rw [Function.update_apply] at hd'; split at hd'
  · obtain ⟨rfl⟩ := hd'; exact hc
  · exact h.children j d hd'

theorem Inv.endChild (h : Inv s) (k : Nat) (phase : ChildPhase)
    (hc : Attempted s.world.store runId) : Inv (s.endChild k ⟨runId, phase⟩) :=
  (h.setChild k phase hc).worker _

theorem Inv.carry (h : Inv s) (hold : (s.pc p).charge = some c) (hnew : pc.charge = some c) :
    Inv (s.goto p pc) := by
  refine h.goto (fun _ => h.admission p (Pc.admits_of_charge hold)) (fun hs => ?_) fun d hd => ?_
  · rw [Pc.settles_of_charge hnew] at hs; cases hs
  · rw [hnew] at hd; obtain ⟨rfl⟩ := hd; exact h.callers p _ hold

theorem commit_cases {α : Type} (s : Sys) (p : Nat) (x : LearningTxn α) (next : α → Sys → Sys) :
    (∃ a w, x s.world = .ok a w ∧ s.commit p x next = next a { s with world := w }) ∨
      ∃ w, w.store = s.world.store ∧ s.commit p x next = { s with world := w }.leave p := by
  unfold Sys.commit transaction
  cases hx : x s.world with
  | ok a w => exact .inl ⟨a, w, rfl, rfl⟩
  | error e w => exact .inr ⟨{ w with store := s.world.store }, rfl, rfl⟩

theorem keepExport_cases (s : Sys) (p : Nat) (c : Charge) (canonical : List String)
    (material : String) (now : Int) :
    ∃ w pc, Noted s.world w ∧ pc.charge = some c ∧
      s.keepExport contentId p c canonical material now = { s with world := w }.goto p pc := by
  unfold Sys.keepExport transaction
  cases hx : putExport contentId (c.export material) s.world with
  | ok u w => exact ⟨w, _, putExport_noted _ _ _ _ hx, rfl, rfl⟩
  | error e w => exact ⟨{ w with store := s.world.store }, _, .files rfl, rfl, rfl⟩

theorem Inv.commit {α : Type} {x : LearningTxn α} {next : α → Sys → Sys} (h : Inv s)
    (hnext : ∀ a w, x s.world = .ok a w → Inv (next a { s with world := w })) :
    Inv (s.commit p x next) := by
  rcases commit_cases s p x next with ⟨a, w, hx, heq⟩ | ⟨w, hstore, heq⟩
  · rw [heq]
    exact hnext a w hx
  · rw [heq]
    exact (h.world (.files hstore)).leave p

theorem Inv.charge (h : Inv s) (hp : (s.pc p).admits = true) (hc : Charged c.runId s.world w) :
    Inv ({ s with world := w }.goto p (.charged c)) := by
  refine ⟨hc.books h.books, fun q hq => ?_, fun q hq => ?_, fun q d hd => ?_,
    fun k d hd => hc.kept.attempted (h.children k d hd)⟩
  · rw [goto_pc] at hq; split at hq
    · rename_i hqp; rw [hqp]; exact h.admission p hp
    · exact h.admission q hq
  · rw [goto_pc] at hq; split at hq
    · cases hq
    rename_i hne
    have hsame := (h.admission p hp).symm.trans (h.admission q (Pc.admits_of_settles hq))
    exact absurd (Option.some.inj hsame).symm hne
  · rw [goto_pc] at hd; split at hd
    · obtain ⟨rfl⟩ := hd; exact hc.attempted
    · exact hc.kept.attempted (h.callers q d hd)

variable {l : Label}

/-- **One step keeps the books** and takes nothing back. -/
theorem Inv.step (h : Inv s) (hst : (learning contentId).step s l s') : Inv s' := by
  cases hst with
  | call v hpc =>
    refine h.goto (fun ha => ?_) (fun ha => ?_) fun c hc => ?_
    all_goals split at *
    all_goals first | cases ha | cases hc
  | @enter p v hpc hfree =>
    have hnobody : ∀ q, (s.pc q).admits = true → False := fun q hq => by
      have := h.admission q hq; rw [hfree] at this; cases this
    refine ⟨h.books, fun q hq => ?_, fun q hq => ?_, fun q c hc => ?_, h.children⟩
    · have hq' : ((s.goto p (.admitted v)).pc q).admits = true := hq
      rw [goto_pc] at hq'; split at hq'
      · rename_i hqp; rw [hqp]
      · exact (hnobody q hq').elim
    · have hq' : ((s.goto p (.admitted v)).pc q).settles = true := hq
      rw [goto_pc] at hq'; split at hq'
      · cases hq'
      · exact (hnobody q (Pc.admits_of_settles hq')).elim
    · have hc' : ((s.goto p (.admitted v)).pc q).charge = some c := hc
      rw [goto_pc] at hc'; split at hc'
      · cases hc'
      · exact (hnobody q (Pc.admits_of_charge hc')).elim
  | enterBusy hpc _ | workerBusy hpc _ =>
    exact h.goto (fun ha => by cases ha) (fun ha => by cases ha) fun c hc => by cases hc
  | lockWorker hpc _ =>
    exact (h.goto (fun _ => h.admission _ (by rw [hpc]; rfl)) (fun ha => by cases ha)
      fun c hc => by cases hc).worker _
  | @recover p v now hpc =>
    refine h.commit fun a w hx => ?_
    obtain ⟨hnoted, hsettled⟩ := recoverPending_ok hx h.books
    exact (h.world hnoted).goto (fun _ => h.admission p (by rw [hpc]; rfl)) (fun _ => hsettled)
      fun c hc => by cases hc
  | @releaseWorker p v hpc =>
    exact (h.goto (fun _ => h.admission p (by rw [hpc]; rfl))
      (fun _ => h.settled p (by rw [hpc]; rfl)) fun c hc => by cases hc).worker _
  | @consider p v r hpc =>
    refine h.commit fun a w hx => ?_
    have hwrote := consider_ok hx (h.settled p (by rw [hpc]; rfl))
    cases a with
    | settled receipt => exact (h.world hwrote).leave p
    | charged c => exact h.charge (by rw [hpc]; rfl) hwrote
  | refuse selected now hpc =>
    exact h.commit fun a w hx => (h.world (refusalReceipt_noted _ _ _ _ _ _ _ hx)).leave _
  | @materialize p c canonical material now hpc =>
    have hcarries : (s.pc p).charge = some c := by rw [hpc]; rfl
    rcases keepExport_cases s p c canonical material now with ⟨w, pc, hnoted, hpc', heq⟩
    rw [heq]; exact (h.world hnoted).carry (c := c) hcarries hpc'
  | @unmaterialized p c canonical reason hpc =>
    exact h.carry (c := c) (by rw [hpc]; rfl) rfl
  | @launch p c f e k hpc hfree hsource =>
    have hcarries : (s.pc p).charge = some c := by rw [hpc]; rfl
    exact ((h.world (writeFolder_noted _ _ _)).setChild k .started
      (h.callers p c hcarries)).carry (c := c) hcarries rfl
  | @inputConflict p c f e hpc hconflict =>
    exact h.carry (c := c) (by rw [hpc]; rfl) rfl
  | @fitted p c f k runId x hpc hchild =>
    have hcarries : (s.pc p).charge = some c := by rw [hpc]; rfl
    exact (h.world (withdraw_noted _ _)).carry (c := c) hcarries rfl
  | @fitLost p c f k reason hpc =>
    have hcarries : (s.pc p).charge = some c := by rw [hpc]; rfl
    exact ((h.world (withdraw_noted _ _)).endChild k .dead (h.callers p c hcarries)).carry
      (c := c) hcarries rfl
  | save now hpc =>
    exact h.commit fun a w hx => (h.world (saveFinal_noted _ _ _ _ _ hx)).leave _
  | crash p => exact h.leave p
  | childLock hchild _ => exact (h.setChild _ .locked (h.children _ _ hchild)).worker _
  | childBusy hchild _ | childFails hchild | crashChild hchild =>
    exact h.endChild _ .dead (h.children _ _ hchild)
  | fitStart hchild _ _ _ => exact h.setChild _ .fitting (h.children _ _ hchild)
  | childEnds x hchild => exact h.endChild _ (.done x) (h.children _ _ hchild)
  | record row hdetail _ hnew => exact h.world (record_noted hdetail hnew)

theorem step_wrote (h : Inv s) (hst : (learning contentId).step s l s') :
    Noted s.world s'.world ∨ ∃ runId, Charged runId s.world s'.world := by
  have hcommit : ∀ {α : Type} {p : Nat} {x : LearningTxn α} {next : α → Sys → Sys},
      (∀ a s, (next a s).world = s.world) → Moves Noted x →
      Noted s.world (s.commit p x next).world := by
    intro α p x next hnext hx
    rcases commit_cases s p x next with ⟨a, w, hw, heq⟩ | ⟨w, hstore, heq⟩
    · rw [heq, hnext]; exact hx _ _ _ hw
    · rw [heq]; exact .files hstore
  cases hst with
  | @recover p v now hpc =>
    left
    rcases commit_cases s p (recoverPending contentId v.domain now)
        (fun _ s => s.goto p (.recovered v)) with ⟨a, w, hw, heq⟩ | ⟨w, hstore, heq⟩
    · rw [heq]; exact (recoverPending_ok hw h.books).1
    · rw [heq]; exact .files hstore
  | @consider p v r hpc =>
    rcases commit_cases s p (consider contentId v r) (fun a s => match a with
        | .settled _ => s.leave p
        | .charged c => s.goto p (.charged c)) with ⟨a, w, hw, heq⟩ | ⟨w, hstore, heq⟩
    · rw [heq]; have hwrote := consider_ok hw (h.settled p (by rw [hpc]; rfl))
      cases a with
      | settled receipt => exact .inl hwrote
      | charged c => exact .inr ⟨_, hwrote⟩
    · rw [heq]; exact .inl (.files hstore)
  | refuse selected now hpc =>
    exact .inl (hcommit (fun _ _ => rfl) (refusalReceipt_noted _ _ _ _))
  | save now hpc => exact .inl (hcommit (fun _ _ => rfl) (saveFinal_noted _ _))
  | @materialize p c canonical material now hpc =>
    rcases keepExport_cases s p c canonical material now with ⟨w, pc, hnoted, _, heq⟩
    rw [heq]; exact .inl hnoted
  | record row hdetail _ hnew => exact .inl (record_noted hdetail hnew)
  | launch _ _ _ _ => exact .inl (.files rfl)
  | fitted _ _ | fitLost _ _ => exact .inl (.files rfl)
  | call _ _ | enter _ _ | enterBusy _ _ => exact .inl (.files rfl)
  | lockWorker _ _ | workerBusy _ _ => exact .inl (.files rfl)
  | releaseWorker _ | unmaterialized _ _ _ | inputConflict _ _ => exact .inl (.files rfl)
  | crash _ | childLock _ _ | childBusy _ _ | fitStart _ _ _ _ => exact .inl (.files rfl)
  | childFails _ | childEnds _ _ | crashChild _ => exact .inl (.files rfl)

theorem step_kept (h : Inv s) (hst : (learning contentId).step s l s') :
    Kept s.world.store s'.world.store := by
  rcases step_wrote h hst with hnoted | ⟨_, hcharged⟩
  · exact hnoted.kept
  · exact hcharged.kept

theorem inv_inductive : (learning contentId).Inductive Inv where
  init s h := by
    obtain ⟨hworld, hadmission, _, hpc, hchildren⟩ := h
    refine ⟨?_, fun p hp => ?_, fun p hp => ?_, fun p c hc => ?_, fun k c hc => ?_⟩
    · rw [hworld]
      refine ⟨fun a ha => ?_, fun r hr => ?_, fun a ha => ?_, fun d hd => ?_⟩
      · cases ha
      · cases hr
      · cases ha
      · cases hd
    · rw [hpc] at hp; cases hp
    · rw [hpc] at hp; cases hp
    · rw [hpc] at hc; cases hc
    · rw [hchildren] at hc; cases hc
  step _ _ _ h hst := h.step hst

/-! ## The budget -/

/-- What the trial budget promises of the tables. -/
structure Budget (s : LearningStore) : Prop where
  /-- A session, an input revision and a run are attempted once. -/
  once : ∀ a ∈ s.attempts.rows, ∀ b ∈ s.attempts.rows, a.session = b.session ∨
    a.inputRevisionDigest = b.inputRevisionDigest ∨ a.runId = b.runId → a = b
  /-- An attempt has exactly one charge, of one candidate. -/
  charge : ∀ a ∈ s.attempts.rows, ∃ r ∈ s.searchRuns.rows, Charges r a.runId ∧
    r.candidatesEvaluated = 1 ∧ ∀ r' ∈ s.searchRuns.rows, Charges r' a.runId → r' = r
  /-- And nothing else is charged. -/
  owed : ∀ r ∈ s.searchRuns.rows, ∀ runId, Charges r runId → Attempted s runId
  /-- A run has one consideration, and one receipt. -/
  consideration : ∀ c ∈ s.considerations.rows, ∀ d ∈ s.considerations.rows,
    c.runId = d.runId → c = d
  receipt : ∀ c ∈ s.receipts.rows, ∀ d ∈ s.receipts.rows,
    c.payload.runId = d.payload.runId → c = d

theorem Books.budget {s : LearningStore} (h : Books s) : Budget s where
  once a ha b hb hsame := by
    rcases hsame with hsame | hsame | hsame
    · exact List.inj_on_of_nodup_map s.attempts.sessions ha hb hsame
    · exact List.inj_on_of_nodup_map s.attempts.digests ha hb hsame
    · exact List.inj_on_of_nodup_map s.attempts.runs ha hb hsame
  charge a ha := by
    obtain ⟨hid, r, hr, hrid, hcharge, hone⟩ := h.charged a ha
    refine ⟨r, hr, hcharge, hone, fun r' hr' hcharge' => ?_⟩
    have hrid' := (h.owed r' hr' a.runId hcharge').1
    exact Table.eq_of_key hr' hr (hrid'.trans (hrid.trans hid).symm)
  owed r hr runId hcharge := (h.owed r hr runId hcharge).2
  consideration c hc d hd hsame := Table.eq_of_key hc hd hsame
  receipt c hc d hd hsame := by
    have hpointer := Table.eq_of_key (h.receipts c hc) (h.receipts d hd) hsame
    exact Table.eq_of_key hc hd (congrArg Consideration.receiptId hpointer)

/-- **The trial budget holds.** Along every run, whatever crashes: no row of an attempt, of a
charge, of a consideration or of a receipt is taken back; a session and an input revision
have at most one attempt, an attempt exactly one charge and a charge an attempt, a run at
most one consideration and one receipt; and when a fit starts, the attempt it belongs to
is committed, and with it the charge. -/
theorem learning_budget (contentId : ContentId) {s s' : Sys} {ls : List Label}
    (hs : (learning contentId).Reachable s) (hr : (learning contentId).Run s ls s') :
    Kept s.world.store s'.world.store ∧ Budget s'.world.store ∧
      ∀ k e s'', (learning contentId).step s' (.fitStart k e) s'' →
        Attempted s'.world.store e.runId := by
  have hinv := inv_inductive.reachable hs
  have hinv' := hr.keeps inv_inductive.step hinv
  refine ⟨?_, hinv'.books.budget, fun k e s'' hst => ?_⟩
  · exact hr.rel (R := fun s s' => Kept s.world.store s'.world.store)
      (fun _ => refl_of Kept _) (fun _ _ _ => trans_of Kept)
      inv_inductive.step (fun _ _ _ h hst => step_kept h hst) hinv
  · cases hst with
    | fitStart hchild _ _ hrun =>
      rw [hrun]; exact hinv'.children k _ hchild

/-! ## An attempt up to its fit -/

/-- Ten sessions of eight outcomes. -/
def fixtureRows : List OutcomeRow := (List.range 80).map fun i =>
  let opened := (100 + (i : Int) / 8) * (86400 * second)
  ⟨"o" ++ toString i, "lot" ++ toString i, 100 + i / 8, opened, opened + 1800 * second,
    opened + 1900 * second, opened + 2000 * second⟩

def fixtureReading : Reading where
  selected := ⟨fixtureRows, [], outcomeIds fixtureRows⟩
  selectAt _ := ⟨[], [], []⟩
  now := 200 * (86400 * second)

def fixtureIds : ContentId
  | .run _ _ _ _ _ => "run"
  | .exported _ => "export"
  | .split _ _ => "split"
  | _ => "id"

def fixtureCall : Invocation where
  policy := { procedureVersion := none }
  cutoff := 150 * (86400 * second)
  legacyFixtureReplay := true
  releaseId := "rel"
  startedAt := 200 * (86400 * second)

/-- The attempt the fixture charges. -/
def fixtureCharge : Charge :=
  let p := plan fixtureCall fixtureReading
  ⟨fixtureCall, p, fixtureRows, { considerationFields fixtureIds fixtureCall fixtureReading p with
    trialChargeId := some (chargeId "run") }⟩

def fixtureFields : Fields := { fixtureCharge.fields with
  sourceRefs := [] ++ []
  inputExportId := some "export"
  fitStartedAt := some 0 }

/-- A caller charges the run, starts its fit and is lost before the fit begins. -/
theorem learning_budget_orphan :
    ∃ s, (learning fixtureIds).Reachable s ∧ s.pc 0 = .idle ∧ Attempted s.world.store "run" := by
  have h0 : (learning fixtureIds).Reachable {} :=
    ⟨{}, [], ⟨rfl, rfl, rfl, fun _ => rfl, fun _ => rfl⟩, .nil _⟩
  have h1 := h0.step (.call (p := 0) fixtureCall rfl)
  have h2 := h1.step (.enter (p := 0) (v := fixtureCall) (by decide +kernel) rfl)
  have h3 := h2.step (.lockWorker (p := 0) (v := fixtureCall) (by decide +kernel) rfl)
  have h4 := h3.step (.recover (p := 0) (v := fixtureCall) (fun _ => 0) (by decide +kernel))
  have h5 := h4.step (.releaseWorker (p := 0) (v := fixtureCall) (by decide +kernel))
  have h6 := h5.step (.consider (p := 0) (v := fixtureCall) fixtureReading (by decide +kernel))
  have h7 := h6.step (.materialize (p := 0) (c := fixtureCharge) [] "episodes" 0
    (by decide +kernel))
  have h8 := h7.step (.launch (p := 0) (c := fixtureCharge) (f := fixtureFields)
    (e := fixtureCharge.export "episodes") 0 (by decide +kernel) (by decide +kernel)
    (by decide +kernel))
  have h9 := h8.step (.crash _ 0)
  have h10 := h9.step (.childLock (k := 0)
    (show _ = some (Child.mk "run" .started) by decide +kernel) (by decide +kernel))
  refine ⟨_, h10, by decide +kernel, ?_⟩
  exact (learning_budget fixtureIds h10 (.nil _)).2.2 0 (fixtureCharge.export "episodes") _
    (.fitStart (show _ = some (Child.mk "run" .locked) by decide +kernel) (by decide +kernel)
      (by decide +kernel) rfl)

end Quantbot.L4.Learning
