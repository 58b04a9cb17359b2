import Quantbot.Core.StoredTime
import Quantbot.Core.Txn
import Quantbot.L2Storage.SearchRuns
import Quantbot.L4PaperCore.Contracts

/-!
# Learning considerations

`paper_core/learning.py`: what one consideration selects, the charge it commits before a
fit, the receipts it keeps and the recovery of attempts whose process was lost. Each
transaction is a program here; `LearningRuns` puts processes, locks and crashes around
them.

The rows `_select` finds, the clock samples and the materialized documents are given with
each transaction. A transaction that raises restores the database, not the scratch files.
-/
namespace Quantbot.L4.Learning

open Core Txn L2

/-! ## Documents -/

inductive ModelMode | collect | predict
deriving DecidableEq, Repr

/-- mirrors contracts.py:345-360 -/
structure ModelArtifact where
  mode : ModelMode := .collect
  description : String := "nonpredictive baseline; no fitted model"
  learningReceiptId : String := "M1_NO_LEARNING"
  targetContract : Option String := none
  policyId : Option String := none
  parentModelId : Option String := none
  inputIds : List String := []
deriving DecidableEq

/-- mirrors contracts.py:813-841 -/
structure LearningPolicy where
  parentModel : ModelArtifact := {}
  policyId : String := "collect-owned-30m-stop100-v1"
  dataset : String := "EXPLICIT_SYNTHETIC"
  evidenceLane : EvidenceLane := .syntheticTest
  targetContract : String := "owned-executed-net-return-v1"
  procedureVersion : Option String := some "daily-all-history-walk-forward-v2"
deriving DecidableEq

/-! The policy's literals. -/

def minTraining : Nat := 30
def minTrainingSessions : Nat := 5
def minValidation : Nat := 10
def minValidationSessions : Nat := 5
def embargo : Int := 30 * 60 * second

/-- One session of the verified sequence. -/
structure Session where
  sessionDate : Int
  openAt : Int
  closeAt : Int
deriving DecidableEq

structure LearningCalendar where
  sessions : List Session
  authority : String := "EXPLICIT_SYNTHETIC_XNYS_V1"
deriving DecidableEq

/-- A row `_select` admits.
mirrors learning.py:322-330 -/
structure OutcomeRow where
  outcomeId : String
  lotId : String
  session : Int
  start : Int
  finish : Int
  availableAt : Int
  sessionClose : Int
deriving DecidableEq

/-- What `_select` returns: the rows, the exclusions with their reason, every id considered. -/
structure Selection where
  rows : List OutcomeRow
  excluded : List (String × String)
  considered : List String
deriving DecidableEq

inductive ReceiptStatus | noChange | fitFailed | candidateRejected | awaitingActivation
deriving DecidableEq, Repr

/-- The fields a consideration has gathered so far; `reservation_payload` holds these. -/
structure Fields where
  recordedAt : Int
  evidenceLane : EvidenceLane
  releaseId : String
  sourceRefs : List String := []
  executionClockDomain : Option String := none
  startedAt : Option Int := none
  fitStartedAt : Option Int := none
  completedAt : Option Int := none
  availableAt : Option Int := none
  completionClockDomain : Option String := none
  calendarId : Option String := none
  completedSession : Option Int := none
  foldResults : String := "[]"
  finalInputIds : List String := []
  finalRawWeights : List ℚ := []
  finalValidationAbsentReason : Option String := none
  runId : String
  cutoff : Int
  parentModelId : String
  resultingModelId : String
  candidateModelId : Option String := none
  policy : LearningPolicy
  consideredIds : List String
  exclusions : List (String × String)
  trainingIds : List String := []
  validationIds : List String := []
  inputExportId : Option String := none
  splitDigest : String
  trialChargeId : Option String := none
  validationAbsentReason : Option String := none
deriving DecidableEq

/-- mirrors contracts.py:947-1019 -/
structure LearningReceipt extends Fields where
  status : ReceiptStatus
  reason : String
  metrics : List (String × ℚ) := []
  sessionMetrics : String := "[]"
deriving DecidableEq

/-- What the fit reads; `material` is every episode, fold and calendar of the export. -/
structure Export where
  material : String
  parent : ModelArtifact
  policy : LearningPolicy
  runId : String
deriving DecidableEq

/-- The contents an id is taken of. -/
inductive Content
  | model (model : ModelArtifact)
  | policy (policy : LearningPolicy)
  | calendar (calendar : LearningCalendar)
  | run (cutoff : Int) (policy : LearningPolicy) (considered : List String)
      (excluded : List (String × String)) (calendar : Option (Option String))
  | busy (policy : LearningPolicy) (cutoff : Int) (inputs : List String)
      (refusal : Option (String × Option String))
  | interrupted (runId : String)
  | empty
  | split (training validation : List String)
  | outcomes (ids : List String)
  | receipt (receipt : LearningReceipt)
  | exported (document : Export)
deriving DecidableEq

abbrev ContentId := Content → String

/-! ## Tables -/

/-- A row of `core_learning_attempts`.
mirrors core_learning_schema.py:16-25 -/
structure Attempt where
  session : Int
  runId : String
  searchId : String
  inputId : String
  inputRevisionDigest : String
  reservation : Fields
deriving DecidableEq

/-- The session is the key; run and input revision are unique as well. -/
structure Attempts where
  rows : List Attempt
  sessions : (rows.map (·.session)).Nodup
  runs : (rows.map (·.runId)).Nodup
  digests : (rows.map (·.inputRevisionDigest)).Nodup
deriving DecidableEq

/-- No row shares a unique column with the new one. -/
def Attempts.Admits (t : Attempts) (a : Attempt) : Prop :=
  ∀ b ∈ t.rows, b.session ≠ a.session ∧ b.runId ≠ a.runId ∧
    b.inputRevisionDigest ≠ a.inputRevisionDigest
deriving Decidable

theorem nodup_map_concat {α β : Type} {f : α → β} {rows : List α} {a : α}
    (h : (rows.map f).Nodup) (ha : ∀ b ∈ rows, f b ≠ f a) : ((rows ++ [a]).map f).Nodup := by
  rw [List.map_append, List.nodup_append]
  refine ⟨h, by simp, fun x hx y hy => ?_⟩
  obtain ⟨b, hb, rfl⟩ := List.mem_map.1 hx
  rw [List.map_singleton, List.mem_singleton] at hy; rw [hy]; exact ha b hb

def Attempts.insert (t : Attempts) (a : Attempt) (h : t.Admits a) : Attempts where
  rows := t.rows ++ [a]
  sessions := nodup_map_concat t.sessions fun b hb => (h b hb).1
  runs := nodup_map_concat t.runs fun b hb => (h b hb).2.1
  digests := nodup_map_concat t.digests fun b hb => (h b hb).2.2

/-- A row of `core_learning_considerations`. -/
structure Consideration where
  runId : String
  receiptId : String
deriving DecidableEq

/-- An immutable document under its id. -/
structure Stored (α : Type) where
  id : String
  payload : α
deriving DecidableEq

abbrev Documents (α : Type) := Table (Stored α) (·.id)

structure LearningStore where
  attempts : Attempts := ⟨[], .nil, .nil, .nil⟩
  considerations : Table Consideration (·.runId) := .empty
  receipts : Documents LearningReceipt := .empty
  inputs : Documents Export := .empty
  models : Documents ModelArtifact := .empty
  searchRuns : SearchRuns := .empty
deriving DecidableEq

/-- The files of one run's scratch folder: `input.json` and `allowed`. -/
structure Scratch where
  source : Option Export := none
  allowed : Option String := none
deriving DecidableEq

/-- The database and the scratch folders, the latter by run id. -/
structure World where
  store : LearningStore := {}
  scratch : Table (Stored Scratch) (·.id) := .empty
deriving DecidableEq

def World.folder (w : World) (runId : String) : Scratch :=
  ((w.scratch.get? runId).map (·.payload)).getD {}

def World.writeFolder (w : World) (runId : String) (files : Scratch) : World :=
  { w with scratch := w.scratch.upsert ⟨runId, files⟩ }

/-- `unlink(missing_ok=True)` of the permission. -/
def World.withdraw (w : World) (runId : String) : World :=
  w.writeFolder runId { w.folder runId with allowed := none }

inductive LearningError
  | immutableConflict
  | integrity
  | tampered
  | emptySelection
deriving DecidableEq, Repr

abbrev LearningTxn := Txn World LearningError

/-- `BEGIN IMMEDIATE`: a raise rolls the database back and leaves the files. -/
def transaction {α : Type} (x : LearningTxn α) : LearningTxn α := fun w =>
  match x w with
  | .ok a w' => .ok a w'
  | .error e w' => .error e { w' with store := w.store }

/-! ## Documents and receipts -/

/-- `put` of a document table: the same content again is no write.
mirrors store.py:32-45 -/
def putIn {α : Type} [DecidableEq α] (docs : Documents α) (id : String) (payload : α) :
    Option (Documents α) :=
  match docs.get? id with
  | some d => if d.payload = payload then some docs else none
  | none => some (docs.insert ⟨id, payload⟩)

variable (contentId : ContentId)

def putModel (m : ModelArtifact) : LearningTxn PUnit := fun w =>
  match putIn w.store.models (contentId (.model m)) m with
  | some models => .ok ⟨⟩ { w with store := { w.store with models := models } }
  | none => .error .immutableConflict w

def putExport (e : Export) : LearningTxn PUnit := fun w =>
  match putIn w.store.inputs (contentId (.exported e)) e with
  | some inputs => .ok ⟨⟩ { w with store := { w.store with inputs := inputs } }
  | none => .error .immutableConflict w

def putReceipt (r : LearningReceipt) : LearningTxn PUnit := fun w =>
  match putIn w.store.receipts (contentId (.receipt r)) r with
  | some receipts => .ok ⟨⟩ { w with store := { w.store with receipts := receipts } }
  | none => .error .immutableConflict w

def insertConsideration (c : Consideration) : LearningTxn PUnit := fun w =>
  if w.store.considerations.get? c.runId = none then
    .ok ⟨⟩ { w with store :=
      { w.store with considerations := w.store.considerations.insert c } }
  else .error .integrity w

/-- mirrors learning.py:589-596 -/
def saveReceipt (r : LearningReceipt) : LearningTxn PUnit := do
  putReceipt contentId r
  insertConsideration ⟨r.runId, contentId (.receipt r)⟩

/-- Whether the clock evidence of a completion at `now` is in order.
mirrors learning.py:606-631 -/
def completes (f : Fields) (now : Int) (domain : String) : Bool :=
  let started := f.startedAt.getD now
  (f.executionClockDomain = none || f.executionClockDomain = some domain) &&
    started ≤ now && f.fitStartedAt.all fun fitStart => started ≤ fitStart && fitStart ≤ now

/-- mirrors learning.py:603-631 -/
def complete (f : Fields) (now : Int) (domain : String) : Fields :=
  { f with
    recordedAt := now
    startedAt := some (f.startedAt.getD now)
    completedAt := some now
    completionClockDomain := some domain
    executionClockDomain := some (f.executionClockDomain.getD domain)
    availableAt := if completes f now domain then some now else none }

/-! ## Refusals -/

/-- A call of `consider_learning`: its arguments, the release and the clock's domain. -/
structure Invocation where
  policy : LearningPolicy
  cutoff : Int
  calendar : Option LearningCalendar := none
  legacyFixtureReplay : Bool := false
  domain : String := "HOST_UTC"
  releaseId : String
  startedAt : Int
deriving DecidableEq

def Invocation.calendarId (v : Invocation) : Option String :=
  v.calendar.map fun c => contentId (.calendar c)

inductive Refusal | busy | futureCutoff
deriving DecidableEq, Repr

def Refusal.text : Refusal → String
  | .busy => "LEARNING_WORKER_BUSY"
  | .futureCutoff => "FUTURE_CUTOFF_BEYOND_EXECUTION_TIME"

/-- The receipt an earlier consideration of the run left; a digest is never empty. -/
def previousReceipt (runId : String) : LearningTxn (Option LearningReceipt) := fun w =>
  match w.store.considerations.get? runId with
  | none => .ok none w
  | some c =>
    match w.store.receipts.get? c.receiptId with
    | some d => .ok (some d.payload) w
    | none => .error .integrity w

/-- The run id of a refusal: a busy refusal is one identity, a future cutoff another.
mirrors learning.py:739-750 -/
def refusalRunId (v : Invocation) (reason : Refusal) (considered : List String) : String :=
  contentId (.busy v.policy v.cutoff considered (match reason with
    | .busy => none
    | .futureCutoff => some (reason.text, v.calendarId contentId)))

/-- mirrors learning.py:764-788 -/
def refusal (v : Invocation) (reason : Refusal) (selected : Selection) (now : Int) :
    LearningReceipt where
  toFields := complete
    { recordedAt := now
      evidenceLane := v.policy.evidenceLane
      releaseId := v.releaseId
      startedAt := some v.startedAt
      calendarId := if reason = .busy then none else v.calendarId contentId
      runId := refusalRunId contentId v reason selected.considered
      cutoff := v.cutoff
      parentModelId := contentId (.model v.policy.parentModel)
      resultingModelId := contentId (.model v.policy.parentModel)
      policy := v.policy
      consideredIds := selected.considered
      exclusions := selected.excluded
      splitDigest := contentId .empty
      validationAbsentReason := some reason.text } now v.domain
  status := .noChange
  reason := reason.text

/-- mirrors learning.py:722-791 -/
def refusalReceipt (v : Invocation) (reason : Refusal) (selected : Selection) (now : Int) :
    LearningTxn LearningReceipt := do
  match ← previousReceipt (refusalRunId contentId v reason selected.considered) with
  | some receipt => pure receipt
  | none =>
    putModel contentId v.policy.parentModel
    saveReceipt contentId (refusal contentId v reason selected now)
    pure (refusal contentId v reason selected now)

/-! ## Recovery of lost attempts -/

/-- The receipt of an attempt whose process was lost.
mirrors learning.py:694-705 -/
def lostReceipt (a : Attempt) (now : Int) (domain : String) : LearningReceipt where
  toFields := { complete a.reservation now domain with
    validationAbsentReason := some "NO_COMPLETION_AFTER_FRESH_WORKER_LOCK" }
  status := .fitFailed
  reason := "PRIOR_PROCESS_LOST"

/-- Withdraw the permission of an attempt and leave its receipt; each at its own time. -/
def recoverEach (domain : String) : List Attempt → (now : Attempt → Int) → LearningTxn PUnit
  | [], _ => pure ⟨⟩
  | a :: rest, now => do
    modify fun w => w.withdraw a.runId
    saveReceipt contentId (lostReceipt a (now a) domain)
    recoverEach domain rest now

/-- The attempts without a consideration. -/
def pending (s : LearningStore) : List Attempt :=
  s.attempts.rows.filter fun a => (s.considerations.get? a.runId).isNone

/-- mirrors learning.py:681-706 -/
def recoverPending (domain : String) (now : Attempt → Int) : LearningTxn PUnit := do
  let w ← get
  recoverEach contentId domain (pending w.store) now

/-! ## What a consideration selects -/

/-- `sorted({row["session"] ..})`. -/
def sessionDays (rows : List OutcomeRow) : List Int :=
  (rows.map (·.session)).eraseDups.insertionSort (· ≤ ·)

/-- The last sessions, held out. -/
def validationDays (rows : List OutcomeRow) : List Int :=
  (sessionDays rows).drop ((sessionDays rows).length - minValidationSessions)

def earliestStart (rows : List OutcomeRow) : Int := ((rows.map (·.start)).min?).getD 0

/-- The sessions over by the cutoff and by now. -/
def completedSessions (v : Invocation) (now : Int) : List Session :=
  (v.calendar.map (·.sessions)).getD [] |>.filter fun s => s.closeAt ≤ min v.cutoff now

/-- `by_day[day]`: of several entries the last. -/
def LearningCalendar.session? (c : LearningCalendar) (day : Int) : Option Session :=
  (c.sessions.filter fun s => s.sessionDate = day).getLast?

/-- mirrors contracts.py:907-911 -/
structure Fold where
  session : Int
  cutoff : Int
  training : List OutcomeRow
  scored : List OutcomeRow
deriving DecidableEq

/-- One validation day against what was available when it opened; `selectAt` is `_select` at
that cutoff.
mirrors learning.py:876-893 -/
def foldOf (c : LearningCalendar) (validation : List OutcomeRow) (selectAt : Int → Selection)
    (day : Int) : Fold × List (String × String) :=
  let cutoff := ((c.session? day).map (·.openAt)).getD 0
  let scored := validation.filter fun r => r.session = day
  let boundary := earliestStart scored - embargo
  let earlier := selectAt cutoff
  (⟨day, cutoff, earlier.rows.filter fun r => r.session < day ∧ r.finish ≤ boundary, scored⟩,
    (earlier.excluded.filter fun e =>
      e.2 ≠ "UNAVAILABLE_AT_CUTOFF" ∧ e.2 ≠ "SESSION_NOT_COMPLETED").map fun e =>
        (e.1, "FOLD:" ++ toString day ++ ":" ++ e.2))

/-- mirrors learning.py:861-875 -/
def calendarReason (v : Invocation) (rows : List OutcomeRow) (now : Int) : Option String :=
  match v.policy.procedureVersion, v.calendar with
  | none, _ => none
  | some _, none => some "MISSING_VERIFIED_SESSION_SEQUENCE"
  | some _, some c =>
    if (completedSessions v now).length < 10 then some "TEN_COMPLETED_SESSION_WARMUP"
    else if rows.any fun r => (c.session? r.session).map (·.closeAt) ≠ some r.sessionClose then
      some "INPUT_OUTSIDE_VERIFIED_SESSION_SEQUENCE"
    else none

/-- What the transaction read: `_select` at the cutoff and at a fold's, and the clock. -/
structure Reading where
  selected : Selection
  selectAt : Int → Selection
  now : Int

/-- The folds of the daily procedure. -/
def foldRows (v : Invocation) (r : Reading) : List (Fold × List (String × String)) :=
  match v.policy.procedureVersion, v.calendar, calendarReason v r.selected.rows r.now with
  | some _, some c, none => (validationDays r.selected.rows).map
      (foldOf c (r.selected.rows.filter fun x => x.session ∈ validationDays r.selected.rows)
        r.selectAt)
  | _, _, _ => []

/-- The split of the selected rows.
mirrors learning.py:837-904 -/
structure Plan where
  folds : List Fold
  training : List OutcomeRow
  validation : List OutcomeRow
  excluded : List (String × String)
deriving DecidableEq

def plan (v : Invocation) (r : Reading) : Plan :=
  let rows := r.selected.rows
  let folds := foldRows v r
  let validation := rows.filter fun x => x.session ∈ validationDays rows
  let training := match folds with
    | [] => rows.filter fun x => x.session ∉ validationDays rows
    | fold :: _ => fold.1.training
  let excluded := r.selected.excluded ++ folds.flatMap (·.2)
  match validation with
  | [] => ⟨folds.map (·.1), training, validation, excluded⟩
  | first :: _ =>
    let boundary := first.start - embargo
    ⟨folds.map (·.1), training.filter fun x => x.finish ≤ boundary, validation,
      excluded ++ (training.filter fun x => boundary < x.finish).map fun x =>
        (x.outcomeId, "TRAIN_VALIDATION_EMBARGO")⟩

def outcomeIds (rows : List OutcomeRow) : List String := rows.map (·.outcomeId)

/-- Why no fit may be attempted, apart from the budget.
mirrors learning.py:931-956 -/
def objection (v : Invocation) (r : Reading) (p : Plan) : Option String :=
  let parent := v.policy.parentModel
  match calendarReason v r.selected.rows r.now with
  | some reason => some reason
  | none =>
    if v.policy.procedureVersion = none ∧ v.legacyFixtureReplay = false then
      some "LEGACY_POLICY_REPLAY_ONLY"
    else if parent.mode = .predict ∧ (parent.targetContract ≠ some v.policy.targetContract ∨
        parent.policyId ≠ some v.policy.policyId) then some "INCOMPATIBLE_INCUMBENT"
    else if p.training.length < minTraining ∨ p.validation.length < minValidation ∨
        (sessionDays p.training).length < minTrainingSessions ∨
        (validationDays r.selected.rows).length < minValidationSessions then
      some "INSUFFICIENT_EPISODES_OR_SESSIONS"
    else none

/-- mirrors learning.py:813-827 -/
def considerationRunId (v : Invocation) (selected : Selection) : String :=
  contentId (.run v.cutoff v.policy selected.considered selected.excluded
    (v.policy.procedureVersion.map fun _ => v.calendarId contentId))

/-- mirrors learning.py:958-962 -/
def revisionDigest (v : Invocation) (r : Reading) (p : Plan) : String :=
  if v.policy.procedureVersion.isSome then contentId (.outcomes (outcomeIds r.selected.rows))
  else contentId (.split (outcomeIds p.training) (outcomeIds p.validation))

/-- The session an attempt is charged to.
mirrors learning.py:963-967 -/
def chargedSession (v : Invocation) (r : Reading) : Int :=
  match v.policy.procedureVersion, (completedSessions v r.now).getLast? with
  | some _, some s => s.sessionDate
  | _, _ => ((sessionDays r.selected.rows).getLast?).getD (utcDate v.cutoff)

def splitDigest (p : Plan) : String :=
  contentId (.split (outcomeIds p.training) (outcomeIds p.validation))

/-- mirrors learning.py:905-930 -/
def considerationFields (v : Invocation) (r : Reading) (p : Plan) : Fields where
  recordedAt := v.startedAt
  evidenceLane := v.policy.evidenceLane
  releaseId := v.releaseId
  startedAt := some v.startedAt
  executionClockDomain := some v.domain
  runId := considerationRunId contentId v r.selected
  cutoff := v.cutoff
  parentModelId := contentId (.model v.policy.parentModel)
  resultingModelId := contentId (.model v.policy.parentModel)
  policy := v.policy
  consideredIds := r.selected.considered
  exclusions := p.excluded.mergeSort fun a b =>
    decide (a.1 < b.1) || (a.1 == b.1 && decide (a.2 ≤ b.2))
  splitDigest := splitDigest contentId p
  trainingIds := outcomeIds p.training
  validationIds := outcomeIds p.validation
  calendarId := if v.policy.procedureVersion.isSome then v.calendarId contentId else none
  completedSession := v.policy.procedureVersion.bind fun _ =>
    (completedSessions v r.now).getLast?.map (·.sessionDate)
  finalValidationAbsentReason := v.policy.procedureVersion.map fun _ =>
    "FINAL_REFIT_HAS_NO_INDEPENDENT_HOLDOUT"

/-! ## The charge -/

/-- A committed attempt: what the process carries on with. -/
structure Charge where
  invocation : Invocation
  plan : Plan
  rows : List OutcomeRow
  fields : Fields
deriving DecidableEq

def Charge.runId (c : Charge) : String := c.fields.runId

def chargeId (runId : String) : String := "learner:paper-core-" ++ runId

def explorationProcedure : String := "daily-paper-exploration-walk-forward-v3"

/-- mirrors learning.py:984-1017 -/
def chargeRow (v : Invocation) (rows : List OutcomeRow) (runId split : String) (now : Int) :
    SearchRun where
  searchId := chargeId runId
  actor := "paper-core-shadow-trial-charge"
  actorVersion := v.policy.targetContract
  candidatesEvaluated := 1
  dataset := v.policy.dataset
  startDate := utcDate (earliestStart rows)
  endDate := utcDate (((rows.map (·.finish)).max?).getD 0)
  dataRole := "VALIDATION"
  startedAt := now
  finishedAt := now
  configurationHash := contentId (.policy v.policy)
  detail := .trialCharge {
    executionClockDomain := v.domain
    runId := runId
    splitDigest := split
    exploration := if v.policy.procedureVersion = some explorationProcedure then
      some (explorationProcedure, v.policy.targetContract, v.policy.policyId) else none }

def insertSearchRun (r : SearchRun) : LearningTxn PUnit := fun w =>
  if w.store.searchRuns.get? r.searchId = none ∧ r.Checked then
    .ok ⟨⟩ { w with store := { w.store with searchRuns := w.store.searchRuns.insert r } }
  else .error .integrity w

def insertAttempt (a : Attempt) : LearningTxn PUnit := fun w =>
  if h : w.store.attempts.Admits a then
    .ok ⟨⟩ { w with store := { w.store with attempts := w.store.attempts.insert a h } }
  else .error .integrity w

inductive Considered
  | settled (receipt : LearningReceipt)
  | charged (charge : Charge)
deriving DecidableEq

/-- The reason the budget gives, when the session or the inputs were attempted before.
mirrors learning.py:968-976 -/
def budgetReason (s : LearningStore) (runId : String) (session : Int) (digest : String) :
    Option (Attempt × String) :=
  (s.attempts.rows.find? fun a =>
    decide (a.session = session ∨ a.inputRevisionDigest = digest)).map fun a =>
      (a, if a.runId = runId then "PRIOR_ATTEMPT_UNFINISHED" else "SESSION_BUDGET_OR_INPUT_REUSED")

/-- The receipt of a contender that found the attempt unfinished; no consideration points to it.
mirrors learning.py:977-992 -/
def interruptedReceipt (f : Fields) (existing : Attempt) (now : Int) (domain : String) :
    LearningReceipt where
  toFields := { complete { f with
      runId := contentId (.interrupted f.runId)
      trialChargeId := some existing.searchId } now domain with
    validationAbsentReason := some "PRIOR_ATTEMPT_UNFINISHED" }
  status := .fitFailed
  reason := "PRIOR_ATTEMPT_UNFINISHED"

def unchangedReceipt (f : Fields) (reason : String) (now : Int) (domain : String) :
    LearningReceipt where
  toFields := { complete f now domain with validationAbsentReason := some reason }
  status := .noChange
  reason := reason

/-- Charge the trial and reserve the attempt.
mirrors learning.py:980-1028 -/
def chargeAttempt (v : Invocation) (r : Reading) (p : Plan) : LearningTxn Charge := do
  let f := considerationFields contentId v r p
  let charged := { f with trialChargeId := some (chargeId f.runId) }
  require (r.selected.rows ≠ []) .emptySelection
  insertSearchRun (chargeRow contentId v r.selected.rows f.runId (splitDigest contentId p) r.now)
  insertAttempt ⟨chargedSession v r, f.runId, chargeId f.runId, splitDigest contentId p,
    revisionDigest contentId v r p, charged⟩
  pure ⟨v, p, r.selected.rows, charged⟩

/-- mirrors learning.py:792-1028 -/
def consider (v : Invocation) (r : Reading) : LearningTxn Considered := do
  let w ← get
  require (learnerTrialsSpent w.store.searchRuns.rows).isSome .tampered
  match ← previousReceipt (considerationRunId contentId v r.selected) with
  | some receipt => pure (.settled receipt)
  | none =>
    putModel contentId v.policy.parentModel
    let p := plan v r
    let f := considerationFields contentId v r p
    match objection v r p, budgetReason w.store f.runId (chargedSession v r)
        (revisionDigest contentId v r p) with
    | some reason, _ =>
      saveReceipt contentId (unchangedReceipt f reason r.now v.domain)
      pure (.settled (unchangedReceipt f reason r.now v.domain))
    | none, some (existing, reason) =>
      if existing.runId = f.runId then
        putReceipt contentId (interruptedReceipt contentId f existing r.now v.domain)
        pure (.settled (interruptedReceipt contentId f existing r.now v.domain))
      else
        saveReceipt contentId (unchangedReceipt f reason r.now v.domain)
        pure (.settled (unchangedReceipt f reason r.now v.domain))
    | none, none =>
      let charge ← chargeAttempt contentId v r p
      pure (.charged charge)

/-! ## Fit and receipt -/

/-- What a fit brought back; `procedure` is missing for the legacy single fit. -/
structure Fitted where
  candidate : Option ModelArtifact
  acceptable : Bool
  metrics : List (String × ℚ)
  sessionMetrics : String
  procedure : Option (String × List ℚ)
deriving DecidableEq

/-- mirrors learning.py:1127-1137 -/
def contractMismatch (c : Charge) (m : ModelArtifact) : Prop :=
  m.parentModelId ≠ some (contentId (.model c.invocation.policy.parentModel)) ∨
  m.inputIds ≠ (if c.invocation.policy.procedureVersion.isSome then outcomeIds c.rows
    else outcomeIds c.plan.training) ∨
  m.targetContract ≠ some c.invocation.policy.targetContract ∨
  m.policyId ≠ some c.invocation.policy.policyId ∨ m.learningReceiptId ≠ c.runId
deriving Decidable

/-- The fields with what the fit reported.
mirrors learning.py:1111-1119 -/
def Fitted.report (x : Fitted) (c : Charge) (f : Fields) : Fields :=
  match x.procedure with
  | none => f
  | some (folds, weights) => { f with
      foldResults := folds
      finalInputIds := if x.acceptable then outcomeIds c.rows else []
      finalRawWeights := weights }

/-- A run that failed before or in its fit.
mirrors learning.py:1150-1155 -/
def failed (f : Fields) (reason : String) (metrics : List (String × ℚ)) (sessionMetrics : String) :
    LearningReceipt where
  toFields :=
    { f with validationAbsentReason := some "FIT_OR_INPUT_FAILED_BEFORE_VALIDATION" }
  status := .fitFailed
  reason := reason
  metrics := metrics
  sessionMetrics := sessionMetrics

/-- mirrors learning.py:1111-1155 -/
def judged (c : Charge) (f : Fields) : Except String Fitted → LearningReceipt
  | .error reason => failed f reason [] "[]"
  | .ok x =>
    let f := x.report c f
    if ∃ m ∈ x.candidate, contractMismatch contentId c m then
      failed f "FIT_RESULT_CONTRACT_MISMATCH" x.metrics x.sessionMetrics
    else
      let candidate := x.candidate.map fun m => contentId (.model m)
      { toFields := { f with
          candidateModelId := candidate
          resultingModelId := if x.acceptable then candidate.getD f.resultingModelId
            else f.resultingModelId }
        status := if x.acceptable then .awaitingActivation else .candidateRejected
        reason := if x.acceptable then
            if c.invocation.policy.procedureVersion.isSome then "PASSED_FIXED_PROCEDURE_GATES"
            else "PASSED_FIXED_SHADOW_GATES"
          else "VALIDATION_GATE_FAILED"
        metrics := x.metrics
        sessionMetrics := x.sessionMetrics }

/-- The receipt of an attempt, a regressed clock failing it.
mirrors learning.py:1156-1165 -/
def finalReceipt (c : Charge) (f : Fields) (result : Except String Fitted) (now : Int) :
    LearningReceipt :=
  let r := judged contentId c f result
  let done := complete r.toFields now c.invocation.domain
  if completes r.toFields now c.invocation.domain then { r with toFields := done }
  else { r with
    toFields := { done with
      resultingModelId := contentId (.model c.invocation.policy.parentModel) }
    status := .fitFailed
    reason := "EXECUTION_CLOCK_REGRESSED" }

/-- mirrors learning.py:1166-1170 -/
def saveFinal (candidate : Option ModelArtifact) (receipt : LearningReceipt) :
    LearningTxn LearningReceipt := do
  candidate.elim (pure ⟨⟩) (putModel contentId)
  saveReceipt contentId receipt
  pure receipt

end Quantbot.L4.Learning
