import Quantbot.Core.LTS
import Quantbot.Core.Txn
import Quantbot.L3Execution.Reconciliation

/-!
# The kill switch

`operations/kill_switch.py`, `operations/readiness.py` and the switch's row of
`storage/repositories.py`. Three transactions of different processes: readiness is
measured, the switch is engaged, and the switch is cleared against a measurement.

`clear` looks at the conditions of its measurement, never at `measured_at`, and the row
it overwrites is not read. So a failure engaged between the measurement and the clear is
erased: `clear_erases_failure` is such a run, and `engagements_kept` says that these are
exactly the steps that lose one.

Time in a run is the number of steps before; the stamps the callers supply are not
compared by any of the three.
-/
namespace Quantbot.L5.KillSwitch

open Core Txn L3 L3.Reconciliation
open L1 (strip)

/-! ## Readiness -/

/-- mirrors kill_switch.py:14-40 -/
structure ReadinessEvidence where
  paperMode : Bool
  accountVerified : Bool
  brokerHealthy : Bool
  dataHealthy : Bool
  riskHealthy : Bool
  reconciliationSuccessful : Bool
deriving DecidableEq, Repr

/-- `[reason]` unless the condition holds. -/
def unlessMet (condition : Bool) (reason : String) : List String :=
  if condition then [] else [reason]

def ReadinessEvidence.reasons (e : ReadinessEvidence) : List String :=
  unlessMet e.paperMode "PAPER_MODE_REQUIRED" ++
  unlessMet e.accountVerified "ACCOUNT_VERIFICATION_REQUIRED" ++
  unlessMet e.brokerHealthy "BROKER_UNHEALTHY" ++
  unlessMet e.dataHealthy "MARKET_DATA_UNHEALTHY" ++
  unlessMet e.riskHealthy "RISK_ENGINE_UNHEALTHY" ++
  unlessMet e.reconciliationSuccessful "RECONCILIATION_REQUIRED"

inductive Probe | broker | account | marketData | risk | reconciliation
deriving DecidableEq, Repr

def Probe.text : Probe → String
  | .broker => "BROKER"
  | .account => "ACCOUNT"
  | .marketData => "MARKET_DATA"
  | .risk => "RISK"
  | .reconciliation => "RECONCILIATION"

/-- The unhealthy reason an unprobed condition replaces.
mirrors kill_switch.py:45-51 -/
def Probe.supersedes : Probe → String
  | .broker => "BROKER_UNHEALTHY"
  | .account => "ACCOUNT_VERIFICATION_REQUIRED"
  | .marketData => "MARKET_DATA_UNHEALTHY"
  | .risk => "RISK_ENGINE_UNHEALTHY"
  | .reconciliation => "RECONCILIATION_REQUIRED"

/-- What a measurement notes beside its answer. -/
inductive ReadinessDetail
  | noBroker
  | brokerReported (reasons : List String)
  | noExpectedAccount
  | otherAccount
  | neverReconciled
  | reconciliationStatus (status : ReconciliationStatus)
  | reconciliationDiffs (count : Nat)
  | reconciliationOld (days window : Int)
  | noBars
  | barOld (days : Int)
  | capsInvalid
deriving DecidableEq, Repr

/-- mirrors kill_switch.py:56-120 -/
structure MeasuredReadiness where
  evidence : ReadinessEvidence
  measuredAt : Int
  probes : List Probe
  unprobed : List Probe
  detail : List ReadinessDetail
deriving DecidableEq, Repr

def MeasuredReadiness.blocking (m : MeasuredReadiness) : List String :=
  (m.evidence.reasons.filter fun r => decide (r ∉ m.unprobed.map (·.supersedes))) ++
    m.unprobed.map fun p => p.text ++ "_UNVERIFIED"

/-! ## The database -/

/-- The singleton row of `kill_switch_state`. -/
structure KillSwitchState where
  engaged : Bool
  reason : String
  updatedAt : Int
deriving DecidableEq, Repr

/-- The newest reconciliation, as readiness reads it. -/
structure LatestReconciliation where
  status : ReconciliationStatus
  diffs : Nat
  completedAt : Int
deriving DecidableEq, Repr

structure SwitchStore where
  row : Option KillSwitchState
  latestReconciliation : Option LatestReconciliation := none
  newestBar : Option Int := none
deriving DecidableEq, Repr

inductive SwitchError
  | valueError (message : String)
  | clearBlocked (reasons : List String)
  | recordNotFound (message : String)
deriving DecidableEq, Repr

abbrev SwitchTxn := Txn SwitchStore SwitchError

/-- mirrors repositories.py:2102-2114 -/
def getKillSwitchState : SwitchTxn KillSwitchState := do
  match (← get).row with
  | none => throw (.recordNotFound "kill switch singleton is missing")
  | some row => pure row

/-- mirrors repositories.py:2116-2133 -/
def setKillSwitch (engaged : Bool) (reason : String) (updatedAt : Int) :
    SwitchTxn KillSwitchState := fun s =>
  match s.row with
  | none => .error (.recordNotFound "kill switch singleton is missing") s
  | some _ =>
    .ok ⟨engaged, reason, updatedAt⟩ { s with row := some ⟨engaged, reason, updatedAt⟩ }

/-! ## Measuring -/

structure BrokerHealth where
  healthy : Bool
  accountId : Option String
  reasons : List String
deriving DecidableEq, Repr

def hour : Int := 3600 * 1000000

def day : Int := 24 * hour

/-- The arguments of a measurement, in microseconds; no broker, no answer of it. -/
structure ReadinessInputs where
  broker : Option BrokerHealth
  paperMode : Bool
  expectedAccountId : Option String
  riskCapsValid : Bool
  now : Int
  maxReconciliationAge : Int := 36 * hour
  maxBarAge : Int := 5 * day
deriving DecidableEq, Repr

/-- Broker and account: verified, and what is noted. -/
def brokerProbe (i : ReadinessInputs) :
    (Bool × Bool) × List Probe × List Probe × List ReadinessDetail :=
  match i.broker with
  | none => ((false, false), [], [.broker, .account], [.noBroker])
  | some health =>
    let unhealthy := if health.healthy then [] else [.brokerReported health.reasons]
    let (verified, account) := match i.expectedAccountId with
      | none => (false, [ReadinessDetail.noExpectedAccount])
      | some expected =>
        if health.accountId ≠ some expected then (false, [.otherAccount]) else (true, [])
    ((health.healthy, verified), [.broker, .account], [], unhealthy ++ account)

/-- mirrors readiness.py:124-142 -/
def reconciliationProbe (s : SwitchStore) (i : ReadinessInputs) : Bool × List ReadinessDetail :=
  match s.latestReconciliation with
  | none => (false, [.neverReconciled])
  | some latest =>
    if latest.status ≠ .reconciled then (false, [.reconciliationStatus latest.status])
    else if latest.diffs ≠ 0 then (false, [.reconciliationDiffs latest.diffs])
    else if i.maxReconciliationAge < i.now - latest.completedAt then
      (false, [.reconciliationOld ((i.now - latest.completedAt) / day) i.maxReconciliationAge])
    else (true, [])

/-- mirrors readiness.py:144-151 -/
def dataProbe (s : SwitchStore) (i : ReadinessInputs) : Bool × List ReadinessDetail :=
  match s.newestBar with
  | none => (false, [.noBars])
  | some bar =>
    if i.maxBarAge < i.now - bar then (false, [.barOld ((i.now - bar) / day)]) else (true, [])

/-- mirrors readiness.py:80-174 -/
def measureReadiness (s : SwitchStore) (i : ReadinessInputs) : MeasuredReadiness :=
  let ((brokerHealthy, accountVerified), probes, unprobed, brokerDetail) := brokerProbe i
  let (reconciled, reconciliationDetail) := reconciliationProbe s i
  let (dataHealthy, dataDetail) := dataProbe s i
  { evidence := ⟨i.paperMode, accountVerified, brokerHealthy, dataHealthy, i.riskCapsValid,
      reconciled⟩
    measuredAt := i.now
    probes := probes ++ [.reconciliation, .marketData, .risk]
    unprobed := unprobed
    detail := brokerDetail ++ reconciliationDetail ++ dataDetail ++
      if i.riskCapsValid then [] else [.capsInvalid] }

/-! ## The controller -/

/-- mirrors kill_switch.py:158-167 -/
def engage (reason : String) (updatedAt : Int) : SwitchTxn KillSwitchState := do
  require (strip reason ≠ "") (.valueError "kill switch reason must be nonempty")
  setKillSwitch true (strip reason) updatedAt

/-- The failures are ASCII names.
mirrors kill_switch.py:169-173 -/
def engageHardFailure (failure : String) (updatedAt : Int) : SwitchTxn KillSwitchState := do
  require ((strip failure).toUpper ≠ "") (.valueError "hard failure must be nonempty")
  engage (strip failure).toUpper updatedAt

/-- mirrors kill_switch.py:175-212 -/
def clear (reason : String) (measured : MeasuredReadiness) (updatedAt : Int) :
    SwitchTxn KillSwitchState := do
  require (strip reason ≠ "") (.valueError "kill switch reason must be nonempty")
  require (measured.blocking = []) (.clearBlocked measured.blocking)
  setKillSwitch false (strip reason) updatedAt

variable {updatedAt : Int} {r : KillSwitchState} {reason : String} {s s' : SwitchStore}

theorem setKillSwitch_ok {engaged : Bool}
    (h : setKillSwitch engaged reason updatedAt s = .ok r s') :
    s.row.isSome ∧ s' = { s with row := some ⟨engaged, reason, updatedAt⟩ } := by
  unfold setKillSwitch at h; split at h
  · cases h
  next hrow =>
  cases h; rw [hrow]; exact ⟨rfl, rfl⟩

theorem engage_ok (h : engage reason updatedAt s = .ok r s') :
    s' = { s with row := some ⟨true, strip reason, updatedAt⟩ } := by
  unfold engage at h; rw [bind_ok] at h; obtain ⟨_, s₁, hrequire, h⟩ := h
  obtain ⟨_, rfl⟩ := require_ok.1 hrequire; exact (setKillSwitch_ok h).2

theorem engageHardFailure_ok {failure : String}
    (h : engageHardFailure failure updatedAt s = .ok r s') :
    ∃ reason, s' = { s with row := some ⟨true, reason, updatedAt⟩ } := by
  unfold engageHardFailure at h; rw [bind_ok] at h
  obtain ⟨_, s₁, hrequire, h⟩ := h; obtain ⟨_, rfl⟩ := require_ok.1 hrequire
  exact ⟨_, engage_ok h⟩

/-- The conditions a clear looks at: its reason and its measurement. -/
def ClearAccepted (reason : String) (measured : MeasuredReadiness) : Prop :=
  strip reason ≠ "" ∧ measured.blocking = []

variable {measured : MeasuredReadiness}

theorem clear_ok (h : clear reason measured updatedAt s = .ok r s') :
    ClearAccepted reason measured ∧
      s' = { s with row := some ⟨false, strip reason, updatedAt⟩ } := by
  unfold clear at h; rw [bind_ok] at h; obtain ⟨_, s₁, hrequire, h⟩ := h
  obtain ⟨hreason, rfl⟩ := require_ok.1 hrequire; rw [bind_ok] at h
  obtain ⟨_, s₂, hunblocked, h⟩ := h
  obtain ⟨hblocking, rfl⟩ := require_ok.1 hunblocked
  exact ⟨⟨hreason, hblocking⟩, (setKillSwitch_ok h).2⟩

theorem clear_returns (updatedAt : Int) (h : ClearAccepted reason measured) (hrow : s.row.isSome) :
    ∃ r s', clear reason measured updatedAt s = .ok r s' := by
  obtain ⟨row, hrow⟩ := Option.isSome_iff_exists.1 hrow
  refine ⟨⟨false, strip reason, updatedAt⟩,
    { s with row := some ⟨false, strip reason, updatedAt⟩ }, ?_⟩
  unfold clear; rw [bind_ok]; refine ⟨⟨⟩, s, require_ok.2 ⟨h.1, rfl⟩, ?_⟩
  rw [bind_ok]; refine ⟨⟨⟩, s, require_ok.2 ⟨h.2, rfl⟩, ?_⟩
  unfold setKillSwitch; rw [hrow]

/-! ## Runs -/

/-- The database, the number of steps so far, and as ghosts the measurements issued with
their times, the time of the last engagement, and the time of the measurement behind the
last clear. -/
structure SwitchRun where
  store : SwitchStore
  clock : Nat := 0
  issued : List (Nat × MeasuredReadiness) := []
  lastEngaged : Option Nat := none
  lastCleared : Option Nat := none
deriving DecidableEq, Repr

inductive SwitchLabel
  | engage (reason : String) (updatedAt : Int)
  | engageHardFailure (failure : String) (updatedAt : Int)
  | measure (inputs : ReadinessInputs)
  | clear (reason : String) (measuredAt : Nat) (measured : MeasuredReadiness) (updatedAt : Int)
  /-- Reconciliations and bars are recorded. -/
  | other

/-- An engagement of any process, in a transaction of its own. -/
def SwitchRun.engaging (s : SwitchRun) (x : SwitchTxn KillSwitchState) : SwitchRun :=
  match immediate x s.store with
  | .ok _ t => { s with store := t, clock := s.clock + 1, lastEngaged := some s.clock }
  | .error _ _ => { s with clock := s.clock + 1 }

/-- A clear against the measurement of a time. -/
def SwitchRun.clearing (s : SwitchRun) (measuredAt : Nat) (x : SwitchTxn KillSwitchState) :
    SwitchRun :=
  match immediate x s.store with
  | .ok _ t => { s with store := t, clock := s.clock + 1, lastCleared := some measuredAt }
  | .error _ _ => { s with clock := s.clock + 1 }

inductive SwitchStep : SwitchRun → SwitchLabel → SwitchRun → Prop
  | engage (s : SwitchRun) (reason : String) (at' : Int) :
      SwitchStep s (.engage reason at') (s.engaging (engage reason at'))
  | engageHardFailure (s : SwitchRun) (failure : String) (at' : Int) :
      SwitchStep s (.engageHardFailure failure at') (s.engaging (engageHardFailure failure at'))
  | measure (s : SwitchRun) (i : ReadinessInputs) :
      SwitchStep s (.measure i) { s with
        clock := s.clock + 1, issued := (s.clock, measureReadiness s.store i) :: s.issued }
  | clear (s : SwitchRun) (reason : String) {m : Nat} {measured : MeasuredReadiness} (at' : Int) :
      (m, measured) ∈ s.issued →
        SwitchStep s (.clear reason m measured at') (s.clearing m (clear reason measured at'))
  | other (s : SwitchRun) (r : Option LatestReconciliation) (b : Option Int) :
      SwitchStep s .other { s with
        store := { s.store with latestReconciliation := r, newestBar := b }, clock := s.clock + 1 }

/-- From a new database: engaged, nothing measured. -/
def switch : LTS SwitchRun SwitchLabel where
  init s := ∃ at', s = { store := { row := some ⟨true, "default fail-closed state", at'⟩ } }
  step := SwitchStep

def SwitchStore.engaged (s : SwitchStore) : Prop := ∃ r ∈ s.row, r.engaged = true

/-- **The claim of the switch**: engaged, when some engagement is later than the measurement
behind the last clear. -/
def EngagementsKept (s : SwitchRun) : Prop :=
  ∀ e ∈ s.lastEngaged, ∀ m ∈ s.lastCleared, m < e → s.store.engaged

/-- A clear that is not refused uses a measurement no engagement has followed. -/
def FreshMeasurement (s : SwitchRun) (l : SwitchLabel) (_ : SwitchRun) : Prop :=
  match l with
  | .clear reason m measured _ =>
    ClearAccepted reason measured → ∀ e ∈ s.lastEngaged, e ≤ m
  | _ => True

theorem row_inductive : switch.Inductive fun s => s.store.row.isSome where
  init s h := by
    obtain ⟨_, rfl⟩ := h; rfl
  step s l s' h hst := by
    cases hst with
    | engage reason at' =>
      unfold SwitchRun.engaging; split
      · next hx =>
        rw [engage_ok (immediate_ok.1 hx)]; rfl
      · exact h
    | engageHardFailure failure at' =>
      unfold SwitchRun.engaging; split
      · next hx =>
        obtain ⟨_, ht⟩ := engageHardFailure_ok (immediate_ok.1 hx); rw [ht]; rfl
      · exact h
    | measure _ | other _ _ => exact h
    | clear reason at' hissued =>
      unfold SwitchRun.clearing; split
      · next hx =>
        rw [(clear_ok (immediate_ok.1 hx)).2]; rfl
      · exact h

theorem kept_engaging {s : SwitchRun} {x : SwitchTxn KillSwitchState} (h : EngagementsKept s)
    (hx : ∀ r t, x s.store = .ok r t → t.engaged) : EngagementsKept (s.engaging x) := by
  unfold SwitchRun.engaging; split
  · next hok => exact fun _ _ _ _ _ => hx _ _ (immediate_ok.1 hok)
  · exact h

theorem kept_clearing {s : SwitchRun} {m : Nat} {at' : Int} (hrow : s.store.row.isSome)
    (h : EngagementsKept s) : EngagementsKept (s.clearing m (clear reason measured at')) ↔
      (ClearAccepted reason measured → ∀ e ∈ s.lastEngaged, e ≤ m) := by
  unfold SwitchRun.clearing; constructor
  · intro hkept haccepted e he; by_contra hlt
    obtain ⟨r, t, hclear⟩ := clear_returns at' haccepted hrow
    rw [immediate_ok.2 hclear] at hkept
    obtain ⟨row, hr, hengaged⟩ := hkept e he m rfl (not_le.1 hlt)
    rw [(clear_ok hclear).2] at hr; cases hr; cases hengaged
  · intro hfresh; split
    · next hx =>
      obtain ⟨haccepted, _⟩ := clear_ok (immediate_ok.1 hx)
      intro e he m' hm' hlt; cases hm'
      exact absurd (hfresh haccepted e he) (not_le.2 hlt)
    · exact h

/-- **Exactly the stale clears lose an engagement.** In every run whose clears use a
measurement no engagement has followed, the switch is engaged whenever some engagement is
later than the measurement behind the last clear; and of every step of every run, taken
where that holds, it holds behind the step if and only if the step is no stale clear. -/
theorem engagements_kept (s : SwitchRun) :
    ((switch.restrict FreshMeasurement).Reachable s → EngagementsKept s) ∧
    ∀ l s', switch.Reachable s → switch.step s l s' → EngagementsKept s →
      (EngagementsKept s' ↔ FreshMeasurement s l s') := by
  have hstep : ∀ s l s', switch.Reachable s → switch.step s l s' → EngagementsKept s →
      (EngagementsKept s' ↔ FreshMeasurement s l s') := by
    intro s l s' hs hst h
    cases hst with
    | engage reason at' =>
      refine iff_of_true (kept_engaging h fun r t ht => ?_) trivial
      rw [engage_ok ht]; exact ⟨_, rfl, rfl⟩
    | engageHardFailure failure at' =>
      refine iff_of_true (kept_engaging h fun r t ht => ?_) trivial
      obtain ⟨_, ht⟩ := engageHardFailure_ok ht; rw [ht]; exact ⟨_, rfl, rfl⟩
    | measure _ | other _ _ => exact iff_of_true h trivial
    | clear reason at' hissued => exact kept_clearing (row_inductive.reachable hs) h
  refine ⟨fun hs => ?_, hstep s⟩
  have hinductive : (switch.restrict FreshMeasurement).Inductive fun s =>
      switch.Reachable s ∧ EngagementsKept s :=
    ⟨fun s h => ⟨⟨s, [], h, .nil s⟩, by
      obtain ⟨_, rfl⟩ := h; intro e he
      cases he⟩,
    fun s l s' h hst => ⟨h.1.step hst.1, (hstep s l s' h.1 hst.1 h.2).2 hst.2⟩⟩
  exact (hinductive.reachable hs).2

/-! ## A failure between the measurement and the clear -/

/-- A reconciled ledger, a bar of the day, and a healthy broker. -/
def healthyStore : SwitchStore where
  row := some ⟨true, "default fail-closed state", 0⟩
  latestReconciliation := some ⟨.reconciled, 0, 100⟩
  newestBar := some 100

def healthyInputs : ReadinessInputs where
  broker := some ⟨true, some "PA1", []⟩
  paperMode := true
  expectedAccountId := some "PA1"
  riskCapsValid := true
  now := 200

def newDatabase : SwitchRun := { store := { row := some ⟨true, "default fail-closed state", 0⟩ } }

def measuredRun : SwitchRun :=
  { store := healthyStore, clock := 2, issued := [(1, measureReadiness healthyStore healthyInputs)] }

theorem measured_run :
    (switch.restrict FreshMeasurement).Run newDatabase [.other, .measure healthyInputs] measuredRun :=
  .cons ⟨.other newDatabase (some ⟨.reconciled, 0, 100⟩) (some 100), trivial⟩
    (.cons ⟨.measure _ healthyInputs, trivial⟩ (.nil _))

/-- Reconciliation fails behind the measurement. -/
def failedRun : SwitchRun := measuredRun.engaging (engageHardFailure "reconciliation_failed" 300)

def erasedRun : SwitchRun :=
  failedRun.clearing 1 (clear "resume" (measureReadiness healthyStore healthyInputs) 250)

theorem failed_clear : switch.step failedRun
    (.clear "resume" 1 (measureReadiness healthyStore healthyInputs) 250) erasedRun :=
  .clear failedRun "resume" 250 (by decide +kernel)

/-- Measured, failed, cleared: the switch is off, and the failure it stopped for came
after everything the clear had seen. -/
theorem clear_erases_failure :
    ∃ s, switch.Reachable s ∧ s.lastEngaged = some 2 ∧ s.lastCleared = some 1 ∧
      s.store.row = some ⟨false, "resume", 250⟩ ∧ ¬ EngagementsKept s := by
  refine ⟨erasedRun, ⟨newDatabase, _, ⟨0, rfl⟩, measured_run.of_restrict.append
    (.cons (.engageHardFailure measuredRun "reconciliation_failed" 300)
      (.cons failed_clear (.nil _)))⟩, by decide +kernel, by decide +kernel, by decide +kernel, fun h => ?_⟩
  have hengaged : (2 : Nat) ∈ erasedRun.lastEngaged := by decide +kernel
  have hcleared : (1 : Nat) ∈ erasedRun.lastCleared := by decide +kernel
  obtain ⟨row, hrow, hon⟩ := h 2 hengaged 1 hcleared (by omega)
  have hoff : erasedRun.store.row = some ⟨false, "resume", 250⟩ := by decide +kernel
  rw [hoff] at hrow; cases hrow; cases hon

/-- The clear without the failure, and a failure behind it. -/
theorem engagements_kept_later : EngagementsKept ((measuredRun.clearing 1
      (clear "resume" (measureReadiness healthyStore healthyInputs) 250)).engaging
        (engageHardFailure "reconciliation_failed" 300)) := by
  have hclear : switch.step measuredRun
      (.clear "resume" 1 (measureReadiness healthyStore healthyInputs) 250)
      (measuredRun.clearing 1
        (clear "resume" (measureReadiness healthyStore healthyInputs) 250)) :=
    .clear measuredRun "resume" 250 (by decide)
  refine (engagements_kept _).1 ⟨newDatabase, _, ⟨0, rfl⟩, measured_run.append
    (.cons ⟨hclear, fun _ e he => (by cases he)⟩
      (.cons ⟨.engageHardFailure _ "reconciliation_failed" 300, trivial⟩ (.nil _)))⟩

end Quantbot.L5.KillSwitch
