import Quantbot.Core.LTS
import Quantbot.Core.Txn
import Quantbot.Core.Table
import Quantbot.L4PaperCore.Contracts

/-!
# Scoped health

`paper_core/health.py`: an append-only log of health events. Nothing is ever deleted or
updated; an event stops being active when a later event names it in `recovered_from`.
Reports append failures, and three recoveries append receipts: of a cohort of symbols,
of the inventory, and of one delayed purchase under an explicit approval.

What the gates of other modules answer (`entry_inventory_objections`, the objections
of a time evidence, the approval's evidence) is an input of the recovery that asks.

* `Grown`, `putEvent_grown`, `activeHealth_ok`: what a write may add to the log, and what
  an active event is.
-/
namespace Quantbot.L4.Health

open Core Txn

/-! ## Events -/

inductive Role | trader | guardian | outcomes
deriving DecidableEq, Repr

inductive Scope | account | symbol | lot | learning
deriving DecidableEq, Repr

inductive State
  | ready | temporaryWait | retryableFailure | protocolFailure | manualPause | integrityFailure
deriving DecidableEq, Repr

/-- Times are microseconds.
mirrors contracts.py:1016-1042 -/
structure Event where
  recordedAt : Int
  releaseId : String
  evidenceLane : EvidenceLane
  role : Role
  scope : Scope
  scopeId : String
  state : State
  objections : List String
  firstBlocker : Option String
  firstSeen : Int
  lastSeen : Int
  evidenceIds : List String := []
  lastUsefulProgress : Option Int := none
  nextRetry : Option Int := none
  recoveryRequirements : List String := []
  recoveredFrom : List String := []
  newProofId : Option String := none
  sequence : Nat := 0
  failedGeneration : Nat := 0
  protectionBlocked : Bool := false
  escalated : Bool := false
deriving DecidableEq, Repr

/-- A row of `core_health_events`. -/
structure EventRow where
  id : String
  payload : Event
deriving DecidableEq, Repr

/-- What the health module reads: the store's binding, the log, whether the kill switch
is engaged, the latest certification, and whether evidence is in conflict. -/
structure HealthStore where
  config : CoreConfig
  symbol : String
  runtimeRole : Option String := none
  runtimeTimeEvidenceId : Option String := none
  events : Table EventRow (·.id) := .empty
  killSwitch : Bool := false
  certification : Option (Nat × String) := none
  evidenceConflict : Bool := false
deriving DecidableEq

def HealthStore.payloads (s : HealthStore) : List Event := s.events.rows.map (·.payload)

/-- `recovery` is raised with the prefix `OWNED_BUY_RECOVERY_`. -/
inductive HealthError
  | identityMismatch
  | conflictingImmutable (id : String)
  | recovery (reason : String)
deriving DecidableEq, Repr

abbrev HealthTxn := Txn HealthStore HealthError

/-- Content ids of events. -/
abbrev EventId := Event → String

/-! ## The log -/

/-- mirrors store.py:37-51 -/
def putEvent (eventId : EventId) (event : Event) : HealthTxn PUnit := fun s =>
  match s.events.get? (eventId event) with
  | some existing =>
    if existing.payload = event then .ok ⟨⟩ s
    else .error (.conflictingImmutable (eventId event)) s
  | none => .ok ⟨⟩ { s with events := s.events.insert ⟨eventId event, event⟩ }

/-- `max((h.sequence for h in events), default=0)`. -/
def HealthStore.lastSequence (s : HealthStore) : Nat := (s.payloads.map (·.sequence)).max?.getD 0

/-- Every id some event recovers. -/
def recoveredIds (events : List Event) : List String := events.flatMap (·.recoveredFrom)

/-- Every row is validated before the projection; recovery receipts take part in it even
when they were recovered themselves.
mirrors health.py:58-96 -/
def activeHealth (eventId : EventId) : HealthTxn (List Event) := do
  let s ← get
  require (∀ r ∈ s.events.rows, eventId r.payload = r.id) .identityMismatch
  let rows := s.events.rows.filter fun r =>
    decide (r.payload.state ≠ .ready ∧ r.id ∉ recoveredIds s.payloads ∨
      r.payload.recoveredFrom ≠ [])
  let events := (rows.map (·.payload)).insertionSort fun a b => a.sequence ≤ b.sequence
  pure (events.filter fun h => decide (h.state ≠ .ready ∧ eventId h ∉ recoveredIds events))

/-- mirrors health.py:99-115 -/
def recordHealth (eventId : EventId) (event : Event) : HealthTxn String := do
  let s ← get
  let event := { event with sequence := s.lastSequence + 1 }
  putEvent eventId event
  pure (eventId event)

/-! ## Reports -/

/-- `value or default` of a text. -/
def orDefault (value : Option String) (fallback : String) : String :=
  match value with
  | none => fallback
  | some v => if v = "" then fallback else v

/-- The arguments of `report`. -/
structure Report where
  role : Role
  state : State
  reasons : List String
  now : Int
  scope : Scope := .symbol
  scopeId : Option String := none
  evidenceIds : List String := []
  protectionBlocked : Bool := false
deriving DecidableEq, Repr

/-- The seconds until the next retry, after so many earlier failures. -/
def retryDelay (attempt : Nat) : Nat := min 15 (2 ^ min attempt 4)

/-- The event a report records.
mirrors health.py:143-174 -/
def Report.event (r : Report) (s : HealthStore) (previous : List Event) : Event :=
  let first := (previous.map (·.firstSeen)).min?.getD r.now
  { recordedAt := r.now
    releaseId := s.config.releaseId
    evidenceLane := s.config.evidenceLane
    role := r.role
    scope := r.scope
    scopeId := orDefault r.scopeId s.symbol
    state := r.state
    objections := r.reasons
    firstBlocker := r.reasons.head?
    firstSeen := first
    lastSeen := r.now
    evidenceIds := r.evidenceIds
    nextRetry := some (r.now + retryDelay previous.length * 1000000)
    failedGeneration := (s.certification.map (·.1)).getD 0
    protectionBlocked := r.protectionBlocked
    escalated := decide (300 * 1000000 ≤ r.now - first)
    recoveryRequirements := ["NEW_COMPLETE_PROOF", "FRESH_TIME_AND_DEPENDENCIES", "GUARDIAN_ACK",
      "NO_IN_SCOPE_PAUSE_OR_QUARANTINE"] }

/-- mirrors health.py:118-176 -/
def report (eventId : EventId) (r : Report) : HealthTxn String := do
  let s ← get
  let active ← activeHealth eventId
  let previous := active.filter fun h =>
    decide (h.role = r.role ∧ h.scope = r.scope ∧ h.scopeId = orDefault r.scopeId s.symbol ∧
      h.state = r.state)
  recordHealth eventId (r.event s previous)

/-! ## Recovery of a cohort -/

/-- The states that stay until an explicit resolver. -/
def State.Quarantine (s : State) : Prop := s = .integrityFailure ∨ s = .manualPause
deriving Decidable

/-- The proof a recovery rests on: its id and generation. -/
structure Authority where
  proofId : String
  generation : Nat
  recordedAt : Int
deriving DecidableEq, Repr

/-- The event is in the scope of a symbol of the account. -/
def InScope (accountId symbol : String) (h : Event) : Prop :=
  h.scope = .symbol ∧ h.scopeId = symbol ∨ h.scope = .account ∧ h.scopeId = accountId
deriving Decidable

/-- What a cohort recovery takes for a failure of the symbol.
mirrors health.py:433-440 -/
def CohortFailure (proof : Authority) (h : Event) : Prop :=
  (h.state = .temporaryWait ∨ h.state = .retryableFailure ∨ h.state = .protocolFailure) ∧
    (h.role = .trader ∨ h.role = .guardian) ∧ h.failedGeneration < proof.generation ∧
    proof.proofId ∉ h.evidenceIds
deriving Decidable

/-- The failures of a symbol; none while a quarantine stands in its scope.
mirrors health.py:418-442 -/
def symbolFailures (eventId : EventId) (proof : Authority) (accountId symbol : String)
    (active : List Event) (resolved : List String) : List Event :=
  let inScope := active.filter fun h =>
    decide (eventId h ∉ resolved ∧ InScope accountId symbol h)
  if ∃ h ∈ inScope, h.state.Quarantine then []
  else inScope.filter fun h => decide (CohortFailure proof h)

/-- The receipt of a symbol's recovery. -/
def symbolReceipt (eventId : EventId) (config : CoreConfig) (proof : Authority) (now : Int)
    (symbol : String) (failures : List Event) (sequence : Nat) : Event where
  recordedAt := now
  releaseId := config.releaseId
  evidenceLane := config.evidenceLane
  role := .trader
  scope := .symbol
  scopeId := symbol
  state := .ready
  objections := []
  firstBlocker := none
  firstSeen := now
  lastSeen := now
  lastUsefulProgress := some now
  newProofId := some proof.proofId
  evidenceIds := [proof.proofId]
  recoveredFrom := failures.map eventId
  sequence := sequence

/-- One symbol after another; what an earlier one recovered is resolved for the next.
mirrors health.py:417-466 -/
def recoverSymbols (eventId : EventId) (config : CoreConfig) (proof : Authority) (now : Int)
    (active : List Event) : List String → Nat → List String → HealthTxn PUnit
  | [], _, _ => pure ⟨⟩
  | symbol :: symbols, sequence, resolved =>
    let failures := symbolFailures eventId proof config.accountId symbol active resolved
    if failures = [] then recoverSymbols eventId config proof now active symbols sequence resolved
    else do
      putEvent eventId (symbolReceipt eventId config proof now symbol failures (sequence + 1))
      recoverSymbols eventId config proof now active symbols (sequence + 1)
        (resolved ++ failures.map eventId)

/-- What a cohort recovery is given: its clock, and the inventory's answer. -/
structure CohortInputs where
  now : Int
  clock : Int
  inventoryObjected : Bool
deriving DecidableEq, Repr

/-- mirrors health.py:386-466 -/
def recoverHealthMany (eventId : EventId) (proof : Authority) (i : CohortInputs)
    (symbols : List String) : HealthTxn PUnit := do
  let s ← get
  let events := s.payloads.insertionSort fun a b => a.sequence ≤ b.sequence
  let resolved := recoveredIds events
  let active := events.filter fun h => decide (h.state ≠ .ready ∧ eventId h ∉ resolved)
  let now := if s.config.clockProfile = .paperTime then max i.now i.clock else i.now
  if symbols = [] ∨ i.inventoryObjected ∨ s.killSwitch then pure ⟨⟩
  else recoverSymbols eventId s.config proof now active symbols.eraseDups s.lastSequence resolved

/-- mirrors health.py:281-284 -/
def recoverHealth (eventId : EventId) (proof : Authority) (i : CohortInputs)
    (symbol : Option String) : HealthTxn PUnit := do
  let s ← get
  recoverHealthMany eventId proof i [orDefault symbol s.symbol]

/-! ## Recovery of the inventory -/

/-- The objections an inventory recovery may clear.
mirrors health.py:306-314 -/
def inventoryErrors : List String :=
  ["INVENTORY_ACQUISITION_RETRYABLE", "INVENTORY_ACQUISITION_UNSTABLE",
    "INVENTORY_PROTOCOL_INVALID", "OWNED_FILL_ACTIVITY_PENDING",
    "RECONCILIATION_AUTHORITY_CHANGED"]

/-- The time evidence of an inventory recovery, and what is answered about it: before the
transaction, and within it against the retained copy and the inventory. -/
structure InventoryInputs where
  now : Int
  clock : Int
  timingId : String
  timingRelease : String
  timingLane : EvidenceLane
  sampleAccounts : List String
  objectedBefore : Bool
  retained : Bool
  objectedWithin : Bool
  inventoryObjected : Bool
deriving DecidableEq, Repr

/-- The gates before the transaction.
mirrors health.py:294-305 -/
def InventoryGate (s : HealthStore) (i : InventoryInputs) : Prop :=
  s.runtimeRole = some "guardian" ∧ s.config.evidenceLane = .brokerPaper ∧
    s.config.clockProfile = .paperTime ∧ s.runtimeTimeEvidenceId = some i.timingId ∧
    i.timingRelease = s.config.releaseId ∧ i.timingLane = s.config.evidenceLane ∧
    i.sampleAccounts.length = 2 ∧ (∀ a ∈ i.sampleAccounts, a = s.config.accountId) ∧
    i.objectedBefore = false
deriving Decidable

/-- The gates within it.
mirrors health.py:323-343 -/
def InventoryClear (s : HealthStore) (proof : Authority) (i : InventoryInputs)
    (active : List Event) : Prop :=
  i.retained = true ∧ i.objectedWithin = false ∧
    (0 ≤ max i.now i.clock - proof.recordedAt ∧
      max i.now i.clock - proof.recordedAt ≤ 120 * 1000000) ∧
    i.inventoryObjected = false ∧ s.killSwitch = false ∧
    (∀ h ∈ active, ¬ (h.scope ≠ .learning ∧ h.state.Quarantine)) ∧ s.evidenceConflict = false
deriving Decidable

/-- mirrors health.py:344-363 -/
def InventoryFailure (s : HealthStore) (proof : Authority) (h : Event) : Prop :=
  (h.role = .guardian ∨ h.role = .trader) ∧
    (h.state = .retryableFailure ∨ h.state = .protocolFailure) ∧ h.protectionBlocked = false ∧
    h.objections ≠ [] ∧ (∀ o ∈ h.objections, o ∈ inventoryErrors) ∧
    h.failedGeneration < proof.generation ∧ proof.proofId ∉ h.evidenceIds ∧
    InScope s.config.accountId s.symbol h
deriving Decidable

/-- The receipt of an inventory recovery. -/
def inventoryReceipt (eventId : EventId) (s : HealthStore) (proof : Authority)
    (i : InventoryInputs) (failures : List Event) : Event where
  recordedAt := max i.now i.clock
  releaseId := s.config.releaseId
  evidenceLane := s.config.evidenceLane
  role := .guardian
  scope := .account
  scopeId := s.config.accountId
  state := .ready
  objections := []
  firstBlocker := none
  firstSeen := max i.now i.clock
  lastSeen := max i.now i.clock
  lastUsefulProgress := some (max i.now i.clock)
  newProofId := some proof.proofId
  evidenceIds := [proof.proofId, i.timingId]
  recoveredFrom := failures.map eventId

/-- The receipt, where there is a failure to recover. -/
def recordRecovered (eventId : EventId) (s : HealthStore) (proof : Authority)
    (i : InventoryInputs) (failures : List Event) : HealthTxn PUnit :=
  if failures = [] then pure ⟨⟩
  else do
    let _ ← recordHealth eventId (inventoryReceipt eventId s proof i failures)
    pure ⟨⟩

/-- mirrors health.py:287-383 -/
def recoverInventoryHealth (eventId : EventId) (proof : Authority) (i : InventoryInputs) :
    HealthTxn PUnit := do
  let s ← get
  if InventoryGate s i then do
    let active ← activeHealth eventId
    if InventoryClear s proof i active then
      recordRecovered eventId s proof i
        (active.filter fun h => decide (InventoryFailure s proof h))
    else pure ⟨⟩
  else pure ⟨⟩

/-! ## Resolution of one quarantine -/

/-- An approval and the evidence it names; `refusal` is the first of the checks of that
evidence that fails. -/
structure Approval where
  healthId : String
  failedProofId : String
  proofId : String
  receiptId : String
  proof : Authority
  refusal : Option String
  now : Int
deriving DecidableEq, Repr

/-- The exact quarantine an approval resolves.
mirrors health.py:527-537 -/
def ExactQuarantine (eventId : EventId) (a : Approval) (active : List Event) (target : Event) :
    Prop :=
  eventId target ∈ active.map eventId ∧ target.role = .guardian ∧ target.scope = .symbol ∧
    target.state = .integrityFailure ∧ target.protectionBlocked = true ∧
    target.objections = ["INVENTORY_OWNERSHIP_CONTRADICTION"] ∧
    target.evidenceIds = [a.failedProofId]
deriving Decidable

/-- mirrors health.py:816-846 -/
def resolutionReceipt (eventId : EventId) (s : HealthStore) (a : Approval) (target : Event) :
    Event where
  recordedAt := a.now
  releaseId := s.config.releaseId
  evidenceLane := s.config.evidenceLane
  role := .guardian
  scope := .symbol
  scopeId := target.scopeId
  state := .ready
  objections := []
  firstBlocker := none
  firstSeen := a.now
  lastSeen := a.now
  lastUsefulProgress := some a.now
  newProofId := some a.proof.proofId
  recoveredFrom := [eventId target]
  evidenceIds := [a.receiptId, a.failedProofId, a.proof.proofId]
  sequence := s.lastSequence + 1

/-- mirrors health.py:469-849 -/
def resolveDelayedOwnedBuy (eventId : EventId) (a : Approval) : HealthTxn PUnit := do
  let s ← get
  match s.events.get? a.healthId with
  | none => throw (.recovery "EVIDENCE_MISSING")
  | some row => do
    require (eventId row.payload = a.healthId) (.recovery "EVIDENCE_ID_MISMATCH")
    let active ← activeHealth eventId
    require (ExactQuarantine eventId a active row.payload) (.recovery "EXACT_QUARANTINE_REQUIRED")
    require (s.certification = some (a.proof.generation, a.proofId))
      (.recovery "LATEST_CERTIFIED_PROOF_REQUIRED")
    require (a.proof.proofId = a.proofId) (.recovery "EVIDENCE_ID_MISMATCH")
    require (row.payload.failedGeneration < a.proof.generation)
      (.recovery "FRESH_LEDGER_PROOF_REQUIRED")
    require (∀ h ∈ active, ¬ (eventId h ≠ a.healthId ∧ h.state.Quarantine ∧
        InScope s.config.accountId row.payload.scopeId h)) (.recovery "OTHER_QUARANTINE_OR_PAUSE")
    require (s.evidenceConflict = false) (.recovery "DISPUTED_SOURCE_EVIDENCE")
    require (a.refusal = none) (.recovery (a.refusal.getD ""))
    putEvent eventId (resolutionReceipt eventId s a row.payload)

/-! ## What a transaction adds -/

section Adds

variable {eventId : EventId} {P : Event → Prop}

/-- Sequence numbers ascend in storage order. -/
def Ascending (s : HealthStore) : Prop :=
  s.events.rows.Pairwise fun a b => a.payload.sequence < b.payload.sequence

/-- Rows are only appended, under the ids of their contents, and recover only what `P`
allows; ascending sequence numbers stay ascending. -/
structure Grown (eventId : EventId) (P : Event → Prop) (s s' : HealthStore) : Prop where
  rows : ∃ news, s'.events.rows = s.events.rows ++ news ∧ ∀ n ∈ news,
    n.id = eventId n.payload ∧ ∀ id ∈ n.payload.recoveredFrom, ∃ h, P h ∧ id = eventId h
  ascending : Ascending s → Ascending s'

instance : IsPreorder HealthStore (Grown eventId P) where
  refl s := ⟨⟨[], (List.append_nil _).symm, fun n hn => by cases hn⟩, id⟩
  trans a b c h h' := by
    obtain ⟨news, hrows, hnews⟩ := h.rows
    obtain ⟨news', hrows', hnews'⟩ := h'.rows
    refine ⟨⟨news ++ news', ?_, fun n hn => ?_⟩, fun hasc => h'.ascending (h.ascending hasc)⟩
    · rw [hrows', hrows, List.append_assoc]
    rcases List.mem_append.1 hn with hn | hn
    · exact hnews n hn
    · exact hnews' n hn

variable {s s' : HealthStore}

theorem Grown.mono {Q : Event → Prop} (h : Grown eventId P s s') (hPQ : ∀ e, P e → Q e) :
    Grown eventId Q s s' := by
  obtain ⟨news, hrows, hnews⟩ := h.rows
  refine ⟨⟨news, hrows, fun n hn => ⟨(hnews n hn).1, fun id hid => ?_⟩⟩, h.ascending⟩
  obtain ⟨e, he, hide⟩ := (hnews n hn).2 id hid; exact ⟨e, hPQ e he, hide⟩

theorem sequence_le_last {r : EventRow} (hr : r ∈ s.events.rows) :
    r.payload.sequence ≤ s.lastSequence := by
  have hmem : r.payload.sequence ∈ s.payloads.map (·.sequence) :=
    List.mem_map_of_mem (List.mem_map_of_mem hr)
  obtain ⟨m, hm⟩ := Option.isSome_iff_exists.1 (List.isSome_max?_of_mem hmem)
  unfold HealthStore.lastSequence; rw [hm]
  exact (List.max?_eq_some_iff.1 hm).2 _ hmem

variable {event : Event}

theorem putEvent_ok {u : PUnit} (h : putEvent eventId event s = .ok u s')
    (hlast : ∀ r ∈ s.events.rows, r.payload.sequence < event.sequence) :
    s'.events.rows = s.events.rows ++ [⟨eventId event, event⟩] := by
  unfold putEvent at h; split at h
  · next existing hget =>
    split at h
    · next heq =>
      obtain ⟨hmem, _⟩ := Table.get?_some hget; have := hlast existing hmem
      rw [heq] at this; omega
    · cases h
  · next hnone =>
    cases h; exact Table.insert_rows hnone

theorem putEvent_grown {u : PUnit} (h : putEvent eventId event s = .ok u s')
    (hlast : ∀ r ∈ s.events.rows, r.payload.sequence < event.sequence)
    (hP : ∀ id ∈ event.recoveredFrom, ∃ e, P e ∧ id = eventId e) : Grown eventId P s s' := by
  have hrows := putEvent_ok h hlast
  refine ⟨⟨_, hrows, fun n hn => ?_⟩, fun hasc => ?_⟩
  · rw [List.mem_singleton.1 hn]; exact ⟨rfl, hP⟩
  · unfold Ascending; rw [hrows, List.pairwise_append]
    refine ⟨hasc, List.pairwise_singleton _ _, fun a ha b hb => ?_⟩
    rw [List.mem_singleton.1 hb]; exact hlast a ha

theorem recordHealth_grown {id : String} (h : recordHealth eventId event s = .ok id s')
    (hP : ∀ id ∈ event.recoveredFrom, ∃ e, P e ∧ id = eventId e) : Grown eventId P s s' := by
  unfold recordHealth at h; rw [bind_ok] at h; obtain ⟨_, _, hget, h⟩ := h
  obtain ⟨rfl, rfl⟩ := get_ok.1 hget; rw [bind_ok] at h
  obtain ⟨_, s₁, hput, h⟩ := h; obtain ⟨_, rfl⟩ := pure_ok.1 h
  exact putEvent_grown hput (fun r hr => Nat.lt_succ_of_le (sequence_le_last hr)) hP

theorem activeHealth_ok {active : List Event} (h : activeHealth eventId s = .ok active s') :
    s' = s ∧ ∀ e ∈ active, ⟨eventId e, e⟩ ∈ s.events.rows := by
  unfold activeHealth at h; rw [bind_ok] at h; obtain ⟨_, _, hget, h⟩ := h
  obtain ⟨rfl, rfl⟩ := get_ok.1 hget; rw [bind_ok] at h
  obtain ⟨_, _, hrequire, h⟩ := h; obtain ⟨hids, rfl⟩ := require_ok.1 hrequire
  obtain ⟨rfl, rfl⟩ := pure_ok.1 h; refine ⟨rfl, fun e he => ?_⟩
  have hmem := (List.mem_insertionSort _).1 (List.mem_filter.1 he).1
  obtain ⟨r, hr, rfl⟩ := List.mem_map.1 hmem
  have hrow := (List.mem_filter.1 hr).1; rw [hids r hrow]; exact hrow

end Adds

end Quantbot.L4.Health
