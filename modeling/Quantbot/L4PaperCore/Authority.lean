import Mathlib.Algebra.Order.Ring.Rat
import Quantbot.Core.VersionChain
import Quantbot.L4PaperCore.Learning

/-!
# Runtime authority

`paper_core/authority.py`: the commission of a core, the chain of its runtime events (entry
fences and their lifting) and the chain of executable bindings with the pointer at the one in
force. Every operation is one `BEGIN IMMEDIATE` transaction that reads what it checks.

What other modules answer is given with each call: the executable's verification, the active
model, unresolved and settled entries, receipts, proofs, time evidence and health. Documents
other than bindings share the bindings' table.
-/
namespace Quantbot.L4.Authority

open Core Txn Learning

/-! ## Documents -/

inductive ActivationPolicy | reviewEachCandidate | dailyBoundedV2 | dailyBoundedV3
deriving DecidableEq, Repr

/-- mirrors authority.py:22-44 -/
@[ext] structure RuntimeCommission where
  releaseId : String
  configId : String
  storeIdentity : String
  storePath : String
  accountId : String
  endpoint : String
  owner : String
  generation : Nat
  approvedAt : Int
  approvalReference : String
  initialModelId : String
  activationPolicy : ActivationPolicy
  legacyOwners : List (String × String)
  baselineSourceIds : List String
  canonicalMetadataId : String
  generated : 1 ≤ generation
  referenced : approvalReference ≠ ""
  sourced : baselineSourceIds ≠ []

instance : DecidableEq RuntimeCommission := fun _ _ =>
  decidable_of_iff _ RuntimeCommission.ext_iff.symm

inductive RuntimeAction | commission | fenceEntry | resumeEntry
deriving DecidableEq, Repr

structure EventFields where
  commissionId : String
  sequence : Nat
  recordedAt : Int
  action : RuntimeAction
  evidenceIds : List String
  reason : String
deriving DecidableEq

/-- mirrors authority.py:47-57 -/
structure RuntimeEvent extends EventFields where
  numbered : 1 ≤ sequence
  evidenced : evidenceIds ≠ []
  reasoned : reason ≠ ""
deriving DecidableEq

/-- An entry policy by its id, and whether it trades crypto. -/
structure EntryPolicy where
  id : String
  crypto : Bool
deriving DecidableEq

/-- `document` is every other field.
mirrors release.py:28-53 -/
structure RuntimeConfig where
  storeIdentity : String
  entryPolicy : Option EntryPolicy
  requestControl : Option String
  initialModelId : String
  holdoutSource : String
  canonicalDatasets : List String
  activationPolicy : ActivationPolicy
  document : String := ""
deriving DecidableEq

/-- mirrors release.py:126-138 -/
structure PreparedRelease where
  config : RuntimeConfig
  schemaVersion : Int
  executable : String
deriving DecidableEq

inductive BindingKind | codeOnly | entryPolicy
deriving DecidableEq, Repr

structure BindingFields where
  kind : BindingKind
  commissionId : String
  sequence : Nat
  previousId : Option String
  release : PreparedRelease
  approvedAt : Int
  approvalReference : String
  fenceId : Option String
  activationId : String
  evidenceIds : List String
deriving DecidableEq

/-- mirrors authority.py:85-101 -/
structure ExecutableBinding extends BindingFields where
  numbered : 1 ≤ sequence
  referenced : approvalReference ≠ ""
  evidenced : evidenceIds ≠ []
deriving DecidableEq

/-- The keys an approval may hold; `entryPolicyId` tells an absent key from a null. -/
structure Approval where
  commissionId : Option String := none
  expectedBindingId : Option String := none
  expectedFenceId : Option String := none
  expectedActivationId : Option String := none
  oldReleaseId : Option String := none
  newReleaseId : Option String := none
  runtimeReleaseId : Option String := none
  entryPolicyId : Option (Option String) := none
  migrationEvidenceId : Option String := none
  approvalReference : Option String := none
  oldWriterFenceEvidenceIds : List String := []
  guardianReceiptId : Option String := none
  guardianHeartbeatId : Option String := none
  proofId : Option String := none
  timeEvidenceId : Option String := none
  approvedAt : Option Int := none
deriving DecidableEq

/-- Evidence of an additive migration (handover.py:103-121). -/
structure Migration where
  kind : String
  fromSchema : Int
  toSchema : Int
  storeIdentity : String
  oldBindingId : String
  newReleaseId : String
  fenceId : String
  recordedAt : Int
deriving DecidableEq

inductive HistoryDocument
  | binding (binding : ExecutableBinding)
  | approval (approval : Approval)
  | migration (migration : Migration)
  | other (document : String)
deriving DecidableEq

structure CanonicalMetadata where
  sourcePath : Option String
  canonicalDatasets : List String
  document : String := ""
deriving DecidableEq

/-- The broker state a commission starts from. -/
structure Baseline where
  source : Option String
  sourceIds : List String
  accountId : String
  positions : List (String × ℚ)
  fencedWriterEvidenceIds : List String
  unknownOrders : Option (List String)
  providerAcquisition : Option String
  provider : Option String
  endpoint : Option String
  capturedAt : Option Int
  canonicalMetadata : Option CanonicalMetadata
deriving DecidableEq

/-- The contents an id is taken of. -/
inductive Content
  | commission (commission : RuntimeCommission)
  | event (event : RuntimeEvent)
  | release (release : PreparedRelease)
  | document (document : HistoryDocument)
  | baseline (baseline : Baseline)
  | canonical (metadata : CanonicalMetadata)
  | acquisition (acquisition : String)
deriving DecidableEq

abbrev ContentId := Content → String

structure AuthorityStore where
  commissions : Documents RuntimeCommission := .empty
  baselines : Documents Baseline := .empty
  events : Documents RuntimeEvent := .empty
  history : Documents HistoryDocument := .empty
  /-- The one row of `core_runtime_current`. -/
  current : Option String := none
deriving DecidableEq

/-- A `StateConflictError` with its text, a value that fails its model, or a constraint. -/
inductive AuthorityError
  | conflict (text : String)
  | validation
  | integrity
deriving DecidableEq, Repr

abbrev AuthorityTxn := Txn AuthorityStore AuthorityError

/-- What the process that opened the store knows of it: its configuration and its executable. -/
structure CoreHandle where
  configId : String
  releaseId : String
  accountId : String
  owner : String
  generation : Nat
  brokerPaper : Bool
  signalOrExplore : Bool
  storeIdentity : String
  storePath : String
  runtimeReleaseId : String
  entryPolicy : Option EntryPolicy
  exitBufferSeconds : ℚ
deriving DecidableEq

/-! ## Checks and writes -/

def refuseUnless (c : Prop) [Decidable c] (e : AuthorityError) : Except AuthorityError PUnit :=
  if c then .ok ⟨⟩ else .error e

@[simp] theorem refuseUnless_ok {c : Prop} [Decidable c] {e : AuthorityError} {u : PUnit} :
    refuseUnless c e = .ok u ↔ c := by
  unfold refuseUnless; split <;> simp_all

/-- What a reader answers, or refuses with. -/
def consult {α : Type} (f : AuthorityStore → Except AuthorityError α) : AuthorityTxn α := fun s =>
  match f s with
  | .ok a => .ok a s
  | .error e => .error e s

@[simp] theorem consult_ok {α : Type} {f : AuthorityStore → Except AuthorityError α}
    {s s' : AuthorityStore} {a : α} : consult f s = .ok a s' ↔ f s = .ok a ∧ s' = s := by
  unfold consult; cases f s <;> simp [eq_comm]

def EventFields.validate (f : EventFields) : Except AuthorityError RuntimeEvent :=
  if h : 1 ≤ f.sequence ∧ f.evidenceIds ≠ [] ∧ f.reason ≠ "" then
    .ok ⟨f, h.1, h.2.1, h.2.2⟩
  else .error .validation

theorem EventFields.validate_ok {f : EventFields} {e : RuntimeEvent} (h : f.validate = .ok e) :
    e.toEventFields = f := by
  unfold EventFields.validate at h; split at h
  · cases h; rfl
  · cases h

def BindingFields.validate (f : BindingFields) : Except AuthorityError ExecutableBinding :=
  if h : 1 ≤ f.sequence ∧ f.approvalReference ≠ "" ∧ f.evidenceIds ≠ [] then
    .ok ⟨f, h.1, h.2.1, h.2.2⟩
  else .error .validation

theorem BindingFields.validate_ok {f : BindingFields} {b : ExecutableBinding}
    (h : f.validate = .ok b) : b.toBindingFields = f := by
  unfold BindingFields.validate at h; split at h
  · cases h; rfl
  · cases h

variable (contentId : ContentId)

def RuntimeCommission.id (c : RuntimeCommission) : String := contentId (.commission c)
def RuntimeEvent.id (e : RuntimeEvent) : String := contentId (.event e)
def PreparedRelease.id (r : PreparedRelease) : String := contentId (.release r)
def HistoryDocument.id (d : HistoryDocument) : String := contentId (.document d)
def ExecutableBinding.id (b : ExecutableBinding) : String := contentId (.document (.binding b))

def immutable (name identity : String) : AuthorityError :=
  .conflict ("conflicting immutable " ++ name ++ " " ++ identity)

def putCommission (c : RuntimeCommission) : AuthorityTxn PUnit := fun s =>
  match putIn s.commissions (c.id contentId) c with
  | some commissions => .ok ⟨⟩ { s with commissions := commissions }
  | none => .error (immutable "core_runtime_commissions" (c.id contentId)) s

def putBaseline (b : Baseline) : AuthorityTxn PUnit := fun s =>
  match putIn s.baselines (contentId (.baseline b)) b with
  | some baselines => .ok ⟨⟩ { s with baselines := baselines }
  | none => .error (immutable "core_fixture_baselines" (contentId (.baseline b))) s

def putEvent (e : RuntimeEvent) : AuthorityTxn PUnit := fun s =>
  match putIn s.events (e.id contentId) e with
  | some events => .ok ⟨⟩ { s with events := events }
  | none => .error (immutable "core_runtime_events" (e.id contentId)) s

def putHistory (d : HistoryDocument) : AuthorityTxn PUnit := fun s =>
  match putIn s.history (d.id contentId) d with
  | some history => .ok ⟨⟩ { s with history := history }
  | none => .error (immutable "core_runtime_config_history" (d.id contentId)) s

/-- `UPDATE .. WHERE document_id = prior`, which has to find one row. -/
def movePointer (prior next text : String) : AuthorityTxn PUnit := fun s =>
  if s.current = some prior then .ok ⟨⟩ { s with current := some next }
  else .error (.conflict text) s

/-! ## What is in force -/

/-- mirrors authority.py:104-109 -/
def executableInSession (s : AuthorityStore) : Except AuthorityError (Option ExecutableBinding) :=
  match s.current.bind s.history.get? with
  | none => .ok none
  | some row =>
    match row.payload with
    | .binding b => .ok (some b)
    | _ => .error .validation

def AuthorityStore.runtimeEvents (s : AuthorityStore) : List RuntimeEvent :=
  s.events.rows.map (·.payload)

/-- mirrors authority.py:112-119 -/
def currentRuntimeEvent (s : AuthorityStore) : Except AuthorityError RuntimeEvent :=
  if (s.runtimeEvents.map (·.sequence)).Nodup then
    match latest (·.sequence) s.runtimeEvents with
    | some e => .ok e
    | none => .error (.conflict "CORE_RUNTIME_EVENT_INVALID")
  else .error (.conflict "CORE_RUNTIME_EVENT_INVALID")

/-- The commission is that of the store a process opened. -/
def CoreHandle.Commissioned (h : CoreHandle) (c : RuntimeCommission) : Prop :=
  (c.activationPolicy = .reviewEachCandidate ∨
    c.activationPolicy = if h.signalOrExplore then .dailyBoundedV3 else .dailyBoundedV2) ∧
  c.configId = h.configId ∧ c.releaseId = h.releaseId ∧ c.accountId = h.accountId ∧
  c.owner = h.owner ∧ c.generation = h.generation ∧ c.storeIdentity = h.storeIdentity ∧
  c.storePath = h.storePath
deriving Decidable

/-- The executable in force is the one that runs. -/
def CoreHandle.Runs (h : CoreHandle) (c : RuntimeCommission) : Option ExecutableBinding → Prop
  | none => h.runtimeReleaseId = c.releaseId
  | some b => b.commissionId = c.id contentId ∧ b.release.id contentId = h.runtimeReleaseId

instance (h : CoreHandle) (c : RuntimeCommission) (b : Option ExecutableBinding) :
    Decidable (h.Runs contentId c b) := by
  cases b <;> unfold CoreHandle.Runs <;> infer_instance

/-- mirrors authority.py:122-153 -/
def commissionInSession (h : CoreHandle) (s : AuthorityStore) :
    Except AuthorityError RuntimeCommission :=
  match s.commissions.rows with
  | [row] => do
    let executable ← executableInSession s
    refuseUnless (h.Commissioned row.payload ∧ row.payload.id contentId = row.id ∧
      h.Runs contentId row.payload executable) (.conflict "CORE_RUNTIME_BINDING_MISMATCH")
    pure row.payload
  | _ => .error (.conflict "CORE_RUNTIME_UNCOMMISSIONED")

/-- mirrors authority.py:156-167 -/
def runtimeObjections (h : CoreHandle) (s : AuthorityStore) (entry : Bool) :
    Except AuthorityError (List String) :=
  match commissionInSession contentId h s with
  | .error (.conflict text) => .ok [text]
  | .error e => .error e
  | .ok commission =>
    match currentRuntimeEvent s with
    | .error (.conflict _) => .ok ["CORE_RUNTIME_EVENT_INVALID"]
    | .error e => .error e
    | .ok current =>
      if current.commissionId ≠ commission.id contentId then .ok ["CORE_RUNTIME_EVENT_INVALID"]
      else if entry ∧ current.action = .fenceEntry then .ok ["CORE_ENTRY_FENCED"]
      else .ok []

/-! ## Commission and fence -/

/-- What `commission_runtime` is given besides its documents: whether the executable verifies,
whether the store's configuration is the release's, what the import of the canonical metadata
and the initialization of the model answer, and the clock. -/
structure CommissionReading where
  verified : Bool
  derived : Bool
  imported : Except AuthorityError PUnit
  initialized : Except AuthorityError String
  now : Int

/-- The baseline is the fresh one the commission was approved on.
mirrors authority.py:187-236 -/
def admissible (h : CoreHandle) (release : PreparedRelease) (c : RuntimeCommission)
    (b : Baseline) (r : CommissionReading) : Except AuthorityError PUnit := do
  refuseUnless (release.id contentId = c.releaseId ∧ c.configId = h.configId ∧
    release.config.storeIdentity = h.storeIdentity ∧
    release.config.activationPolicy = c.activationPolicy ∧
    release.config.initialModelId = c.initialModelId ∧
    b.source = some "BROKER_PAPER_APPROVED_INITIAL_STATE" ∧ b.sourceIds = c.baselineSourceIds)
    (.conflict "COMMISSION_RELEASE_OR_BASELINE_MISMATCH")
  refuseUnless r.derived (.conflict "COMMISSION_DERIVED_CONFIG_MISMATCH")
  refuseUnless (b.fencedWriterEvidenceIds ≠ [] ∧ b.unknownOrders = some [] ∧
    (b.providerAcquisition.map fun a => contentId (.acquisition a)) = c.baselineSourceIds.head? ∧
    0 ≤ r.now - c.approvedAt ∧ r.now - c.approvedAt ≤ 120 * second)
    (.conflict "COMMISSION_FRESH_ACQUISITION_OR_ENTRY_FENCE_MISSING")
  refuseUnless (b.accountId = c.accountId ∧ b.provider = some "alpaca" ∧
    b.endpoint = some c.endpoint ∧
    (∃ t ∈ b.capturedAt, 0 ≤ c.approvedAt - t ∧ c.approvedAt - t ≤ 5 * second) ∧
    (∀ o ∈ c.legacyOwners, ∃ p ∈ b.positions, p.2 ≠ 0 ∧ p.1 = o.1) ∧
    (∀ p ∈ b.positions, p.2 ≠ 0 → ∃ o ∈ c.legacyOwners, o.1 = p.1) ∧
    ∀ o ∈ c.legacyOwners, o.2 ≠ "")
    (.conflict "COMMISSION_FRESH_BASELINE_OR_OWNER_MAP_MISSING")
  refuseUnless (∃ m ∈ b.canonicalMetadata, contentId (.canonical m) = c.canonicalMetadataId ∧
    m.sourcePath = some release.config.holdoutSource ∧
    m.canonicalDatasets = release.config.canonicalDatasets)
    (.conflict "COMMISSION_CANONICAL_METADATA_MISSING")

/-- mirrors authority.py:241-254 -/
def repeatCommission (h : CoreHandle) (c : RuntimeCommission) (b : Baseline)
    (r : CommissionReading) (prior : Stored RuntimeCommission) : AuthorityTxn String := do
  let stored ← consult (commissionInSession contentId h)
  require (prior.id = c.id contentId ∧ stored = c) (.conflict "COMMISSION_ALREADY_EXISTS")
  let s ← get
  match s.baselines.rows with
  | [row] => do
    require (row.payload = b) (.conflict "COMMISSION_BASELINE_MISMATCH")
    let _ ← consult fun _ => r.initialized
    pure (c.id contentId)
  | _ => throw .integrity

/-- mirrors authority.py:255-286 -/
def firstCommission (h : CoreHandle) (release : PreparedRelease) (c : RuntimeCommission)
    (b : Baseline) (r : CommissionReading) : AuthorityTxn String := do
  putCommission contentId c
  let _ ← consult (commissionInSession contentId h)
  let s ← get
  require (s.baselines.rows = []) (.conflict "COMMISSION_BASELINE_ALREADY_EXISTS")
  putBaseline contentId b
  consult fun _ => r.imported
  let event ← consult fun _ => EventFields.validate
    { commissionId := c.id contentId
      sequence := 1
      recordedAt := c.approvedAt
      action := .commission
      evidenceIds := c.baselineSourceIds
      reason := c.approvalReference }
  putEvent contentId event
  let initial ← consult fun _ => r.initialized
  let binding ← consult fun _ => BindingFields.validate
    { kind := .codeOnly
      commissionId := c.id contentId
      sequence := 1
      previousId := none
      release := release
      approvedAt := c.approvedAt
      approvalReference := c.approvalReference
      fenceId := none
      activationId := initial
      evidenceIds := c.baselineSourceIds }
  putHistory contentId (.binding binding)
  let s ← get
  require (s.current = none) .integrity
  set { s with current := some (binding.id contentId) }
  pure (c.id contentId)

/-- mirrors authority.py:170-287 -/
def commissionRuntime (h : CoreHandle) (release : PreparedRelease) (c : RuntimeCommission)
    (b : Baseline) (r : CommissionReading) : AuthorityTxn String := do
  require h.brokerPaper (.conflict "OPERATIONAL_COMMISSION_REQUIRES_BROKER_PAPER")
  require r.verified (.conflict "COMMISSION_EXECUTABLE_IDENTITY_UNVERIFIED")
  consult fun _ => admissible contentId h release c b r
  let s ← get
  match s.commissions.rows with
  | [] => firstCommission contentId h release c b r
  | [prior] => repeatCommission contentId h c b r prior
  | _ => throw .integrity

/-- `max(e.sequence for e in events) + 1`. -/
def nextSequence (s : AuthorityStore) : Except AuthorityError Nat :=
  match latest (·.sequence) s.runtimeEvents with
  | some e => .ok (e.sequence + 1)
  | none => .error .validation

def fenceEvent (h : CoreHandle) (reason : String) (evidenceIds : List String) (now : Int)
    (s : AuthorityStore) : Except AuthorityError RuntimeEvent := do
  let commission ← commissionInSession contentId h s
  let sequence ← nextSequence s
  EventFields.validate
    { commissionId := commission.id contentId
      sequence := sequence
      recordedAt := now
      action := .fenceEntry
      evidenceIds := evidenceIds
      reason := reason }

/-- mirrors authority.py:380-397 -/
def fenceEntries (h : CoreHandle) (reason : String) (evidenceIds : List String) (now : Int) :
    AuthorityTxn String := do
  let event ← consult (fenceEvent contentId h reason evidenceIds now)
  putEvent contentId event
  pure (event.id contentId)

/-! ## Transitions of the executable -/

/-- An approval is good for two minutes. -/
def approvedAt (a : Approval) (now : Int) (text : String) : Except AuthorityError Int :=
  match a.approvedAt with
  | none => .error .validation
  | some t => do
    refuseUnless (0 ≤ now - t ∧ now - t ≤ 120 * second) (.conflict text)
    pure t

/-- What both transitions compare of an approval. -/
def Approval.Names (a : Approval) (c : RuntimeCommission) (prior : ExecutableBinding)
    (successor : PreparedRelease) (event : RuntimeEvent) (activation : String) : Prop :=
  a.expectedBindingId = some (prior.id contentId) ∧
  a.oldReleaseId = some (prior.release.id contentId) ∧
  a.newReleaseId = some (successor.id contentId) ∧
  a.commissionId = some (c.id contentId) ∧
  a.expectedFenceId = some (event.id contentId) ∧ event.action = .fenceEntry ∧
  a.expectedActivationId = some activation ∧
  a.approvalReference.getD "" ≠ "" ∧ a.oldWriterFenceEvidenceIds ≠ []
deriving Decidable

/-- The executable's verification, the active model and the clock. -/
structure TransitionReading where
  verified : Bool
  selection : Except AuthorityError (Option String)
  now : Int

/-- The binding behind `prior`, made under the fence `event`. -/
def successorOf (kind : BindingKind) (c : RuntimeCommission) (prior : ExecutableBinding)
    (successor : PreparedRelease) (event : RuntimeEvent) (a : Approval) (approvedAt : Int)
    (activation : String) (evidenceIds : List String) : BindingFields where
  kind := kind
  commissionId := c.id contentId
  sequence := prior.sequence + 1
  previousId := some (prior.id contentId)
  release := successor
  approvedAt := approvedAt
  approvalReference := a.approvalReference.getD ""
  fenceId := some (event.id contentId)
  activationId := activation
  evidenceIds := evidenceIds

/-- mirrors authority.py:408-446 -/
def codeOnlyBinding (h : CoreHandle) (successor : PreparedRelease) (a : Approval)
    (r : TransitionReading) (s : AuthorityStore) :
    Except AuthorityError (ExecutableBinding × ExecutableBinding) := do
  let commission ← commissionInSession contentId h s
  let prior ← executableInSession s
  let event ← currentRuntimeEvent s
  let selection ← r.selection
  match prior, selection with
  | some prior, some activation => do
    refuseUnless (a.Names contentId commission prior successor event activation ∧
      prior.release.schemaVersion = successor.schemaVersion ∧
      prior.release.config = successor.config ∧
      prior.release.id contentId ≠ successor.id contentId)
      (.conflict "TRANSITION_EXACT_CODE_ONLY_APPROVAL_REQUIRED")
    let approved ← approvedAt a r.now "TRANSITION_EXACT_CODE_ONLY_APPROVAL_REQUIRED"
    let binding ← (successorOf contentId .codeOnly commission prior successor event a approved
      activation a.oldWriterFenceEvidenceIds).validate
    pure (prior, binding)
  | _, _ => .error (.conflict "TRANSITION_PROTOCOL_NOT_COMMISSIONED")

/-- mirrors authority.py:400-455 -/
def transitionRelease (h : CoreHandle) (successor : PreparedRelease) (a : Approval)
    (r : TransitionReading) : AuthorityTxn String := do
  require r.verified (.conflict "TRANSITION_EXECUTABLE_UNVERIFIED")
  let (prior, binding) ← consult (codeOnlyBinding contentId h successor a r)
  putHistory contentId (.binding binding)
  movePointer (prior.id contentId) (binding.id contentId) "TRANSITION_STALE_BINDING"
  pure (binding.id contentId)

/-- mirrors handover.py:127-160 -/
def compatibleSchemaTransition (h : CoreHandle) (s : AuthorityStore) (prior : ExecutableBinding)
    (successor : PreparedRelease) (a : Approval) (now : Int) : Bool :=
  prior.release.schemaVersion = successor.schemaVersion ||
    match a.migrationEvidenceId.bind s.history.get? with
    | none => false
    | some row =>
      match row.payload with
      | .migration m =>
        (HistoryDocument.migration m).id contentId = row.id &&
        m.kind = "ENTRY_POLICY_ADDITIVE_MIGRATION_V1" && m.fromSchema = 36 && m.toSchema = 37 &&
        prior.release.schemaVersion = 36 && successor.schemaVersion = 37 &&
        m.storeIdentity = h.storeIdentity && m.oldBindingId = prior.id contentId &&
        m.newReleaseId = successor.id contentId && some m.fenceId = a.expectedFenceId &&
        0 ≤ now - m.recordedAt && now - m.recordedAt ≤ 120 * second
      | _ => false

/-- An entry of the core: never sent, settled without a fill, or a lot with what it holds. -/
structure EntryRow where
  unsent : Bool
  settledZero : Bool
  openQuantity : Option ℚ

/-- `unresolved` are the order intents nobody has resolved. -/
structure PolicyReading extends TransitionReading where
  unresolved : List String
  entries : List EntryRow

/-- mirrors authority.py:473-547 -/
def entryPolicyBinding (h : CoreHandle) (successor : PreparedRelease) (a : Approval)
    (r : PolicyReading) (s : AuthorityStore) :
    Except AuthorityError (ExecutableBinding × ExecutableBinding) := do
  let commission ← commissionInSession contentId h s
  let prior ← executableInSession s
  let event ← currentRuntimeEvent s
  let active ← r.selection
  match prior, active with
  | some prior, some activation => do
    let policy := successor.config.entryPolicy
    refuseUnless (a.Names contentId commission prior successor event activation ∧
      a.entryPolicyId = some (policy.map (·.id)) ∧
      compatibleSchemaTransition contentId h s prior successor a r.now ∧
      ¬ (prior.release.config.entryPolicy = policy ∧
        prior.release.config.requestControl = successor.config.requestControl ∧
        prior.release.schemaVersion = successor.schemaVersion) ∧
      { prior.release.config with
        entryPolicy := policy
        requestControl := successor.config.requestControl } = successor.config)
      (.conflict "ENTRY_POLICY_EXACT_APPROVAL_REQUIRED")
    let approved ← approvedAt a r.now "ENTRY_POLICY_EXACT_APPROVAL_REQUIRED"
    refuseUnless (r.unresolved = []) (.conflict "ENTRY_POLICY_CORE_NOT_FLAT")
    refuseUnless (∀ e ∈ r.entries, e.unsent ∨ e.settledZero ∨ e.openQuantity = some 0)
      (.conflict "ENTRY_POLICY_CORE_NOT_FLAT")
    let binding ← (successorOf contentId .entryPolicy commission prior successor event a approved
      activation (a.oldWriterFenceEvidenceIds ++
        (a.migrationEvidenceId.filter (· ≠ "")).toList)).validate
    pure (prior, binding)
  | _, _ => .error (.conflict "ENTRY_POLICY_EXACT_APPROVAL_REQUIRED")

/-- mirrors authority.py:458-560 -/
def transitionEntryPolicy (h : CoreHandle) (successor : PreparedRelease) (a : Approval)
    (r : PolicyReading) : AuthorityTxn String := do
  require r.verified (.conflict "ENTRY_POLICY_EXECUTABLE_UNVERIFIED")
  let (prior, binding) ← consult (entryPolicyBinding contentId h successor a r)
  putHistory contentId (.approval a)
  putHistory contentId (.binding binding)
  movePointer (prior.id contentId) (binding.id contentId) "ENTRY_POLICY_STALE_BINDING"
  pure (binding.id contentId)

/-! ## Resumption -/

/-- The latest heartbeat of the guardian.
mirrors authority.py:60-82 -/
structure RoleHeartbeat where
  id : String
  releaseId : String
  configId : String
  storeIdentity : String
  owner : String
  generation : Nat
  processEpoch : String
  pid : Nat
  recordedAt : Int
  validUntil : Int
  lastUsefulProgress : Option Int
  objections : List String
  evidenceIds : List String
  guardianReceiptId : Option String
deriving DecidableEq

structure GuardianReceipt where
  id : String
  recordedAt : Int
  validUntil : Int
deriving DecidableEq

structure InventoryProof where
  id : String
  recordedAt : Int
  ledgerStateId : String
deriving DecidableEq

/-- What a resumption reads of `TimeEvidence`; `session` is open and close of the last sample. -/
structure TimeProof where
  id : String
  processId : String
  objections : List String
  samples : Nat
  wallAnchor : Int
  accountId : String
  offsetLower : ℚ
  offsetUpper : ℚ
  session : ℚ × ℚ
deriving DecidableEq

/-- Everything a resumption reads outside the runtime tables. -/
structure ResumeReading where
  now : Int
  pid : Nat
  processId : String
  inProcess : Bool
  selection : Except AuthorityError (Option String)
  unresolved : List String
  receipt : Option GuardianReceipt
  heartbeat : Option RoleHeartbeat
  proof : InventoryProof
  inventoryObjections : List String
  ledgerStateId : String
  timeEvidence : String → Option TimeProof
  healthObjections : List String
  boundary : Except AuthorityError PUnit

/-- mirrors authority.py:290-325 -/
def guardianObjections (h : CoreHandle) (r : ResumeReading) (receiptId : Option String) :
    List String :=
  if r.inProcess ∧ h.brokerPaper = false then []
  else match r.heartbeat with
    | none => ["CORE_INDEPENDENT_GUARDIAN_NOT_READY"]
    | some latest =>
      if latest.pid ≠ r.pid ∧ latest.processEpoch ≠ r.processId ∧
          latest.releaseId = h.runtimeReleaseId ∧ latest.configId = h.configId ∧
          latest.storeIdentity = h.storeIdentity ∧ latest.owner = h.owner ∧
          latest.generation = h.generation ∧ latest.recordedAt ≤ r.now ∧
          r.now < latest.validUntil ∧ latest.lastUsefulProgress ≠ none ∧
          latest.objections = [] ∧ (receiptId = none ∨ latest.guardianReceiptId = receiptId) then
        []
      else ["CORE_INDEPENDENT_GUARDIAN_NOT_READY"]

/-- The time evidence is the guardian's own, fresh, and inside the session.
mirrors authority.py:623-648 -/
def TimeProof.Fresh (t : TimeProof) (h : CoreHandle) (c : RuntimeCommission)
    (heartbeat : RoleHeartbeat) (now : Int) : Prop :=
  t.id ∈ heartbeat.evidenceIds ∧ t.processId = heartbeat.processEpoch ∧ t.objections = [] ∧
  t.samples ≠ 0 ∧ 0 ≤ now - t.wallAnchor ∧ now - t.wallAnchor ≤ 30 * second ∧
  t.accountId = c.accountId ∧ t.offsetUpper - t.offsetLower ≤ 2 ∧
  (h.entryPolicy.any (·.crypto) ∨
    (now : ℚ) + t.offsetUpper * second < t.session.2 - h.exitBufferSeconds * second ∧
    t.session.1 ≤ now + t.offsetLower * second)
deriving Decidable

/-- mirrors authority.py:571-671 -/
def resumeEvent (h : CoreHandle) (a : Approval) (r : ResumeReading) (s : AuthorityStore) :
    Except AuthorityError RuntimeEvent := do
  let commission ← commissionInSession contentId h s
  let current ← currentRuntimeEvent s
  let selection ← r.selection
  refuseUnless (a.commissionId = some (commission.id contentId) ∧
    a.expectedFenceId = some (current.id contentId) ∧ current.action = .fenceEntry ∧
    a.approvalReference.getD "" ≠ "" ∧ a.runtimeReleaseId = some h.runtimeReleaseId ∧
    selection ≠ none ∧ a.expectedActivationId = selection)
    (.conflict "RESUME_EXACT_CURRENT_APPROVAL_REQUIRED")
  let _ ← approvedAt a r.now "RESUME_EXACT_CURRENT_APPROVAL_REQUIRED"
  refuseUnless (r.unresolved = []) (.conflict "RESUME_UNRESOLVED_SUBMISSION")
  match r.receipt, r.heartbeat, a.timeEvidenceId.bind r.timeEvidence with
  | some receipt, some heartbeat, time => do
    refuseUnless (a.guardianReceiptId = some receipt.id ∧
      a.guardianHeartbeatId = some heartbeat.id ∧ guardianObjections h r (some receipt.id) = [] ∧
      receipt.recordedAt ≤ r.now ∧ r.now < receipt.validUntil)
      (.conflict "RESUME_FRESH_GUARDIAN_REQUIRED")
    refuseUnless (a.proofId = some r.proof.id ∧ r.inventoryObjections = [] ∧
      r.proof.ledgerStateId = r.ledgerStateId ∧ 0 ≤ r.now - r.proof.recordedAt ∧
      r.now - r.proof.recordedAt ≤ 120 * second) (.conflict "RESUME_FRESH_PROOF_REQUIRED")
    match time with
    | none => .error (.conflict "RESUME_FRESH_TIME_REQUIRED")
    | some time => do
      refuseUnless (time.Fresh h commission heartbeat r.now)
        (.conflict "RESUME_FRESH_TIME_REQUIRED")
      refuseUnless (r.healthObjections = []) (.conflict "RESUME_MANUAL_STOP_OR_QUARANTINE")
      r.boundary
      EventFields.validate
        { commissionId := commission.id contentId
          sequence := current.sequence + 1
          recordedAt := r.now
          action := .resumeEntry
          evidenceIds := [current.id contentId, (HistoryDocument.approval a).id contentId,
            r.proof.id, receipt.id, heartbeat.id, time.id]
          reason := a.approvalReference.getD "" }
  | _, _, _ => .error (.conflict "RESUME_FRESH_GUARDIAN_REQUIRED")

/-- mirrors authority.py:563-673 -/
def resumeEntries (h : CoreHandle) (a : Approval) (r : ResumeReading) : AuthorityTxn String := do
  let event ← consult (resumeEvent contentId h a r)
  putHistory contentId (.approval a)
  putEvent contentId event
  pure (event.id contentId)

end Quantbot.L4.Authority
