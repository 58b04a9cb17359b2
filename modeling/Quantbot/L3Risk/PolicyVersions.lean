import Quantbot.Core.Txn
import Quantbot.Core.VersionChain
import Mathlib.Algebra.Order.Field.Rat
import Mathlib.Data.Finset.Dedup
import Mathlib.Data.Finset.Insert

/-!
# Versions of the veto policy

The thresholds of the risk layer are changed by appending a version: `apply_proposal` mints
the successor a console proposal describes, `rollback_to` one that restores an earlier body,
and `record_policy_version` stores it. The highest version is the rule in force.

A policy keeps its enabled vetoes as a set and its body lists them in whatever order the set
is walked (`Iteration`), so two bodies of one policy may differ. The hashes, and how a
submitted value is read as a number, are parameters.

* `modelValidate_policyBody`: a policy's own body rebuilds to it.
* `applyProposal_ok`, `rollbackTo_ok`: what a minted version holds.
* `recordPolicyVersion_ok`: a record either stores a new row at the end or finds its
  identity, with the same body, and stores nothing.
-/
namespace Quantbot.L3.Policy

open Core

/-! ## The policy -/

inductive VetoName
  | netExposure | dailyLoss | staleMarketData | liquidity | exposureConcentration
  | correlationConcentration
deriving DecidableEq

inductive PolicyAuthority | projectDefault | operatorSet
deriving DecidableEq

inductive ExposureGroup
  | usEquity | internationalEquity | emergingEquity | realEstate | commodity | preciousMetal
  | treasury | inflationLinked | credit | durationFactor | materials | energy | financials
  | industrials | technology | consumerStaples | utilities | healthCare | consumerDiscretionary
deriving DecidableEq

inductive DataCadence | dailyBar | intraday
deriving DecidableEq

/-- mirrors freshness.py:74-103 -/
structure MarketFreshnessPolicy where
  version : Int := 1
  calendar : String := "XNYS"
  cadence : DataCadence := .dailyBar
  expectedIntervalSeconds : Option Int := none
  toleratedIntervals : Int := 3
deriving DecidableEq

def MarketFreshnessPolicy.Valid (f : MarketFreshnessPolicy) : Prop :=
  1 ≤ f.version ∧ 1 ≤ f.calendar.length ∧ (∀ n, f.expectedIntervalSeconds = some n → 0 < n) ∧
    0 < f.toleratedIntervals ∧ (f.cadence = .intraday → f.expectedIntervalSeconds ≠ none)

instance (f : MarketFreshnessPolicy) : Decidable f.Valid :=
  match h : f.expectedIntervalSeconds with
  | none => decidable_of_iff (1 ≤ f.version ∧ 1 ≤ f.calendar.length ∧ 0 < f.toleratedIntervals ∧
      f.cadence ≠ .intraday) (by unfold MarketFreshnessPolicy.Valid; rw [h]; simp)
  | some n => decidable_of_iff (1 ≤ f.version ∧ 1 ≤ f.calendar.length ∧ 0 < n ∧
      0 < f.toleratedIntervals) (by unfold MarketFreshnessPolicy.Valid; rw [h]; simp)

/-- A decimal as it is written: `0.90` and `0.9` are two. -/
structure Written where
  coefficient : Int
  exponent : Int
deriving DecidableEq

def Written.value (d : Written) : ℚ :=
  if 0 ≤ d.exponent then d.coefficient * 10 ^ d.exponent.toNat
  else mkRat d.coefficient (10 ^ (-d.exponent).toNat)

/-- The hashed fields of a policy; `E` is how the enabled vetoes are held.
mirrors vetoes.py:142-335 -/
structure Thresholds (E : Type) where
  version : Int := 1
  maxNetExposureBps : Int := 10000
  maxDailyLossBps : Int := 500
  freshness : MarketFreshnessPolicy := {}
  maxParticipationBps : Int := 100
  minimumVolumeSessions : Int := 20
  maxGroupExposureBps : Int := 4000
  groupExposureCeilingsBps : List (ExposureGroup × Int) := [(.usEquity, 10000)]
  correlationThreshold : Written := ⟨90, -2⟩
  maxCorrelatedClusterBps : Int := 4000
  correlationLookbackSessions : Int := 120
  enabled : E
deriving DecidableEq

namespace Thresholds

variable {E F : Type}

/-- The bounds of the fields. No veto is without an evaluator, so any may be enabled. -/
def Valid (t : Thresholds E) : Prop :=
  1 ≤ t.version ∧ 0 < t.maxNetExposureBps ∧ 0 < t.maxDailyLossBps ∧ t.freshness.Valid ∧
    0 < t.maxParticipationBps ∧ 0 < t.minimumVolumeSessions ∧ 0 < t.maxGroupExposureBps ∧
    0 < t.correlationThreshold.value ∧ t.correlationThreshold.value ≤ 1 ∧
    0 < t.maxCorrelatedClusterBps ∧ 2 ≤ t.correlationLookbackSessions

instance (t : Thresholds E) : Decidable t.Valid := inferInstanceAs (Decidable (_ ∧ _))

/-- The same fields with the vetoes held another way. -/
def holding (t : Thresholds E) (e : F) : Thresholds F := { t with enabled := e }

@[simp] theorem holding_enabled (t : Thresholds E) (e : F) : (t.holding e).enabled = e := rfl

@[simp] theorem holding_holding {G : Type} (t : Thresholds E) (e : F) (g : G) :
    (t.holding e).holding g = t.holding g := rfl

@[simp] theorem holding_self (t : Thresholds E) : t.holding t.enabled = t := rfl

@[simp] theorem valid_holding (t : Thresholds E) (e : F) : (t.holding e).Valid ↔ t.Valid := Iff.rfl

end Thresholds

/-- mirrors vetoes.py:142-345 -/
structure PortfolioVetoPolicy where
  thresholds : Thresholds (Finset VetoName)
  authority : PolicyAuthority := .projectDefault
  valid : thresholds.Valid

/-- A decoded body: the vetoes as a list. -/
structure PolicyBody where
  thresholds : Thresholds (List VetoName)
  authority : PolicyAuthority
deriving DecidableEq

/-- The order in which a set of vetoes is walked. -/
structure Iteration where
  list : Finset VetoName → List VetoName
  lists : ∀ s, (list s).toFinset = s

/-- mirrors policy_versions.py:134-136 -/
def policyBody (order : Iteration) (p : PortfolioVetoPolicy) : PolicyBody where
  thresholds := p.thresholds.holding (order.list p.thresholds.enabled)
  authority := p.authority

/-- `PortfolioVetoPolicy.model_validate`. -/
def modelValidate (b : PolicyBody) : Option PortfolioVetoPolicy :=
  if h : b.thresholds.Valid then
    some ⟨b.thresholds.holding b.thresholds.enabled.toFinset, b.authority, h⟩
  else none

@[simp] theorem modelValidate_policyBody (order : Iteration) (p : PortfolioVetoPolicy) :
    modelValidate (policyBody order p) = some p := by
  have h : (policyBody order p).thresholds.Valid := p.valid
  unfold modelValidate; rw [dif_pos h]; simp [policyBody, order.lists]

/-! ## Identities -/

/-- `veto-policy-v1-…` and `veto-policy-rollback-v3-…`. -/
inductive Identity
  | policy (version : Int) (digest : String)
  | rollback (version : Nat) (digest : String)
deriving DecidableEq

def Identity.text : Identity → String
  | .policy version digest => s!"veto-policy-v{version}-{digest}"
  | .rollback version digest => s!"veto-policy-rollback-v{version}-{digest}"

/-- The two hashes, cut to sixteen digits. -/
structure Digests where
  policy : Thresholds (Finset VetoName) → String
  rollback : Identity → Nat → PolicyBody → String

/-- The authority is not hashed.
mirrors vetoes.py:347-359 -/
def PortfolioVetoPolicy.identity (digests : Digests) (p : PortfolioVetoPolicy) : Identity :=
  .policy p.thresholds.version (digests.policy p.thresholds)

/-! ## Fields -/

inductive PolicyKey
  | authority | correlationLookbackSessions | correlationThreshold | enabled | freshness
  | groupExposureCeilingsBps | maxCorrelatedClusterBps | maxDailyLossBps | maxGroupExposureBps
  | maxNetExposureBps | maxParticipationBps | minimumVolumeSessions | version
deriving DecidableEq

/-- Every key, in the order of their names. -/
def PolicyKey.sorted : List PolicyKey :=
  [.authority, .correlationLookbackSessions, .correlationThreshold, .enabled, .freshness,
    .groupExposureCeilingsBps, .maxCorrelatedClusterBps, .maxDailyLossBps, .maxGroupExposureBps,
    .maxNetExposureBps, .maxParticipationBps, .minimumVolumeSessions, .version]

inductive FieldValue
  | int (n : Int)
  | decimal (d : Written)
  | authority (a : PolicyAuthority)
  | freshness (f : MarketFreshnessPolicy)
  | ceilings (l : List (ExposureGroup × Int))
  | vetoes (l : List VetoName)
deriving DecidableEq

def PolicyBody.get (b : PolicyBody) : PolicyKey → FieldValue
  | .authority => .authority b.authority
  | .correlationLookbackSessions => .int b.thresholds.correlationLookbackSessions
  | .correlationThreshold => .decimal b.thresholds.correlationThreshold
  | .enabled => .vetoes b.thresholds.enabled
  | .freshness => .freshness b.thresholds.freshness
  | .groupExposureCeilingsBps => .ceilings b.thresholds.groupExposureCeilingsBps
  | .maxCorrelatedClusterBps => .int b.thresholds.maxCorrelatedClusterBps
  | .maxDailyLossBps => .int b.thresholds.maxDailyLossBps
  | .maxGroupExposureBps => .int b.thresholds.maxGroupExposureBps
  | .maxNetExposureBps => .int b.thresholds.maxNetExposureBps
  | .maxParticipationBps => .int b.thresholds.maxParticipationBps
  | .minimumVolumeSessions => .int b.thresholds.minimumVolumeSessions
  | .version => .int b.thresholds.version

/-- mirrors policy_versions.py:62-78 -/
structure FieldChange where
  key : PolicyKey
  previous : FieldValue
  proposed : FieldValue
  changed : previous ≠ proposed
deriving DecidableEq

/-- The changes of the keys that moved, in the order of their names. -/
def changesOf (keys : List PolicyKey) (before after : PolicyBody) : List FieldChange :=
  keys.filterMap fun k =>
    if h : before.get k ≠ after.get k then some ⟨k, before.get k, after.get k, h⟩ else none

/-! ## Versions -/

inductive ChangeAuthority | operator | projectDefault
deriving DecidableEq

/-- A version, and the row it is stored as (`as_row`: the body and the changes as text).
mirrors policy_versions.py:81-131 -/
@[ext] structure PolicyVersion where
  identity : Identity
  version : Nat
  supersedes : Option Identity
  authority : ChangeAuthority
  appliedBy : String
  appliedAt : Int
  reason : String
  body : PolicyBody
  changes : List FieldChange := []
  positive : 1 ≤ version := by omega

instance : DecidableEq PolicyVersion := fun _ _ =>
  decidable_of_iff _ PolicyVersion.ext_iff.symm

/-- `policy()`, which raises where the body is not valid.
mirrors policy_versions.py:98-100 -/
def PolicyVersion.policy (v : PolicyVersion) : Option PortfolioVetoPolicy := modelValidate v.body

/-- mirrors policy_versions.py:102-114 -/
def PolicyVersion.rollbackIdentity (digests : Digests) (v : PolicyVersion) (version : Nat) :
    Identity :=
  .rollback version (digests.rollback v.identity version v.body)

/-- The shipped policy. -/
def shipped : PortfolioVetoPolicy where
  thresholds := { enabled := {.netExposure, .staleMarketData, .dailyLoss, .liquidity,
    .exposureConcentration, .correlationConcentration} }
  valid := by decide

/-- mirrors policy_versions.py:139-158 -/
def initialVersion (digests : Digests) (order : Iteration) (now : Int) (actor : String) :
    PolicyVersion where
  identity := shipped.identity digests
  version := 1
  supersedes := none
  authority := .projectDefault
  appliedBy := actor
  appliedAt := now
  reason := "the shipped policy, recorded so version history starts where the system did"
  body := policyBody order shipped
  positive := Nat.one_pos

/-- A key of a proposal: a field of the policy or some other name. -/
inductive UpdateKey
  | field (key : PolicyKey)
  | other (name : String)
deriving DecidableEq

inductive ProposalRefused
  | stale (base head : Identity)
  | forbidden (names : List UpdateKey)
  | notValid
  | alreadyHolds
  | alreadyInForce (target : Identity)
deriving DecidableEq

inductive PolicyError
  | proposalRefused (refusal : ProposalRefused)
  | policyUnreadable (identity : Identity)
  | differentBody (identity : Identity)
  | integrity
deriving DecidableEq

/-! ## The console -/

/-- mirrors console/control.py:58-77 -/
structure ConfigProposal (V : Type) where
  baseIdentity : Identity
  updates : List (UpdateKey × V)
  actor : String
  reason : String
  authority : ChangeAuthority := .projectDefault
  mapping : (updates.map Prod.fst).Nodup
  nonempty : updates ≠ []

/-- How the policy model reads a submitted value. -/
structure Coercion (V : Type) where
  int : V → Option Int
  decimal : V → Option Written

/-- mirrors console/control.py:80-88 -/
def unproposablePolicyFields : List PolicyKey := [.authority, .version]

/-- `isinstance(value, (int, str, Decimal))`; the authority is a text. -/
def FieldValue.editable : FieldValue → Bool
  | .int _ | .decimal _ | .authority _ => true
  | .freshness _ | .ceilings _ | .vetoes _ => false

/-- Every field of the policy is registered as evidence-bearing.
mirrors console/control.py:104-138 -/
def proposable (order : Iteration) (k : PolicyKey) : Bool :=
  decide (k ∉ unproposablePolicyFields) && ((policyBody order shipped).get k).editable

def UpdateKey.allowed (order : Iteration) : UpdateKey → Bool
  | .field k => proposable order k
  | .other _ => false

section control

variable {V : Type} (digests : Digests) (coercion : Coercion V) (order : Iteration)

/-- One update laid over a body. Only a proposable field comes this far. -/
def merge (b : PolicyBody) : UpdateKey × V → Option PolicyBody
  | (.field .correlationLookbackSessions, v) => (coercion.int v).map fun n =>
      { b with thresholds := { b.thresholds with correlationLookbackSessions := n } }
  | (.field .correlationThreshold, v) => (coercion.decimal v).map fun d =>
      { b with thresholds := { b.thresholds with correlationThreshold := d } }
  | (.field .maxCorrelatedClusterBps, v) => (coercion.int v).map fun n =>
      { b with thresholds := { b.thresholds with maxCorrelatedClusterBps := n } }
  | (.field .maxDailyLossBps, v) => (coercion.int v).map fun n =>
      { b with thresholds := { b.thresholds with maxDailyLossBps := n } }
  | (.field .maxGroupExposureBps, v) => (coercion.int v).map fun n =>
      { b with thresholds := { b.thresholds with maxGroupExposureBps := n } }
  | (.field .maxNetExposureBps, v) => (coercion.int v).map fun n =>
      { b with thresholds := { b.thresholds with maxNetExposureBps := n } }
  | (.field .maxParticipationBps, v) => (coercion.int v).map fun n =>
      { b with thresholds := { b.thresholds with maxParticipationBps := n } }
  | (.field .minimumVolumeSessions, v) => (coercion.int v).map fun n =>
      { b with thresholds := { b.thresholds with minimumVolumeSessions := n } }
  | _ => none

/-- `PortfolioVetoPolicy.model_validate({**policy_body(current), **updates})`. -/
def candidate (proposal : ConfigProposal V) (current : PortfolioVetoPolicy) :
    Option PortfolioVetoPolicy :=
  (proposal.updates.foldlM (merge coercion) (policyBody order current)).bind modelValidate

def PolicyVersion.rebuild (v : PolicyVersion) : Except PolicyError PortfolioVetoPolicy :=
  match v.policy with
  | some p => .ok p
  | none => .error (.policyUnreadable v.identity)

/-- The candidate beside the changes, which `apply_proposal` builds once more.
mirrors console/control.py:143-183 -/
def validateProposal (proposal : ConfigProposal V) (head : PolicyVersion) :
    Except PolicyError (List FieldChange × PortfolioVetoPolicy) := do
  let keys := proposal.updates.map Prod.fst
  if proposal.baseIdentity ≠ head.identity then
    throw (.proposalRefused (.stale proposal.baseIdentity head.identity))
  if ¬ keys.all (UpdateKey.allowed order) then
    throw (.proposalRefused (.forbidden keys))
  let current ← head.rebuild
  match candidate coercion order proposal current with
  | none => throw (.proposalRefused .notValid)
  | some next =>
    let changes := changesOf (PolicyKey.sorted.filter fun k => decide (.field k ∈ keys))
      (policyBody order current) (policyBody order next)
    if changes = [] then throw (.proposalRefused .alreadyHolds) else return (changes, next)

/-- mirrors console/control.py:186-207 -/
def applyProposal (proposal : ConfigProposal V) (head : PolicyVersion) (now : Int) :
    Except PolicyError PolicyVersion := do
  let (changes, next) ← validateProposal coercion order proposal head
  return {
    identity := next.identity digests
    version := head.version + 1
    supersedes := some head.identity
    authority := proposal.authority
    appliedBy := proposal.actor
    appliedAt := now
    reason := proposal.reason
    body := policyBody order next
    changes := changes }

/-- mirrors console/control.py:210-240 -/
def rollbackTo (target head : PolicyVersion) (actor reason : String) (now : Int) :
    Except PolicyError PolicyVersion := do
  if target.identity = head.identity then
    throw (.proposalRefused (.alreadyInForce target.identity))
  let current ← head.rebuild
  return {
    identity := target.rollbackIdentity digests (head.version + 1)
    version := head.version + 1
    supersedes := some head.identity
    authority := .projectDefault
    appliedBy := actor
    appliedAt := now
    reason := "rollback to " ++ target.identity.text ++ ": " ++ reason
    body := target.body
    changes := changesOf PolicyKey.sorted (policyBody order current) target.body }

variable {digests coercion order}

variable {proposal : ConfigProposal V}

theorem candidate_body {proposal : ConfigProposal V} {current next : PortfolioVetoPolicy}
    (h : proposal.updates.foldlM (merge coercion) (policyBody order current) =
      some (policyBody order next)) : candidate coercion order proposal current = some next := by
  unfold candidate; rw [h]; exact modelValidate_policyBody order next

variable {head v : PolicyVersion}

theorem rebuild_ok {p : PortfolioVetoPolicy} : v.rebuild = .ok p ↔ v.policy = some p := by
  unfold PolicyVersion.rebuild; cases v.policy <;> simp

theorem validateProposal_stale (h : proposal.baseIdentity ≠ head.identity) :
    validateProposal coercion order proposal head =
      .error (.proposalRefused (.stale proposal.baseIdentity head.identity)) := by
  unfold validateProposal; simp only [if_pos h]; rfl

theorem validateProposal_ok {changes : List FieldChange} {next : PortfolioVetoPolicy}
    (h : validateProposal coercion order proposal head = .ok (changes, next)) :
    proposal.baseIdentity = head.identity ∧ changes ≠ [] ∧ ∃ current, head.policy = some current ∧
        candidate coercion order proposal current = some next := by
  by_cases hstale : proposal.baseIdentity ≠ head.identity
  · rw [validateProposal_stale hstale] at h; cases h
  unfold validateProposal at h; simp only [if_neg hstale] at h
  by_cases hallowed : ¬ (proposal.updates.map Prod.fst).all (UpdateKey.allowed order) = true
  · simp only [if_pos hallowed] at h; cases h
  simp only [if_neg hallowed] at h
  cases hhead : head.rebuild with
  | error e =>
    rw [hhead] at h; cases h
  | ok current =>
    rw [hhead] at h
    change (match candidate coercion order proposal current with
      | none => _
      | some next => _) = _ at h
    cases hnext : candidate coercion order proposal current with
    | none =>
      rw [hnext] at h; cases h
    | some next' =>
      rw [hnext] at h; dsimp only at h; split at h
      · cases h
      next hchanges =>
      cases h
      exact ⟨not_not.1 hstale, hchanges, current, rebuild_ok.1 hhead, hnext⟩

variable {now : Int}

/-- **A minted successor** carries the candidate's own identity and its body. -/
theorem applyProposal_ok (h : applyProposal digests coercion order proposal head now = .ok v) :
    ∃ current next, head.policy = some current ∧
      candidate coercion order proposal current = some next ∧ v.policy = some next ∧
      v.identity = next.identity digests ∧ v.version = head.version + 1 ∧
      v.supersedes = some head.identity := by
  obtain ⟨⟨changes, next⟩, hv, h⟩ := Txn.except_bind_ok.1 h
  obtain ⟨-, -, current, hcurrent, hnext⟩ := validateProposal_ok hv; cases h
  exact ⟨current, next, hcurrent, hnext, modelValidate_policyBody order next, rfl, rfl, rfl⟩

/-- A rollback is refused as already in force where the two identities agree, and only there. -/
theorem rollbackTo_refused {target : PolicyVersion} {actor reason : String} :
    (∃ r, rollbackTo digests order target head actor reason now = .error (.proposalRefused r)) ↔
      target.identity = head.identity := by
  unfold rollbackTo; by_cases h : target.identity = head.identity
  · simp only [h, iff_true]; exact ⟨_, rfl⟩
  simp only [h, iff_false]; rintro ⟨r, hr⟩
  cases hhead : head.rebuild with
  | error e =>
    rw [hhead] at hr
    have he : Except.error (α := PolicyVersion) e = .error (.proposalRefused r) := hr
    unfold PolicyVersion.rebuild at hhead
    cases hp : head.policy with
    | none =>
      rw [hp] at hhead; cases hhead; cases he
    | some p =>
      rw [hp] at hhead; cases hhead
  | ok current =>
    rw [hhead] at hr; cases hr

/-- **A minted rollback** carries the identity derived for its number and the target's body. -/
theorem rollbackTo_ok {target : PolicyVersion} {actor reason : String}
    (h : rollbackTo digests order target head actor reason now = .ok v) :
    v.body = target.body ∧ v.identity = target.rollbackIdentity digests (head.version + 1) ∧
      v.version = head.version + 1 ∧ v.supersedes = some head.identity := by
  unfold rollbackTo at h; by_cases hsame : target.identity = head.identity
  · simp only [if_pos hsame] at h; cases h
  simp only [if_neg hsame] at h
  cases hhead : head.rebuild with
  | error e =>
    rw [hhead] at h; cases h
  | ok current =>
    rw [hhead] at h; cases h; exact ⟨rfl, rfl, rfl, rfl⟩

end control

/-! ## The repository -/

/-- The keys of the table.
mirrors storage/schema.py:1264-1290 -/
def insertRow (rows : List PolicyVersion) (v : PolicyVersion) :
    Except PolicyError (List PolicyVersion) :=
  if (∀ r ∈ rows, r.identity ≠ v.identity ∧ r.version ≠ v.version) ∧
      (v.supersedes ≠ none → ∀ r ∈ rows, r.supersedes ≠ v.supersedes) ∧
      (∀ base ∈ v.supersedes, ∃ r ∈ rows, r.identity = base) ∧
      (v.version = 1 ↔ v.supersedes = none)
  then .ok (rows ++ [v]) else .error .integrity

/-- mirrors repositories.py:2301-2330 -/
def recordPolicyVersion (rows : List PolicyVersion) (v : PolicyVersion) :
    Except PolicyError (Bool × List PolicyVersion) :=
  match rows.find? (fun r => decide (r.identity = v.identity)) with
  | some existing =>
    if existing.body ≠ v.body then .error (.differentBody v.identity) else .ok (false, rows)
  | none => (insertRow rows v).map fun rows' => (true, rows')

variable {rows rows' : List PolicyVersion}

theorem insertRow_ok {v : PolicyVersion} (h : insertRow rows v = .ok rows') :
    rows' = rows ++ [v] ∧ ∀ r ∈ rows, r.identity ≠ v.identity ∧ r.version ≠ v.version := by
  unfold insertRow at h; split at h
  · next hkeys =>
    cases h; exact ⟨rfl, hkeys.1⟩
  · cases h

/-- **A record** appends the version, its identity and number new, or finds its identity with
the same body and stores nothing. -/
theorem recordPolicyVersion_ok {v : PolicyVersion} {stored : Bool}
    (h : recordPolicyVersion rows v = .ok (stored, rows')) : (stored = true ∧ rows' = rows ++ [v] ∧
      ∀ r ∈ rows, r.identity ≠ v.identity ∧ r.version ≠ v.version) ∨
    (stored = false ∧ rows' = rows ∧ ∃ r ∈ rows, r.identity = v.identity ∧ r.body = v.body) := by
  unfold recordPolicyVersion at h
  cases hfind : rows.find? (fun r => decide (r.identity = v.identity)) with
  | none =>
    rw [hfind] at h; obtain ⟨rows₁, hins, hr⟩ := Txn.except_map_ok.1 h; cases hr
    obtain ⟨hrows, hnew⟩ := insertRow_ok hins; exact .inl ⟨rfl, hrows, hnew⟩
  | some existing =>
    rw [hfind] at h; dsimp only at h; split at h
    · cases h
    next hbody =>
    cases h
    exact .inr ⟨rfl, rfl, existing, List.mem_of_find?_eq_some hfind,
      by simpa using List.find?_some hfind, not_not.1 hbody⟩

/-- mirrors repositories.py:2332-2348 -/
def policyVersionHead (rows : List PolicyVersion) : Option PolicyVersion :=
  latest (·.version) rows

/-- mirrors policy_versions.py:213-244 -/
def recordedPolicyVersion (rows : List PolicyVersion) :
    Except PolicyError (Option PolicyVersion) :=
  match policyVersionHead rows with
  | none => .ok none
  | some head => head.rebuild.map fun _ => some head

/-- mirrors policy_versions.py:183-210 -/
def activePolicyVersion (digests : Digests) (order : Iteration) (now : Int) (actor : String)
    (rows : List PolicyVersion) : Except PolicyError (PolicyVersion × List PolicyVersion) := do
  match ← recordedPolicyVersion rows with
  | some head => return (head, rows)
  | none =>
    let first := initialVersion digests order now actor
    let (_, rows') ← recordPolicyVersion rows first
    return (first, rows')

end Quantbot.L3.Policy
