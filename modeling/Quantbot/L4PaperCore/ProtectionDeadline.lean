import Quantbot.L4PaperCore.TimeEvidence

/-!
# Protection deadlines

The timing of an entry decision (`evaluate_entry` of `paper_core/trader.py`,
`entry_time_objections` of `paper_core/time_evidence.py`), the protection plan it is given
(`ProtectionPlan.for_decision`) and when the guardian finds the plan's exit due (`exit_due`).

The other gates of `evaluate_entry` are an argument. A decision to buy has no time objection, so
under the provider-time policy its projection encloses the provider's time at its anchor
(`projection_sound`).

Results:
* `exitDue_of_origin`: an exit is due once the deadline's distance from the latest possible
  origin has elapsed.
* `exitDue_thirty`: and in any case half an hour after the anchor.
* `deadline_never_missed`: the exit is due when the provider's time reaches the deadline.
-/
namespace Quantbot.L4.TimeEvidence

/-! ## Time objections of an entry -/

inductive TimeReason
  | objected (o : Objection)
  | missing | projectionInvalid | accountMismatch | calendarMismatch | sessionBoundary
  | observationBoundary
deriving DecidableEq, Repr

/-- A quote an opening observation rests on. -/
structure QuoteSource where
  symbol : String
  quoteAt : ℚ
deriving DecidableEq

/-- What the timing of an entry reads of its observation. -/
structure Observation where
  symbol : String
  recordedAt : ℚ
  sourceEnd : ℚ
  availableAt : ℚ
  captureReceivedAt : Option ℚ := none
  sessionClose : ℚ
  /-- The accounting day of a crypto observation. -/
  cryptoSession : Option (ℚ × ℚ) := none
  featureContext : String := ""
  featureVersion : String := ""
  openingQuoteSources : Option (List QuoteSource) := none

def reasonIf (c : Prop) [Decidable c] (o : TimeReason) : List TimeReason := if c then [o] else []

/-- The provider's time as the entry takes it: of the projection, else of the evidence. -/
def providerEarliest (e : Evidence) (projection : Option TimeProjection) : ℚ :=
  projection.elim (e.wallAnchor + e.offsetLower) (·.providerEarliest)

def providerLatest (e : Evidence) (projection : Option TimeProjection) : ℚ :=
  projection.elim (e.wallAnchor + e.offsetUpper) (·.providerLatest)

/-- mirrors time_evidence.py:265-292 -/
def QuotesValid (o : Observation) (p : BrokerTime) (wall lower upper : ℚ) : Prop :=
  o.featureVersion = "opening-quote-gap-v1" ∧
    (∃ sources ∈ o.openingQuoteSources, sources.map (·.symbol) = [o.symbol, "SPY"] ∧
      ∀ s ∈ sources, p.sessionOpen ≤ s.quoteAt ∧ s.quoteAt ≤ lower ∧ upper ≤ s.quoteAt + 5) ∧
    o.captureReceivedAt = some o.sourceEnd ∧ o.sourceEnd = o.availableAt ∧
    o.availableAt = o.recordedAt ∧ 0 ≤ wall - o.sourceEnd ∧ wall - o.sourceEnd ≤ 5
deriving Decidable

/-- The checks against the last sample.
mirrors time_evidence.py:241-295 -/
def boundaryReasons (o : Observation) (e : Evidence) (config : CoreConfig)
    (projection : Option TimeProjection) (p : BrokerTime) : List TimeReason :=
  let lower := providerEarliest e projection
  let upper := providerLatest e projection
  reasonIf (p.accountId ≠ config.accountId) .accountMismatch ++
  (match o.cryptoSession with
    | some (opening, closing) =>
      reasonIf (¬ (opening ≤ o.sourceEnd ∧ o.sourceEnd < closing)) .calendarMismatch
    | none =>
      reasonIf (lower < p.sessionOpen ∨ p.sessionClose - 120 ≤ upper) .sessionBoundary ++
      reasonIf (p.sessionClose ≠ o.sessionClose) .calendarMismatch) ++
  if o.featureContext = "OPENING_QUOTE_GAP_V1" then
    reasonIf (¬ QuotesValid o p (projection.elim e.wallAnchor (·.wallAt)) lower upper)
      .observationBoundary
  else reasonIf (lower < o.sourceEnd ∨ o.sourceEnd + 120 < upper) .observationBoundary

/-- mirrors time_evidence.py:221-295 -/
def entryTimeObjections (evidenceId : Evidence → String) (o : Observation) (e : Evidence)
    (config : CoreConfig) (projection : Option TimeProjection) : List TimeReason :=
  let reasons := e.objections.map .objected ++ projection.elim [] fun j =>
    reasonIf (j ≠ projectionAt evidenceId e ⟨j.wallAt, j.monotonicAt⟩ j.processId)
      .projectionInvalid ++ j.objections.map .objected
  match e.samples.getLast? with
  | none => if reasons = [] then [.objected .samplesIncomplete] else reasons
  | some s => (reasons ++ boundaryReasons o e config projection s.provider).eraseDups

/-! ## Decisions and plans -/

inductive Action | buy | wait
deriving DecidableEq, Repr

/-- The fields of a decision its plan is made of. -/
structure Decision where
  id : String
  recordedAt : ℚ
  clockProcessId : Option String := none
  monotonicAnchor : Option ℚ := none
  providerDeadline : Option ℚ := none
  timeProjection : Option TimeProjection := none
  /-- `market_calendar == "CRYPTO24"`. -/
  crypto : Bool
  inventoryGeneration : ℕ
  price : ℚ
  sessionClose : ℚ
  action : Action
deriving DecidableEq

/-- mirrors contracts.py:582-599 -/
structure ProtectionPlan where
  recordedAt : ℚ
  evidenceLane : EvidenceLane
  releaseId : String
  decisionId : String
  owner : String
  generation : ℕ
  inventoryGeneration : ℕ
  stopPrice : ℚ
  deadline : ℚ
  clockProfile : ClockProfile := .strict
  clockProcessId : Option String := none
  monotonicAnchor : Option ℚ := none
  monotonicExpiry : Option ℚ := none
deriving DecidableEq

/-- The arguments of `evaluate_entry` its timing rests on. -/
structure EntryArguments where
  config : CoreConfig
  observation : Observation
  evidence : Option Evidence := none
  projection : Option TimeProjection := none
  decisionId : String
  inventoryGeneration : ℕ
  price : ℚ
  /-- The gates that are not about time. -/
  gates : List String := []

namespace EntryArguments

def crypto (x : EntryArguments) : Bool := x.observation.cryptoSession.isSome

/-- mirrors trader.py:100-106 -/
def evaluatedAt (x : EntryArguments) : ℚ :=
  match x.projection, x.evidence with
  | some j, _ => j.wallAt
  | none, some e => e.wallAnchor
  | none, none => x.observation.recordedAt

/-- mirrors trader.py:109-116 -/
def timeReasons (evidenceId : Evidence → String) (x : EntryArguments) : List TimeReason :=
  if x.config.clockProfile = .paperTime then
    match x.evidence with
    | none => [.missing]
    | some e => entryTimeObjections evidenceId x.observation e x.config x.projection
  else []

/-- The horizon of half an hour, in provider time, and before the close of the session.
mirrors trader.py:327-338 -/
def providerDeadline (x : EntryArguments) (e : Evidence) : ℚ :=
  min (providerEarliest e x.projection + 1800)
    (if x.crypto then x.evaluatedAt + 1860 else x.observation.sessionClose - 120)

/-- mirrors trader.py:87-378 -/
def evaluateEntry (evidenceId : Evidence → String) (x : EntryArguments) : Decision :=
  let wait : Decision :=
    { id := x.decisionId
      recordedAt := x.evaluatedAt
      crypto := x.crypto
      inventoryGeneration := x.inventoryGeneration
      price := x.price
      sessionClose := x.observation.sessionClose
      action := if x.timeReasons evidenceId = [] ∧ x.gates = [] then .buy else .wait }
  match x.evidence with
  | some e =>
    if x.config.clockProfile = .paperTime then
      { wait with
        clockProcessId := some e.processId
        monotonicAnchor := some (x.projection.elim e.acquiredMonotonic (·.monotonicAt))
        providerDeadline := some (x.providerDeadline e)
        timeProjection := x.projection }
    else wait
  | none => wait

end EntryArguments

namespace ProtectionPlan

/-- `duration`, as it is bounded in both places. -/
def bounded (seconds : ℚ) : ℚ := max 0 (min 1800 seconds)

/-- mirrors contracts.py:610-624 -/
def expiryOf (d : Decision) : Option ℚ :=
  match d.timeProjection, d.monotonicAnchor, d.providerDeadline with
  | some j, some anchor, some deadline => some (anchor + bounded (deadline - j.providerLatest))
  | _, _, _ => none

/-- mirrors contracts.py:635-641 -/
def deadlineOf (d : Decision) : ℚ :=
  d.providerDeadline.getD (min (d.recordedAt + 1800)
    (if d.crypto then d.recordedAt + 1800 else d.sessionClose - 120))

/-- mirrors contracts.py:601-642 -/
def forDecision (d : Decision) (config : CoreConfig) : ProtectionPlan :=
  let plan : ProtectionPlan :=
    { recordedAt := d.recordedAt
      evidenceLane := config.evidenceLane
      releaseId := config.releaseId
      decisionId := d.id
      owner := config.owner
      generation := config.generation
      inventoryGeneration := d.inventoryGeneration
      stopPrice := d.price * (99 / 100)
      deadline := deadlineOf d }
  if config.clockProfile = .paperTime then
    { plan with
      clockProfile := .paperTime
      clockProcessId := d.clockProcessId
      monotonicAnchor := d.monotonicAnchor
      monotonicExpiry := expiryOf d }
  else plan

/-- What has elapsed since the anchor, in the process the plan was made in.
mirrors guardian.py:1114-1119 -/
def elapsed (plan : ProtectionPlan) (processId : String) (now : Reading) : Option ℚ :=
  if plan.clockProcessId = some processId then plan.monotonicAnchor.map (now.mono - ·) else none

end ProtectionPlan

/-- The part of `exit_due` that rests on the monotonic clock. -/
def elapsedDue (plan : ProtectionPlan) (elapsed : ℚ) : Bool :=
  match plan.monotonicExpiry, plan.monotonicAnchor with
  | some expiry, some anchor => expiry ≤ anchor + elapsed
  | _, _ =>
    let origin := if plan.clockProfile = .paperTime then plan.recordedAt + 2 else plan.recordedAt
    ProtectionPlan.bounded (plan.deadline - origin) ≤ elapsed

/-- mirrors time_evidence.py:298-322 -/
def exitDue (plan : ProtectionPlan) (evidence : Option Evidence) (elapsed : Option ℚ) : Bool :=
  elapsed.any (elapsedDue plan) ||
    evidence.any fun e => e.objections = [] ∧ plan.deadline ≤ e.wallAnchor + e.offsetUpper

/-! ## When an exit is due -/

namespace ProtectionPlan

variable {config : CoreConfig} {d : Decision}

@[simp] theorem forDecision_deadline : (forDecision d config).deadline = deadlineOf d := by
  unfold forDecision; split <;> rfl

@[simp] theorem forDecision_recordedAt : (forDecision d config).recordedAt = d.recordedAt := by
  unfold forDecision; split <;> rfl

theorem forDecision_paperTime (h : config.clockProfile = .paperTime) :
    (forDecision d config).clockProfile = .paperTime ∧
      (forDecision d config).clockProcessId = d.clockProcessId ∧
      (forDecision d config).monotonicAnchor = d.monotonicAnchor ∧
      (forDecision d config).monotonicExpiry = expiryOf d := by
  unfold forDecision; rw [if_pos h]; exact ⟨rfl, rfl, rfl, rfl⟩

theorem forDecision_strict (h : config.clockProfile ≠ .paperTime) :
    (forDecision d config).monotonicExpiry = none := by
  unfold forDecision; rw [if_neg h]

theorem bounded_le {seconds t : ℚ} (hnonneg : 0 ≤ t) (h : seconds ≤ t) : bounded seconds ≤ t :=
  max_le hnonneg ((min_le_right _ _).trans h)

theorem bounded_le_thirty (seconds : ℚ) : bounded seconds ≤ 1800 :=
  max_le (by norm_num) (min_le_left _ _)

theorem expiryOf_le {expiry : ℚ} (h : expiryOf d = some expiry) :
    ∃ anchor, d.monotonicAnchor = some anchor ∧ expiry ≤ anchor + 1800 := by
  unfold expiryOf at h; split at h
  · rename_i anchor deadline _ hanchor _; cases h
    exact ⟨_, hanchor, add_le_add_right (bounded_le_thirty _) _⟩
  · cases h

/-- **A plan expires within half an hour of its anchor.** -/
theorem expiry_le {expiry : ℚ} (h : (forDecision d config).monotonicExpiry = some expiry) :
    ∃ anchor, (forDecision d config).monotonicAnchor = some anchor ∧ expiry ≤ anchor + 1800 := by
  by_cases hprofile : config.clockProfile = .paperTime
  · obtain ⟨_, _, hanchor, hexpiry⟩ := forDecision_paperTime (d := d) hprofile
    rw [hexpiry] at h; rw [hanchor]; exact expiryOf_le h
  · rw [forDecision_strict hprofile] at h; cases h

end ProtectionPlan

section Due

open ProtectionPlan

variable {config : CoreConfig} {d : Decision} {evidence : Option Evidence} {t anchor : ℚ}

/-- The latest the provider's time can have been at the anchor of a plan. -/
def latestOrigin (d : Decision) : ℚ :=
  match d.timeProjection, d.providerDeadline with
  | some j, some _ => j.providerLatest
  | _, _ => d.recordedAt + 2

theorem elapsedDue_iff (hprofile : config.clockProfile = .paperTime)
    (hanchor : d.monotonicAnchor = some anchor) : elapsedDue (forDecision d config) t = true ↔
      bounded (deadlineOf d - latestOrigin d) ≤ t := by
  obtain ⟨hclock, _, hplanned, hexpiry⟩ := forDecision_paperTime (d := d) hprofile
  unfold elapsedDue expiryOf at *
  rw [hexpiry, hplanned, hanchor, hclock, forDecision_deadline, forDecision_recordedAt]
  unfold latestOrigin
  cases hj : d.timeProjection with
  | none => exact decide_eq_true_iff
  | some j =>
    cases hd : d.providerDeadline with
    | none => exact decide_eq_true_iff
    | some deadline =>
      unfold deadlineOf; rw [hd]
      exact decide_eq_true_iff.trans (add_le_add_iff_left anchor)

/-- **An exit is due** once its deadline's distance from the latest possible origin has
elapsed. -/
theorem exitDue_of_origin (hprofile : config.clockProfile = .paperTime)
    (hanchor : d.monotonicAnchor = some anchor) (hnonneg : 0 ≤ t)
    (h : deadlineOf d - latestOrigin d ≤ t) :
    exitDue (forDecision d config) evidence (some t) = true := by
  unfold exitDue; rw [Bool.or_eq_true]
  exact .inl ((elapsedDue_iff hprofile hanchor).2 (bounded_le hnonneg h))

theorem elapsedDue_thirty (plan : ProtectionPlan) (h : 1800 ≤ t)
    (hexpiry : ∀ expiry ∈ plan.monotonicExpiry, ∀ anchor ∈ plan.monotonicAnchor,
      expiry ≤ anchor + 1800) : elapsedDue plan t = true := by
  unfold elapsedDue; split
  · rename_i expiry anchor he ha; have hle := hexpiry expiry he anchor ha
    exact decide_eq_true (by linarith)
  · exact decide_eq_true ((bounded_le_thirty _).trans h)

/-- **Half an hour after its anchor** the exit of any plan is due. -/
theorem exitDue_thirty (d : Decision) (config : CoreConfig) (evidence : Option Evidence)
    (h : 1800 ≤ t) : exitDue (forDecision d config) evidence (some t) = true := by
  unfold exitDue; rw [Bool.or_eq_true]
  refine .inl (elapsedDue_thirty _ h fun expiry he anchor ha => ?_)
  obtain ⟨own, hown, hle⟩ := expiry_le he
  obtain rfl := Option.some.inj (hown.symm.trans ha); exact hle

end Due

/-! ## What a decision to buy rests on -/

@[simp] theorem reasonIf_eq_nil {c : Prop} [Decidable c] {o : TimeReason} :
    reasonIf c o = [] ↔ ¬ c := by
  unfold reasonIf; split <;> simp_all

theorem eraseDups_reasons {l : List TimeReason} (h : l.eraseDups = []) : l = [] := by
  refine List.eq_nil_iff_forall_not_mem.2 fun o ho => ?_
  have hmem := List.mem_eraseDups.2 ho; rw [h] at hmem; cases hmem

section Buys

variable {evidenceId : Evidence → String} {x : EntryArguments} {e : Evidence} {o : Observation}
  {config : CoreConfig} {projection : Option TimeProjection}

/-- Without a time objection the evidence has none, and the projection is its own and has none. -/
theorem entryTimeObjections_nil (h : entryTimeObjections evidenceId o e config projection = []) :
    e.objections = [] ∧ ∀ j ∈ projection,
      j = projectionAt evidenceId e ⟨j.wallAt, j.monotonicAt⟩ j.processId ∧ j.objections = [] := by
  have hreasons : e.objections.map TimeReason.objected ++ (projection.elim [] fun j =>
      reasonIf (j ≠ projectionAt evidenceId e ⟨j.wallAt, j.monotonicAt⟩ j.processId)
        .projectionInvalid ++ j.objections.map .objected) = [] := by
    unfold entryTimeObjections at h; dsimp only at h; split at h
    · split at h
      · cases h
      · exact h
    · exact (List.append_eq_nil_iff.1 (eraseDups_reasons h)).1
  obtain ⟨hevidence, hprojection⟩ := List.append_eq_nil_iff.1 hreasons
  refine ⟨List.map_eq_nil_iff.1 hevidence, fun j hj => ?_⟩
  rw [Option.mem_def.1 hj, Option.elim_some, List.append_eq_nil_iff, reasonIf_eq_nil,
    not_not] at hprojection
  exact ⟨hprojection.1, List.map_eq_nil_iff.1 hprojection.2⟩

/-- **A decision to buy** has no time objection. -/
theorem buy_timeReasons (hbuy : (x.evaluateEntry evidenceId).action = .buy) :
    x.timeReasons evidenceId = [] := by
  by_contra hreasons
  have hgates : ¬ (x.timeReasons evidenceId = [] ∧ x.gates = []) := fun h => hreasons h.1
  have hwait : (x.evaluateEntry evidenceId).action = .wait := by
    unfold EntryArguments.evaluateEntry; rw [if_neg hgates]
    cases x.evidence with
    | none => rfl
    | some e =>
      dsimp only; split <;> rfl
  rw [hwait] at hbuy; cases hbuy

/-- Under the provider-time policy an entry without time objection has evidence without one. -/
theorem timeReasons_clear (hprofile : x.config.clockProfile = .paperTime)
    (hclear : x.timeReasons evidenceId = []) : ∃ e, x.evidence = some e ∧
      e.objections = [] ∧ ∀ j ∈ x.projection,
        j = projectionAt evidenceId e ⟨j.wallAt, j.monotonicAt⟩ j.processId ∧
          j.objections = [] := by
  unfold EntryArguments.timeReasons at hclear; rw [if_pos hprofile] at hclear
  cases he : x.evidence with
  | none =>
    rw [he] at hclear; cases hclear
  | some e =>
    rw [he] at hclear; exact ⟨e, rfl, entryTimeObjections_nil hclear⟩

variable (evidenceId) in
theorem evaluateEntry_timing (hprofile : x.config.clockProfile = .paperTime)
    (he : x.evidence = some e) :
    (x.evaluateEntry evidenceId).recordedAt = x.projection.elim e.wallAnchor (·.wallAt) ∧
      (x.evaluateEntry evidenceId).clockProcessId = some e.processId ∧
      (x.evaluateEntry evidenceId).monotonicAnchor =
        some (x.projection.elim e.acquiredMonotonic (·.monotonicAt)) ∧
      latestOrigin (x.evaluateEntry evidenceId) =
        x.projection.elim (e.wallAnchor + 2) (·.providerLatest) := by
  unfold EntryArguments.evaluateEntry latestOrigin; rw [he]; dsimp only
  rw [if_pos hprofile]; unfold EntryArguments.evaluatedAt; rw [he]
  cases x.projection with
  | none | some _ => exact ⟨rfl, rfl, rfl, rfl⟩

end Buys

/-! ## Deadlines -/

/-- Evidence without objection has its upper offset within the two seconds of skew. -/
theorem acquire_skew {configId : CoreConfig → String} {context : Option CoreConfig}
    {broker : Provenance} {start last : Reading} {first second : Poll} {e : Evidence}
    (h : acquire configId context broker start first second last = .ok e)
    (hclear : e.objections = []) : e.offsetUpper ≤ 2 := by
  unfold acquire at h; split at h
  · cases h
  split at h
  · cases h
  next samples failures _ =>
  cases h; have hnil := eraseDups_eq_nil.1 hclear
  have hsamples : ∀ s ∈ samples, s.offsetUpper ≤ 2 := by
    intro s hs; have hall := (List.append_eq_nil_iff.1 hnil).1
    have hflat := (List.append_eq_nil_iff.1 hall).2
    have hone := List.flatMap_eq_nil_iff.1 hflat s hs
    have hskew := (List.append_eq_nil_iff.1 (List.append_eq_nil_iff.1 hone).1).2
    rw [objectIf_eq_nil, not_or, not_lt, not_lt] at hskew; exact hskew.2
  cases hmax : (samples.map (·.offsetUpper)).max? with
  | none => exact (by norm_num : (0 : ℚ) ≤ 2)
  | some m =>
    obtain ⟨s, hs, rfl⟩ := List.mem_map.1 (List.max?_mem hmax)
    exact hsamples s hs

/-- The evidence was acquired up to the instant `a`, with an honest sample: its stamp was read
between its two reads, up to an error `ρ`, while the provider was `δ` ahead of the wall clock. -/
structure Honest {T : Type*} [Preorder T] (c : Timeline T) (a : T) (δ ρ : ℚ) (e : Evidence) :
    Prop where
  acquired : ∃ configId context broker start first second,
    acquire configId context broker start first second (c.read a) = .ok e
  offset : c.Offset a δ
  stamped : ∃ s ∈ e.samples, c.StampRead a ρ s

section Deadline

open ProtectionPlan

variable {T : Type*} [Preorder T] {c : Timeline T} {a p t : T} {δ ρ : ℚ} {e : Evidence}
  {evidenceId : Evidence → String} {x : EntryArguments}

/-- The instant `p` is the one a decision was evaluated at. -/
structure AnchoredAt (c : Timeline T) (d : Decision) (p : T) : Prop where
  wall : d.recordedAt = c.wall p
  mono : d.monotonicAnchor = some (c.mono p)

/-- **The latest origin is not before the provider's time** at the anchor. -/
theorem provider_le_origin (hprofile : x.config.clockProfile = .paperTime)
    (hreasons : x.timeReasons evidenceId = []) (hx : x.evidence = some e)
    (he : Honest c a δ ρ e) (hp : AnchoredAt c (x.evaluateEntry evidenceId) p) :
    (c.provider p = c.wall p + δ → c.provider p ≤ latestOrigin (x.evaluateEntry evidenceId) + ρ) ∧
    (c.provider p - c.provider a = c.mono p - c.mono a →
      c.provider p ≤ latestOrigin (x.evaluateEntry evidenceId) + ρ + tolerance) := by
  obtain ⟨configId, context, broker, start, first, second, hacquired⟩ := he.acquired
  obtain ⟨s, hs, hstamp⟩ := he.stamped
  obtain ⟨own, hown, hclear, hprojection⟩ := timeReasons_clear hprofile hreasons
  obtain rfl : own = e := Option.some.inj (hown.symm.trans hx)
  obtain ⟨hwall, _, hmono, horigin⟩ := evaluateEntry_timing evidenceId hprofile hx
  have hwallAt := hwall.symm.trans hp.wall
  have hmonoAt := Option.some.inj (hmono.symm.trans hp.mono); rw [horigin]
  cases hj : x.projection with
  | some j =>
    obtain ⟨hown, hnone⟩ := hprojection j hj; rw [hj] at hwallAt hmonoAt
    have hread : (⟨j.wallAt, j.monotonicAt⟩ : Reading) = c.read p := by
      rw [show j.wallAt = c.wall p from hwallAt, show j.monotonicAt = c.mono p from hmonoAt]
      rfl
    rw [hread] at hown; rw [hown] at hnone
    have hsound := projection_sound hacquired he.offset hs hstamp evidenceId j.processId hnone
    rw [← hown] at hsound
    exact ⟨fun h => (hsound.1 h).2, fun h => (hsound.2 h).2⟩
  | none =>
    rw [hj] at hwallAt hmonoAt
    obtain ⟨hanchor, hacquiredMono, hspans⟩ := acquire_ok hacquired
    have hupper := (offset_enclosed he.offset (hspans s hs).bracketed hstamp).2
    have hspan := (hspans s hs).upper
    have hskew := acquire_skew hacquired hclear
    have hstart := he.offset a le_rfl
    have htolerance : (0 : ℚ) ≤ tolerance := by
      unfold tolerance; norm_num
    simp only [Option.elim_none] at hwallAt hmonoAt ⊢; constructor
    · intro h; linarith
    · intro h; have hanchorWall : own.wallAnchor = c.wall a := hanchor
      have hanchorMono : own.acquiredMonotonic = c.mono a := hacquiredMono
      linarith

/-- **A protection deadline is never missed.** A plan expires within half an hour of its anchor,
and its exit is due half an hour after the anchor in any case. For a decision without time
objection under the provider-time policy, as every decision to buy is, whose evidence was honest,
and a provider that keeps the pace of the monotonic clock from the anchor on: in the process of
the plan the exit is due once the provider's time reaches the deadline, up to the error of the
stamp; and up to the tolerance of the discontinuity check besides, where the wall clock may have
stepped before the anchor. -/
theorem deadline_never_missed :
    (∀ d config expiry, (forDecision d config).monotonicExpiry = some expiry →
      ∃ anchor, (forDecision d config).monotonicAnchor = some anchor ∧ expiry ≤ anchor + 1800) ∧
    (∀ d config evidence elapsed, 1800 ≤ elapsed →
      exitDue (forDecision d config) evidence (some elapsed) = true) ∧
    (∀ evidenceId x, (EntryArguments.evaluateEntry evidenceId x).action = .buy →
      x.timeReasons evidenceId = []) ∧
    ∀ evidenceId x e, x.config.clockProfile = .paperTime →
      EntryArguments.timeReasons evidenceId x = [] → x.evidence = some e →
      ∀ (c : Timeline T) a p t δ ρ, Honest c a δ ρ e →
        AnchoredAt c (x.evaluateEntry evidenceId) p → p ≤ t →
        c.provider t - c.provider p = c.mono t - c.mono p → ∀ evidence,
          let plan := forDecision (x.evaluateEntry evidenceId) x.config
          (c.provider p = c.wall p + δ → plan.deadline + ρ ≤ c.provider t →
            exitDue plan evidence (plan.elapsed e.processId (c.read t)) = true) ∧
          (c.provider p - c.provider a = c.mono p - c.mono a →
            plan.deadline + ρ + tolerance ≤ c.provider t →
            exitDue plan evidence (plan.elapsed e.processId (c.read t)) = true) := by
  refine ⟨fun d config expiry => expiry_le, fun d config evidence elapsed => exitDue_thirty _ _ _,
    fun evidenceId x => buy_timeReasons, ?_⟩
  intro evidenceId x e hprofile hreasons hx c a p t δ ρ he hp hpt hpace evidence plan
  obtain ⟨hstands, hkept⟩ := provider_le_origin hprofile hreasons hx he hp
  obtain ⟨_, hprocess, _, _⟩ := evaluateEntry_timing evidenceId hprofile hx
  have helapsed : plan.elapsed e.processId (c.read t) = some (c.mono t - c.mono p) := by
    obtain ⟨_, hplanned, hanchor, _⟩ :=
      forDecision_paperTime (d := x.evaluateEntry evidenceId) hprofile
    unfold ProtectionPlan.elapsed
    rw [hplanned, hprocess, hanchor, hp.mono, if_pos rfl]
    rfl
  have hnonneg : 0 ≤ c.mono t - c.mono p := by
    rw [← hpace]
    exact sub_nonneg.2 (c.provider_mono hpt)
  have hdeadline : plan.deadline = deadlineOf (x.evaluateEntry evidenceId) := forDecision_deadline
  rw [helapsed, hdeadline]
  constructor
  · intro hoffset hreached
    have horigin := hstands hoffset
    exact exitDue_of_origin hprofile hp.mono hnonneg (by linarith)
  · intro hsteps hreached
    have horigin := hkept hsteps
    exact exitDue_of_origin hprofile hp.mono hnonneg (by linarith)

end Deadline

/-! ### Half an hour of the session -/

/-- An entry evaluated at 30 seconds, half a minute after the acquisition. -/
def entryAt30 (e : Evidence) : EntryArguments where
  config := ⟨"PA1", "rel", "core", 1, .brokerPaper, "collect-owned-30m-stop100-v1", .modelOnly,
    .paperTime⟩
  observation :=
    { symbol := "AAPL"
      recordedAt := 1
      sourceEnd := 0
      availableAt := 1
      sessionClose := 23400 }
  evidence := some e
  projection := some (projectionAt (fun _ => "evidence") e (halfAhead.read 30) "p1")
  decisionId := "decision"
  inventoryGeneration := 1
  price := 100

/-- At 1830 seconds the provider shows half a second more, and the exit is due. -/
theorem deadline_never_missed_later : ∃ e, acquired = .ok e ∧
    let plan := ProtectionPlan.forDecision ((entryAt30 e).evaluateEntry fun _ => "evidence")
      (entryAt30 e).config
    (∃ expiry ∈ plan.monotonicExpiry, ∃ anchor ∈ plan.monotonicAnchor, expiry ≤ anchor + 1800) ∧
      exitDue plan none (plan.elapsed "p1" (halfAhead.read 1830)) = true := by
  obtain ⟨e, he, hs, hbuy, hdeadline, hprocess⟩ : ∃ e, acquired = .ok e ∧
      firstSample ∈ e.samples ∧
      ((entryAt30 e).evaluateEntry fun _ => "evidence").action = .buy ∧
      (ProtectionPlan.forDecision ((entryAt30 e).evaluateEntry fun _ => "evidence")
        (entryAt30 e).config).deadline + 1 / 1000 ≤ halfAhead.provider 1830 ∧
      e.processId = "p1" :=
    ⟨_, rfl, by decide +kernel, by decide +kernel, by decide +kernel, rfl⟩
  have hstamp : halfAhead.StampRead (7 / 10) (1 / 1000) firstSample :=
    ⟨1 / 10, 2004 / 10000, 3 / 10, by decide +kernel, by decide +kernel, by decide +kernel, rfl, rfl,
      by decide +kernel⟩
  have hhonest : Honest halfAhead (7 / 10) (1 / 2) (1 / 1000) e :=
    ⟨⟨_, _, _, _, _, _, he⟩, fun _ _ => rfl, firstSample, hs, hstamp⟩
  have hanchored : AnchoredAt halfAhead ((entryAt30 e).evaluateEntry fun _ => "evidence") 30 :=
    ⟨rfl, rfl⟩
  obtain ⟨hexpiry, _, hclear, hdue⟩ := deadline_never_missed (T := ℚ)
  refine ⟨e, he, ?_, ?_⟩
  · obtain ⟨expiry, hsome⟩ : ∃ expiry, (ProtectionPlan.forDecision
        ((entryAt30 e).evaluateEntry fun _ => "evidence")
        (entryAt30 e).config).monotonicExpiry = some expiry := ⟨_, rfl⟩
    obtain ⟨anchor, hanchor, hle⟩ := hexpiry _ _ _ hsome
    exact ⟨expiry, hsome, anchor, hanchor, hle⟩
  · have hpace : halfAhead.provider 1830 - halfAhead.provider 30 =
        halfAhead.mono 1830 - halfAhead.mono 30 := by decide +kernel
    have hlater := (hdue _ (entryAt30 e) e rfl (hclear _ _ hbuy) rfl halfAhead (7 / 10) 30 1830
      (1 / 2) (1 / 1000) hhonest hanchored (by norm_num) hpace none).1 rfl hdeadline
    rw [hprocess] at hlater
    exact hlater

end Quantbot.L4.TimeEvidence
