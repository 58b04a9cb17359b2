import Quantbot.L3Research.Promotion

/-!
# Runs of the ladder

Every call on `PromotionLedger`, both sweeps and a stored material change, in any order. A
call that raises leaves the ladder as it was.

* `promote_passed`: a promotion passed the gates of its target.
* `apply_kept`: what one call keeps, and what can raise a stage.
* `ladder_earned`: both, over every run whose calls are `Plain`. `demote` tests the table of
  promotions, so it also walks upward along it, past every gate.
-/
namespace Quantbot.L3.Promotion

open Core L1 L2
open Txn (except_bind_ok)
seal L1.strip

/-! ## The validator -/

/-- What the constructor checks of the fields. -/
structure Fields (s : PromotionState) : Prop where
  strategyId : strip s.strategyId ≠ ""
  strategyVersion : strip s.strategyVersion ≠ ""
  configurationHash : strip s.configurationHash ≠ ""
  reason : strip s.reason ≠ ""
  actor : strip s.actor ≠ ""
  version : ∀ v ∈ s.hypothesisVersion, 1 ≤ v
  both : s.hypothesisId.isNone = s.hypothesisVersion.isNone

/-- And of the state as a whole. -/
structure Valid (s : PromotionState) : Prop extends Fields s where
  named : s.stage.economic = true → s.missing = []

variable {s : PromotionState} {raw : PromotionState}

theorem construct_ok : raw.construct = .ok s ↔ Valid raw ∧ raw.stripped = s := by
  unfold PromotionState.construct; dsimp only; constructor
  · intro h; split at h
    · simp at h
    next htexts =>
    split at h
    · simp at h
    next hversion =>
    split at h
    · simp at h
    next hboth =>
    split at h
    · simp at h
    next hnamed =>
    simp only [not_or] at htexts
    refine ⟨⟨⟨htexts.1, htexts.2.1, htexts.2.2.1, htexts.2.2.2.1, htexts.2.2.2.2, ?_,
      not_not.1 hboth⟩, ?_⟩, Except.ok.inj h⟩
    · intro v hv
      have : ¬ (v < 1) := by
        have hall := hversion
        rw [show raw.stripped.hypothesisVersion = some v from hv] at hall
        simpa using hall
      omega
    · intro hecon; by_contra hmissing; exact hnamed ⟨hecon, hmissing⟩
  · rintro ⟨hv, rfl⟩
    have htexts : ¬ (raw.stripped.strategyId = "" ∨ raw.stripped.strategyVersion = "" ∨
        raw.stripped.configurationHash = "" ∨ raw.stripped.reason = "" ∨
        raw.stripped.actor = "") := by
      simp only [not_or]
      exact ⟨hv.strategyId, hv.strategyVersion, hv.configurationHash, hv.reason, hv.actor⟩
    have hversion : ¬ (raw.stripped.hypothesisVersion.any (· < 1)) = true := by
      intro hany; obtain ⟨v, hsome, hlt⟩ := (Option.any_eq_true _ _).1 hany
      have := hv.version v hsome; have : v < 1 := by simpa using hlt
      omega
    have hboth : ¬ (raw.stripped.hypothesisId.isNone ≠ raw.stripped.hypothesisVersion.isNone) :=
      not_not.2 hv.both
    have hnamed : ¬ (raw.stripped.stage.economic = true ∧ raw.stripped.missing ≠ []) := by
      rintro ⟨hecon, hmissing⟩; exact hmissing (hv.named hecon)
    rw [if_neg htexts, if_neg hversion, if_neg hboth, if_neg hnamed]

theorem Valid.stripped (h : Valid s) : Valid s.stripped where
  strategyId := by show strip (strip _) ≠ ""; rw [strip_strip]; exact h.strategyId
  strategyVersion := by show strip (strip _) ≠ ""; rw [strip_strip]; exact h.strategyVersion
  configurationHash := by show strip (strip _) ≠ ""; rw [strip_strip]; exact h.configurationHash
  reason := by show strip (strip _) ≠ ""; rw [strip_strip]; exact h.reason
  actor := by show strip (strip _) ≠ ""; rw [strip_strip]; exact h.actor
  version := h.version
  both := h.both
  named := h.named

theorem missing_nil_iff : s.missing = [] ↔ (∃ i, s.hypothesisId = some i ∧ i ≠ "") ∧
      (∃ o, s.objectiveIdentity = some o ∧ o ≠ "") ∧ ∃ e, s.evidenceIdentity = some e ∧ e ≠ "" := by
  have hblank : ∀ o : Option String, isBlank o = false ↔ ∃ t, o = some t ∧ t ≠ "" := by
    intro o; unfold isBlank; cases o <;> simp
  unfold PromotionState.missing objection; rw [← hblank, ← hblank, ← hblank]
  cases isBlank s.hypothesisId <;> cases isBlank s.objectiveIdentity <;>
    cases isBlank s.evidenceIdentity <;> simp

/-! ## Moves -/

section Moved
variable (s : PromotionState) (target : Stage) (actor reason : String) (now : Int)

@[simp] theorem moved_stage : (s.moved target actor reason now).stage = target := by
  unfold PromotionState.moved droppedBy; dsimp only; split <;> split <;> rfl

@[simp] theorem moved_strategyId : (s.moved target actor reason now).strategyId = s.strategyId := by
  unfold PromotionState.moved droppedBy; dsimp only; split <;> split <;> rfl

@[simp] theorem moved_strategyVersion :
    (s.moved target actor reason now).strategyVersion = s.strategyVersion := by
  unfold PromotionState.moved droppedBy; dsimp only; split <;> split <;> rfl

@[simp] theorem moved_configurationHash :
    (s.moved target actor reason now).configurationHash = s.configurationHash := by
  unfold PromotionState.moved droppedBy; dsimp only; split <;> split <;> rfl

@[simp] theorem moved_reason : (s.moved target actor reason now).reason = reason := by
  unfold PromotionState.moved droppedBy; dsimp only; split <;> split <;> rfl

@[simp] theorem moved_actor : (s.moved target actor reason now).actor = actor := by
  unfold PromotionState.moved droppedBy; dsimp only; split <;> split <;> rfl

theorem moved_hypothesis : (s.moved target actor reason now).hypothesisId =
        (if target = .candidate then none else s.hypothesisId) ∧
      (s.moved target actor reason now).hypothesisVersion =
        if target = .candidate then none else s.hypothesisVersion := by
  unfold PromotionState.moved droppedBy; dsimp only
  split <;> split <;> exact ⟨rfl, rfl⟩

theorem moved_identities : (s.moved target actor reason now).objectiveIdentity =
        (if target.economic then s.objectiveIdentity else none) ∧
      (s.moved target actor reason now).evidenceIdentity =
        if target.economic then s.evidenceIdentity else none := by
  unfold PromotionState.moved droppedBy; cases target <;> exact ⟨rfl, rfl⟩

end Moved

/-- A stored state that reloads, with the two identities exactly at the economic stages. -/
structure Sound (row : PromotionState) : Prop where
  loads : ∃ s, row.construct = .ok s
  objective : row.objectiveIdentity.isSome = row.stage.economic
  evidence : row.evidenceIdentity.isSome = row.stage.economic

variable {row : PromotionState}

theorem sound_of_economic (hv : Valid row) (hecon : row.stage.economic = true) : Sound row := by
  obtain ⟨-, ⟨o, ho, -⟩, e, he, -⟩ := missing_nil_iff.1 (hv.named hecon)
  exact ⟨⟨_, construct_ok.2 ⟨hv, rfl⟩⟩, by rw [ho, hecon]; rfl, by rw [he, hecon]; rfl⟩

theorem sound_of_plain (hf : Fields row) (hecon : row.stage.economic = false)
    (ho : row.objectiveIdentity = none) (he : row.evidenceIdentity = none) : Sound row := by
  have hv : Valid row := ⟨hf, fun h => by rw [hecon] at h; cases h⟩
  exact ⟨⟨_, construct_ok.2 ⟨hv, rfl⟩⟩, by rw [ho, hecon]; rfl, by rw [he, hecon]; rfl⟩

section Fields
variable {s : PromotionState} {target : Stage} {actor reason : String} {now : Int}

theorem Fields.moved (h : Fields s) (hactor : strip actor ≠ "") (hreason : strip reason ≠ "") :
    Fields (s.moved target actor reason now) := by
  obtain ⟨hid, hversion⟩ := moved_hypothesis s target actor reason now
  refine ⟨?_, ?_, ?_, ?_, ?_, ?_, ?_⟩
  · rw [moved_strategyId]; exact h.strategyId
  · rw [moved_strategyVersion]; exact h.strategyVersion
  · rw [moved_configurationHash]; exact h.configurationHash
  · rw [moved_reason]; exact hreason
  · rw [moved_actor]; exact hactor
  · rw [hversion]; split
    · exact fun _ hv => absurd hv (by simp)
    · exact h.version
  · rw [hid, hversion]; split
    · rfl
    · exact h.both

theorem Fields.moved_sound (h : Fields s) (hactor : strip actor ≠ "") (hreason : strip reason ≠ "")
    (hplain : target.economic = false) : Sound (s.moved target actor reason now) := by
  obtain ⟨ho, he⟩ := moved_identities s target actor reason now
  refine sound_of_plain (h.moved hactor hreason) ?_ ?_ ?_
  · rw [moved_stage]; exact hplain
  · rw [ho, hplain]; rfl
  · rw [he, hplain]; rfl

theorem Valid.moved_sound (h : Valid s) (hactor : strip actor ≠ "") (hreason : strip reason ≠ "")
    (hfrom : target.economic = true → s.stage.economic = true) :
    Sound (s.moved target actor reason now) := by
  cases hecon : target.economic with
  | false => exact h.toFields.moved_sound hactor hreason hecon
  | true =>
    have hnamed := missing_nil_iff.1 (h.named (hfrom hecon))
    have hstage := moved_stage s target actor reason now
    obtain ⟨hid, -⟩ := moved_hypothesis s target actor reason now
    obtain ⟨ho, he⟩ := moved_identities s target actor reason now
    have hcandidate : target ≠ .candidate := by
      intro hc; rw [hc] at hecon; cases hecon
    rw [if_neg hcandidate] at hid; rw [hecon, if_pos rfl] at ho he
    refine sound_of_economic ⟨h.toFields.moved hactor hreason, fun _ => missing_nil_iff.2 ?_⟩
      ((congrArg Stage.economic hstage).trans hecon)
    rw [hid, ho, he]; exact hnamed

end Fields

/-! ## Promotions -/

/-- What the gates of each stage ask, over what the call reads. -/
def Passed (s : PromotionState) (target : Stage) (args : PromoteArgs) (readings : Ladder.Readings) :
    Prop :=
  target ∈ s.stage.allowedPromotions ∧ args.integrityClear = true ∧
  match target with
  | .registered => ∃ id, args.hypothesisId = some id ∧
      ∀ claim ∈ s.claim, claim = (id, args.hypothesisVersion)
  | .researchSurvivor => ∃ outcome, args.outcome = some outcome ∧
      s.claim = some (outcome.plan.hypothesisId, outcome.plan.hypothesisVersion) ∧
      survivorObjections outcome = []
  | .paperQualified => ∃ objective, readings.mandate = .ok objective ∧
      minimumForwardDays ≤ (countForwardDays (observeForwardDays readings.trading s.strategyId
        s.strategyVersion s.configurationHash) s.strategyVersion s.configurationHash).1 ∧
      minimumForwardTrades ≤ (countForwardDays (observeForwardDays readings.trading s.strategyId
        s.strategyVersion s.configurationHash) s.strategyVersion s.configurationHash).2 ∧
      (assessForwardEvidence s.claim readings.claims readings.trading objective readings.measured
        s.strategyId s.strategyVersion s.configurationHash).supported = true
  | .liveReviewEligible => ∃ objective, readings.mandate = .ok objective ∧
      objective.ratificationObjections = [] ∧ s.objectiveIdentity = some objective.identity
  | .candidate | .shadow | .paperObservation => True

section Promote
variable {s m : PromotionState} {target : Stage} {args : PromoteArgs}

variable {u : Unit}

theorem require_ok {holds : Prop} [Decidable holds] {strategyId reason : String} :
    require holds strategyId target reason = .ok u ↔ holds := by
  unfold require; split <;> simp_all

theorem promote_ok (h : promote s target args = .ok m) :
    target ∈ s.stage.allowedPromotions ∧ args.integrityClear = true ∧
      ∃ bound, bindClaim s (s.moved target args.actor args.reason args.now) target args = .ok bound ∧
        earned s bound target args = .ok m := by
  unfold promote at h; obtain ⟨_, hallowed, h⟩ := except_bind_ok.1 h
  obtain ⟨_, hclear, h⟩ := except_bind_ok.1 h
  obtain ⟨bound, hbound, h⟩ := except_bind_ok.1 h
  exact ⟨require_ok.1 hallowed, require_ok.1 hclear, bound, hbound, h⟩

variable {moved bound : PromotionState}

theorem bindClaim_registered (h : bindClaim s moved .registered args = .ok bound) :
    ∃ id, args.hypothesisId = some id ∧ (∀ claim ∈ s.claim, claim = (id, args.hypothesisVersion)) ∧
      bound = { moved with
        hypothesisId := some id, hypothesisVersion := some args.hypothesisVersion } := by
  unfold bindClaim at h
  cases hid : args.hypothesisId with
  | none => simp [hid] at h
  | some id =>
    simp only [hid] at h; split at h
    · simp at h
    next hnot =>
    refine ⟨id, rfl, ?_, (Except.ok.inj h).symm⟩; intro claim hclaim
    by_contra hne; refine hnot ?_; rw [show s.claim = some claim from hclaim]
    simpa using hne

theorem bindClaim_other (hne : target ≠ .registered)
    (h : bindClaim s moved target args = .ok bound) : bound = moved := by
  unfold bindClaim at h
  cases hid : args.hypothesisId with
  | none | some _ => cases target <;> simp_all

theorem survivorGate_ok (h : survivorGate s args = .ok u) : ∃ outcome, args.outcome = some outcome ∧
      s.claim = some (outcome.plan.hypothesisId, outcome.plan.hypothesisVersion) ∧
      survivorObjections outcome = [] := by
  unfold survivorGate at h
  cases houtcome : args.outcome with
  | none => simp [houtcome] at h
  | some outcome =>
    cases hclaim : s.claim with
    | none => simp [houtcome, hclaim] at h
    | some claim =>
      simp only [houtcome, hclaim] at h; split at h
      · simp at h
      next hsame =>
      split at h
      · simp at h
      · next hnone =>
        exact ⟨outcome, rfl, congrArg some (not_not.1 hsame).symm, not_not.1 hnone⟩

theorem qualificationGate_ok {evidence : ForwardEvidence}
    (h : qualificationGate s args = .ok evidence) :
    ∃ observations, args.observations = some observations ∧ args.evidence = some evidence ∧
      minimumForwardDays ≤ (countForwardDays observations s.strategyVersion s.configurationHash).1 ∧
      minimumForwardTrades ≤ (countForwardDays observations s.strategyVersion s.configurationHash).2 ∧
      evidence.supported = true := by
  unfold qualificationGate at h
  cases hobs : args.observations with
  | none => simp [hobs] at h
  | some observations =>
    simp only [hobs] at h; split at h
    · simp at h
    next hcounts =>
    cases hev : args.evidence with
    | none => simp [hev] at h
    | some found =>
      simp only [hev] at h; split at h
      · simp at h
      split at h
      · simp at h
      cases hclaim : s.claim with
      | none => simp [hclaim] at h
      | some claim =>
        simp only [hclaim] at h; split at h
        · simp at h
        split at h
        · simp at h
        next hsupported =>
        cases h
        exact ⟨observations, rfl, rfl, by omega, by omega, by simpa using hsupported⟩

theorem reviewGate_ok (h : reviewGate s args = .ok u) :
    ∃ objective, args.objective = some objective ∧ objective.ratificationObjections = [] ∧
      s.objectiveIdentity = some objective.identity := by
  unfold reviewGate at h
  cases hobjective : args.objective with
  | none => simp [hobjective] at h
  | some objective =>
    simp only [hobjective] at h; split at h
    · simp at h
    next hnone =>
    split at h
    · simp at h
    · next hsame => exact ⟨objective, rfl, not_not.1 hnone, (not_not.1 hsame).symm⟩

end Promote

/-- What a call reads stands in for what it was given, and nothing else changes. -/
structure ReadArguments (s : PromotionState) (target : Stage) (args read : PromoteArgs)
    (readings : Ladder.Readings) : Prop where
  actor : read.actor = args.actor
  reason : read.reason = args.reason
  now : read.now = args.now
  outcome : read.outcome = args.outcome
  hypothesisId : read.hypothesisId = args.hypothesisId
  hypothesisVersion : read.hypothesisVersion = args.hypothesisVersion
  integrityClear : read.integrityClear = args.integrityClear
  review : target = .liveReviewEligible → target ∈ s.stage.allowedPromotions →
    ∃ objective, readings.mandate = .ok objective ∧ read.objective = some objective
  qualification : target = .paperQualified → target ∈ s.stage.allowedPromotions →
    ∃ objective, readings.mandate = .ok objective ∧
      read.observations = some (observeForwardDays readings.trading s.strategyId s.strategyVersion
        s.configurationHash) ∧
      read.evidence = some (assessForwardEvidence s.claim readings.claims readings.trading objective
        readings.measured s.strategyId s.strategyVersion s.configurationHash)

section Ledger
variable {s m : PromotionState} {target : Stage} {args read : PromoteArgs}
  {readings : Ladder.Readings}

theorem arguments_ok {accountId : Option String}
    (h : Ladder.arguments s target accountId args readings = .ok read) :
    ReadArguments s target args read readings := by
  unfold Ladder.arguments at h; dsimp only at h; split at h
  · next hreview =>
    split at h
    · simp at h
    cases hmandate : readings.mandate with
    | error message => simp [hmandate] at h
    | ok objective =>
      simp only [hmandate] at h; cases h
      exact ⟨rfl, rfl, rfl, rfl, rfl, rfl, rfl, fun _ _ => ⟨objective, hmandate, rfl⟩,
        fun hq _ => by rw [hreview.1] at hq; cases hq⟩
  · next hreview =>
    split at h
    · next hqualified =>
      split at h
      · simp at h
      split at h
      · simp at h
      split at h
      · simp at h
      cases hmandate : readings.mandate with
      | error message => simp [hmandate] at h
      | ok objective =>
        simp only [hmandate] at h; cases h
        exact ⟨rfl, rfl, rfl, rfl, rfl, rfl, rfl, fun ht ha => absurd ⟨ht, ha⟩ hreview,
          fun _ _ => ⟨objective, hmandate, rfl, rfl⟩⟩
    · next hqualified =>
      cases h
      exact ⟨rfl, rfl, rfl, rfl, rfl, rfl, rfl, fun ht ha => absurd ⟨ht, ha⟩ hreview,
        fun ht ha => absurd ⟨ht, ha⟩ hqualified⟩

/-- **A promotion passed the gates of its target.** -/
theorem promote_passed (hread : ReadArguments s target args read readings)
    (h : promote s target read = .ok m) : Passed s target args readings := by
  obtain ⟨hallowed, hclear, bound, hbound, hearned⟩ := promote_ok h
  refine ⟨hallowed, hread.integrityClear ▸ hclear, ?_⟩
  cases target with
  | candidate | shadow | paperObservation => trivial
  | registered =>
    obtain ⟨id, hid, hclaim, -⟩ := bindClaim_registered hbound
    rw [hread.hypothesisId] at hid; rw [hread.hypothesisVersion] at hclaim
    exact ⟨id, hid, hclaim⟩
  | researchSurvivor =>
    unfold earned at hearned
    cases hgate : survivorGate s read with
    | error e => simp [hgate, Except.map] at hearned
    | ok u =>
      have := survivorGate_ok hgate; rwa [hread.outcome] at this
  | paperQualified =>
    unfold earned at hearned
    cases hgate : qualificationGate s read with
    | error e => simp [hgate, Except.map] at hearned
    | ok evidence =>
      obtain ⟨observations, hobs, hev, hdays, htrades, hsupported⟩ := qualificationGate_ok hgate
      obtain ⟨objective, hmandate, hobs', hev'⟩ := hread.qualification rfl hallowed
      obtain rfl := Option.some.inj (hobs'.symm.trans hobs)
      obtain rfl := Option.some.inj (hev'.symm.trans hev)
      exact ⟨objective, hmandate, hdays, htrades, hsupported⟩
  | liveReviewEligible =>
    unfold earned at hearned
    cases hgate : reviewGate s read with
    | error e => simp [hgate, Except.map] at hearned
    | ok u =>
      obtain ⟨objective, hobj, hnone, hsame⟩ := reviewGate_ok hgate
      obtain ⟨objective', hmandate, hobj'⟩ := hread.review rfl hallowed
      obtain rfl := Option.some.inj (hobj'.symm.trans hobj)
      exact ⟨objective', hmandate, hnone, hsame⟩

theorem supported_named {bound : Option (String × Int)} {claims : ClaimBook}
    {ledger : TradingLedger} {objective : EconomicObjective} {measured : Measurement}
    {strategyId strategyVersion configurationHash : String}
    (h : (assessForwardEvidence bound claims ledger objective measured strategyId strategyVersion
      configurationHash).supported = true) : ∃ claim, bound = some claim ∧ claim.1 ≠ "" := by
  have hverdict := of_decide_eq_true h
  unfold assessForwardEvidence forwardVerdict at hverdict
  dsimp only at hverdict; split at hverdict
  · cases hverdict
  split at hverdict
  · cases hverdict
  split at hverdict
  · cases hverdict
  split at hverdict
  · cases hverdict
  next hobjections =>
  cases hclaim : bound.filter fun b => b ∈ claims.rows with
  | none =>
    refine absurd (.inl ?_) hobjections; rw [hclaim]; unfold objection; simp
  | some claim =>
    obtain ⟨hsome, hmem⟩ := Option.filter_eq_some_iff.1 hclaim
    exact ⟨claim, hsome, claims.named claim (by simpa using hmem)⟩

theorem claim_hypothesisId {claim : String × Int} (h : s.claim = some claim) :
    s.hypothesisId = some claim.1 := by
  unfold PromotionState.claim at h
  cases hid : s.hypothesisId with
  | none => simp [hid] at h
  | some id =>
    cases hversion : s.hypothesisVersion with
    | none => simp [hid, hversion] at h
    | some version =>
      simp only [hid, hversion] at h; rw [← Option.some.inj h]

theorem EconomicObjective.identity_ne_empty (o : EconomicObjective) : o.identity ≠ "" := by
  unfold EconomicObjective.identity; simp

theorem ForwardEvidence.identity_ne_empty (e : ForwardEvidence) : e.identity ≠ "" := by
  unfold ForwardEvidence.identity; simp

/-- **A promotion leaves a sound state**, given a nonblank actor and reason and a version
from 1 on for the claim it binds. -/
theorem promote_sound (hs : Valid s) (hread : ReadArguments s target args read readings)
    (hactor : strip args.actor ≠ "") (hreason : strip args.reason ≠ "")
    (hversion : target = .registered → 1 ≤ args.hypothesisVersion)
    (h : promote s target read = .ok m) : Sound m ∧ m.stage = target ∧ m.strategyId = s.strategyId := by
  obtain ⟨hallowed, -, bound, hbound, hearned⟩ := promote_ok h
  rw [← hread.actor] at hactor; rw [← hread.reason] at hreason
  have hplain : ∀ t : Stage, t.economic = false →
      Sound (s.moved t read.actor read.reason read.now) :=
    fun t ht => hs.toFields.moved_sound hactor hreason ht
  have hfields : ∀ t : Stage, Fields (s.moved t read.actor read.reason read.now) :=
    fun t => hs.moved hactor hreason
  cases target with
  | candidate | shadow | paperObservation =>
    obtain rfl := bindClaim_other (by decide) hbound; cases hearned
    exact ⟨hplain _ rfl, moved_stage .., moved_strategyId ..⟩
  | registered =>
    obtain ⟨id, -, -, rfl⟩ := bindClaim_registered hbound; cases hearned
    have hf := hfields .registered
    obtain ⟨ho, he⟩ := moved_identities s .registered read.actor read.reason read.now
    have hstage := moved_stage s .registered read.actor read.reason read.now
    refine ⟨sound_of_plain ?_ (congrArg Stage.economic hstage) ho he, hstage, moved_strategyId ..⟩
    refine ⟨hf.strategyId, hf.strategyVersion, hf.configurationHash, hf.reason, hf.actor, ?_, rfl⟩
    intro v hv; cases hv; rw [hread.hypothesisVersion]; exact hversion rfl
  | researchSurvivor =>
    obtain rfl := bindClaim_other (by decide) hbound; unfold earned at hearned
    cases hgate : survivorGate s read with
    | error e => simp [hgate, Except.map] at hearned
    | ok u =>
      simp only [hgate, Except.map] at hearned; cases hearned
      exact ⟨hplain _ rfl, moved_stage .., moved_strategyId ..⟩
  | paperQualified =>
    obtain rfl := bindClaim_other (by decide) hbound; unfold earned at hearned
    cases hgate : qualificationGate s read with
    | error e => simp [hgate, Except.map] at hearned
    | ok evidence =>
      simp only [hgate, Except.map] at hearned; cases hearned
      obtain ⟨-, -, hev, -, -, hsupported⟩ := qualificationGate_ok hgate
      obtain ⟨objective, -, -, hev'⟩ := hread.qualification rfl hallowed
      obtain rfl := Option.some.inj (hev'.symm.trans hev)
      obtain ⟨claim, hclaim, hname⟩ := supported_named hsupported
      have hf := hfields .paperQualified
      have hstage := moved_stage s .paperQualified read.actor read.reason read.now
      obtain ⟨hid, -⟩ := moved_hypothesis s .paperQualified read.actor read.reason read.now
      refine ⟨sound_of_economic ⟨⟨hf.strategyId, hf.strategyVersion, hf.configurationHash, hf.reason,
        hf.actor, hf.version, hf.both⟩, fun _ => missing_nil_iff.2 ⟨⟨claim.1, ?_, hname⟩,
        ⟨_, rfl, objective.identity_ne_empty⟩, _, rfl, ForwardEvidence.identity_ne_empty _⟩⟩
        (congrArg Stage.economic hstage), hstage, moved_strategyId ..⟩
      exact hid.trans (claim_hypothesisId hclaim)
  | liveReviewEligible =>
    obtain rfl := bindClaim_other (by decide) hbound; unfold earned at hearned
    cases hgate : reviewGate s read with
    | error e => simp [hgate, Except.map] at hearned
    | ok u =>
      simp only [hgate, Except.map] at hearned; cases hearned
      -- only a qualified strategy is offered for review, and it keeps what it names
      have hqualified : s.stage.economic = true := by
        cases hstage : s.stage <;> rw [hstage] at hallowed <;> simp [Stage.allowedPromotions] at hallowed
        rfl
      exact ⟨hs.moved_sound hactor hreason fun _ => hqualified, moved_stage .., moved_strategyId ..⟩

end Ledger
/-! ## Calls -/

inductive Call
  | enter (raw : PromotionState)
  | promote (strategyId : String) (target : Stage) (accountId : Option String) (args : PromoteArgs)
      (readings : Ladder.Readings)
  | demote (strategyId : String) (target : Stage) (actor reason : String) (now : Int)
  | integritySweep (incidents : List (Option String × String × String)) (actor : String) (now : Int)
  | refutedSweep (refutations : String → List String) (actor : String) (now : Int)
  | materialChange (strategyId strategyVersion configurationHash : String) (now : Int)

/-- One call; `enter` takes a constructed state. -/
def Ladder.apply (l : Ladder) : Call → Except PromotionError Ladder
  | .enter raw => do l.enter (← raw.construct)
  | .promote id target accountId args readings => l.promote id target accountId args readings
  | .demote id target actor reason now => l.demote id target actor reason now
  | .integritySweep incidents actor now => l.demoteOnIntegrityIncidents incidents actor now
  | .refutedSweep refutations actor now => l.demoteOnRefutedClaims refutations actor now
  | .materialChange id version hash now => l.materialChange id version hash now

/-- The ladder under any calls, from an empty ledger. A call that raises stores nothing. -/
def ladderRuns : LTS Ladder Call where
  init l := l = {}
  step l call l' := l.apply call = .ok l' ∨ (∃ e, l.apply call = .error e) ∧ l' = l

/-- A call that cannot slip past the gates or past the validator: what it stores has its texts,
an entry carries no identities, and a demotion goes down. -/
def Plain (l : Ladder) : Call → Prop
  | .enter raw => raw.objectiveIdentity = none ∧ raw.evidenceIdentity = none
  | .promote _ target _ args _ => strip args.actor ≠ "" ∧ strip args.reason ≠ "" ∧
      (target = .registered → 1 ≤ args.hypothesisVersion)
  | .demote id target actor reason _ => strip actor ≠ "" ∧ strip reason ≠ "" ∧
      ∀ row ∈ l.states.get? id, target.rank < row.stage.rank
  | .integritySweep incidents actor _ =>
      (∃ row ∈ l.listPromotions, Ladder.integrityDue incidents row = true) → strip actor ≠ ""
  | .refutedSweep refutations actor _ =>
      (∃ row ∈ l.listPromotions, Ladder.refutedDue refutations row = true) → strip actor ≠ ""
  | .materialChange _ version hash _ => strip version ≠ "" ∧ strip hash ≠ ""

/-- `Plain`, or refused. -/
def Tame (l : Ladder) (call : Call) (_ : Ladder) : Prop :=
  Plain l call ∨ ∃ e, l.apply call = .error e

/-- A stage rises in a promotion that passed the gates of the stage it rises to. -/
def Climbs (l : Ladder) (call : Call) (l' : Ladder) : Prop :=
  ∀ id row row', l.states.get? id = some row → l'.states.get? id = some row' →
    row.stage.rank < row'.stage.rank → ∃ target accountId args readings,
      call = .promote id target accountId args readings ∧ row'.stage = target ∧
      Passed row.stripped target args readings

/-- Every stored row is sound, and its key is a stripped text. -/
def Kept (l : Ladder) : Prop :=
  ∀ row ∈ l.states.rows, Sound row ∧ strip row.strategyId = row.strategyId

/-- Every strategy is still there, no higher than before. -/
def NoRise (l l' : Ladder) : Prop :=
  ∀ id row, l.states.get? id = some row →
    ∃ row', l'.states.get? id = some row' ∧ row'.stage.rank ≤ row.stage.rank

theorem NoRise.refl (l : Ladder) : NoRise l l := fun _ row h => ⟨row, h, le_refl _⟩

theorem NoRise.trans {l l' l'' : Ladder} (h : NoRise l l') (h' : NoRise l' l'') : NoRise l l'' := by
  intro id row hrow; obtain ⟨row', hrow', hle⟩ := h id row hrow
  obtain ⟨row'', hrow'', hle'⟩ := h' id row' hrow'
  exact ⟨row'', hrow'', by omega⟩

variable {call : Call}

theorem NoRise.climbs {l l' : Ladder} (h : NoRise l l') : Climbs l call l' := by
  intro id row row' hrow hrow' hlt; obtain ⟨found, hfound, hle⟩ := h id row hrow
  obtain rfl := Option.some.inj (hfound.symm.trans hrow'); omega

section Calls
variable {l l' : Ladder} {id actor reason : String} {target : Stage} {now : Int}

theorem requireState_ok {s : PromotionState} (hk : Kept l) (h : l.requireState id = .ok s) :
    ∃ row, l.states.get? id = some row ∧ s = row.stripped ∧ Valid s ∧ s.strategyId = id ∧
      strip id = id := by
  unfold Ladder.requireState at h
  obtain ⟨found, hfound, h⟩ := except_bind_ok.1 h
  unfold Ladder.current at hfound
  cases hrow : l.states.get? id with
  | none =>
    simp only [hrow] at hfound; cases hfound; cases h
  | some row =>
    obtain ⟨hmem, hkey⟩ := Table.get?_some hrow
    obtain ⟨hsound, hstrip⟩ := hk row hmem; obtain ⟨t, ht⟩ := hsound.loads
    simp only [hrow, ht, Except.map] at hfound; cases hfound; cases h
    obtain ⟨hv, rfl⟩ := construct_ok.1 ht
    exact ⟨row, rfl, rfl, hv.stripped, hstrip.trans hkey, by rw [← hkey, hstrip]⟩

variable {direction : Direction} {m : PromotionState}

theorem Kept.save (hk : Kept l) (hm : Sound m) (hid : strip m.strategyId = m.strategyId) :
    Kept (l.save m direction) := by
  intro row hrow
  have hget : (l.save m direction).states.get? row.strategyId = some row := Table.get?_key.2 hrow
  unfold Ladder.save at hget; rw [Table.get?_upsert] at hget; split at hget
  · cases hget; exact ⟨hm, hid⟩
  · exact hk row (Table.get?_key.1 hget)

theorem save_get? (k : String) :
    (l.save m direction).states.get? k = if m.strategyId = k then some m else l.states.get? k :=
  Table.get?_upsert _ _ _

theorem NoRise.save (hid : m.strategyId = id)
    (hrow : l.states.get? id = some row) (hle : m.stage.rank ≤ row.stage.rank) :
    NoRise l (l.save m direction) := by
  intro k found hfound; rw [save_get?]; by_cases hk : m.strategyId = k
  · rw [if_pos hk]; obtain rfl := hid.symm.trans hk
    obtain rfl := Option.some.inj (hrow.symm.trans hfound); exact ⟨m, rfl, hle⟩
  · rw [if_neg hk]; exact ⟨found, hfound, le_refl _⟩

theorem demote_ok {s : PromotionState} (h : demote s target actor reason now = .ok m) :
    m = s.moved target actor reason now := by
  unfold demote at h; split at h
  · cases h
  · exact (Except.ok.inj h).symm

/-- **A demotion that goes down** keeps every row sound and raises nothing; the other rows
stay. -/
theorem demote_kept (hk : Kept l) (hactor : strip actor ≠ "") (hreason : strip reason ≠ "")
    (hdown : ∀ row ∈ l.states.get? id, target.rank < row.stage.rank)
    (h : l.demote id target actor reason now = .ok l') :
    Kept l' ∧ NoRise l l' ∧ ∀ k, k ≠ id → l'.states.get? k = l.states.get? k := by
  unfold Ladder.demote at h; obtain ⟨s, hs, h⟩ := except_bind_ok.1 h
  obtain ⟨m, hm, h⟩ := except_bind_ok.1 h; cases h
  obtain ⟨row, hrow, rfl, hv, hid, hstrip⟩ := requireState_ok hk hs
  obtain rfl := demote_ok hm
  have hlt : target.rank < row.stage.rank := hdown row hrow
  have hmid : (row.stripped.moved target actor reason now).strategyId = id :=
    (moved_strategyId ..).trans hid
  have hfrom : target.economic = true → row.stripped.stage.economic = true := by
    intro htarget; have := (Stage.economic_iff _).1 htarget
    refine (Stage.economic_iff _).2 ?_
    show Stage.paperQualified.rank ≤ row.stage.rank; omega
  refine ⟨hk.save (hv.moved_sound hactor hreason hfrom) (by rw [hmid, hstrip]), ?_, ?_⟩
  · refine NoRise.save hmid hrow ?_; rw [moved_stage]; omega
  · intro k hne; rw [save_get?, if_neg (by rw [hmid]; exact hne.symm)]

variable {reason : PromotionState → String}

/-- The loop of a sweep, over the records it has still to visit: each is still as listed. -/
theorem sweep_kept {records : List PromotionState}
    (hactor : records ≠ [] → strip actor ≠ "") (hreason : ∀ r ∈ records, strip (reason r) ≠ "")
    (hnodup : (records.map PromotionState.strategyId).Nodup)
    (hdue : ∀ r ∈ records, l.states.get? r.strategyId = some r ∧ target.rank < r.stage.rank)
    (hk : Kept l)
    (h : records.foldlM (fun l r => l.demote r.strategyId target actor (reason r) now) l = .ok l') :
    Kept l' ∧ NoRise l l' := by
  induction records generalizing l with
  | nil =>
    obtain rfl := Except.ok.inj h; exact ⟨hk, .refl l⟩
  | cons r rest ih =>
    rw [List.foldlM_cons] at h; obtain ⟨l₁, h₁, h⟩ := except_bind_ok.1 h
    rw [List.map_cons, List.nodup_cons] at hnodup
    obtain ⟨hr, hlt⟩ := hdue r (by simp)
    have ha : strip actor ≠ "" := hactor (by simp)
    obtain ⟨hk₁, hrise, hframe⟩ := demote_kept hk ha (hreason r (by simp))
      (fun row hrow => by obtain rfl := Option.some.inj (hr.symm.trans hrow); exact hlt) h₁
    obtain ⟨hk', hrise'⟩ := ih (fun _ => ha) (fun t ht => hreason t (by simp [ht])) hnodup.2
      (fun t ht => by
        have hne : t.strategyId ≠ r.strategyId := fun heq =>
          hnodup.1 (heq ▸ List.mem_map_of_mem ht)
        rw [hframe _ hne]; exact hdue t (by simp [ht])) hk₁ h
    exact ⟨hk', hrise.trans hrise'⟩

theorem mem_listPromotions {r : PromotionState} : r ∈ l.listPromotions ↔ r ∈ l.states.rows :=
  (List.perm_insertionSort _ _).mem_iff

/-- **A sweep** to a floor below everything it finds due. -/
theorem sweep_all_kept {due : PromotionState → Bool}
    (hactor : (∃ r ∈ l.listPromotions, due r = true) → strip actor ≠ "")
    (hreason : ∀ r, due r = true → strip (reason r) ≠ "")
    (hdue : ∀ r, due r = true → target.rank < r.stage.rank) (hk : Kept l)
    (h : l.sweep due target actor reason now = .ok l') : Kept l' ∧ NoRise l l' := by
  refine sweep_kept ?_ ?_ ?_ ?_ hk h
  · intro hne; obtain ⟨r, hr⟩ := List.exists_mem_of_ne_nil _ hne
    obtain ⟨hmem, hd⟩ := List.mem_filter.1 hr; exact hactor ⟨r, hmem, hd⟩
  · intro r hr; exact hreason r (List.mem_filter.1 hr).2
  · have hperm : (l.listPromotions.map PromotionState.strategyId).Nodup :=
      ((List.perm_insertionSort _ l.states.rows).map _).nodup_iff.2 l.states.nodup
    exact (List.filter_sublist.map _).nodup hperm
  · intro r hr; obtain ⟨hmem, hd⟩ := List.mem_filter.1 hr
    exact ⟨Table.get?_key.2 (mem_listPromotions.1 hmem), hdue r hd⟩

theorem enter_kept (hk : Kept l) (ho : raw.objectiveIdentity = none)
    (he : raw.evidenceIdentity = none) (h : l.apply (.enter raw) = .ok l') :
    Kept l' ∧ NoRise l l' := by
  obtain ⟨s, hs, h⟩ := except_bind_ok.1 h; obtain ⟨hv, rfl⟩ := construct_ok.1 hs
  unfold Ladder.enter at h; split at h
  · cases h
  next hnew =>
  split at h
  · cases h
  next hplain =>
  cases h
  refine ⟨hk.save (sound_of_plain hv.stripped.toFields (by simpa using hplain) ho he)
    (strip_strip _), ?_⟩
  intro k row hrow; rw [save_get?]; split
  · next hkey =>
    rw [hkey, hrow] at hnew; exact absurd rfl hnew
  · exact ⟨row, hrow, le_refl _⟩

theorem promote_kept {accountId : Option String} {args : PromoteArgs} {readings : Ladder.Readings}
    (hk : Kept l) (hp : Plain l (.promote id target accountId args readings))
    (h : l.promote id target accountId args readings = .ok l') :
    Kept l' ∧ Climbs l (.promote id target accountId args readings) l' := by
  obtain ⟨hactor, hreason, hversion⟩ := hp; unfold Ladder.promote at h
  obtain ⟨s, hs, h⟩ := except_bind_ok.1 h
  obtain ⟨read, hread, h⟩ := except_bind_ok.1 h
  obtain ⟨m, hm, h⟩ := except_bind_ok.1 h; cases h
  obtain ⟨row, hrow, rfl, hv, hid, hstrip⟩ := requireState_ok hk hs
  have hread := arguments_ok hread
  obtain ⟨hsound, hstage, hmid⟩ := promote_sound hv hread hactor hreason hversion hm
  have hmid : m.strategyId = id := hmid.trans hid
  refine ⟨hk.save hsound (by rw [hmid, hstrip]), ?_⟩
  intro k found found' hfound hfound' hlt; rw [save_get?] at hfound'
  split at hfound'
  · next hkey =>
    obtain rfl := hmid.symm.trans hkey
    obtain rfl := Option.some.inj (hrow.symm.trans hfound); cases hfound'
    exact ⟨target, accountId, args, readings, rfl, hstage, promote_passed hread hm⟩
  · obtain rfl := Option.some.inj (hfound.symm.trans hfound'); omega

/-- **A material change** only lowers. -/
theorem materialChange_kept {version hash : String} (hk : Kept l) (hversion : strip version ≠ "")
    (hhash : strip hash ≠ "") (h : l.materialChange id version hash now = .ok l') :
    Kept l' ∧ NoRise l l' := by
  unfold Ladder.materialChange at h; obtain ⟨s, hs, h⟩ := except_bind_ok.1 h
  cases h; obtain ⟨row, hrow, rfl, hv, hid, hstrip⟩ := requireState_ok hk hs
  have hrowSound := (hk row (Table.get?_some hrow).1).1
  unfold Promotion.materialChange; split
  · refine ⟨hk.save ⟨⟨_, construct_ok.2 ⟨hv, rfl⟩⟩, hrowSound.objective, hrowSound.evidence⟩
      (by rw [hid, hstrip]), NoRise.save hid hrow (le_refl _)⟩
  dsimp only
  have hle : (if row.stripped.stage.rank ≤ Stage.researchSurvivor.rank then row.stripped.stage
      else .researchSurvivor).rank ≤ min row.stage.rank Stage.researchSurvivor.rank := by
    split
    · next hlow => exact le_min (le_refl _) hlow
    next hhigh =>
    have : ¬ row.stage.rank ≤ Stage.researchSurvivor.rank := hhigh; omega
  generalize (if row.stripped.stage.rank ≤ Stage.researchSurvivor.rank then row.stripped.stage
      else Stage.researchSurvivor) = demoted at hle ⊢
  have hplain : demoted.economic = false := by
    rw [Bool.eq_false_iff]; intro hecon; have := (Stage.economic_iff _).1 hecon
    have hsurvivor : Stage.researchSurvivor.rank < Stage.paperQualified.rank := by decide
    omega
  have hf : Fields (row.stripped.moved demoted "promotion-ladder"
      "material change; forward qualification restarted" now) :=
    hv.toFields.moved (by decide +kernel) (by decide +kernel)
  obtain ⟨ho, he⟩ := moved_identities row.stripped demoted "promotion-ladder"
    "material change; forward qualification restarted" now
  have hstage := moved_stage row.stripped demoted "promotion-ladder"
    "material change; forward qualification restarted" now
  rw [hplain] at ho he
  have hmid := (moved_strategyId row.stripped demoted "promotion-ladder"
    "material change; forward qualification restarted" now).trans hid
  refine ⟨hk.save (sound_of_plain ?_ ((congrArg Stage.economic hstage).trans hplain) ho he) ?_,
    NoRise.save hmid hrow ?_⟩
  · exact ⟨hf.strategyId, hversion, hhash, hf.reason, hf.actor, hf.version, hf.both⟩
  · exact (congrArg strip hmid).trans (hstrip.trans hmid.symm)
  · refine (congrArg Stage.rank hstage).trans_le ?_; omega

/-- **One plain call** keeps every row sound, and raises a stage only through its gates. -/
theorem apply_kept (hk : Kept l) (hp : Plain l call) (h : l.apply call = .ok l') :
    Kept l' ∧ Climbs l call l' := by
  cases call with
  | enter raw =>
    obtain ⟨hkept, hrise⟩ := enter_kept hk hp.1 hp.2 h
    exact ⟨hkept, hrise.climbs⟩
  | promote id target accountId args readings => exact promote_kept hk hp h
  | demote id target actor reason now =>
    obtain ⟨hkept, hrise, -⟩ := demote_kept hk hp.1 hp.2.1 hp.2.2 h
    exact ⟨hkept, hrise.climbs⟩
  | integritySweep incidents actor now =>
    obtain ⟨hkept, hrise⟩ := sweep_all_kept hp (fun _ _ => by decide +kernel) (fun r hdue => by
      have := of_decide_eq_true hdue; omega) hk h
    exact ⟨hkept, hrise.climbs⟩
  | refutedSweep refutations actor now =>
    obtain ⟨hkept, hrise⟩ := sweep_all_kept hp
      (fun r _ => strip_ne_empty (c := 'r') (by simp) (by decide)) (fun r hdue => by
        have := (Stage.economic_iff _).1 (of_decide_eq_true hdue).1
        have hfloor : Stage.paperObservation.rank < Stage.paperQualified.rank := by decide
        omega) hk h
    exact ⟨hkept, hrise.climbs⟩
  | materialChange id version hash now =>
    obtain ⟨hkept, hrise⟩ := materialChange_kept hk hp.1 hp.2 h
    exact ⟨hkept, hrise.climbs⟩

theorem step_kept (hk : Kept l) (h : (ladderRuns.restrict Tame).step l call l') :
    Kept l' ∧ Climbs l call l' := by
  obtain ⟨hok | ⟨-, rfl⟩, htame⟩ := h
  · rcases htame with hplain | ⟨e, he⟩
    · exact apply_kept hk hplain hok
    · rw [hok] at he; cases he
  · exact ⟨hk, (NoRise.refl _).climbs⟩

end Calls

/-- **Earned stages.** In every run of plain or refused calls every stored state reloads, with
its two identities exactly at the economic stages, and a stage rises only in a promotion that
passed the gates of its target. -/
theorem ladder_earned {l : Ladder} (h : (ladderRuns.restrict Tame).Reachable l) :
    (∀ row ∈ l.states.rows, Sound row) ∧
      ∀ call l', (ladderRuns.restrict Tame).step l call l' → Climbs l call l' := by
  have hinv : (ladderRuns.restrict Tame).Inductive Kept := by
    refine ⟨?_, fun _ _ _ hk hstep => (step_kept hk hstep).1⟩
    rintro _ rfl _ hrow; cases hrow
  have hk := hinv.reachable h
  exact ⟨fun row hrow => (hk row hrow).1, fun _ _ hstep => (step_kept hk hstep).2⟩

instance (l : Ladder) : (call : Call) → Decidable (Plain l call)
  | .enter _ => inferInstanceAs (Decidable (_ ∧ _))
  | .promote .. => inferInstanceAs (Decidable (_ ∧ _ ∧ _))
  | .demote .. => inferInstanceAs (Decidable (_ ∧ _ ∧ _))
  | .integritySweep .. => inferInstanceAs (Decidable (_ → _))
  | .refutedSweep .. => inferInstanceAs (Decidable (_ → _))
  | .materialChange .. => inferInstanceAs (Decidable (_ ∧ _))

/-- A deployment that starts as a candidate. -/
def adaptiveMomentum (stage : Stage) : PromotionState where
  strategyId := "adaptive-momentum"
  stage := stage
  strategyVersion := "1.3.0"
  configurationHash := "cfg-abc"
  reason := "operational baseline"
  actor := "operator"
  updatedAt := 0

/-- Bind a claim, and drop it again. -/
def boundAndDropped : List Call :=
  [.enter (adaptiveMomentum .candidate),
    .promote "adaptive-momentum" .registered none
      { actor := "operator", reason := "frozen claim", now := 1, hypothesisId := some "H-001" }
      { mandate := .error "no mandate"
        claims := ⟨[], by simp⟩
        measured := ⟨false, none, [], [], "d"⟩ },
    .demote "adaptive-momentum" .candidate "operator" "another question" 2]

theorem ladder_earned_bound : ∃ l : Ladder,
      (l.states.get? "adaptive-momentum").map PromotionState.stage = some .candidate ∧
      l.events.length = 3 ∧ ∀ row ∈ l.states.rows, Sound row := by
  have hrun : (boundAndDropped.foldlM
      (fun l call => if Plain l call then (l.apply call).toOption else none) {}).map
      (fun l : Ladder => ((l.states.get? "adaptive-momentum").map PromotionState.stage,
        l.events.length)) = some (some .candidate, 3) := by
    decide +kernel
  obtain ⟨l, hl, hfinal⟩ := Option.map_eq_some_iff.1 hrun
  have hstep : ∀ (s : Ladder) (call : Call) (s' : Ladder),
      (if Plain s call then (s.apply call).toOption else none) = some s' →
        (ladderRuns.restrict Tame).step s call s' := by
    intro s call s' h; split at h
    · next hplain =>
      cases happly : s.apply call with
      | error e => simp [happly, Except.toOption] at h
      | ok s'' =>
        simp only [happly, Except.toOption, Option.some.injEq] at h
        exact ⟨.inl (h ▸ happly), .inl hplain⟩
    · cases h
  exact ⟨l, (Prod.mk.inj hfinal).1, (Prod.mk.inj hfinal).2,
    (ladder_earned ⟨{}, _, rfl, LTS.Run.of_foldlM hstep hl⟩).1⟩

/-- **Promoted by demotion**: a demotion takes a strategy in paper observation to
`PAPER_QUALIFIED`, past the gate, and stores a state that does not reload. -/
theorem demotion_promotes : ∃ l l' : Ladder, ladderRuns.Reachable l ∧
      ladderRuns.step l (.demote "adaptive-momentum" .paperQualified "operator" "pause" 1) l' ∧
      (l.states.get? "adaptive-momentum").map PromotionState.stage = some .paperObservation ∧
      (l'.states.get? "adaptive-momentum").map
        (fun row => (row.stage, row.construct.toOption)) = some (.paperQualified, none) := by
  have hentered : (({} : Ladder).apply (.enter (adaptiveMomentum .paperObservation))).toOption.map
      (fun l => ((l.states.get? "adaptive-momentum").map PromotionState.stage,
        (l.apply (.demote "adaptive-momentum" .paperQualified "operator" "pause" 1)).toOption.map
          fun l' => (l'.states.get? "adaptive-momentum").map
            fun row => (row.stage, row.construct.toOption))) =
      some (some .paperObservation, some (some (.paperQualified, none))) := by
    decide +kernel
  obtain ⟨l, hl, hmoved⟩ := Option.map_eq_some_iff.1 hentered
  obtain ⟨hstage, hdemoted⟩ := Prod.mk.inj hmoved
  obtain ⟨l', hl', hrow⟩ := Option.map_eq_some_iff.1 hdemoted
  have hok : ∀ {x : Except PromotionError Ladder} {a : Ladder}, x.toOption = some a → x = .ok a := by
    intro x a h
    cases x with
    | error e => cases h
    | ok b => exact congrArg Except.ok (Option.some.inj h)
  exact ⟨l, l', ⟨{}, _, rfl, .cons (.inl (hok hl)) (.nil _)⟩, .inl (hok hl'), hstage, hrow⟩

end Quantbot.L3.Promotion
