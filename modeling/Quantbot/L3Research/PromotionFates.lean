import Quantbot.L3Research.PromotionRuns

/-!
# What a call makes of a row

The ladder row by row: whatever the call, a row stays, is entered below the economic stages,
falls below them, is bound to a claim, is carried from one economic stage to the other, qualifies,
or is walked up into `PAPER_QUALIFIED` by a demotion.

* `promote_cases`: what a promotion makes of a state.
* `apply_fated`: a call keeps every row, and each has one of the fates.
* `Fate.claim`: a bound claim changes only by way of `CANDIDATE`.
-/
namespace Quantbot.L3.Promotion

open Core L1 L2
open Txn (except_bind_ok)
seal L1.strip

/-! ## Rows and what loads -/

/-- Every key is a stripped text. -/
def Keyed (l : Ladder) : Prop := ∀ row ∈ l.states.rows, strip row.strategyId = row.strategyId

section Rows
variable {l l' : Ladder} {id : String}

theorem requireState_row {s : PromotionState} (hl : Keyed l) (h : l.requireState id = .ok s) :
    ∃ row, l.states.get? id = some row ∧ s = row.stripped ∧ Valid row ∧ s.strategyId = id := by
  unfold Ladder.requireState at h
  obtain ⟨found, hfound, h⟩ := except_bind_ok.1 h
  unfold Ladder.current at hfound
  cases hrow : l.states.get? id with
  | none =>
    simp only [hrow] at hfound; cases hfound; cases h
  | some row =>
    obtain ⟨hmem, hkey⟩ := Table.get?_some hrow; simp only [hrow] at hfound
    obtain ⟨t, ht, rfl⟩ := Txn.except_map_ok.1 hfound; cases h
    obtain ⟨hv, rfl⟩ := construct_ok.1 ht
    exact ⟨row, rfl, rfl, hv, (hl row hmem).trans hkey⟩

theorem Keyed.save {m : PromotionState} {direction : Direction} (hl : Keyed l)
    (hm : strip m.strategyId = m.strategyId) : Keyed (l.save m direction) := by
  intro row hrow
  have hget : (l.save m direction).states.get? row.strategyId = some row := Table.get?_key.2 hrow
  rw [save_get?] at hget; split at hget
  · cases hget; exact hm
  · exact hl row (Table.get?_some hget).1

end Rows

/-! ## What a promotion makes of a state -/

section Promote
variable {s m : PromotionState} {target : Stage} {args : PromoteArgs}

/-- The move of every promotion, and what the two stages that write provenance add to it. -/
theorem promote_cases (h : promote s target args = .ok m) :
    (target = .registered ∧ ∃ id, args.hypothesisId = some id ∧
      (∀ claim ∈ s.claim, claim = (id, args.hypothesisVersion)) ∧
      m = { s.moved .registered args.actor args.reason args.now with
        hypothesisId := some id, hypothesisVersion := some args.hypothesisVersion }) ∨
    (target = .paperQualified ∧ ∃ evidence, qualificationGate s args = .ok evidence ∧
      m = { s.moved .paperQualified args.actor args.reason args.now with
        objectiveIdentity := some evidence.objectiveIdentity
        evidenceIdentity := some evidence.identity }) ∨
    (target = .liveReviewEligible ∧ reviewGate s args = .ok () ∧
      m = s.moved .liveReviewEligible args.actor args.reason args.now) ∨
    (target.economic = false ∧ target ≠ .registered ∧
      m = s.moved target args.actor args.reason args.now) := by
  obtain ⟨_, _, bound, hbound, hearned⟩ := promote_ok h
  cases target with
  | registered =>
    obtain ⟨id, hid, hclaim, rfl⟩ := bindClaim_registered hbound
    cases hearned
    exact .inl ⟨rfl, id, hid, hclaim, rfl⟩
  | paperQualified =>
    obtain rfl := bindClaim_other (by decide) hbound
    obtain ⟨evidence, hgate, rfl⟩ := Txn.except_map_ok.1 hearned
    exact .inr (.inl ⟨rfl, evidence, hgate, rfl⟩)
  | liveReviewEligible =>
    obtain rfl := bindClaim_other (by decide) hbound
    obtain ⟨_, hgate, rfl⟩ := Txn.except_map_ok.1 hearned
    exact .inr (.inr (.inl ⟨rfl, hgate, rfl⟩))
  | researchSurvivor =>
    obtain rfl := bindClaim_other (by decide) hbound
    obtain ⟨_, _, rfl⟩ := Txn.except_map_ok.1 hearned
    exact .inr (.inr (.inr ⟨rfl, by decide, rfl⟩))
  | candidate | shadow | paperObservation =>
    obtain rfl := bindClaim_other (by decide) hbound
    cases hearned
    exact .inr (.inr (.inr ⟨rfl, by decide, rfl⟩))

end Promote

/-! ## What a call makes of a row -/

/-- The state names the assessment, and the assessment is of this state. -/
structure Names (row : PromotionState) (e : ForwardEvidence) : Prop where
  strategy : e.strategyId = row.strategyId
  version : e.strategyVersion = strip row.strategyVersion
  configuration : e.configurationHash = strip row.configurationHash
  claim : e.hypothesisId = row.hypothesisId ∧ e.hypothesisVersion = row.hypothesisVersion
  objective : row.objectiveIdentity = some e.objectiveIdentity
  evidence : row.evidenceIdentity = some e.identity
  supported : e.supported = true

/-- The same strategy, configuration, claim and provenance. -/
structure Carried (row row' : PromotionState) : Prop where
  strategy : row'.strategyId = row.strategyId
  version : strip row'.strategyVersion = strip row.strategyVersion
  configuration : strip row'.configurationHash = strip row.configurationHash
  hypothesis : row'.hypothesisId = row.hypothesisId ∧ row'.hypothesisVersion = row.hypothesisVersion
  objective : row'.objectiveIdentity = row.objectiveIdentity
  evidence : row'.evidenceIdentity = row.evidenceIdentity

variable {row row' : PromotionState}

theorem Carried.claim (h : Carried row row') : row'.claim = row.claim := by
  unfold PromotionState.claim; rw [h.hypothesis.1, h.hypothesis.2]

theorem Names.carried {e : ForwardEvidence} (h : Names row e) (hc : Carried row row') :
    Names row' e where
  strategy := h.strategy.trans hc.strategy.symm
  version := h.version.trans hc.version.symm
  configuration := h.configuration.trans hc.configuration.symm
  claim := ⟨h.claim.1.trans hc.hypothesis.1.symm, h.claim.2.trans hc.hypothesis.2.symm⟩
  objective := hc.objective.trans h.objective
  evidence := hc.evidence.trans h.evidence
  supported := h.supported

theorem Carried.missing (h : Carried row row') : row'.missing = row.missing := by
  unfold PromotionState.missing; rw [h.hypothesis.1, h.objective, h.evidence]

theorem stripped_carried (h : strip row.strategyId = row.strategyId) : Carried row row.stripped :=
  ⟨h, strip_strip _, strip_strip _, ⟨rfl, rfl⟩, rfl, rfl⟩

section Moved
variable {row : PromotionState} {target : Stage} {actor reason : String} {now : Int}

theorem moved_id {id : String} (hkey : strip row.strategyId = row.strategyId)
    (hid : row.strategyId = id) : (row.stripped.moved target actor reason now).strategyId = id :=
  (moved_strategyId ..).trans (hkey.trans hid)

theorem moved_carried (hkey : strip row.strategyId = row.strategyId)
    (h : target.economic = true) : Carried row (row.stripped.moved target actor reason now) := by
  obtain ⟨hid, hversion⟩ := moved_hypothesis row.stripped target actor reason now
  obtain ⟨ho, he⟩ := moved_identities row.stripped target actor reason now
  have hcandidate : target ≠ .candidate := by
    intro hc; rw [hc] at h; cases h
  rw [if_neg hcandidate] at hid hversion; rw [h, if_pos rfl] at ho he
  refine ⟨(moved_strategyId ..).trans hkey, ?_, ?_, ⟨hid, hversion⟩, ho, he⟩
  · rw [moved_strategyVersion]; exact strip_strip _
  · rw [moved_configurationHash]; exact strip_strip _

/-- A move keeps the claim unless it ends at `CANDIDATE`. -/
theorem moved_claim (row : PromotionState) (target : Stage) (actor reason : String) (now : Int) :
    (row.stripped.moved target actor reason now).stage = .candidate ∨
      (row.stripped.moved target actor reason now).claim = row.claim := by
  obtain ⟨hid, hversion⟩ := moved_hypothesis row.stripped target actor reason now
  by_cases hcandidate : target = .candidate
  · left; rw [moved_stage]; exact hcandidate
  right; rw [if_neg hcandidate] at hid hversion; unfold PromotionState.claim
  rw [hid, hversion]; rfl

end Moved

/-- What a call makes of the row of a strategy. -/
inductive Fate (l : Ladder) (call : Call) (id : String) :
    Option PromotionState → PromotionState → Prop
  | same (row : PromotionState) : Fate l call id (some row) row
  | entered {row' : PromotionState} (plain : row'.stage.economic = false) : Fate l call id none row'
  | lowered {row row' : PromotionState} (plain : row'.stage.economic = false)
      (claim : row'.stage = .candidate ∨ row'.claim = row.claim) : Fate l call id (some row) row'
  | bound {row row' : PromotionState} (stage : row'.stage = .registered)
      (claim : ∀ c ∈ row.claim, row'.claim = some c) : Fate l call id (some row) row'
  | carried {row row' : PromotionState} (economic : row.stage.economic = true)
      (named : row.missing = []) (carried : Carried row row') : Fate l call id (some row) row'
  /-- A demotion that walks up the table of promotions. -/
  | walkedUp {row row' : PromotionState} (carried : Carried row row')
      (called : ∃ actor reason now, call = .demote id .paperQualified actor reason now)
      (stage : row.stage = .paperObservation) : Fate l call id (some row) row'
  | qualified {row row' s : PromotionState} {accountId : Option String} {args : PromoteArgs}
      {r : Ladder.Readings} {objective : EconomicObjective}
      (called : call = .promote id .paperQualified accountId args r)
      (state : l.requireState id = .ok s) (mandate : r.mandate = .ok objective)
      (stage : row'.stage = .paperQualified) (claim : row'.claim = row.claim)
      (bound : s.claim = row.claim)
      (names : Names row' (assessForwardEvidence s.claim r.claims r.trading objective r.measured
        s.strategyId s.strategyVersion s.configurationHash)) : Fate l call id (some row) row'

section Calls
variable {l l' : Ladder} {call : Call} {id actor reason : String} {target : Stage} {now : Int}

/-- Every strategy is still there, and each row has its fate. -/
structure Fated (l : Ladder) (call : Call) (l' : Ladder) : Prop where
  keyed : Keyed l'
  there : ∀ id row, l.states.get? id = some row → ∃ row', l'.states.get? id = some row'
  fate : ∀ id row', l'.states.get? id = some row' → Fate l call id (l.states.get? id) row'

theorem same_fate {row' : PromotionState} (h : l.states.get? id = some row') :
    Fate l call id (l.states.get? id) row' := by
  rw [h]; exact .same row'

theorem save_fated {m : PromotionState} {direction : Direction} (hl : Keyed l)
    (hid : m.strategyId = id) (hstrip : strip id = id)
    (hm : Fate l call id (l.states.get? id) m) : Fated l call (l.save m direction) := by
  refine ⟨hl.save (by rw [hid, hstrip]), fun k row hrow => ?_, fun k row' hrow' => ?_⟩
  · rw [save_get?]; split
    · exact ⟨m, rfl⟩
    · exact ⟨row, hrow⟩
  · rw [save_get?] at hrow'; split at hrow'
    · rename_i hk; cases hrow'; obtain rfl := hid.symm.trans hk; exact hm
    · exact same_fate hrow'

theorem demote_row (hl : Keyed l) (h : l.demote id target actor reason now = .ok l') :
    ∃ row, l.states.get? id = some row ∧ Valid row ∧
      (target ∈ row.stage.allowedPromotions ∨ target.rank < row.stage.rank) ∧
      (row.stripped.moved target actor reason now).strategyId = id ∧
      l' = l.save (row.stripped.moved target actor reason now) .demotion := by
  unfold Ladder.demote at h; obtain ⟨s, hs, h⟩ := except_bind_ok.1 h
  obtain ⟨m, hm, h⟩ := except_bind_ok.1 h; cases h
  obtain ⟨row, hrow, rfl, hv, hid⟩ := requireState_row hl hs
  obtain rfl := demote_ok hm
  refine ⟨row, hrow, hv, ?_, (moved_strategyId ..).trans hid, rfl⟩
  unfold Promotion.demote at hm; split at hm
  · cases hm
  rename_i hdown; by_contra hnot
  exact hdown ⟨fun hmem => hnot (.inl hmem), not_lt.1 fun hlt => hnot (.inr hlt)⟩

theorem keyed_row {row : PromotionState} (hl : Keyed l) (h : l.states.get? id = some row) :
    strip row.strategyId = row.strategyId ∧ strip id = id := by
  obtain ⟨hmem, rfl⟩ := Table.get?_some h; exact ⟨hl row hmem, hl row hmem⟩

theorem demote_fated (hl : Keyed l) (hcall : call = .demote id target actor reason now)
    (h : l.demote id target actor reason now = .ok l') : Fated l call l' := by
  obtain ⟨row, hrow, hv, hdown, hid, rfl⟩ := demote_row hl h
  obtain ⟨hkey, hstrip⟩ := keyed_row hl hrow; refine save_fated hl hid hstrip ?_
  rw [hrow]
  cases hecon : target.economic with
  | false =>
    refine .lowered ?_ (moved_claim ..); rw [moved_stage]; exact hecon
  | true =>
    cases hfrom : row.stage.economic with
    | true => exact .carried hfrom (hv.named hfrom) (moved_carried hkey hecon)
    | false =>
      -- only `PAPER_OBSERVATION` leads to an economic stage from one that is not
      have hup : row.stage = .paperObservation ∧ target = .paperQualified := by
        rcases hdown with hmem | hlt
        · revert hmem hecon hfrom; cases row.stage <;> cases target <;> decide
        have hge := (Stage.economic_iff target).1 hecon
        have hnot : ¬ Stage.paperQualified.rank ≤ row.stage.rank := fun hle => by
          rw [(Stage.economic_iff _).2 hle] at hfrom; cases hfrom
        omega
      obtain ⟨hstage, rfl⟩ := hup
      exact .walkedUp (moved_carried hkey hecon) ⟨actor, reason, now, hcall⟩ hstage

theorem enter_fated {raw : PromotionState} (hl : Keyed l)
    (h : l.apply (.enter raw) = .ok l') : Fated l call l' := by
  obtain ⟨s, hs, h⟩ := except_bind_ok.1 h; obtain ⟨_, rfl⟩ := construct_ok.1 hs
  unfold Ladder.enter at h; split at h
  · cases h
  rename_i hnew; split at h
  · cases h
  rename_i hplain; cases h; refine save_fated hl rfl (strip_strip _) ?_
  rw [Option.not_isSome_iff_eq_none.1 hnew]
  exact .entered (by simpa using hplain)

theorem claim_eq_some {s : PromotionState} {claim : String × Int} :
    s.claim = some claim ↔ s.hypothesisId = some claim.1 ∧ s.hypothesisVersion = some claim.2 := by
  unfold PromotionState.claim; obtain ⟨id, version⟩ := claim
  cases s.hypothesisId <;> cases s.hypothesisVersion <;> simp

variable {args : PromoteArgs} {accountId : Option String} {r : Ladder.Readings}

theorem promote_row (hl : Keyed l) (h : l.promote id target accountId args r = .ok l') :
    ∃ row read m, l.states.get? id = some row ∧ Valid row ∧
      l.requireState id = .ok row.stripped ∧ ReadArguments row.stripped target args read r ∧
      Promotion.promote row.stripped target read = .ok m ∧ l' = l.save m .promotion := by
  unfold Ladder.promote at h; obtain ⟨s, hs, h⟩ := except_bind_ok.1 h
  obtain ⟨read, hread, h⟩ := except_bind_ok.1 h
  obtain ⟨m, hm, h⟩ := except_bind_ok.1 h; cases h
  obtain ⟨row, hrow, rfl, hv, _⟩ := requireState_row hl hs
  exact ⟨row, read, m, hrow, hv, hs, arguments_ok hread, hm, rfl⟩

/-- The state a promotion into `PAPER_QUALIFIED` leaves names what was read. -/
theorem qualified_names {row : PromotionState} {args : PromoteArgs} {evidence : ForwardEvidence}
    {claims : ClaimBook} {trading : TradingLedger} {objective : EconomicObjective}
    {measured : Measurement}
    (he : evidence = assessForwardEvidence row.stripped.claim claims trading objective measured
      row.stripped.strategyId row.stripped.strategyVersion row.stripped.configurationHash)
    (hsupported : evidence.supported = true) :
    Names { row.stripped.moved .paperQualified args.actor args.reason args.now with
      objectiveIdentity := some evidence.objectiveIdentity
      evidenceIdentity := some evidence.identity } evidence := by
  obtain ⟨claim, hclaim, _⟩ := supported_named (he ▸ hsupported)
  obtain ⟨hid, hversion⟩ := claim_eq_some.1 hclaim
  obtain ⟨hmid, hmversion⟩ := moved_hypothesis row.stripped .paperQualified args.actor args.reason
    args.now
  rw [if_neg (by decide)] at hmid hmversion
  refine ⟨?_, ?_, ?_, ⟨?_, ?_⟩, rfl, rfl, hsupported⟩
  · rw [he]
    exact (moved_strategyId ..).symm
  · show evidence.strategyVersion = strip (row.stripped.moved ..).strategyVersion
    rw [he, moved_strategyVersion]
    exact (strip_strip _).symm
  · show evidence.configurationHash = strip (row.stripped.moved ..).configurationHash
    rw [he, moved_configurationHash]
    exact (strip_strip _).symm
  · show evidence.hypothesisId = (row.stripped.moved ..).hypothesisId
    rw [he, hmid, hid]
    exact congrArg (Option.map Prod.fst) hclaim
  · show evidence.hypothesisVersion = (row.stripped.moved ..).hypothesisVersion
    rw [he, hmversion, hversion]
    exact congrArg (Option.map Prod.snd) hclaim

theorem promote_fated (hl : Keyed l) (hcall : call = .promote id target accountId args r)
    (h : l.promote id target accountId args r = .ok l') : Fated l call l' := by
  obtain ⟨row, read, m, hrow, hv, hs, hread, hm, rfl⟩ := promote_row hl h
  obtain ⟨hkey, hstrip⟩ := keyed_row hl hrow
  have hid : row.strategyId = id := (Table.get?_some hrow).2
  have hmoved : ∀ t, (row.stripped.moved t read.actor read.reason read.now).strategyId = id :=
    fun t => moved_id hkey hid
  obtain ⟨hallowed, _⟩ := promote_ok hm
  rcases promote_cases hm with ⟨rfl, claimId, _, hclaim, rfl⟩ | ⟨rfl, evidence, hgate, rfl⟩ |
    ⟨rfl, _, rfl⟩ | ⟨hplain, _, rfl⟩
  · refine save_fated hl (hmoved _) hstrip ?_; rw [hrow]
    refine .bound (moved_stage ..) fun c hc => ?_; rw [hclaim c hc]; rfl
  · refine save_fated hl (hmoved _) hstrip ?_; rw [hrow]
    obtain ⟨_, _, hev, _, _, hsupported⟩ := qualificationGate_ok hgate
    obtain ⟨objective, hmandate, _, hev'⟩ := hread.qualification rfl hallowed
    have he := Option.some.inj (hev.symm.trans hev')
    refine .qualified hcall hs hmandate (moved_stage ..) ?_ rfl (he ▸ qualified_names he hsupported)
    rcases moved_claim row .paperQualified read.actor read.reason read.now with
      hcandidate | hclaim
    · rw [moved_stage] at hcandidate; cases hcandidate
    · exact hclaim
  · refine save_fated hl (hmoved _) hstrip ?_; rw [hrow]
    have hfrom : row.stage.economic = true := by
      revert hallowed
      show Stage.liveReviewEligible ∈ row.stage.allowedPromotions → _
      cases row.stage <;> decide
    exact .carried hfrom (hv.named hfrom) (moved_carried hkey rfl)
  · refine save_fated hl (hmoved _) hstrip ?_; rw [hrow]
    exact .lowered ((congrArg Stage.economic (moved_stage ..)).trans hplain) (moved_claim ..)

/-- **A material change** leaves an economic stage unless it changes nothing. -/
theorem materialChange_fated {version hash : String} (hl : Keyed l)
    (h : l.materialChange id version hash now = .ok l') : Fated l call l' := by
  unfold Ladder.materialChange at h; obtain ⟨s, hs, h⟩ := except_bind_ok.1 h
  cases h; obtain ⟨row, hrow, rfl, hv, hid⟩ := requireState_row hl hs
  obtain ⟨hkey, hstrip⟩ := keyed_row hl hrow; unfold Promotion.materialChange
  split
  · refine save_fated hl hid hstrip ?_; rw [hrow]
    cases hecon : row.stage.economic with
    | false => exact .lowered hecon (.inr rfl)
    | true => exact .carried hecon (hv.named hecon) (stripped_carried hkey)
  · dsimp only
    have hplain : (if row.stripped.stage.rank ≤ Stage.researchSurvivor.rank then row.stripped.stage
        else .researchSurvivor).economic = false := by
      split
      · rename_i hlow; rw [Bool.eq_false_iff]; intro hecon
        have := (Stage.economic_iff _).1 hecon
        have hfloor : Stage.researchSurvivor.rank < Stage.paperQualified.rank := by decide
        omega
      · rfl
    refine save_fated hl ((moved_strategyId ..).trans hid) hstrip ?_; rw [hrow]
    exact .lowered ((congrArg Stage.economic (moved_stage ..)).trans hplain) (moved_claim ..)

variable {reason : PromotionState → String}

/-- What a sweep to `target` makes of each row. -/
theorem sweep_rows {records : List PromotionState} (hl : Keyed l) (hcandidate : target ≠ .candidate)
    (h : records.foldlM (fun l r => l.demote r.strategyId target actor (reason r) now) l = .ok l') :
    Keyed l' ∧ (∀ k row, l.states.get? k = some row → ∃ row', l'.states.get? k = some row') ∧
      ∀ k row', l'.states.get? k = some row' → ∃ row, l.states.get? k = some row ∧
        (row' = row ∧ (∀ r ∈ records, r.strategyId ≠ k) ∨
          row'.stage = target ∧ row'.claim = row.claim) := by
  induction records generalizing l with
  | nil =>
    cases h
    exact ⟨hl, fun k row hrow => ⟨row, hrow⟩, fun k row' hrow' =>
      ⟨row', hrow', .inl ⟨rfl, fun r hr => absurd hr List.not_mem_nil⟩⟩⟩
  | cons r rest ih =>
    rw [List.foldlM_cons] at h; obtain ⟨l₁, h₁, h⟩ := except_bind_ok.1 h
    obtain ⟨row, hrow, _, _, hid, rfl⟩ := demote_row hl h₁
    obtain ⟨_, hstrip⟩ := keyed_row hl hrow
    obtain ⟨hl', hthere, hrows⟩ := ih (hl.save (by rw [hid, hstrip])) h
    refine ⟨hl', fun k found hfound => ?_, fun k row' hrow' => ?_⟩
    · refine hthere k (if r.strategyId = k then row.stripped.moved target actor (reason r) now
        else found) ?_
      rw [save_get?, hid]; split
      · rfl
      · exact hfound
    · obtain ⟨row₁, hrow₁, hfate⟩ := hrows k row' hrow'
      rw [save_get?, hid] at hrow₁; split at hrow₁
      · rename_i hk; subst hk; cases hrow₁
        have hclaim : (row.stripped.moved target actor (reason r) now).claim = row.claim := by
          rcases moved_claim row target actor (reason r) now with hbad | hsame
          · rw [moved_stage] at hbad; exact absurd hbad hcandidate
          · exact hsame
        refine ⟨row, hrow, .inr ?_⟩
        rcases hfate with ⟨rfl, _⟩ | ⟨hstage, hsame⟩
        · exact ⟨moved_stage .., hclaim⟩
        · exact ⟨hstage, hsame.trans hclaim⟩
      · rename_i hk; refine ⟨row₁, hrow₁, ?_⟩
        rcases hfate with ⟨rfl, hnone⟩ | hlow
        · refine .inl ⟨rfl, fun t ht => ?_⟩
          rcases List.mem_cons.1 ht with rfl | ht
          · exact hk
          · exact hnone t ht
        · exact .inr hlow

theorem sweep_fated {due : PromotionState → Bool} (hl : Keyed l)
    (hcandidate : target ≠ .candidate) (hplain : target.economic = false)
    (h : l.sweep due target actor reason now = .ok l') : Fated l call l' := by
  obtain ⟨hl', hthere, hrows⟩ := sweep_rows hl hcandidate h
  refine ⟨hl', hthere, fun k row' hrow' => ?_⟩
  obtain ⟨row, hrow, hfate⟩ := hrows k row' hrow'; rw [hrow]
  rcases hfate with ⟨rfl, _⟩ | ⟨hstage, hclaim⟩
  · exact .same row'
  · exact .lowered ((congrArg Stage.economic hstage).trans hplain) (.inr hclaim)

/-- **One call** keeps every strategy, and each row has one of the fates. -/
theorem apply_fated (hl : Keyed l) (h : l.apply call = .ok l') : Fated l call l' := by
  cases call with
  | enter raw => exact enter_fated hl h
  | promote id target accountId args r => exact promote_fated hl rfl h
  | demote id target actor reason now => exact demote_fated hl rfl h
  | integritySweep _ _ _ | refutedSweep _ _ _ => exact sweep_fated hl (by decide) (by decide) h
  | materialChange id version hash now => exact materialChange_fated hl h

end Calls

theorem Fate.claim {l : Ladder} {call : Call} {id : String} (h : Fate l call id (some row) row') :
    ∀ c ∈ row.claim, row'.claim = some c ∨ row'.stage = .candidate := by
  intro c hc
  cases h with
  | same => exact .inl hc
  | lowered _ hclaim =>
    rcases hclaim with hcandidate | hsame
    · exact .inr hcandidate
    · exact .inl (hsame.trans hc)
  | bound _ hclaim => exact .inl (hclaim c hc)
  | carried _ _ h | walkedUp h _ _ => exact .inl (h.claim.trans hc)
  | qualified _ _ _ _ hclaim _ _ => exact .inl (hclaim.trans hc)

end Quantbot.L3.Promotion
