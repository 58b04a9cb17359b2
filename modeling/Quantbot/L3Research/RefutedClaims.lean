import Quantbot.L3Research.MemoryRuns
import Quantbot.L3Research.PromotionFates

/-!
# Claims that are refuted

The ladder between registrations and research memory: what a promotion reads of the two is
what they hold at the call, and the sweep of refuted claims reads the memory of its own time.
The mandate on disk and the trading ledger are given with each call.

**Results.**
* `claim_kept`: a bound claim changes only by way of `CANDIDATE`.
* `qualified_backed`: a promotion into `PAPER_QUALIFIED` names an assessment measured against
  exactly what is bound, registered and unrefuted, under the objective on disk.
* `eligible_backed`: so does one into `LIVE_REVIEW_ELIGIBLE`, in every run where no demotion
  walks up into `PAPER_QUALIFIED` and the sweep has run since the claim was refuted. The gate
  itself reads the mandate and neither the registry nor the memory.
-/
namespace Quantbot.L3.Promotion

open Core L1 L2
open Memory (MemoryStore refutationsOf)
open Txn (except_bind_ok)

/-! ## The world of a ladder -/

def ClaimBook.register (b : ClaimBook) (claim : String × Int) (h : claim.1 ≠ "") : ClaimBook where
  rows := b.rows ++ [claim]
  named row hrow := by
    rcases List.mem_append.1 hrow with hold | hnew
    · exact b.named row hold
    · exact List.mem_singleton.1 hnew ▸ h

/-- The ladder, the registrations and research memory. `swept` and `qualifying` are of the run
and not of the code: the memory that the last sweep of refuted claims read, and the
assessments that strategies qualified with. -/
structure World where
  ladder : Ladder := {}
  claims : ClaimBook := ⟨[], nofun⟩
  memory : MemoryStore := {}
  swept : MemoryStore := {}
  qualifying : List ForwardEvidence := []

/-- mirrors promotion.py:926-937 -/
def boundClaim (l : Ladder) (strategyId : String) : Option (String × Int) :=
  (l.states.get? strategyId).bind PromotionState.claim

local instance claims_lawful : LawfulBEq (String × Int) := inferInstance

/-- What memory says against a registered claim.
mirrors promotion.py:1112-1121 -/
def refutationObjections (memory : MemoryStore) (claims : ClaimBook)
    (bound : Option (String × Int)) : List String :=
  match bound.filter fun b => b ∈ claims.rows with
  | none => []
  | some claim =>
    let refutations := refutationsOf memory claim.1
    objection (refutations ≠ []) ("the claim behind this deployment is refuted by " ++
      ", ".intercalate (refutations.map (·.recordId)) ++ "; authentic paper days do not " ++
      "rehabilitate a mechanism by existing")

namespace World

/-- What a promotion reads at the call. -/
def readings (w : World) (strategyId : String) (r : Ladder.Readings) : Ladder.Readings :=
  { r with
    claims := w.claims
    measured := { r.measured with
      blocking := refutationObjections w.memory w.claims (boundClaim w.ladder strategyId) ++
        r.measured.blocking } }

/-- The call with what it reads. -/
def tie (w : World) : Call → Call
  | .promote id target accountId args r => .promote id target accountId args (w.readings id r)
  | .refutedSweep _ actor now =>
    .refutedSweep (fun id => (refutationsOf w.memory id).map (·.recordId)) actor now
  | call => call

/-- The assessment a strategy is promoted into `PAPER_QUALIFIED` with. -/
def assessment (w : World) : Call → Option ForwardEvidence
  | .promote id .paperQualified _ _ r =>
    let read := w.readings id r
    match w.ladder.requireState id, read.mandate with
    | .ok s, .ok objective => some (assessForwardEvidence s.claim read.claims read.trading objective
        read.measured s.strategyId s.strategyVersion s.configurationHash)
    | _, _ => none
  | _ => none

/-- What a call that returned leaves. -/
def moved (w : World) (call : Call) (l : Ladder) : World :=
  { w with
    ladder := l
    swept := match call with
      | .refutedSweep _ _ _ => w.memory
      | _ => w.swept
    qualifying := w.qualifying ++ (w.assessment call).toList }

end World

inductive WorldCall
  | ladder (call : Call)
  | register (claim : String × Int) (named : claim.1 ≠ "")
  | memory (call : Memory.Call)

/-- One call; a ladder call that raises stores nothing. -/
def World.next (contentId : Memory.ArtifactEvidence → String) (w : World) : WorldCall → World
  | .ladder call =>
    match w.ladder.apply (w.tie call) with
    | .ok l => w.moved call l
    | .error _ => w
  | .register claim named => { w with claims := w.claims.register claim named }
  | .memory call => { w with memory := call.apply contentId w.memory }

/-- Registrations, records and ladder calls in any order. -/
def promotions (contentId : Memory.ArtifactEvidence → String) : LTS World WorldCall where
  init w := w = {}
  step w c w' := w' = w.next contentId c

/-- What a promotion into an economic stage is to have behind it: the claim registered and not
refuted, and the mandate on disk the one of the assessment that qualified the strategy. -/
def Backed (w w' : World) (id : String) (target : Stage) (r : Ladder.Readings) : Prop :=
  ∃ row claim objective, w'.ladder.states.get? id = some row ∧ row.stage = target ∧
    row.claim = some claim ∧ claim ∈ w.claims.rows ∧ refutationsOf w.memory claim.1 = [] ∧
    r.mandate = .ok objective ∧ objective.ratificationObjections = [] ∧
    ∃ e ∈ w'.qualifying, Names row e ∧ e.objectiveIdentity = objective.identity

/-! ## Claims that are bound -/

section Runs
variable {contentId : Memory.ArtifactEvidence → String} {w w' : World}

theorem next_cases (contentId : Memory.ArtifactEvidence → String) (w : World) (call : Call) :
    w.next contentId (.ladder call) = w ∨ ∃ l, w.ladder.apply (w.tie call) = .ok l ∧
      w.next contentId (.ladder call) = w.moved call l := by
  cases happly : w.ladder.apply (w.tie call) with
  | ok l =>
    refine .inr ⟨l, rfl, ?_⟩; simp only [World.next, happly]
  | error e =>
    left; simp only [World.next, happly]

variable {c : WorldCall}

theorem keyed_step (hw : Keyed w.ladder) (h : (promotions contentId).step w c w') :
    Keyed w'.ladder := by
  rw [show w' = w.next contentId c from h]
  cases c with
  | register _ _ | memory _ => exact hw
  | ladder call =>
    rcases next_cases contentId w call with hsame | ⟨l, happly, hnext⟩
    · rw [hsame]; exact hw
    · rw [hnext]; exact (apply_fated hw happly).keyed

theorem keyed_reachable (hw : (promotions contentId).Reachable w) : Keyed w.ladder := by
  have hinv : (promotions contentId).Inductive fun w => Keyed w.ladder := by
    refine ⟨fun w hw => ?_, fun _ _ _ hw h => keyed_step hw h⟩
    rw [show w = {} from hw]; exact List.forall_mem_nil _
  exact hinv.reachable hw

/-- **A claim is never swapped**: it changes only by way of `CANDIDATE`. -/
theorem claim_kept (hw : Keyed w.ladder) (h : (promotions contentId).step w c w') :
    ∀ id row, w.ladder.states.get? id = some row → ∃ row', w'.ladder.states.get? id = some row' ∧
      ∀ claim ∈ row.claim, row'.claim = some claim ∨ row'.stage = .candidate := by
  intro id row hrow; rw [show w' = w.next contentId c from h]
  have hstay : ∃ row', w.ladder.states.get? id = some row' ∧
      ∀ claim ∈ row.claim, row'.claim = some claim ∨ row'.stage = .candidate :=
    ⟨row, hrow, fun _ hclaim => .inl hclaim⟩
  cases c with
  | register _ _ | memory _ => exact hstay
  | ladder call =>
    rcases next_cases contentId w call with hsame | ⟨l, happly, hnext⟩
    · rw [hsame]; exact hstay
    rw [hnext]; have hfated := apply_fated hw happly
    obtain ⟨row', hrow'⟩ := hfated.there id row hrow
    have hfate := hfated.fate id row' hrow'; rw [hrow] at hfate
    exact ⟨row', hrow', hfate.claim⟩

/-! ## Into `PAPER_QUALIFIED` -/

/-- A supported assessment is of a registered claim, with nothing against it or its mandate. -/
theorem supported_backed {bound : Option (String × Int)} {claims : ClaimBook}
    {trading : TradingLedger} {objective : EconomicObjective} {measured : Measurement}
    {strategyId strategyVersion configurationHash : String}
    (h : (assessForwardEvidence bound claims trading objective measured strategyId strategyVersion
      configurationHash).supported = true) :
    ∃ claim, bound = some claim ∧ claim ∈ claims.rows ∧ measured.blocking = [] ∧
      objective.ratificationObjections = [] := by
  have hverdict := of_decide_eq_true h
  unfold assessForwardEvidence forwardVerdict at hverdict
  dsimp only at hverdict; split at hverdict
  · cases hverdict
  split at hverdict
  · cases hverdict
  split at hverdict
  · cases hverdict
  split at hverdict
  · cases hverdict
  rename_i hobjections; rw [not_or, not_not, not_not] at hobjections
  obtain ⟨hblocking, _⟩ := hobjections
  simp only [List.append_eq_nil_iff] at hblocking
  obtain ⟨⟨⟨_, hclaim⟩, hmeasured⟩, hratified⟩ := hblocking
  cases hfilter : bound.filter fun b => b ∈ claims.rows with
  | none =>
    rw [hfilter] at hclaim; simp [objection] at hclaim
  | some claim =>
    obtain ⟨hsome, hmem⟩ := Option.filter_eq_some_iff.1 hfilter
    exact ⟨claim, hsome, of_decide_eq_true hmem, hmeasured, hratified⟩

theorem refutationObjections_nil {memory : MemoryStore} {claims : ClaimBook}
    {claim : String × Int} (hmem : claim ∈ claims.rows)
    (h : refutationObjections memory claims (some claim) = []) :
    refutationsOf memory claim.1 = [] := by
  unfold refutationObjections at h
  rw [show (some claim).filter (fun b => decide (b ∈ claims.rows)) = some claim from
    Option.filter_eq_some_iff.2 ⟨rfl, decide_eq_true hmem⟩] at h
  by_contra hne; simp [objection, hne] at h

variable {l : Ladder} {id : String} {accountId : Option String} {r : Ladder.Readings}

variable {args : PromoteArgs}

/-- **Qualified strategies are backed**, whatever came before. -/
theorem qualified_backed (hw : Keyed w.ladder)
    (h : w.ladder.apply (w.tie (.promote id .paperQualified accountId args r)) = .ok l) :
    Backed w (w.moved (.promote id .paperQualified accountId args r) l) id .paperQualified r := by
  obtain ⟨row, read, m, hrow, hv, hs, hread, hm, rfl⟩ := promote_row hw h
  obtain ⟨hallowed, _⟩ := promote_ok hm; obtain ⟨hkey, _⟩ := keyed_row hw hrow
  have hid : row.strategyId = id := (Table.get?_some hrow).2
  rcases promote_cases hm with ⟨hbad, _⟩ | ⟨_, evidence, hgate, rfl⟩ | ⟨hbad, _⟩ | ⟨hbad, _⟩
  · cases hbad
  · obtain ⟨_, _, hev, _, _, hsupported⟩ := qualificationGate_ok hgate
    obtain ⟨objective, hmandate, _, hev'⟩ := hread.qualification rfl hallowed
    have he := Option.some.inj (hev.symm.trans hev')
    obtain ⟨claim, hclaim, hmem, hblocking, hratified⟩ := supported_backed (he ▸ hsupported)
    have hnames := @qualified_names _ read _ _ _ _ _ he hsupported
    have hbound : boundClaim w.ladder id = some claim := by
      unfold boundClaim; rw [hrow]; exact hclaim
    obtain ⟨hobjections, _⟩ := List.append_eq_nil_iff.1 hblocking
    rw [hbound] at hobjections
    refine ⟨_, claim, objective, ?_, ?_, ?_, hmem,
      refutationObjections_nil hmem hobjections, hmandate, hratified, evidence, ?_, hnames, ?_⟩
    · show (w.ladder.save _ _).states.get? id = _; rw [save_get?]
      exact if_pos (moved_id hkey hid)
    · exact moved_stage row.stripped .paperQualified read.actor read.reason read.now
    · refine claim_eq_some.2 ⟨?_, ?_⟩
      · rw [← hnames.claim.1, he]; exact congrArg (Option.map Prod.fst) hclaim
      · rw [← hnames.claim.2, he]; exact congrArg (Option.map Prod.snd) hclaim
    · refine List.mem_append_right _ ?_
      have hassessment : w.assessment (.promote id .paperQualified accountId args r) =
          some evidence := by
        unfold World.assessment; simp only [hs, hmandate]; rw [he]
      rw [hassessment]; exact List.mem_singleton_self _
    · rw [he]; rfl
  · cases hbad
  · cases hbad

/-! ## Into `LIVE_REVIEW_ELIGIBLE` -/

/-- A demotion does not walk up into `PAPER_QUALIFIED` with the names of an assessment, and a
promotion into `LIVE_REVIEW_ELIGIBLE` finds the sweep run since its claim was refuted. -/
def Clear (w : World) : WorldCall → World → Prop
  | .ladder (.demote id .paperQualified _ _ _), _ =>
    ∀ row ∈ w.ladder.states.get? id, row.stage = .paperObservation → row.missing ≠ []
  | .ladder (.promote id .liveReviewEligible _ _ _), _ =>
    ∀ claim ∈ boundClaim w.ladder id, refutationsOf w.memory claim.1 ≠ [] →
      refutationsOf w.swept claim.1 ≠ []
  | _, _ => True

/-- A strategy names an assessment it qualified with, of a registered claim that the last sweep
did not find refuted. -/
def Backing (w : World) (row : PromotionState) : Prop :=
  ∃ e ∈ w.qualifying, ∃ claim, Names row e ∧ row.claim = some claim ∧ claim ∈ w.claims.rows ∧
    refutationsOf w.swept claim.1 = []

variable {row' : PromotionState}

theorem Backing.mono {row row' : PromotionState} (h : Backing w row) (hrow : Carried row row')
    (hqualifying : ∀ e ∈ w.qualifying, e ∈ w'.qualifying)
    (hclaims : ∀ c ∈ w.claims.rows, c ∈ w'.claims.rows)
    (hswept : ∀ claim ∈ row.claim, refutationsOf w.swept claim.1 = [] →
      refutationsOf w'.swept claim.1 = []) : Backing w' row' := by
  obtain ⟨e, he, claim, hnames, hclaim, hmem, hnone⟩ := h
  exact ⟨e, hqualifying e he, claim, hnames.carried hrow, hrow.claim.trans hclaim,
    hclaims claim hmem, hswept claim hclaim hnone⟩

theorem Carried.refl (row : PromotionState) : Carried row row := ⟨rfl, rfl, rfl, ⟨rfl, rfl⟩, rfl, rfl⟩

/-- Memory grew since the last sweep, and every economic state that loads is backed. -/
structure Upheld (w : World) : Prop where
  keyed : Keyed w.ladder
  grown : Memory.Keeps w.swept w.memory
  backed : ∀ id row, w.ladder.states.get? id = some row → row.stage.economic = true →
    row.missing = [] → Backing w row

theorem moved_backed {call : Call} (hw : Upheld w)
    (hclear : Clear w (.ladder call) (w.moved call l)) (hsweep : (w.moved call l).swept = w.swept)
    (h : w.ladder.apply (w.tie call) = .ok l) (hrow' : l.states.get? id = some row')
    (hecon : row'.stage.economic = true) (hnamed : row'.missing = []) :
    Backing (w.moved call l) row' := by
  have hkept : ∀ row, w.ladder.states.get? id = some row → row.stage.economic = true →
      row.missing = [] → Carried row row' → Backing (w.moved call l) row' := by
    intro row hrow heconomic hmissing hcarried
    refine (hw.backed id row hrow heconomic hmissing).mono hcarried
      (fun e he => List.mem_append_left _ he) (fun _ hc => hc) fun claim _ hnone => ?_
    rw [hsweep]; exact hnone
  have hfate := (apply_fated hw.keyed h).fate id row' hrow'
  generalize hfound : w.ladder.states.get? id = found at hfate
  cases hfate with
  | same => exact hkept row' hfound hecon hnamed (.refl row')
  | entered hplain | lowered hplain _ | bound hplain _ =>
    rw [hplain] at hecon; cases hecon
  | carried heconomic hmissing hcarried => exact hkept _ hfound heconomic hmissing hcarried
  | walkedUp hcarried hcalled hstage =>
    obtain ⟨actor, reason, now, hcalled⟩ := hcalled
    have hcall : call = .demote id .paperQualified actor reason now := by
      cases call <;> simp_all [World.tie]
    subst hcall
    exact absurd (hcarried.missing.symm.trans hnamed) (hclear _ hfound hstage)
  | @qualified _ _ _ accountId args r _ hcalled _ _ hstage _ _ _ =>
    have hcall : ∃ given, call = .promote id .paperQualified accountId args given := by
      cases call <;> simp_all [World.tie]
    obtain ⟨given, rfl⟩ := hcall
    obtain ⟨found, claim, objective, hfound', _, hclaim, hmem, hnone, _, _, e, he, hnames, _⟩ :=
      qualified_backed hw.keyed h
    obtain rfl := Option.some.inj (hfound'.symm.trans hrow')
    exact ⟨e, he, claim, hnames, hclaim, hmem, Memory.refutationsOf_mono hw.grown hnone⟩

theorem swept_backed {refutations : String → List String} {actor : String} {now : Int}
    (hw : Upheld w) (h : w.ladder.apply (w.tie (.refutedSweep refutations actor now)) = .ok l)
    (hrow' : l.states.get? id = some row') (hecon : row'.stage.economic = true)
    (hnamed : row'.missing = []) :
    Backing (w.moved (.refutedSweep refutations actor now) l) row' := by
  obtain ⟨_, _, hrows⟩ := sweep_rows hw.keyed (by decide) h
  obtain ⟨row, hrow, ⟨rfl, hnone⟩ | ⟨hstage, _⟩⟩ := hrows id row' hrow'
  · refine (hw.backed id row' hrow hecon hnamed).mono (.refl row')
      (fun e he => List.mem_append_left _ he) (fun _ hc => hc) fun claim hclaim _ => ?_
    by_contra hrefuted; obtain ⟨hmem, hid⟩ := Table.get?_some hrow
    refine hnone row' (List.mem_filter.2 ⟨mem_listPromotions.2 hmem, ?_⟩) hid
    refine decide_eq_true ⟨hecon, ?_⟩; rw [(claim_eq_some.1 hclaim).1]
    exact decide_eq_true fun hnil => hrefuted (List.map_eq_nil_iff.1 hnil)
  · rw [hstage] at hecon; cases hecon

theorem step_upheld (hw : Upheld w) (h : ((promotions contentId).restrict Clear).step w c w') :
    Upheld w' := by
  obtain ⟨hstep, hclear⟩ := h; have hkeyed := keyed_step hw.keyed hstep
  rw [show w' = w.next contentId c from hstep] at hclear hkeyed ⊢
  cases c with
  | register claim named =>
    refine ⟨hkeyed, hw.grown, fun id row hrow hecon hnamed => ?_⟩
    exact (hw.backed id row hrow hecon hnamed).mono (.refl row) (fun _ he => he)
      (fun _ hc => List.mem_append_left _ hc) fun _ _ hnone => hnone
  | memory call =>
    refine ⟨hkeyed, trans_of Memory.Keeps hw.grown (Memory.apply_keeps call w.memory),
      fun id row hrow hecon hnamed => ?_⟩
    exact (hw.backed id row hrow hecon hnamed).mono (.refl row) (fun _ he => he)
      (fun _ hc => hc) fun _ _ hnone => hnone
  | ladder call =>
    rcases next_cases contentId w call with hsame | ⟨l, happly, hnext⟩
    · rw [hsame]; exact hw
    rw [hnext] at hclear hkeyed ⊢
    cases call with
    | refutedSweep refutations actor now =>
      exact ⟨hkeyed, refl_of Memory.Keeps w.memory,
        fun id row hrow hecon hnamed => swept_backed hw happly hrow hecon hnamed⟩
    | _ =>
      exact ⟨hkeyed, hw.grown,
        fun id row hrow hecon hnamed => moved_backed hw hclear rfl happly hrow hecon hnamed⟩

theorem upheld_reachable (hw : ((promotions contentId).restrict Clear).Reachable w) : Upheld w := by
  have hinv : ((promotions contentId).restrict Clear).Inductive Upheld := by
    refine ⟨fun w hw => ?_, fun _ _ _ hw h => step_upheld hw h⟩
    rw [show w = {} from hw]
    exact ⟨List.forall_mem_nil _, refl_of Memory.Keeps _, fun _ _ hrow => by cases hrow⟩
  exact hinv.reachable hw

/-- **Strategies offered for review are backed** where every step is clear. -/
theorem eligible_backed {id : String} {l : Ladder} (hw : Upheld w)
    (hclear : Clear w (.ladder (.promote id .liveReviewEligible accountId args r))
      (w.moved (.promote id .liveReviewEligible accountId args r) l))
    (h : w.ladder.apply (w.tie (.promote id .liveReviewEligible accountId args r)) = .ok l) :
    Backed w (w.moved (.promote id .liveReviewEligible accountId args r) l) id .liveReviewEligible
      r := by
  obtain ⟨row, read, m, hrow, hv, _, hread, hm, rfl⟩ := promote_row hw.keyed h
  obtain ⟨hallowed, _⟩ := promote_ok hm
  obtain ⟨hkey, _⟩ := keyed_row hw.keyed hrow
  have hid : row.strategyId = id := (Table.get?_some hrow).2
  rcases promote_cases hm with ⟨hbad, _⟩ | ⟨hbad, _⟩ | ⟨_, hgate, rfl⟩ | ⟨hbad, _⟩
  · cases hbad
  · cases hbad
  · obtain ⟨objective, hobjective, hratified, hsame⟩ := reviewGate_ok hgate
    obtain ⟨objective', hmandate, hobjective'⟩ := hread.review rfl hallowed
    obtain rfl := Option.some.inj (hobjective'.symm.trans hobjective)
    have hfrom : row.stage.economic = true := by
      revert hallowed
      show Stage.liveReviewEligible ∈ row.stage.allowedPromotions → _
      cases row.stage <;> decide
    obtain ⟨e, he, claim, hnames, hclaim, hmem, hnone⟩ :=
      hw.backed id row hrow hfrom (hv.named hfrom)
    have hcarried := @moved_carried row .liveReviewEligible read.actor read.reason read.now hkey rfl
    have hbound : boundClaim w.ladder id = some claim := by
      unfold boundClaim; rw [hrow]; exact hclaim
    refine ⟨_, claim, objective', ?_, moved_stage row.stripped .liveReviewEligible read.actor
      read.reason read.now, hcarried.claim.trans hclaim, hmem, ?_, hmandate, hratified, e,
      List.mem_append_left _ he, hnames.carried hcarried, ?_⟩
    · show (w.ladder.save _ _).states.get? id = _; rw [save_get?]
      exact if_pos (moved_id hkey hid)
    · by_contra hrefuted; exact hclear claim hbound hrefuted hnone
    · exact Option.some.inj (hnames.objective.symm.trans hsame)
  · cases hbad

/-- **A refuted claim never climbs, and a claim is never swapped**, but for the last promotion: in
every run a bound claim changes only by way of `CANDIDATE` and a promotion into
`PAPER_QUALIFIED` is backed; where the run so far was clear, one into `LIVE_REVIEW_ELIGIBLE` is
backed exactly when it is clear. -/
theorem refuted_never_climbs {c : WorldCall} (hw : (promotions contentId).Reachable w)
    (hstep : (promotions contentId).step w c w') :
    (∀ id row, w.ladder.states.get? id = some row → ∃ row', w'.ladder.states.get? id = some row' ∧
      ∀ claim ∈ row.claim, row'.claim = some claim ∨ row'.stage = .candidate) ∧
    (∀ id accountId args r l, c = .ladder (.promote id .paperQualified accountId args r) →
      w.ladder.apply (w.tie (.promote id .paperQualified accountId args r)) = .ok l →
      Backed w w' id .paperQualified r) ∧
    (∀ id accountId args r l, c = .ladder (.promote id .liveReviewEligible accountId args r) →
      w.ladder.apply (w.tie (.promote id .liveReviewEligible accountId args r)) = .ok l →
      ((promotions contentId).restrict Clear).Reachable w →
      (Backed w w' id .liveReviewEligible r ↔ Clear w c w')) := by
  refine ⟨claim_kept (keyed_reachable hw) hstep, fun id accountId args r l hc happly => ?_,
    fun id accountId args r l hc happly hreach => ?_⟩
  · have hnext : w' = w.moved (.promote id .paperQualified accountId args r) l := by
      rw [show w' = w.next contentId c from hstep, hc]
      simp only [World.next, happly]
    rw [hnext]; exact qualified_backed (keyed_reachable hw) happly
  · have hnext : w' = w.moved (.promote id .liveReviewEligible accountId args r) l := by
      rw [show w' = w.next contentId c from hstep, hc]
      simp only [World.next, happly]
    rw [hnext, hc]; constructor
    · intro ⟨row, claim, _, hrow, hstage, hclaim, _, hnone, _⟩ bound hbound hrefuted
      -- the claim that was bound before is the one that is bound now
      have hkept := claim_kept (keyed_reachable hw) hstep
      obtain ⟨before, hbefore, hof⟩ := Option.bind_eq_some_iff.1 hbound
      obtain ⟨row', hrow', hsame⟩ := hkept id before hbefore
      rw [hnext] at hrow'; obtain rfl := Option.some.inj (hrow.symm.trans hrow')
      rcases hsame bound hof with hsame | hcandidate
      · obtain rfl := Option.some.inj (hclaim.symm.trans hsame)
        exact absurd hnone hrefuted
      · rw [hstage] at hcandidate; cases hcandidate
    · exact fun hclear => eligible_backed (upheld_reachable hreach) hclear happly

end Runs

/-! ## A claim refuted between qualification and review -/

def thirtyDays : List Nat := List.range 30

/-- Thirty qualified sessions under 1.3.0, and thirty fills of the first. -/
def forwardTrading : TradingLedger where
  deployments := .insert .empty (momentumIdentity "1.3.0" "cfg-abc")
  qualificationDays :=
    ⟨thirtyDays.map fun n => ⟨"adaptive-momentum", 20000 + n, true, ""⟩, by decide⟩
  store :=
    { orderIntents := .insert .empty momentumIntent
      brokerOrders := .insert .empty momentumOrder
      fills := ⟨thirtyDays.map fun n => { momentumFill with fillId := "f" ++ toString n },
        by decide⟩ }

def ratifiedObjective : EconomicObjective := ⟨1, "abcdef", .ratified⟩

def forwardReadings : Ladder.Readings where
  mandate := .ok ratifiedObjective
  trading := forwardTrading
  claims := ⟨[], nofun⟩
  measured := ⟨true, some (1, 1), [], [], "digest"⟩

def promoteTo (target : Stage) : Call :=
  .promote "adaptive-momentum" target (some "account")
    { actor := "director", reason := "the forward window agrees", now := 1 } forwardReadings

/-- The claim registered and the strategy in paper observation under it. -/
def observedCalls : List WorldCall :=
  [.register ("H1", 1) (by decide),
    .ladder (.enter { adaptiveMomentum .paperObservation with
      hypothesisId := some "H1", hypothesisVersion := some 1 })]

def ranWorld (calls : List WorldCall) : World :=
  calls.foldl (fun w c => w.next (·.artifactContentId) c) {}

theorem ranWorld_reachable (calls : List WorldCall) :
    (promotions (·.artifactContentId)).Reachable (ranWorld calls) := by
  refine ⟨{}, calls, rfl, ?_⟩; unfold ranWorld; generalize ({} : World) = w
  induction calls generalizing w with
  | nil => exact .nil w
  | cons c calls ih => exact .cons rfl (ih _)

theorem ranWorld_clear {calls : List WorldCall} (h : ∀ c ∈ calls, ∀ w w', Clear w c w') :
    ((promotions (·.artifactContentId)).restrict Clear).Reachable (ranWorld calls) := by
  refine ⟨{}, calls, rfl, ?_⟩; unfold ranWorld; generalize ({} : World) = w
  induction calls generalizing w with
  | nil => exact .nil w
  | cons c calls ih =>
    exact .cons ⟨rfl, h c List.mem_cons_self _ _⟩
      (ih (fun c hc => h c (List.mem_cons_of_mem _ hc)) _)

/-- What a call leaves of the strategy: its stage and its claim. -/
def offered (w : World) (call : Call) : Option (Stage × Option (String × Int)) :=
  match w.ladder.apply (w.tie call) with
  | .ok l => (l.states.get? "adaptive-momentum").map fun row => (row.stage, row.claim)
  | .error _ => none

theorem offered_some {w : World} {call : Call} {x : Stage × Option (String × Int)}
    (h : offered w call = some x) : ∃ l row, w.ladder.apply (w.tie call) = .ok l ∧
      l.states.get? "adaptive-momentum" = some row ∧ row.stage = x.1 ∧ row.claim = x.2 := by
  unfold offered at h; split at h
  · rename_i l happly; obtain ⟨row, hrow, rfl⟩ := Option.map_eq_some_iff.1 h
    exact ⟨l, row, happly, hrow, rfl, rfl⟩
  · cases h

def observed : World := ranWorld observedCalls

def qualified : World := ranWorld (observedCalls ++ [.ladder (promoteTo .paperQualified)])

/-- The finding about `H1` is filed after the strategy qualified. -/
def refutedLater : World :=
  ranWorld (observedCalls ++ [.ladder (promoteTo .paperQualified),
    .memory (.record Memory.refutedFinding)])

/-- **Offered for review under a refuted claim.** -/
theorem refuted_claim_offered : ∃ w l row claim, (promotions (·.artifactContentId)).Reachable w ∧
    w.ladder.apply (w.tie (promoteTo .liveReviewEligible)) = .ok l ∧
    l.states.get? "adaptive-momentum" = some row ∧ row.stage = .liveReviewEligible ∧
    row.claim = some claim ∧ refutationsOf w.memory claim.1 ≠ [] := by
  have hoffered : offered refutedLater (promoteTo .liveReviewEligible) =
      some (.liveReviewEligible, some ("H1", 1)) := by decide
  obtain ⟨l, row, happly, hrow, hstage, hclaim⟩ := offered_some hoffered
  exact ⟨refutedLater, l, row, ("H1", 1), ranWorld_reachable _, happly, hrow, hstage, hclaim,
    by decide⟩

theorem refuted_never_climbs_qualified :
    (∃ w', Backed observed w' "adaptive-momentum" .paperQualified forwardReadings) ∧
      ∃ w', Backed qualified w' "adaptive-momentum" .liveReviewEligible forwardReadings := by
  constructor
  · have hoffered : offered observed (promoteTo .paperQualified) =
        some (.paperQualified, some ("H1", 1)) := by decide +kernel
    obtain ⟨l, _, happly, _⟩ := offered_some hoffered
    exact ⟨_, (@refuted_never_climbs (·.artifactContentId) _ _ _
      (ranWorld_reachable observedCalls) rfl).2.1 _ _ _ _ l rfl happly⟩
  · have hoffered : offered qualified (promoteTo .liveReviewEligible) =
        some (.liveReviewEligible, some ("H1", 1)) := by decide +kernel
    obtain ⟨l, _, happly, _⟩ := offered_some hoffered
    -- none of the three calls is a demotion or a review
    have hsteps : ∀ c ∈ observedCalls ++ [.ladder (promoteTo .paperQualified)],
        ∀ w w', Clear w c w' := by
      intro c hc w w'
      simp only [observedCalls, List.cons_append, List.nil_append, List.mem_cons,
        List.not_mem_nil, or_false] at hc
      rcases hc with rfl | rfl | rfl <;> trivial
    have hclear := ranWorld_clear hsteps
    refine ⟨_, ((@refuted_never_climbs (·.artifactContentId) _ _ _
      hclear.of_restrict rfl).2.2 _ _ _ _ l rfl happly hclear).2 ?_⟩
    intro claim hbound hrefuted
    exact absurd (show refutationsOf qualified.memory claim.1 = [] from rfl) hrefuted

end Quantbot.L3.Promotion
