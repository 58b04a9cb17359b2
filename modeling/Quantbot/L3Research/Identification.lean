import Quantbot.L3Research.MemoryRuns
import Quantbot.L3Risk.Dependence
import Mathlib.Data.Fintype.Prod

/-!
# Identifying designs

For an artifact of a registered graph whose evidence is unresolved, the arms that tell it apart.

`identification_iff`: the design is valid, passes the registry's check of its arms and varies
nothing but the artifact, except for a relationship of a component with itself.
-/
namespace Quantbot.L3.Identification

open Core Txn Memory
open Quantbot.L3.Risk (sortedSet mem_sortedSet)

/-- mirrors hypothesis_graph.py:108-141 -/
structure ComponentRelationship where
  relationshipId : String
  sourceComponentId : String
  targetComponentId : String
deriving DecidableEq

/-- mirrors hypothesis_graph.py:149-194 -/
structure HypothesisGraph where
  componentIds : List String
  relationships : List ComponentRelationship
  components_some : componentIds ≠ []
  components_nodup : componentIds.Nodup
  relationships_nodup : (relationships.map (·.relationshipId)).Nodup
  endpoints : ∀ r ∈ relationships,
    r.sourceComponentId ∈ componentIds ∧ r.targetComponentId ∈ componentIds

/-- mirrors hypothesis_graph.py:204-210 -/
def HypothesisGraph.artifactIds (g : HypothesisGraph) : GraphArtifactKind → List String
  | .component => g.componentIds
  | .relationship => g.relationships.map (·.relationshipId)

/-- mirrors artifact_testing.py:40-58 -/
inductive IdentificationMethod | standalone | ablation | factorial
deriving DecidableEq

structure IdentificationArm where
  name : String
  includedComponentIds : List String

/-- What the design is to measure. -/
structure IdentificationQuestion (E : Type) where
  artifactKind : GraphArtifactKind
  artifactContentId : String
  estimand : String
  benchmark : String
  regime : String
  nullHypothesis : String
  falsifiedIf : String
  effect : E

/-- mirrors artifact_testing.py:62-75 -/
structure ArtifactTestDraft (E : Type) extends IdentificationQuestion E where
  identificationMethod : IdentificationMethod
  arms : List IdentificationArm

variable {E : Type}

/-- mirrors artifact_testing.py:68, 77-90 -/
def ArtifactTestDraft.validated (d : ArtifactTestDraft E) : Except String (ArtifactTestDraft E) :=
  if d.arms.length < 2 then .error "arms should have at least 2 items"
  else if ¬ (d.arms.map (·.name)).Nodup then .error "identification arms must have unique names"
  else if ¬ (d.arms.map (·.includedComponentIds)).Nodup then
    .error "identification arms must describe unique component sets"
  else if d.artifactKind = .relationship ∧ d.identificationMethod ≠ .factorial then
    .error "an interaction requires a factorial identifying design"
  else if d.artifactKind = .relationship ∧ d.arms.length < 4 then
    .error "an interaction requires at least the four cells of a 2x2 design"
  else .ok d

/-- mirrors registry.py:1380-1411 -/
def verifyIdentifyingArms (graph : HypothesisGraph) (d : ArtifactTestDraft E) :
    Except String Unit :=
  let armSets := d.arms.map (·.includedComponentIds.toFinset)
  match d.artifactKind with
  | .component =>
    let target := d.artifactContentId
    if ∃ a ∈ armSets, target ∈ a ∧ ∃ b ∈ armSets, target ∉ b ∧ a.erase target = b then .ok ()
    else .error ("a component contrast needs a matched component background both with and " ++
      "without the target")
  | .relationship =>
    match graph.relationships.find? (·.relationshipId = d.artifactContentId) with
    | none => .error "StopIteration"
    | some r =>
      let ends := {r.sourceComponentId, r.targetComponentId}
      if ∃ a ∈ armSets, ∀ cell ∈ [(false, false), (true, false), (false, true), (true, true)],
          ∃ b ∈ armSets, b \ ends = a \ ends ∧
            (decide (r.sourceComponentId ∈ b), decide (r.targetComponentId ∈ b)) = cell then
        .ok ()
      else .error ("an interaction contrast needs all four source/target factorial cells under " ++
        "one matched component background")

/-- mirrors recombination.py:175-181 -/
structure IdentificationRecommendation (E : Type) where
  question : IdentificationQuestion E
  evidence : ArtifactEvidenceSummary
  test : Option (ArtifactTestDraft E) := none
  reason : String

/-- What is read of a registration. -/
structure Registration where
  hypothesisId : String
  version : ℕ
  contentHash : String
  graph : Option HypothesisGraph
  universe_ : List String

/-- `_applies` -/
def Applies (registration : Registration) (question : IdentificationQuestion E)
    (entry : ArtifactEvidence) : Prop :=
  entry.estimand = question.estimand ∧ entry.benchmark = question.benchmark ∧
    entry.regime = question.regime ∧ entry.universe_ = registration.universe_
deriving Decidable

def arm (name : String) (components : List String) : IdentificationArm := ⟨name, sortedSet components⟩

/-- mirrors recombination.py:379-391 -/
def ablation (graph : HypothesisGraph) (question : IdentificationQuestion E) :
    ArtifactTestDraft E :=
  { question with
    identificationMethod := .ablation
    arms := [arm "without-target" (graph.componentIds.filter (· ≠ question.artifactContentId)),
      arm "with-target" graph.componentIds] }

def background (graph : HypothesisGraph) (r : ComponentRelationship) : List String :=
  graph.componentIds.filter (· ∉ [r.sourceComponentId, r.targetComponentId])

/-- mirrors recombination.py:398-423 -/
def factorial (graph : HypothesisGraph) (question : IdentificationQuestion E)
    (r : ComponentRelationship) : ArtifactTestDraft E :=
  { question with
    identificationMethod := .factorial
    arms := [arm "neither" (background graph r),
      arm "source-only" (r.sourceComponentId :: background graph r),
      arm "target-only" (r.targetComponentId :: background graph r),
      arm "source-and-target"
        (r.sourceComponentId :: r.targetComponentId :: background graph r)] }

def design (graph : HypothesisGraph) (question : IdentificationQuestion E) :
    Except String (ArtifactTestDraft E) :=
  match question.artifactKind with
  | .component => .ok (ablation graph question)
  | .relationship =>
    match graph.relationships.find? (·.relationshipId = question.artifactContentId) with
    | none => .error "StopIteration"
    | some r => .ok (factorial graph question r)

/-- The evidence that decides whether there is anything to test. -/
def noTestReason (summary : ArtifactEvidenceSummary) (registration : Registration)
    (question : IdentificationQuestion E) : Option String :=
  if summary.buckets.flatten = [] then
    some "no prior artifact evidence grounds an identification experiment"
  else if decide (∃ e ∈ summary.supporting, Applies registration question e) ≠
      decide (∃ e ∈ summary.refuting, Applies registration question e) then
    some ("matching direct evidence already resolves this exact applicability; " ++
      "retesting would not add a new question")
  else none

/-- mirrors recombination.py:333-442 -/
def proposeIdentification (get : String → ℕ → Option Registration) (memory : MemoryStore)
    (registration : Registration) (question : IdentificationQuestion E) :
    Except String (IdentificationRecommendation E) :=
  let refusal := "identification requires an artifact in the exact persisted hypothesis graph"
  match get registration.hypothesisId registration.version, registration.graph with
  | some current, some graph =>
    if current.contentHash ≠ registration.contentHash ∨
        question.artifactContentId ∉ graph.artifactIds question.artifactKind then .error refusal
    else
      let summary := summarizeArtifact memory question.artifactContentId (some question.artifactKind)
      match noTestReason summary registration question with
      | some reason => .ok { question, evidence := summary, reason }
      | none => do
        let test ← (← design graph question).validated
        return { question, evidence := summary, test := some test
                 reason := "prior evidence is contextual, underpowered, unassessed, or " ++
                   "contradictory; a matched identifying contrast can resolve the exact claim" }
  | _, _ => .error refusal

/-! ## Designs -/

section designs

variable {graph : HypothesisGraph} {question : IdentificationQuestion E} {d : ArtifactTestDraft E}
  {c : String}

/-- The components an artifact is made of. -/
def varied (graph : HypothesisGraph) (question : IdentificationQuestion E) : List String :=
  match question.artifactKind with
  | .component => [question.artifactContentId]
  | .relationship =>
    (graph.relationships.filter (·.relationshipId = question.artifactContentId)).flatMap fun r =>
      [r.sourceComponentId, r.targetComponentId]

/-- A valid design about components of the graph; beside the artifact an arm holds what the graph
holds. -/
def Identifies (graph : HypothesisGraph) (question : IdentificationQuestion E)
    (d : ArtifactTestDraft E) : Prop :=
  d.validated = .ok d ∧ verifyIdentifyingArms graph d = .ok () ∧
    ∀ a ∈ d.arms, a.includedComponentIds ⊆ graph.componentIds ∧
      ∀ c ∉ varied graph question, c ∈ a.includedComponentIds ↔ c ∈ graph.componentIds

/-- No relationship of this id joins a component with itself. -/
def TwoEnded (graph : HypothesisGraph) (question : IdentificationQuestion E) : Prop :=
  question.artifactKind = .relationship → ∀ r ∈ graph.relationships,
    r.relationshipId = question.artifactContentId → r.sourceComponentId ≠ r.targetComponentId

theorem mem_arm {name : String} {l : List String} : c ∈ (arm name l).includedComponentIds ↔ c ∈ l :=
  mem_sortedSet

theorem arm_set (name : String) (l : List String) :
    (arm name l).includedComponentIds.toFinset = l.toFinset := by
  ext c; simp [mem_arm]

theorem arm_ne {l l' : List String} (h : c ∈ l) (h' : c ∉ l') : sortedSet l ≠ sortedSet l' :=
  fun heq => h' (mem_sortedSet.1 (heq ▸ mem_sortedSet.2 h))

theorem ablation_identifies (hkind : question.artifactKind = .component)
    (hmem : question.artifactContentId ∈ graph.componentIds) :
    Identifies graph question (ablation graph question) := by
  have hnot : question.artifactContentId ∉
      graph.componentIds.filter (· ≠ question.artifactContentId) := by simp
  refine ⟨?_, ?_, ?_⟩
  · unfold ArtifactTestDraft.validated ablation
    simpa [arm, hkind] using (arm_ne hmem hnot).symm
  · unfold verifyIdentifyingArms ablation; rw [hkind]
    refine if_pos ⟨_, List.mem_map_of_mem (List.mem_cons_of_mem _ List.mem_cons_self), ?_, _,
      List.mem_map_of_mem List.mem_cons_self, ?_, ?_⟩
    · simpa [arm_set] using hmem
    · simp [arm_set]
    · rw [arm_set, arm_set]; ext c; simp [and_comm]
  · simp only [varied, hkind, ablation, List.forall_mem_cons, List.subset_def, mem_arm]
    simp; grind

theorem find_relationship {r : ComponentRelationship} (hr : r ∈ graph.relationships) :
    graph.relationships.find? (·.relationshipId = r.relationshipId) = some r := by
  cases hfind : graph.relationships.find? (·.relationshipId = r.relationshipId) with
  | none => simpa using List.find?_eq_none.1 hfind r hr
  | some found =>
    exact congrArg some (List.inj_on_of_nodup_map graph.relationships_nodup
      (List.mem_of_find?_eq_some hfind) hr (by simpa using List.find?_some hfind))

section factorial

variable {r : ComponentRelationship}

theorem factorial_refused (heq : r.sourceComponentId = r.targetComponentId) :
    (factorial graph question r).validated =
      .error "identification arms must describe unique component sets" := by
  unfold ArtifactTestDraft.validated factorial; rw [heq]; simp [arm]

theorem factorial_validated (hne : r.sourceComponentId ≠ r.targetComponentId) :
    (factorial graph question r).validated = .ok (factorial graph question r) := by
  have hself : ∀ {x : String} {l}, x ∈ x :: l := List.mem_cons_self
  have hsource : r.sourceComponentId ∉ background graph r := by simp [background]
  have htarget : r.targetComponentId ∉ background graph r := by simp [background]
  have hsource' : r.sourceComponentId ∉ r.targetComponentId :: background graph r := by
    simp [hne, hsource]
  have htarget' : r.targetComponentId ∉ r.sourceComponentId :: background graph r := by
    simp [hne.symm, htarget]
  have hnodup : ((factorial graph question r).arms.map (·.includedComponentIds)).Nodup := by
    simp only [factorial, List.map_cons, List.map_nil, arm, List.nodup_cons, List.mem_cons,
      List.not_mem_nil, or_false, not_or, not_false_iff, List.nodup_nil, and_true]
    exact ⟨⟨(arm_ne hself hsource).symm, (arm_ne hself htarget).symm,
      (arm_ne hself hsource).symm⟩, ⟨arm_ne hself hsource',
      (arm_ne (List.mem_cons_of_mem _ hself) htarget').symm⟩, (arm_ne hself hsource').symm⟩
  unfold ArtifactTestDraft.validated; rw [if_neg (not_not.2 hnodup)]
  simp [factorial, arm]

theorem factorial_identifies (hkind : question.artifactKind = .relationship)
    (hr : r ∈ graph.relationships) (hid : r.relationshipId = question.artifactContentId)
    (hne : r.sourceComponentId ≠ r.targetComponentId) :
    Identifies graph question (factorial graph question r) := by
  have hsource : r.sourceComponentId ∉ background graph r := by simp [background]
  have htarget : r.targetComponentId ∉ background graph r := by simp [background]
  refine ⟨factorial_validated hne, ?_, ?_⟩
  · unfold verifyIdentifyingArms factorial; dsimp only
    rw [hkind, ← hid, find_relationship hr]
    refine if_pos ⟨_, List.mem_map_of_mem List.mem_cons_self, ?_⟩
    simp [arm_set, hsource, htarget, hne, hne.symm, Finset.insert_sdiff_of_mem]
  · have hends := graph.endpoints r hr
    have hvaried : ∀ c ∉ varied graph question,
        c ≠ r.sourceComponentId ∧ c ≠ r.targetComponentId := by
      intro c hc; simp [varied, hkind] at hc; exact hc r hr hid
    simp only [factorial, List.forall_mem_cons, List.subset_def, mem_arm]
    simp [background]; grind

end factorial

theorem design_cases (hmem : question.artifactContentId ∈ graph.artifactIds question.artifactKind) :
    ∃ d, design graph question = .ok d ∧ (TwoEnded graph question ∧ Identifies graph question d ∨
      ¬ TwoEnded graph question ∧ ∃ e, d.validated = .error e) := by
  unfold design
  cases hkind : question.artifactKind with
  | component =>
    rw [hkind] at hmem
    exact ⟨_, rfl, .inl ⟨fun h => (by simp [hkind] at h), ablation_identifies hkind hmem⟩⟩
  | relationship =>
    rw [hkind] at hmem; obtain ⟨r, hr, hid⟩ := List.mem_map.1 hmem
    have hfind := find_relationship hr; rw [hid] at hfind; dsimp only
    rw [hfind]; refine ⟨_, rfl, ?_⟩
    by_cases hends : r.sourceComponentId = r.targetComponentId
    · exact .inr ⟨fun htwo => htwo hkind r hr hid hends, _, factorial_refused hends⟩
    · refine .inl ⟨fun _ other hother hid' => ?_, factorial_identifies hkind hr hid hends⟩
      obtain rfl : r = other :=
        List.inj_on_of_nodup_map graph.relationships_nodup hr hother (hid.trans hid'.symm)
      exact hends

/-- **A design identifies**, or there is none, except for a relationship of a component with
itself. -/
theorem identification_iff {get : String → ℕ → Option Registration} {memory : MemoryStore}
    {registration current : Registration} (hgraph : registration.graph = some graph)
    (hcurrent : get registration.hypothesisId registration.version = some current)
    (hhash : current.contentHash = registration.contentHash)
    (hmem : question.artifactContentId ∈ graph.artifactIds question.artifactKind) :
    (∃ r, proposeIdentification get memory registration question = .ok r ∧
      ∀ d ∈ r.test, Identifies graph question d) ↔
      (noTestReason (summarizeArtifact memory question.artifactContentId
        (some question.artifactKind)) registration question).isSome ∨ TwoEnded graph question := by
  unfold proposeIdentification; rw [hcurrent, hgraph]; dsimp only
  rw [if_neg (not_or.2 ⟨not_not.2 hhash, not_not.2 hmem⟩)]
  cases noTestReason (summarizeArtifact memory question.artifactContentId
    (some question.artifactKind)) registration question with
  | some reason => exact ⟨fun _ => .inl rfl, fun _ => ⟨_, rfl, nofun⟩⟩
  | none =>
    obtain ⟨d, hd, hcases⟩ := design_cases hmem; dsimp only; rw [hd]
    rcases hcases with ⟨htwo, hidentifies⟩ | ⟨hself, e, herror⟩
    · refine ⟨fun _ => .inr htwo, fun _ =>
        ⟨_, except_bind_ok.2 ⟨d, rfl, except_bind_ok.2 ⟨d, hidentifies.1, rfl⟩⟩, fun d' hd' => ?_⟩⟩
      cases hd'; exact hidentifies
    refine ⟨fun ⟨r, hr, _⟩ => ?_, fun h => absurd (h.resolve_left (by simp)) hself⟩
    obtain ⟨_, hd, hr⟩ := except_bind_ok.1 hr
    obtain ⟨_, hvalid, _⟩ := except_bind_ok.1 hr; cases hd
    cases herror.symm.trans hvalid

end designs

/-- The components of a finding, the one driving itself where `target` is it too. -/
def driven (target : String) (h : target ∈ ["drift", "gap"]) : HypothesisGraph where
  componentIds := ["drift", "gap"]
  relationships := [⟨"gap drives drift", "gap", target⟩]
  components_some := by decide
  components_nodup := by decide
  relationships_nodup := by simp
  endpoints := by simpa using h

def driving : IdentificationQuestion Unit :=
  ⟨.relationship, "gap drives drift", "mean", "zero", "all", "no drift", "no effect", ()⟩

def drivenBy (graph : HypothesisGraph) : Registration := ⟨"H1", 1, "R1", some graph, ["SPY"]⟩

theorem identification_iff_drift : ∃ r, proposeIdentification
    (fun _ _ => some (drivenBy (driven "drift" (by decide)))) assessed
    (drivenBy (driven "drift" (by decide))) driving = .ok r ∧
      ∀ d ∈ r.test, Identifies (driven "drift" (by decide)) driving d :=
  (identification_iff rfl rfl rfl (by decide)).2 (.inr fun _ r hr _ => by
    obtain rfl := List.mem_singleton.1 hr
    decide)

/-- A component that drives itself gets neither a design nor a reason for none. -/
theorem self_driven_raises : ¬ ∃ r, proposeIdentification
    (fun _ _ => some (drivenBy (driven "gap" (by decide)))) assessed
    (drivenBy (driven "gap" (by decide))) driving = .ok r ∧
      ∀ d ∈ r.test, Identifies (driven "gap" (by decide)) driving d := by
  rintro ⟨r, hr, -⟩
  have hraises : (proposeIdentification (fun _ _ => some (drivenBy (driven "gap" (by decide))))
      assessed (drivenBy (driven "gap" (by decide))) driving).toOption.isNone := by decide
  rw [hr] at hraises; cases hraises

end Quantbot.L3.Identification
