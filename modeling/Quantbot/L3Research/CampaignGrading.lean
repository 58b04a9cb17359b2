import Quantbot.L3Research.Campaigns

/-!
# What grading a campaign depends on

A campaign has one grade for each frozen scenario and survives only on complete, unambiguous
measurements. The order of the measurements shows in the activity recorded for a scenario that was
measured twice, and nowhere else.

* `grade_campaign_laws`: totality, order, survival and monotonicity of `grade_campaign`.
-/
namespace Quantbot.L3.Experiment

open L2
open Promotion (CampaignVerdict ScenarioVerdict)

theorem nodup_eraseDups {l : List String} : l.eraseDups.Nodup := by
  induction h : l.length using Nat.strong_induction_on generalizing l with
  | _ n ih =>
    cases l with
    | nil => exact List.nodup_nil
    | cons a rest =>
      rw [List.eraseDups_cons, List.nodup_cons]
      refine ⟨by simp [List.mem_eraseDups], ih _ ?_ rfl⟩
      have := rest.length_filter_le fun b => !b == a; rw [List.length_cons] at h
      omega

theorem mergeSort_eraseDups_perm {l l' : List String} (h : l.Perm l') :
    l.eraseDups.mergeSort = l'.eraseDups.mergeSort := by
  have hperm : l.eraseDups.Perm l'.eraseDups :=
    (List.perm_ext_iff_of_nodup nodup_eraseDups nodup_eraseDups).2 fun a => by
      rw [List.mem_eraseDups, List.mem_eraseDups, h.mem_iff]
  exact (((List.mergeSort_perm _ _).trans hperm).trans (List.mergeSort_perm _ _).symm).eq_of_pairwise
    (fun _ _ _ _ => le_antisymm) (List.pairwise_mergeSort' (· ≤ ·) _)
    (List.pairwise_mergeSort' (· ≤ ·) _)

section laws

variable {g : Grading} {c : ValidationCampaign} {ms ms' : List ScenarioMeasured} {z z' : ℚ}

/-- The activity of a scenario that was measured twice is that of the measurement listed first. -/
def ScenarioOutcome.settled (ms : List ScenarioMeasured) (o : ScenarioOutcome) : ScenarioOutcome :=
  if 1 < (ms.filter fun m => m.scenarioId = o.scenarioId).length then
    { o with trades := 0, effectiveObservations := 0 }
  else o

/-- The outcome without the activity that depends on the order of the measurements. -/
def CampaignOutcome.settled (ms : List ScenarioMeasured) (o : CampaignOutcome) : CampaignOutcome :=
  { o with scenarios := o.scenarios.map (·.settled ms) }

/-- One measurement for each frozen scenario and none for another. -/
def MeasuredOnce (g : Grading) (c : ValidationCampaign) (ms : List ScenarioMeasured) : Prop :=
  (∀ x ∈ c.scenarios, (ms.filter fun m => m.scenarioId = (g.scenario x).scenarioId).length = 1) ∧
    ∀ m ∈ ms, m.scenarioId ∈ c.scenarios.map fun x => (g.scenario x).scenarioId

/-- The same measurement with a statistic no larger. Effect and interval decide nothing. -/
structure Lowered (m m' : ScenarioMeasured) : Prop where
  scenarioId : m'.scenarioId = m.scenarioId
  trades : m'.trades = m.trades
  effectiveObservations : m'.effectiveObservations = m.effectiveObservations
  regimeMetrics : m'.regimeMetrics = m.regimeMetrics
  statistic : m'.testStatistic = m.testStatistic ∨
    ∃ t ∈ m.testStatistic, ∃ t' ∈ m'.testStatistic, t' ≤ t

/-! ## The outcome as a whole -/

def graded (g : Grading) (c : ValidationCampaign) (ms : List ScenarioMeasured) (z : ℚ) :
    List ScenarioOutcome := c.scenarios.map (gradeScenario g ms z)

theorem gradeCampaign_fields {o : CampaignOutcome} (h : gradeCampaign g c ms z = .ok o) :
    o.scenarios = graded g c ms z ∧
    o.integrityDefects = integrityDefects (unknownScenarios g c ms) o.scenarios ∧
    o.verdict = (campaignVerdict g c o.integrityDefects o.scenarios).1 ∧
    o.underpoweredCount = (underpowered o.scenarios).length ∧
    o.underpoweredFraction = underpoweredFraction o.scenarios ∧
    o.detail = (campaignVerdict g c o.integrityDefects o.scenarios).2 := by
  unfold gradeCampaign at h; split at h
  · cases h
  split at h
  · cases h
  dsimp only at h; split at h <;> cases h; exact ⟨rfl, rfl, rfl, rfl, rfl, rfl⟩

theorem graded_ids : (graded g c ms z).map (·.scenarioId) =
    c.scenarios.map fun x => (g.scenario x).scenarioId := by
  unfold graded; rw [List.map_map]
  exact List.map_congr_left fun x _ => gradeScenario_id g ms z x

/-! ## Order -/

theorem settled_shown (o : ScenarioOutcome) :
    (o.settled ms).scenarioId = o.scenarioId ∧ (o.settled ms).verdict = o.verdict := by
  unfold ScenarioOutcome.settled; split <;> exact ⟨rfl, rfl⟩

theorem filter_settled (p : ScenarioOutcome → Bool) (l : List ScenarioOutcome)
    (hp : ∀ o, p (o.settled ms) = p o) :
    (l.map (·.settled ms)).filter p = (l.filter p).map (·.settled ms) := by
  rw [List.filter_map]; exact congrArg _ (List.filter_congr fun o _ => hp o)

theorem unresolved_settled (l : List ScenarioOutcome) :
    unresolved (l.map (·.settled ms)) = (unresolved l).map (·.settled ms) :=
  filter_settled _ l fun o => by rw [(settled_shown o).2]

theorem underpowered_settled (l : List ScenarioOutcome) :
    underpowered (l.map (·.settled ms)) = (underpowered l).map (·.settled ms) :=
  filter_settled _ l fun o => by rw [(settled_shown o).2]

theorem ids_settled (l : List ScenarioOutcome) :
    (l.map (·.settled ms)).map (·.scenarioId) = l.map (·.scenarioId) := by
  rw [List.map_map]; exact List.map_congr_left fun o _ => (settled_shown o).1

theorem integrityDefects_settled (unknown : List String) (l : List ScenarioOutcome) :
    integrityDefects unknown (l.map (·.settled ms)) = integrityDefects unknown l := by
  unfold integrityDefects; rw [unresolved_settled, ids_settled]
  simp only [ne_eq, List.map_eq_nil_iff]

theorem underpoweredFraction_settled (l : List ScenarioOutcome) :
    underpoweredFraction (l.map (·.settled ms)) = underpoweredFraction l := by
  unfold underpoweredFraction
  rw [underpowered_settled, List.length_map, List.length_map]

theorem campaignVerdict_settled (defects : List String) (l : List ScenarioOutcome) :
    campaignVerdict g c defects (l.map (·.settled ms)) = campaignVerdict g c defects l := by
  have hrequired : ∀ o : ScenarioOutcome, requiredOutcome g c (o.settled ms) ↔
      requiredOutcome g c o := fun o => by unfold requiredOutcome; rw [(settled_shown o).1]
  unfold campaignVerdict
  rw [underpowered_settled, underpoweredFraction_settled,
    filter_settled _ _ fun o => by simp only [hrequired],
    filter_settled _ _ fun o => by simp only [hrequired, (settled_shown o).2]]
  simp only [ne_eq, List.map_eq_nil_iff, ids_settled]

theorem settled_congr {α : Type} {F : List ScenarioOutcome → α} {l l' : List ScenarioOutcome}
    (hF : ∀ l, F (l.map (·.settled ms)) = F l)
    (h : l.map (·.settled ms) = l'.map (·.settled ms)) : F l = F l' :=
  (hF l).symm.trans (h ▸ hF l')

theorem gradeScenario_perm (h : ms.Perm ms') (x : ValidationScenario) :
    (gradeScenario g ms z x).settled ms = (gradeScenario g ms' z x).settled ms := by
  have hfilter := h.filter fun m => m.scenarioId = (g.scenario x).scenarioId
  unfold ScenarioOutcome.settled; rw [gradeScenario_id, gradeScenario_id]
  unfold gradeScenario; dsimp only
  generalize ms.filter (fun m => m.scenarioId = (g.scenario x).scenarioId) = l at hfilter ⊢
  generalize ms'.filter (fun m => m.scenarioId = (g.scenario x).scenarioId) = l' at hfilter ⊢
  match l, l' with
  | [], [] => rfl
  | [m], [m'] => rw [List.singleton_perm_singleton.1 hfilter]
  | [], _ :: _ => exact absurd hfilter.length_eq (by simp)
  | [_], [] => exact absurd hfilter.length_eq (by simp)
  | [_], _ :: _ :: _ => exact absurd hfilter.length_eq (by simp)
  | _ :: _ :: _, [] => exact absurd hfilter.length_eq (by simp)
  | _ :: _ :: _, [_] => exact absurd hfilter.length_eq (by simp)
  | _ :: _ :: _, _ :: _ :: _ =>
    rw [if_pos (by simp), if_pos (by simp)]

theorem gradeCampaign_perm (hperm : ms.Perm ms') {o o' : CampaignOutcome}
    (h : gradeCampaign g c ms z = .ok o) (h' : gradeCampaign g c ms' z = .ok o') :
    o.settled ms = o'.settled ms := by
  obtain ⟨hs, hd, hv, hc, hf, ht⟩ := gradeCampaign_fields h
  obtain ⟨hs', hd', hv', hc', hf', ht'⟩ := gradeCampaign_fields h'
  have hscenarios : o.scenarios.map (·.settled ms) = o'.scenarios.map (·.settled ms) := by
    rw [hs, hs', graded, graded, List.map_map, List.map_map]
    exact List.map_congr_left fun x _ => gradeScenario_perm hperm x
  have hunknown : unknownScenarios g c ms = unknownScenarios g c ms' :=
    mergeSort_eraseDups_perm ((hperm.map _).filter _)
  have hdefects : o.integrityDefects = o'.integrityDefects := by
    rw [hd, hd', hunknown]
    exact settled_congr (integrityDefects_settled _) hscenarios
  have hverdict : campaignVerdict g c o.integrityDefects o.scenarios =
      campaignVerdict g c o'.integrityDefects o'.scenarios := by
    rw [hdefects]; exact settled_congr (campaignVerdict_settled _) hscenarios
  have hcount : (underpowered o.scenarios).length = (underpowered o'.scenarios).length := by
    have := congrArg (List.length ∘ underpowered) hscenarios
    simpa [underpowered_settled] using this
  have hfraction : underpoweredFraction o.scenarios = underpoweredFraction o'.scenarios :=
    settled_congr underpoweredFraction_settled hscenarios
  have hid := (gradeCampaign_ok h).trans (gradeCampaign_ok h').symm; cases o
  cases o'; simp_all [CampaignOutcome.settled]

/-! ## Survival -/

variable {l : List ScenarioOutcome}

theorem campaignVerdict_survived {defects : List String} :
    (campaignVerdict g c defects l).1 = .survived ↔ defects = [] ∧
      (∀ o ∈ l, requiredOutcome g c o → o.verdict ≠ .underpowered ∧ o.verdict ≠ .refuted) ∧
      underpoweredFraction l ≤ g.maximumUnderpoweredFraction c := by
  have hidle : (underpowered l).filter (requiredOutcome g c ·) = [] ↔
      ∀ o ∈ l, requiredOutcome g c o → o.verdict ≠ .underpowered := by
    simp only [underpowered, List.filter_eq_nil_iff, List.mem_filter, decide_eq_true_eq]
    exact ⟨fun h o ho hr hv => h o ⟨ho, hv⟩ hr, fun h o ho hr => h o ho.1 hr ho.2⟩
  have hrefuted : (l.filter fun o => requiredOutcome g c o ∧ o.verdict = .refuted) = [] ↔
      ∀ o ∈ l, requiredOutcome g c o → o.verdict ≠ .refuted := by
    simp only [List.filter_eq_nil_iff, decide_eq_true_eq, not_and, ne_eq]
  have hboth : (∀ o ∈ l, requiredOutcome g c o → o.verdict ≠ .underpowered ∧
      o.verdict ≠ .refuted) ↔ (∀ o ∈ l, requiredOutcome g c o → o.verdict ≠ .underpowered) ∧
      ∀ o ∈ l, requiredOutcome g c o → o.verdict ≠ .refuted :=
    ⟨fun h => ⟨fun o ho hr => (h o ho hr).1, fun o ho hr => (h o ho hr).2⟩,
      fun h o ho hr => ⟨h.1 o ho hr, h.2 o ho hr⟩⟩
  rw [hboth, ← hidle, ← hrefuted, ← not_lt]; unfold campaignVerdict
  by_cases hd : defects = []
  · rw [if_neg (not_not.2 hd)]; split
    · next h => simp [h]
    next h =>
    rw [not_not] at h; split
    · next hshare => simp [hshare]
    next hshare =>
    split
    · next hbad => exact ⟨fun h' => (by cases h'), fun h' => absurd h'.2.1.2 hbad⟩
    · next hbad => exact ⟨fun _ => ⟨hd, ⟨h, not_not.1 hbad⟩, hshare⟩, fun _ => rfl⟩
  · rw [if_pos hd]; simp [hd]

theorem unknownScenarios_eq_nil : unknownScenarios g c ms = [] ↔
    ∀ m ∈ ms, m.scenarioId ∈ c.scenarios.map fun x => (g.scenario x).scenarioId := by
  unfold unknownScenarios
  simp only [List.eq_nil_iff_forall_not_mem, List.mem_mergeSort, List.mem_eraseDups,
    List.mem_filter, decide_eq_true_eq, not_and, not_not, List.forall_mem_map]

theorem unassessed_unresolved : ScenarioVerdict.unassessed ∈ unresolvedScenarioVerdicts := by decide

variable {x : ValidationScenario}

theorem measured_once (h : (gradeScenario g ms z x).verdict ∉ unresolvedScenarioVerdicts) :
    (ms.filter fun m => m.scenarioId = (g.scenario x).scenarioId).length = 1 := by
  unfold gradeScenario at h; dsimp only at h
  generalize ms.filter (fun m => m.scenarioId = (g.scenario x).scenarioId) = l at h ⊢
  match l with
  | [] => exact absurd unassessed_unresolved h
  | [_] => rfl
  | _ :: _ :: _ => exact absurd unassessed_unresolved h

theorem unresolved_eq_nil :
    unresolved l = [] ↔ ∀ o ∈ l, o.verdict ∉ unresolvedScenarioVerdicts := by
  simp only [unresolved, List.filter_eq_nil_iff, decide_eq_true_eq]

theorem gradeCampaign_survived {o : CampaignOutcome} (h : gradeCampaign g c ms z = .ok o) :
    o.verdict = .survived ↔ MeasuredOnce g c ms ∧
      (∀ s ∈ o.scenarios, requiredOutcome g c s → s.verdict = .survived) ∧
      unresolved o.scenarios = [] ∧ o.underpoweredFraction ≤ g.maximumUnderpoweredFraction c := by
  obtain ⟨hs, hd, hv, -, hf, -⟩ := gradeCampaign_fields h
  rw [hv, campaignVerdict_survived, hd, integrityDefects_eq_nil, hf, unknownScenarios_eq_nil]
  constructor
  · rintro ⟨⟨hknown, hresolved⟩, hrequired, hshare⟩
    have hall := unresolved_eq_nil.1 hresolved
    refine ⟨⟨fun x hx => measured_once (z := z) ?_, hknown⟩, fun s hmem hr => ?_, hresolved, hshare⟩
    · exact hall _ (hs ▸ List.mem_map_of_mem hx)
    rcases resolved_cases (hall s hmem) with hv | hv | hv
    · exact hv
    · exact absurd hv (hrequired s hmem hr).2
    · exact absurd hv (hrequired s hmem hr).1
  · rintro ⟨⟨-, hknown⟩, hrequired, hresolved, hshare⟩
    refine ⟨⟨hknown, hresolved⟩, fun s hmem hr => ?_, hshare⟩
    rw [hrequired s hmem hr]; exact ⟨by decide, by decide⟩

/-! ## A harder test -/

/-- How a verdict may change when the bar rises or the statistic falls. -/
def Harder (v v' : ScenarioVerdict) : Prop :=
  v' = v ∨ v = .survived ∧ v' = .refuted

theorem scenarioVerdict_harder {m m' : ScenarioMeasured} (h : Lowered m m') (hz : z ≤ z')
    (x : ValidationScenario) :
    Harder (scenarioVerdict g x m z).1 (scenarioVerdict g x m' z').1 := by
  have hmissing : missingMetrics g x m' = missingMetrics g x m := by
    unfold missingMetrics; rw [h.regimeMetrics]
  have hcontradicted : contradictedMetrics g x m' = contradictedMetrics g x m := by
    unfold contradictedMetrics; rw [h.regimeMetrics]
  have hstatistic : ∀ t t' : ℚ, t' ≤ t → z' ≤ t' → z ≤ t := fun t t' ht hz' => by linarith
  unfold scenarioVerdict
  rw [hmissing, hcontradicted, h.trades, h.effectiveObservations]; dsimp only
  split
  · exact .inl rfl
  split
  · exact .inl rfl
  split
  · exact .inl rfl
  have hlower : m'.testStatistic = none ∧ m.testStatistic = none ∨
      ∃ t t', m.testStatistic = some t ∧ m'.testStatistic = some t' ∧ t' ≤ t := by
    rcases h.statistic with heq | ⟨t, ht, t', ht', hle⟩
    · cases hm : m.testStatistic with
      | none => exact .inl ⟨heq.trans hm, rfl⟩
      | some t => exact .inr ⟨t, t, rfl, heq.trans hm, le_rfl⟩
    · exact .inr ⟨t, t', ht, ht', hle⟩
  rcases hlower with ⟨hm', hm⟩ | ⟨t, t', hm, hm', hle⟩
  · rw [hm, hm']; exact .inl rfl
  rw [hm, hm']; dsimp only; by_cases hbar' : z' ≤ t'
  · rw [if_pos hbar', if_pos (hstatistic t t' hle hbar')]; exact .inl rfl
  rw [if_neg hbar']
  have hrefuted : ∀ (b : Prop) [Decidable b] (p q : String), (if b then (.refuted, p)
      else (.refuted, q) : ScenarioVerdict × String).1 = .refuted := by
    intro b _ p q; split <;> rfl
  rw [hrefuted]; by_cases hbar : z ≤ t
  · rw [if_pos hbar]; exact .inr ⟨rfl, rfl⟩
  · rw [if_neg hbar, hrefuted]; exact .inl rfl

theorem gradeScenario_harder (h : List.Forall₂ Lowered ms ms') (hz : z ≤ z')
    (hone : (ms'.filter fun m => m.scenarioId = (g.scenario x).scenarioId).length = 1) :
    Harder (gradeScenario g ms z x).verdict (gradeScenario g ms' z' x).verdict := by
  have hfilter : List.Forall₂ Lowered
      (ms.filter fun m => m.scenarioId = (g.scenario x).scenarioId)
      (ms'.filter fun m => m.scenarioId = (g.scenario x).scenarioId) := by
    refine List.rel_filter (fun m m' hm => ?_) h; simp [hm.scenarioId]
  unfold gradeScenario; dsimp only
  generalize ms.filter (fun m => m.scenarioId = (g.scenario x).scenarioId) = l at hfilter ⊢
  generalize ms'.filter (fun m => m.scenarioId = (g.scenario x).scenarioId) = l' at hfilter hone ⊢
  obtain ⟨m', rfl⟩ := List.length_eq_one_iff.1 hone
  obtain ⟨m, _, hm, hnil, rfl⟩ := List.forall₂_cons_right_iff.1 hfilter
  rw [List.forall₂_nil_right_iff.1 hnil]; exact scenarioVerdict_harder hm hz x

theorem gradeCampaign_harder (h : List.Forall₂ Lowered ms ms') (hz : z ≤ z')
    {o o' : CampaignOutcome} (ho : gradeCampaign g c ms z = .ok o)
    (ho' : gradeCampaign g c ms' z' = .ok o') (hv : o'.verdict = .survived) :
    o.verdict = .survived := by
  obtain ⟨⟨hone, hknown⟩, hrequired, hresolved, hshare⟩ := (gradeCampaign_survived ho').1 hv
  obtain ⟨hs, -, -, -, hf, -⟩ := gradeCampaign_fields ho
  obtain ⟨hs', -, -, -, hf', -⟩ := gradeCampaign_fields ho'
  have hharder : ∀ x ∈ c.scenarios,
      Harder (gradeScenario g ms z x).verdict (gradeScenario g ms' z' x).verdict :=
    fun x hx => gradeScenario_harder h hz (hone x hx)
  have hmem' : ∀ x ∈ c.scenarios, gradeScenario g ms' z' x ∈ o'.scenarios :=
    fun x hx => hs' ▸ List.mem_map_of_mem hx
  have hresolved' : ∀ x ∈ c.scenarios,
      (gradeScenario g ms z x).verdict ∉ unresolvedScenarioVerdicts := by
    intro x hx; rcases hharder x hx with heq | ⟨heq, -⟩
    · exact heq ▸ unresolved_eq_nil.1 hresolved _ (hmem' x hx)
    · rw [heq]; decide
  rw [gradeCampaign_survived ho, hs]
  refine ⟨⟨fun x hx => measured_once (hresolved' x hx), fun m hm => ?_⟩, fun s hmem hr => ?_, ?_, ?_⟩
  · obtain ⟨i, hi, rfl⟩ := List.mem_iff_getElem.1 hm
    have hlow := (List.forall₂_iff_get.1 h).2 i hi ((List.Forall₂.length_eq h) ▸ hi)
    exact hlow.scenarioId ▸ hknown _ (List.get_mem _ _)
  · obtain ⟨x, hx, rfl⟩ := List.mem_map.1 hmem
    have hsurvived := hrequired _ (hmem' x hx) (by
      unfold requiredOutcome at hr ⊢; rwa [gradeScenario_id] at hr ⊢)
    rcases hharder x hx with heq | ⟨heq, -⟩
    · exact heq.symm.trans hsurvived
    · exact heq
  · refine unresolved_eq_nil.2 ?_; intro s hmem
    obtain ⟨x, hx, rfl⟩ := List.mem_map.1 hmem; exact hresolved' x hx
  · have hcount : (underpowered o.scenarios).length = (underpowered o'.scenarios).length := by
      rw [hs, hs']; unfold underpowered graded
      rw [List.filter_map, List.filter_map, List.length_map, List.length_map]
      refine congrArg _ (List.filter_congr fun x hx => ?_)
      rcases hharder x hx with heq | ⟨heq, heq'⟩
      · simp [heq]
      · simp [heq, heq']
    have hlength : o.scenarios.length = o'.scenarios.length := by
      rw [hs, hs', graded, graded, List.length_map, List.length_map]
    have : o.underpoweredFraction = o'.underpoweredFraction := by
      rw [hf, hf', underpoweredFraction, underpoweredFraction, hcount, hlength]
    rwa [this]

/-- **Grading a campaign.** Of a frozen campaign everything is graded, once; apart from the activity
of a scenario measured twice the order does not show; it survives exactly on complete measurements
that resolved, required scenarios that survived and a share within the ceiling; and no harder test
makes a survivor. -/
theorem grade_campaign_laws (hfrozen : FrozenCampaign g c) (ms : List ScenarioMeasured)
    (hz : 0 < z) : ∃ o, gradeCampaign g c ms z = .ok o ∧
      o.scenarios.map (·.scenarioId) = c.scenarios.map (fun x => (g.scenario x).scenarioId) ∧
      (∀ ms', ms.Perm ms' → ∃ o', gradeCampaign g c ms' z = .ok o' ∧ o'.settled ms = o.settled ms) ∧
      (o.verdict = .survived ↔ MeasuredOnce g c ms ∧
        (∀ s ∈ o.scenarios, requiredOutcome g c s → s.verdict = .survived) ∧
        unresolved o.scenarios = [] ∧ o.underpoweredFraction ≤ g.maximumUnderpoweredFraction c) ∧
      ∀ ms' z', List.Forall₂ Lowered ms ms' → z ≤ z' → ∃ o', gradeCampaign g c ms' z' = .ok o' ∧
          (o'.verdict = .survived → o.verdict = .survived) := by
  obtain ⟨o, ho⟩ := gradeCampaign_total hfrozen ms hz
  refine ⟨o, ho, ?_, fun ms' hperm => ?_, gradeCampaign_survived ho, fun ms' z' hlow hz' => ?_⟩
  · rw [(gradeCampaign_fields ho).1, graded_ids]
  · obtain ⟨o', ho'⟩ := gradeCampaign_total hfrozen ms' hz
    exact ⟨o', ho', (gradeCampaign_perm hperm ho ho').symm⟩
  · obtain ⟨o', ho'⟩ := gradeCampaign_total hfrozen ms' (lt_of_lt_of_le hz hz')
    exact ⟨o', ho', gradeCampaign_harder hlow hz' ho ho'⟩

end laws

/-! ## A campaign of two windows -/

def windowGrading : Grading where
  toReadings := { plainReadings with
    scenario := fun x => { plainReadings.scenario x with scenarioId := x.rest } }
  maximumUnderpoweredFraction _ := 0
  str _ := ""

def twoWindows : ValidationCampaign where
  eligibleStart := 0
  eligibleEnd := 10
  scenarios := [⟨"us-equities-daily", "VALIDATION", 0, 5, "calm", none⟩,
    ⟨"us-equities-daily", "VALIDATION", 6, 10, "adverse", none⟩]

def measuredWith (trades : ℕ) : ScenarioMeasured :=
  { scenarioId := "calm", testStatistic := some 4, trades := trades, effectiveObservations := 1 }

theorem twoWindows_frozen : FrozenCampaign windowGrading twoWindows :=
  ⟨by decide, ⟨_, List.mem_cons_self, rfl⟩, le_rfl⟩

/-- **Two reports on one window.** The activity recorded for it is that of the first. -/
theorem duplicate_order_shows : ¬ ∀ ms ms', ms.Perm ms' →
      gradeCampaign windowGrading twoWindows ms 3 = gradeCampaign windowGrading twoWindows ms' 3 := by
  intro h
  have hsame := congrArg (fun r => r.toOption.map fun o => o.scenarios.map (·.trades))
    (h [measuredWith 1, measuredWith 2] _ (List.Perm.swap _ _ _))
  revert hsame; decide +kernel

theorem grade_campaign_laws_windows :
    ∃ o, gradeCampaign windowGrading twoWindows [measuredWith 1, measuredWith 2] 3 = .ok o ∧
      o.scenarios.map (·.scenarioId) = ["calm", "adverse"] ∧ o.verdict ≠ .survived := by
  obtain ⟨o, ho, hids, -, hsurvived, -⟩ := grade_campaign_laws twoWindows_frozen
    [measuredWith 1, measuredWith 2] (show (0 : ℚ) < 3 by decide)
  refine ⟨o, ho, hids, fun hv => ?_⟩
  have hone := ((hsurvived.1 hv).1.1 _ List.mem_cons_self : List.length _ = 1)
  revert hone; decide

end Quantbot.L3.Experiment
