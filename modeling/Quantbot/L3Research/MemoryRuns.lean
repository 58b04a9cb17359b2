import Quantbot.Core.LTS
import Quantbot.L3Research.Memory

/-!
# What research memory keeps

Records, power assessments and run artifacts are written in any order, each in a transaction
of its own.

**Results.**
* `refuted_founded`: a refuted finding on record was on record at a state of the run in which
  no assessment said that its version was never tested. Nothing keeps such an assessment from
  being recorded afterwards (`refuted_then_underpowered`): assessments are appended, whether
  they passed or refused.
* `recordRunArtifacts_ok`: what a projected run leaves, for every graph and outcome set, and
  that the same run projected again leaves the store as it is.
* `bucket_once`: a stored row is in exactly one bucket of its artifact's summary.
* `research_memory`: these for every state reached.
-/
namespace Quantbot.L3.Memory

open Core Txn

variable {contentId : ArtifactEvidence → String}

/-! ## Runs -/

inductive Call
  | record (entry : ResearchRecord)
  | recordAssessment (a : PowerAssessment)
  | recordRunArtifacts (v : RegistryView) (r : RunResult) (source : ResearchRecord)

/-- A call in its own transaction. -/
def Call.apply (contentId : ArtifactEvidence → String) : Call → MemoryStore → MemoryStore
  | .record entry => after (immediate (Memory.record entry))
  | .recordAssessment a => after (immediate (Memory.recordAssessment a))
  | .recordRunArtifacts v r source =>
    after (immediate (Memory.recordRunArtifacts contentId v r source))

def memory (contentId : ArtifactEvidence → String) : LTS MemoryStore Call where
  init s := s = {}
  step s c s' := s' = c.apply contentId s

theorem memory_run (contentId : ArtifactEvidence → String) (calls : List Call) (s : MemoryStore) :
    (memory contentId).Run s calls (calls.foldl (fun s c => c.apply contentId s) s) := by
  induction calls generalizing s with
  | nil => exact .nil s
  | cons c calls ih => exact .cons rfl (ih _)

/-! ## Filing -/

def ResearchRecord.refutes (r : ResearchRecord) : Prop :=
  r.kind = .finding ∧ r.verdict = some .refuted
deriving Decidable

/-- An assessment on record says the version was never tested. -/
def NeverTested (s : MemoryStore) (h : String × Nat) : Prop :=
  ∃ a ∈ listAssessments s h.1 h.2, a.verdict.notTested = true
deriving Decidable

variable {s s' : MemoryStore} {entry source : ResearchRecord}

theorem untested_none (h : untested s entry = none) :
    ∀ v ∈ entry.hypothesis, ¬ NeverTested s v := by
  intro v hv ⟨a, ha, hnot⟩; unfold untested at h; rw [Option.mem_def.1 hv] at h
  change ((listAssessments s v.1 v.2).filter _).getLast? = none at h
  rw [List.getLast?_eq_none_iff] at h
  have hmem : a ∈ (listAssessments s v.1 v.2).filter fun a => a.verdict.notTested :=
    List.mem_filter.2 ⟨ha, hnot⟩
  rw [h] at hmem; cases hmem

/-- What an accepted call of `record` is: a repeat, or a new row whose version was tested. -/
theorem record_ok {b : Bool} (h : record entry s = .ok b s') :
    (b = false ∧ s' = s ∧ entry ∈ s.records.rows) ∨
      (b = true ∧ s.records.get? entry.recordId = none ∧
        s' = { s with records := s.records.insert entry } ∧
        (entry.refutes → ∀ v ∈ entry.hypothesis, ¬ NeverTested s v)) := by
  unfold record at h
  split at h
  · rename_i existing hfound
    split at h
    · rename_i hsame
      subst hsame
      obtain ⟨rfl⟩ := h
      exact .inl ⟨rfl, rfl, (Table.get?_some hfound).1⟩
    · cases h
  · rename_i hnew
    split at h
    · cases h
    rename_i hopen
    obtain ⟨rfl⟩ := h
    refine .inr ⟨rfl, hnew, rfl, fun hrefutes => ?_⟩
    rw [if_pos ⟨hrefutes.1, hrefutes.2⟩] at hopen
    exact untested_none hopen

theorem record_repeat (h : entry ∈ s.records.rows) : record entry s = .ok false s := by
  unfold record; rw [Table.get?_key.2 h]; exact if_pos rfl

theorem record_conflict {existing : ResearchRecord} (h : existing ∈ s.records.rows)
    (hid : existing.recordId = entry.recordId) (hne : existing ≠ entry) :
    ∃ e, record entry s = .error e s := by
  unfold record; rw [← hid, Table.get?_key.2 h]; exact ⟨_, if_neg hne⟩

theorem record_refused (h : entry.refutes) (hnew : entry ∉ s.records.rows) {v : String × Nat}
    (hv : v ∈ entry.hypothesis) (hnever : NeverTested s v) : ∃ e, record entry s = .error e s := by
  unfold record; split
  · rename_i existing hfound; obtain ⟨hmem, _⟩ := Table.get?_some hfound
    refine ⟨_, if_neg fun hsame => hnew ?_⟩; rw [← hsame]; exact hmem
  · rw [if_pos ⟨h.1, h.2⟩]; split
    · exact ⟨_, rfl⟩
    · rename_i hnone; exact absurd hnever (untested_none hnone v hv)

/-! ## Storing evidence -/

/-- Evidence is added and nothing else is written. -/
structure Evidenced (s s' : MemoryStore) : Prop where
  records : s'.records = s.records
  assessments : s'.assessments = s.assessments
  kept : ∀ row ∈ s.evidence.rows, row ∈ s'.evidence.rows

theorem Evidenced.trans {s₀ s₁ s₂ : MemoryStore} (h : Evidenced s₀ s₁) (h' : Evidenced s₁ s₂) :
    Evidenced s₀ s₂ where
  records := h'.records.trans h.records
  assessments := h'.assessments.trans h.assessments
  kept row hrow := h'.kept row (h.kept row hrow)

/-- The row of an entry. -/
def rowOf (contentId : ArtifactEvidence → String) (e : ArtifactEvidence) : EvidenceRow :=
  ⟨contentId e, e⟩

variable {e : ArtifactEvidence}

theorem storeArtifactEvidence_ok {entry : ArtifactEvidence}
    (h : storeArtifactEvidence contentId entry s = .ok e s') :
    e = entry ∧ Evidenced s s' ∧ rowOf contentId entry ∈ s'.evidence.rows ∧
      ∀ row ∈ s'.evidence.rows, row ∈ s.evidence.rows ∨ row = rowOf contentId entry := by
  unfold storeArtifactEvidence at h; split at h
  · rename_i existing hfound; split at h
    · rename_i hsame; obtain ⟨hmem, hid⟩ := Table.get?_some hfound; cases h
      have hrow : rowOf contentId entry = existing := by rw [rowOf, ← hid, ← hsame]
      exact ⟨hsame, ⟨rfl, rfl, fun _ h => h⟩, hrow ▸ hmem, fun _ h => .inl h⟩
    · cases h
  · rename_i hnew; cases h
    refine ⟨rfl, ⟨rfl, rfl, fun _ => Table.mem_insert_of_mem⟩, ?_, fun row => ?_⟩
    · exact (Table.mem_insert hnew).2 (.inr rfl)
    · exact (Table.mem_insert hnew).1

theorem storeArtifactEvidence_repeat {entry : ArtifactEvidence}
    (h : rowOf contentId entry ∈ s.evidence.rows) :
    storeArtifactEvidence contentId entry s = .ok entry s := by
  unfold storeArtifactEvidence
  rw [show contentId entry = (rowOf contentId entry).evidenceId from rfl, Table.get?_key.2 h]
  exact if_pos rfl

variable {rows : List ArtifactEvidence} {evidenceOf : Item → Except MemoryError ArtifactEvidence}

variable {items : List Item}

theorem storeItems_ok (h : storeItems contentId evidenceOf items s = .ok rows s') :
    List.Forall₂ (fun i e => evidenceOf i = .ok e) items rows ∧ Evidenced s s' ∧
      (∀ e ∈ rows, rowOf contentId e ∈ s'.evidence.rows) ∧
      ∀ row ∈ s'.evidence.rows, row ∈ s.evidence.rows ∨ ∃ e ∈ rows, row = rowOf contentId e := by
  induction items generalizing rows s with
  | nil =>
    obtain ⟨rfl, rfl⟩ := pure_ok.1 h
    exact ⟨.nil, ⟨rfl, rfl, fun _ h => h⟩, fun _ h => (by cases h), fun _ h => .inl h⟩
  | cons i rest ih =>
    obtain ⟨entry, _, hlift, hbody⟩ := bind_ok.1 h
    obtain ⟨hentry, rfl⟩ := lift_ok.1 hlift
    obtain ⟨stored, s₁, hstored, hbody⟩ := bind_ok.1 hbody
    obtain ⟨others, _, hothers, hbody⟩ := bind_ok.1 hbody
    obtain ⟨rfl, rfl⟩ := pure_ok.1 hbody
    obtain ⟨rfl, hfirst, hmem, hold⟩ := storeArtifactEvidence_ok hstored
    obtain ⟨hall, hrest, hin, hfrom⟩ := ih hothers
    refine ⟨.cons hentry hall, hfirst.trans hrest, fun e he => ?_, fun row hrow => ?_⟩
    · rcases List.mem_cons.1 he with rfl | he
      · exact hrest.kept _ hmem
      · exact hin e he
    · rcases hfrom row hrow with hmid | ⟨e, he, rfl⟩
      · rcases hold row hmid with hbefore | rfl
        · exact .inl hbefore
        · exact .inr ⟨stored, List.mem_cons_self, rfl⟩
      · exact .inr ⟨e, List.mem_cons_of_mem _ he, rfl⟩

theorem storeItems_repeat (h : List.Forall₂ (fun i e => evidenceOf i = .ok e) items rows)
    (hin : ∀ e ∈ rows, rowOf contentId e ∈ s.evidence.rows) :
    storeItems contentId evidenceOf items s = .ok rows s := by
  induction h with
  | nil => rfl
  | cons he _ ih =>
    refine bind_ok.2 ⟨_, s, lift_ok.2 ⟨he, rfl⟩, bind_ok.2 ⟨_, s, ?_, bind_ok.2 ⟨_, s, ?_, rfl⟩⟩⟩
    · exact storeArtifactEvidence_repeat (hin _ List.mem_cons_self)
    · exact ih fun e he => hin e (List.mem_cons_of_mem _ he)

/-! ## The items of a graph -/

variable {i : Item} {artifactId code : String} {outcomes : List ArtifactOutcome}

variable {kind : GraphArtifactKind}

theorem mem_itemsOf (h : i ∈ itemsOf outcomes kind artifactId) :
    i.kind = kind ∧ i.artifactId = artifactId ∧
      ∀ o ∈ i.outcome, o ∈ outcomes ∧ o.artifactKind = kind ∧ o.artifactContentId = artifactId := by
  unfold itemsOf at h; split at h
  · obtain rfl := List.mem_singleton.1 h
    exact ⟨rfl, rfl, fun _ h => (by cases h)⟩
  obtain ⟨o, ho, rfl⟩ := List.mem_map.1 h; refine ⟨rfl, rfl, fun o' ho' => ?_⟩
  obtain rfl := Option.some.inj (Option.mem_def.1 ho')
  obtain ⟨hmem, hnamed⟩ := List.mem_filter.1 ho
  obtain ⟨hkind, hid⟩ := of_decide_eq_true hnamed; exact ⟨hmem, hkind, hid⟩

theorem itemsOf_ne_nil (outcomes : List ArtifactOutcome) (kind : GraphArtifactKind)
    (artifactId : String) : ∃ i, i ∈ itemsOf outcomes kind artifactId := by
  unfold itemsOf; split
  · exact ⟨_, List.mem_singleton_self _⟩
  rename_i hsome; obtain ⟨o, ho⟩ := List.exists_mem_of_ne_nil _ hsome
  exact ⟨_, List.mem_map_of_mem ho⟩

theorem mem_items {g : HypothesisGraph} : i ∈ g.items outcomes ↔
      ∃ kind, ∃ a ∈ g.artifactIds kind, i ∈ itemsOf outcomes kind a := by
  unfold HypothesisGraph.items
  simp only [List.mem_flatMap, List.mem_insertionSort]; constructor
  · intro ⟨kind, _, a, ha, hi⟩; exact ⟨kind, a, ha, hi⟩
  · intro ⟨kind, a, ha, hi⟩; refine ⟨kind, ?_, a, ha, hi⟩; cases kind <;> simp

/-- A planned test of the artifact was registered, and the run reported the verdict on it. -/
def Reported (v : RegistryView) (r : RunResult) (e : ArtifactEvidence) (w : Verdict) : Prop :=
  ∃ o ∈ r.artifactOutcomes, ∃ test, v.artifactTest o.testId = some test ∧
    o.testId ∈ r.plannedTests ∧ e.testId = some test.testId ∧
    test.artifactKind = e.artifactKind ∧ test.artifactContentId = e.artifactContentId ∧
    o.artifactKind = e.artifactKind ∧ o.artifactContentId = e.artifactContentId ∧
    o.verdict.verdict? = some w

variable {graph : HypothesisGraph} {registration : Registration} {h : String × Nat}

theorem contextual_ok {m : ExperimentManifest}
    (he : (contextualFields m h registration graph code source kind artifactId).validate = .ok e) :
    e.artifactKind = kind ∧ e.artifactContentId = artifactId ∧ e.verdict = none := by
  have hfields := EvidenceFields.validate_ok he
  exact ⟨congrArg (·.artifactKind) hfields, congrArg (·.artifactContentId) hfields,
    congrArg (·.verdict) hfields⟩

variable {v : RegistryView}

theorem evidenceOfOutcome_ok {m : ExperimentManifest} {o : ArtifactOutcome}
    (h : evidenceOfOutcome v m registration graph code source o = .ok e) :
    ∃ test, v.artifactTest o.testId = some test ∧ e.testId = some test.testId ∧
      test.artifactKind = e.artifactKind ∧ test.artifactContentId = e.artifactContentId ∧
      o.artifactKind = e.artifactKind ∧ o.artifactContentId = e.artifactContentId ∧
      o.verdict.verdict? = e.verdict := by
  unfold evidenceOfOutcome at h; split at h
  · cases h
  rename_i test htest; obtain ⟨_, _, h⟩ := except_bind_ok.1 h
  obtain ⟨_, _, h⟩ := except_bind_ok.1 h
  obtain ⟨_, htarget, h⟩ := except_bind_ok.1 h
  obtain ⟨hkind, hid⟩ := refuseUnless_ok.1 htarget
  obtain ⟨_, _, h⟩ := except_bind_ok.1 h
  have hfields := EvidenceFields.validate_ok h
  have hk : e.artifactKind = test.artifactKind := congrArg (·.artifactKind) hfields
  have hi : e.artifactContentId = test.artifactContentId :=
    congrArg (·.artifactContentId) hfields
  exact ⟨test, htest, congrArg (·.testId) hfields, hk.symm, hi.symm, hkind.trans hk.symm,
    hid.trans hi.symm, (congrArg (·.verdict) hfields).symm⟩

variable {r : RunResult}

theorem evidenceOfItem_ok {v : RegistryView} {r : RunResult} {h : String × Nat}
    {registration : Registration} {graph : HypothesisGraph} {code : String}
    {source : ResearchRecord} {i : Item} {e : ArtifactEvidence}
    (hplanned : ∀ o ∈ r.artifactOutcomes, o.testId ∈ r.plannedTests)
    (hi : ∀ o ∈ i.outcome, o ∈ r.artifactOutcomes ∧ o.artifactKind = i.kind ∧
      o.artifactContentId = i.artifactId)
    (he : evidenceOfItem v r.manifest h registration graph code source i = .ok e) :
    e.artifactKind = i.kind ∧ e.artifactContentId = i.artifactId ∧
      ∀ w ∈ e.verdict, Reported v r e w := by
  unfold evidenceOfItem at he; split at he
  · obtain ⟨hkind, hid, hnone⟩ := contextual_ok he
    refine ⟨hkind, hid, fun w hw => ?_⟩; rw [hnone] at hw; cases hw
  rename_i o ho; obtain ⟨hmem, hok, hoid⟩ := hi o ho
  obtain ⟨test, htest, hnamed, hk, hid, hkind, hcontent, hverdict⟩ := evidenceOfOutcome_ok he
  exact ⟨hkind.symm.trans hok, hcontent.symm.trans hoid, fun w hw =>
    ⟨o, hmem, test, htest, hplanned o hmem, hnamed, hk, hid, hkind, hcontent, hverdict.trans hw⟩⟩

/-! ## Projecting a run -/

theorem verifiedRun_ok (hv : verifiedRun v r source = .ok (h, registration, graph, code)) :
    r.manifest.hypothesis = some h ∧ v.registration h.1 h.2 = some registration ∧
      registration.graph = some graph := by
  obtain ⟨_, _, hv⟩ := except_bind_ok.1 hv
  obtain ⟨_, _, hv⟩ := except_bind_ok.1 hv
  obtain ⟨_, _, hv⟩ := except_bind_ok.1 hv
  obtain ⟨_, _, hv⟩ := except_bind_ok.1 hv; split at hv
  · cases hv
  rename_i h' hname; split at hv
  · cases hv
  rename_i registration' hregistered; obtain ⟨_, _, hv⟩ := except_bind_ok.1 hv
  split at hv
  · cases hv
  rename_i graph' code' hgraph; obtain ⟨_, _, hv⟩ := except_bind_ok.1 hv
  split at hv
  · cases hv
  obtain ⟨_, _, hv⟩ := except_bind_ok.1 hv; cases hv
  exact ⟨hname, hregistered, hgraph⟩

/-- What a run leaves once it is projected: every artifact of the registered graph has a row,
a verdict was reported by a test of that artifact, nothing else was stored, and the run
projected again leaves the store as it is. -/
structure Projection (contentId : ArtifactEvidence → String) (v : RegistryView) (r : RunResult)
    (source : ResearchRecord) (s : MemoryStore) (rows : List ArtifactEvidence)
    (s' : MemoryStore) : Prop where
  covered : ∃ h registration graph, r.manifest.hypothesis = some h ∧
    v.registration h.1 h.2 = some registration ∧ registration.graph = some graph ∧
    ∀ kind, ∀ a ∈ graph.artifactIds kind,
      ∃ e ∈ rows, e.artifactKind = kind ∧ e.artifactContentId = a
  stored : ∀ e ∈ rows, rowOf contentId e ∈ s'.evidence.rows
  added : ∀ row ∈ s'.evidence.rows, row ∈ s.evidence.rows ∨ ∃ e ∈ rows, row = rowOf contentId e
  reported : ∀ e ∈ rows, ∀ w ∈ e.verdict, Reported v r e w
  repeated : recordRunArtifacts contentId v r source s' = .ok rows s'

theorem recordRunArtifacts_parts (h : recordRunArtifacts contentId v r source s = .ok rows s') :
    ∃ x b s₁, verifiedRun v r source = .ok x ∧ record source s = .ok b s₁ ∧
      (∀ o ∈ r.artifactOutcomes, o.testId ∈ r.plannedTests) ∧
      storeItems contentId (evidenceOfItem v r.manifest x.1 x.2.1 x.2.2.1 x.2.2.2 source)
        (x.2.2.1.items r.artifactOutcomes) s₁ = .ok rows s' := by
  obtain ⟨x, _, hlift, hbody⟩ := bind_ok.1 h
  obtain ⟨hx, rfl⟩ := lift_ok.1 hlift
  obtain ⟨b, s₁, hrecord, hbody⟩ := bind_ok.1 hbody
  obtain ⟨_, _, hcheck, hstore⟩ := bind_ok.1 hbody
  obtain ⟨hplanned, rfl⟩ := lift_ok.1 hcheck
  exact ⟨x, b, _, hx, hrecord, refuseUnless_ok.1 hplanned, hstore⟩

/-- **Complete, and only what was reported.** -/
theorem recordRunArtifacts_ok (h : recordRunArtifacts contentId v r source s = .ok rows s') :
    Projection contentId v r source s rows s' := by
  obtain ⟨⟨ref, registration, graph, code⟩, b, s₁, hx, hrecord, hplanned, hstore⟩ :=
    recordRunArtifacts_parts h
  obtain ⟨hname, hregistered, hgraph⟩ := verifiedRun_ok hx
  obtain ⟨hall, hgrew, hin, hfrom⟩ := storeItems_ok hstore
  have hitem : ∀ i e, i ∈ graph.items r.artifactOutcomes →
      evidenceOfItem v r.manifest ref registration graph code source i = .ok e →
      e.artifactKind = i.kind ∧ e.artifactContentId = i.artifactId ∧
        ∀ w ∈ e.verdict, Reported v r e w := by
    intro i e hi he; obtain ⟨kind, a, _, hi⟩ := mem_items.1 hi
    obtain ⟨hkind, hid, hout⟩ := mem_itemsOf hi
    exact evidenceOfItem_ok hplanned (hkind.symm ▸ hid.symm ▸ hout) he
  refine ⟨⟨ref, registration, graph, hname, hregistered, hgraph, fun kind a ha => ?_⟩, hin,
    fun row hrow => ?_, fun e he w hw => ?_, ?_⟩
  · obtain ⟨i, hi⟩ := itemsOf_ne_nil r.artifactOutcomes kind a
    obtain ⟨hkind, hid, _⟩ := mem_itemsOf hi
    have hmem : i ∈ graph.items r.artifactOutcomes := mem_items.2 ⟨kind, a, ha, hi⟩
    obtain ⟨e, he, hevidence⟩ := forall₂_left hall i hmem
    obtain ⟨hk, hc, _⟩ := hitem i e hmem hevidence
    exact ⟨e, he, hk.trans hkind, hc.trans hid⟩
  · rcases hfrom row hrow with hold | hnew
    · left; rcases record_ok hrecord with ⟨_, rfl, _⟩ | ⟨_, _, rfl, _⟩
      · exact hold
      · exact hold
    · exact .inr hnew
  · obtain ⟨i, hi, hevidence⟩ := forall₂_left hall.flip e he
    exact (hitem i e hi hevidence).2.2 w hw
  · have hsource : source ∈ s'.records.rows := by
      rw [hgrew.records]
      rcases record_ok hrecord with ⟨_, rfl, hmem⟩ | ⟨_, hnew, rfl, _⟩
      · exact hmem
      · exact (Table.mem_insert hnew).2 (.inr rfl)
    refine bind_ok.2 ⟨_, s', lift_ok.2 ⟨hx, rfl⟩, bind_ok.2 ⟨false, s', record_repeat hsource, ?_⟩⟩
    refine bind_ok.2 ⟨⟨⟩, s', lift_ok.2 ⟨refuseUnless_ok.2 hplanned, rfl⟩, ?_⟩
    exact storeItems_repeat hall hin

/-! ## Every run -/

/-- What was accepted is on record unchanged. -/
structure Keeps (s s' : MemoryStore) : Prop where
  records : ∀ r ∈ s.records.rows, r ∈ s'.records.rows
  assessments : s.assessments <+: s'.assessments
  evidence : ∀ row ∈ s.evidence.rows, row ∈ s'.evidence.rows

instance : IsPreorder MemoryStore Keeps where
  refl _ := ⟨fun _ h => h, List.prefix_rfl, fun _ h => h⟩
  trans _ _ _ h h' := ⟨fun r hr => h'.records r (h.records r hr),
    h.assessments.trans h'.assessments, fun row hr => h'.evidence row (h.evidence row hr)⟩

theorem record_keeps (entry : ResearchRecord) : Moves Keeps (record entry) := fun s b s' h => by
  rcases record_ok h with ⟨_, rfl, _⟩ | ⟨_, _, rfl, _⟩
  · exact refl_of Keeps s'
  · exact ⟨fun _ => Table.mem_insert_of_mem, List.prefix_rfl, fun _ h => h⟩

theorem recordAssessment_keeps (a : PowerAssessment) : Moves Keeps (recordAssessment a) :=
  Moves.modify fun s => ⟨fun _ h => h, List.prefix_append s.assessments [a], fun _ h => h⟩

theorem recordRunArtifacts_keeps (v : RegistryView) (r : RunResult) (source : ResearchRecord) :
    Moves Keeps (recordRunArtifacts contentId v r source) := fun s rows s' h => by
  obtain ⟨x, b, s₁, _, hrecord, _, hstore⟩ := recordRunArtifacts_parts h
  obtain ⟨_, hgrew, _⟩ := storeItems_ok hstore
  refine trans_of Keeps (record_keeps source s b s₁ hrecord)
    ⟨fun r hr => ?_, ?_, hgrew.kept⟩
  · rw [hgrew.records]
    exact hr
  · exact hgrew.assessments ▸ List.prefix_rfl

theorem apply_keeps (c : Call) (s : MemoryStore) : Keeps s (c.apply contentId s) := by
  cases c with
  | record entry => exact (record_keeps entry).after s
  | recordAssessment a => exact (recordAssessment_keeps a).after s
  | recordRunArtifacts v r source => exact (recordRunArtifacts_keeps v r source).after s

variable {r : ResearchRecord}

/-- A finding that is new was filed over no assessment that its version was never tested. -/
theorem record_files {b : Bool} (h : record entry s = .ok b s') (hr : r ∈ s'.records.rows) :
    r ∈ s.records.rows ∨ (r.refutes → ∀ v ∈ r.hypothesis, ¬ NeverTested s' v) := by
  rcases record_ok h with ⟨_, rfl, _⟩ | ⟨_, hnew, rfl, hopen⟩
  · exact .inl hr
  rcases (Table.mem_insert hnew).1 hr with hold | rfl
  · exact .inl hold
  · exact .inr hopen

theorem step_files {c : Call} (h : (memory contentId).step s c s') (hr : r ∈ s'.records.rows) :
    r ∈ s.records.rows ∨ (r.refutes → ∀ v ∈ r.hypothesis, ¬ NeverTested s' v) := by
  cases c with
  | record entry =>
    have hcases := after_cases (record entry) s
    rw [← show s' = after (immediate (record entry)) s from h] at hcases
    rcases hcases with rfl | ⟨b, hok⟩
    · exact .inl hr
    · exact record_files hok hr
  | recordAssessment a =>
    rw [show s' = _ from h] at hr; exact .inl hr
  | recordRunArtifacts v x source =>
    have hcases := after_cases (recordRunArtifacts contentId v x source) s
    rw [← show s' = after (immediate (recordRunArtifacts contentId v x source)) s from h] at hcases
    rcases hcases with rfl | ⟨rows, hok⟩
    · exact .inl hr
    obtain ⟨_, b, s₁, _, hrecord, _, hstore⟩ := recordRunArtifacts_parts hok
    obtain ⟨_, hgrew, _⟩ := storeItems_ok hstore; rw [hgrew.records] at hr
    rcases record_files hrecord hr with hold | hopen
    · exact .inl hold
    refine .inr fun hrefutes v hv ⟨a, ha, hnot⟩ => hopen hrefutes v hv ⟨a, ?_, hnot⟩
    unfold listAssessments at ha ⊢; rw [hgrew.assessments] at ha; exact ha

/-- At some state of the run the finding was on record and its version was tested, as far as
the assessments of that state say. -/
def Founded (contentId : ArtifactEvidence → String) (s : MemoryStore) (r : ResearchRecord)
    (v : String × Nat) : Prop :=
  ∃ m calls, (memory contentId).Reachable m ∧ (memory contentId).Run m calls s ∧
    r ∈ m.records.rows ∧ ¬ NeverTested m v

/-- **A refuted finding was tested when it was filed.** -/
theorem refuted_founded (hs : (memory contentId).Reachable s) :
    ∀ r ∈ s.records.rows, r.refutes → ∀ v ∈ r.hypothesis, Founded contentId s r v := by
  have hinv : (memory contentId).Inductive fun s => (memory contentId).Reachable s ∧
      ∀ r ∈ s.records.rows, r.refutes → ∀ v ∈ r.hypothesis, Founded contentId s r v := by
    refine ⟨fun s hs => ⟨⟨s, [], hs, .nil s⟩, ?_⟩, fun s c s' ⟨hreach, hfounded⟩ hstep => ?_⟩
    · rw [show s = {} from hs]; exact List.forall_mem_nil _
    · have hreach' := hreach.step hstep
      refine ⟨hreach', fun r hr hrefutes v hv => ?_⟩
      rcases step_files hstep hr with hold | hopen
      · obtain ⟨m, calls, hm, hrun, hmem, htested⟩ := hfounded r hold hrefutes v hv
        exact ⟨m, calls ++ [c], hm, hrun.snoc hstep, hmem, htested⟩
      · exact ⟨s', [], hreach', .nil s', hr, hopen hrefutes v hv⟩
  exact (hinv.reachable hs).2

theorem mem_refutationsOf {hypothesisId : String} :
    r ∈ refutationsOf s hypothesisId ↔ r ∈ s.records.rows ∧
      r.hypothesis.any (fun h => h.1 = hypothesisId) = true ∧
      r.kind = .finding ∧ r.verdict.any (·.refuting) = true := by
  unfold refutationsOf findingsFor
  rw [List.mem_filter, List.mem_insertionSort, List.mem_filter, decide_eq_true_eq, and_assoc]

theorem refutationsOf_mono (h : Keeps s s') {hypothesisId : String}
    (hnone : refutationsOf s' hypothesisId = []) : refutationsOf s hypothesisId = [] := by
  rw [List.eq_nil_iff_forall_not_mem] at hnone ⊢; intro r hr
  obtain ⟨hmem, hrest⟩ := mem_refutationsOf.1 hr
  exact hnone r (mem_refutationsOf.2 ⟨h.records r hmem, hrest⟩)

/-! ## The five buckets -/

variable {kind : Option GraphArtifactKind}

theorem mem_evidenceForArtifact {row : EvidenceRow}
    (hrow : row ∈ s.evidence.rows) (hid : row.evidence.artifactContentId = artifactId)
    (hkind : ∀ k ∈ kind, row.evidence.artifactKind = k) :
    row.evidence ∈ evidenceForArtifact s artifactId kind := by
  refine List.mem_map_of_mem ((List.mem_insertionSort _).2 (List.mem_filter.2 ⟨hrow, ?_⟩))
  exact decide_eq_true ⟨hid, hkind⟩

/-- **Exactly one bucket.** -/
theorem bucket_once {row : EvidenceRow}
    (hrow : row ∈ s.evidence.rows) (hid : row.evidence.artifactContentId = artifactId)
    (hkind : ∀ k ∈ kind, row.evidence.artifactKind = k) :
    ((summarizeArtifact s artifactId kind).buckets.countP fun bucket =>
      decide (row.evidence ∈ bucket)) = 1 := by
  have hmem := mem_evidenceForArtifact hrow hid hkind
  have hin : ∀ p : ArtifactEvidence → Bool,
      row.evidence ∈ (evidenceForArtifact s artifactId kind).filter p ↔ p row.evidence = true :=
    fun p => ⟨fun h => (List.mem_filter.1 h).2, fun h => List.mem_filter.2 ⟨hmem, h⟩⟩
  unfold summarizeArtifact ArtifactEvidenceSummary.buckets
  simp only [List.countP_cons, List.countP_nil, hin, decide_eq_true_eq]
  -- a verdict is there exactly where the status says measured, and it is one of three
  cases hstatus : row.evidence.epistemicStatus with
  | directlyMeasured =>
    obtain ⟨w, hw⟩ := Option.isSome_iff_exists.1 (row.evidence.direct.1 hstatus)
    rcases row.evidence.measured w hw with rfl | rfl | rfl <;> simp [hw]
  | contextualAssociation | unassessed =>
    have hnone : row.evidence.verdict = none := by
      rw [← Option.not_isSome_iff_eq_none, ← row.evidence.direct, hstatus]; simp
    simp [hnone]

/-! ## Research memory -/

/-- **What research memory keeps.** In every state reached a refuted finding was filed while its
version was tested, and none is filed otherwise; accepted records and evidence stay as they
are, an exact repeat adds nothing and a conflict is refused; a projected run is complete and
carries only reported verdicts; a stored row is in exactly one bucket. -/
theorem research_memory {s : MemoryStore} (hs : (memory contentId).Reachable s) :
    (∀ r ∈ s.records.rows, r.refutes → ∀ v ∈ r.hypothesis, Founded contentId s r v) ∧
    (∀ entry, entry.refutes → entry ∉ s.records.rows → ∀ v ∈ entry.hypothesis,
      NeverTested s v → ∃ e, record entry s = .error e s) ∧
    (∀ calls s', (memory contentId).Run s calls s' → Keeps s s') ∧
    (∀ entry ∈ s.records.rows, record entry s = .ok false s) ∧
    (∀ entry, ∀ existing ∈ s.records.rows, existing.recordId = entry.recordId →
      existing ≠ entry → ∃ e, record entry s = .error e s) ∧
    (∀ v r source rows s', recordRunArtifacts contentId v r source s = .ok rows s' →
      Projection contentId v r source s rows s') ∧
    (∀ row ∈ s.evidence.rows, ∀ kind : Option GraphArtifactKind,
      (∀ k ∈ kind, row.evidence.artifactKind = k) →
      ((summarizeArtifact s row.evidence.artifactContentId kind).buckets.countP fun bucket =>
        decide (row.evidence ∈ bucket)) = 1) := by
  refine ⟨refuted_founded hs, fun entry h hnew v hv hnever => record_refused h hnew hv hnever,
    fun calls s' hrun => ?_, fun entry => record_repeat,
    fun entry existing h hid hne => record_conflict h hid hne,
    fun v r source rows s' => recordRunArtifacts_ok,
    fun row hrow kind hkind => bucket_once hrow rfl hkind⟩
  have hstep : ∀ s c s', True → (memory contentId).step s c s' → Keeps s s' :=
    fun s c s' _ h => (show s' = Call.apply contentId c s from h) ▸ apply_keeps c s
  exact hrun.rel (fun s => refl_of Keeps s) (fun _ _ _ h h' => trans_of Keeps h h')
    (fun _ _ _ _ _ => trivial) hstep trivial

/-! ## A finding, an assessment and a run -/

def ranCalls (calls : List Call) : MemoryStore :=
  calls.foldl (fun s c => c.apply (·.artifactContentId) s) {}

theorem ranCalls_reachable (calls : List Call) :
    (memory (·.artifactContentId)).Reachable (ranCalls calls) :=
  ⟨{}, calls, rfl, memory_run _ calls {}⟩

/-- A claim that was tested and failed, about version 1 of `H1`. -/
def refutedFinding : ResearchRecord where
  recordId := "F1"
  kind := .finding
  subject := "overnight gap"
  statement := "no edge after costs"
  verdict := some .refuted
  hypothesis := some ("H1", 1)
  evidenceHash := some "M1"
  source := "run E1"
  curated := false
  recordedAt := 1
  numbered := by decide
  found := by decide
  limited := by decide
  derived := by decide

def underpoweredAssessment : PowerAssessment := ⟨"H1", 1, .underpowered, ""⟩

/-- An assessment that is recorded after the finding. -/
theorem refuted_then_underpowered : ∃ s, (memory (·.artifactContentId)).Reachable s ∧
    ∃ r ∈ s.records.rows, r.refutes ∧ ∃ v ∈ r.hypothesis, NeverTested s v :=
  ⟨ranCalls [.record refutedFinding, .recordAssessment underpoweredAssessment],
    ranCalls_reachable _, refutedFinding, by decide, by decide, ("H1", 1), rfl,
    by decide⟩

def testedOutcome : ArtifactOutcome where
  testId := "T1"
  testRegistrationHash := "TH1"
  artifactKind := .component
  artifactContentId := "gap"
  verdict := .refuted
  detail := "no effect"

/-- One component with a planned test, and one relationship without. -/
def testedRun : RunResult where
  manifest :=
    { confirmatory := true, manifestHash := "M1", hypothesis := some ("H1", 1),
      registrationHash := "R1", hypothesisGraphHash := "G1", experimentId := "E1",
      configurationHash := "C1", code := some "commit",
      datasets := [⟨"sip", "PROTECTED_EVALUATION", ""⟩],
      results := [("T1", testedOutcome.expected)] }
  persisted := true
  plannedTests := ["T1"]
  artifactOutcomes := [testedOutcome]

def testedView : RegistryView where
  registration _ _ := some ⟨"R1", some ⟨"G1", ["gap"], ["gap drives drift"]⟩, "mean", ["SPY"], [], 1⟩
  artifactTest _ := some ⟨"T1", "TH1", "H1", 1, "R1", "G1", .component, "gap", "mean", "zero", "all", 1⟩
  windowState _ _ _ _ := some "CONSUMED"

def projectRun : Call := .recordRunArtifacts testedView testedRun refutedFinding

/-- The finding, its run, and an assessment that comes too late. -/
def assessed : MemoryStore :=
  ranCalls [.record refutedFinding, projectRun, .recordAssessment underpoweredAssessment]

theorem research_memory_assessed :
    Founded (·.artifactContentId) assessed refutedFinding ("H1", 1) ∧
    (∃ e, record { refutedFinding with recordId := "F2" } assessed = .error e assessed) ∧
    Keeps assessed (projectRun.apply (·.artifactContentId) assessed) ∧
    record refutedFinding assessed = .ok false assessed ∧
    (∃ e, record { refutedFinding with statement := "an edge" } assessed = .error e assessed) ∧
    (∃ rows s', Projection (·.artifactContentId) testedView testedRun refutedFinding assessed rows
      s') ∧
    ∃ row ∈ assessed.evidence.rows, row.evidence.verdict = some .refuted ∧
      ((summarizeArtifact assessed row.evidence.artifactContentId none).buckets.countP fun bucket =>
        decide (row.evidence ∈ bucket)) = 1 := by
  have hmem : refutedFinding ∈ assessed.records.rows := by decide
  obtain ⟨hfounded, hrefused, hkeeps, hrepeat, hconflict, hproject, honce⟩ :=
    research_memory (s := assessed) (ranCalls_reachable _)
  refine ⟨hfounded refutedFinding hmem (by decide) ("H1", 1) rfl,
    hrefused _ (by decide) (by decide) ("H1", 1) rfl (by decide),
    hkeeps [projectRun] _ (.cons rfl (.nil _)), hrepeat refutedFinding hmem,
    hconflict _ refutedFinding hmem rfl (by decide), ?_, ?_⟩
  · have hreturns : Raises (recordRunArtifacts (·.artifactContentId) testedView testedRun
        refutedFinding) assessed → False := by decide
    cases hrun : recordRunArtifacts (·.artifactContentId) testedView testedRun refutedFinding
      assessed with
    | ok rows s' => exact ⟨rows, s', hproject _ _ _ rows s' hrun⟩
    | error e s' => exact absurd ⟨e, s', hrun⟩ hreturns
  · have hrow : ∃ row ∈ assessed.evidence.rows, row.evidence.verdict = some .refuted := by
      decide
    obtain ⟨row, hrow, hverdict⟩ := hrow
    exact ⟨row, hrow, hverdict, honce row hrow none nofun⟩

end Quantbot.L3.Memory
