import Quantbot.L4Learner.RepositoryLedger

/-!
# Saves of the learner's repository

A save that returns has written its row or found it (`saveModel_ok` and its fellows), one that
raises leaves the tables as they were (`saveModel_steady`), and an exact repeat finds its row
(`saveModel_repeat`), while the clock has not gone back and the cohort of an evaluation is still
the stored one.
-/
namespace Quantbot.L4.Learner

open Core L1 L3.Registry
open L4.Intraday (minute FittedEstimator)
open Txn

variable {D H F : Type} {env : Evidence F D H}

/-! ## Records that are saved -/

theorem validateDataset_ok {d v : Dataset F} (h : validateDataset env d = .ok v) :
    (Standing env.fl env.artifactId).1 v := by
  unfold validateDataset at h; split at h
  · rename_i hchecks; cases h; exact ⟨d.normalized_idem, hchecks⟩
  · cases h

theorem validateModel_ok {m v : ModelVersion F} (h : validateModel env m = .ok v) :
    (Standing env.fl env.artifactId).2.1 v := by
  unfold validateModel at h; split at h
  · rename_i hchecks; cases h; exact ⟨m.normalized_idem, hchecks⟩
  · cases h

theorem validatePrediction_ok {p v : Prediction F} (h : validatePrediction env p = .ok v) :
    (Standing env.fl env.artifactId).2.2 v := by
  unfold validatePrediction at h; split at h
  · rename_i hchecks; cases h; exact ⟨p.normalized_idem, hchecks⟩
  · cases h

theorem validateOutcome_ok {o v : Outcome F} (h : validateOutcome env o = .ok v) :
    o = v ∧ v.Checks env.fl := by
  unfold validateOutcome at h; split at h
  · rename_i hchecks; cases h; exact ⟨rfl, hchecks⟩
  · cases h

theorem validateEvaluation_ok {e v : Evaluation} (h : validateEvaluation e = .ok v) :
    e = v ∧ v.Checks := by
  unfold validateEvaluation at h; split at h
  · rename_i hchecks; cases h; exact ⟨rfl, hchecks⟩
  · cases h

/-! ## Good sessions -/

section Sessions
variable {s s₁ : Session env}

theorem ledger_of_shown (h : s₁.shown = s.shown) : s₁.ledger = s.ledger :=
  congrArg Shown.ledger h

theorem pending_of_shown (h : s₁.shown = s.shown) : s₁.pending = s.pending :=
  congrArg Shown.pending h

end Sessions

variable [DecidableEq D] [DecidableEq H]

/-- A session in which what is remembered is right: the checks it made, the rows it reads, and the
predictions it inserted, which have no outcome. -/
structure Good (s : Session env) : Prop where
  checked : Checked s
  sound : Sound env s.ledger
  settled : ∀ r ∈ s.ledger.outcomes.rows, r.predictionId ∉ s.pending

/-- What a save that returned did to its session. -/
structure Wrote (fresh : Bool) (s s' : Session env) : Prop where
  good : Good s'
  keeps : Keeps s.ledger s'.ledger
  again : fresh = false → s'.ledger = s.ledger

section Saves
variable {s s₁ s' : Session env}

theorem Good.of_shown (hs : Good s) (hshown : s₁.shown = s.shown) (hchecked : Checked s₁) :
    Good s₁ := by
  refine ⟨hchecked, ?_, ?_⟩
  · rw [ledger_of_shown hshown]; exact hs.sound
  · rw [ledger_of_shown hshown, pending_of_shown hshown]; exact hs.settled

variable {fresh : Bool}

theorem Wrote.after (hshown : s₁.shown = s.shown) (h : Wrote fresh s₁ s') : Wrote fresh s s' := by
  have hledger := ledger_of_shown hshown; refine ⟨h.good, ?_, fun hfresh => ?_⟩
  · rw [← hledger]; exact h.keeps
  · rw [← hledger]; exact h.again hfresh

theorem saveDataset_ok {d : Dataset F} (hs : Good s) (h : saveDataset env d s = .ok fresh s') :
    ∃ v, validateDataset env d = .ok v ∧
      env.datasetPayload v ∈ s'.ledger.datasets.rows ∧ Wrote fresh s s' := by
  obtain ⟨v, s₁, hraise, hzoom⟩ := bind_ok.1 h
  obtain ⟨hvalid, rfl⟩ := raising_ok.1 hraise
  obtain ⟨t, hsave, rfl⟩ := zoom_ok.1 hzoom
  have hsaved := saveImmutable_ok hsave
  have hkeeps : Keeps s₁.ledger { s₁.ledger with datasets := t } :=
    ⟨hsaved.kept, fun _ h => h, fun _ h => h, fun _ h => h, fun _ h => h⟩
  refine ⟨v, hvalid, hsaved.stored, ⟨hs.checked, ?_, hs.settled⟩, hkeeps, fun hfresh => ?_⟩
  · refine hs.sound.grow hkeeps (fun r hr => ?_) (fun r hr => .inl hr) (fun r hr => .inl hr)
      (fun r hr => .inl hr) fun r hr => .inl hr
    exact (hsaved.only r hr).imp id fun hrow => ⟨v, validateDataset_ok hvalid, hrow⟩
  · rw [hsaved.again hfresh]

theorem saveModel_ok {m : ModelVersion F} (hs : Good s) (h : saveModel env m s = .ok fresh s') :
    ∃ v, validateModel env m = .ok v ∧
      env.modelPayload v ∈ s'.ledger.models.rows ∧ Wrote fresh s s' := by
  obtain ⟨v, s₁, hraise, hdependencies⟩ := bind_ok.1 h
  obtain ⟨hvalid, rfl⟩ := raising_ok.1 hraise
  obtain ⟨d, s₂, hget, hfit⟩ := bind_ok.1 hdependencies
  obtain ⟨hdataset, hshown₂, hchecked₂⟩ := (getDataset_checked _).ok hs.checked hget
  obtain ⟨_, s₃, hraise', hparents⟩ := bind_ok.1 hfit
  obtain ⟨hmatch, rfl⟩ := raising_ok.1 hraise'
  obtain ⟨_, s₄, hrequire, hzoom⟩ := bind_ok.1 hparents
  obtain ⟨hparent, hshown₄, hchecked₄⟩ := (requireParent_reads _ _ _).ok hchecked₂ hrequire
  obtain ⟨t, hsave, rfl⟩ := zoom_ok.1 hzoom
  have hshown := hshown₄.trans hshown₂
  have hgood := hs.of_shown hshown hchecked₄
  have hsaved := saveImmutable_ok hsave
  have hkeeps : Keeps s₄.ledger { s₄.ledger with models := t } :=
    ⟨fun _ h => h, hsaved.kept, fun _ h => h, fun _ h => h, fun _ h => h⟩
  refine ⟨v, hvalid, hsaved.stored, Wrote.after hshown
    ⟨⟨hgood.checked, ?_, hgood.settled⟩, hkeeps, fun hfresh => ?_⟩⟩
  · refine hgood.sound.grow hkeeps (fun r hr => .inl hr) (fun r hr => ?_) (fun r hr => .inl hr)
      (fun r hr => .inl hr) fun r hr => .inl hr
    refine (hsaved.only r hr).imp id fun hrow => ?_
    refine ⟨v, validateModel_ok hvalid, hrow, d, ?_, hmatch, ?_⟩
    · rw [ledger_of_shown hshown]; exact hdataset
    · rw [ledger_of_shown hshown₄]; exact hparent
  · rw [hsaved.again hfresh]

variable {now : Int} {p : Prediction F}

theorem storePrediction_ok {m : ModelVersion F} {d : Dataset F} (hs : Good s)
    (hp : (Standing env.fl env.artifactId).2.2 p) (hm : modelOf env s.ledger p.modelId = .ok m)
    (hd : datasetOf env s.ledger m.datasetId = .ok d)
    (h : storePrediction env p m d now (s.ledger.predictions.get? p.predictionId) s = .ok fresh s') :
    (∃ recordedAt, env.predictionPayload p recordedAt ∈ s'.ledger.predictions.rows) ∧
      Wrote fresh s s' := by
  cases hrow : s.ledger.predictions.get? p.predictionId with
  | some existing =>
    rw [hrow] at h; obtain ⟨_, s₁, hraise, hbranch⟩ := bind_ok.1 h
    obtain ⟨_, rfl⟩ := raising_ok.1 hraise; split at hbranch
    · rename_i hsame; obtain ⟨hfresh, rfl⟩ := pure_ok.1 hbranch
      refine ⟨⟨existing.recordedAt, ?_⟩, hs, Keeps.refl _, fun _ => rfl⟩
      rw [← hsame]; exact (Table.get?_some hrow).1
    · cases hbranch
  | none =>
    rw [hrow] at h; obtain ⟨_, s₁, hraise, hinsert⟩ := bind_ok.1 h
    obtain ⟨hmatch, rfl⟩ := raising_ok.1 hraise
    obtain ⟨_, s₂, hzoom, hpend⟩ := bind_ok.1 hinsert
    obtain ⟨t, hrows, rfl⟩ := zoom_ok.1 hzoom
    obtain ⟨_, s₃, hmodify, hpure⟩ := bind_ok.1 hpend; rw [modify_ok] at hmodify
    obtain ⟨hfresh, rfl⟩ := pure_ok.1 hpure
    obtain ⟨hnone, rfl⟩ := insertRow_ok hrows; subst hmodify
    have hstored : env.predictionPayload p now ∈
        (s₁.ledger.predictions.insert (env.predictionPayload p now)).rows :=
      (Table.mem_insert hnone).2 (.inr rfl)
    have hkeeps : Keeps s₁.ledger { s₁.ledger with
        predictions := s₁.ledger.predictions.insert (env.predictionPayload p now) } :=
      ⟨fun _ h => h, fun _ h => h, fun _ => Table.mem_insert_of_mem, fun _ h => h, fun _ h => h⟩
    refine ⟨⟨now, hstored⟩, ⟨hs.checked, ?_, ?_⟩, hkeeps, fun hagain => ?_⟩
    · refine hs.sound.grow hkeeps (fun r hr => .inl hr) (fun r hr => .inl hr) (fun r hr => ?_)
        (fun r hr => .inl hr) fun r hr => .inl hr
      refine (Table.mem_of_mem_insert hr).imp id fun hrow => ?_; rw [hrow]
      exact ⟨p, hp, rfl, m, d, hm, hd, hmatch⟩
    · -- an outcome is of a prediction that was already there
      intro r hr hpending; rcases List.mem_cons.1 hpending with hsame | hpending
      · obtain ⟨o, _, hrow', p', hread, _⟩ := hs.sound.outcomes r hr
        obtain ⟨row, hfound, _⟩ := except_bind_ok.1 hread
        have hid : o.predictionId = p.predictionId :=
          (congrArg (·.predictionId) hrow').symm.trans hsame
        have hsome := found_ok.1 hfound; rw [hid, hrow] at hsome; cases hsome
      · exact hs.settled r hr hpending
    · rw [← hfresh] at hagain; cases hagain

theorem savePrediction_ok (hs : Good s)
    (h : savePrediction env p now s = .ok fresh s') : ∃ v, validatePrediction env p = .ok v ∧
      (∃ recordedAt, env.predictionPayload v recordedAt ∈ s'.ledger.predictions.rows) ∧
      Wrote fresh s s' := by
  obtain ⟨v, s₁, hraise, hmodel⟩ := bind_ok.1 h
  obtain ⟨hvalid, rfl⟩ := raising_ok.1 hraise
  obtain ⟨m, s₂, hget, hdataset⟩ := bind_ok.1 hmodel
  obtain ⟨hm, hshown₂, hchecked₂⟩ := (getModel_reads _).ok hs.checked hget
  obtain ⟨d, s₃, hget', hstore⟩ := bind_ok.1 hdataset
  obtain ⟨hd, hshown₃, hchecked₃⟩ := (getDataset_checked _).ok hchecked₂ hget'
  have hshown := hshown₃.trans hshown₂
  have hresult := storePrediction_ok (hs.of_shown hshown hchecked₃) (validatePrediction_ok hvalid)
    (by rw [ledger_of_shown hshown]; exact hm)
    (by rw [ledger_of_shown hshown₃]; exact hd) hstore
  exact ⟨v, hvalid, hresult.1, hresult.2.after hshown⟩

theorem saveOutcome_ok {o : Outcome F} (hs : Good s) (h : saveOutcome env o now s = .ok fresh s') :
    validateOutcome env o = .ok o ∧
      env.outcomePayload o ∈ s'.ledger.outcomes.rows ∧ Wrote fresh s s' := by
  obtain ⟨v, s₁, hraise, hpending⟩ := bind_ok.1 h
  obtain ⟨hvalid, rfl⟩ := raising_ok.1 hraise
  obtain ⟨rfl, hchecks⟩ := validateOutcome_ok hvalid
  obtain ⟨s₀, s₂, hgot, hrequires⟩ := bind_ok.1 hpending
  obtain ⟨hs₀, hs₂⟩ := get_ok.1 hgot
  obtain ⟨_, s₃, hrequire, hclock⟩ := bind_ok.1 hrequires
  obtain ⟨hnot, hs₃⟩ := require_ok.1 hrequire
  obtain ⟨_, s₄, hrequire', hprediction⟩ := bind_ok.1 hclock
  obtain ⟨_, hs₄⟩ := require_ok.1 hrequire'; rw [hs₀] at hnot
  rw [hs₄, hs₃, hs₂] at hprediction
  obtain ⟨p, s₅, hget, hmatches⟩ := bind_ok.1 hprediction
  obtain ⟨hp, hshown, hchecked⟩ := (getPrediction_reads _).ok hs.checked hget
  obtain ⟨_, s₆, hraise', hzoom⟩ := bind_ok.1 hmatches
  obtain ⟨hmatch, rfl⟩ := raising_ok.1 hraise'
  obtain ⟨t, hsave, rfl⟩ := zoom_ok.1 hzoom
  have hgood := hs.of_shown hshown hchecked
  have hsaved := saveImmutable_ok hsave
  have hkeeps : Keeps s₆.ledger { s₆.ledger with outcomes := t } :=
    ⟨fun _ h => h, fun _ h => h, fun _ h => h, hsaved.kept, fun _ h => h⟩
  refine ⟨hvalid, hsaved.stored, Wrote.after hshown
    ⟨⟨hgood.checked, ?_, fun r hr => ?_⟩, hkeeps, fun hfresh => ?_⟩⟩
  · refine hgood.sound.grow hkeeps (fun r hr => .inl hr) (fun r hr => .inl hr) (fun r hr => .inl hr)
      (fun r hr => ?_) fun r hr => .inl hr
    refine (hsaved.only r hr).imp id fun hrow => ⟨o, hchecks, hrow, p, ?_, hmatch⟩
    rw [ledger_of_shown hshown]; exact hp
  · rcases hsaved.only r hr with hold | hrow
    · exact hgood.settled r hold
    rw [hrow]; rw [pending_of_shown hshown]; exact hnot
  · rw [hsaved.again hfresh]

theorem saveEvaluation_ok {e : Evaluation} (hs : Good s)
    (h : saveEvaluation env e s = .ok fresh s') : validateEvaluation e = .ok e ∧
      inputsOf env s.ledger e true = .ok ⟨⟩ ∧
      env.evaluationPayload e ∈ s'.ledger.evaluations.rows ∧ Wrote fresh s s' := by
  obtain ⟨v, s₁, hraise, hrequire⟩ := bind_ok.1 h
  obtain ⟨hvalid, rfl⟩ := raising_ok.1 hraise
  obtain ⟨rfl, hchecks⟩ := validateEvaluation_ok hvalid
  obtain ⟨_, s₂, hget, hzoom⟩ := bind_ok.1 hrequire
  obtain ⟨hinputs, hshown, hchecked⟩ := (requireEvaluationInputs_reads _ _).ok hs.checked hget
  obtain ⟨t, hsave, rfl⟩ := zoom_ok.1 hzoom
  have hgood := hs.of_shown hshown hchecked
  have hsaved := saveImmutable_ok hsave
  have hkeeps : Keeps s₂.ledger { s₂.ledger with evaluations := t } :=
    ⟨fun _ h => h, fun _ h => h, fun _ h => h, fun _ h => h, hsaved.kept⟩
  refine ⟨hvalid, hinputs, hsaved.stored, Wrote.after hshown
    ⟨⟨hgood.checked, ?_, hgood.settled⟩, hkeeps, fun hfresh => ?_⟩⟩
  · refine hgood.sound.grow hkeeps (fun r hr => .inl hr) (fun r hr => .inl hr) (fun r hr => .inl hr)
      (fun r hr => .inl hr) fun r hr => ?_
    refine (hsaved.only r hr).imp id fun hrow => ⟨e, hchecks, hrow, ?_⟩
    rw [ledger_of_shown hshown]; exact inputsOf_kept (Keeps.refl _) hinputs
  · rw [hsaved.again hfresh]

end Saves

/-! ## Saves that raise -/

section Errors

theorem saveDataset_steady (d : Dataset F) :
    Steady Session.shown (Checked : Session env → Prop) (saveDataset env d) :=
  Steady.bind (Reads.raising _) fun _ =>
    Steady.zoom (fun _ _ _ h => saveImmutable_error h) fun _ => rfl

theorem saveModel_steady (m : ModelVersion F) :
    Steady Session.shown (Checked : Session env → Prop) (saveModel env m) :=
  Steady.bind (Reads.raising _) fun v => Steady.bind (getDataset_checked v.datasetId) fun d =>
    Steady.bind (Reads.raising _) fun _ =>
      Steady.bind (requireParent_reads v d v.parentModelId) fun _ =>
        Steady.zoom (fun _ _ _ h => saveImmutable_error h) fun _ => rfl

theorem storePrediction_steady (p : Prediction F) (m : ModelVersion F) (d : Dataset F) (now : Int)
    (row : Option (PredictionRow D H)) :
    Steady Session.shown (Checked : Session env → Prop) (storePrediction env p m d now row) := by
  cases row with
  | some existing =>
    refine Steady.bind (Reads.raising _) fun _ => ?_; split
    · exact Steady.pure false
    · exact (Reads.throw _).steady
  | none =>
    refine Steady.bind (Reads.raising _) fun _ => ?_
    refine Steady.last (Steady.zoom (fun _ _ _ h => insertRow_error h) fun _ => rfl) ?_
    intro _ s e s' h; rcases bind_error.1 h with hmodify | ⟨_, _, _, hpure⟩
    · cases hmodify
    · cases hpure

theorem savePrediction_steady (p : Prediction F) (now : Int) :
    Steady Session.shown (Checked : Session env → Prop) (savePrediction env p now) :=
  Steady.bind (Reads.raising _) fun v => Steady.bind (getModel_reads v.modelId) fun m =>
    Steady.bind (getDataset_checked m.datasetId) fun d =>
      Steady.get fun _ => storePrediction_steady v m d now _

theorem saveOutcome_steady (o : Outcome F) (now : Int) :
    Steady Session.shown (Checked : Session env → Prop) (saveOutcome env o now) :=
  Steady.bind (Reads.raising _) fun v => Steady.get fun _ =>
    Steady.bind (Reads.require _ _) fun _ => Steady.bind (Reads.require _ _) fun _ =>
      Steady.bind (getPrediction_reads v.predictionId) fun _ =>
        Steady.bind (Reads.raising _) fun _ =>
          Steady.zoom (fun _ _ _ h => saveImmutable_error h) fun _ => rfl

theorem saveEvaluation_steady (e : Evaluation) :
    Steady Session.shown (Checked : Session env → Prop) (saveEvaluation env e) :=
  Steady.bind (Reads.raising _) fun v =>
    Steady.bind (requireEvaluationInputs_reads v true) fun _ =>
      Steady.zoom (fun _ _ _ h => saveImmutable_error h) fun _ => rfl

end Errors

/-! ## Exact repeats -/

section Repeats
variable {s : Session env}

theorem saveDataset_repeat {d v : Dataset F} (hvalid : validateDataset env d = .ok v)
    (hstored : env.datasetPayload v ∈ s.ledger.datasets.rows) :
    Returns (saveDataset env d) s false :=
  Returns.bind (raising_ok.2 ⟨hvalid, rfl⟩) (Returns.zoom (saveImmutable_repeat hstored))

theorem saveModel_repeat (hs : Good s) {m v : ModelVersion F} (hvalid : validateModel env m = .ok v)
    (hstored : env.modelPayload v ∈ s.ledger.models.rows) : Returns (saveModel env m) s false := by
  obtain ⟨v', hv', hrow, d, hd, hmatch, hparent⟩ := hs.sound.models _ hstored
  obtain rfl := env.models.print_inj (validateModel_ok hvalid) hv' (congrArg (·.documentJson) hrow)
  obtain ⟨s₁, hget, hshown₁, hchecked₁⟩ := (getDataset_checked _).run hs.checked hd
  obtain ⟨s₂, hrequire, hshown₂, hchecked₂⟩ := (requireParent_reads _ _ _).run hchecked₁ (by
    rw [hshown₁]; exact hparent)
  have hstored₂ : env.modelPayload v ∈ s₂.ledger.models.rows := by
    rw [ledger_of_shown (hshown₂.trans hshown₁)]; exact hstored
  refine Returns.bind (raising_ok.2 ⟨hvalid, rfl⟩) (Returns.bind hget ?_)
  refine Returns.bind (raising_ok.2 ⟨hmatch, rfl⟩) (Returns.bind hrequire ?_)
  exact Returns.zoom (saveImmutable_repeat hstored₂)

theorem savePrediction_repeat (hs : Good s) {p v : Prediction F} {recordedAt : Int}
    (hvalid : validatePrediction env p = .ok v)
    (hstored : env.predictionPayload v recordedAt ∈ s.ledger.predictions.rows) (now : Int) :
    Returns (savePrediction env p now) s false := by
  obtain ⟨v', hv', hrow, m, d, hm, hd, hmatch⟩ := hs.sound.predictions _ hstored
  obtain rfl := env.predictions.print_inj (validatePrediction_ok hvalid) hv'
    (congrArg (·.documentJson) hrow)
  obtain ⟨s₁, hget, hshown₁, hchecked₁⟩ := (getModel_reads _).run hs.checked hm
  obtain ⟨s₂, hget', hshown₂, hchecked₂⟩ := (getDataset_checked m.datasetId).run hchecked₁ (by
    rw [hshown₁]; exact hd)
  have hfound : s₂.ledger.predictions.get? v.predictionId =
      some (env.predictionPayload v recordedAt) := by
    rw [ledger_of_shown (hshown₂.trans hshown₁)]; exact Table.get?_key.2 hstored
  refine Returns.bind (raising_ok.2 ⟨hvalid, rfl⟩) (Returns.bind hget (Returns.bind hget' ?_))
  change Returns (storePrediction env v m d now (s₂.ledger.predictions.get? v.predictionId)) s₂ _
  rw [hfound]; refine Returns.bind (raising_ok.2 ⟨hmatch, rfl⟩) ?_
  rw [if_pos hrow]; exact ⟨s₂, rfl⟩

theorem saveOutcome_repeat (hs : Good s) {o : Outcome F} {now : Int}
    (hvalid : validateOutcome env o = .ok o)
    (hstored : env.outcomePayload o ∈ s.ledger.outcomes.rows) (hnow : o.resolvedAt ≤ now) :
    Returns (saveOutcome env o now) s false := by
  have hchecks := (validateOutcome_ok hvalid).2
  obtain ⟨o', ho', hrow, p, hp, hmatch⟩ := hs.sound.outcomes _ hstored
  obtain rfl := env.outcomes.print_inj hchecks ho' (congrArg (·.documentJson) hrow)
  obtain ⟨s₁, hget, hshown₁, _⟩ := (getPrediction_reads _).run hs.checked hp
  have hstored₁ : env.outcomePayload o ∈ s₁.ledger.outcomes.rows := by
    rw [ledger_of_shown hshown₁]; exact hstored
  have havailable : o.availableAt ≤ o.resolvedAt := by
    exact hchecks.2.2.2.2.2.2.2.2.2.2.2
  refine Returns.bind (raising_ok.2 ⟨hvalid, rfl⟩) (Returns.bind (get_ok.2 ⟨rfl, rfl⟩) ?_)
  refine Returns.bind (a := ⟨⟩) (require_ok.2 ⟨hs.settled _ hstored, rfl⟩) ?_
  refine Returns.bind (a := ⟨⟩) (require_ok.2 ⟨⟨by omega, hnow⟩, rfl⟩) (Returns.bind hget ?_)
  refine Returns.bind (raising_ok.2 ⟨hmatch, rfl⟩) ?_
  exact Returns.zoom (saveImmutable_repeat hstored₁)

theorem inputsOf_complete {l : Ledger D H} {e : Evaluation} {u v : PUnit}
    (hinputs : inputsOf env l e false = .ok u) (hcohort : cohortIn env l e true = .ok v) :
    inputsOf env l e true = .ok ⟨⟩ := by
  obtain ⟨m, hm, he⟩ := except_bind_ok.1 hinputs
  obtain ⟨_, hvalid, he⟩ := except_bind_ok.1 he
  obtain ⟨_, hobject, he⟩ := except_bind_ok.1 he
  obtain ⟨expected, hexpected, he⟩ := except_bind_ok.1 he
  obtain ⟨_, hmembers, he⟩ := except_bind_ok.1 he
  refine except_bind_ok.2 ⟨m, hm, except_bind_ok.2 ⟨⟨⟩, hvalid, except_bind_ok.2 ⟨⟨⟩, hobject, ?_⟩⟩⟩
  refine except_bind_ok.2 ⟨expected, hexpected, except_bind_ok.2 ⟨⟨⟩, hmembers, ?_⟩⟩
  exact except_bind_ok.2 ⟨v, hcohort, he⟩

theorem saveEvaluation_repeat (hs : Good s) {e : Evaluation} (hvalid : validateEvaluation e = .ok e)
    (hstored : env.evaluationPayload e ∈ s.ledger.evaluations.rows)
    (hcohort : Cohort s.ledger e) : Returns (saveEvaluation env e) s false := by
  obtain ⟨e', he', hrow, hinputs⟩ := hs.sound.evaluations _ hstored
  obtain rfl := env.evaluations.print_inj (validateEvaluation_ok hvalid).2 he'
    (congrArg (·.documentJson) hrow)
  obtain ⟨_, hwhole⟩ := (hs.sound.cohort e).2 hcohort
  obtain ⟨s₁, hrequire, hshown₁, _⟩ := (requireEvaluationInputs_reads e true).run hs.checked
    (inputsOf_complete hinputs hwhole)
  have hstored₁ : env.evaluationPayload e ∈ s₁.ledger.evaluations.rows := by
    rw [ledger_of_shown hshown₁]; exact hstored
  refine Returns.bind (raising_ok.2 ⟨hvalid, rfl⟩) (Returns.bind hrequire ?_)
  exact Returns.zoom (saveImmutable_repeat hstored₁)

end Repeats

end Quantbot.L4.Learner
