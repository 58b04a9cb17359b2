import Quantbot.Core.LTS
import Quantbot.L4Learner.RepositorySaves

/-!
# Runs of the learner's repository

Saves, reads, commits and rollbacks in any order, with any readings of the clock.

**Results.**
* `World.Ok`: the invariant of every run; what is committed stays (`run_keeps`).
* `save_stored`, `save_refused`, `save_again`: a save stores its record or raises and changes
  nothing; a conflicting one raises (`save_conflict`).
* `reads_back`: every stored document reads back as the record it was written from.
* `ledger_immutable`: these together, with the clock of predictions and the cohort of an
  evaluation. A replay has no clock, and an evaluation is checked against a cohort that may have
  grown (`replay_recorded_late`).
-/
namespace Quantbot.L4.Learner

open Core L1 L3.Registry
open L4.Intraday (minute FittedEstimator)
open Txn

variable {D H F : Type} {env : Evidence F D H}

/-! ## The system -/

inductive Save (F : Type)
  | dataset (d : Dataset F)
  | model (m : ModelVersion F)
  | prediction (p : Prediction F) (now : Int)
  | outcome (o : Outcome F) (now : Int)
  | evaluation (e : Evaluation)

inductive Read
  | dataset (id : String)
  | model (id : String)
  | prediction (id : String)
  | predictions (modelId : Option String)
  | outcome (id : String)
  | evaluation (id : String)

/-- What a session does next; `repository` is another `LearnerRepository` over the same session,
`opened` a new session, which finds what was committed. -/
inductive Event (F : Type)
  | save (record : Save F)
  | read (what : Read)
  | repository
  | commit
  | opened

structure World (env : Evidence F D H) where
  committed : Ledger D H := {}
  session : Session env := {}

section System
variable (env) [DecidableEq D] [DecidableEq H]

def save : Save F → Repo env Bool
  | .dataset d => saveDataset env d
  | .model m => saveModel env m
  | .prediction p now => savePrediction env p now
  | .outcome o now => saveOutcome env o now
  | .evaluation e => saveEvaluation env e

/-- The session behind a read. -/
def readIn (s : Session env) : Read → Session env
  | .dataset id => after (getDataset env id) s
  | .model id => after (getModel env id) s
  | .prediction id => after (getPrediction env id) s
  | .predictions modelId => after (listPredictions env modelId) s
  | .outcome id => after (getOutcome env id) s
  | .evaluation id => after (getEvaluation env id) s

def World.next (w : World env) : Event F → World env
  | .save record => { w with session := after (save env record) w.session }
  | .read what => { w with session := readIn env w.session what }
  | .repository =>
    { w with session := { ledger := w.session.ledger, pending := w.session.pending } }
  | .commit => { w with committed := w.session.ledger }
  | .opened => { w with session := { ledger := w.committed } }

def system : LTS (World env) (Event F) where
  init w := w = {}
  step w event w' := w' = w.next env event

end System

/-! ## What is said of a save -/

/-- The validators accept the record. -/
def Save.Valid (env : Evidence F D H) : Save F → Prop
  | .dataset d => d.normalized.Checks env.fl
  | .model m => m.normalized.Checks env.fl env.artifactId
  | .prediction p _ => p.normalized.Checks env.fl
  | .outcome o _ => o.Checks env.fl
  | .evaluation e => e.Checks

/-- The row of the record is stored. -/
def Stored (env : Evidence F D H) (l : Ledger D H) : Save F → Prop
  | .dataset d => env.datasetPayload d.normalized ∈ l.datasets.rows
  | .model m => env.modelPayload m.normalized ∈ l.models.rows
  | .prediction p _ =>
    ∃ recordedAt, env.predictionPayload p.normalized recordedAt ∈ l.predictions.rows
  | .outcome o _ => env.outcomePayload o ∈ l.outcomes.rows
  | .evaluation e => env.evaluationPayload e ∈ l.evaluations.rows

/-- A row of its identity is stored. -/
def Occupied (env : Evidence F D H) (l : Ledger D H) : Save F → Prop
  | .dataset d => ∃ r ∈ l.datasets.rows, r.datasetId = env.datasetId d.normalized
  | .model m => ∃ r ∈ l.models.rows, r.modelId = m.modelId
  | .prediction p _ => ∃ r ∈ l.predictions.rows, r.predictionId = p.predictionId
  | .outcome o _ => ∃ r ∈ l.outcomes.rows, r.predictionId = o.predictionId
  | .evaluation e => ∃ r ∈ l.evaluations.rows, r.evaluationId = e.evaluationId

/-- What a save asks anew of each repeat: that an outcome is resolved by now, and that the
predictions an evaluation expects are those stored. -/
def Current (l : Ledger D H) : Save F → Prop
  | .outcome o now => o.resolvedAt ≤ now
  | .evaluation e => Cohort l e
  | _ => True

/-- Reading the identity returns the record. -/
def Reloads [DecidableEq D] [DecidableEq H] (s : Session env) : Save F → Prop
  | .dataset d => Returns (getDataset env (env.datasetId d.normalized)) s d.normalized
  | .model m => Returns (getModel env m.modelId) s m.normalized
  | .prediction p _ => Returns (getPrediction env p.predictionId) s p.normalized
  | .outcome o _ => Returns (getOutcome env o.predictionId) s (some o)
  | .evaluation e => Returns (getEvaluation env e.evaluationId) s e

theorem validateDataset_valid {d : Dataset F} (h : (Save.dataset d).Valid env) :
    validateDataset env d = .ok d.normalized := if_pos h

theorem validateModel_valid {m : ModelVersion F} (h : (Save.model m).Valid env) :
    validateModel env m = .ok m.normalized := if_pos h

theorem validatePrediction_valid {p : Prediction F} {now : Int}
    (h : (Save.prediction p now).Valid env) : validatePrediction env p = .ok p.normalized :=
  if_pos h

theorem validateOutcome_valid {o : Outcome F} {now : Int} (h : (Save.outcome o now).Valid env) :
    validateOutcome env o = .ok o := if_pos h

theorem validateEvaluation_valid {e : Evaluation}
    (h : (Save.evaluation e : Save F).Valid env) : validateEvaluation e = .ok e := if_pos h

theorem validateDataset_eq {d v : Dataset F} (h : validateDataset env d = .ok v) :
    v = d.normalized ∧ (Save.dataset d).Valid env := by
  unfold validateDataset at h; split at h
  · rename_i hchecks; exact ⟨(Except.ok.inj h).symm, hchecks⟩
  · cases h

theorem validateModel_eq {m v : ModelVersion F} (h : validateModel env m = .ok v) :
    v = m.normalized ∧ (Save.model m).Valid env := by
  unfold validateModel at h; split at h
  · rename_i hchecks; exact ⟨(Except.ok.inj h).symm, hchecks⟩
  · cases h

theorem validatePrediction_eq {p v : Prediction F} (now : Int)
    (h : validatePrediction env p = .ok v) :
    v = p.normalized ∧ (Save.prediction p now).Valid env := by
  unfold validatePrediction at h; split at h
  · rename_i hchecks; exact ⟨(Except.ok.inj h).symm, hchecks⟩
  · cases h

variable [DecidableEq D] [DecidableEq H]

/-! ## One save -/

section One
variable {s s' : Session env} {record : Save F}

/-- **A save that returns** has stored its record. -/
theorem save_stored {fresh : Bool} (hs : Good s) (h : save env record s = .ok fresh s') :
    record.Valid env ∧ Stored env s'.ledger record ∧ Wrote fresh s s' := by
  cases record with
  | dataset d =>
    obtain ⟨v, hv, hstored, hwrote⟩ := saveDataset_ok hs h
    obtain ⟨rfl, hvalid⟩ := validateDataset_eq hv
    exact ⟨hvalid, hstored, hwrote⟩
  | model m =>
    obtain ⟨v, hv, hstored, hwrote⟩ := saveModel_ok hs h
    obtain ⟨rfl, hvalid⟩ := validateModel_eq hv; exact ⟨hvalid, hstored, hwrote⟩
  | prediction p now =>
    obtain ⟨v, hv, hstored, hwrote⟩ := savePrediction_ok hs h
    obtain ⟨rfl, hvalid⟩ := validatePrediction_eq now hv
    exact ⟨hvalid, hstored, hwrote⟩
  | outcome o now =>
    obtain ⟨hv, hstored, hwrote⟩ := saveOutcome_ok hs h
    exact ⟨(validateOutcome_ok hv).2, hstored, hwrote⟩
  | evaluation e =>
    obtain ⟨hv, _, hstored, hwrote⟩ := saveEvaluation_ok hs h
    exact ⟨(validateEvaluation_ok hv).2, hstored, hwrote⟩

theorem save_steady (record : Save F) :
    Steady Session.shown (Checked : Session env → Prop) (save env record) := by
  cases record with
  | dataset d => exact saveDataset_steady d
  | model m => exact saveModel_steady m
  | prediction p now => exact savePrediction_steady p now
  | outcome o now => exact saveOutcome_steady o now
  | evaluation e => exact saveEvaluation_steady e

/-- **A save that raises** changes nothing. -/
theorem save_refused {e : LedgerError} (hs : Good s) (h : save env record s = .error e s') :
    Good s' ∧ s'.ledger = s.ledger := by
  obtain ⟨hshown, hchecked⟩ := save_steady record s e s' hs.checked h
  exact ⟨hs.of_shown hshown hchecked, ledger_of_shown hshown⟩

/-- **An exact repeat** returns `False`. -/
theorem save_again (hs : Good s) (hvalid : record.Valid env)
    (hstored : Stored env s.ledger record) (hcurrent : Current s.ledger record) :
    Returns (save env record) s false := by
  cases record with
  | dataset d => exact saveDataset_repeat (validateDataset_valid hvalid) hstored
  | model m => exact saveModel_repeat hs (validateModel_valid hvalid) hstored
  | prediction p now =>
    obtain ⟨recordedAt, hrow⟩ := hstored
    exact savePrediction_repeat hs (validatePrediction_valid hvalid) hrow now
  | outcome o now => exact saveOutcome_repeat hs (validateOutcome_valid hvalid) hstored hcurrent
  | evaluation e =>
    exact saveEvaluation_repeat hs (validateEvaluation_valid hvalid) hstored hcurrent

omit [DecidableEq D] [DecidableEq H] in
theorem Stored.of_occupied {l l' : Ledger D H} (hkeeps : Keeps l l') (h : Stored env l' record)
    (hoccupied : Occupied env l record) : Stored env l record := by
  cases record with
  | dataset d =>
    obtain ⟨r, hr, hid⟩ := hoccupied
    have hrow := Table.eq_of_key (hkeeps.datasets r hr) h hid
    change env.datasetPayload d.normalized ∈ l.datasets.rows; rw [← hrow]
    exact hr
  | model m =>
    obtain ⟨r, hr, hid⟩ := hoccupied
    have hrow := Table.eq_of_key (hkeeps.models r hr) h hid
    change env.modelPayload m.normalized ∈ l.models.rows; rw [← hrow]; exact hr
  | prediction p now =>
    obtain ⟨r, hr, hid⟩ := hoccupied; obtain ⟨recordedAt, hstored⟩ := h
    have hrow := Table.eq_of_key (hkeeps.predictions r hr) hstored hid
    refine ⟨recordedAt, ?_⟩; rw [← hrow]; exact hr
  | outcome o now =>
    obtain ⟨r, hr, hid⟩ := hoccupied
    have hrow := Table.eq_of_key (hkeeps.outcomes r hr) h hid
    change env.outcomePayload o ∈ l.outcomes.rows; rw [← hrow]; exact hr
  | evaluation e =>
    obtain ⟨r, hr, hid⟩ := hoccupied
    have hrow := Table.eq_of_key (hkeeps.evaluations r hr) h hid
    change env.evaluationPayload e ∈ l.evaluations.rows; rw [← hrow]; exact hr

/-- **A conflicting save** raises. -/
theorem save_conflict (hs : Good s) (hoccupied : Occupied env s.ledger record)
    (hother : ¬ Stored env s.ledger record) :
    ∃ e s', save env record s = .error e s' ∧ s'.ledger = s.ledger := by
  cases h : save env record s with
  | ok fresh s₁ =>
    obtain ⟨_, hstored, hwrote⟩ := save_stored hs h
    exact absurd (hstored.of_occupied hwrote.keeps hoccupied) hother
  | error e s₁ => exact ⟨e, s₁, rfl, (save_refused hs h).2⟩

end One

/-! ## Reading back -/

section Back
variable {s : Session env}

theorem returns_of_reads {α : Type} {x : Repo env α} {r : Shown D H → Except LedgerError α}
    (hx : Reads Session.shown Checked x r) (hs : Good s) {a : α} (h : r s.shown = .ok a) :
    Returns x s a := by
  obtain ⟨s', hrun, _⟩ := hx.run hs.checked h; exact ⟨s', hrun⟩

/-- **A stored record** reads back. -/
theorem Stored.reloads (hs : Good s) {record : Save F} (hvalid : record.Valid env)
    (h : Stored env s.ledger record) : Reloads s record := by
  cases record with
  | dataset d =>
    exact returns_of_reads (getDataset_checked _) hs
      (datasetOf_stored ⟨d.normalized_idem, hvalid⟩ h)
  | model m =>
    obtain ⟨m', hm', hrow, d, hd, hmatch, _⟩ := hs.sound.models _ h
    obtain hsame := env.models.print_inj ⟨m.normalized_idem, hvalid⟩ hm'
      (congrArg (·.documentJson) hrow)
    rw [← hsame] at hd hmatch
    exact returns_of_reads (getModel_reads _) hs
      (modelOf_stored ⟨m.normalized_idem, hvalid⟩ h hd hmatch)
  | prediction p now =>
    obtain ⟨recordedAt, hrow⟩ := h
    obtain ⟨p', hp', hrow', m, d, hm, hd, hmatch⟩ := hs.sound.predictions _ hrow
    obtain hsame := env.predictions.print_inj ⟨p.normalized_idem, hvalid⟩ hp'
      (congrArg (·.documentJson) hrow')
    rw [← hsame] at hm hmatch
    exact returns_of_reads (getPrediction_reads _) hs
      (predictionOf_stored ⟨p.normalized_idem, hvalid⟩ hrow hm hd hmatch)
  | outcome o now =>
    obtain ⟨o', ho', hrow, p, hp, hmatch⟩ := hs.sound.outcomes _ h
    obtain rfl := env.outcomes.print_inj hvalid ho' (congrArg (·.documentJson) hrow)
    exact returns_of_reads (getOutcome_reads _) hs (outcomeOf_stored hvalid h hp hmatch)
  | evaluation e =>
    obtain ⟨e', he', hrow, hinputs⟩ := hs.sound.evaluations _ h
    obtain rfl := env.evaluations.print_inj hvalid he' (congrArg (·.documentJson) hrow)
    exact returns_of_reads (getEvaluation_reads _) hs (evaluationOf_stored hvalid h hinputs)

/-- Every stored document reads back as a record that its row was written from. -/
structure ReadsBack (s : Session env) : Prop where
  datasets : ∀ r ∈ s.ledger.datasets.rows, ∃ d, r = env.datasetPayload d ∧
    Returns (getDataset env r.datasetId) s d
  models : ∀ r ∈ s.ledger.models.rows, ∃ m, r = env.modelPayload m ∧
    Returns (getModel env r.modelId) s m
  predictions : ∀ r ∈ s.ledger.predictions.rows, ∃ p, r = env.predictionPayload p r.recordedAt ∧
    Returns (getPrediction env r.predictionId) s p
  outcomes : ∀ r ∈ s.ledger.outcomes.rows, ∃ o, r = env.outcomePayload o ∧
    Returns (getOutcome env r.predictionId) s (some o)
  evaluations : ∀ r ∈ s.ledger.evaluations.rows, ∃ e, r = env.evaluationPayload e ∧
    Returns (getEvaluation env r.evaluationId) s e

theorem reads_back (hs : Good s) : ReadsBack s := by
  refine ⟨fun r hr => ?_, fun r hr => ?_, fun r hr => ?_, fun r hr => ?_, fun r hr => ?_⟩
  · obtain ⟨d, hd, rfl⟩ := hs.sound.datasets r hr
    exact ⟨d, rfl, returns_of_reads (getDataset_checked _) hs (datasetOf_stored hd hr)⟩
  · obtain ⟨m, hm, rfl, d, hd, hmatch, _⟩ := hs.sound.models r hr
    exact ⟨m, rfl, returns_of_reads (getModel_reads _) hs (modelOf_stored hm hr hd hmatch)⟩
  · obtain ⟨p, hread, hrow⟩ := hs.sound.prediction hr
    exact ⟨p, hrow, returns_of_reads (getPrediction_reads _) hs hread⟩
  · obtain ⟨o, ho, rfl, p, hp, hmatch⟩ := hs.sound.outcomes r hr
    exact ⟨o, rfl, returns_of_reads (getOutcome_reads _) hs (outcomeOf_stored ho hr hp hmatch)⟩
  · obtain ⟨e, he, rfl, hinputs⟩ := hs.sound.evaluations r hr
    exact ⟨e, rfl, returns_of_reads (getEvaluation_reads _) hs (evaluationOf_stored he hr hinputs)⟩

/-- **A prospective prediction** was recorded on the clock: behind its model, within five minutes
of its decision and before its target. -/
theorem Sound.prospective {l : Ledger D H} (hs : Sound env l) {r : PredictionRow D H}
    (hr : r ∈ l.predictions.rows) (hclass : r.evaluationClass ≠ .historicalReplay) :
    ∃ p m, r = env.predictionPayload p r.recordedAt ∧ modelOf env l p.modelId = .ok m ∧
      m.createdAt ≤ r.recordedAt ∧ r.recordedAt ≤ p.features.asOf + 5 * minute ∧
      r.recordedAt < p.features.targetAt := by
  obtain ⟨p, _, hrow, m, d, hm, _, hmatch⟩ := hs.predictions r hr
  have hprospective : p.evaluationClass.prospective = true := by
    rw [hrow] at hclass; exact decide_eq_true hclass
  unfold requirePredictionMatchesModel at hmatch
  obtain ⟨_, _, hmatch⟩ := except_bind_ok.1 hmatch
  obtain ⟨_, _, hmatch⟩ := except_bind_ok.1 hmatch
  obtain ⟨_, _, hmatch⟩ := except_bind_ok.1 hmatch
  obtain ⟨_, _, hmatch⟩ := except_bind_ok.1 hmatch
  obtain ⟨_, _, hmatch⟩ := except_bind_ok.1 hmatch
  obtain ⟨_, _, hmatch⟩ := except_bind_ok.1 hmatch
  obtain ⟨_, _, hmatch⟩ := except_bind_ok.1 hmatch
  obtain ⟨_, hcreated, hmatch⟩ := except_bind_ok.1 hmatch
  obtain ⟨_, hdeadline, htarget⟩ := except_bind_ok.1 hmatch
  exact ⟨p, m, hrow, hm, ensure_ok.1 hcreated hprospective, ensure_ok.1 hdeadline hprospective,
    ensure_ok.1 htarget hprospective⟩

/-- **An evaluation that is stored** covers the stored cohort, each member once. -/
theorem saveEvaluation_cohort (hs : Good s) {e : Evaluation} {fresh : Bool} {s' : Session env}
    (h : saveEvaluation env e s = .ok fresh s') :
    e.expectedPredictionIds.Nodup ∧ Cohort s.ledger e ∧ e.predictionIds.Nodup ∧
      e.predictionIds ⊆ e.expectedPredictionIds ∧
      ∀ id ∈ e.predictionIds, ∃ r ∈ s.ledger.outcomes.rows, r.predictionId = id := by
  obtain ⟨hvalid, hinputs, _, _⟩ := saveEvaluation_ok hs h
  obtain ⟨_, hscored, hexpected, hsub⟩ := (validateEvaluation_ok hvalid).2
  obtain ⟨_, _, hinputs⟩ := except_bind_ok.1 hinputs
  obtain ⟨_, _, hinputs⟩ := except_bind_ok.1 hinputs
  obtain ⟨_, _, hinputs⟩ := except_bind_ok.1 hinputs
  obtain ⟨_, _, hinputs⟩ := except_bind_ok.1 hinputs
  obtain ⟨_, _, hinputs⟩ := except_bind_ok.1 hinputs
  obtain ⟨_, hcohort, hinputs⟩ := except_bind_ok.1 hinputs
  obtain ⟨rows, hrows, _⟩ := except_bind_ok.1 hinputs
  refine ⟨hexpected, (hs.sound.cohort e).1 ⟨_, hcohort⟩, hscored, hsub, fun id hid => ?_⟩
  obtain ⟨row, hrow⟩ := mapM_ok_each hrows id hid
  obtain ⟨o, ho, hrow⟩ := except_bind_ok.1 hrow
  cases hfound : s.ledger.outcomes.get? id with
  | some r =>
    obtain ⟨hr, hkey⟩ := Table.get?_some hfound; exact ⟨r, hr, hkey⟩
  | none =>
    -- without an outcome there is no scored row
    unfold outcomeOf at ho; rw [hfound] at ho; cases ho
    obtain ⟨_, _, hrow⟩ := except_bind_ok.1 hrow; cases hrow

end Back

/-! ## Runs -/

/-- The invariant of a run. -/
structure World.Ok (w : World env) : Prop where
  good : Good w.session
  committed : Sound env w.committed
  keeps : Keeps w.committed w.session.ledger

variable {s : Session env}

theorem Good.read (hs : Good s) {α : Type} {x : Repo env α} {r : Shown D H → Except LedgerError α}
    (hx : Reads Session.shown Checked x r) : Good (after x s) ∧ (after x s).ledger = s.ledger :=
  ⟨hs.of_shown (hx.shows s hs.checked) (hx.keeps s hs.checked),
    ledger_of_shown (hx.shows s hs.checked)⟩

theorem Good.readIn (hs : Good s) (what : Read) :
    Good (readIn env s what) ∧ (readIn env s what).ledger = s.ledger := by
  cases what with
  | dataset id => exact hs.read (getDataset_checked id)
  | model id => exact hs.read (getModel_reads id)
  | prediction id => exact hs.read (getPrediction_reads id)
  | predictions modelId => exact hs.read (listPredictions_reads modelId)
  | outcome id => exact hs.read (getOutcome_reads id)
  | evaluation id => exact hs.read (getEvaluation_reads id)

theorem Good.save (hs : Good s) (record : Save F) : Good (after (Learner.save env record) s) ∧
      Keeps s.ledger (after (Learner.save env record) s).ledger := by
  unfold after
  cases h : Learner.save env record s with
  | ok fresh s' =>
    obtain ⟨_, _, hwrote⟩ := save_stored hs h; exact ⟨hwrote.good, hwrote.keeps⟩
  | error e s' =>
    obtain ⟨hgood, hledger⟩ := save_refused hs h; refine ⟨hgood, ?_⟩
    rw [hledger]; exact Keeps.refl _

theorem World.Ok.empty : ({} : World env).Ok :=
  ⟨⟨nofun, Sound.empty, nofun⟩,
    Sound.empty, Keeps.refl _⟩

variable {w : World env}

theorem World.Ok.session_keeps (hw : w.Ok) {event : Event F} (hsame : event ≠ .opened) :
    Keeps w.session.ledger (w.next env event).session.ledger := by
  cases event with
  | save record => exact (hw.good.save record).2
  | read what =>
    change Keeps _ (Learner.readIn env w.session what).ledger
    rw [(hw.good.readIn what).2]; exact Keeps.refl _
  | repository | commit => exact Keeps.refl _
  | opened => exact absurd rfl hsame

theorem World.Ok.next (hw : w.Ok) (event : Event F) : (w.next env event).Ok := by
  cases event with
  | save record =>
    obtain ⟨hgood, hkeeps⟩ := hw.good.save record
    exact ⟨hgood, hw.committed, hw.keeps.trans hkeeps⟩
  | read what =>
    obtain ⟨hgood, hledger⟩ := hw.good.readIn what
    refine ⟨hgood, hw.committed, ?_⟩
    change Keeps _ (Learner.readIn env w.session what).ledger; rw [hledger]
    exact hw.keeps
  | repository =>
    exact ⟨⟨nofun, hw.good.sound, hw.good.settled⟩, hw.committed,
      hw.keeps⟩
  | commit => exact ⟨hw.good, hw.good.sound, Keeps.refl _⟩
  | opened =>
    exact ⟨⟨nofun, hw.committed,
      fun _ _ => List.not_mem_nil⟩, hw.committed, Keeps.refl _⟩

theorem World.Ok.committed_keeps (hw : w.Ok) (event : Event F) :
    Keeps w.committed (w.next env event).committed := by
  cases event with
  | commit => exact hw.keeps
  | save _ | read _ | repository | opened => exact Keeps.refl _

theorem reachable_ok (h : (system env).Reachable w) : w.Ok := by
  have hinductive : (system env).Inductive World.Ok := by
    refine ⟨fun w hw => ?_, fun w event w' hw hstep => ?_⟩
    · have : w = {} := hw; rw [this]; exact World.Ok.empty
    · have : w' = w.next env event := hstep; rw [this]; exact hw.next event
  exact hinductive.reachable h

/-- **What is committed stays.** -/
theorem run_keeps {w' : World env} {events : List (Event F)} (hw : w.Ok)
    (hrun : (system env).Run w events w') : Keeps w.committed w'.committed := by
  refine hrun.rel (P := World.Ok) (R := fun w w' => Keeps w.committed w'.committed)
    (fun w => Keeps.refl _) (fun _ _ _ => Keeps.trans) (fun w event w' hw hstep => ?_)
    (fun w event w' hw hstep => ?_) hw
  · have : w' = w.next env event := hstep; rw [this]; exact hw.next event
  · have : w' = w.next env event := hstep; rw [this]
    exact hw.committed_keeps event

/-! ## The ledger -/

/-- **The learner's ledger is immutable and complete**, in every state of every run. -/
theorem ledger_immutable (env : Evidence F D H) (w : World env) (hw : (system env).Reachable w) :
    (∀ events w', (system env).Run w events w' → Keeps w.committed w'.committed) ∧
    (∀ event : Event F, event ≠ .opened →
      Keeps w.session.ledger (w.next env event).session.ledger) ∧
    (∀ record e s', save env record w.session = .error e s' → s'.ledger = w.session.ledger) ∧
    (∀ record fresh s', save env record w.session = .ok fresh s' →
      Stored env s'.ledger record ∧ Reloads s' record ∧
        (fresh = false → s'.ledger = w.session.ledger)) ∧
    (∀ record : Save F, record.Valid env → Stored env w.session.ledger record →
      Current w.session.ledger record → ∃ s', save env record w.session = .ok false s' ∧
        s'.ledger = w.session.ledger) ∧ (∀ record : Save F, Occupied env w.session.ledger record →
      ¬ Stored env w.session.ledger record → ∃ e s', save env record w.session = .error e s' ∧
        s'.ledger = w.session.ledger) ∧ ReadsBack w.session ∧
    (∀ r ∈ w.session.ledger.predictions.rows, r.evaluationClass ≠ .historicalReplay →
      ∃ p m, r = env.predictionPayload p r.recordedAt ∧
        modelOf env w.session.ledger p.modelId = .ok m ∧ m.createdAt ≤ r.recordedAt ∧
        r.recordedAt ≤ p.features.asOf + 5 * minute ∧ r.recordedAt < p.features.targetAt) ∧
    ∀ e fresh s', save env (.evaluation e : Save F) w.session = .ok fresh s' →
      e.expectedPredictionIds.Nodup ∧ Cohort w.session.ledger e ∧ e.predictionIds.Nodup ∧
        e.predictionIds ⊆ e.expectedPredictionIds ∧
        ∀ id ∈ e.predictionIds, ∃ r ∈ w.session.ledger.outcomes.rows, r.predictionId = id := by
  have hok := reachable_ok hw
  refine ⟨fun events w' => run_keeps hok, fun event => hok.session_keeps,
    fun record e s' h => (save_refused hok.good h).2, fun record fresh s' h => ?_,
    fun record hvalid hstored hcurrent => ?_, fun record => save_conflict hok.good,
    reads_back hok.good, fun r => hok.good.sound.prospective,
    fun e fresh s' => saveEvaluation_cohort hok.good⟩
  · obtain ⟨hvalid, hstored, hwrote⟩ := save_stored hok.good h
    exact ⟨hstored, hstored.reloads hwrote.good hvalid, hwrote.again⟩
  · obtain ⟨s', h⟩ := save_again hok.good hvalid hstored hcurrent
    obtain ⟨_, _, hwrote⟩ := save_stored hok.good h
    exact ⟨s', h, hwrote.again rfl⟩

/-! ### A ledger of one model -/

/-- A document that is the record itself. -/
inductive Document
  | dataset (d : Dataset ℚ)
  | model (m : ModelVersion ℚ)
  | prediction (p : Prediction ℚ)
  | outcome (o : Outcome ℚ)
  | evaluation (e : Evaluation)
deriving DecidableEq

def exactly : Arithmetic ℚ where
  ofDecimal := id
  sub := (· - ·)
  div a b := if b = 0 then none else some (a / b)
  square a := some (a * a)
  fmean xs := if xs = [] then none else some (xs.sum / xs.length)
  pstdev _ := none
  finite _ := true
  positive x := 0 < x
  nonneg x := 0 ≤ x
  same x y := x = y
  meanOne _ := true
  mse pairs := if pairs = [] then none
    else some ((pairs.map fun (x, y) => (x - y) * (x - y)).sum / pairs.length)

/-- The family `mean`: it forecasts zero where the targets sum to zero. -/
def meanFit (targets : List ℚ) (names : List String) (alpha : ℚ) (seed : Int) :
    FittedEstimator ℚ where
  family := "mean"
  featureNames := names
  means := names.map fun _ => 0
  scales := names.map fun _ => 1
  coefficients := names.map fun _ => 0
  intercept := targets.sum / targets.length
  alpha := alpha
  trainingMse := 0
  seed := seed
  algorithmVersion := "mean-v1"

def plain : Evidence ℚ Document Document where
  fl := exactly
  fit _ targets names _ alpha seed := some (meanFit targets names alpha seed)
  predict a rows := some (rows.map fun _ => a.intercept)
  metrics _ _ c := some c.value
  metricsText _ := .canonicalObject
  rowId r := r.features.symbol
  datasetId d := d.universeId
  artifactId a := a.algorithmVersion
  hash := id
  datasets := ⟨.dataset, fun | .dataset d => some d | _ => none, fun _ _ => rfl⟩
  models := ⟨.model, fun | .model m => some m | _ => none, fun _ _ => rfl⟩
  predictions := ⟨.prediction, fun | .prediction p => some p | _ => none, fun _ _ => rfl⟩
  outcomes := ⟨.outcome, fun | .outcome o => some o | _ => none, fun _ _ => rfl⟩
  evaluations := ⟨.evaluation, fun | .evaluation e => some e | _ => none, fun _ _ => rfl⟩

def day : Int := 86400 * second

def zeros : String := String.ofList (List.replicate 64 '0')

def featureAt (symbol : String) (asOf targetAt : Int) : FeatureRow ℚ where
  asOf := asOf
  inputStartAt := 0
  targetAt := targetAt
  asofSessionIndex := 100
  targetSessionIndex := 105
  calendarHash := zeros
  symbol := symbol
  universeId := "us-liquid-v1"
  sourceId := "fixture-v1"
  baseClose := 100
  benchmarkClose := 100
  values := dailyNames.map fun _ => 0
  sourceHash := zeros

def labelAt (symbol : String) (role : DataRole) (asOf targetAt : Int) : LabelRow ℚ :=
  ⟨featureAt symbol asOf targetAt, role, 0, 0, 0, zeros⟩

def twoRows : Dataset ℚ where
  rows := [labelAt "AAPL" .discovery day (2 * day),
    labelAt "MSFT" .validation (11 * day) (12 * day)]
  trainWindow := ⟨"bars-v1", "snapshot-v1", .discovery, 0, 9, by decide⟩
  validationWindow := ⟨"bars-v1", "snapshot-v1", .validation, 10, 19, by decide⟩
  holdoutWindow := ⟨"bars-v1", "snapshot-v1", .protectedEvaluation, 20, 29, by decide⟩
  universeId := "us-liquid-v1"
  sourceId := "fixture-v1"
  symbols := ["AAPL", "MSFT"]

def modelOne : ModelVersion ℚ where
  modelId := "model-v1"
  datasetId := "us-liquid-v1"
  createdAt := 20 * day
  family := "mean"
  artifact := meanFit [0] dailyNames 1 0
  artifactHash := "mean-v1"
  featureSet := "daily-alpha-v1"
  trainingStart := day
  trainingEnd := 2 * day
  validationStart := 11 * day
  validationEnd := 12 * day
  trainingObservationIds := ["AAPL"]
  validationObservationIds := ["MSFT"]
  validationMse := 0
  codeCommit := "b"
  codeDirty := false
  codeHash := "c"
  environment := ⟨"3.11.9", "test", "d", "ci", none, true⟩

def predictionAt (id : String) (evaluationClass : EvaluationClass) : Prediction ℚ where
  predictionId := id
  modelId := "model-v1"
  features := featureAt "AAPL" (30 * day) (37 * day)
  evaluationClass := evaluationClass
  createdAt := 30 * day + minute
  score := 0
  rank := 1
  percentile := 1
  cohortId := "cohort"

def outcomeAt (id : String) : Outcome ℚ where
  predictionId := id
  resolvedAt := 38 * day
  rawReturn := 0
  benchmarkReturn := 0
  excessReturn := 0
  error := 0
  sourceHash := "e"
  targetClose := 100
  benchmarkClose := 100
  availableAt := 37 * day

def evaluationOne (evaluationClass : EvaluationClass) : Evaluation where
  evaluationId := "evaluation-v1"
  modelId := "model-v1"
  evaluationClass := evaluationClass
  createdAt := 39 * day
  metricsJson := evaluationClass.value
  predictionIds := ["prediction-v1"]
  expectedPredictionIds := ["prediction-v1"]

/-- A dataset, its model and a prediction recorded at `now`; then its outcome and evaluation. -/
def history (evaluationClass : EvaluationClass) (now : Int) : List (Event ℚ) :=
  [.save (.dataset twoRows), .save (.model modelOne),
    .save (.prediction (predictionAt "prediction-v1" evaluationClass) now), .commit, .opened,
    .save (.outcome (outcomeAt "prediction-v1") (40 * day)),
    .save (.evaluation (evaluationOne evaluationClass)), .commit]

def stateOf (events : List (Event ℚ)) : World plain := events.foldl (World.next plain) {}

theorem stateOf_reachable (events : List (Event ℚ)) :
    (system plain).Reachable (stateOf events) := by
  have hrun : ∀ (events : List (Event ℚ)) (w : World plain),
      (system plain).Run w events (events.foldl (World.next plain) w) := by
    intro events
    induction events with
    | nil => exact fun w => .nil w
    | cons event events ih => exact fun w => .cons rfl (ih (w.next plain event))
  exact ⟨{}, events, rfl, hrun events {}⟩

/-- The run of one prospective prediction, recorded two minutes after its decision. -/
def prospectively : List (Event ℚ) := history .prospectiveLocal (30 * day + 2 * minute)

/-- The dataset under other holdout dates. -/
def otherHoldout : Dataset ℚ :=
  { twoRows with
    holdoutWindow := ⟨"bars-v1", "snapshot-v1", .protectedEvaluation, 20, 30, by decide⟩ }

theorem prospectively_run :
    (stateOf prospectively).committed.evaluations.rows.length = 1 ∧
    twoRows.normalized.Checks exactly ∧
    plain.datasetPayload twoRows.normalized ∈
      (stateOf prospectively).session.ledger.datasets.rows ∧
    plain.datasetPayload otherHoldout.normalized ∉
      (stateOf prospectively).session.ledger.datasets.rows ∧
    (∃ r ∈ (stateOf prospectively).session.ledger.predictions.rows,
      r.evaluationClass ≠ .historicalReplay) ∧
    Returns (save plain (.evaluation (evaluationOne .prospectiveLocal)))
      (stateOf prospectively).session false := by decide +kernel

theorem ledger_immutable_one : (stateOf prospectively).committed.evaluations.rows.length = 1 ∧
    ReadsBack (stateOf prospectively).session ∧
    (∃ s', save plain (.dataset twoRows) (stateOf prospectively).session = .ok false s' ∧
      s'.ledger = (stateOf prospectively).session.ledger) ∧
    (∃ e s', save plain (.dataset otherHoldout) (stateOf prospectively).session = .error e s' ∧
      s'.ledger = (stateOf prospectively).session.ledger) ∧
    (∃ r ∈ (stateOf prospectively).session.ledger.predictions.rows, ∃ p,
      r = plain.predictionPayload p r.recordedAt ∧ r.recordedAt < p.features.targetAt) ∧
    Cohort (stateOf prospectively).session.ledger (evaluationOne .prospectiveLocal) := by
  obtain ⟨_, _, _, _, hagain, hconflict, hreads, hclock, hcohort⟩ :=
    ledger_immutable plain (stateOf prospectively) (stateOf_reachable _)
  obtain ⟨hone, hvalid, hstored, hother, ⟨r, hr, hclass⟩, s', hs'⟩ := prospectively_run
  obtain ⟨p, _, hpayload, _, _, _, htarget⟩ := hclock r hr hclass
  exact ⟨hone, hreads, hagain (.dataset twoRows) hvalid hstored trivial,
    hconflict (.dataset otherHoldout) ⟨_, hstored, rfl⟩ hother, ⟨r, hr, p, hpayload, htarget⟩,
    (hcohort _ false s' hs').2.1⟩

/-- The run of one replay, recorded when its target is known. -/
def replayed : List (Event ℚ) := history .historicalReplay (38 * day)

/-- A second prediction of the same model and class. -/
def secondPrediction : Event ℚ :=
  .save (.prediction (predictionAt "prediction-v2" .historicalReplay) (41 * day))

/-- A replay is recorded at any time, and an evaluation is repeated only while its cohort is
whole. -/
theorem replay_recorded_late : (∃ r ∈ (stateOf replayed).committed.predictions.rows,
      r = plain.predictionPayload (predictionAt "prediction-v1" .historicalReplay) r.recordedAt ∧
      (predictionAt "prediction-v1" .historicalReplay).features.asOf + 5 * minute < r.recordedAt ∧
      (predictionAt "prediction-v1" .historicalReplay).features.targetAt < r.recordedAt) ∧
    plain.evaluationPayload (evaluationOne .historicalReplay) ∈
      (stateOf (replayed ++ [secondPrediction])).session.ledger.evaluations.rows ∧
    Raises (save plain (.evaluation (evaluationOne .historicalReplay)))
      (stateOf (replayed ++ [secondPrediction])).session := by
  decide +kernel

end Quantbot.L4.Learner
