import Quantbot.Core.Session
import Quantbot.L3Research.Experiment
import Quantbot.L3Research.Preregistered

/-!
# The handoff of a run

`ExperimentRunner.run` up to the measurement: what is checked of a plan, its registration and
its campaign, the consumption of its protected windows, and the commit that comes before the
data is read. The caller's session holds what is not committed yet.

* `handed_reads_spent`: a run is handed spent data just when each protected snapshot keeps to
  its window, the way a scenario's range must; a run refused before that commits nothing.
* `handed_unspent`: a snapshot longer than its window, of another vintage, handed over.
-/
namespace Quantbot.L3.Experiment

open Core Txn L2 Registry

/-! ## Refusals -/

/-- What an `ExperimentRunError` says. -/
inductive RunRefusal
  | missingCosts | otherRegistration | otherGraph | otherArtifactTest | otherCampaign
  | unsupplied | undeclared | otherVintage | unspentScenario | noHoldout
  | unregisteredScenarios | badInputName
deriving DecidableEq, Repr

/-- What leaves a run: its own refusal, one of the registry, or a defect. -/
inductive RunError
  | refused (reason : RunRefusal)
  | registry (error : RegistryError)
  | validation
  | arithmetic
  | write
deriving DecidableEq, Repr

abbrev RunTxn := Txn (Core.Session RegistryStore) RunError

/-- The tokens are minted by the runner alone.
mirrors runner.py:219-245 -/
structure ProtectedAccess where
  hypothesisId : String
  version : Nat
  /-- The consumed windows in the order they were spent. -/
  windows : List (String × DataRole)
  consumedAt : Int
  spent : windows ≠ []
deriving DecidableEq

/-! ## Preflight -/

/-- mirrors runner.py:542-558 -/
def coveringSnapshots (plan : ExperimentPlan) (dataset role : String) (start finish : Int) :
    List DatasetSnapshot :=
  plan.datasets.filter fun x =>
    x.dataset = dataset ∧ x.role.value = role ∧ x.start ≤ start ∧ finish ≤ x.finish

/-- mirrors runner.py:561-577 -/
def registeredWindow (persisted : Registration) (dataset role : String) (start finish : Int) :
    Option DataWindow :=
  persisted.draft.windows.find? fun w =>
    w.dataset = dataset ∧ w.role.value = role ∧ w.start ≤ start ∧ finish ≤ w.finish

/-- mirrors runner.py:579-622 -/
def bindRange (plan : ExperimentPlan) (persisted : Registration) (dataset role : String)
    (start finish : Int) : Except RunError Unit :=
  if coveringSnapshots plan dataset role start finish = [] then .error (.refused .unsupplied)
  else match registeredWindow persisted dataset role start finish with
    | none => .error (.refused .undeclared)
    | some window =>
      if (coveringSnapshots plan dataset role start finish).all fun x =>
        x.snapshot = window.snapshot then .ok () else .error (.refused .otherVintage)

section preflight

variable (r : Readings)

/-- mirrors runner.py:689-727 -/
def bindScenario (plan : ExperimentPlan) (persisted : Registration) (x : ValidationScenario) :
    Except RunError Unit :=
  if ¬ (r.scenario x).observedMarket then .ok ()
  else do
    bindRange plan persisted x.dataset x.dataRole x.periodStart x.periodEnd
    match (r.scenario x).fit with
    | some (start, finish, role) => bindRange plan persisted x.dataset role start finish
    | none => pure ()
    if x.dataRole ≠ DataRole.protectedEvaluation.value ∨
        x.dataset ∈ plan.protectedSnapshots.map (·.dataset) then pure ()
    else throw (.refused .unspentScenario)

/-- mirrors runner.py:624-727 -/
def bindCampaignToData (plan : ExperimentPlan) (persisted : Registration) :
    Except RunError Unit :=
  if plan.validationCampaignId ≠ campaignId r persisted.draft then
    .error (.refused .otherCampaign)
  else match persisted.draft.validationCampaign with
    | none => .ok ()
    | some campaign => campaign.scenarios.forM (bindScenario r plan persisted)

/-- mirrors registry.py:1413-1428, quantbot/research/runner.py:411-416 -/
def checkArtifactTest (s : RegistryStore) (t : ArtifactTest) : Except RunError Unit :=
  match s.artifactTests.get? (testId r t) with
  | none => .error (.refused .otherArtifactTest)
  | some row =>
    if r.contentId (.artifactTest row.document) ≠ row.contentHash then
      .error (.registry (.refused .tampered))
    else if r.contentId (.artifactTest row.document) ≠ r.contentId (.artifactTest t) then
      .error (.refused .otherArtifactTest)
    else .ok ()

def persistedFor (plan : ExperimentPlan) (s : RegistryStore) : Except RunError Registration :=
  match resolveForRun r.contentId s plan.hypothesisId plan.hypothesisVersion
      plan.registrationHash with
  | .ok persisted => .ok persisted
  | .error reason => .error (.registry (.refused reason))

/-- What is checked before anything is spent; `costs` are the names of the applied costs.
mirrors runner.py:392-428 -/
def preflight (plan : ExperimentPlan) (registration : Registration) (costs : List String)
    (s : RegistryStore) : Except RunError Registration :=
  if ¬ ("slippage_bps" ∈ costs ∧ "commission_per_order" ∈ costs) then
    .error (.refused .missingCosts)
  else if r.contentId (.registration registration) ≠ plan.registrationHash then
    .error (.refused .otherRegistration)
  else if plan.hypothesisGraphHash ≠ (r.claim registration).graphHash then
    .error (.refused .otherGraph)
  else do
    plan.artifactTests.forM (checkArtifactTest r s)
    let persisted ← persistedFor r plan s
    bindCampaignToData r plan persisted
    pure persisted

end preflight

/-! ## The handoff -/

def ExperimentPlan.ref (plan : ExperimentPlan) (x : DatasetSnapshot) : WindowRef where
  hypothesisId := plan.hypothesisId
  version := plan.hypothesisVersion
  dataset := x.dataset
  role := .protectedEvaluation

def consumeWindow (plan : ExperimentPlan) (now : Int) (x : DatasetSnapshot) : RunTxn PUnit :=
  Core.Session.inWorking .registry (inWindows (consume (plan.ref x) now))

/-- mirrors runner.py:729-784 -/
def spend (plan : ExperimentPlan) (now : Int) : RunTxn ProtectedAccess :=
  if h : plan.protectedSnapshots = [] then throw (.refused .noHoldout)
  else do
    plan.protectedSnapshots.forM (consumeWindow plan now)
    Core.Session.commit
    pure
      { hypothesisId := plan.hypothesisId
        version := plan.hypothesisVersion
        windows := plan.protectedSnapshots.map fun x => (x.dataset, .protectedEvaluation)
        consumedAt := now
        spent := by simpa using h }

/-- The persisted registration and the token a measurement is called with.
mirrors runner.py:392-430 -/
def handoff (r : Readings) (plan : ExperimentPlan) (registration : Registration)
    (costs : List String) (now : Int) : RunTxn (Registration × ProtectedAccess) := do
  let persisted ← Core.Session.consult (preflight r plan registration costs)
  let access ← spend plan now
  pure (persisted, access)

/-! ## What the windows are -/

/-- The row is that of a window the registration declared. -/
def Declares (r : HypothesisRow) (row : WindowRow) : Prop :=
  r.hypothesisId = row.hypothesisId ∧ r.version = row.version ∧
    ∃ w ∈ r.document.draft.windows, w.dataset = row.dataset ∧ w.role = row.role ∧
      w.start = row.start ∧ w.finish = row.finish

/-- Every window is one its registration declared. -/
def Declared (s : RegistryStore) : Prop :=
  ∀ row ∈ s.windows.rows, ∃ r ∈ s.hypotheses.rows, Declares r row

variable {contentId : ContentId}

variable {u : PUnit} {s : RegistryStore} {t : RegistryStore}

theorem Declared.registered {r : Registration} (hs : Declared s)
    (h : insertRegistration contentId r s = .ok u t) : Declared t := by
  obtain ⟨_, s₁, hrow, hwindows⟩ := bind_ok.1 h; unfold insertHypothesis at hrow
  split at hrow
  · next hnew =>
    cases hrow; obtain ⟨heq, hrows⟩ := insertWindows_ok hwindows
    have hhyp : t.hypotheses.rows = s.hypotheses.rows ++ [r.row contentId] := by
      rw [heq]
      rw [UTable.insert_toTable hnew.1 hnew.2, Table.insert_rows hnew.1]
    intro row hmem; rw [hrows] at hmem; rw [hhyp]
    rcases List.mem_append.1 hmem with hold | hmine
    · obtain ⟨x, hx, hdeclares⟩ := hs row hold
      exact ⟨x, List.mem_append_left _ hx, hdeclares⟩
    · obtain ⟨w, hw, rfl⟩ := List.mem_map.1 hmine
      exact ⟨r.row contentId, List.mem_append_right _ (List.mem_singleton.2 rfl), rfl, rfl,
        w, hw, rfl, rfl, rfl, rfl⟩
  · cases hrow

theorem Declared.moved (hs : Declared s) {k : String × Nat × String × DataRole}
    {f : WindowRow → WindowRow} {hf : ∀ x, x.key = k → (f x).key = k}
    (hrange : ∀ x, (f x).start = x.start ∧ (f x).finish = x.finish) :
    Declared { s with windows := s.windows.modify k f hf } := by
  intro row hrow; rw [Table.mem_modify] at hrow
  rcases hrow with ⟨hold, _⟩ | ⟨x, hx, rfl⟩
  · exact hs row hold
  obtain ⟨hmem, hkey⟩ := Table.get?_some hx
  have hsame : (f x).key = x.key := (hf x hkey).trans hkey.symm
  obtain ⟨r, hr, hid, hversion, w, hw, hdataset, hrole, hstart, hfinish⟩ := hs x hmem
  refine ⟨r, hr, hid.trans (congrArg (·.1) hsame).symm,
    hversion.trans (congrArg (·.2.1) hsame).symm, w, hw,
    hdataset.trans (congrArg (·.2.2.1) hsame).symm, hrole.trans (congrArg (·.2.2.2) hsame).symm,
    hstart.trans (hrange x).1.symm, hfinish.trans (hrange x).2.symm⟩

variable {ref : WindowRef}

theorem Declared.consumed (hs : Declared s) {now : Int} {t : Windows}
    (h : consume ref now s.windows = .ok u t) : Declared { s with windows := t } := by
  have hwrite := (consume_ok.1 h).2; unfold consumeWrite at hwrite
  split at hwrite
  · split at hwrite
    · cases hwrite; exact hs.moved fun _ => ⟨rfl, rfl⟩
    · cases hwrite
  · cases hwrite

theorem Declared.released (hs : Declared s) {t : Windows}
    (h : Registry.release ref s.windows = .ok u t) : Declared { s with windows := t } := by
  unfold Registry.release at h; split at h
  · split at h
    · cases h; refine hs.moved fun x => ?_; split <;> exact ⟨rfl, rfl⟩
    · cases h
  · cases h

theorem Declared.call (hs : Declared s) {c : Call}
    (h : c.run contentId s = .ok u t) : Declared t := by
  cases c with
  | record r =>
    obtain ⟨_, rfl⟩ := insertSearchRun_ok h; exact hs
  | intraday searchId hash dataset start finish now =>
    obtain ⟨_, s₁, hrecord, h⟩ := bind_ok.1 h; obtain ⟨_, rfl⟩ := pure_ok.1 h
    rcases recordIntradayAttempt_ok hrecord with ⟨_, rfl⟩ | ⟨r, _, hinsert⟩
    · exact hs
    · obtain ⟨_, rfl⟩ := insertSearchRun_ok hinsert; exact hs
  | freeze c now =>
    obtain ⟨_, s₁, hfreeze, h⟩ := bind_ok.1 h; obtain ⟨_, rfl⟩ := pure_ok.1 h
    obtain ⟨_, ⟨_, rfl⟩ | ⟨_, _, _, _, rfl⟩⟩ := freeze_ok hfreeze
    · exact hs
    · exact hs
  | register d i now =>
    obtain ⟨_, s₁, hregister, h⟩ := bind_ok.1 h; obtain ⟨_, rfl⟩ := pure_ok.1 h
    unfold Registry.register at hregister; rw [bind_ok] at hregister
    obtain ⟨r, s₂, hjudge, hregister⟩ := hregister
    obtain ⟨_, rfl⟩ := reads_ok.1 hjudge; rw [bind_ok] at hregister
    obtain ⟨_, s₃, hinsert, hpure⟩ := hregister
    obtain ⟨_, rfl⟩ := pure_ok.1 hpure; exact hs.registered hinsert
  | artifactTest i now =>
    obtain ⟨_, s₁, htest, h⟩ := bind_ok.1 h; obtain ⟨_, rfl⟩ := pure_ok.1 h
    obtain ⟨_, rfl, _⟩ := registerArtifactTest_ok htest; exact hs
  | consume ref now =>
    change inWindows (Registry.consume ref now) s = .ok u t at h
    obtain ⟨ws, hws, rfl⟩ := zoom_ok.1 h; exact hs.consumed hws
  | release ref =>
    change inWindows (Registry.release ref) s = .ok u t at h
    obtain ⟨ws, hws, rfl⟩ := zoom_ok.1 h; exact hs.released hws

theorem declared_inductive : (ledger contentId).Inductive Declared where
  init s h := by
    rw [show s = {} from h]; exact List.forall_mem_nil _
  step s c s' hs hstep := by
    rw [show s' = after (immediate (c.run contentId)) s from hstep]
    rcases after_cases (c.run contentId) s with h | ⟨u, h⟩
    · rw [h]; exact hs
    · exact hs.call h

/-! ## What a handoff spends -/

/-- The snapshot keeps to the protected window of its dataset, as a scenario's range must. -/
def Within (persisted : Registration) (x : DatasetSnapshot) : Prop :=
  ∃ w, registeredWindow persisted x.dataset DataRole.protectedEvaluation.value x.start x.finish =
    some w ∧ x.snapshot = w.snapshot

/-- The snapshot is data of a protected window of the registration that is spent. -/
def Spent (s : RegistryStore) (plan : ExperimentPlan) (persisted : Registration)
    (x : DatasetSnapshot) : Prop :=
  ∃ w ∈ persisted.draft.windows, w.dataset = x.dataset ∧ w.role = .protectedEvaluation ∧
    w.start ≤ x.start ∧ x.finish ≤ w.finish ∧ x.snapshot = w.snapshot ∧
    ∃ row, s.windows.get? (plan.ref x).key = some row ∧ row.state = .consumed ∧
      row.start = w.start ∧ row.finish = w.finish

variable {r : Readings} {plan : ExperimentPlan} {registration persisted : Registration}
  {costs : List String} {now : Int}

theorem value_protected {role : DataRole} :
    role.value = DataRole.protectedEvaluation.value ↔ role = .protectedEvaluation := by
  cases role <;> decide

theorem registeredWindow_some {dataset : String} {start finish : Int} {w : DataWindow}
    (h : registeredWindow persisted dataset DataRole.protectedEvaluation.value start finish =
      some w) : w ∈ persisted.draft.windows ∧ w.dataset = dataset ∧
        w.role = .protectedEvaluation ∧ w.start ≤ start ∧ finish ≤ w.finish := by
  have hp := List.find?_some h; rw [decide_eq_true_eq, value_protected] at hp
  exact ⟨List.mem_of_find?_eq_some h, hp⟩

theorem window_unique {d : HypothesisDraft} {w w' : DataWindow} (hw : w ∈ d.windows)
    (hw' : w' ∈ d.windows) (hdataset : w.dataset = w'.dataset) (hrole : w.role = w'.role) :
    w = w' :=
  List.inj_on_of_nodup_map d.distinct hw hw' (Prod.ext hdataset hrole)

variable {x : DatasetSnapshot}

theorem within_iff : Within persisted x ↔
    ∃ w ∈ persisted.draft.windows, w.dataset = x.dataset ∧ w.role = .protectedEvaluation ∧
      w.start ≤ x.start ∧ x.finish ≤ w.finish ∧ x.snapshot = w.snapshot := by
  constructor
  · intro ⟨w, hw, hvintage⟩
    obtain ⟨hmem, hdataset, hrole, hstart, hfinish⟩ := registeredWindow_some hw
    exact ⟨w, hmem, hdataset, hrole, hstart, hfinish, hvintage⟩
  · intro ⟨w, hmem, hdataset, hrole, hstart, hfinish, hvintage⟩
    cases hfind : registeredWindow persisted x.dataset DataRole.protectedEvaluation.value
        x.start x.finish with
    | none =>
      have hnot := List.find?_eq_none.1 hfind w hmem
      rw [decide_eq_true_eq, value_protected] at hnot
      exact absurd ⟨hdataset, hrole, hstart, hfinish⟩ hnot
    | some w' =>
      obtain ⟨hmem', hdataset', hrole', _⟩ := registeredWindow_some hfind
      obtain rfl : w = w' := window_unique hmem hmem' (hdataset.trans hdataset'.symm)
        (hrole.trans hrole'.symm)
      exact ⟨w, hfind, hvintage⟩

theorem resolveForRun_ok {contentId : ContentId} {hypothesisId : String} {version : Nat}
    {hash : String} (h : resolveForRun contentId s hypothesisId version hash = .ok persisted) :
    ∃ row, s.hypotheses.get? (hypothesisId, version) = some row ∧ row.document = persisted ∧
      contentId (.registration persisted) = hash := by
  unfold resolveForRun loadIntactRegistration at h
  obtain ⟨⟨loaded, stored⟩, hload, h⟩ := except_bind_ok.1 h; split at hload
  · cases hload
  next row hrow =>
  split at hload
  · cases hload
  next hintact =>
  cases hload; dsimp only at h; split at h
  · cases h
  next hhash =>
  obtain ⟨_, _, h⟩ := except_bind_ok.1 h; cases h
  exact ⟨row, hrow, rfl, (not_not.1 hintact).trans (not_not.1 hhash)⟩

theorem preflight_ok (h : preflight r plan registration costs s = .ok persisted) :
    (∃ row, s.hypotheses.get? (plan.hypothesisId, plan.hypothesisVersion) = some row ∧
      row.document = persisted) ∧
    r.contentId (.registration persisted) = r.contentId (.registration registration) ∧
    bindCampaignToData r plan persisted = .ok () := by
  unfold preflight at h; split at h
  · cases h
  split at h
  · cases h
  next hhash =>
  split at h
  · cases h
  obtain ⟨_, _, h⟩ := except_bind_ok.1 h
  obtain ⟨found, hfound, h⟩ := except_bind_ok.1 h
  obtain ⟨_, hbind, h⟩ := except_bind_ok.1 h; cases h
  unfold persistedFor at hfound; split at hfound
  · next hresolve =>
    cases hfound
    obtain ⟨row, hrow, hdocument, hcontent⟩ := resolveForRun_ok hresolve
    exact ⟨⟨row, hrow, hdocument⟩, hcontent.trans (not_not.1 hhash).symm, hbind⟩
  · cases hfound

/-! ## The consumptions -/

variable {t t' : Core.Session RegistryStore}

theorem consumeWindow_ok (h : consumeWindow plan now x t = .ok u t') :
    ∃ ws, consume (plan.ref x) now t.working.windows = .ok ⟨⟩ ws ∧
      t' = { t with working := { t.working with windows := ws } } := by
  unfold consumeWindow Core.Session.inWorking at h; rw [zoom_ok] at h
  obtain ⟨s, hs, rfl⟩ := h; unfold inWindows at hs; rw [zoom_ok] at hs
  obtain ⟨ws, hws, rfl⟩ := hs; exact ⟨ws, hws, rfl⟩

theorem consume_consumed {ws ws' : Windows} (h : consume ref now ws = .ok u ws') :
    ∃ row, ws'.get? ref.key = some row ∧ row.state = .consumed := by
  have hwrite := (consume_ok.1 h).2; unfold consumeWrite at hwrite
  split at hwrite
  · next row hrow =>
    split at hwrite
    · cases hwrite; refine ⟨row.consume now, ?_, rfl⟩
      have hget := Table.get?_modify ws ref.key (·.consume now) (fun _ h => h) ref.key
      rw [if_pos rfl, hrow] at hget; exact hget
    · cases hwrite
  · cases hwrite

/-- What consumptions leave of a session. -/
structure Consumed (plan : ExperimentPlan) (l : List DatasetSnapshot)
    (t t' : Core.Session RegistryStore) : Prop where
  durable : t'.durable = t.durable
  hypotheses : t'.working.hypotheses = t.working.hypotheses
  declared : Declared t.working → Declared t'.working
  steady : Steady t.working.windows t'.working.windows
  spent : ∀ x ∈ l, ∃ row, t'.working.windows.get? (plan.ref x).key = some row ∧
    row.state = .consumed

theorem consumeAll_ok {l : List DatasetSnapshot}
    (h : l.forM (consumeWindow plan now) t = .ok u t') : Consumed plan l t t' := by
  induction l generalizing t with
  | nil =>
    obtain ⟨_, rfl⟩ := pure_ok.1 h
    exact ⟨rfl, rfl, id, refl_of Steady _, List.forall_mem_nil _⟩
  | cons x l ih =>
    obtain ⟨_, t₁, hx, hrest⟩ := bind_ok.1 h
    obtain ⟨ws, hws, rfl⟩ := consumeWindow_ok hx; have hl := ih hrest
    obtain ⟨_, _, _, hsteady, _⟩ := consumeWrite_ok (consume_ok.1 hws).2
    refine ⟨hl.durable, hl.hypotheses, fun hd => hl.declared (hd.consumed hws),
      trans_of Steady hsteady hl.steady, fun y hy => ?_⟩
    rcases List.mem_cons.1 hy with rfl | hy
    · obtain ⟨row, hrow, hstate⟩ := consume_consumed hws
      obtain ⟨hmem, hkey⟩ := Table.get?_some hrow
      exact ⟨row, Table.get?_eq_some.2 ⟨hl.steady.kept row hmem hstate, hkey⟩, hstate⟩
    · exact hl.spent y hy

variable {access : ProtectedAccess}

theorem spend_ok (h : spend plan now t = .ok access t') :
    ∃ t₁, Consumed plan plan.protectedSnapshots t t₁ ∧ t' = Core.Session.fresh t₁.working ∧
      access.windows = plan.protectedSnapshots.map fun x => (x.dataset, .protectedEvaluation) := by
  unfold spend at h; split at h
  · cases h
  obtain ⟨_, t₁, hall, h⟩ := bind_ok.1 h
  obtain ⟨_, t₂, hcommit, h⟩ := bind_ok.1 h; obtain ⟨rfl, rfl⟩ := pure_ok.1 h
  exact ⟨t₁, consumeAll_ok hall, modify_ok.1 hcommit, rfl⟩

theorem spend_error {e : RunError} (h : spend plan now t = .error e t') :
    t'.durable = t.durable := by
  unfold spend at h; split at h
  · cases h; rfl
  rcases bind_error.1 h with hall | ⟨_, t₁, _, h⟩
  · exact (Session.Pending.forM (fun x => Session.Pending.inWorking _ _) _).error hall
  rcases bind_error.1 h with hcommit | ⟨_, t₂, _, h⟩
  · cases hcommit
  · cases h

theorem handoff_ok (h : handoff r plan registration costs now t = .ok (persisted, access) t') :
    preflight r plan registration costs t.working = .ok persisted ∧
      spend plan now t = .ok access t' := by
  unfold handoff at h; rw [bind_ok] at h; obtain ⟨p, t₁, hpreflight, h⟩ := h
  obtain ⟨hp, rfl⟩ := Core.Session.consult_ok.1 hpreflight; rw [bind_ok] at h
  obtain ⟨a, t₂, hspend, h⟩ := h; obtain ⟨heq, rfl⟩ := pure_ok.1 h; cases heq
  exact ⟨hp, hspend⟩

theorem handoff_error {e : RunError} (h : handoff r plan registration costs now t = .error e t') :
    t'.durable = t.durable := by
  unfold handoff at h; rw [bind_error] at h
  rcases h with hpreflight | ⟨p, t₁, hpreflight, h⟩
  · exact (Session.Pending.consult _).error hpreflight
  obtain ⟨_, rfl⟩ := Core.Session.consult_ok.1 hpreflight; rw [bind_error] at h
  rcases h with hspend | ⟨a, t₂, _, h⟩
  · exact spend_error hspend
  · cases h

/-- **Handed over.** The window of every protected snapshot is spent and durable, and the
snapshot is data of it just when it keeps to it. -/
theorem handed_spent (hdeclared : Declared t.working)
    (h : handoff r plan registration costs now t = .ok (persisted, access) t')
    (hx : x ∈ plan.protectedSnapshots) :
    Spent t'.durable plan persisted x ↔ Within persisted x := by
  obtain ⟨hpreflight, hspend⟩ := handoff_ok h
  obtain ⟨⟨stored, hstored, rfl⟩, _⟩ := preflight_ok hpreflight
  obtain ⟨t₁, hconsumed, rfl, _⟩ := spend_ok hspend
  obtain ⟨row, hrow, hstate⟩ := hconsumed.spent x hx
  obtain ⟨hmem, hkey⟩ := Table.get?_some hrow
  obtain ⟨owner, howner, hid, hversion, w, hw, hdataset, hrole, hstart, hfinish⟩ :=
    hconsumed.declared hdeclared row hmem
  obtain ⟨hkeyId, hkey⟩ := Prod.mk.inj hkey
  obtain ⟨hkeyVersion, hkey⟩ := Prod.mk.inj hkey
  obtain ⟨hkeyDataset, hkeyRole⟩ := Prod.mk.inj hkey
  -- the owner of the row is the registration the store holds under the plan's id
  have hsame : owner = stored := by
    rw [hconsumed.hypotheses] at howner
    obtain ⟨hmemStored, hkeyStored⟩ := Table.get?_some hstored
    refine Table.eq_of_key howner hmemStored (Eq.trans ?_ hkeyStored.symm)
    exact Prod.ext (hid.trans hkeyId) (hversion.trans hkeyVersion)
  subst hsame; rw [within_iff]; constructor
  · intro ⟨w', hw', hd, hr, hs, hf, hv, _⟩; exact ⟨w', hw', hd, hr, hs, hf, hv⟩
  · intro ⟨w', hw', hd, hr, hs, hf, hv⟩
    obtain rfl : w = w' := window_unique hw hw' ((hdataset.trans hkeyDataset).trans hd.symm)
      ((hrole.trans hkeyRole).trans hr.symm)
    exact ⟨w, hw', hd, hr, hs, hf, hv, row, hrow, hstate, hstart.symm, hfinish.symm⟩

/-! ## What a scenario makes the runner check -/

/-! ## What a run reads -/

/-- **Protected data.** When a run is handed its token, the registration it runs under is the
one the plan was compiled from, and a protected snapshot is data of a window of it that is
durably spent just when it keeps to that window. A run refused before that commits nothing,
and what it wrote goes back with the caller's transaction. -/
theorem handed_reads_spent {t : Core.Session RegistryStore}
    (hreach : (ledger r.contentId).Reachable t.working) (plan : ExperimentPlan)
    (registration : Registration) (costs : List String) (now : Int) : (∀ persisted access t',
      handoff r plan registration costs now t = .ok (persisted, access) t' →
      r.contentId (.registration persisted) = r.contentId (.registration registration) ∧
      ∀ x ∈ plan.protectedSnapshots, Spent t'.durable plan persisted x ↔ Within persisted x) ∧
    (∀ e t', handoff r plan registration costs now t = .error e t' → t'.durable = t.durable ∧
      ∀ e' t'', Core.Session.transaction (handoff r plan registration costs now) t = .error e' t'' →
        t'' = Core.Session.fresh t.durable) := by
  have hdeclared := declared_inductive.reachable hreach
  refine ⟨fun persisted access t' h => ?_, fun e t' h => ?_⟩
  · exact ⟨(preflight_ok (handoff_ok h).1).2.1, fun x hx => handed_spent hdeclared h hx⟩
  · exact ⟨handoff_error h, fun e' t'' h' =>
      Core.Session.transaction_error (fun _ _ => handoff_error) h'⟩

/-! ## Runs on a concrete registry -/

/-- A claim of one instrument on a mean difference, with room to pay its costs. -/
def plainReadings : Readings where
  contentId := plainId
  claim _ :=
    { graphHash := none
      uneconomic := false
      estimand := .meanDifference
      comparison := .paired
      instruments := ["SPY"]
      economics := some ("10", "12")
      cumulativeTrials := 69
      luckThresholdZ := 3
      minimumDetectableEffect := "0.01"
      overridden := false }
  test _ :=
    { graphHash := none
      artifactKind := .component
      artifactContentId := ""
      luckThresholdZ := 3
      overridden := false }
  scenario _ :=
    { scenarioId := ""
      observedMarket := true
      fit := none
      required := true
      minimumTrades := 1
      minimumEffectiveObservations := 1
      regimeConstraints := [] }

def heldOut : Registration := ⟨holdout "H1" 1 "us-equities-daily" Nat.one_pos, 0, 69, false, 90⟩

/-- A snapshot of the held out dataset up to a day. -/
def pulled (finish : Int) (snapshot : String) : DatasetSnapshot where
  dataset := "us-equities-daily"
  snapshot := snapshot
  role := .protectedEvaluation
  start := 0
  finish := finish
  contentHash := "c"
  earliestAvailableAt := some 0

def appliedCosts : List String := ["slippage_bps", "commission_per_order"]

def registered : RegistryStore :=
  after (immediate ((Call.register heldOut.draft (cleared "H1" 1) 0).run plainId)) {}

theorem registered_reachable : (ledger plainId).Reachable registered :=
  LTS.Reachable.step (l := Call.register heldOut.draft (cleared "H1" 1) 0)
    ⟨{}, [], rfl, .nil _⟩ rfl

def tokenAt (now : Int) : ProtectedAccess where
  hypothesisId := "H1"
  version := 1
  windows := [("us-equities-daily", .protectedEvaluation)]
  consumedAt := now
  spent := by simp

/-- The plan of the claim on one snapshot. -/
def plainPlan (x : DatasetSnapshot) : ExperimentPlan :=
  planOf plainReadings heldOut [x] .productionEngine [] .pairedT

/-- A run over the window that was declared. -/
theorem handed_reads_spent_declared :
    compileExperiment plainReadings heldOut [pulled 10 ""] .productionEngine false [] =
        .ok (plainPlan (pulled 10 "")) ∧
      ∃ t', handoff plainReadings (plainPlan (pulled 10 "")) heldOut appliedCosts 5
          (Core.Session.fresh registered) = .ok (heldOut, tokenAt 5) t' ∧
        Spent t'.durable (plainPlan (pulled 10 "")) heldOut (pulled 10 "") := by
  have hreturns : Returns (handoff plainReadings (plainPlan (pulled 10 "")) heldOut appliedCosts 5)
      (Core.Session.fresh registered) (heldOut, tokenAt 5) := by decide
  obtain ⟨t', ht'⟩ := hreturns
  have hspent := (handed_reads_spent (r := plainReadings) (t := Core.Session.fresh registered)
    registered_reachable (plainPlan (pulled 10 "")) heldOut appliedCosts 5).1 _ _ t' ht'
  refine ⟨by decide, t', ht', (hspent.2 (pulled 10 "") (by decide)).2 ?_⟩
  exact within_iff.2 ⟨_, List.mem_cons_self, rfl, rfl, by decide, by decide, rfl⟩

/-- Twenty days of another vintage, under the ten that were declared. -/
theorem handed_unspent :
    compileExperiment plainReadings heldOut [pulled 20 "v2"] .productionEngine false [] =
        .ok (plainPlan (pulled 20 "v2")) ∧
      ∃ t', (ledger plainId).Reachable (Core.Session.fresh registered).working ∧
        handoff plainReadings (plainPlan (pulled 20 "v2")) heldOut appliedCosts 5
          (Core.Session.fresh registered) = .ok (heldOut, tokenAt 5) t' ∧
        pulled 20 "v2" ∈ (plainPlan (pulled 20 "v2")).protectedSnapshots ∧
        ¬ Spent t'.durable (plainPlan (pulled 20 "v2")) heldOut (pulled 20 "v2") := by
  have hreturns : Returns (handoff plainReadings (plainPlan (pulled 20 "v2")) heldOut appliedCosts
      5) (Core.Session.fresh registered) (heldOut, tokenAt 5) := by decide
  obtain ⟨t', ht'⟩ := hreturns
  refine ⟨by decide, t', registered_reachable, ht', by decide, ?_⟩
  intro ⟨w, hw, _, _, _, hfinish, _⟩; rw [List.mem_singleton.1 hw] at hfinish
  exact absurd hfinish (by decide)

end Quantbot.L3.Experiment
