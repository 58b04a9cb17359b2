import Quantbot.L3Research.Protected

/-!
# Campaigns frozen before what they validate

Freezes, registrations, executions and consumptions by callers of one registry, each stopping
anywhere between what it checked and what it writes.

* `verifyCampaignRow_ok`: what a row proves that a campaign is accepted on.
* `campaigns_precede`: over every run that keeps `InOrder`, an accepted campaign was frozen no
  later than any consumption it must precede. Under the campaign's own dataset name the check
  of the row sees to it in every run; the query leaves the other names of the series out.
* `frozen_after_consumed`: a window consumed under another name, then the freeze.
-/
namespace Quantbot.L3.Registry

open Core Txn L2

variable (contentId : ContentId)

/-! ## Executions -/

/-- mirrors registry.py:723-765 -/
def loadIntactRegistration (s : RegistryStore) (hypothesisId : String) (version : Nat) :
    Except RefusalReason (Registration × String) :=
  match s.hypotheses.get? (hypothesisId, version) with
  | none => .error .notRegistered
  | some row =>
    if contentId (.registration row.document) ≠ row.contentHash then .error .tampered
    else .ok (row.document, row.contentHash)

/-- mirrors registry.py:767-799 -/
def resolveForRun (s : RegistryStore) (hypothesisId : String) (version : Nat)
    (contentHash : String) : Except RefusalReason Registration := do
  let (persisted, storedHash) ← loadIntactRegistration contentId s hypothesisId version
  if storedHash ≠ contentHash then throw .tampered
  verifyCampaignFrozen contentId s persisted.draft
  pure persisted

/-! ## Callers that stop between check and write -/

/-- A freeze up to its write: the row it will insert, or none where the row stands.
mirrors registry.py:946-961 -/
def freezeCheck (c : ValidationCampaign) (now : Int) (s : RegistryStore) :
    Except RefusalReason (Option SearchRun) := do
  let expected ← expectedCampaignRow contentId c
  match s.searchRuns.get? (selectionSearchId contentId c) with
  | some existing => do
    verifyCampaignRow contentId s.windows c existing expected
    pure none
  | none =>
    if consumedOverlaps s.windows c expected.dataset = [] then
      pure (some ⟨expected, now, now, .campaign c⟩)
    else throw .contaminatedWindow

/-- What a caller has checked and not yet written. -/
inductive Prepared
  | freezing (row : SearchRun)
  | registering (r : Registration)
  | consuming (ref : WindowRef) (now : Int)

def Prepared.write : Prepared → RegistryTxn PUnit
  | .freezing row => insertSearchRun row
  | .registering r => insertRegistration contentId r
  | .consuming ref now => inWindows (consumeWrite ref now)

structure Desk where
  store : RegistryStore := {}
  prepared : Nat → Option Prepared := fun _ => none

def Desk.put (w : Desk) (p : Nat) (a : Option Prepared) : Desk :=
  { w with prepared := Function.update w.prepared p a }

inductive DeskMove
  | freeze (p : Nat) (c : ValidationCampaign) (now : Int)
  | judge (p : Nat) (d : HypothesisDraft) (i : RegisterInputs) (now : Int)
  | check (p : Nat) (ref : WindowRef) (now : Int)
  | write (p : Nat)
  | release (ref : WindowRef)
  | record (r : SearchRun)

/-- A caller checks, then writes or never comes back; a release and the row of another search
are one statement each. -/
inductive DeskStep : Desk → DeskMove → Desk → Prop
  | freeze {w : Desk} {p : Nat} {c : ValidationCampaign} {now : Int} {r : SearchRun} :
      freezeCheck contentId c now w.store = .ok (some r) →
      DeskStep w (.freeze p c now) (w.put p (some (.freezing r)))
  | judge {w : Desk} {p : Nat} {d : HypothesisDraft} {i : RegisterInputs} {now : Int}
      {r : Registration} : Registry.judge contentId d i now w.store = .ok r →
      DeskStep w (.judge p d i now) (w.put p (some (.registering r)))
  | check {w : Desk} {p : Nat} {ref : WindowRef} {now : Int} :
      consumeObjection w.store.windows ref now = none →
      DeskStep w (.check p ref now) (w.put p (some (.consuming ref now)))
  | write {w : Desk} {p : Nat} {a : Prepared} : w.prepared p = some a →
      DeskStep w (.write p)
        { w.put p none with store := after (immediate (a.write contentId)) w.store }
  | release {w : Desk} {ref : WindowRef} :
      DeskStep w (.release ref)
        { w with store := after (immediate (inWindows (Registry.release ref))) w.store }
  | record {w : Desk} {r : SearchRun} :
      DeskStep w (.record r) { w with store := after (immediate (insertSearchRun r)) w.store }

def desk : LTS Desk DeskMove where
  init w := w = {}
  step := DeskStep contentId

theorem reads_bind {α β : Type} (f : RegistryStore → Except RefusalReason α)
    (k : α → RegistryTxn β) (s : RegistryStore) : (reads f >>= k) s =
      match f s with
      | .ok a => k a s
      | .error e => .error (.refused e) s := by
  show EStateM.bind (reads f) k s = _; unfold EStateM.bind reads
  cases f s <;> rfl

theorem freeze_eq (c : ValidationCampaign) (now : Int) (s : RegistryStore) :
    freezeValidationCampaign contentId c now s =
      match freezeCheck contentId c now s with
      | .error e => .error (.refused e) s
      | .ok none => .ok (selectionSearchId contentId c) s
      | .ok (some row) => (insertSearchRun row >>= fun _ => pure (selectionSearchId contentId c)) s := by
  have hget : ∀ k : RegistryStore → RegistryTxn String, (get >>= k) s = k s s := fun _ => rfl
  unfold freezeValidationCampaign freezeCheck; rw [reads_bind]
  cases expectedCampaignRow contentId c with
  | error e => rfl
  | ok expected =>
    have hbind : ∀ k : RowIdentity → Except RefusalReason (Option SearchRun),
        (Except.ok expected >>= k) = k expected := fun _ => rfl
    dsimp only; rw [hget, hbind]
    cases s.searchRuns.get? (selectionSearchId contentId c) with
    | some existing =>
      dsimp only; rw [reads_bind]
      cases verifyCampaignRow contentId s.windows c existing expected <;> rfl
    | none =>
      unfold Txn.require
      by_cases hclean : consumedOverlaps s.windows c expected.dataset = []
      · rw [if_pos hclean, if_pos hclean]; rfl
      · rw [if_neg hclean, if_neg hclean]; rfl

/-! ## What is claimed, and what it rests on -/

/-- The scenarios and the selection a campaign is identified by: neither the order of the
scenarios nor a display name. -/
def SameDesign (a b : ValidationCampaign) : Prop :=
  a.selection = b.selection ∧ a.eligibleStart = b.eligibleStart ∧ a.eligibleEnd = b.eligibleEnd ∧
    (a.scenarios.map fun x => { x with displayName := none }).Perm
      (b.scenarios.map fun x => { x with displayName := none })

/-- The content id tells the campaign from every stored one of another design. -/
def Distinct (s : RegistryStore) (c : ValidationCampaign) : Prop :=
  ∀ r ∈ s.searchRuns.rows, ∀ stored, r.detail = .campaign stored →
    contentId (.campaign stored) = contentId (.campaign c) → SameDesign stored c

/-- The campaign's row is of its own design, and was frozen no later than the consumption of
any window of the series, under whatever name, that overlaps a scenario. -/
def Preceded (s : RegistryStore) (c : ValidationCampaign) : Prop :=
  ∃ r stored, s.searchRuns.get? (selectionSearchId contentId c) = some r ∧
    r.detail = .campaign stored ∧ SameDesign stored c ∧
    ∀ x ∈ c.scenarios, ∀ w ∈ s.windows.rows, w.state = .consumed → SameSeries w.dataset x.dataset →
      w.overlaps x.periodStart x.periodEnd → ∃ t ∈ w.consumedAt, r.finishedAt ≤ t

/-- A scenario overlaps the window under another name of its series. -/
def Renamed (c : ValidationCampaign) (w : WindowRow) : Prop :=
  ∃ x ∈ c.scenarios, SameSeries w.dataset x.dataset ∧ w.dataset ≠ x.dataset ∧
    w.overlaps x.periodStart x.periodEnd
deriving Decidable

/-- A campaign's row is no later than the consumption of a window under another name. -/
def Ahead (r : SearchRun) (w : WindowRow) : Prop :=
  match r.detail with
  | .campaign c => Renamed c w → ∀ t ∈ w.consumedAt, r.finishedAt ≤ t
  | _ => True

/-- The condition on a step: a row is written before the windows of other names are consumed,
and such a window is not consumed at an instant before the row. -/
def InOrder (w : Desk) (m : DeskMove) (_ : Desk) : Prop :=
  match m with
  | .record r => ∀ x ∈ w.store.windows.rows, Ahead r x
  | .write p =>
    match w.prepared p with
    | some (.freezing r) => ∀ x ∈ w.store.windows.rows, Ahead r x
    | some (.consuming ref now) => ∀ x ∈ w.store.windows.get? ref.key,
        ∀ r ∈ w.store.searchRuns.rows, Ahead r (x.consume now)
    | _ => True
  | _ => True

/-- Every stored campaign is no later than what was consumed under another name. -/
def Timely (s : RegistryStore) : Prop :=
  ∀ r ∈ s.searchRuns.rows, ∀ w ∈ s.windows.rows, Ahead r w

variable {contentId}

/-! ## What a row proves -/

variable {u : PUnit} {r : SearchRun} {c : ValidationCampaign}

theorem verifyPredatesConsumption_ok {t : Windows} {dataset : String}
    (h : verifyPredatesConsumption t c r dataset = .ok u) :
    ∀ w ∈ consumedOverlaps t c dataset, ∃ i ∈ w.consumedAt, r.finishedAt ≤ i := by
  unfold verifyPredatesConsumption at h
  cases hover : consumedOverlaps t c dataset with
  | nil => exact fun w hw => absurd hw (by simp)
  | cons w ws =>
    simp only [hover] at h; split at h
    · cases h
    split at h
    · next hall =>
      intro x hx; have := List.all_eq_true.1 hall x hx
      simpa using (Option.any_eq_true _ _).1 this
    · cases h

variable {expected : RowIdentity}

theorem verifyCampaignRow_ok {t : Windows}
    (h : verifyCampaignRow contentId t c r expected = .ok u) :
    r.toRowIdentity = expected ∧ (∃ stored, r.detail = .campaign stored ∧
      contentId (.campaign stored) = contentId (.campaign c)) ∧
      ∀ w ∈ consumedOverlaps t c expected.dataset, ∃ i ∈ w.consumedAt, r.finishedAt ≤ i := by
  unfold verifyCampaignRow at h; split at h
  · cases h
  next hsame =>
  split at h
  · next stored hdetail =>
    split at h
    · cases h
    · next hid =>
      exact ⟨not_not.1 hsame, ⟨stored, hdetail, not_not.1 hid⟩, verifyPredatesConsumption_ok h⟩
  · cases h

theorem expectedCampaignRow_dataset {e : RowIdentity}
    (h : expectedCampaignRow contentId c = .ok e) : ∀ x ∈ c.scenarios, x.dataset = e.dataset := by
  unfold expectedCampaignRow at h; split at h
  · next dataset hone =>
    cases h; intro x hx
    have hmem : x.dataset ∈ (c.scenarios.map (·.dataset)).eraseDups :=
      List.mem_eraseDups.2 (List.mem_map_of_mem hx)
    rw [hone] at hmem; exact List.mem_singleton.1 hmem
  · cases h

theorem SameDesign.renamed {a b : ValidationCampaign} (h : SameDesign a b) {w : WindowRow}
    (hb : Renamed b w) : Renamed a w := by
  obtain ⟨x, hx, hseries, hname, hover⟩ := hb; obtain ⟨-, -, -, hperm⟩ := h
  obtain ⟨y, hy, hxy⟩ := List.mem_map.1 (hperm.mem_iff.2 (List.mem_map_of_mem hx))
  have hdataset : y.dataset = x.dataset :=
    (congrArg ValidationScenario.dataset hxy :)
  have hstart : y.periodStart = x.periodStart := (congrArg ValidationScenario.periodStart hxy :)
  have hend : y.periodEnd = x.periodEnd := (congrArg ValidationScenario.periodEnd hxy :)
  refine ⟨y, hy, ?_⟩; rw [hdataset, hstart, hend]; exact ⟨hseries, hname, hover⟩

variable {s : RegistryStore}

/-- **Acceptance.** A row that verifies proves the order under the campaign's own name; a
timely ledger adds the other names. -/
theorem preceded_of_verified (hs : Timely s) (hd : Distinct contentId s c)
    (hrow : s.searchRuns.get? (selectionSearchId contentId c) = some r)
    (he : expectedCampaignRow contentId c = .ok expected)
    (hv : verifyCampaignRow contentId s.windows c r expected = .ok u) : Preceded contentId s c := by
  obtain ⟨-, ⟨stored, hdetail, hid⟩, hown⟩ := verifyCampaignRow_ok hv
  have hmem := (Table.get?_some hrow).1
  have hdesign := hd r hmem stored hdetail hid
  refine ⟨r, stored, hrow, hdetail, hdesign, ?_⟩
  intro x hx w hw hconsumed hseries hover
  obtain ⟨i, hi⟩ := Option.isSome_iff_exists.1 (w.dated.1 hconsumed)
  by_cases hname : w.dataset = x.dataset
  · refine hown w (List.mem_flatMap.2 ⟨x, hx, List.mem_filter.2 ⟨hw, decide_eq_true ?_⟩⟩)
    exact ⟨hname.trans (expectedCampaignRow_dataset he x hx), hconsumed, hover⟩
  · have hahead := hs r hmem w hw; unfold Ahead at hahead
    rw [hdetail] at hahead
    exact ⟨i, hi, hahead (hdesign.renamed ⟨x, hx, hseries, hname, hover⟩) i hi⟩

theorem verifyCampaignFrozen_ok {d : HypothesisDraft} (hc : d.validationCampaign = some c)
    (h : verifyCampaignFrozen contentId s d = .ok u) :
    ∃ expected r, expectedCampaignRow contentId c = .ok expected ∧
      s.searchRuns.get? (selectionSearchId contentId c) = some r ∧
      verifyCampaignRow contentId s.windows c r expected = .ok u := by
  unfold verifyCampaignFrozen at h; simp only [hc] at h
  obtain ⟨expected, he, h⟩ := except_bind_ok.1 h
  cases hrow : s.searchRuns.get? (selectionSearchId contentId c) with
  | none => simp [hrow] at h
  | some r =>
    simp only [hrow] at h; exact ⟨expected, r, he, rfl, h⟩

theorem judge_frozen {d : HypothesisDraft} {i : RegisterInputs} {now : Int} {r : Registration}
    (h : judge contentId d i now s = .ok r) : verifyCampaignFrozen contentId s d = .ok ⟨⟩ := by
  unfold judge at h; split at h; · cases h
  split at h; · cases h
  split at h; · cases h
  split at h; · cases h
  split at h; · cases h
  split at h; · cases h
  split at h; · cases h
  obtain ⟨_, hfrozen, _⟩ := except_bind_ok.1 h; exact hfrozen

theorem resolveForRun_frozen {hypothesisId hash : String} {version : Nat} {r : Registration}
    (h : resolveForRun contentId s hypothesisId version hash = .ok r) :
    verifyCampaignFrozen contentId s r.draft = .ok ⟨⟩ := by
  obtain ⟨⟨persisted, stored⟩, _, h⟩ := except_bind_ok.1 h; dsimp only at h
  split at h
  · cases h
  obtain ⟨_, hfrozen, h⟩ := except_bind_ok.1 h; cases h; exact hfrozen

/-! ## Runs -/

/-- Nothing consumed and no search recorded. -/
structure Quiet (s t : RegistryStore) : Prop where
  spared : Spared s.windows t.windows
  runs : t.searchRuns = s.searchRuns

instance : IsPreorder RegistryStore Quiet where
  refl _ := ⟨fun _ h _ => h, rfl⟩
  trans _ _ _ h h' := ⟨fun x hx hc => h.spared x (h'.spared x hx hc) hc, h'.runs.trans h.runs⟩

theorem insertRegistration_quiet (r : Registration) :
    Moves Quiet (insertRegistration contentId r) := by
  intro s u t h; refine ⟨(insertRegistration_ok h).2, ?_⟩
  obtain ⟨_, s₁, hrow, hwindows⟩ := bind_ok.1 h; unfold insertHypothesis at hrow
  split at hrow
  · cases hrow; rw [(insertWindows_ok hwindows).1]
  · cases hrow

theorem release_quiet (ref : WindowRef) : Moves Quiet (inWindows (Registry.release ref)) := by
  intro s u t h; obtain ⟨ws, hws, rfl⟩ := zoom_ok.1 h
  exact ⟨(release_ok hws).2, rfl⟩

theorem ahead_of_live {w : WindowRow} (h : w.state ≠ .consumed) : Ahead r w := by
  have hnone : w.consumedAt = none := by
    rw [← Option.not_isSome_iff_eq_none]; exact fun hsome => h (w.dated.2 hsome)
  unfold Ahead; split
  · intro _ t ht; rw [hnone] at ht; cases ht
  · trivial

theorem Timely.quiet {t : RegistryStore} (h : Timely s) (hq : Quiet s t) : Timely t := by
  intro r hr w hw; rw [hq.runs] at hr; by_cases hc : w.state = .consumed
  · exact h r hr w (hq.spared w hw hc)
  · exact ahead_of_live hc

theorem Timely.record (h : Timely s) (hr : ∀ x ∈ s.windows.rows, Ahead r x) :
    Timely (after (immediate (insertSearchRun r)) s) := by
  unfold after immediate
  cases hrun : insertSearchRun r s with
  | error e t => exact h
  | ok u t =>
    obtain ⟨hnew, rfl⟩ := insertSearchRun_ok hrun; intro r' hr' w hw
    rcases Table.mem_of_mem_insert hr' with hold | rfl
    · exact h r' hold w hw
    · exact hr w hw

theorem Timely.consume {ref : WindowRef} {now : Int} (h : Timely s)
    (hr : ∀ x ∈ s.windows.get? ref.key, ∀ r ∈ s.searchRuns.rows, Ahead r (x.consume now)) :
    Timely (after (immediate (inWindows (consumeWrite ref now))) s) := by
  rcases write_cases ref now s with hsame | ⟨t, hwrite, hnew⟩
  · rw [hsame]; exact h
  rw [hnew]; obtain ⟨row, hrow, _, _, hrows⟩ := consumeWrite_ok hwrite
  intro r hr' w hw; by_cases hc : w.state = .consumed
  · rcases hrows w hw hc with hold | rfl
    · exact h r hr' w hold
    · exact hr row hrow r hr'
  · exact ahead_of_live hc

theorem step_timely {w w' : Desk} {m : DeskMove} (h : Timely w.store)
    (hstep : DeskStep contentId w m w') (horder : InOrder w m w') : Timely w'.store := by
  cases hstep with
  | freeze _ | judge _ | check _ => exact h
  | @write p a hp =>
    unfold InOrder at horder; simp only [hp] at horder
    cases a with
    | freezing row => exact h.record horder
    | registering r => exact h.quiet ((insertRegistration_quiet r).after w.store)
    | consuming ref now => exact h.consume horder
  | release => exact h.quiet ((release_quiet _).after w.store)
  | record => exact h.record horder

/-- **Frozen first.** After every run whose writes keep the order, a campaign that a repeated
freeze, a registration or an execution accepts has a row of its own design, frozen no later
than every consumption of an overlapping window of its series. -/
theorem campaigns_precede {w : Desk} (h : ((desk contentId).restrict InOrder).Reachable w)
    {c : ValidationCampaign} (hd : Distinct contentId w.store c) :
    (∀ now id t, (w.store.searchRuns.get? (selectionSearchId contentId c)).isSome →
      freezeValidationCampaign contentId c now w.store = .ok id t → Preceded contentId w.store c) ∧
    (∀ d i now r, d.validationCampaign = some c → judge contentId d i now w.store = .ok r →
      Preceded contentId w.store c) ∧
    ∀ hypothesisId version hash r, r.draft.validationCampaign = some c →
      resolveForRun contentId w.store hypothesisId version hash = .ok r →
      Preceded contentId w.store c := by
  have hinv : ((desk contentId).restrict InOrder).Inductive fun w => Timely w.store := by
    refine ⟨?_, fun _ _ _ ht hstep => step_timely ht hstep.1 hstep.2⟩
    rintro _ rfl _ hr; cases hr
  have ht := hinv.reachable h
  refine ⟨fun now id t hsome hfreeze => ?_, fun d i now r hc hjudge => ?_,
    fun hypothesisId version hash r hc hresolve => ?_⟩
  · obtain ⟨r, hrow⟩ := Option.isSome_iff_exists.1 hsome
    rw [freeze_eq] at hfreeze
    cases hcheck : freezeCheck contentId c now w.store with
    | error e =>
      rw [hcheck] at hfreeze; cases hfreeze
    | ok row =>
      obtain ⟨expected, he, hcheck⟩ := except_bind_ok.1 hcheck
      simp only [hrow] at hcheck
      obtain ⟨_, hverify, _⟩ := except_bind_ok.1 hcheck
      exact preceded_of_verified ht hd hrow he hverify
  · obtain ⟨expected, r, he, hrow, hverify⟩ := verifyCampaignFrozen_ok hc (judge_frozen hjudge)
    exact preceded_of_verified ht hd hrow he hverify
  · obtain ⟨expected, r, he, hrow, hverify⟩ :=
      verifyCampaignFrozen_ok hc (resolveForRun_frozen hresolve)
    exact preceded_of_verified ht hd hrow he hverify

/-! ## A campaign on a concrete registry -/

instance (r : SearchRun) (w : WindowRow) : Decidable (Ahead r w) := by
  unfold Ahead
  split <;> infer_instance

/-- A window consumed before the campaign's row, under whatever name of the series. -/
def Late (contentId : ContentId) (s : RegistryStore) (c : ValidationCampaign) : Prop :=
  ∃ r ∈ s.searchRuns.get? (selectionSearchId contentId c), ∃ x ∈ c.scenarios,
    ∃ w ∈ s.windows.rows, w.state = .consumed ∧ SameSeries w.dataset x.dataset ∧
      w.overlaps x.periodStart x.periodEnd ∧ ∀ t ∈ w.consumedAt, t < r.finishedAt
deriving Decidable

theorem Late.not_preceded (h : Late contentId s c) : ¬ Preceded contentId s c := by
  intro ⟨r', _, hr', _, _, hall⟩
  obtain ⟨r, hr, x, hx, w, hw, hconsumed, hseries, hover, hlate⟩ := h
  obtain rfl := Option.some.inj (hr.symm.trans hr')
  obtain ⟨t, ht, hle⟩ := hall x hx w hw hconsumed hseries hover
  have := hlate t ht; omega

def rotationId : ContentId
  | .campaign c => c.selection
  | .registration r => r.draft.hypothesisId ++ toString r.draft.version
  | _ => ""

/-- Two scenarios over eleven days of the daily bars. -/
def rotation : ValidationCampaign where
  selection := "c1"
  eligibleStart := 0
  eligibleEnd := 10
  scenarios := [⟨"us-equities-daily", "PROTECTED_EVALUATION", 0, 5, "", none⟩,
    ⟨"us-equities-daily", "PROTECTED_EVALUATION", 6, 10, "adverse", none⟩]

theorem distinct_single (hrows : s.searchRuns.rows = [r]) (hr : r.detail = .campaign c) :
    Distinct contentId s c := by
  intro r' hr' stored hstored _; rw [hrows] at hr'
  obtain rfl := List.mem_singleton.1 hr'; rw [hr] at hstored; cases hstored
  exact ⟨rfl, rfl, rfl, List.Perm.refl _⟩

/-- A campaign frozen, its window consumed under the same name, the freeze repeated. -/
theorem campaigns_precede_rotation : ∃ w : Desk,
    (∃ x ∈ w.store.windows.rows, x.state = .consumed) ∧ Preceded rotationId w.store rotation := by
  let d := holdout "H1" 1 "us-equities-daily" (by decide)
  let reg : Registration := ⟨d, 2, 70, false, 90⟩
  let ref : WindowRef := ⟨"H1", 1, "us-equities-daily", .protectedEvaluation⟩
  let row : SearchRun := ⟨⟨"validation:c1", "validation-campaign", "1", 1, "us-equities-daily", 0,
    10, "PROTECTED_EVALUATION", "c1"⟩, 1, 1, .campaign rotation⟩
  have h₀ : ((desk rotationId).restrict InOrder).Reachable {} := ⟨{}, [], rfl, .nil _⟩
  have h₁ := h₀.step (l := DeskMove.freeze 0 rotation 1)
    ⟨.freeze (r := row) (by decide), trivial⟩
  have h₂ := h₁.step (l := DeskMove.write 0) ⟨.write rfl, fun x hx => (by cases hx)⟩
  have h₃ := h₂.step (l := DeskMove.judge 0 d (cleared "H1" 1) 2)
    ⟨.judge (r := reg) (by decide), trivial⟩
  have h₄ := h₃.step (l := DeskMove.write 0) ⟨.write rfl, trivial⟩
  have h₅ := h₄.step (l := DeskMove.check 0 ref 5) ⟨.check (by decide), trivial⟩
  have h₆ := h₅.step (l := DeskMove.write 0) ⟨.write rfl, show ∀ x ∈ Table.get? _ _, _ by
    decide⟩
  have hagain : ∀ w : Desk, ((desk rotationId).restrict InOrder).Reachable w →
      (∃ x ∈ w.store.windows.rows, x.state = .consumed) → w.store.searchRuns.rows = [row] →
      Returns (freezeValidationCampaign rotationId rotation 7) w.store "validation:c1" →
      ∃ w : Desk, (∃ x ∈ w.store.windows.rows, x.state = .consumed) ∧
        Preceded rotationId w.store rotation := by
    intro w hw hconsumed hrows hreturns; obtain ⟨t, ht⟩ := hreturns
    have hsome : (w.store.searchRuns.get? (selectionSearchId rotationId rotation)).isSome := by
      unfold Table.get?; rw [hrows]; decide
    exact ⟨w, hconsumed, (campaigns_precede hw (distinct_single hrows rfl)).1 7 _ t hsome ht⟩
  exact hagain _ h₆ (by decide) rfl (by decide)

/-- **Frozen after the fact**: the window is consumed under another name of its series, the
campaign over it is frozen later, and the repeated freeze accepts it. -/
theorem frozen_after_consumed : ∃ w : Desk, (desk rotationId).Reachable w ∧
    Distinct rotationId w.store rotation ∧
    (w.store.searchRuns.get? (selectionSearchId rotationId rotation)).isSome ∧
    Returns (freezeValidationCampaign rotationId rotation 11) w.store "validation:c1" ∧
    ¬ Preceded rotationId w.store rotation := by
  let d := holdout "H1" 1 "sip-us-equities-daily" (by decide)
  let reg : Registration := ⟨d, 0, 69, false, 90⟩
  let ref : WindowRef := ⟨"H1", 1, "sip-us-equities-daily", .protectedEvaluation⟩
  let row : SearchRun := ⟨⟨"validation:c1", "validation-campaign", "1", 1, "us-equities-daily", 0,
    10, "PROTECTED_EVALUATION", "c1"⟩, 10, 10, .campaign rotation⟩
  have h₀ : (desk rotationId).Reachable {} := ⟨{}, [], rfl, .nil _⟩
  have h₁ := h₀.step (l := DeskMove.judge 0 d (cleared "H1" 1) 0)
    (.judge (r := reg) (by decide))
  have h₂ := h₁.step (l := DeskMove.write 0) (.write rfl)
  have h₃ := h₂.step (l := DeskMove.check 0 ref 5) (.check (by decide))
  have h₄ := h₃.step (l := DeskMove.write 0) (.write rfl)
  have h₅ := h₄.step (l := DeskMove.freeze 0 rotation 10)
    (.freeze (r := row) (by decide))
  have h₆ := h₅.step (l := DeskMove.write 0) (.write rfl)
  exact ⟨_, h₆, distinct_single (r := row) rfl rfl, by decide, by decide,
    Late.not_preceded (by decide)⟩

end Quantbot.L3.Registry
