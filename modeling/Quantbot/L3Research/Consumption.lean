import Quantbot.Core.Sums
import Quantbot.L3Research.Protected

/-!
# What a range has cost

`HypothesisRegistry.window_consumption`: the trials spent on a range of a dataset, by whom,
and whether that leaves the range untouched, partly consumed or exhausted. The consumed
windows of the registry and what was spent before it are gathered under the names of
`equivalent_datasets`, which hold the name of the series itself only where that is asked.

* `consumption_by_name`: two names of a series report the same, unless exactly one of them is
  the series itself and the range was spent under that; and what is consumed under one name is
  seen under another, unless it is consumed under the series itself and asked by an alias.
* `spent_unseen`: macro data consumed under the name of the series is untouched by its alias.
-/
namespace Quantbot.L3.Registry

open Core Txn L2

/-! ## The names of a query -/

/-- The name is that of a series itself. -/
def Canonical (dataset : String) : Prop := observationIdentity dataset = dataset
deriving Decidable

theorem alias_not_canonical {a : String × String} (h : a ∈ observationAliases) :
    ¬ Canonical a.1 := by
  have hall : ∀ a ∈ observationAliases, ¬ Canonical a.1 := by decide
  exact hall a h

/-- A query sees every name of its series, the canonical one only if it asks by it. -/
theorem mem_equivalent {d dataset : String} : d ∈ equivalentDatasets dataset ↔
      SameSeries d dataset ∧ (Canonical d → Canonical dataset) := by
  constructor
  · intro h; refine ⟨mem_aliases.1 (List.mem_cons_of_mem _ h), fun hd => ?_⟩
    rcases mem_equivalentDatasets.1 h with halias | rfl
    · exact absurd hd (alias_not_canonical halias)
    · exact hd
  · intro ⟨hseries, hcanonical⟩; apply mem_equivalentDatasets.2
    rcases observationIdentity_cases d with halias | ⟨hself, _⟩
    · left; rw [← hseries]; exact halias
    · right; exact hself.symm.trans (hseries.trans (hcanonical hself))

theorem mem_equivalent_congr {a b d : String} (hab : SameSeries a b)
    (h : (Canonical a ↔ Canonical b) ∨ ¬ Canonical d) :
    d ∈ equivalentDatasets a ↔ d ∈ equivalentDatasets b := by
  rw [mem_equivalent, mem_equivalent]
  have hseries : SameSeries d a ↔ SameSeries d b :=
    ⟨fun hd => hd.trans hab, fun hd => hd.trans hab.symm⟩
  rw [hseries]; rcases h with hboth | hnot
  · rw [hboth]
  · exact and_congr_right fun _ => ⟨fun _ hd => absurd hd hnot, fun _ hd => absurd hd hnot⟩

/-! ## The report -/

inductive ConsumptionStatus | untouched | partiallyConsumed | exhausted
deriving DecidableEq, Repr

/-- mirrors registry.py:478-501 -/
structure WindowConsumption where
  dataset : String
  status : ConsumptionStatus
  trials : Nat
  consumers : List String
  byFamily : List (String × Nat)
deriving DecidableEq

/-- Trials spent on a range before the registry existed. -/
structure PriorWindow where
  dataset : String
  start : Int
  finish : Int
  trials : Nat
  spent : 0 < trials
deriving DecidableEq

def exhaustedTrials : Nat := 40

/-- 2016-01-04 to 2026-08-21 (registry.py:134-136), as days since 1970. -/
def priorWindowConsumption : List PriorWindow :=
  [⟨"sip-us-equities-daily", 16804, 20686, 68, by decide⟩]

def priorConsumer : String := "cycles 2-10 (pre-v0.2, see REFUTED.md)"

/-- Each window with its registration: the join on id and version. -/
def joined (s : RegistryStore) : List (WindowRow × HypothesisRow) :=
  s.windows.rows.filterMap fun w =>
    (s.hypotheses.get? (w.hypothesisId, w.version)).map fun r => (w, r)

def consumedRows (s : RegistryStore) (names : List String) (start finish : Int) :
    List (WindowRow × HypothesisRow) :=
  (joined s).filter fun x =>
    x.1.dataset ∈ names ∧ x.1.overlaps start finish ∧ x.1.state = .consumed

def priorRows (priors : List PriorWindow) (names : List String) (start finish : Int) :
    List PriorWindow :=
  priors.filter fun p => p.dataset ∈ names ∧ p.start ≤ finish ∧ start ≤ p.finish

/-- The trials of the artifact tests of a registration. -/
def artifactCharge (s : RegistryStore) (hypothesisId : String) (version : Nat) : Nat :=
  ((s.artifactTests.rows.filter fun r => r.document.hypothesisId = hypothesisId ∧
    r.document.hypothesisVersion = version).map (·.trialCharge)).sum

def spentBy (s : RegistryStore) (x : WindowRow × HypothesisRow) : Nat :=
  x.2.searchCardinality + artifactCharge s x.1.hypothesisId x.1.version

def WindowRow.consumer (w : WindowRow) : String := w.hypothesisId ++ " v" ++ toString w.version

def consumptionStatus (trials : Nat) : ConsumptionStatus :=
  if exhaustedTrials ≤ trials then .exhausted
  else if trials ≠ 0 then .partiallyConsumed
  else .untouched

/-- mirrors registry.py:1745-1828 -/
def windowConsumption (s : RegistryStore) (priors : List PriorWindow) (dataset : String)
    (start finish : Int) : WindowConsumption :=
  let prior := priorRows priors (equivalentDatasets dataset) start finish
  let rows := consumedRows s (equivalentDatasets dataset) start finish
  let trials := (prior.map (·.trials)).sum + (rows.map (spentBy s)).sum
  { dataset := dataset
    status := consumptionStatus trials
    trials := trials
    consumers := (prior.map (fun _ => priorConsumer) ++
      rows.map fun x => x.1.consumer).eraseDups.mergeSort
    byFamily := (rows.map fun x => x.2.document.draft.familyId).eraseDups.mergeSort.map
      fun family => (family, ((rows.filter fun x =>
        x.2.document.draft.familyId = family).map (spentBy s)).sum) }

/-- The two reports say the same of the range. -/
def SameReport (r r' : WindowConsumption) : Prop :=
  r.trials = r'.trials ∧ r.consumers = r'.consumers ∧ r.status = r'.status
deriving Decidable

/-! ## Registries as they are written -/

/-- A registration inspected one candidate at least, and every window belongs to one. -/
structure Intact (s : RegistryStore) : Prop where
  searched : ∀ r ∈ s.hypotheses.rows, 1 ≤ r.searchCardinality
  registered : ∀ w ∈ s.windows.rows, ∃ r, s.hypotheses.get? (w.hypothesisId, w.version) = some r

def Keeps (s t : RegistryStore) : Prop := Intact s → Intact t

variable {contentId : ContentId}

theorem insertRegistration_intact (r : Registration) :
    Moves Keeps (insertRegistration contentId r) := by
  intro s u t h hs; unfold insertRegistration at h; rw [bind_ok] at h
  obtain ⟨_, s₁, hrow, hwindows⟩ := h; unfold insertHypothesis at hrow
  split at hrow
  · rename_i hnew; obtain ⟨rfl⟩ := hrow
    obtain ⟨heq, hrows⟩ := insertWindows_ok hwindows
    have hhyp : t.hypotheses = s.hypotheses.insert (r.row contentId) := by rw [heq]
    have htable := UTable.insert_toTable (t := s.hypotheses) (a := r.row contentId) hnew.1 hnew.2
    refine ⟨fun x hx => ?_, fun w hw => ?_⟩
    · rw [hhyp, htable] at hx
      rcases (Table.mem_insert hnew.1).1 hx with hold | rfl
      · exact hs.searched x hold
      · exact r.draft.searched
    · rw [hhyp, htable, Table.get?_insert hnew.1]; rw [hrows] at hw
      rcases List.mem_append.1 hw with hold | hmine
      · obtain ⟨x, hx⟩ := hs.registered w hold; split
        · exact ⟨_, rfl⟩
        · exact ⟨x, hx⟩
      · obtain ⟨d, _, rfl⟩ := List.mem_map.1 hmine; exact ⟨_, if_pos rfl⟩
  · cases hrow

theorem modify_intact {s : RegistryStore} {k : String × Nat × String × DataRole}
    {f : WindowRow → WindowRow} {hf : ∀ x, x.key = k → (f x).key = k} (hs : Intact s) :
    Intact { s with windows := s.windows.modify k f hf } := by
  refine ⟨hs.searched, fun w hw => ?_⟩; rw [Table.mem_modify] at hw
  rcases hw with ⟨hold, _⟩ | ⟨x, hx, rfl⟩
  · exact hs.registered w hold
  obtain ⟨hmem, hkey⟩ := Table.get?_some hx
  have hsame : (f x).key = x.key := (hf x hkey).trans hkey.symm
  have hid : (f x).hypothesisId = x.hypothesisId := congrArg (·.1) hsame
  have hversion : (f x).version = x.version := congrArg (·.2.1) hsame
  rw [hid, hversion]; exact hs.registered x hmem

theorem consumeWrite_intact (ref : WindowRef) (now : Int) :
    Moves Keeps (inWindows (consumeWrite ref now)) := by
  intro s u t h hs; obtain ⟨ws, hws, rfl⟩ := zoom_ok.1 h
  unfold consumeWrite at hws; split at hws
  · split at hws
    · obtain ⟨rfl⟩ := hws; exact modify_intact hs
    · cases hws
  · cases hws

theorem release_intact (ref : WindowRef) : Moves Keeps (inWindows (Registry.release ref)) := by
  intro s u t h hs; obtain ⟨ws, hws, rfl⟩ := zoom_ok.1 h
  unfold Registry.release at hws; split at hws
  · split at hws
    · obtain ⟨rfl⟩ := hws; exact modify_intact hs
    · cases hws
  · cases hws

theorem insertSearchRun_intact (r : SearchRun) : Moves Keeps (insertSearchRun r) := by
  intro s u t h hs; obtain ⟨_, rfl⟩ := insertSearchRun_ok h
  exact ⟨hs.searched, hs.registered⟩

instance : IsPreorder RegistryStore Keeps where
  refl _ := fun h => h
  trans _ _ _ h h' := fun hs => h' (h hs)

theorem step_intact {w w' : World} {m : Move} (h : Step contentId w m w')
    (hw : Intact w.store) : Intact w'.store := by
  cases h with
  | judge _ | check _ | abandon => exact hw
  | insert _ => exact (insertRegistration_intact _).after w.store hw
  | write _ => exact (consumeWrite_intact _ _).after w.store hw
  | release => exact (release_intact _).after w.store hw
  | record => exact (insertSearchRun_intact _).after w.store hw

/-- **Every registry reached is intact.** -/
theorem intact_inductive : (handover contentId).Inductive fun w => Intact w.store where
  init w h := by
    rw [show w = {} from h]; exact ⟨fun _ h => (by cases h), List.forall_mem_nil _⟩
  step _ _ _ hw hstep := step_intact hstep hw

/-! ## What a query counts -/

section counts

variable {s : RegistryStore} {priors : List PriorWindow} {start finish : Int}

/-- Something the range holds was spent under this very name. -/
def SpentUnder (s : RegistryStore) (priors : List PriorWindow) (name : String)
    (start finish : Int) : Prop :=
  (∃ x ∈ joined s, x.1.dataset = name ∧ x.1.overlaps start finish ∧ x.1.state = .consumed) ∨
    ∃ p ∈ priors, p.dataset = name ∧ p.start ≤ finish ∧ start ≤ p.finish
deriving Decidable

variable {x : WindowRow × HypothesisRow}

theorem mem_joined : x ∈ joined s ↔ x.1 ∈ s.windows.rows ∧
      s.hypotheses.get? (x.1.hypothesisId, x.1.version) = some x.2 := by
  obtain ⟨w, r⟩ := x; unfold joined
  simp only [List.mem_filterMap, Option.map_eq_some_iff, Prod.mk.injEq]
  constructor
  · rintro ⟨w', hw, r', hr, rfl, rfl⟩; exact ⟨hw, hr⟩
  · intro ⟨hw, hr⟩; exact ⟨w, hw, r, hr, rfl, rfl⟩

theorem spentBy_pos (hs : Intact s) (hx : x ∈ joined s) : 0 < spentBy s x := by
  have hcharge := hs.searched x.2 (Table.get?_some (mem_joined.1 hx).2).1
  unfold spentBy; omega

theorem rows_congr {names names' : List String}
    (h : ∀ n, SpentUnder s priors n start finish → (n ∈ names ↔ n ∈ names')) :
    consumedRows s names start finish = consumedRows s names' start finish ∧
      priorRows priors names start finish = priorRows priors names' start finish := by
  constructor
  · refine List.filter_congr fun x hx => ?_; rw [decide_eq_decide]; constructor
    · intro ⟨hname, hover, hstate⟩
      exact ⟨(h _ (.inl ⟨x, hx, rfl, hover, hstate⟩)).1 hname, hover, hstate⟩
    · intro ⟨hname, hover, hstate⟩
      exact ⟨(h _ (.inl ⟨x, hx, rfl, hover, hstate⟩)).2 hname, hover, hstate⟩
  · refine List.filter_congr fun p hp => ?_; rw [decide_eq_decide]; constructor
    · intro ⟨hname, hstart, hfinish⟩
      exact ⟨(h _ (.inr ⟨p, hp, rfl, hstart, hfinish⟩)).1 hname, hstart, hfinish⟩
    · intro ⟨hname, hstart, hfinish⟩
      exact ⟨(h _ (.inr ⟨p, hp, rfl, hstart, hfinish⟩)).2 hname, hstart, hfinish⟩

section

variable (hs : Intact s)
include hs

theorem trials_lt {a b n : String} (hsub : ∀ d, d ∈ equivalentDatasets b → d ∈ equivalentDatasets a)
    (ha : n ∈ equivalentDatasets a) (hb : n ∉ equivalentDatasets b)
    (hspent : SpentUnder s priors n start finish) :
    (windowConsumption s priors b start finish).trials <
      (windowConsumption s priors a start finish).trials := by
  have hrows : ∀ x : WindowRow × HypothesisRow,
      decide (x.1.dataset ∈ equivalentDatasets b ∧ x.1.overlaps start finish ∧
        x.1.state = .consumed) = true →
      decide (x.1.dataset ∈ equivalentDatasets a ∧ x.1.overlaps start finish ∧
        x.1.state = .consumed) = true := fun x hx =>
    decide_eq_true ⟨hsub _ (of_decide_eq_true hx).1, (of_decide_eq_true hx).2⟩
  have hprior : ∀ p : PriorWindow,
      decide (p.dataset ∈ equivalentDatasets b ∧ p.start ≤ finish ∧ start ≤ p.finish) = true →
      decide (p.dataset ∈ equivalentDatasets a ∧ p.start ≤ finish ∧ start ≤ p.finish) = true :=
    fun p hp => decide_eq_true ⟨hsub _ (of_decide_eq_true hp).1, (of_decide_eq_true hp).2⟩
  unfold windowConsumption consumedRows priorRows
  rcases hspent with ⟨x, hx, rfl, hover, hstate⟩ | ⟨p, hp, rfl, hstart, hfinish⟩
  · refine Nat.add_lt_add_of_le_of_lt (sum_filter_le hprior)
      (sum_filter_lt hrows hx (decide_eq_true ⟨ha, hover, hstate⟩)
        (decide_eq_false fun h => hb h.1) (spentBy_pos hs hx))
  · exact Nat.add_lt_add_of_lt_of_le
      (sum_filter_lt hprior hp (decide_eq_true ⟨ha, hstart, hfinish⟩)
        (decide_eq_false fun h => hb h.1) p.spent) (sum_filter_le hrows)

theorem untouched_iff {dataset : String} :
    (windowConsumption s priors dataset start finish).status = .untouched ↔
      ∀ n ∈ equivalentDatasets dataset, ¬ SpentUnder s priors n start finish := by
  have hstatus : (windowConsumption s priors dataset start finish).status = .untouched ↔
      (windowConsumption s priors dataset start finish).trials = 0 := by
    change consumptionStatus (windowConsumption s priors dataset start finish).trials = _ ↔ _
    unfold consumptionStatus exhaustedTrials; split
    · exact ⟨nofun, fun h => by omega⟩
    split
    · rename_i hsome; exact ⟨nofun, fun h => absurd h hsome⟩
    · rename_i hnone; exact ⟨fun _ => not_not.1 hnone, fun _ => rfl⟩
  rw [hstatus]; unfold windowConsumption
  rw [Nat.add_eq_zero_iff, List.sum_eq_zero_iff, List.sum_eq_zero_iff]
  constructor
  · rintro ⟨hprior, hrows⟩ n hn (⟨x, hx, rfl, hover, hstate⟩ | ⟨p, hp, rfl, hstart, hfinish⟩)
    · have hmem : x ∈ consumedRows s (equivalentDatasets dataset) start finish :=
        List.mem_filter.2 ⟨hx, decide_eq_true ⟨hn, hover, hstate⟩⟩
      exact absurd (hrows _ (List.mem_map_of_mem hmem)) (spentBy_pos hs hx).ne'
    · have hmem : p ∈ priorRows priors (equivalentDatasets dataset) start finish :=
        List.mem_filter.2 ⟨hp, decide_eq_true ⟨hn, hstart, hfinish⟩⟩
      exact absurd (hprior _ (List.mem_map_of_mem hmem)) p.spent.ne'
  · intro hnone; constructor
    · intro m hm; obtain ⟨p, hp, rfl⟩ := List.mem_map.1 hm
      obtain ⟨hp, hkept⟩ := List.mem_filter.1 hp
      obtain ⟨hn, hstart, hfinish⟩ := of_decide_eq_true hkept
      exact absurd (.inr ⟨p, hp, rfl, hstart, hfinish⟩) (hnone _ hn)
    · intro m hm; obtain ⟨x, hx, rfl⟩ := List.mem_map.1 hm
      obtain ⟨hx, hkept⟩ := List.mem_filter.1 hx
      obtain ⟨hn, hover, hstate⟩ := of_decide_eq_true hkept
      exact absurd (.inl ⟨x, hx, rfl, hover, hstate⟩) (hnone _ hn)

theorem untouched_alias {b : String} (hb : ¬ Canonical b)
    (hrows : ∀ x ∈ joined s, Canonical x.1.dataset)
    (hprior : ∀ p ∈ priors, p.start ≤ finish → start ≤ p.finish → Canonical p.dataset) :
    (windowConsumption s priors b start finish).status = .untouched := by
  rw [untouched_iff hs]
  rintro n hn (⟨x, hx, rfl, _⟩ | ⟨p, hp, rfl, hstart, hfinish⟩)
  · exact hb ((mem_equivalent.1 hn).2 (hrows x hx))
  · exact hb ((mem_equivalent.1 hn).2 (hprior p hp hstart hfinish))

/-- Two names of a series report the same where only the canonical one tells them apart, and
nothing was spent under it. -/
theorem sameReport_iff {a b : String} (hab : SameSeries a b) :
    SameReport (windowConsumption s priors a start finish)
        (windowConsumption s priors b start finish) ↔ (Canonical a ↔ Canonical b) ∨
        ¬ SpentUnder s priors (observationIdentity a) start finish := by
  -- the wider query is the canonical one, whichever of the two it is
  have hdiffer : ∀ a b, SameSeries a b → Canonical a → ¬ Canonical b →
      SpentUnder s priors (observationIdentity a) start finish →
      (windowConsumption s priors b start finish).trials <
        (windowConsumption s priors a start finish).trials := by
    intro a b hab ha hb hspent
    refine trials_lt hs (fun d hd => ?_) ?_ (fun hmem => ?_) hspent
    · exact mem_equivalent.2 ⟨(mem_equivalent.1 hd).1.trans hab.symm, fun _ => ha⟩
    · exact mem_equivalent.2 ⟨observationIdentity_idem a, fun _ => ha⟩
    · exact hb ((mem_equivalent.1 hmem).2 (observationIdentity_idem a))
  constructor
  · intro hsame; by_contra hnot; obtain ⟨hwhich, hspent⟩ := not_or.1 hnot
    rw [not_not] at hspent; by_cases ha : Canonical a
    · have hb : ¬ Canonical b := fun hb => hwhich ⟨fun _ => hb, fun _ => ha⟩
      exact (hdiffer a b hab ha hb hspent).ne' hsame.1
    have hb : Canonical b := by
      by_contra hb; exact hwhich ⟨fun h => absurd h ha, fun h => absurd h hb⟩
    rw [hab] at hspent; exact (hdiffer b a hab.symm hb ha hspent).ne hsame.1
  · intro h
    have hsame : consumedRows s (equivalentDatasets a) start finish =
          consumedRows s (equivalentDatasets b) start finish ∧
        priorRows priors (equivalentDatasets a) start finish =
          priorRows priors (equivalentDatasets b) start finish :=
      rows_congr fun n hn => by
        by_cases hseries : SameSeries n a
        · refine mem_equivalent_congr hab (h.imp_right fun hnone hc => hnone ?_)
          rw [← hseries, show observationIdentity n = n from hc]; exact hn
        · exact ⟨fun hm => absurd (mem_equivalent.1 hm).1 hseries,
            fun hm => absurd ((mem_equivalent.1 hm).1.trans hab.symm) hseries⟩
    unfold windowConsumption SameReport; rw [hsame.1, hsame.2]
    exact ⟨rfl, rfl, rfl⟩

/-! ## Consumption -/

theorem spentUnder_consume {ref : WindowRef} {now : Int} {t : Windows} {u : PUnit}
    {row : WindowRow} (h : consumeWrite ref now s.windows = .ok u t)
    (hrow : s.windows.get? ref.key = some row) (hover : row.overlaps start finish) (n : String) :
    SpentUnder { s with windows := t } priors n start finish ↔
      n = ref.dataset ∨ SpentUnder s priors n start finish := by
  have hkey : row.key = ref.key := (Table.get?_some hrow).2
  have hdataset : row.dataset = ref.dataset := congrArg (·.2.2.1) hkey
  obtain ⟨row', hrow', hreserved, hsteady, hnew⟩ := consumeWrite_ok h
  rw [hrow] at hrow'
  cases hrow'
  have hmem : row.consume now ∈ t.rows := by
    unfold consumeWrite at h
    rw [hrow] at h
    dsimp only at h
    rw [if_pos hreserved] at h
    obtain ⟨rfl⟩ := h
    exact Table.mem_modify.2 (.inr ⟨row, hrow, rfl⟩)
  constructor
  · rintro (⟨x, hx, hname, hxover, hstate⟩ | hprior)
    · obtain ⟨hxmem, hreg⟩ := mem_joined.1 hx
      rcases hnew x.1 hxmem hstate with hold | hmine
      · exact .inr (.inl ⟨x, mem_joined.2 ⟨hold, hreg⟩, hname, hxover, hstate⟩)
      left
      rw [← hname, hmine, ← hdataset]
      rfl
    · exact .inr (.inr hprior)
  · rintro (rfl | ⟨x, hx, hname, hxover, hstate⟩ | hprior)
    · obtain ⟨r, hr⟩ := hs.registered row (Table.get?_some hrow).1
      exact .inl ⟨(row.consume now, r), mem_joined.2 ⟨hmem, hr⟩, hdataset, hover, rfl⟩
    · obtain ⟨hxmem, hreg⟩ := mem_joined.1 hx
      exact .inl ⟨x, mem_joined.2 ⟨hsteady.kept x.1 hxmem hstate, hreg⟩, hname, hxover, hstate⟩
    · exact .inr hprior

end

end counts

/-- **Consumption by name.** Two names of a series report the same trials, consumers and status,
unless exactly one is canonical and the range was spent under that. A range consumed under one
name is unspent under another exactly where the first is canonical, the second is not, and
nothing else was spent on it. -/
theorem consumption_by_name (s : RegistryStore) (hs : Intact s) (priors : List PriorWindow)
    (start finish : Int) :
    (∀ a b, SameSeries a b →
      (SameReport (windowConsumption s priors a start finish)
          (windowConsumption s priors b start finish) ↔
        (Canonical a ↔ Canonical b) ∨
          ¬ SpentUnder s priors (observationIdentity a) start finish)) ∧
    ∀ ref now u t row b, consume ref now s.windows = .ok u t →
      s.windows.get? ref.key = some row → row.overlaps start finish →
      SameSeries ref.dataset b →
      ((windowConsumption { s with windows := t } priors b start finish).status ≠ .untouched ↔
        (Canonical ref.dataset → Canonical b) ∨
          ∃ n ∈ equivalentDatasets b, SpentUnder s priors n start finish) := by
  refine ⟨fun a b hab => sameReport_iff hs hab, ?_⟩
  intro ref now u t row b hconsume hrow hover hseries
  have hwrite := (consume_ok.1 hconsume).2
  have hs' : Intact { s with windows := t } :=
    consumeWrite_intact ref now s u _ (zoom_ok.2 ⟨t, hwrite, rfl⟩) hs
  rw [ne_eq, untouched_iff hs']
  have hsees : (Canonical ref.dataset → Canonical b) ↔ ref.dataset ∈ equivalentDatasets b := by
    rw [mem_equivalent]
    exact ⟨fun h => ⟨hseries, h⟩, fun h => h.2⟩
  rw [hsees]
  simp only [spentUnder_consume hs hwrite hrow hover]
  constructor
  · intro h
    by_contra hnot
    obtain ⟨hown, hother⟩ := not_or.1 hnot
    refine h fun n hn => ?_
    rintro (rfl | hspent)
    · exact hown hn
    · exact hother ⟨n, hn, hspent⟩
  · rintro (hown | ⟨n, hn, hspent⟩) hnone
    · exact hnone _ hown (.inl rfl)
    · exact hnone n hn (.inr hspent)

/-- Macro data is registered, consumed under the name of the series, and asked by both names. -/
theorem spent_unseen : ∃ w, (handover plainId).Reachable w ∧
    SameSeries "us-macro-monthly" "fred-macro-monthly" ∧
    ¬ SameReport (windowConsumption w.store priorWindowConsumption "us-macro-monthly" 0 10)
      (windowConsumption w.store priorWindowConsumption "fred-macro-monthly" 0 10) ∧
    (windowConsumption w.store priorWindowConsumption "us-macro-monthly" 0 10).status ≠ .untouched ∧
    (windowConsumption w.store priorWindowConsumption "fred-macro-monthly" 0 10).status =
      .untouched := by
  let macros := holdout "H1" 1 "us-macro-monthly" (by decide)
  let r₁ : Registration := ⟨macros, 0, 69, false, 90⟩
  let c₁ : WindowRef := ⟨"H1", 1, "us-macro-monthly", .protectedEvaluation⟩
  have h₀ : (handover plainId).Reachable {} := ⟨{}, [], rfl, .nil _⟩
  have h₁ := h₀.step (l := Move.judge 0 macros (cleared "H1" 1) 0)
    (.judge (r := r₁) (by decide))
  have h₂ := h₁.step (.insert (p := 0) (r := r₁) rfl)
  have h₃ := h₂.step (l := Move.check 0 c₁ 5) (.check (by decide))
  have h₄ := h₃.step (.write (p := 0) rfl)
  have hs := intact_inductive.reachable h₄
  refine ⟨_, h₄, by decide, ?_, ?_, ?_⟩
  · rw [sameReport_iff hs (by decide)]; decide
  · rw [ne_eq, untouched_iff hs]; intro hnone
    exact hnone "us-macro-monthly" (mem_equivalentDatasets.2 (.inr rfl)) (by decide)
  · exact untouched_alias hs (by decide) (by decide) (by decide)

/-- The same data consumed under an alias is seen under every name. -/
theorem consumption_by_name_alias : ∃ w, (handover plainId).Reachable w ∧ Intact w.store ∧
    SameReport (windowConsumption w.store priorWindowConsumption "fred-macro-monthly" 0 10)
      (windowConsumption w.store priorWindowConsumption "us-macro-monthly" 0 10) ∧
    ∃ t, consume ⟨"H1", 1, "fred-macro-monthly", .protectedEvaluation⟩ 5 w.windows = .ok ⟨⟩ t ∧
      (windowConsumption { w.store with windows := t } priorWindowConsumption
        "us-macro-monthly" 0 10).status ≠ .untouched := by
  let macros := holdout "H1" 1 "fred-macro-monthly" (by decide)
  let r₁ : Registration := ⟨macros, 0, 69, false, 90⟩
  have h₀ : (handover plainId).Reachable {} := ⟨{}, [], rfl, .nil _⟩
  have h₁ := h₀.step (l := Move.judge 0 macros (cleared "H1" 1) 0)
    (.judge (r := r₁) (by decide))
  have h₂ := h₁.step (.insert (p := 0) (r := r₁) rfl)
  have hs := intact_inductive.reachable h₂
  obtain ⟨hsame, hspent⟩ := consumption_by_name _ hs priorWindowConsumption 0 10
  refine ⟨_, h₂, hs, (hsame _ _ (by decide)).2 (.inr (by decide)), _, rfl, ?_⟩
  exact (hspent ⟨"H1", 1, "fred-macro-monthly", .protectedEvaluation⟩ 5 ⟨⟩ _ _ _ rfl rfl
    (by decide) (by decide)).2 (.inl (by decide))

end Quantbot.L3.Registry
