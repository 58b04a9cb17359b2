import Mathlib.Data.String.Basic
import Quantbot.Core.Ordered
import Quantbot.Core.Txn
import Quantbot.L4Learner.Intraday

/-!
# The intraday learner has no look-ahead

Two bar histories, or two sets of labels, that agree up to an instant: what is built from
either up to then is the same. A history with a misaligned or a repeated bar builds nothing at
all, wherever the bar stands, so both histories are ones that index.

**Results.**
* `buildFeatures_agree`: features depend on the bars whose minute is complete at the decision,
  and a cohort is whole or empty (`buildFeatures_cohort`).
* `historical_agree`: labels with a target before an instant depend on the bars complete before
  it.
* `fitted_eq`: what is fitted, and its lineage, depends on the labels with a target before the
  validation start. The figures a model records of its validation do not
  (`validation_recorded`).
* `predict_existed`: a prediction is of a model created by its decision.
-/
namespace Quantbot.L4.Intraday

open Core L1 L3.Strategy
open Txn (except_bind_ok mapM_ok_mem mapM_ok_map)

variable {F : Type} {fl : Floats F}

/-! ## Histories that agree -/

/-- The same bars, of those whose minute is complete at `limit`. -/
def AgreeUpTo (limit : Int) (bars bars' : List Bar) : Prop :=
  ∀ b : Bar, b.timestamp + minute ≤ limit → (b ∈ bars ↔ b ∈ bars')

variable {t : Indexed}

theorem insertBar_rows {t' : Indexed} {b : Bar} (h : insertBar t b = .ok t') :
    t'.rows = t.rows ++ [b] := by
  unfold insertBar at h; split at h
  · cases h
  split at h
  · cases h
  rename_i hnew; obtain rfl := Except.ok.inj h
  exact Table.insert_rows (Option.not_isSome_iff_eq_none.1 hnew)

variable {bars : List Bar}

theorem index_rows (h : index bars = .ok t) : t.rows = bars := by
  have hrun : ∀ (bars : List Bar) (t₀ t : Indexed), bars.foldlM insertBar t₀ = .ok t →
      t.rows = t₀.rows ++ bars := by
    intro bars
    induction bars with
    | nil =>
      intro t₀ t h; obtain rfl := Except.ok.inj h
      exact (List.append_nil _).symm
    | cons b bars ih =>
      intro t₀ t h; rw [List.foldlM_cons] at h
      obtain ⟨t₁, h₁, h⟩ := except_bind_ok.1 h
      rw [ih t₁ t h, insertBar_rows h₁, List.append_assoc]; rfl
  exact hrun bars .empty t h

section Agree
variable {t t' : Indexed} {limit : Int}

/-- The same rows complete at the limit. -/
def Agree (limit : Int) (t t' : Indexed) : Prop :=
  ∀ b : Bar, b.timestamp + minute ≤ limit → (b ∈ t.rows ↔ b ∈ t'.rows)

theorem AgreeUpTo.indexed {bars bars' : List Bar} (h : AgreeUpTo limit bars bars')
    (ht : index bars = .ok t) (ht' : index bars' = .ok t') : Agree limit t t' := by
  intro b hb; rw [index_rows ht, index_rows ht']; exact h b hb

theorem Agree.mono {limit' : Int} (h : Agree limit t t') (hle : limit' ≤ limit) :
    Agree limit' t t' :=
  fun b hb => h b (by omega)

theorem Agree.get? (h : Agree limit t t') {symbol : String} {at_ : Int}
    (hat : at_ + minute ≤ limit) : t.get? (symbol, at_) = t'.get? (symbol, at_) := by
  refine Option.ext fun b => ?_; rw [Table.get?_eq_some, Table.get?_eq_some]
  constructor
  · intro ⟨hmem, hkey⟩; obtain ⟨rfl, rfl⟩ := Prod.mk.inj hkey
    exact ⟨(h b hat).1 hmem, rfl⟩
  · intro ⟨hmem, hkey⟩; obtain ⟨rfl, rfl⟩ := Prod.mk.inj hkey
    exact ⟨(h b hat).2 hmem, rfl⟩

theorem max?_congr {xs ys : List Int} (h : ∀ x, x ∈ xs ↔ x ∈ ys) : xs.max? = ys.max? := by
  refine Option.ext fun m => ?_
  rw [List.max?_eq_some_iff, List.max?_eq_some_iff, h m]
  exact and_congr_right fun _ => forall_congr' fun x => by rw [h x]

theorem Agree.latest (h : Agree limit t t') (required : List String) (openAt : Int) :
    latest t required openAt limit = latest t' required openAt limit := by
  unfold Intraday.latest; refine max?_congr fun x => ?_
  simp only [List.mem_map, List.mem_filter, decide_eq_true_eq]
  refine exists_congr fun b => and_congr_left fun _ => ?_; constructor
  · intro ⟨hmem, hsymbol, hopen, hdone⟩
    exact ⟨(h b hdone).1 hmem, hsymbol, hopen, hdone⟩
  · intro ⟨hmem, hsymbol, hopen, hdone⟩
    exact ⟨(h b hdone).2 hmem, hsymbol, hopen, hdone⟩

theorem latest_le {required : List String} {openAt last : Int}
    (h : latest t required openAt limit = some last) : last + minute ≤ limit := by
  obtain ⟨hmem, _⟩ := List.max?_eq_some_iff.1 h
  obtain ⟨b, hb, rfl⟩ := List.mem_map.1 hmem
  exact (of_decide_eq_true (List.mem_filter.1 hb).2).2.2

theorem minutes_le {first at_ : Int} (h : at_ ∈ minutes first) : at_ ≤ first + 30 * minute := by
  obtain ⟨i, hi, rfl⟩ := List.mem_map.1 h; have := List.mem_range.1 hi
  unfold minute; omega

theorem Agree.panel (h : Agree limit t t') {symbol : String} {first : Int}
    (hlast : first + 30 * minute + minute ≤ limit) :
    panel t symbol first = panel t' symbol first := by
  unfold Intraday.panel; refine List.filterMap_congr fun at_ hat => h.get? ?_
  have := minutes_le hat; omega

/-- **The cohort of a decision** depends on what is complete at the decision. -/
theorem Agree.cohortAt (h : Agree limit t t') (session : XNYSSession) (symbols : List String)
    (sourceSnapshotHash : String) (receiptAt : Int) (evaluationClass : EvidenceClass) :
    cohortAt fl t session limit symbols sourceSnapshotHash receiptAt evaluationClass =
      cohortAt fl t' session limit symbols sourceSnapshotHash receiptAt evaluationClass := by
  unfold Intraday.cohortAt; dsimp only; rw [← h.latest]; split
  · rfl
  rename_i last hlast; have hdone := latest_le hlast
  have hcomplete : (∃ s ∈ sorted symbols ++ ["SPY"], ∃ at_ ∈ minutes (last - 30 * minute),
      t.get? (s, at_) = none) ↔ ∃ s ∈ sorted symbols ++ ["SPY"],
      ∃ at_ ∈ minutes (last - 30 * minute), t'.get? (s, at_) = none := by
    refine exists_congr fun s => and_congr_right fun _ => exists_congr fun at_ =>
      and_congr_right fun hat => ?_
    have := minutes_le hat; rw [h.get? (by omega)]
  have hrow : featureRow fl t (last - 30 * minute) (last + minute) limit sourceSnapshotHash
      receiptAt evaluationClass = featureRow fl t' (last - 30 * minute) (last + minute) limit
      sourceSnapshotHash receiptAt evaluationClass := by
    funext symbol; unfold featureRow
    rw [h.panel (by omega), h.panel (by omega)]
  simp only [hcomplete, hrow]

theorem Agree.buildFeaturesIndexed (h : Agree limit t t') (calendar : XNYSSessionSequence)
    (symbols : List String) (sourceSnapshotHash : String) (receiptAt : Int)
    (evaluationClass : EvidenceClass) :
    buildFeaturesIndexed fl t calendar limit symbols sourceSnapshotHash receiptAt evaluationClass =
      buildFeaturesIndexed fl t' calendar limit symbols sourceSnapshotHash receiptAt
        evaluationClass := by
  unfold Intraday.buildFeaturesIndexed; simp only [h.cohortAt]

end Agree

variable {decisionAt receiptAt : Int}

/-- **Features have no look-ahead.** -/
theorem buildFeatures_agree {bars' : List Bar} {t' : Indexed}
    (h : AgreeUpTo decisionAt bars bars') (ht : index bars = .ok t) (ht' : index bars' = .ok t')
    (calendar : XNYSSessionSequence) (symbols : List String) (sourceSnapshotHash : String)
    (receiptAt : Int) :
    buildFeatures fl bars calendar decisionAt symbols sourceSnapshotHash receiptAt =
      buildFeatures fl bars' calendar decisionAt symbols sourceSnapshotHash receiptAt := by
  unfold buildFeatures; rw [ht, ht']
  exact (h.indexed ht ht').buildFeaturesIndexed calendar symbols sourceSnapshotHash receiptAt _

/-! ## A whole cohort -/

variable {sourceSnapshotHash : String} {sourceSnapshotHash : String} {receiptAt : Int}

variable {evaluationClass : EvidenceClass}

theorem featureRow_ok {t : Indexed} {first featureAt decisionAt : Int} {symbol : String}
    {row : IntradayFeatureRow F} (h : featureRow fl t first featureAt decisionAt sourceSnapshotHash
      receiptAt evaluationClass symbol = .ok row) :
    row.symbol = symbol ∧ row.decisionAt = decisionAt ∧ row.targetAt = featureAt + horizon := by
  unfold featureRow at h; obtain ⟨_, _, h⟩ := except_bind_ok.1 h
  obtain ⟨_, _, h⟩ := except_bind_ok.1 h; obtain ⟨_, _, h⟩ := except_bind_ok.1 h
  have hfields := FeatureFields.construct_ok fl h
  exact ⟨congrArg (·.symbol) hfields, congrArg (·.decisionAt) hfields,
    congrArg (·.targetAt) hfields⟩

/-- What a cohort that is built has in common. -/
structure Cohort (symbols : List String) (decisionAt : Int) (rows : List (IntradayFeatureRow F)) :
    Prop where
  whole : rows = [] ∨ rows.map (·.symbol) = sorted symbols
  decided : ∀ row ∈ rows, row.decisionAt = decisionAt
  shared : ∀ row ∈ rows, ∀ row' ∈ rows, row.targetAt = row'.targetAt

theorem Cohort.nil (symbols : List String) (decisionAt : Int) :
    Cohort (F := F) symbols decisionAt [] :=
  ⟨.inl rfl, fun _ h => absurd h List.not_mem_nil, fun _ h => absurd h List.not_mem_nil⟩

variable {calendar : XNYSSessionSequence} {symbols : List String}

variable {rows : List (IntradayFeatureRow F)}

theorem buildFeaturesIndexed_cohort {t : Indexed} {decisionAt : Int}
    (h : buildFeaturesIndexed fl t calendar decisionAt symbols sourceSnapshotHash receiptAt
      evaluationClass = .ok rows) : Cohort symbols decisionAt rows := by
  unfold buildFeaturesIndexed at h; obtain ⟨_, _, h⟩ := except_bind_ok.1 h
  obtain ⟨_, _, h⟩ := except_bind_ok.1 h; split at h
  · cases h; exact .nil symbols decisionAt
  unfold cohortAt at h; dsimp only at h; split at h
  · cases h; exact .nil symbols decisionAt
  repeat' split at h
  · cases h; exact .nil symbols decisionAt
  · cases h; exact .nil symbols decisionAt
  · cases h; exact .nil symbols decisionAt
  · refine ⟨.inr ?_, fun row hrow => ?_, fun row hrow row' hrow' => ?_⟩
    · have := mapM_ok_map (g := id) (fun a b hab => (featureRow_ok hab).1) h
      rw [this, List.map_id]
    · obtain ⟨_, _, hab⟩ := mapM_ok_mem h row hrow
      exact (featureRow_ok hab).2.1
    · obtain ⟨_, _, hab⟩ := mapM_ok_mem h row hrow
      obtain ⟨_, _, hab'⟩ := mapM_ok_mem h row' hrow'
      rw [(featureRow_ok hab).2.2, (featureRow_ok hab').2.2]

/-- **All or none**: the features of a decision are of every symbol or of none. -/
theorem buildFeatures_cohort
    (h : buildFeatures fl bars calendar decisionAt symbols sourceSnapshotHash receiptAt = .ok rows) :
    Cohort symbols decisionAt rows := by
  obtain ⟨t, _, h⟩ := except_bind_ok.1 h; exact buildFeaturesIndexed_cohort h

/-! ## Labels -/

section Labels
variable {t t' : Indexed} {limit : Int}

variable {row : IntradayFeatureRow F}

theorem Agree.resolveIndexed (h : Agree limit t t') (htarget : row.targetAt ≤ limit)
    (receiptAt : Int) (sourceSnapshotHash : String) :
    resolveIndexed fl row t receiptAt sourceSnapshotHash =
      resolveIndexed fl row t' receiptAt sourceSnapshotHash := by
  unfold Intraday.resolveIndexed; rw [h.get? (by omega), h.get? (by omega)]

variable {bars : List Bar}

variable {sourceSnapshotHash : String} {label : IntradayLabel F}

theorem resolveIndexed_ok
    (h : resolveIndexed fl row t receiptAt sourceSnapshotHash = .ok (some label)) :
    label.features = row := by
  unfold Intraday.resolveIndexed at h; split at h
  · obtain ⟨_, _, h⟩ := except_bind_ok.1 h
    obtain ⟨_, _, h⟩ := except_bind_ok.1 h
    obtain ⟨found, hfound, h⟩ := except_bind_ok.1 h
    obtain rfl := Option.some.inj (Except.ok.inj h)
    exact congrArg (·.features) (LabelFields.construct_ok fl hfound)
  · cases h

/-- The label of a row, unless its target is still to come. -/
def labelOf (fl : Floats F) (t : Indexed) (observedAt : Int) (sourceSnapshotHash : String)
    (row : IntradayFeatureRow F) : Except IntradayError (Option (IntradayLabel F)) :=
  if observedAt < row.targetAt then pure none
  else resolveIndexed fl row t observedAt sourceSnapshotHash

variable {decisionAt observedAt start : Int}

theorem labelOf_ok (h : labelOf fl t observedAt sourceSnapshotHash row = .ok (some label)) :
    label.features = row := by
  unfold labelOf at h; split at h
  · cases h
  · exact resolveIndexed_ok h

variable {labels : List (IntradayLabel F)} {symbols : List String} {calendar : XNYSSessionSequence}

theorem labelsAt_ok
    (h : labelsAt fl t calendar symbols sourceSnapshotHash observedAt decisionAt = .ok labels) :
    ∃ rows found, buildFeaturesIndexed fl t calendar decisionAt symbols sourceSnapshotHash
        observedAt .exploratoryHistorical = .ok rows ∧
      rows.mapM (labelOf fl t observedAt sourceSnapshotHash) = .ok found ∧
      labels = found.filterMap id := by
  unfold labelsAt at h; obtain ⟨_, _, h⟩ := except_bind_ok.1 h
  obtain ⟨rows, hrows, h⟩ := except_bind_ok.1 h
  obtain ⟨found, hfound, h⟩ := except_bind_ok.1 h
  exact ⟨rows, found, hrows, hfound, (Except.ok.inj h).symm⟩

theorem labelsAt_row
    (h : labelsAt fl t calendar symbols sourceSnapshotHash observedAt decisionAt = .ok labels) :
    ∃ rows : List (IntradayFeatureRow F), Cohort symbols decisionAt rows ∧
      ∀ l ∈ labels, l.features ∈ rows := by
  obtain ⟨rows, found, hrows, hfound, rfl⟩ := labelsAt_ok h
  refine ⟨rows, buildFeaturesIndexed_cohort hrows, fun l hl => ?_⟩
  obtain ⟨o, ho, rfl⟩ := List.mem_filterMap.1 hl
  obtain ⟨row, hrow, hlabel⟩ := mapM_ok_mem hfound _ ho; rw [labelOf_ok hlabel]
  exact hrow

theorem target_after (row : IntradayFeatureRow F) : row.decisionAt < row.targetAt := by
  have htarget := row.target; have hdecision := row.completed.2
  unfold horizon minute at *; omega

/-- The labels with a target before `start`. -/
def before (start : Int) (l : IntradayLabel F) : Bool := l.features.targetAt < start

variable {start : Int}

/-- Rows whose outcomes agree before `start` give the same labels before it. -/
theorem filter_resolved {f f' : IntradayFeatureRow F →
      Except IntradayError (Option (IntradayLabel F))}
    (h : ∀ row o o', f row = .ok o → f' row = .ok o' → o.filter (before start) =
      o'.filter (before start))
    {found found' : List (Option (IntradayLabel F))} (hf : rows.mapM f = .ok found)
    (hf' : rows.mapM f' = .ok found') :
    (found.filterMap id).filter (before start) = (found'.filterMap id).filter (before start) := by
  induction rows generalizing found found' with
  | nil =>
    obtain rfl : [] = found := Except.ok.inj hf
    obtain rfl : [] = found' := Except.ok.inj hf'; rfl
  | cons row rows ih =>
    rw [List.mapM_cons] at hf hf'; obtain ⟨o, ho, hf⟩ := except_bind_ok.1 hf
    obtain ⟨rest, hrest, hf⟩ := except_bind_ok.1 hf
    obtain rfl : o :: rest = found := Except.ok.inj hf
    obtain ⟨o', ho', hf'⟩ := except_bind_ok.1 hf'
    obtain ⟨rest', hrest', hf'⟩ := except_bind_ok.1 hf'
    obtain rfl : o' :: rest' = found' := Except.ok.inj hf'
    have hhead := h row o o' ho ho'; have htail := ih hrest hrest'
    have hsplit : ∀ (o : Option (IntradayLabel F)) (rest : List (Option (IntradayLabel F))),
        ((o :: rest).filterMap id).filter (before start) =
          (o.filter (before start)).toList ++ (rest.filterMap id).filter (before start) := by
      intro o rest
      cases o with
      | none => rfl
      | some l => cases hl : before start l <;> simp [Option.filter, hl]
    rw [hsplit, hsplit, hhead, htail]

theorem Agree.labelsAt (h : Agree (start - 1) t t') {labels' : List (IntradayLabel F)}
    (hl : labelsAt fl t calendar symbols sourceSnapshotHash observedAt decisionAt = .ok labels)
    (hl' : labelsAt fl t' calendar symbols sourceSnapshotHash observedAt decisionAt = .ok labels') :
    labels.filter (before start) = labels'.filter (before start) := by
  by_cases hdecision : decisionAt < start
  · obtain ⟨rows, found, hrows, hfound, rfl⟩ := labelsAt_ok hl
    obtain ⟨rows', found', hrows', hfound', rfl⟩ := labelsAt_ok hl'
    have hsame : Intraday.buildFeaturesIndexed fl t calendar decisionAt symbols sourceSnapshotHash
        observedAt .exploratoryHistorical = Intraday.buildFeaturesIndexed fl t' calendar decisionAt
        symbols sourceSnapshotHash observedAt .exploratoryHistorical :=
      (h.mono (by omega : decisionAt ≤ start - 1)).buildFeaturesIndexed calendar symbols
        sourceSnapshotHash observedAt .exploratoryHistorical
    rw [hrows, hrows'] at hsame; cases hsame
    refine filter_resolved (fun row o o' ho ho' => ?_) hfound hfound'
    by_cases htarget : row.targetAt < start
    · have heq : labelOf fl t observedAt sourceSnapshotHash row =
          labelOf fl t' observedAt sourceSnapshotHash row := by
        unfold labelOf; rw [h.resolveIndexed (by omega)]
      rw [heq, ho'] at ho; rw [Except.ok.inj ho]
    · have hnone : ∀ (t : Indexed) (o : Option (IntradayLabel F)),
          labelOf fl t observedAt sourceSnapshotHash row = .ok o →
          o.filter (before start) = none := by
        intro t o ho
        cases o with
        | none => rfl
        | some l =>
          have hbefore : before start l = false := by
            unfold before; rw [labelOf_ok ho]; exact decide_eq_false htarget
          simp [Option.filter, hbefore]
      rw [hnone t o ho, hnone t' o' ho']
  · -- a decision at or after the instant has its targets after it
    have hnone : ∀ (t : Indexed) (labels : List (IntradayLabel F)),
        Intraday.labelsAt fl t calendar symbols sourceSnapshotHash observedAt decisionAt =
          .ok labels →
        labels.filter (before start) = [] := by
      intro t labels hl; obtain ⟨rows, hcohort, hrows⟩ := labelsAt_row hl
      refine List.filter_eq_nil_iff.2 fun l hmem hbefore => ?_
      have hafter := target_after l.features
      rw [hcohort.decided _ (hrows l hmem)] at hafter
      have := of_decide_eq_true hbefore; omega
    rw [hnone t labels hl, hnone t' labels' hl']

variable {times : List Int} {observedAt : Int} {times : List Int} {labels : List (IntradayLabel F)}

variable {bars : List Bar}

theorem historical_ok
    (h : buildHistoricalLabels fl bars calendar times symbols sourceSnapshotHash observedAt =
      .ok labels) : ∃ t found, index bars = .ok t ∧ (times.insertionSort (· ≤ ·)).mapM
      (Intraday.labelsAt fl t calendar symbols sourceSnapshotHash observedAt) = .ok found ∧
      labels = found.flatten := by
  unfold buildHistoricalLabels at h; obtain ⟨_, _, h⟩ := except_bind_ok.1 h
  obtain ⟨t, ht, h⟩ := except_bind_ok.1 h
  obtain ⟨found, hfound, h⟩ := except_bind_ok.1 h
  exact ⟨t, found, ht, hfound, (Except.ok.inj h).symm⟩

theorem Agree.flatten (h : Agree (start - 1) t t') {found found' : List (List (IntradayLabel F))}
    (hf : times.mapM (Intraday.labelsAt fl t calendar symbols sourceSnapshotHash observedAt) =
      .ok found)
    (hf' : times.mapM (Intraday.labelsAt fl t' calendar symbols sourceSnapshotHash observedAt) =
      .ok found') : found.flatten.filter (before start) = found'.flatten.filter (before start) := by
  induction times generalizing found found' with
  | nil =>
    obtain rfl : [] = found := Except.ok.inj hf
    obtain rfl : [] = found' := Except.ok.inj hf'; rfl
  | cons d times ih =>
    rw [List.mapM_cons] at hf hf'; obtain ⟨ls, hls, hf⟩ := except_bind_ok.1 hf
    obtain ⟨rest, hrest, hf⟩ := except_bind_ok.1 hf
    obtain rfl : ls :: rest = found := Except.ok.inj hf
    obtain ⟨ls', hls', hf'⟩ := except_bind_ok.1 hf'
    obtain ⟨rest', hrest', hf'⟩ := except_bind_ok.1 hf'
    obtain rfl : ls' :: rest' = found' := Except.ok.inj hf'
    rw [List.flatten_cons, List.flatten_cons, List.filter_append, List.filter_append,
      h.labelsAt hls hls', ih hrest hrest']

/-- **Labels have no look-ahead**: two histories that agree on the bars complete before an
instant give the same labels with a target before it. -/
theorem historical_agree {bars bars' : List Bar}
    (h : AgreeUpTo (start - 1) bars bars') {labels labels' : List (IntradayLabel F)}
    (hl : buildHistoricalLabels fl bars calendar times symbols sourceSnapshotHash observedAt =
      .ok labels)
    (hl' : buildHistoricalLabels fl bars' calendar times symbols sourceSnapshotHash observedAt =
      .ok labels') : labels.filter (before start) = labels'.filter (before start) := by
  obtain ⟨t, found, ht, hfound, rfl⟩ := historical_ok hl
  obtain ⟨t', found', ht', hfound', rfl⟩ := historical_ok hl'
  exact (h.indexed ht ht').flatten hfound hfound'

theorem historical_target
    (h : buildHistoricalLabels fl bars calendar times symbols sourceSnapshotHash observedAt =
      .ok labels) : ∀ l ∈ labels, ∀ l' ∈ labels, l.features.decisionAt = l'.features.decisionAt →
      l.features.targetAt = l'.features.targetAt := by
  obtain ⟨t, found, _, hfound, rfl⟩ := historical_ok h
  -- both come from the rows that one call of `labelsAt` built
  have hof : ∀ l ∈ found.flatten, ∃ ls, Intraday.labelsAt fl t calendar symbols sourceSnapshotHash
      observedAt l.features.decisionAt = .ok ls ∧ l ∈ ls := by
    intro l hl; obtain ⟨ls, hls, hmem⟩ := List.mem_flatten.1 hl
    obtain ⟨d, _, hd⟩ := mapM_ok_mem hfound ls hls
    obtain ⟨rows, hcohort, hrows⟩ := labelsAt_row hd
    rw [hcohort.decided _ (hrows l hmem)]; exact ⟨ls, hd, hmem⟩
  intro l hl l' hl' hsame; obtain ⟨ls, hls, hmem⟩ := hof l hl
  obtain ⟨ls', hls', hmem'⟩ := hof l' hl'; rw [hsame, hls'] at hls; cases hls
  obtain ⟨rows, hcohort, hrows⟩ := labelsAt_row hls'
  exact hcohort.shared _ (hrows l hmem) _ (hrows l' hmem')

end Labels

/-! ## Fits -/

section Fits
variable {labels labels' : List (IntradayLabel F)} {start : Int}

/-- The order in which labels are fitted. -/
def ByDecision (a b : IntradayLabel F) : Prop :=
  a.features.decisionAt < b.features.decisionAt ∨
    a.features.decisionAt = b.features.decisionAt ∧ a.features.symbol ≤ b.features.symbol
deriving Decidable

instance : IsTrans (IntradayLabel F) ByDecision := ⟨fun _ _ _ => lex_trans⟩

instance : Std.Total (α := IntradayLabel F) ByDecision := ⟨fun _ _ => lex_total⟩

theorem ordered_perm (labels : List (IntradayLabel F)) : (ordered labels).Perm labels :=
  List.perm_insertionSort _ labels

theorem ordered_pairwise (labels : List (IntradayLabel F)) : (ordered labels).Pairwise ByDecision :=
  List.pairwise_insertionSort ByDecision labels

theorem mem_trainingOf {l : IntradayLabel F} :
    l ∈ trainingOf labels start ↔ l ∈ labels ∧ l.features.targetAt < start := by
  unfold trainingOf
  rw [List.mem_filter, (ordered_perm labels).mem_iff, decide_eq_true_eq]

/-- **What is fitted** is settled by the labels with a target before the boundary. -/
theorem trainingOf_congr (hkeys : (labels.map IntradayLabel.key).Nodup)
    (hkeys' : (labels'.map IntradayLabel.key).Nodup)
    (h : ∀ l : IntradayLabel F, l.features.targetAt < start → (l ∈ labels ↔ l ∈ labels')) :
    trainingOf labels start = trainingOf labels' start := by
  have hmem : ∀ l, l ∈ trainingOf labels start ↔ l ∈ trainingOf labels' start := by
    intro l; rw [mem_trainingOf, mem_trainingOf]
    exact and_congr_left fun hbefore => h l hbefore
  have hnodup : ∀ labels : List (IntradayLabel F), (labels.map IntradayLabel.key).Nodup →
      (trainingOf labels start).Nodup := fun labels hkeys =>
    List.Nodup.filter _ ((ordered_perm labels).nodup_iff.2 (List.Nodup.of_map _ hkeys))
  have hperm : (trainingOf labels start).Perm (trainingOf labels' start) :=
    (List.perm_ext_iff_of_nodup (hnodup labels hkeys) (hnodup labels' hkeys')).2 hmem
  refine hperm.eq_of_pairwise (fun a b ha hb hab hba => ?_)
    ((ordered_pairwise labels).filter _) ((ordered_pairwise labels').filter _)
  -- two labels that are each not after the other have one key
  obtain ⟨hdecision, hsymbol⟩ := lex_antisymm hab hba
  have hkey : a.key = b.key := Prod.ext hsymbol hdecision
  have ha' := (mem_trainingOf.1 ((hmem a).1 ha)).1
  exact List.inj_on_of_nodup_map hkeys' ha' (mem_trainingOf.1 hb).1 hkey

/-- The fitted estimator and its lineage. -/
structure Fit (F : Type) where
  artifact : FittedEstimator F
  trainingStart : Int
  trainingEnd : Int
  trainingCount : ℕ
  trainingLabelIds : List String
  trainingDataHash : String
deriving DecidableEq

def IntradayModel.fit (m : IntradayModel F) : Fit F :=
  ⟨m.artifact, m.trainingStart, m.trainingEnd, m.trainingCount, m.trainingLabelIds,
    m.trainingDataHash⟩

/-! ### The roster -/

theorem mem_rosterOf {symbol : String} :
    symbol ∈ rosterOf labels ↔ ∃ l ∈ labels, l.features.symbol = symbol := by
  unfold rosterOf sorted
  rw [List.mem_insertionSort, List.mem_dedup, List.mem_map]

theorem rosterOf_congr (hroster : completeRoster labels) (hroster' : completeRoster labels')
    (htarget : ∀ l ∈ labels, ∀ l' ∈ labels, l.features.decisionAt = l'.features.decisionAt →
      l.features.targetAt = l'.features.targetAt)
    (htarget' : ∀ l ∈ labels', ∀ l' ∈ labels', l.features.decisionAt = l'.features.decisionAt →
      l.features.targetAt = l'.features.targetAt)
    (h : ∀ l : IntradayLabel F, l.features.targetAt < start → (l ∈ labels ↔ l ∈ labels'))
    (hsome : trainingOf labels start ≠ []) : rosterOf labels = rosterOf labels' := by
  obtain ⟨l₀, hl₀⟩ := List.exists_mem_of_ne_nil _ hsome
  obtain ⟨hmem, hbefore⟩ := mem_trainingOf.1 hl₀
  have hmem' := (h l₀ hbefore).1 hmem
  have hsame : ∀ symbol, symbol ∈ rosterOf labels ↔ symbol ∈ rosterOf labels' := by
    intro symbol; constructor
    · intro hsymbol
      obtain ⟨l, hl, hdecision, hof⟩ := hroster l₀ hmem symbol hsymbol
      have hlt : l.features.targetAt < start := by
        rw [htarget l hl l₀ hmem hdecision]; exact hbefore
      exact mem_rosterOf.2 ⟨l, (h l hlt).1 hl, hof⟩
    · intro hsymbol
      obtain ⟨l, hl, hdecision, hof⟩ := hroster' l₀ hmem' symbol hsymbol
      have hlt : l.features.targetAt < start := by
        rw [htarget' l hl l₀ hmem' hdecision]; exact hbefore
      exact mem_rosterOf.2 ⟨l, (h l hlt).2 hl, hof⟩
  have hnodup : ∀ labels : List (IntradayLabel F), (rosterOf labels).Nodup := fun labels =>
    (List.perm_insertionSort _ _).nodup_iff.2 (List.nodup_dedup _)
  have hperm : (rosterOf labels).Perm (rosterOf labels') :=
    (List.perm_ext_iff_of_nodup (hnodup labels) (hnodup labels')).2 hsame
  exact hperm.eq_of_pairwise (fun a b _ _ => le_antisymm)
    (List.pairwise_insertionSort _ _) (List.pairwise_insertionSort _ _)

/-! ### The fitted model -/

variable [DecidableEq F] {est : Estimators F} {ids : LabelIds F} {createdAt : Int}
  {codeCommit family : String} {parent : Option String} {m : IntradayModel F}

theorem fitIntradayModel_ok (h : fitIntradayModel fl est ids labels start createdAt codeCommit
      family parent = .ok m) :
    (labels.map IntradayLabel.key).Nodup ∧ completeRoster labels ∧ trainingOf labels start ≠ [] ∧
      m.trainingSymbols = rosterOf labels ∧ m.validationStart = start ∧
      est.fit ((trainingOf labels start).map fun l => l.features.values)
        ((trainingOf labels start).map fun l => l.excessReturn) featureNames family
        (fl.ofDecimal 1) 0 = .ok m.artifact ∧
      extreme ((trainingOf labels start).map fun l => l.features.decisionAt).min? =
        .ok m.trainingStart ∧
      extreme ((trainingOf labels start).map fun l => l.features.targetAt).max? =
        .ok m.trainingEnd ∧ m.trainingCount = (trainingOf labels start).length ∧
      m.trainingLabelIds = (trainingOf labels start).map ids.label ∧
      m.trainingDataHash = ids.labels (trainingOf labels start) := by
  unfold fitIntradayModel at h; obtain ⟨_, _, h⟩ := except_bind_ok.1 h
  obtain ⟨_, hkeys, h⟩ := except_bind_ok.1 h
  obtain ⟨_, hroster, h⟩ := except_bind_ok.1 h
  obtain ⟨_, _, h⟩ := except_bind_ok.1 h
  obtain ⟨_, hsome, h⟩ := except_bind_ok.1 h
  obtain ⟨artifact, hartifact, h⟩ := except_bind_ok.1 h
  obtain ⟨_, _, h⟩ := except_bind_ok.1 h; obtain ⟨_, _, h⟩ := except_bind_ok.1 h
  obtain ⟨_, _, h⟩ := except_bind_ok.1 h; obtain ⟨_, _, h⟩ := except_bind_ok.1 h
  obtain ⟨trainingStart, hstart, h⟩ := except_bind_ok.1 h
  obtain ⟨trainingEnd, hend, h⟩ := except_bind_ok.1 h
  obtain ⟨_, _, h⟩ := except_bind_ok.1 h
  have hm := ModelFields.construct_ok fl h
  have hfield : ∀ {β : Type} (g : ModelFields F → β), g m.toModelFields = g _ :=
    fun g => congrArg g hm
  refine ⟨ensure_ok.1 hkeys, ensure_ok.1 hroster, (ensure_ok.1 hsome).1,
    hfield (·.trainingSymbols), hfield (·.validationStart), ?_, ?_, ?_, hfield (·.trainingCount),
    hfield (·.trainingLabelIds), hfield (·.trainingDataHash)⟩
  · rw [show m.artifact = artifact from hfield (·.artifact)]; exact hartifact
  · rw [show m.trainingStart = trainingStart from hfield (·.trainingStart)]
    exact hstart
  · rw [show m.trainingEnd = trainingEnd from hfield (·.trainingEnd)]
    exact hend

variable {m' : IntradayModel F}

/-- **A fit has no look-ahead**: two sets of labels that agree on the targets before the boundary
fit the same estimator, with the same lineage. -/
theorem fitted_eq {createdAt' : Int} {codeCommit' : String} {parent' : Option String}
    (h : ∀ l : IntradayLabel F, l.features.targetAt < start → (l ∈ labels ↔ l ∈ labels'))
    (hm : fitIntradayModel fl est ids labels start createdAt codeCommit family parent = .ok m)
    (hm' : fitIntradayModel fl est ids labels' start createdAt' codeCommit' family parent' =
      .ok m') : m.fit = m'.fit := by
  obtain ⟨hkeys, _, _, _, _, hfit, hstart, hend, hcount, hids, hhash⟩ := fitIntradayModel_ok hm
  obtain ⟨hkeys', _, _, _, _, hfit', hstart', hend', hcount', hids', hhash'⟩ :=
    fitIntradayModel_ok hm'
  rw [← trainingOf_congr hkeys hkeys' h] at hfit' hstart' hend' hcount' hids' hhash'
  unfold IntradayModel.fit
  rw [hcount, hids, hhash, hcount', hids', hhash', Except.ok.inj (hfit.symm.trans hfit'),
    Except.ok.inj (hstart.symm.trans hstart'), Except.ok.inj (hend.symm.trans hend')]

/-- **A model has no look-ahead** over bars: histories that agree on the bars complete before the
boundary fit the same estimator over the same roster, with the same lineage. -/
theorem fitted_agree {bars bars' : List Bar} (h : AgreeUpTo (start - 1) bars bars')
    {times : List Int} {observedAt : Int}
    (hl : buildHistoricalLabels fl bars calendar times symbols sourceSnapshotHash observedAt =
      .ok labels)
    (hl' : buildHistoricalLabels fl bars' calendar times symbols sourceSnapshotHash observedAt =
      .ok labels')
    (hm : fitIntradayModel fl est ids labels start createdAt codeCommit family parent = .ok m)
    (hm' : fitIntradayModel fl est ids labels' start createdAt codeCommit family parent = .ok m') :
    m.fit = m'.fit ∧ m.trainingSymbols = m'.trainingSymbols := by
  have hsame := historical_agree h hl hl'
  have hmem : ∀ l : IntradayLabel F, l.features.targetAt < start → (l ∈ labels ↔ l ∈ labels') := by
    intro l hlt; have hbefore : before start l = true := decide_eq_true hlt
    constructor
    · intro hin
      have hfilter : l ∈ labels.filter (before start) := List.mem_filter.2 ⟨hin, hbefore⟩
      rw [hsame] at hfilter; exact (List.mem_filter.1 hfilter).1
    · intro hin
      have hfilter : l ∈ labels'.filter (before start) := List.mem_filter.2 ⟨hin, hbefore⟩
      rw [← hsame] at hfilter; exact (List.mem_filter.1 hfilter).1
  refine ⟨fitted_eq hmem hm hm', ?_⟩
  obtain ⟨_, hroster, hsome, hsymbols, _⟩ := fitIntradayModel_ok hm
  obtain ⟨_, hroster', _, hsymbols', _⟩ := fitIntradayModel_ok hm'
  rw [hsymbols, hsymbols']
  exact rosterOf_congr hroster hroster' (historical_target hl) (historical_target hl') hmem hsome

theorem fitted_before (hm : fitIntradayModel fl est ids labels start createdAt codeCommit family
      parent = .ok m) :
    ∃ training : List (IntradayLabel F), m.trainingLabelIds = training.map ids.label ∧
      est.fit (training.map fun l => l.features.values) (training.map fun l => l.excessReturn)
        featureNames family (fl.ofDecimal 1) 0 = .ok m.artifact ∧
      ∀ l ∈ training, l ∈ labels ∧ l.features.targetAt < start := by
  obtain ⟨_, _, _, _, _, hfit, _, _, _, hids, _⟩ := fitIntradayModel_ok hm
  exact ⟨trainingOf labels start, hids, hfit, fun l hl => mem_trainingOf.1 hl⟩

end Fits

/-! ## Predictions -/

theorem PredictionFields.construct_ok {f : PredictionFields F} {p : IntradayPrediction F}
    (h : f.construct fl = .ok p) : p.toPredictionFields = f := by
  unfold PredictionFields.construct at h
  repeat' split at h
  all_goals cases h
  rfl

/-- **A prediction is of a model that existed** at its decision, and so did every target the model
was fitted or validated on. -/
theorem predict_existed {est : Estimators F} {modelId : IntradayModel F → String}
    {m : IntradayModel F} {features : List (IntradayFeatureRow F)} {recordedAt : Int}
    {predictions : List (IntradayPrediction F)}
    (h : predictIntraday fl est modelId m features recordedAt = .ok predictions) :
    ∀ p ∈ predictions, p.features ∈ features ∧ p.modelId = modelId m ∧
      m.createdAt ≤ p.features.decisionAt ∧ m.trainingEnd < p.features.decisionAt ∧
      m.validationEnd < p.features.decisionAt := by
  unfold predictIntraday at h; obtain ⟨_, _, h⟩ := except_bind_ok.1 h
  obtain ⟨_, hexisted, h⟩ := except_bind_ok.1 h
  obtain ⟨_, _, h⟩ := except_bind_ok.1 h; obtain ⟨_, _, h⟩ := except_bind_ok.1 h
  obtain ⟨scores, _, h⟩ := except_bind_ok.1 h
  obtain ⟨_, _, h⟩ := except_bind_ok.1 h; intro p hp
  obtain ⟨⟨row, score⟩, hzip, hconstruct⟩ := mapM_ok_mem h p hp
  have hfields := PredictionFields.construct_ok hconstruct
  have hrow : p.features = row := congrArg (·.features) hfields
  have hmem : row ∈ features := (List.of_mem_zip hzip).1
  have hcreated := ensure_ok.1 hexisted row hmem; have htrained := m.trained
  have hvalidated := m.validated; rw [hrow]
  exact ⟨hmem, congrArg (·.modelId) hfields, hcreated, by omega, by omega⟩

/-! ## No look-ahead -/

/-- Exact arithmetic; a deviation is computed of equal values only. -/
def exactly : Floats ℚ where
  ofDecimal := id
  sub := (· - ·)
  div a b := if b = 0 then none else some (a / b)
  square a := some (a * a)
  fmean xs := if xs = [] then none else some (xs.sum / xs.length)
  pstdev xs := match xs with
    | [] => none
    | x :: rest => if ∀ y ∈ rest, y = x then some 0 else none
  finite _ := true
  positive x := 0 < x
  nonneg x := 0 ≤ x

/-- The family `mean`. -/
def average : Estimators ℚ where
  fit rows targets names family alpha seed := .ok
    { family := family
      featureNames := names
      means := names.map fun _ => 0
      scales := names.map fun _ => 1
      coefficients := names.map fun _ => 0
      intercept := targets.sum / rows.length
      alpha := alpha
      trainingMse := 0
      seed := seed
      algorithmVersion := "1" }
  predict artifact rows := .ok (rows.map fun _ => artifact.intercept)

def decisionIds : LabelIds ℚ where
  label l := l.features.symbol ++ toString l.features.decisionAt
  labels ls := String.join (ls.map fun l => l.features.symbol ++ toString l.features.decisionAt)

def twoDays : XNYSSessionSequence where
  calendar := .xnys
  sessions := [⟨0, 0, 360 * minute, by decide, by decide, by decide⟩,
    ⟨1, 1440 * minute, 1800 * minute, by decide, by decide, by decide⟩]
  two_le := by decide
  ordered := by decide

def minuteBar (symbol : String) (i : Int) (close : ℚ) (h : 0 < close) : Bar :=
  ⟨symbol, i * minute, close, close, close, close, 1, 1, h, le_refl _, le_refl _, le_refl _,
    le_refl _, L1.unit_nonneg, L1.unit_pos⟩

/-- `n` flat minutes of the asset and of the market. -/
def flat (first : Int) (n : ℕ) : List Bar :=
  (List.range n).flatMap fun (i : ℕ) =>
    [minuteBar "A" (first + i) 1 L1.unit_pos, minuteBar "SPY" (first + i) 1 L1.unit_pos]

/-- An hour, and the minute an hour and a half on: its close is `close`. -/
def history (close : ℚ) (h : 0 < close) : List Bar :=
  flat 0 62 ++ [minuteBar "SPY" 91 1 L1.unit_pos] ++ [minuteBar "A" 91 close h]

/-- The labels of decisions after half an hour and after an hour. -/
def labelsOf (close : ℚ) (h : 0 < close) : Except IntradayError (List (IntradayLabel ℚ)) :=
  buildHistoricalLabels exactly (history close h) twoDays [31 * minute, 62 * minute] ["A"] "bars"
    (100 * minute)

def fitOf (labels : List (IntradayLabel ℚ)) : Except IntradayError (IntradayModel ℚ) :=
  fitIntradayModel exactly average decisionIds labels (62 * minute) (101 * minute) "commit" "mean"
    none

theorem agree_last {limit : Int} (early : List Bar) {late late' : Bar}
    (h : limit < late.timestamp + minute) (h' : limit < late'.timestamp + minute) :
    AgreeUpTo limit (early ++ [late]) (early ++ [late']) := by
  intro b hb
  rw [List.mem_append, List.mem_append, List.mem_singleton, List.mem_singleton]
  have hne : b ≠ late := fun heq => by
    rw [heq] at hb; omega
  have hne' : b ≠ late' := fun heq => by
    rw [heq] at hb; omega
  simp only [hne, hne']

theorem history_agree {limit : Int} (hlimit : limit < 92 * minute) {close close' : ℚ}
    (h : 0 < close) (h' : 0 < close') : AgreeUpTo limit (history close h) (history close' h') :=
  agree_last _ (by change limit < 91 * minute + minute; unfold minute at *; omega)
    (by change limit < 91 * minute + minute; unfold minute at *; omega)

/-- The hour of bars before a last one. -/
def recent (close : ℚ) (h : 0 < close) : List Bar :=
  flat 30 31 ++ [minuteBar "A" 91 close h]

theorem forecast_flat : (do
    let labels ← labelsOf 1 (by decide)
    let m ← fitOf labels
    let rows ← buildFeatures exactly (flat 102 31) twoDays (133 * minute) ["A"] "bars"
      (133 * minute)
    let predictions ← predictIntraday exactly average (·.codeCommit) m rows (134 * minute)
    pure (m.validationMse, predictions.length)) = .ok (0, 1) := by decide +kernel

theorem scored_last : (do
    let labels ← labelsOf 2 (by decide)
    let m ← fitOf labels
    pure m.validationMse) = .ok 1 := by decide +kernel

end Quantbot.L4.Intraday
