import Mathlib.Data.List.MinMax
import Mathlib.Data.String.Basic
import Quantbot.Core.ChunkedReads
import Quantbot.Core.Ordered
import Quantbot.L4PaperCore.Procedure

/-!
# What a cutoff selects

`_select` (`paper_core/learning.py:238-349`) over the revisions of `_revision_metadata`: of each
lot the last revision available at the cutoff, those that are causal, complete and free of
holds, in the order they ended.

The quarantined lots, those with work pending, the holds on a range of days and the day of an
instant in New York are given (`Holds`). The instants of a row are read beforehand; one that is
no instant is `none`, as a missing one is.

* `select_visible`: what is selected depends on the revisions available at the cutoff.
* `mem_foldOf`, `foldOf_visible`: so do the rows a fold trains on, which end the embargo before
  its validation.
-/
namespace Quantbot.L4.Procedure

open Core L2 Learning

/-! ## Revisions -/

/-- The metadata of an outcome revision; `availableText` is `str(row["available_at"])`. -/
structure Revision where
  outcomeId : String
  lotId : String
  revision : Option ℕ := some 1
  availableText : String
  availableAt : Option Int
  sourceStart : Option Int
  sourceEnd : Option Int
  sessionClose : Option Int
  dataset : String
  policyId : String
  evidenceLane : EvidenceLane
  featureVersion : String
  featureContext : Option String := some "REGULAR_SESSION_V1"
  status : TripStatus
  costReason : Option String := none
deriving DecidableEq

/-- `int(r["revision"] or 1)`. -/
def Revision.number (r : Revision) : ℕ :=
  match r.revision with
  | none => 1
  | some 0 => 1
  | some n => n

/-- The key of `max`: the revision, the text of its time, its id.
mirrors learning.py:226-234 -/
def Revision.Before (a b : Revision) : Prop :=
  a.number < b.number ∨ a.number = b.number ∧ (a.availableText < b.availableText ∨
    a.availableText = b.availableText ∧ a.outcomeId < b.outcomeId)
deriving Decidable

/-- `max(pool, key=..)`: the first of the greatest. -/
def latest (pool : List Revision) : Option Revision :=
  pool.foldl (fun best r =>
    match best with
    | none => some r
    | some b => if b.Before r then some r else some b) none

def Revision.Visible (cutoff : Int) (r : Revision) : Prop := ∃ at_ ∈ r.availableAt, at_ ≤ cutoff
deriving Decidable

/-- mirrors learning.py:215-235 -/
def revisionMetadata (revisions : List Revision) (cutoff : Int) : List Revision :=
  (revisions.map (·.lotId)).eraseDups.filterMap fun lot =>
    let history := revisions.filter fun r => decide (r.lotId = lot)
    let eligible := history.filter fun r => decide (r.Visible cutoff)
    latest (if eligible = [] then history else eligible)

/-! ## Selection -/

/-- What else the selection reads, at its execution. -/
structure Holds where
  now : Int
  quarantined : String → Bool
  pending : String → Bool
  /-- `_guard` of the days of two instants. -/
  guard : Int → Int → Option String
  newYorkDay : Int → Int

def grossStatus (policy : LearningPolicy) (row : Revision) : Prop :=
  policy.targetContract = grossContract ∧ row.status = .costsPending ∧
    row.costReason = some "FEE_UNAVAILABLE"
deriving Decidable

/-- A row, or why it is excluded.
mirrors learning.py:281-330 -/
def screen (h : Holds) (policy : LearningPolicy) (cutoff : Int) (row : Revision) :
    Except String OutcomeRow :=
  if h.quarantined row.lotId then .error "LOT_EVIDENCE_QUARANTINED"
  else if h.pending row.lotId then .error "OUTCOME_RECONCILIATION_PENDING"
  else if row.featureContext ≠ none ∧ row.featureContext ≠ some "REGULAR_SESSION_V1" then
    .error "OPENING_CONTEXT_REQUIRES_SEPARATE_VALIDATION"
  else if row.dataset ≠ policy.dataset ∨ row.policyId ≠ policy.policyId ∨
      row.evidenceLane ≠ policy.evidenceLane ∨ row.featureVersion ≠ fiveMinuteVersion then
    .error "INCOMPATIBLE_CONTRACT_OR_LANE"
  else
    match row.sourceStart, row.sourceEnd, row.availableAt, row.sessionClose with
    | some start, some finish, some available, some close =>
      if finish ≤ start ∨ available < finish then .error "NONCAUSAL_METADATA"
      else if cutoff < available ∨ cutoff < finish then .error "UNAVAILABLE_AT_CUTOFF"
      else if h.now < available ∨ h.now < finish then .error "UNAVAILABLE_AT_EXECUTION"
      else if row.status ≠ .complete ∧ ¬ grossStatus policy row then .error "COSTS_PENDING"
      else if min cutoff h.now < close then .error "SESSION_NOT_COMPLETED"
      else
        match h.guard start finish with
        | some reason => .error reason
        | none => .ok
          { outcomeId := row.outcomeId, lotId := row.lotId, session := h.newYorkDay finish
            start, finish, availableAt := available, sessionClose := close }
    | _, _, _, _ => .error "NONCAUSAL_METADATA"

/-- `sorted(rows, key=lambda r: (r["end"], r["outcome_id"]))`. -/
def Ended (a b : OutcomeRow) : Prop :=
  a.finish < b.finish ∨ a.finish = b.finish ∧ a.outcomeId ≤ b.outcomeId
deriving Decidable

/-- The rows the screening admits, with what excludes the others. -/
def screened (h : Holds) (policy : LearningPolicy) (cutoff : Int) (metadata : List Revision) :
    List OutcomeRow :=
  metadata.filterMap fun row => (screen h policy cutoff row).toOption

/-- The days a policy takes rows of: the last sixty of the fixed split, else all of them. -/
def sessionsOf (policy : LearningPolicy) (rows : List OutcomeRow) : List Int :=
  match policy.procedureVersion with
  | none => (sessionDays rows).drop ((sessionDays rows).length - 60)
  | some _ => sessionDays rows

/-- Why a row of the sorted ones is left out, after those selected so far.
mirrors learning.py:335-345 -/
def overlapReason (policy : LearningPolicy) (days : List Int) (selected : List OutcomeRow)
    (row : OutcomeRow) : Option String :=
  if row.session ∉ days then some "OUTSIDE_LAST_60_SESSIONS"
  else if policy.procedureVersion ≠ some explorationVersion ∧
      (∃ last ∈ selected.getLast?, row.start < last.finish) then
    some "INTERSECTING_FEATURE_HOLDING_WINDOW"
  else none

/-- mirrors learning.py:334-348 -/
def disjoint (policy : LearningPolicy) (days : List Int) (rows : List OutcomeRow) :
    List OutcomeRow × List (String × String) :=
  rows.foldl (fun acc row =>
    match overlapReason policy days acc.1 row with
    | some reason => (acc.1, acc.2 ++ [(row.outcomeId, reason)])
    | none => (acc.1 ++ [row], acc.2)) ([], [])

/-- mirrors learning.py:238-349 -/
def select (h : Holds) (policy : LearningPolicy) (metadata : List Revision) (cutoff : Int) :
    Selection :=
  let rows := screened h policy cutoff metadata
  let excluded := metadata.filterMap fun row =>
    match screen h policy cutoff row with
    | .ok _ => none
    | .error reason => some (row.outcomeId, reason)
  let kept := disjoint policy (sessionsOf policy rows) (rows.insertionSort Ended)
  { rows := kept.1
    excluded := (excluded ++ kept.2).insertionSort fun a b => a.1 < b.1 ∨ a.1 = b.1 ∧ a.2 ≤ b.2
    considered := (metadata.map (·.outcomeId)).insertionSort (· ≤ ·) }

/-- `_select` of a daily policy at a cutoff. -/
def selectAt (h : Holds) (policy : LearningPolicy) (revisions : List Revision) (cutoff : Int) :
    Selection :=
  select h policy (revisionMetadata revisions cutoff) cutoff

/-! ## The last revision -/

variable {a b r : Revision} {pool pool' revisions revisions' : List Revision}

/-- What `max` compares of a revision. -/
def Revision.place (r : Revision) := toLex (r.number, toLex (r.availableText, r.outcomeId))

theorem Revision.before_iff : a.Before b ↔ a.place < b.place := by
  simp only [Revision.Before, Revision.place, Prod.Lex.toLex_lt_toLex]

theorem latest_eq_argmax : latest pool = pool.argmax Revision.place := by
  unfold latest List.argmax; congr 1; funext best r
  cases best with
  | none => rfl
  | some b => simp only [List.argAux, Revision.before_iff]

theorem latest_some (h : latest pool = some r) : r ∈ pool ∧ ∀ b ∈ pool, ¬ r.Before b := by
  rw [latest_eq_argmax] at h; refine ⟨List.argmax_mem h, fun b hb hlater => ?_⟩
  exact List.not_lt_of_mem_argmax hb h (Revision.before_iff.1 hlater)

/-- **The last revision is one alone**, where ids are distinct. -/
theorem latest_eq (hids : ∀ a ∈ pool, ∀ b ∈ pool, a.outcomeId = b.outcomeId → a = b)
    (hr : r ∈ pool) (hlast : ∀ b ∈ pool, ¬ r.Before b) : latest pool = some r := by
  obtain ⟨x, hx⟩ := Option.ne_none_iff_exists'.1 fun hnone : latest pool = none =>
    List.ne_nil_of_mem hr (List.argmax_eq_none.1 (latest_eq_argmax.symm.trans hnone))
  obtain ⟨hin, hlater⟩ := latest_some hx
  have hplace : x.place = r.place :=
    le_antisymm (not_lt.1 fun hlt => hlast x hin (Revision.before_iff.2 hlt))
      (not_lt.1 fun hlt => hlater r hr (Revision.before_iff.2 hlt))
  rw [hx, hids x hin r hr (Prod.mk.inj (toLex_inj.1 (Prod.mk.inj (toLex_inj.1 hplace)).2)).2]

/-! ## What is visible -/

section Visible

variable {h : Holds} {policy : LearningPolicy} {cutoff : Int} {o : OutcomeRow}

/-- The ids of stored revisions are distinct. -/
def DistinctIds (revisions : List Revision) : Prop := (revisions.map (·.outcomeId)).Nodup
deriving Decidable

/-- A row of the screen was available and over at the cutoff, and ended before it was available. -/
theorem screen_ok (hs : screen h policy cutoff r = .ok o) :
    r.Visible cutoff ∧ o.outcomeId = r.outcomeId ∧ o.lotId = r.lotId ∧
      r.availableAt = some o.availableAt ∧ r.sourceEnd = some o.finish ∧
      o.availableAt ≤ cutoff ∧ o.finish ≤ cutoff ∧ o.start < o.finish ∧
      o.finish ≤ o.availableAt := by
  unfold screen at hs; split at hs
  · cases hs
  split at hs
  · cases hs
  split at hs
  · cases hs
  split at hs
  · cases hs
  split at hs
  · rename_i start finish available close _ hfinish havailable _; split at hs
    · cases hs
    split at hs
    · cases hs
    split at hs
    · cases hs
    split at hs
    · cases hs
    split at hs
    · cases hs
    split at hs
    · cases hs
    cases hs; have hav : available ≤ cutoff := by omega
    exact ⟨⟨available, havailable, hav⟩, rfl, rfl, havailable, hfinish, hav,
      by dsimp only; omega, by dsimp only; omega, by dsimp only; omega⟩
  · cases hs

/-- **Of each lot, the last revision visible at the cutoff is screened**, and no other. -/
theorem mem_screened (hids : DistinctIds revisions) :
    o ∈ screened h policy cutoff (revisionMetadata revisions cutoff) ↔
      ∃ r ∈ revisions, r.Visible cutoff ∧ screen h policy cutoff r = .ok o ∧
        ∀ b ∈ revisions, b.lotId = r.lotId → b.Visible cutoff → ¬ r.Before b := by
  have hinj : ∀ a ∈ revisions, ∀ b ∈ revisions, a.outcomeId = b.outcomeId → a = b :=
    fun a ha b hb hid => List.inj_on_of_nodup_map hids ha hb hid
  unfold screened revisionMetadata; rw [List.mem_filterMap]; constructor
  · rintro ⟨r, hr, hscreen⟩
    have hok : screen h policy cutoff r = .ok o := by
      cases hx : screen h policy cutoff r with
      | error e =>
        rw [hx] at hscreen; cases hscreen
      | ok x =>
        rw [hx] at hscreen; rw [Option.some.inj hscreen]
    obtain ⟨hvisible, _⟩ := screen_ok hok; rw [List.mem_filterMap] at hr
    obtain ⟨lot, _, hlatest⟩ := hr; obtain ⟨hpool, hlast⟩ := latest_some hlatest
    have hhistory : r ∈ revisions.filter fun x => decide (x.lotId = lot) := by
      split at hpool
      · exact hpool
      · exact (List.mem_filter.1 hpool).1
    obtain ⟨hin, hlot⟩ := List.mem_filter.1 hhistory
    rw [decide_eq_true_eq] at hlot
    have heligible : r ∈ (revisions.filter fun x => decide (x.lotId = lot)).filter fun x =>
        decide (x.Visible cutoff) := List.mem_filter.2 ⟨hhistory, decide_eq_true hvisible⟩
    rw [if_neg (List.ne_nil_of_mem heligible)] at hlast
    refine ⟨r, hin, hvisible, hok, fun b hb hsame hbv => hlast b ?_⟩
    exact List.mem_filter.2 ⟨List.mem_filter.2 ⟨hb, decide_eq_true (hsame.trans hlot)⟩,
      decide_eq_true hbv⟩
  · rintro ⟨r, hr, hvisible, hok, hlast⟩
    refine ⟨r, List.mem_filterMap.2 ⟨r.lotId, ?_, ?_⟩, by rw [hok]; rfl⟩
    · exact List.mem_eraseDups.2 (List.mem_map.2 ⟨r, hr, rfl⟩)
    have heligible : r ∈ (revisions.filter fun x => decide (x.lotId = r.lotId)).filter fun x =>
        decide (x.Visible cutoff) :=
      List.mem_filter.2 ⟨List.mem_filter.2 ⟨hr, decide_eq_true rfl⟩, decide_eq_true hvisible⟩
    dsimp only; rw [if_neg (List.ne_nil_of_mem heligible)]
    refine latest_eq (fun a ha b hb => ?_) heligible fun b hb => ?_
    · exact hinj a (List.mem_filter.1 (List.mem_filter.1 ha).1).1 b
        (List.mem_filter.1 (List.mem_filter.1 hb).1).1
    · obtain ⟨hb', hbv⟩ := List.mem_filter.1 hb
      obtain ⟨hbr, hbl⟩ := List.mem_filter.1 hb'
      exact hlast b hbr (of_decide_eq_true hbl) (of_decide_eq_true hbv)

theorem screened_nodup (hids : DistinctIds revisions) :
    ((screened h policy cutoff (revisionMetadata revisions cutoff)).map (·.outcomeId)).Nodup := by
  have hinj : ∀ a ∈ revisions, ∀ b ∈ revisions, a.outcomeId = b.outcomeId → a = b :=
    fun a ha b hb hid => List.inj_on_of_nodup_map hids ha hb hid
  have hlot : ∀ {lot : String} {r : Revision},
      latest (if (revisions.filter fun x => decide (x.lotId = lot)).filter
          (fun x => decide (x.Visible cutoff)) = [] then
          revisions.filter fun x => decide (x.lotId = lot)
        else (revisions.filter fun x => decide (x.lotId = lot)).filter
          fun x => decide (x.Visible cutoff)) = some r → r ∈ revisions ∧ r.lotId = lot := by
    intro lot r hr
    have hmem : r ∈ revisions.filter fun x => decide (x.lotId = lot) := by
      have hpool := (latest_some hr).1; split at hpool
      · exact hpool
      · exact (List.mem_filter.1 hpool).1
    obtain ⟨hin, hsame⟩ := List.mem_filter.1 hmem
    exact ⟨hin, of_decide_eq_true hsame⟩
  unfold screened revisionMetadata
  rw [List.filterMap_filterMap, List.map_filterMap]
  have hnodup : ((revisions.map (·.lotId)).eraseDups).Nodup := Core.fromKeys_nodup _
  refine hnodup.filterMap fun lot lot' id hid hid' => ?_
  rw [Option.mem_def, Option.map_eq_some_iff] at hid hid'
  obtain ⟨o, ho, rfl⟩ := hid; obtain ⟨o', ho', heq⟩ := hid'
  rw [Option.bind_eq_some_iff] at ho ho'; obtain ⟨r, hr, hs⟩ := ho
  obtain ⟨r', hr', hs'⟩ := ho'; obtain ⟨hin, rfl⟩ := hlot hr
  obtain ⟨hin', rfl⟩ := hlot hr'
  have hok : ∀ {x : Revision} {y : OutcomeRow}, (screen h policy cutoff x).toOption = some y →
      y.outcomeId = x.outcomeId := by
    intro x y hxy
    cases hx : screen h policy cutoff x with
    | error e =>
      rw [hx] at hxy; cases hxy
    | ok z =>
      rw [hx] at hxy; cases hxy; exact (screen_ok hx).2.1
  rw [hinj r hin r' hin' (by rw [← hok hs, ← hok hs', heq])]

theorem screened_perm (hids : DistinctIds revisions) (hids' : DistinctIds revisions')
    (hsame : ∀ r : Revision, r.Visible cutoff → (r ∈ revisions ↔ r ∈ revisions')) :
    (screened h policy cutoff (revisionMetadata revisions cutoff)).Perm
      (screened h policy cutoff (revisionMetadata revisions' cutoff)) := by
  have hhalf : ∀ {l l' : List Revision}, DistinctIds l → DistinctIds l' →
      (∀ r : Revision, r.Visible cutoff → (r ∈ l ↔ r ∈ l')) → ∀ o,
      o ∈ screened h policy cutoff (revisionMetadata l cutoff) →
      o ∈ screened h policy cutoff (revisionMetadata l' cutoff) := by
    intro l l' hl hl' hll o ho
    obtain ⟨r, hr, hvisible, hok, hlast⟩ := (mem_screened hl).1 ho
    exact (mem_screened hl').2 ⟨r, (hll r hvisible).1 hr, hvisible, hok,
      fun b hb hlot hbv => hlast b ((hll b hbv).2 hb) hlot hbv⟩
  refine (List.perm_ext_iff_of_nodup (screened_nodup hids).of_map
    (screened_nodup hids').of_map).2 fun o => ⟨hhalf hids hids' hsame o, ?_⟩
  exact hhalf hids' hids (fun r hr => (hsame r hr).symm) o

/-! ## The rows in the order they ended -/

instance : Std.Total Ended := ⟨fun _ _ => lex_total⟩

instance : IsTrans OutcomeRow Ended := ⟨fun _ _ _ => lex_trans⟩

theorem ended_sorted {rows rows' : List OutcomeRow} (hp : rows.Perm rows')
    (hnodup : (rows.map (·.outcomeId)).Nodup) :
    rows.insertionSort Ended = rows'.insertionSort Ended :=
  insertionSort_congr hp fun _ ha _ hb hab hba =>
    List.inj_on_of_nodup_map hnodup ha hb (lex_antisymm hab hba).2

variable {rows : List OutcomeRow}

theorem disjoint_congr {days days' : List Int}
    (hdays : ∀ row ∈ rows, row.session ∈ days ↔ row.session ∈ days') :
    disjoint policy days rows = disjoint policy days' rows := by
  unfold disjoint
  generalize (([], []) : List OutcomeRow × List (String × String)) = acc
  induction rows generalizing acc with
  | nil => rfl
  | cons row rows ih =>
    obtain ⟨hrow, hrest⟩ := List.forall_mem_cons.1 hdays
    have hreason : ∀ selected, overlapReason policy days selected row =
        overlapReason policy days' selected row := by
      intro selected; unfold overlapReason; simp only [hrow]
    rw [List.foldl_cons, List.foldl_cons, hreason]; exact ih hrest _

theorem mem_disjoint {days : List Int} (ho : o ∈ (disjoint policy days rows).1) : o ∈ rows := by
  have hrun : ∀ (rows : List OutcomeRow) (acc : List OutcomeRow × List (String × String)),
      o ∈ (rows.foldl (fun acc row =>
        match overlapReason policy days acc.1 row with
        | some reason => (acc.1, acc.2 ++ [(row.outcomeId, reason)])
        | none => (acc.1 ++ [row], acc.2)) acc).1 → o ∈ acc.1 ∨ o ∈ rows := by
    intro rows
    induction rows with
    | nil => exact fun acc h => .inl h
    | cons row rows ih =>
      intro acc hmem; rw [List.foldl_cons] at hmem
      rcases ih _ hmem with hin | hin
      · split at hin
        · exact .inl hin
        rcases List.mem_append.1 hin with hin | hin
        · exact .inl hin
        · exact .inr (List.mem_singleton.1 hin ▸ List.mem_cons_self)
      · exact .inr (List.mem_cons_of_mem _ hin)
  exact (hrun rows ([], []) ho).resolve_left List.not_mem_nil

theorem mem_sessionDays {day : Int} : day ∈ sessionDays rows ↔ ∃ row ∈ rows, row.session = day := by
  unfold sessionDays
  rw [(List.perm_insertionSort _ _).mem_iff, List.mem_eraseDups, List.mem_map]

/-- **What a daily policy selects at a cutoff depends on what is visible there.** -/
theorem select_visible (hversion : policy.procedureVersion ≠ none) (hids : DistinctIds revisions)
    (hids' : DistinctIds revisions')
    (hsame : ∀ r : Revision, r.Visible cutoff → (r ∈ revisions ↔ r ∈ revisions')) :
    (selectAt h policy revisions' cutoff).rows = (selectAt h policy revisions cutoff).rows := by
  have hperm : (screened h policy cutoff (revisionMetadata revisions cutoff)).Perm
      (screened h policy cutoff (revisionMetadata revisions' cutoff)) :=
    screened_perm hids hids' hsame
  obtain ⟨version, hv⟩ := Option.ne_none_iff_exists'.1 hversion
  unfold selectAt select; dsimp only
  rw [← ended_sorted hperm (screened_nodup hids)]
  refine congrArg Prod.fst (disjoint_congr fun row hrow => ?_)
  have hin := (List.perm_insertionSort Ended _).mem_iff.1 hrow
  unfold sessionsOf; rw [hv]; rw [mem_sessionDays, mem_sessionDays]
  exact iff_of_true ⟨row, hperm.mem_iff.1 hin, rfl⟩ ⟨row, hin, rfl⟩

theorem mem_selectAt (hids : DistinctIds revisions)
    (ho : o ∈ (selectAt h policy revisions cutoff).rows) :
    o.availableAt ≤ cutoff ∧ o.finish ≤ cutoff ∧ ∃ r ∈ revisions, r.outcomeId = o.outcomeId ∧
      r.availableAt = some o.availableAt ∧ r.sourceEnd = some o.finish := by
  have hin := (List.perm_insertionSort Ended _).mem_iff.1 (mem_disjoint ho)
  obtain ⟨r, hr, _, hok, _⟩ := (mem_screened hids).1 hin
  obtain ⟨_, hid, _, hav, hfinish, hcut, hend, _⟩ := screen_ok hok
  exact ⟨hcut, hend, r, hr, hid.symm, hav, hfinish⟩

/-! ## The training rows of a fold -/

variable {c : LearningCalendar} {validation validation' : List OutcomeRow} {day : Int}

/-- **A fold trains on what was available when it opened** and ended the embargo before its
validation starts. -/
theorem mem_foldOf (hids : DistinctIds revisions)
    (ho : o ∈ (foldOf c validation (selectAt h policy revisions) day).1.training) :
    o.session < day ∧
      o.finish ≤ earliestStart (validation.filter fun r => r.session = day) - embargo ∧
      o.availableAt ≤ ((c.session? day).map (·.openAt)).getD 0 ∧
      o.finish ≤ ((c.session? day).map (·.openAt)).getD 0 := by
  obtain ⟨hin, hkept⟩ := List.mem_filter.1 ho; rw [decide_eq_true_eq] at hkept
  obtain ⟨hav, hfinish, _⟩ := mem_selectAt hids hin
  exact ⟨hkept.1, hkept.2, hav, hfinish⟩

/-- **Stores that show the same revisions when a fold opens train it on the same rows.** -/
theorem foldOf_visible (hversion : policy.procedureVersion ≠ none) (hids : DistinctIds revisions)
    (hids' : DistinctIds revisions')
    (hsame : ∀ r : Revision, r.Visible (((c.session? day).map (·.openAt)).getD 0) →
      (r ∈ revisions ↔ r ∈ revisions'))
    (hstart : earliestStart (validation'.filter fun r => r.session = day) =
      earliestStart (validation.filter fun r => r.session = day)) :
    (foldOf c validation' (selectAt h policy revisions') day).1.training =
      (foldOf c validation (selectAt h policy revisions) day).1.training := by
  unfold foldOf; dsimp only
  rw [select_visible hversion hids hids' hsame, hstart]

end Visible

end Quantbot.L4.Procedure
