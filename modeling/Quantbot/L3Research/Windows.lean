import Quantbot.Core.StoredTime
import Quantbot.Core.Txn
import Quantbot.L2Storage.SearchRuns

/-!
# Declared windows

`research/datasets.py` and the windows of `research/registry.py`: what a dataset observes,
which rows of `hypothesis_data_windows` still claim a range, and the three moves of a row's
state. A registration reserves, the handoff of the data consumes, a release gives up.

* `mem_aliases`: the names a query is widened to are those of one observation series.
-/
namespace Quantbot.L3.Registry

open Core Txn L2

/-! ## Observation series -/

/-- mirrors datasets.py:39-49 -/
def observationAliases : List (String × String) :=
  [("sip-us-equities-daily", "us-equities-daily"),
   ("alpaca-us-equities-daily", "us-equities-daily"),
   ("fred-macro-monthly", "us-macro-monthly"),
   ("alfred-macro-monthly", "us-macro-monthly")]

/-- mirrors datasets.py:52-59 -/
def observationIdentity (dataset : String) : String :=
  (observationAliases.lookup dataset).getD dataset

/-- mirrors datasets.py:62-71 -/
def equivalentDatasets (dataset : String) : List String :=
  ((observationAliases.filter fun a => a.2 = observationIdentity dataset).map (·.1) ++
    [dataset]).eraseDups.mergeSort

/-- `{*equivalent_datasets(dataset), observation_identity(dataset)}`. -/
def aliases (dataset : String) : List String :=
  observationIdentity dataset :: equivalentDatasets dataset

def SameSeries (a b : String) : Prop := observationIdentity a = observationIdentity b
deriving Decidable

theorem observationIdentity_cases (d : String) : (d, observationIdentity d) ∈ observationAliases ∨
      observationIdentity d = d ∧ ∀ a ∈ observationAliases, a.1 ≠ d := by
  unfold observationIdentity
  cases h : observationAliases.lookup d with
  | some i =>
    left; rw [List.lookup_eq_some_iff] at h; obtain ⟨l, r, heq, _⟩ := h
    rw [heq]; exact List.mem_append_right _ List.mem_cons_self
  | none =>
    right; rw [List.lookup_eq_none_iff] at h
    exact ⟨rfl, fun a ha hd => by simpa [hd] using h a ha⟩

theorem observationIdentity_idem (d : String) :
    observationIdentity (observationIdentity d) = observationIdentity d := by
  rcases observationIdentity_cases d with h | ⟨h, _⟩
  · have hfixed : ∀ a ∈ observationAliases, observationIdentity a.2 = a.2 := by decide
    exact hfixed _ h
  · rw [h, h]

theorem observationIdentity_alias {a : String × String} (h : a ∈ observationAliases) :
    observationIdentity a.1 = a.2 := by
  have hall : ∀ a ∈ observationAliases, observationIdentity a.1 = a.2 := by decide
  exact hall a h

theorem mem_equivalentDatasets {d dataset : String} :
    d ∈ equivalentDatasets dataset ↔ (d, observationIdentity dataset) ∈ observationAliases ∨
      d = dataset := by
  unfold equivalentDatasets
  simp only [List.mem_mergeSort, List.mem_eraseDups, List.mem_append, List.mem_map,
    List.mem_filter, decide_eq_true_eq, List.mem_singleton]
  refine or_congr_left ⟨?_, fun h => ⟨_, ⟨h, rfl⟩, rfl⟩⟩
  rintro ⟨⟨n, i⟩, ⟨hmem, hi⟩, hn⟩; cases hi; cases hn; exact hmem

/-- **One series.** The aliases of a name are the names that observe the same. -/
theorem mem_aliases {d dataset : String} : d ∈ aliases dataset ↔ SameSeries d dataset := by
  unfold aliases SameSeries; rw [List.mem_cons, mem_equivalentDatasets]
  constructor
  · rintro (rfl | halias | rfl)
    · exact observationIdentity_idem dataset
    · exact observationIdentity_alias halias
    · rfl
  · intro h; rcases observationIdentity_cases d with halias | ⟨hself, _⟩
    · rw [h] at halias; exact .inr (.inl halias)
    · exact .inl (hself.symm.trans h)

/-! ## Windows -/

inductive DataRole | discovery | validation | protectedEvaluation | forwardPaper
deriving DecidableEq, Repr

def DataRole.value : DataRole → String
  | .discovery => "DISCOVERY"
  | .validation => "VALIDATION"
  | .protectedEvaluation => "PROTECTED_EVALUATION"
  | .forwardPaper => "FORWARD_PAPER"

inductive WindowState | reserved | consumed | released
deriving DecidableEq, Repr

inductive RefusalReason
  | contaminatedWindow | duplicate | critiqueBlocks | critiqueMismatched | underpowered | uneconomic
  | alreadyRegistered | notRegistered | tampered | invalidLineage | unverifiedSample
  | windowNotReserved
deriving DecidableEq, Repr

/-- mirrors registry.py:295-314 -/
structure DataWindow where
  dataset : String
  snapshot : String := ""
  role : DataRole
  start : Int
  finish : Int
  ordered : start ≤ finish
deriving DecidableEq

/-- A row of `hypothesis_data_windows` with the two checks of the table.
mirrors storage/schema.py:369-396 -/
structure WindowRow where
  hypothesisId : String
  version : Nat
  dataset : String
  role : DataRole
  start : Int
  finish : Int
  state : WindowState
  reservedUntil : Option Int
  consumedAt : Option Int
  ordered : start ≤ finish
  dated : state = .consumed ↔ consumedAt.isSome = true
deriving DecidableEq

def WindowRow.key (w : WindowRow) : String × Nat × String × DataRole :=
  (w.hypothesisId, w.version, w.dataset, w.role)

abbrev Windows := Table WindowRow WindowRow.key

def WindowRow.overlaps (w : WindowRow) (start finish : Int) : Prop :=
  w.start ≤ finish ∧ start ≤ w.finish
deriving Decidable

/-- Spent, or claimed by a reservation that has not lapsed. -/
def WindowRow.holds (w : WindowRow) (now : Int) : Prop :=
  w.state = .consumed ∨ w.state = .reserved ∧ ∀ u ∈ w.reservedUntil, now ≤ u
deriving Decidable

/-- Every row that still claims part of the range, under this very name.
mirrors registry.py:2081-2115 -/
def blocking (t : Windows) (dataset : String) (start finish now : Int) : List WindowRow :=
  t.rows.filter fun w => w.dataset = dataset ∧ w.overlaps start finish ∧ w.holds now

/-- mirrors registry.py:2050-2079 -/
def blockingProtectedWindows (t : Windows) (dataset : String) (start finish now : Int)
    (includeForwardPaper : Bool) : List WindowRow :=
  ((aliases dataset).eraseDups.flatMap fun name => blocking t name start finish now).filter
    fun w => w.role = .protectedEvaluation ∨ includeForwardPaper ∧ w.role = .forwardPaper

/-- mirrors registry.py:2260-2275 -/
def WindowRow.ownUnspentClaim (w : WindowRow) (hypothesisId : String) : Prop :=
  w.hypothesisId = hypothesisId ∧ w.state = .reserved
deriving Decidable

/-- The claims of others on the range, and everything spent on it. -/
def rivals (t : Windows) (hypothesisId dataset : String) (start finish now : Int) :
    List WindowRow :=
  (blocking t dataset start finish now).filter fun w => ¬ w.ownUnspentClaim hypothesisId

theorem mem_rivals {t : Windows} {hypothesisId dataset : String} {start finish now : Int}
    {w : WindowRow} : w ∈ rivals t hypothesisId dataset start finish now ↔
      w ∈ t.rows ∧ w.dataset = dataset ∧ w.overlaps start finish ∧ w.holds now ∧
        ¬ w.ownUnspentClaim hypothesisId := by
  unfold rivals blocking
  simp only [List.mem_filter, decide_eq_true_eq, and_assoc]

/-! ## The moves of a row -/

/-- The one window a call is about. -/
structure WindowRef where
  hypothesisId : String
  version : Nat
  dataset : String
  role : DataRole
deriving DecidableEq

def WindowRef.key (r : WindowRef) : String × Nat × String × DataRole :=
  (r.hypothesisId, r.version, r.dataset, r.role)

/-- What `consume` reads before it writes.
mirrors registry.py:1577-1606 -/
def consumeObjection (t : Windows) (r : WindowRef) (now : Int) : Option RefusalReason :=
  match t.get? r.key with
  | none => some .windowNotReserved
  | some row =>
    if row.state ≠ .reserved then some .windowNotReserved
    else if r.role = .protectedEvaluation ∧
        rivals t r.hypothesisId r.dataset row.start row.finish (utcDate now) ≠ [] then
      some .contaminatedWindow
    else none

def WindowRow.consume (w : WindowRow) (now : Int) : WindowRow :=
  { w with state := .consumed, consumedAt := some now, dated := by simp }

def WindowRow.release (w : WindowRow) (h : w.state = .reserved) : WindowRow :=
  { w with
    state := .released
    dated := by
      have := w.dated
      rw [h] at this
      simpa using this }

/-- `UPDATE .. WHERE state = 'RESERVED'`, to CONSUMED.
mirrors registry.py:1607-1625 -/
def consumeWrite (r : WindowRef) (now : Int) : Txn Windows RefusalReason PUnit := fun t =>
  match t.get? r.key with
  | some row =>
    if row.state = .reserved then .ok ⟨⟩ (t.modify r.key (·.consume now) fun _ h => h)
    else .error .windowNotReserved t
  | none => .error .windowNotReserved t

/-- mirrors registry.py:1548-1625 -/
def consume (r : WindowRef) (now : Int) : Txn Windows RefusalReason PUnit := do
  let t ← get
  match consumeObjection t r now with
  | some reason => throw reason
  | none => consumeWrite r now

/-- `UPDATE .. WHERE state = 'RESERVED'`, to RELEASED.
mirrors registry.py:1650-1679 -/
def release (r : WindowRef) : Txn Windows RefusalReason PUnit := fun t =>
  match t.get? r.key with
  | some row =>
    if row.state = .reserved then
      .ok ⟨⟩ (t.modify r.key
        (fun w => if h : w.state = .reserved then w.release h else w)
        fun w hw => by split <;> exact hw)
    else .error .windowNotReserved t
  | none => .error .windowNotReserved t

end Quantbot.L3.Registry
