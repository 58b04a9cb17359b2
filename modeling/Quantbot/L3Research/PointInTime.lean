import Mathlib.Data.List.MinMax
import Mathlib.Data.List.Sort
import Mathlib.Logic.Relation
import Quantbot.Core.Txn

/-!
# When a value became knowable

Two times of every value: the moment it describes and the moment it could first be known.

* `point_in_time_iff`: what was published later never matters to `latest_knowable`, and it
  answers with the last revision in every order exactly when one vintage of the newest period is
  known; a feature waits for its window exactly when its lag is not negative, and along a chain
  of such features no value is known before what it came from.
-/
namespace Quantbot.L3.PointInTime

open Core Txn

/-- mirrors pointintime.py:96-105 -/
structure Vintage where
  provider : String
  dataset : String
  vintage : String
  retrievedAt : Int
  supersedes : Option String := none

/-- mirrors pointintime.py:108-121 -/
structure Availability where
  observedAt : Int
  availableAt : Int
  ordered : observedAt ≤ availableAt

def Availability.knownBy (a : Availability) (asOf : Int) : Bool := a.availableAt ≤ asOf

/-- mirrors pointintime.py:124-135 -/
structure Observation (α : Type) where
  label : String
  availability : Availability
  vintage : Vintage
  value : α

variable {α : Type}

def knowable (observations : List (Observation α)) (asOf : Int) : List (Observation α) :=
  observations.filter (·.availability.knownBy asOf)

/-- Of the newest the first listed, as `max` picks it.
mirrors pointintime.py:145-152 -/
def latestKnowable (observations : List (Observation α)) (asOf : Int) : Option (Observation α) :=
  @List.argmax _ ℤ Int.instLinearOrder.toPreorder _ (·.availability.observedAt)
    (knowable observations asOf)

/-- mirrors pointintime.py:155-170 -/
structure FeatureSpec where
  name : String
  lookbackObservations : ℕ
  publicationLag : Int := 0
  transformationVersion : String
  inputs : List String
  lookback_pos : 1 ≤ lookbackObservations
  inputs_some : inputs ≠ []

def byObserved (inputs : List Availability) : List Availability :=
  inputs.insertionSort fun a b => a.observedAt ≤ b.observedAt

/-- The last inputs, by the moment they describe. -/
def FeatureSpec.window (f : FeatureSpec) (inputs : List Availability) : List Availability :=
  (byObserved inputs).drop (inputs.length - f.lookbackObservations)

/-- mirrors pointintime.py:172-185 -/
def FeatureSpec.availableAt (f : FeatureSpec) (inputs : List Availability) : Except String Int :=
  if inputs.length < f.lookbackObservations then
    .error (f.name ++ " needs " ++ toString f.lookbackObservations ++ " observations, " ++
      toString inputs.length ++ " supplied")
  else match ((f.window inputs).map (·.availableAt)).max? with
    | none => .error "max() arg is an empty sequence"
    | some slowest => .ok (slowest + f.publicationLag)

/-- mirrors pointintime.py:187-209 -/
def FeatureSpec.materialize (f : FeatureSpec) (value : α) (inputs : List Availability)
    (vintage : Vintage) : Except String (Observation α) := do
  let newest ← (byObserved inputs).getLast?.elim (.error "list index out of range") .ok
  let available ← f.availableAt inputs
  if ordered : newest.observedAt ≤ available then
    .ok ⟨f.name ++ "@" ++ f.transformationVersion, ⟨_, available, ordered⟩, vintage, value⟩
  else .error "a value cannot be available before the moment it describes"

/-! ## The latest value -/

section latest

variable {l : List (Observation α)} {asOf : Int} {x y : Observation α}

/-- A known observation of the newest period that is known. -/
def Newest (l : List (Observation α)) (asOf : Int) (x : Observation α) : Prop :=
  x ∈ knowable l asOf ∧
    ∀ y ∈ knowable l asOf, y.availability.observedAt ≤ x.availability.observedAt

/-- In every order the answer is the same, and the last revision of its period. -/
def LastRevision (l : List (Observation α)) (asOf : Int) : Prop :=
  (∀ l', l.Perm l' → latestKnowable l' asOf = latestKnowable l asOf) ∧
    ∀ x, latestKnowable l asOf = some x → ∀ y, Newest l asOf y →
      y.availability.availableAt ≤ x.availability.availableAt

/-- One vintage of the newest known period is known. -/
def OneVintage (l : List (Observation α)) (asOf : Int) : Prop :=
  ∀ x y, Newest l asOf x → Newest l asOf y → x = y

theorem latestKnowable_newest (h : latestKnowable l asOf = some x) : Newest l asOf x :=
  ⟨List.argmax_mem h, fun _ hy => List.le_of_mem_argmax
    (f := fun x : Observation α => x.availability.observedAt) hy h⟩

theorem exists_latest (h : Newest l asOf y) : ∃ x, latestKnowable l asOf = some x :=
  Option.ne_none_iff_exists'.1 fun hnone =>
    List.ne_nil_of_mem h.1 (List.argmax_eq_none.1 hnone)

/-- A newest observation that comes first is the answer. -/
theorem latestKnowable_first (h : Newest (x :: l) asOf x) :
    latestKnowable (x :: l) asOf = some x := by
  have hknown : knowable (x :: l) asOf = x :: knowable l asOf :=
    List.filter_cons_of_pos (List.mem_filter.1 h.1).2
  unfold latestKnowable; rw [hknown, List.argmax_cons]
  cases hrest : (knowable l asOf).argmax (·.availability.observedAt) with
  | none => rfl
  | some y =>
    have hle := h.2 y (hknown ▸ List.mem_cons_of_mem _ (List.argmax_mem hrest))
    exact if_neg (not_lt.2 hle)

theorem newest_perm {l' : List (Observation α)} (h : l.Perm l') :
    Newest l asOf x ↔ Newest l' asOf x := by
  have hmem : ∀ y, y ∈ knowable l asOf ↔ y ∈ knowable l' asOf :=
    fun y => (h.filter _).mem_iff
  simp only [Newest, hmem]

/-- Any newest observation is the answer in some order. -/
theorem exists_order (h : Newest l asOf x) : ∃ l', l.Perm l' ∧ latestKnowable l' asOf = some x := by
  obtain ⟨before, after, rfl⟩ := List.append_of_mem (List.mem_filter.1 h.1).1
  exact ⟨x :: (before ++ after), List.perm_middle,
    latestKnowable_first ((newest_perm List.perm_middle).1 h)⟩

theorem lastRevision_iff : LastRevision l asOf ↔ OneVintage l asOf := by
  constructor
  · rintro ⟨horder, -⟩ x y hx hy; obtain ⟨l₁, h₁, hx⟩ := exists_order hx
    obtain ⟨l₂, h₂, hy⟩ := exists_order hy; rw [horder l₁ h₁] at hx
    rw [horder l₂ h₂, hx] at hy; exact Option.some.inj hy
  · intro hone; refine ⟨fun l' hperm => ?_, fun x hx y hy => ?_⟩
    · cases hl : latestKnowable l asOf with
      | none =>
        cases hl' : latestKnowable l' asOf with
        | none => rfl
        | some x =>
          obtain ⟨y, hy⟩ := exists_latest ((newest_perm hperm).2 (latestKnowable_newest hl'))
          rw [hl] at hy; cases hy
      | some x =>
        have hx := latestKnowable_newest hl
        obtain ⟨y, hy⟩ := exists_latest ((newest_perm hperm).1 hx)
        rw [hy, hone x y hx ((newest_perm hperm).2 (latestKnowable_newest hy))]
    · rw [hone y x hy (latestKnowable_newest hx)]

theorem knowable_knowable : knowable (knowable l asOf) asOf = knowable l asOf := by
  unfold knowable; simp

end latest

/-! ## Features -/

section features

variable {f : FeatureSpec} {value : α} {inputs : List Availability} {vintage : Vintage}
  {o : Observation α}

/-- A feature is published a lag behind the slowest input of its window. -/
theorem materialize_ok (h : f.materialize value inputs vintage = .ok o) :
    ∃ slowest ∈ f.window inputs, (∀ a ∈ f.window inputs, a.availableAt ≤ slowest.availableAt) ∧
      o.availability.availableAt = slowest.availableAt + f.publicationLag := by
  obtain ⟨newest, -, h⟩ := except_bind_ok.1 h
  obtain ⟨available, havailable, h⟩ := except_bind_ok.1 h
  split at h <;> cases h; unfold FeatureSpec.availableAt at havailable
  split at havailable
  · cases havailable
  split at havailable
  · cases havailable
  next slowest hmax =>
  cases havailable; obtain ⟨hmem, hle⟩ := List.max?_eq_some_iff.1 hmax
  obtain ⟨input, hinput, heq⟩ := List.mem_map.1 hmem
  exact ⟨input, hinput, fun a ha => heq ▸ hle _ (List.mem_map_of_mem ha), by rw [heq]⟩

theorem waits_iff (h : f.materialize value inputs vintage = .ok o) :
    (∀ a ∈ f.window inputs, a.availableAt ≤ o.availability.availableAt) ↔ 0 ≤ f.publicationLag := by
  obtain ⟨slowest, hslowest, hle, heq⟩ := materialize_ok h; constructor
  · intro hwaits; have := hwaits slowest hslowest; omega
  · intro hlag a ha; have := hle a ha; omega

/-- A value in the window of a feature, and the feature. -/
inductive Feeds : Availability → Availability → Prop
  | feature {α : Type} (f : FeatureSpec) (value : α) (inputs : List Availability)
      (vintage : Vintage) (o : Observation α) (a : Availability) (hlag : 0 ≤ f.publicationLag)
      (ha : a ∈ f.window inputs) (h : f.materialize value inputs vintage = .ok o) :
      Feeds a o.availability

theorem chain_available {a b : Availability} (h : Relation.ReflTransGen Feeds a b) :
    a.availableAt ≤ b.availableAt := by
  induction h with
  | refl => exact le_rfl
  | tail _ hstep ih =>
    cases hstep with
    | feature f value inputs vintage o a hlag ha h =>
      exact ih.trans ((waits_iff h).2 hlag _ ha)

end features

/-- **Reads at a point in time.** -/
theorem point_in_time_iff (l : List (Observation α)) (asOf : Int) {f : FeatureSpec} {value : α}
    {inputs : List Availability} {vintage : Vintage} {o : Observation α}
    (h : f.materialize value inputs vintage = .ok o) :
    latestKnowable (knowable l asOf) asOf = latestKnowable l asOf ∧
      (∀ x, latestKnowable l asOf = some x → Newest l asOf x) ∧
      (LastRevision l asOf ↔ OneVintage l asOf) ∧
      ((∀ a ∈ f.window inputs, a.availableAt ≤ o.availability.availableAt) ↔ 0 ≤ f.publicationLag) ∧
      ∀ a b, Relation.ReflTransGen Feeds a b → a.availableAt ≤ b.availableAt := by
  refine ⟨?_, fun x => latestKnowable_newest, lastRevision_iff, waits_iff h,
    fun a b => chain_available⟩
  unfold latestKnowable; rw [knowable_knowable]

/-- The figure of one period, as it was published at some moment. -/
def published (availableAt : Int) (h : 1 ≤ availableAt) : Observation Int :=
  ⟨"CPI", ⟨1, availableAt, h⟩, ⟨"FRED", "CPI", "v", availableAt, none⟩, availableAt⟩

def early : FeatureSpec := ⟨"mean", 1, -1, "1", ["CPI"], le_rfl, by decide⟩

theorem early_materialize :
    early.materialize (0 : Int) [⟨1, 5, by decide⟩] (published 5 (by decide)).vintage =
      .ok ⟨"mean@1", ⟨1, 4, by decide⟩, (published 5 (by decide)).vintage, 0⟩ := rfl

theorem point_in_time_iff_early : ¬ ∀ a ∈ early.window [⟨1, 5, by decide⟩], a.availableAt ≤ 4 :=
  fun h => absurd ((point_in_time_iff [published 5 (by decide)] 10 early_materialize).2.2.2.1.1 h)
    (by decide)

/-- The first print is read and not its revision, and a feature is out before its input. -/
theorem first_print_read : ¬ LastRevision [published 2 (by decide), published 5 (by decide)] 10 ∧
      ∃ o, early.materialize (0 : Int) [⟨1, 5, by decide⟩] (published 5 (by decide)).vintage =
        .ok o ∧ o.availability.availableAt < 5 := by
  refine ⟨fun h => ?_, _, early_materialize, by decide⟩
  have hnewest : Newest [published 2 (by decide), published 5 (by decide)] 10
      (published 5 (by decide)) := ⟨by simp [knowable, published, Availability.knownBy], by
    simp [knowable, published, Availability.knownBy]⟩
  exact absurd (h.2 (published 2 (by decide)) rfl _ hnewest) (by decide)

end Quantbot.L3.PointInTime
