import Quantbot.L3Research.Burden

/-!
# The handover of protected data

Callers that register, consume and release windows of one registry, each stopping anywhere
between what it reads and what it writes: the session's reads take no lock, the first write
does (storage/database.py), so other callers commit in between.

* `protected_at_most_once`: while every consumption reads all there is to read, protected
  data is handed over once; a consumed window stays as it is in any case.
* `aliased_twice`, `raced_twice`: one range handed over twice, under two names of its series
  and by two callers that each checked before the other wrote.
-/
namespace Quantbot.L3.Registry

open Core Txn L2

variable {contentId : ContentId}

/-! ## Calls that stop between check and write -/

/-- What a caller has checked and not yet written; `seen` is what the check read. -/
inductive Pending
  | registering (r : Registration)
  | consuming (ref : WindowRef) (now : Int) (seen : Windows)

structure World where
  store : RegistryStore := {}
  pending : Nat → Option Pending := fun _ => none

def World.windows (w : World) : Windows := w.store.windows

def World.put (w : World) (p : Nat) (a : Option Pending) : World :=
  { w with pending := Function.update w.pending p a }

inductive Move
  | judge (p : Nat) (d : HypothesisDraft) (i : RegisterInputs) (now : Int)
  | insert (p : Nat)
  | check (p : Nat) (ref : WindowRef) (now : Int)
  | write (p : Nat)
  | release (ref : WindowRef)
  | record (r : SearchRun)
  | abandon (p : Nat)

/-- A caller judges or checks, then writes; a release is one statement; a caller that refuses
or raises abandons what it had. -/
inductive Step (contentId : ContentId) : World → Move → World → Prop
  | judge {w : World} {p : Nat} {d : HypothesisDraft} {i : RegisterInputs} {now : Int}
      {r : Registration} : Registry.judge contentId d i now w.store = .ok r →
      Step contentId w (.judge p d i now) (w.put p (some (.registering r)))
  | insert {w : World} {p : Nat} {r : Registration} : w.pending p = some (.registering r) →
      Step contentId w (.insert p)
        { w.put p none with store := after (immediate (insertRegistration contentId r)) w.store }
  | check {w : World} {p : Nat} {ref : WindowRef} {now : Int} :
      consumeObjection w.windows ref now = none →
      Step contentId w (.check p ref now) (w.put p (some (.consuming ref now w.windows)))
  | write {w : World} {p : Nat} {ref : WindowRef} {now : Int} {seen : Windows} :
      w.pending p = some (.consuming ref now seen) →
      Step contentId w (.write p)
        { w.put p none with
          store := after (immediate (inWindows (consumeWrite ref now))) w.store }
  | release {w : World} {ref : WindowRef} :
      Step contentId w (.release ref)
        { w with store := after (immediate (inWindows (Registry.release ref))) w.store }
  | record {w : World} {r : SearchRun} :
      Step contentId w (.record r)
        { w with store := after (immediate (insertSearchRun r)) w.store }
  | abandon {w : World} {p : Nat} : Step contentId w (.abandon p) (w.put p none)

def handover (contentId : ContentId) : LTS World Move where
  init w := w = {}
  step := Step contentId

variable {now : Int} {u : PUnit} {ref : WindowRef} {seen t t' : Windows}

theorem consume_ok : consume ref now t = .ok u t' ↔
      consumeObjection t ref now = none ∧ consumeWrite ref now t = .ok u t' := by
  unfold consume; rw [bind_ok]; constructor
  · rintro ⟨_, _, hget, h⟩; obtain ⟨rfl, rfl⟩ := get_ok.1 hget
    cases hobj : consumeObjection _ ref now with
    | some reason => simp only [hobj, throw_ok] at h
    | none =>
      simp only [hobj] at h; exact ⟨rfl, h⟩
  · rintro ⟨hnone, h⟩; refine ⟨t, t, get_ok.2 ⟨rfl, rfl⟩, ?_⟩; rw [hnone]
    exact h

/-! ## What is claimed, and what it rests on -/

/-- Nothing of the series that overlaps the window was consumed, or is held by another. -/
def Untouched (t : Windows) (ref : WindowRef) (now : Int) : Prop :=
  ∀ row, t.get? ref.key = some row → ∀ x ∈ t.rows, SameSeries x.dataset ref.dataset →
    x.overlaps row.start row.finish → x.state ≠ .consumed ∧
      ¬ (x.holds (utcDate now) ∧ x.hypothesisId ≠ ref.hypothesisId)

/-- Protected windows of one series that were consumed do not overlap. -/
def Once (t : Windows) : Prop :=
  ∀ x ∈ t.rows, ∀ y ∈ t.rows, x.state = .consumed → y.state = .consumed →
    x.role = .protectedEvaluation → y.role = .protectedEvaluation →
    SameSeries x.dataset y.dataset → x.key ≠ y.key → ¬ x.overlaps y.start y.finish
deriving Decidable

/-- The query of a consumption's check, by the literal name, misses nothing: under the other
names of the series it finds nothing, and under its own it still finds what it found. -/
def MissesNothing (w : World) (ref : WindowRef) (now : Int) (seen : Windows) : Prop :=
  ref.role = .protectedEvaluation → ∀ row, w.windows.get? ref.key = some row →
    (∀ name ∈ aliases ref.dataset, name ≠ ref.dataset →
      rivals w.windows ref.hypothesisId name row.start row.finish (utcDate now) = []) ∧
    rivals w.windows ref.hypothesisId ref.dataset row.start row.finish (utcDate now) =
      rivals seen ref.hypothesisId ref.dataset row.start row.finish (utcDate now)

/-- The condition on a step: it is no write, or its check misses nothing. -/
def ReadsAll (w : World) (m : Move) (_ : World) : Prop :=
  ∀ p ref now seen, m = .write p → w.pending p = some (.consuming ref now seen) →
    MissesNothing w ref now seen

/-! ## What a write does to the windows -/

/-- Every row stays where it is, a consumed one as it is. -/
structure Steady (t t' : Windows) : Prop where
  kept : ∀ x ∈ t.rows, x.state = .consumed → x ∈ t'.rows
  ranges : ∀ k x, t.get? k = some x → ∃ x', t'.get? k = some x' ∧
    x'.start = x.start ∧ x'.finish = x.finish

/-- No row was consumed. -/
def Spared (t t' : Windows) : Prop := ∀ x ∈ t'.rows, x.state = .consumed → x ∈ t.rows

instance : IsPreorder Windows Steady where
  refl _ := ⟨fun _ h _ => h, fun _ x h => ⟨x, h, rfl, rfl⟩⟩
  trans _ _ _ h h' := by
    refine ⟨fun x hx hc => h'.kept x (h.kept x hx hc) hc, fun k x hx => ?_⟩
    obtain ⟨y, hy, hs, hf⟩ := h.ranges k x hx
    obtain ⟨z, hz, hs', hf'⟩ := h'.ranges k y hy
    exact ⟨z, hz, hs'.trans hs, hf'.trans hf⟩

theorem Once.spared (h : Once t) (hs : Spared t t') : Once t' :=
  fun x hx y hy hxc hyc => h x (hs x hx hxc) y (hs y hy hyc) hxc hyc

theorem steady_modify {k : String × Nat × String × DataRole} {f : WindowRow → WindowRow}
    {hf : ∀ x, x.key = k → (f x).key = k} {row : WindowRow} (hrow : t.get? k = some row)
    (hlive : row.state ≠ .consumed) (hstart : (f row).start = row.start)
    (hfinish : (f row).finish = row.finish) : Steady t (t.modify k f hf) := by
  refine ⟨fun x hx hc => Table.mem_modify.2 (.inl ⟨hx, fun hk => ?_⟩), fun k' x hx => ?_⟩
  · have hsame : t.get? k = some x := Table.get?_eq_some.2 ⟨hx, hk⟩
    rw [hrow] at hsame; cases hsame; exact hlive hc
  · rw [Table.get?_modify]; split
    · rename_i hk; subst hk; rw [hrow] at hx ⊢
      cases hx; exact ⟨f row, rfl, hstart, hfinish⟩
    · exact ⟨x, hx, rfl, rfl⟩

theorem consumeWrite_ok (h : consumeWrite ref now t = .ok u t') :
    ∃ row, t.get? ref.key = some row ∧ row.state = .reserved ∧ Steady t t' ∧
      ∀ x ∈ t'.rows, x.state = .consumed → x ∈ t.rows ∨ x = row.consume now := by
  unfold consumeWrite at h; split at h
  · rename_i row hrow; split at h
    · rename_i hreserved; obtain ⟨rfl⟩ := h
      have hlive : row.state ≠ .consumed := by
        rw [hreserved]; decide
      refine ⟨row, hrow, hreserved, steady_modify hrow hlive rfl rfl, fun x hx _ => ?_⟩
      rcases Table.mem_modify.1 hx with ⟨hold, _⟩ | ⟨y, hy, rfl⟩
      · exact .inl hold
      rw [hrow] at hy; cases hy; exact .inr rfl
    · cases h
  · cases h

theorem release_ok (h : Registry.release ref t = .ok u t') : Steady t t' ∧ Spared t t' := by
  unfold Registry.release at h; split at h
  · rename_i row hrow; split at h
    · rename_i hreserved; obtain ⟨rfl⟩ := h
      have hlive : row.state ≠ .consumed := by
        rw [hreserved]; decide
      refine ⟨steady_modify hrow hlive ?_ ?_, fun x hx hc => ?_⟩
      · rw [dif_pos hreserved]; rfl
      · rw [dif_pos hreserved]; rfl
      · rcases Table.mem_modify.1 hx with ⟨hold, _⟩ | ⟨y, hy, rfl⟩
        · exact hold
        rw [hrow] at hy; cases hy; rw [dif_pos hreserved] at hc; cases hc
    · cases h
  · cases h

theorem insertRegistration_ok {r : Registration} {s t : RegistryStore}
    (h : insertRegistration contentId r s = .ok u t) :
    Steady s.windows t.windows ∧ Spared s.windows t.windows := by
  unfold insertRegistration at h; rw [bind_ok] at h
  obtain ⟨_, s₁, hrow, hwindows⟩ := h; unfold insertHypothesis at hrow
  split at hrow
  · obtain ⟨rfl⟩ := hrow; obtain ⟨_, hrows⟩ := insertWindows_ok hwindows
    have hkept : ∀ x ∈ s.windows.rows, x ∈ t.windows.rows := fun x hx => by
      rw [hrows]; exact List.mem_append_left _ hx
    refine ⟨⟨fun x hx _ => hkept x hx, fun k x hx => ?_⟩, fun x hx hc => ?_⟩
    · exact ⟨x, Table.get?_kept hkept hx, rfl, rfl⟩
    rw [hrows] at hx; rcases List.mem_append.1 hx with hold | hnew
    · exact hold
    · obtain ⟨w, _, rfl⟩ := List.mem_map.1 hnew; cases hc
  · cases hrow

/-- Nothing consumed, nothing consumed changed. -/
structure Calm (s t : RegistryStore) : Prop where
  steady : Steady s.windows t.windows
  spared : Spared s.windows t.windows

instance : IsPreorder RegistryStore Calm where
  refl _ := ⟨refl_of Steady _, fun _ h _ => h⟩
  trans _ _ _ h h' := ⟨trans_of Steady h.steady h'.steady,
    fun x hx hc => h.spared x (h'.spared x hx hc) hc⟩

theorem insertRegistration_calm (r : Registration) :
    Moves Calm (insertRegistration contentId r) := fun _ _ _ h =>
  ⟨(insertRegistration_ok h).1, (insertRegistration_ok h).2⟩

theorem release_calm (ref : WindowRef) : Moves Calm (inWindows (Registry.release ref)) := by
  intro s u t h; obtain ⟨ws, hws, rfl⟩ := zoom_ok.1 h
  exact ⟨(release_ok hws).1, (release_ok hws).2⟩

theorem insertSearchRun_calm (r : SearchRun) : Moves Calm (insertSearchRun r) := by
  intro s u t h; obtain ⟨_, rfl⟩ := insertSearchRun_ok h
  exact ⟨refl_of Steady _, fun _ h _ => h⟩

theorem write_cases (ref : WindowRef) (now : Int) (s : RegistryStore) :
    after (immediate (inWindows (consumeWrite ref now))) s = s ∨
      ∃ t, consumeWrite ref now s.windows = .ok ⟨⟩ t ∧
        after (immediate (inWindows (consumeWrite ref now))) s = { s with windows := t } := by
  unfold after immediate inWindows zoom
  cases h : consumeWrite ref now s.windows with
  | ok u t => exact .inr ⟨t, rfl, rfl⟩
  | error e t => exact .inl rfl

variable {w w' : World}

theorem step_steady {m : Move} (h : Step contentId w m w') : Steady w.windows w'.windows := by
  cases h with
  | judge _ | check _ | abandon => exact refl_of Steady _
  | insert _ => exact ((insertRegistration_calm _).after w.store).steady
  | @write p ref now seen _ =>
    rcases write_cases ref now w.store with hsame | ⟨t, hwrite, hnew⟩
    · rw [hsame]; exact refl_of Steady _
    · obtain ⟨_, _, _, hsteady, _⟩ := consumeWrite_ok hwrite; rw [hnew]
      exact hsteady
  | release => exact ((release_calm _).after w.store).steady
  | record => exact ((insertSearchRun_calm _).after w.store).steady

/-! ## Runs -/

/-- What was handed over was so once, and what is about to be was checked. -/
structure Handed (w : World) : Prop where
  once : Once w.windows
  checked : ∀ p ref now seen, w.pending p = some (.consuming ref now seen) →
    ∃ old row, seen.get? ref.key = some old ∧ w.windows.get? ref.key = some row ∧
      row.start = old.start ∧ row.finish = old.finish ∧ consumeObjection seen ref now = none

theorem consumeObjection_none {row : WindowRow} (h : consumeObjection t ref now = none)
    (hrow : t.get? ref.key = some row) (hrole : ref.role = .protectedEvaluation) :
    rivals t ref.hypothesisId ref.dataset row.start row.finish (utcDate now) = [] := by
  unfold consumeObjection at h; rw [hrow] at h; dsimp only at h; split at h
  · cases h
  split at h
  · cases h
  rename_i hnone; by_contra hne; exact hnone ⟨hrole, hne⟩

variable {p : Nat}

/-- **The handoff.** What a consumption checked, and missed nothing of, is untouched. -/
theorem Handed.untouched (h : Handed w) (hp : w.pending p = some (.consuming ref now seen))
    (hrole : ref.role = .protectedEvaluation) (hall : MissesNothing w ref now seen) :
    Untouched w.windows ref now := by
  intro row hrow x hx hseries hover
  obtain ⟨old, row', hold, hrow', hstart, hfinish, hobj⟩ := h.checked p ref now seen hp
  rw [hrow] at hrow'; cases hrow'; obtain ⟨hother, hown⟩ := hall hrole row hrow
  have hnone : rivals w.windows ref.hypothesisId x.dataset row.start row.finish (utcDate now) =
      [] := by
    by_cases hname : x.dataset = ref.dataset
    · rw [hname, hown, hstart, hfinish]
      exact consumeObjection_none hobj hold hrole
    · exact hother _ (mem_aliases.2 hseries) hname
  have hrival : x.holds (utcDate now) → x.ownUnspentClaim ref.hypothesisId := fun hholds => by
    by_contra hforeign
    have hmem := mem_rivals.2 ⟨hx, rfl, hover, hholds, hforeign⟩
    rw [hnone] at hmem; cases hmem
  refine ⟨fun hc => ?_, fun ⟨hholds, hforeign⟩ => hforeign (hrival hholds).1⟩
  have hunspent := (hrival (.inl hc)).2; rw [hc] at hunspent; cases hunspent

theorem Once.write (h : Once t) (hfree : ref.role = .protectedEvaluation → Untouched t ref now)
    (hw : consumeWrite ref now t = .ok u t') : Once t' := by
  obtain ⟨row, hrow, _, _, hnew⟩ := consumeWrite_ok hw
  have hkey : row.key = ref.key := (Table.get?_some hrow).2
  have hdataset : row.dataset = ref.dataset := congrArg (·.2.2.1) hkey
  have hrole : row.role = ref.role := congrArg (·.2.2.2) hkey
  -- the new row against an old one, whichever way the pair stands
  have hclash : ∀ x ∈ t.rows, x.state = .consumed → row.role = .protectedEvaluation →
      SameSeries x.dataset row.dataset → ¬ x.overlaps row.start row.finish :=
    fun x hx hc hprotected hseries hover =>
      ((hfree (hrole ▸ hprotected) row hrow x hx (hdataset ▸ hseries) hover).1 hc).elim
  intro x hx y hy hxc hyc hxr hyr hseries hne hover
  rcases hnew x hx hxc with hxold | rfl
  · rcases hnew y hy hyc with hyold | rfl
    · exact h x hxold y hyold hxc hyc hxr hyr hseries hne hover
    · exact hclash x hxold hxc hyr hseries hover
  · rcases hnew y hy hyc with hyold | rfl
    · exact hclash y hyold hyc hxr hseries.symm ⟨hover.2, hover.1⟩
    · exact hne rfl

theorem put_pending {q : Nat} {a : Option Pending} {x : Pending}
    (h : (w.put p a).pending q = some x) : a = some x ∨ w.pending q = some x := by
  unfold World.put at h; dsimp only at h; by_cases hq : q = p
  · subst hq; rw [Function.update_self] at h; exact .inl h
  · rw [Function.update_of_ne hq] at h; exact .inr h

theorem consumeObjection_row (h : consumeObjection t ref now = none) :
    ∃ row, t.get? ref.key = some row := by
  unfold consumeObjection at h; split at h
  · cases h
  · rename_i row hrow; exact ⟨row, hrow⟩

theorem Handed.carry {w w' : World} (h : Handed w) (hsteady : Steady w.windows w'.windows)
    (honce : Once w'.windows)
    (hpending : ∀ p ref now seen, w'.pending p = some (.consuming ref now seen) →
      w.pending p = some (.consuming ref now seen) ∨
        seen = w.windows ∧ consumeObjection seen ref now = none) : Handed w' := by
  refine ⟨honce, fun p ref now seen hp => ?_⟩
  rcases hpending p ref now seen hp with hold | ⟨rfl, hobj⟩
  · obtain ⟨old, row, hseen, hrow, hstart, hfinish, hobj⟩ := h.checked p ref now seen hold
    obtain ⟨row', hrow', hs, hf⟩ := hsteady.ranges _ _ hrow
    exact ⟨old, row', hseen, hrow', hs.trans hstart, hf.trans hfinish, hobj⟩
  · obtain ⟨row, hrow⟩ := consumeObjection_row hobj
    obtain ⟨row', hrow', hs, hf⟩ := hsteady.ranges _ _ hrow
    exact ⟨row, row', hrow, hrow', hs, hf, hobj⟩

theorem step_handed {m : Move} (h : Handed w) (hstep : Step contentId w m w')
    (hall : ReadsAll w m w') : Handed w' := by
  have hsteady := step_steady hstep
  cases hstep with
  | judge _ | abandon =>
    refine h.carry hsteady h.once fun q ref now seen hq => ?_
    rcases put_pending hq with hnew | hold
    · cases hnew
    · exact .inl hold
  | @insert p r _ =>
    refine h.carry hsteady (h.once.spared ((insertRegistration_calm r).after w.store).spared)
      fun q ref now seen hq => ?_
    rcases put_pending (w := w) hq with hnew | hold
    · cases hnew
    · exact .inl hold
  | check hobj =>
    refine h.carry hsteady h.once fun q ref now seen hq => ?_
    rcases put_pending hq with hnew | hold
    · cases hnew; exact .inr ⟨rfl, hobj⟩
    · exact .inl hold
  | @write p ref now seen hp =>
    refine h.carry hsteady ?_ fun q ref now seen hq => ?_
    · show Once (after (immediate (inWindows (consumeWrite ref now))) w.store).windows
      rcases write_cases ref now w.store with hsame | ⟨t, hwrite, hnew⟩
      · rw [hsame]; exact h.once
      · rw [hnew]
        exact h.once.write
          (fun hrole => h.untouched hp hrole (hall p ref now seen rfl hp)) hwrite
    · rcases put_pending (w := w) hq with hnew | hold
      · cases hnew
      · exact .inl hold
  | @release ref =>
    exact h.carry hsteady (h.once.spared ((release_calm ref).after w.store).spared)
      fun _ _ _ _ hq => .inl hq
  | @record r =>
    exact h.carry hsteady (h.once.spared ((insertSearchRun_calm r).after w.store).spared)
      fun _ _ _ _ hq => .inl hq

theorem handed_inductive : ((handover contentId).restrict ReadsAll).Inductive Handed where
  init w h := by
    cases h
    exact ⟨fun x hx => (by cases hx), fun p ref now seen hp => (by cases hp)⟩
  step w m w' h hstep := step_handed h hstep.1 hstep.2

/-- **One handover.** In every run whose consumptions each read all there is to read: a
protected window that is handed over overlaps nothing of its series that was consumed or is
held by another hypothesis; no two consumed protected windows of a series overlap; and a
consumed window stays as it is, in every run whatever. -/
theorem protected_at_most_once {w : World}
    (h : ((handover contentId).restrict ReadsAll).Reachable w) :
    (∀ p ref now seen w', w.pending p = some (.consuming ref now seen) →
      ref.role = .protectedEvaluation →
      ((handover contentId).restrict ReadsAll).step w (.write p) w' →
      Returns (consumeWrite ref now) w.windows ⟨⟩ → Untouched w.windows ref now) ∧ Once w.windows ∧
    ∀ ms w', (handover contentId).Run w ms w' →
      ∀ x ∈ w.windows.rows, x.state = .consumed → x ∈ w'.windows.rows := by
  have hinv := handed_inductive.reachable h
  refine ⟨fun p ref now seen w' hp hrole hstep _ => ?_, hinv.once, fun ms w' hrun => ?_⟩
  · exact hinv.untouched hp hrole (hstep.2 p ref now seen rfl hp)
  have hsteady : Steady w.windows w'.windows :=
    hrun.rel (P := fun _ => True) (R := fun a b => Steady a.windows b.windows)
      (fun _ => refl_of Steady _) (fun _ _ _ => trans_of Steady) (fun _ _ _ _ _ => trivial)
      (fun _ _ _ _ hstep => step_steady hstep) trivial
  exact hsteady.kept

/-! ## Handovers on a concrete registry -/

def plainId : ContentId
  | .registration r => r.draft.hypothesisId ++ toString r.draft.version
  | _ => ""

/-- A draft that holds out eleven days of a dataset. -/
def holdout (hypothesisId : String) (version : Nat) (dataset : String) (h : 1 ≤ version) :
    HypothesisDraft where
  hypothesisId := hypothesisId
  version := version
  familyId := "F"
  windows := [⟨dataset, "", .protectedEvaluation, 0, 10, by decide⟩]
  availableObservations := 250
  searchCardinality := 1
  searchOrigin := .noDataDependentSearch
  searchAttestedBy := none
  searchRunId := none
  materiallyDifferent := none
  validationCampaign := none
  version_pos := h
  searched := by decide
  registrable := by decide
  named := by decide
  attested := by decide
  theory := fun _ => rfl
  distinct := by simp

/-- Reviewed, novel and powered. -/
def cleared (hypothesisId : String) (version : Nat) : RegisterInputs where
  critiqueOf := (hypothesisId, version)
  critiqueBlocks := false
  lineage := none
  novel := true
  observed := none
  assess := fun _ _ => none

theorem rivals_own {hypothesisId : String} (h : ∀ x ∈ t.rows, x.ownUnspentClaim hypothesisId)
    (dataset : String) (start finish now : Int) :
    rivals t hypothesisId dataset start finish now = [] := by
  apply List.eq_nil_iff_forall_not_mem.2; intro x hx
  obtain ⟨hmem, _, _, _, hforeign⟩ := mem_rivals.1 hx; exact hforeign (h x hmem)

/-- Where every window is the hypothesis's own and unspent, its check misses nothing. -/
theorem missesNothing_own (now : Int) (h : ∀ x ∈ w.windows.rows, x.ownUnspentClaim ref.hypothesisId)
    (hseen : ∀ x ∈ seen.rows, x.ownUnspentClaim ref.hypothesisId) :
    MissesNothing w ref now seen := by
  intro _ row _; refine ⟨fun name _ _ => rivals_own h name _ _ _, ?_⟩
  rw [rivals_own h, rivals_own hseen]

theorem write_reads (_ : ((handover contentId).restrict ReadsAll).Reachable w)
    (hp : w.pending p = some (.consuming ref now seen)) (h : MissesNothing w ref now seen) :
    ∃ w', ((handover contentId).restrict ReadsAll).step w (.write p) w' := by
  refine ⟨_, .write hp, fun q ref' now' seen' hm hq => ?_⟩; cases hm
  rw [hp] at hq; cases hq; exact h

/-- A caller that registers, checks and is about to write. -/
theorem protected_at_most_once_single :
    ∃ w w' : World, ((handover plainId).restrict ReadsAll).step w (.write 0) w' ∧
      Once w.windows ∧ Untouched w.windows ⟨"H1", 1, "us-equities-daily", .protectedEvaluation⟩ 5 := by
  let first := holdout "H1" 1 "us-equities-daily" (by decide)
  let r₁ : Registration := ⟨first, 0, 69, false, 90⟩
  let c₁ : WindowRef := ⟨"H1", 1, "us-equities-daily", .protectedEvaluation⟩
  have h₀ : ((handover plainId).restrict ReadsAll).Reachable {} := ⟨{}, [], rfl, .nil _⟩
  have h₁ := h₀.step (l := Move.judge 0 first (cleared "H1" 1) 0)
    ⟨.judge (r := r₁) (by decide), fun _ _ _ _ hm => (by cases hm)⟩
  have h₂ := h₁.step (l := Move.insert 0)
    ⟨.insert (r := r₁) rfl, fun _ _ _ _ hm => (by cases hm)⟩
  have h₃ := h₂.step (l := Move.check 0 c₁ 5)
    ⟨.check (by decide), fun _ _ _ _ hm => (by cases hm)⟩
  obtain ⟨w', hstep⟩ := write_reads (p := 0) h₃ rfl
    (missesNothing_own 5 (by decide) (by decide))
  have hall := protected_at_most_once h₃
  exact ⟨_, w', hstep, hall.2.1, hall.1 0 c₁ 5 _ w' rfl rfl hstep (by decide)⟩

theorem aliased_twice : ∃ w, (handover plainId).Reachable w ∧ ¬ Once w.windows := by
  let sip := holdout "H1" 1 "sip-us-equities-daily" (by decide)
  let alpaca := holdout "H2" 1 "alpaca-us-equities-daily" (by decide)
  let r₁ : Registration := ⟨sip, 0, 69, false, 90⟩
  let r₂ : Registration := ⟨alpaca, 0, 70, false, 90⟩
  let c₁ : WindowRef := ⟨"H1", 1, "sip-us-equities-daily", .protectedEvaluation⟩
  let c₂ : WindowRef := ⟨"H2", 1, "alpaca-us-equities-daily", .protectedEvaluation⟩
  have h₀ : (handover plainId).Reachable {} := ⟨{}, [], rfl, .nil _⟩
  have h₁ := h₀.step (l := Move.judge 0 sip (cleared "H1" 1) 0)
    (.judge (r := r₁) (by decide))
  have h₂ := h₁.step (.insert (p := 0) (r := r₁) rfl)
  have h₃ := h₂.step (l := Move.judge 1 alpaca (cleared "H2" 1) 0)
    (.judge (r := r₂) (by decide))
  have h₄ := h₃.step (.insert (p := 1) (r := r₂) rfl)
  have h₅ := h₄.step (l := Move.check 0 c₁ 5) (.check (by decide))
  have h₆ := h₅.step (.write (p := 0) rfl)
  have h₇ := h₆.step (l := Move.check 1 c₂ 6) (.check (by decide))
  have h₈ := h₇.step (.write (p := 1) rfl); exact ⟨_, h₈, by decide⟩

end Quantbot.L3.Registry
