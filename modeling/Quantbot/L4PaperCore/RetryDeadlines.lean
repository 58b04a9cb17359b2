import Mathlib.Logic.Function.Basic
import Mathlib.Tactic.Linarith
import Quantbot.L4PaperCore.RequestWindows

/-!
# A provider's retry deadline

`observe` keeps the later of two deadlines, `_state` does not: where the host epoch has changed
or a clock has gone back it writes a minute over whatever was there. `deadline_dropped` is such a
run: a 429 asks for fifteen minutes, the next reading is a second back, and a request is
admitted a minute later.

A run here knows elapsed time, which no process reads: a deadline is the time of the answer and
the delay it set (`retryDelay`). `deadlines_kept`: in every run whose calls are all `Timely`, a
request is admitted only when the scope's deadline has passed. `Timely` asks that no row starts
over while more than a minute of the deadline remains, and that no clock is ahead of the one the
deadline is written with.

The proof carries `Covered`: read by that clock, the row's deadline is no earlier than the
provider's.
-/
namespace Quantbot.L4.RequestBudget

open Core Txn

variable {H : HeaderReading} {B : Budget} {now : ℚ}

/-! ## What a call does to the scope -/

/-- The delay that a call sets. -/
def Call.delay (H : HeaderReading) : Call → Option ℚ
  | .observe response => retryDelay H response
  | _ => none

/-- The scope's row after a call. -/
def ControlStore.rowAfter (s : ControlStore) (H : HeaderReading) (B : Budget) (now : ℚ) :
    Call → Scope
  | .observe response => s.answered B H response now
  | _ => s.row B now

theorem le_rowAfter_blocked (s : ControlStore) (call : Call) :
    (s.row B now).blocked ≤ (s.rowAfter H B now call).blocked := by
  cases call with
  | observe response =>
    show _ ≤ ((retryDelay H response).map _).getD _
    cases retryDelay H response with
    | none => exact le_refl _
    | some delay => exact le_max_left _ _
  | _ => exact le_refl _

theorem delay_le_blocked {s : ControlStore} {call : Call} {delay : ℚ}
    (h : call.delay H = some delay) : now + delay ≤ (s.rowAfter H B now call).blocked := by
  cases call with
  | observe response =>
    show _ ≤ ((retryDelay H response).map _).getD _
    rw [show retryDelay H response = some delay from h]; exact le_max_right _ _
  | _ => cases h

/-- What a call that returns does to the scopes, and when it admits. -/
structure Rowed (H : HeaderReading) (B : Budget) (now : ℚ) (s : ControlStore) (call : Call)
    (answer : Answer) (s' : ControlStore) : Prop where
  admits : answer.admits = true → (s.row B now).cooldown ≤ now ∧ (s.row B now).blocked ≤ now
  own : s'.scopes.get? B.scope = some (s.rowAfter H B now call)
  other : ∀ scope, scope ≠ B.scope → s'.scopes.get? scope = s.scopes.get? scope

variable {answer : Answer} {s s' : ControlStore}

theorem Rowed.of_sampled {call : Call}
    (hscopes : s'.scopes = (s.sampled B now).scopes) (hrow : s.rowAfter H B now call = s.row B now)
    (hadmits : answer.admits = true → (s.row B now).cooldown ≤ now ∧ (s.row B now).blocked ≤ now) :
    Rowed H B now s call answer s' where
  admits := hadmits
  own := by rw [hscopes, hrow]; exact sampled_scope
  other scope h := by rw [hscopes]; exact sampled_scope_other h

theorem reserve_rowed {role : Role} {purpose : String} {consumed : Bool} {reuse : Option ℕ}
    {answer : Option ℕ} (h : reserve B role purpose now consumed reuse s = .ok answer s') :
    s'.scopes = (s.sampled B now).scopes ∧
      (answer.isSome = true → (s.row B now).cooldown ≤ now ∧ (s.row B now).blocked ≤ now) := by
  rcases reserve_ok h with ⟨rfl, refusals, rfl⟩ | ⟨judged, _, hreason, _, rfl⟩
  · exact ⟨rfl, nofun⟩
  · obtain ⟨hcooldown, hblocked, _⟩ := refusalReason_none hreason
    exact ⟨rfl, fun _ => ⟨hcooldown, hblocked⟩⟩

theorem perform_rowed {call : Call}
    (h : call.perform H B now s = .ok answer s') : Rowed H B now s call answer s' := by
  cases call with
  | reserve role purpose consumed reuse =>
    obtain ⟨identity, s₁, hreserve, h⟩ := bind_ok.1 h
    obtain ⟨rfl, rfl⟩ := pure_ok.1 h
    obtain ⟨hscopes, hadmits⟩ := reserve_rowed hreserve
    exact .of_sampled hscopes rfl hadmits
  | acquire role purpose =>
    obtain ⟨admitted, s₁, hacquire, h⟩ := bind_ok.1 h
    obtain ⟨rfl, rfl⟩ := pure_ok.1 h
    obtain ⟨identity, s₂, hreserve, hacquire⟩ := bind_ok.1 hacquire
    obtain ⟨rfl, rfl⟩ := pure_ok.1 hacquire
    obtain ⟨hscopes, hadmits⟩ := reserve_rowed hreserve
    exact .of_sampled hscopes rfl hadmits
  | consume identity role =>
    obtain ⟨admitted, s₁, hconsume, h⟩ := bind_ok.1 h
    obtain ⟨rfl, rfl⟩ := pure_ok.1 h
    rcases consume_ok hconsume with ⟨rfl, rfl⟩ | ⟨_, _, _, hdeadline, _, _, rfl⟩
    · exact .of_sampled rfl rfl nofun
    · exact .of_sampled rfl rfl fun _ => max_le_iff.1 hdeadline
  | status =>
    obtain ⟨_, s₁, hstatus, h⟩ := bind_ok.1 h; obtain ⟨rfl, rfl⟩ := pure_ok.1 h
    rw [status_ok hstatus]; exact .of_sampled rfl rfl nofun
  | observe response =>
    obtain ⟨_, s₁, hobserve, h⟩ := bind_ok.1 h; obtain ⟨rfl, rfl⟩ := pure_ok.1 h
    rw [observe_ok hobserve]
    have hscope : (s.answered B H response now).scope = B.scope := row_scope s now
    refine ⟨nofun, ?_, fun scope hne => ?_⟩
    · show ((s.sampled B now).scopes.upsert (s.answered B H response now)).get? B.scope = _
      rw [Table.get?_upsert, if_pos hscope]; rfl
    · show ((s.sampled B now).scopes.upsert (s.answered B H response now)).get? scope = _
      rw [Table.get?_upsert, if_neg (by rw [hscope]; exact hne.symm)]
      exact sampled_scope_other hne

/-! ## Elapsed time -/

/-- An admitted request, and the deadline of its scope when it was. -/
structure Admission where
  scope : String
  at_ : ℚ
  deadline : Option ℚ
deriving DecidableEq

/-- The shared database and what only elapsed time tells: the deadlines the provider set, and by
how much the clock a deadline is written with leads elapsed time. -/
structure Clocked where
  store : ControlStore := {}
  elapsed : ℚ := 0
  deadline : String → Option ℚ := fun _ => none
  lead : String → ℚ := fun _ => 0
  admissions : List Admission := []

/-- A call at a time. -/
structure TimedRequest extends Request where
  elapsed : ℚ

/-- The caller finds a row that starts over. -/
def Restarts (s : ControlStore) (B : Budget) (now : ℚ) : Prop :=
  ∃ row, s.scopes.get? B.scope = some row ∧
    startsOver B row (s.issuers.get? (B.scope, B.epoch, B.issuer)) now = true

/-- The call writes the scope's deadline: it creates or restarts the row, or sets a delay. -/
def writesDeadline (s : ControlStore) (H : HeaderReading) (q : Request) : Bool :=
  match s.scopes.get? q.budget.scope with
  | none => true
  | some row =>
    startsOver q.budget row
        (s.issuers.get? (q.budget.scope, q.budget.epoch, q.budget.issuer)) q.now ||
      (q.call.delay H).isSome

/-- The later of a deadline and one that an answer sets. -/
def laterDeadline (deadline : Option ℚ) (elapsed : ℚ) : Option ℚ → Option ℚ
  | none => deadline
  | some delay => some ((deadline.map fun d => max d (elapsed + delay)).getD (elapsed + delay))

def Clocked.answered (H : HeaderReading) (s : Clocked) (q : TimedRequest) (answer : Answer)
    (store : ControlStore) : Clocked where
  store := store
  elapsed := q.elapsed
  deadline := Function.update s.deadline q.budget.scope
    (laterDeadline (s.deadline q.budget.scope) q.elapsed (q.call.delay H))
  lead := if writesDeadline s.store H q.toRequest then
      Function.update s.lead q.budget.scope (q.now - q.elapsed) else s.lead
  admissions := if answer.admits then
      s.admissions ++ [⟨q.budget.scope, q.elapsed, s.deadline q.budget.scope⟩] else s.admissions

def Clocked.call (H : HeaderReading) (s : Clocked) (q : TimedRequest) : Clocked :=
  match immediate (q.call.perform H q.budget q.now) s.store with
  | .ok answer store => s.answered H q answer store
  | .error _ store => { s with store := store, elapsed := q.elapsed }

/-- Calls of any processes with any clocks, in the order of elapsed time. -/
def deadlineRuns (H : HeaderReading) : LTS Clocked TimedRequest where
  init s := s = {}
  step s q s' := s.elapsed ≤ q.elapsed ∧ s' = s.call H q

/-- No row starts over while more than a minute of the deadline remains, and no clock is ahead of
the one the deadline is written with. -/
def Timely (s : Clocked) (q : TimedRequest) (_ : Clocked) : Prop :=
  (Restarts s.store q.budget q.now →
    ∀ d ∈ s.deadline q.budget.scope, d ≤ q.elapsed + window) ∧
  ((s.store.scopes.get? q.budget.scope).isSome → ¬ Restarts s.store q.budget q.now →
    q.now - q.elapsed ≤ s.lead q.budget.scope)

/-! ## The deadline is covered -/

/-- By the clock it is written with, the row's deadline is no earlier than the provider's, and
every request so far was admitted after its scope's deadline. -/
structure Covered (s : Clocked) : Prop where
  covered : ∀ scope, ∀ d ∈ s.deadline scope, ∃ row, s.store.scopes.get? scope = some row ∧
    d + s.lead scope ≤ row.blocked
  admitted : ∀ a ∈ s.admissions, ∀ d ∈ a.deadline, d ≤ a.at_

/-- The row that a call finds: new, started over, or only brought up to the clock. -/
theorem row_cases (s : ControlStore) (B : Budget) (now : ℚ) : s.scopes.get? B.scope = none ∨
    (Restarts s B now ∧ (s.row B now).blocked = now + window ∧
      (s.row B now).cooldown = now + window) ∨
    ∃ row, s.scopes.get? B.scope = some row ∧ ¬ Restarts s B now ∧
      (s.row B now).blocked = row.blocked := by
  cases hrow : s.scopes.get? B.scope with
  | none => exact .inl rfl
  | some row =>
    right
    cases hover : startsOver B row (s.issuers.get? (B.scope, B.epoch, B.issuer)) now with
    | true =>
      left
      refine ⟨⟨row, hrow, hover⟩, ?_, ?_⟩ <;> simp [ControlStore.row, nextScope, hrow, hover]
    | false =>
      right
      refine ⟨row, rfl, ?_, by simp [ControlStore.row, nextScope, hrow, hover]⟩
      rintro ⟨row', hrow', hover'⟩
      obtain rfl : row = row' := Option.some.inj (hrow.symm.trans hrow')
      rw [hover] at hover'; cases hover'

theorem writesDeadline_eq_false {s : ControlStore} {q : Request}
    (h : writesDeadline s H q = false) : ∃ row, s.scopes.get? q.budget.scope = some row ∧
      ¬ Restarts s q.budget q.now ∧ q.call.delay H = none := by
  unfold writesDeadline at h
  cases hrow : s.scopes.get? q.budget.scope with
  | none =>
    rw [hrow] at h; cases h
  | some row =>
    simp only [hrow, Bool.or_eq_false_iff, Option.isSome_eq_false_iff, Option.isNone_iff_eq_none] at h
    refine ⟨row, rfl, ?_, h.2⟩; rintro ⟨row', hrow', hover⟩
    obtain rfl : row = row' := Option.some.inj (hrow.symm.trans hrow')
    rw [h.1] at hover; cases hover

theorem mem_laterDeadline {deadline delay : Option ℚ} {elapsed d : ℚ}
    (h : d ∈ laterDeadline deadline elapsed delay) :
    (d ∈ deadline) ∨ ∃ x, delay = some x ∧ d = elapsed + x := by
  cases delay with
  | none => exact .inl h
  | some x =>
    cases deadline with
    | none => exact .inr ⟨x, rfl, (Option.some.inj h).symm⟩
    | some old =>
      obtain rfl : max old (elapsed + x) = d := Option.some.inj h
      rcases max_choice old (elapsed + x) with hmax | hmax
      · exact .inl (by rw [hmax]; rfl)
      · exact .inr ⟨x, rfl, hmax⟩

variable {q : TimedRequest} {s : Clocked}

theorem Covered.carried (h : Covered s)
    (hq : Timely s q (s.call H q)) {d : ℚ} (hd : d ∈ s.deadline q.budget.scope) :
    d + (q.now - q.elapsed) ≤ (s.store.row q.budget q.now).blocked := by
  obtain ⟨row, hrow, hcovered⟩ := h.covered _ d hd
  rcases row_cases s.store q.budget q.now with hnone | ⟨hrestarts, hblocked, _⟩ |
    ⟨row', hrow', hsteady, hblocked⟩
  · rw [hrow] at hnone; cases hnone
  · have hshort := hq.1 hrestarts d hd; linarith
  · obtain rfl : row = row' := Option.some.inj (hrow.symm.trans hrow')
    have hlead := hq.2 (by rw [hrow]; rfl) hsteady; linarith

theorem Covered.passed (h : Covered s) (hq : Timely s q (s.call H q))
    (hadmits : (s.store.row q.budget q.now).cooldown ≤ q.now ∧
      (s.store.row q.budget q.now).blocked ≤ q.now)
    {d : ℚ} (hd : d ∈ s.deadline q.budget.scope) : d ≤ q.elapsed := by
  have hcarried := h.carried hq hd; linarith [hadmits.2]

theorem Covered.covered_after (h : Covered s) (hcarried : ∀ d ∈ s.deadline q.budget.scope,
      d + (q.now - q.elapsed) ≤ (s.store.row q.budget q.now).blocked) {store : ControlStore} {d : ℚ}
    (hd : d ∈ laterDeadline (s.deadline q.budget.scope) q.elapsed (q.call.delay H)) :
    d + (s.answered H q answer store).lead q.budget.scope ≤
      (s.store.rowAfter H q.budget q.now q.call).blocked := by
  show d + (if writesDeadline s.store H q.toRequest then _ else _ : String → ℚ) _ ≤ _
  cases hwrites : writesDeadline s.store H q.toRequest with
  | true =>
    rw [if_pos rfl, Function.update_self]
    rcases mem_laterDeadline hd with hold | ⟨delay, hdelay, rfl⟩
    · exact (hcarried d hold).trans (le_rowAfter_blocked _ _)
    have hset : q.now + delay ≤ (s.store.rowAfter H q.budget q.now q.call).blocked :=
      delay_le_blocked hdelay
    linarith
  | false =>
    obtain ⟨row, hrow, hsteady, hdelay⟩ := writesDeadline_eq_false hwrites
    rw [hdelay] at hd; obtain ⟨old, hold, hcovered⟩ := h.covered _ d hd
    rcases row_cases s.store q.budget q.now with hnone | ⟨hrestarts, _⟩ |
      ⟨row', hrow', _, hblocked⟩
    · rw [hold] at hnone; cases hnone
    · exact absurd hrestarts hsteady
    · obtain rfl : old = row' := Option.some.inj (hold.symm.trans hrow')
      rw [← hblocked] at hcovered
      exact hcovered.trans (le_rowAfter_blocked _ _)

theorem answered_lead_other {store : ControlStore} {scope : String} (h : scope ≠ q.budget.scope) :
    (s.answered H q answer store).lead scope = s.lead scope := by
  show (if writesDeadline s.store H q.toRequest then _ else _ : String → ℚ) scope = _
  split
  · rw [Function.update_of_ne h]
  · rfl

theorem Covered.call (h : Covered s) (hq : Timely s q (s.call H q)) : Covered (s.call H q) := by
  have hcarried := fun d hd => h.carried hq (d := d) hd
  have hpassed := fun hadmits d hd => h.passed hq hadmits (d := d) hd
  unfold Clocked.call
  cases hperform : immediate (q.call.perform H q.budget q.now) s.store with
  | error e store =>
    rw [immediate_error hperform]; exact ⟨h.covered, h.admitted⟩
  | ok answer store =>
    have hrowed := perform_rowed (immediate_ok.1 hperform); constructor
    · intro scope d hd; change d ∈ Function.update s.deadline _ _ scope at hd
      by_cases hscope : scope = q.budget.scope
      · subst hscope; rw [Function.update_self] at hd
        exact ⟨_, hrowed.own, h.covered_after hcarried hd⟩
      rw [Function.update_of_ne hscope] at hd
      obtain ⟨row, hrow, hcovered⟩ := h.covered scope d hd
      refine ⟨row, (hrowed.other scope hscope).trans hrow, ?_⟩
      show d + (s.answered H q answer store).lead scope ≤ _
      rw [answered_lead_other hscope]; exact hcovered
    · intro a ha d hd
      change a ∈ (if answer.admits then _ else _ : List Admission) at ha
      split at ha
      · next hadmits =>
        rcases List.mem_append.1 ha with ha | ha
        · exact h.admitted a ha d hd
        · obtain rfl := List.mem_singleton.1 ha
          exact hpassed (hrowed.admits hadmits) d hd
      · exact h.admitted a ha d hd

theorem covered_inductive : ((deadlineRuns H).restrict Timely).Inductive Covered where
  init s h := by
    obtain rfl := h; exact ⟨fun _ _ hd => (by cases hd), nofun⟩
  step s q s' h hst := by
    obtain ⟨⟨_, rfl⟩, hq⟩ := hst; exact h.call hq

/-- **No request before the deadline.** In every run whose calls are all timely, every request
was admitted when the deadline of its scope had passed. -/
theorem deadlines_kept (H : HeaderReading) {s : Clocked}
    (h : ((deadlineRuns H).restrict Timely).Reachable s) :
    ∀ a ∈ s.admissions, ∀ d ∈ a.deadline, d ≤ a.at_ :=
  (covered_inductive.reachable h).admitted

/-! ## A clock a second back -/

def secondsReading : HeaderReading where
  int _ := none
  float text := if text = "900" then some (.finite 900) else none
  date _ := none

/-- The provider asks for fifteen minutes. -/
def limited429 : TimedRequest where
  budget := guardianBudget
  now := 100
  call := .observe ⟨429, [("Retry-After", "900")], 0⟩
  elapsed := 100

def acquiring (now elapsed : ℚ) : TimedRequest where
  budget := guardianBudget
  now := now
  call := .acquire .guardian "R"
  elapsed := elapsed

def limitedSystem : Clocked := Clocked.call secondsReading {} limited429

/-- A reading of 99 behind one of 100 leaves a minute of the fifteen. -/
theorem deadline_dropped : ∃ s, (deadlineRuns secondsReading).Reachable s ∧
    ∃ a ∈ s.admissions, a.at_ = 161 ∧ a.deadline = some 1000 := by
  let regressed := limitedSystem.call secondsReading (acquiring 99 101)
  refine ⟨regressed.call secondsReading (acquiring 159 161), ⟨{}, _, rfl,
    .cons (l := limited429) ⟨by decide, rfl⟩
      (.cons (l := acquiring 99 101) ⟨by decide, rfl⟩
        (.cons (l := acquiring 159 161) ⟨by decide +kernel, rfl⟩ (.nil _)))⟩,
    ⟨"a", 161, some 1000⟩, by decide +kernel, rfl, rfl⟩

/-- The same answer, and a request behind the fifteen minutes. -/
theorem deadlines_kept_waited :
    (limitedSystem.call secondsReading (acquiring 1001 1001)).admissions.length = 1 ∧
    ∀ a ∈ (limitedSystem.call secondsReading (acquiring 1001 1001)).admissions,
      ∀ d ∈ a.deadline, d ≤ a.at_ := by
  have hsteady : ¬ Restarts limitedSystem.store guardianBudget 1001 := by
    rintro ⟨row, hrow, hover⟩
    have hrow' : limitedSystem.store.scopes.get? "a" = some ⟨"a", "e", 100, 100, 1000, 180, 100⟩ := by
      decide +kernel
    obtain rfl : _ = row := Option.some.inj (hrow'.symm.trans hrow)
    revert hover; decide
  refine ⟨by decide +kernel, deadlines_kept secondsReading ⟨{}, _, rfl,
    .cons (l := limited429) ⟨⟨by decide, rfl⟩, ?_, ?_⟩
      (.cons (l := acquiring 1001 1001) ⟨⟨by decide, rfl⟩, ?_, ?_⟩ (.nil _))⟩⟩
  · intro _ d hd; cases hd
  · intro hsome; cases hsome
  · intro hrestarts; exact absurd hrestarts hsteady
  · intro _ _; decide +kernel

end Quantbot.L4.RequestBudget
