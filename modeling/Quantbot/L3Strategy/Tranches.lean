import Mathlib.Data.List.Basic
import Mathlib.Data.List.MinMax
import Mathlib.Data.Int.Order.Basic

/-!
# The tranche schedule

`strategy/tranches.py`. `trancheSchedule` walks the sessions once and closes a month at
its last session; `IsFinal` says which sessions those are.

* `getItem_trancheSchedule_final`: a month's last session belongs to the last tranche,
  whatever the count of tranches and of sessions.
* `mem_trancheSchedule_one`: with one tranche nothing else is in the schedule.
-/
namespace Quantbot.L3.Strategy

/-! ## Dictionaries of sessions -/

/-- `d[key] = value`: in place, or at the end. -/
def setItem : List (ℕ × ℕ) → ℕ → ℕ → List (ℕ × ℕ)
  | [], key, value => [(key, value)]
  | (k, v) :: d, key, value => if k = key then (key, value) :: d else (k, v) :: setItem d key value

/-- `d.get(key)`. -/
def getItem (d : List (ℕ × ℕ)) (key : ℕ) : Option ℕ :=
  (d.find? fun item => item.1 = key).map Prod.snd

theorem getItem_setItem (d : List (ℕ × ℕ)) (key value j : ℕ) :
    getItem (setItem d key value) j = if j = key then some value else getItem d j := by
  induction d with
  | nil =>
    unfold setItem getItem; by_cases h : key = j
    · simp [h]
    · simp [h, Ne.symm h]
  | cons item d ih =>
    obtain ⟨k, v⟩ := item; unfold setItem; by_cases hk : k = key
    · rw [if_pos hk]; subst hk; unfold getItem; by_cases h : k = j
      · simp [h]
      · simp [h, Ne.symm h]
    · rw [if_neg hk]; unfold getItem at ih ⊢; by_cases h : k = j
      · subst h; simp [hk]
      · simp only [List.find?_cons, h, decide_false]; exact ih

theorem mem_setItem {d : List (ℕ × ℕ)} {key value : ℕ} {item : ℕ × ℕ}
    (h : item ∈ setItem d key value) : item = (key, value) ∨ item ∈ d := by
  induction d with
  | nil => exact .inl (List.mem_singleton.1 h)
  | cons head d ih =>
    unfold setItem at h; split at h
    · rcases List.mem_cons.1 h with h | h
      · exact .inl h
      · exact .inr (List.mem_cons_of_mem _ h)
    · rcases List.mem_cons.1 h with h | h
      · exact .inr (h ▸ List.mem_cons_self)
      · exact (ih h).imp_right (List.mem_cons_of_mem _)

theorem mem_of_getItem {d : List (ℕ × ℕ)} {key value : ℕ} (h : getItem d key = some value) :
    (key, value) ∈ d := by
  obtain ⟨⟨k, v⟩, hfind, hv⟩ := Option.map_eq_some_iff.1 h
  have hkey : k = key := by simpa using List.find?_some hfind
  have hval : v = value := hv; rw [← hkey, ← hval]
  exact List.mem_of_find?_eq_some hfind

/-! ## The schedule -/

/-- `round(number / divisor)`: half goes to the even neighbour. A month has at most 31
sessions, where the division's own rounding decides no case. -/
def roundHalfEven (number divisor : ℕ) : ℕ :=
  let quotient := number / divisor
  let rest := number % divisor
  if 2 * rest < divisor then quotient
  else if divisor < 2 * rest then quotient + 1
  else if quotient % 2 = 0 then quotient
  else quotient + 1

/-- Where in a month of `count` sessions a tranche rebalances; the subtraction stops at 0, as
the source's `max` does. -/
def trancheOffset (tranches count tranche : ℕ) : ℕ :=
  min (count - 1) (roundHalfEven ((tranche + 1) * count) tranches - 1)

/-- The inner loop: one entry per tranche, a later one over an earlier. -/
def closeMonth (tranches start count : ℕ) (schedule : List (ℕ × ℕ)) : List (ℕ × ℕ) :=
  (List.range tranches).foldl
    (fun d tranche => setItem d (start + trancheOffset tranches count tranche) tranche) schedule

/-- One round of the outer loop over the schedule so far and the month's first session. -/
def scheduleStep {μ : Type} [DecidableEq μ] (sessionMonths : List μ) (tranches : ℕ)
    (state : List (ℕ × ℕ) × ℕ) (index : ℕ) : List (ℕ × ℕ) × ℕ :=
  let (schedule, start) := state
  if index = sessionMonths.length ∨ (0 < index ∧ sessionMonths[index]? ≠ sessionMonths[start]?) then
    (if index - start ≠ 0 then closeMonth tranches start (index - start) schedule else schedule,
      index)
  else (schedule, start)

/-- mirrors tranches.py:24-52 -/
def trancheSchedule {μ : Type} [DecidableEq μ] (sessionMonths : List μ) (tranches : ℕ) :
    Except String (List (ℕ × ℕ)) :=
  if tranches < 1 then .error "tranches must be at least 1"
  else .ok ((List.range (sessionMonths.length + 1)).foldl (scheduleStep sessionMonths tranches)
    ([], 0)).1

/-- mirrors tranches.py:95-109 -/
def nextRebalanceIndex (schedule : List (ℕ × ℕ)) (afterIndex : ℕ) (tranche : Int) : Option ℕ :=
  ((schedule.filter fun item => (item.2 : Int) = tranche ∧ afterIndex < item.1).map Prod.fst).min?

/-! ## What the schedule holds -/

section Schedule
set_option linter.unusedSectionVars false

variable {μ : Type} [DecidableEq μ] {months : List μ} {tranches : ℕ}

/-- The last session of its month, as far as the sequence goes. -/
def IsFinal (months : List μ) (index : ℕ) : Prop :=
  index < months.length ∧ (index + 1 = months.length ∨ months[index + 1]? ≠ months[index]?)

theorem roundHalfEven_mul {tranches : ℕ} (h : 0 < tranches) (count : ℕ) :
    roundHalfEven (tranches * count) tranches = count := by
  unfold roundHalfEven; simp [Nat.mul_div_cancel_left _ h, h]

variable {count index : ℕ}

theorem trancheOffset_last (t : ℕ) : trancheOffset (t + 1) count t = count - 1 := by
  unfold trancheOffset; rw [roundHalfEven_mul (Nat.succ_pos t)]
  exact Nat.min_self _

theorem trancheOffset_le (tranches count tranche : ℕ) :
    trancheOffset tranches count tranche ≤ count - 1 := Nat.min_le_left _ _

theorem getItem_closeMonth_of_lt {start j : ℕ} (hj : j < start) (schedule : List (ℕ × ℕ)) :
    getItem (closeMonth tranches start count schedule) j = getItem schedule j := by
  unfold closeMonth; generalize List.range tranches = ts
  induction ts generalizing schedule with
  | nil => rfl
  | cons t ts ih =>
    rw [List.foldl_cons, ih, getItem_setItem, if_neg (by omega)]

theorem getItem_closeMonth_last {start : ℕ} (ht : 0 < tranches) (schedule : List (ℕ × ℕ)) :
    getItem (closeMonth tranches start count schedule) (start + (count - 1)) =
      some (tranches - 1) := by
  obtain ⟨t, rfl⟩ := Nat.exists_eq_succ_of_ne_zero ht.ne'; unfold closeMonth
  rw [List.range_succ, List.foldl_append]
  show getItem (setItem _ (start + trancheOffset (t + 1) count t) t) _ = _
  rw [getItem_setItem, trancheOffset_last, if_pos rfl]; rfl

theorem closeMonth_one (start count : ℕ) (schedule : List (ℕ × ℕ)) :
    closeMonth 1 start count schedule = setItem schedule (start + (count - 1)) 0 := by
  show setItem schedule (start + trancheOffset 1 count 0) 0 = _
  rw [trancheOffset_last]

/-- The state of the walk before the session at `index`: the month began at `state.2` and has
not changed since; every month's last session before it is entered. -/
structure Walked (months : List μ) (tranches index : ℕ) (state : List (ℕ × ℕ) × ℕ) : Prop where
  start_le : state.2 ≤ index
  start_lt : 0 < index → state.2 < index
  same : ∀ i, state.2 ≤ i → i < index → months[i]? = months[state.2]?
  entered : ∀ e, IsFinal months e → e < state.2 → getItem state.1 e = some (tranches - 1)
  only : tranches = 1 → ∀ item ∈ state.1, IsFinal months item.1 ∧ item.2 = 0

theorem Walked.zero : Walked months tranches 0 ([], 0) where
  start_le := Nat.le_refl 0
  start_lt := fun h => absurd h (Nat.lt_irrefl 0)
  same := fun i _ h => absurd h (Nat.not_lt_zero i)
  entered := fun e _ h => absurd h (Nat.not_lt_zero e)
  only := fun _ _ h => absurd h List.not_mem_nil

variable {state : List (ℕ × ℕ) × ℕ}

section

variable (h : Walked months tranches index state)
include h

theorem Walked.goOn (hsame : 0 < index → months[index]? = months[state.2]?) :
    Walked months tranches (index + 1) state where
  start_le := Nat.le_succ_of_le h.start_le
  start_lt := fun _ => Nat.lt_succ_of_le h.start_le
  same := by
    intro i hi hlt
    rcases Nat.lt_succ_iff_lt_or_eq.1 hlt with hlt | rfl
    · exact h.same i hi hlt
    rcases Nat.eq_zero_or_pos i with rfl | hpos
    · rw [Nat.le_zero.1 hi]
    · exact hsame hpos
  entered := h.entered
  only := h.only

/-- The session before a change of month, or the very last one, is a month's last. -/
theorem Walked.isFinal (hpos : 0 < index) (hle : index ≤ months.length)
    (hend : index = months.length ∨ months[index]? ≠ months[state.2]?) :
    IsFinal months (index - 1) := by
  have hlt := h.start_lt hpos; refine ⟨by omega, ?_⟩
  rcases hend with hend | hend
  · left; omega
  · right
    rw [Nat.sub_add_cancel hpos, h.same (index - 1) (by omega) (by omega)]
    exact hend

/-- A month that ends enters its last session, and only that one among final sessions. -/
theorem Walked.close (ht : 0 < tranches) (hpos : 0 < index) (hle : index ≤ months.length)
    (hend : index = months.length ∨ months[index]? ≠ months[state.2]?) :
    Walked months tranches (index + 1)
      (closeMonth tranches state.2 (index - state.2) state.1, index) := by
  have hlt := h.start_lt hpos
  have hlast : state.2 + (index - state.2 - 1) = index - 1 := by omega
  refine ⟨Nat.le_succ index, fun _ => Nat.lt_succ_self index, ?_, ?_, ?_⟩
  · intro i hi hlt; rw [show i = index by omega]
  · intro e he helt; rcases Nat.lt_or_ge e state.2 with hbefore | hin
    · rw [getItem_closeMonth_of_lt hbefore]; exact h.entered e he hbefore
    by_cases hprev : e = index - 1
    · rw [hprev, ← hlast]; exact getItem_closeMonth_last ht _
    -- inside the month the next session has the same month
    exfalso; rcases he.2 with hlen | hchange
    · omega
    · exact hchange ((h.same (e + 1) (by omega) (by omega)).trans
        (h.same e hin helt).symm)
  · intro hone item hitem; subst hone; rw [closeMonth_one] at hitem
    rcases mem_setItem hitem with rfl | hitem
    · exact ⟨hlast ▸ h.isFinal hpos hle hend, rfl⟩
    · exact h.only rfl item hitem

end

theorem scheduleStep_close (hlt : state.2 < index)
    (hend : index = months.length ∨ months[index]? ≠ months[state.2]?) :
    scheduleStep months tranches state index =
      (closeMonth tranches state.2 (index - state.2) state.1, index) := by
  unfold scheduleStep; dsimp only
  rw [if_pos (hend.imp_right fun h => ⟨by omega, h⟩), if_pos (by omega)]

theorem Walked.step (h : Walked months tranches index state) (ht : 0 < tranches)
    (hne : months ≠ []) (hle : index ≤ months.length) :
    Walked months tranches (index + 1) (scheduleStep months tranches state index) := by
  have hlen := List.length_pos_of_ne_nil hne
  by_cases hend : index = months.length ∨ (0 < index ∧ months[index]? ≠ months[state.2]?)
  · have hpos : 0 < index := by omega
    have hend' := hend.imp_right And.right
    rw [scheduleStep_close (h.start_lt hpos) hend']
    exact h.close ht hpos hle hend'
  have hstay : scheduleStep months tranches state index = state := by
    unfold scheduleStep; dsimp only; rw [if_neg hend]
  rw [hstay]; refine h.goOn fun hpos => ?_; by_contra hne
  exact hend (.inr ⟨hpos, hne⟩)

theorem walked_range (ht : 0 < tranches) (hne : months ≠ []) {k : ℕ} (hk : k ≤ months.length) :
    Walked months tranches k ((List.range k).foldl (scheduleStep months tranches) ([], 0)) := by
  induction k with
  | zero => exact Walked.zero
  | succ k ih =>
    rw [List.range_succ, List.foldl_append]
    exact (ih (by omega)).step ht hne (by omega)

variable {schedule : List (ℕ × ℕ)}

theorem walked_schedule (hne : months ≠ []) (h : trancheSchedule months tranches = .ok schedule) :
    0 < tranches ∧ Walked months tranches (months.length + 1) (schedule, months.length) := by
  have hlen := List.length_pos_of_ne_nil hne; unfold trancheSchedule at h
  split at h
  · simp at h
  next ht =>
  replace ht : 0 < tranches := by omega
  have hwalk := walked_range ht hne (Nat.le_refl months.length)
  have hclose := hwalk.close ht hlen (Nat.le_refl _) (.inl rfl); refine ⟨ht, ?_⟩
  have hstate := Except.ok.inj h
  rw [List.range_succ, List.foldl_append, List.foldl_cons, List.foldl_nil,
    scheduleStep_close (hwalk.start_lt hlen) (.inl rfl)] at hstate
  rw [← hstate]; exact hclose

/-- **The month's last session is the last tranche's.** -/
theorem getItem_trancheSchedule_final (h : trancheSchedule months tranches = .ok schedule) {e : ℕ}
    (he : IsFinal months e) : getItem schedule e = some (tranches - 1) := by
  have hne : months ≠ [] := List.ne_nil_of_length_pos (by have := he.1; omega)
  exact (walked_schedule hne h).2.entered e he he.1

/-- **With one tranche the schedule is the months' last sessions.** -/
theorem mem_trancheSchedule_one (hne : months ≠ []) (h : trancheSchedule months 1 = .ok schedule)
    {item : ℕ × ℕ} : item ∈ schedule ↔ IsFinal months item.1 ∧ item.2 = 0 := by
  refine ⟨(walked_schedule hne h).2.only rfl item, ?_⟩; intro ⟨hfinal, howner⟩
  have hmem := mem_of_getItem (getItem_trancheSchedule_final h hfinal)
  rw [Nat.sub_self, ← howner] at hmem; exact hmem

/-- With one tranche the next rebalance is the last session of the month that follows. -/
theorem nextRebalanceIndex_one (hne : months ≠ []) (h : trancheSchedule months 1 = .ok schedule)
    {after next : ℕ} (hlt : after < next) (hfinal : IsFinal months next)
    (hsame : ∀ i, after < i → i ≤ next → months[i]? = months[next]?) :
    nextRebalanceIndex schedule after 0 = some next := by
  unfold nextRebalanceIndex; rw [List.min?_eq_some_iff]
  have hmem : (next, 0) ∈ schedule := (mem_trancheSchedule_one hne h).2 ⟨hfinal, rfl⟩
  constructor
  · exact List.mem_map.2 ⟨(next, 0), List.mem_filter.2 ⟨hmem, by simpa using hlt⟩, rfl⟩
  intro b hb; obtain ⟨item, hitem, rfl⟩ := List.mem_map.1 hb
  obtain ⟨hitem, hcond⟩ := List.mem_filter.1 hitem
  have hafter : after < item.1 := (of_decide_eq_true hcond).2
  have hitemFinal := ((mem_trancheSchedule_one hne h).1 hitem).1
  by_contra hless; rcases hitemFinal.2 with hlen | hchange
  · have := hfinal.1; omega
  · exact hchange ((hsame _ (by omega) (by omega)).trans (hsame _ hafter (by omega)).symm)

/-- Two tranches over months of three and of two sessions. -/
example : trancheSchedule ["a", "a", "a", "b", "b"] 2 = .ok [(1, 0), (2, 1), (3, 0), (4, 1)] := by
  decide

end Schedule
end Quantbot.L3.Strategy
