import Quantbot.L3Strategy.Tranches
import Mathlib.Data.Finset.Max
import Mathlib.Data.String.Basic
import Mathlib.Order.Interval.Finset.Nat

/-!
# Every tranche once a month

What `tranche_schedule` gives a whole month. The offsets of the tranches are distinct exactly
when the month has a session for each of them; in a shorter month two tranches share one and
the later entry replaces the earlier.

* `trancheOffset_strict`: with a session for each tranche the offsets increase;
* `rebalancesMonthly_iff`: every tranche rebalances once in every month exactly when no month
  is shorter than the number of tranches.
-/
namespace Quantbot.L3.Strategy

/-! ## Offsets -/

theorem roundHalfEven_bounds {divisor : ℕ} (h : 0 < divisor) (n : ℕ) :
    2 * (roundHalfEven n divisor * divisor) ≤ 2 * n + divisor ∧
      2 * n ≤ 2 * (roundHalfEven n divisor * divisor) + divisor := by
  have hdiv : n / divisor * divisor + n % divisor = n := Nat.div_add_mod' n divisor
  have hrest := Nat.mod_lt n h; unfold roundHalfEven; dsimp only; split
  · omega
  split
  · rw [Nat.add_mul]; omega
  · split
    · omega
    · rw [Nat.add_mul]; omega

section Offsets
variable {tranches count : ℕ}

theorem roundHalfEven_strict (ht : 0 < tranches) (hcount : tranches ≤ count) :
    StrictMono fun tranche => roundHalfEven (tranche * count) tranches := by
  apply strictMono_nat_of_lt_succ; intro tranche
  rcases Nat.lt_or_eq_of_le hcount with hlt | rfl
  · obtain ⟨-, hlow⟩ := roundHalfEven_bounds ht (tranche * count)
    obtain ⟨hlow', hhigh⟩ := roundHalfEven_bounds ht ((tranche + 1) * count)
    obtain ⟨hlow, -⟩ := roundHalfEven_bounds ht (tranche * count); by_contra hle
    have hmul : roundHalfEven ((tranche + 1) * count) tranches * tranches ≤
        roundHalfEven (tranche * count) tranches * tranches :=
      Nat.mul_le_mul_right tranches (Nat.not_lt.1 hle)
    rw [Nat.add_mul] at hmul hhigh; omega
  · rw [Nat.mul_comm, roundHalfEven_mul ht, Nat.mul_comm, roundHalfEven_mul ht]
    omega

theorem trancheOffset_eq (ht : 0 < tranches) (hcount : tranches ≤ count) {tranche : ℕ}
    (hlt : tranche < tranches) : trancheOffset tranches count tranche + 1 =
      roundHalfEven ((tranche + 1) * count) tranches := by
  have hmono := roundHalfEven_strict ht hcount
  have hfirst : roundHalfEven (0 * count) tranches <
      roundHalfEven ((tranche + 1) * count) tranches := hmono (Nat.succ_pos tranche)
  have hlast : roundHalfEven ((tranche + 1) * count) tranches ≤
      roundHalfEven (tranches * count) tranches := hmono.monotone hlt
  rw [roundHalfEven_mul ht] at hlast; unfold trancheOffset; omega

/-- **A session for each tranche**: the offsets increase with the tranche. -/
theorem trancheOffset_strict (ht : 0 < tranches) (hcount : tranches ≤ count) {k l : ℕ}
    (hkl : k < l) (hl : l < tranches) :
    trancheOffset tranches count k < trancheOffset tranches count l := by
  have hk := trancheOffset_eq ht hcount (hkl.trans hl)
  have hl' := trancheOffset_eq ht hcount hl
  have hlt : roundHalfEven ((k + 1) * count) tranches < roundHalfEven ((l + 1) * count) tranches :=
    roundHalfEven_strict ht hcount (Nat.succ_lt_succ hkl)
  omega

end Offsets

/-! ## One month -/

/-- Distinct keys: the dictionary holds each of them, and what it held elsewhere. -/
theorem getItem_foldl_setItem {key : ℕ → ℕ} {values : List ℕ}
    (hkey : ∀ a ∈ values, ∀ b ∈ values, key a = key b → a = b) (d : List (ℕ × ℕ)) (j v : ℕ) :
    getItem (values.foldl (fun d value => setItem d (key value) value) d) j = some v ↔
      (v ∈ values ∧ key v = j) ∨ ((∀ value ∈ values, key value ≠ j) ∧ getItem d j = some v) := by
  induction values generalizing d with
  | nil => simp
  | cons value values ih =>
    rw [List.foldl_cons,
      ih (fun a ha b hb => hkey a (List.mem_cons_of_mem _ ha) b (List.mem_cons_of_mem _ hb)),
      getItem_setItem, List.forall_mem_cons]
    by_cases hj : j = key value
    · subst hj; rw [if_pos rfl, Option.some.injEq]; constructor
      · rintro (⟨hv, hkv⟩ | ⟨-, rfl⟩)
        · exact .inl ⟨List.mem_cons_of_mem _ hv, hkv⟩
        · exact .inl ⟨List.mem_cons_self, rfl⟩
      · rintro (⟨hv, hkv⟩ | ⟨⟨hne, -⟩, -⟩)
        · have heq := hkey v hv value List.mem_cons_self hkv
          by_cases hin : v ∈ values
          · exact .inl ⟨hin, hkv⟩
          refine .inr ⟨fun w hw hkw => hin ?_, heq.symm⟩
          rw [heq, ← hkey w (List.mem_cons_of_mem _ hw) value List.mem_cons_self hkw]
          exact hw
        · exact absurd rfl hne
    · rw [if_neg hj, List.mem_cons]; constructor
      · rintro (⟨hv, hkv⟩ | ⟨hne, hget⟩)
        · exact .inl ⟨.inr hv, hkv⟩
        · exact .inr ⟨⟨Ne.symm hj, hne⟩, hget⟩
      · rintro (⟨rfl | hv, hkv⟩ | ⟨⟨-, hne⟩, hget⟩)
        · exact absurd hkv.symm hj
        · exact .inl ⟨hv, hkv⟩
        · exact .inr ⟨hne, hget⟩

theorem getItem_closeMonth {tranches start count : ℕ} (ht : 0 < tranches)
    (hcount : tranches ≤ count) (schedule : List (ℕ × ℕ)) (j v : ℕ) :
    getItem (closeMonth tranches start count schedule) j = some v ↔
      (v < tranches ∧ start + trancheOffset tranches count v = j) ∨
        ((∀ k < tranches, start + trancheOffset tranches count k ≠ j) ∧
          getItem schedule j = some v) := by
  have hkey : ∀ a ∈ List.range tranches, ∀ b ∈ List.range tranches,
      start + trancheOffset tranches count a = start + trancheOffset tranches count b → a = b := by
    intro a ha b hb hab; rw [List.mem_range] at ha hb
    rcases lt_trichotomy a b with h | h | h
    · have := trancheOffset_strict ht hcount h hb; omega
    · exact h
    · have := trancheOffset_strict ht hcount h ha; omega
  unfold closeMonth; rw [getItem_foldl_setItem hkey]; simp only [List.mem_range]

/-! ## The months of a schedule -/

section Months
variable {μ : Type} [LinearOrder μ] {months : List μ} {tranches : ℕ}

/-- The sessions of a month. -/
def sessionsOf (months : List μ) (month : μ) : Finset ℕ :=
  (Finset.range months.length).filter fun i => months[i]? = some month

variable {month : μ}

theorem mem_sessionsOf {i : ℕ} : i ∈ sessionsOf months month ↔ months[i]? = some month := by
  unfold sessionsOf
  rw [Finset.mem_filter, Finset.mem_range, and_iff_right_iff_imp]
  exact fun h => (List.getElem?_eq_some_iff.1 h).1

theorem sessionsOf_eq (hordered : months.Pairwise (· ≤ ·)) (h : month ∈ months) :
    ∃ first count, 0 < count ∧ sessionsOf months month = Finset.Ico first (first + count) := by
  obtain ⟨i, hi⟩ := List.mem_iff_getElem?.1 h
  have hne : (sessionsOf months month).Nonempty := ⟨i, mem_sessionsOf.2 hi⟩
  have hle := Finset.min'_le_max' _ hne
  refine ⟨(sessionsOf months month).min' hne, (sessionsOf months month).max' hne + 1 -
    (sessionsOf months month).min' hne, by omega, ?_⟩
  obtain ⟨hlast, hmax⟩ := List.getElem?_eq_some_iff.1
    (mem_sessionsOf.1 (Finset.max'_mem (sessionsOf months month) hne))
  obtain ⟨hfirst, hmin⟩ := List.getElem?_eq_some_iff.1
    (mem_sessionsOf.1 (Finset.min'_mem (sessionsOf months month) hne))
  ext j; rw [Finset.mem_Ico]; constructor
  · intro hj; have := Finset.min'_le _ j hj; have := Finset.le_max' _ j hj
    omega
  · intro hj; have hlt : j < months.length := by omega
    refine mem_sessionsOf.2 (List.getElem?_eq_some_iff.2 ⟨hlt, le_antisymm ?_ ?_⟩)
    · rw [← hmax]
      rcases Nat.lt_or_eq_of_le (show j ≤ (sessionsOf months month).max' hne by omega) with hj' | hj'
      · exact List.pairwise_iff_getElem.1 hordered _ _ hlt hlast hj'
      · simp only [hj', le_refl]
    · rw [← hmin]; rcases Nat.lt_or_eq_of_le hj.1 with hj' | hj'
      · exact List.pairwise_iff_getElem.1 hordered _ _ hfirst hlt hj'
      · simp only [← hj', le_refl]

/-- Each tranche has one session of each month, in order, the last one the month's last. -/
structure RebalancesMonthly (months : List μ) (tranches : ℕ) (schedule : List (ℕ × ℕ)) :
    Prop where
  once : ∀ month ∈ months, ∀ tranche < tranches,
    ∃! i, i ∈ sessionsOf months month ∧ getItem schedule i = some tranche
  ordered : ∀ month, ∀ i ∈ sessionsOf months month, ∀ j ∈ sessionsOf months month, ∀ k l,
    getItem schedule i = some k → getItem schedule j = some l → i < j → k < l
  final : ∀ e, IsFinal months e → getItem schedule e = some (tranches - 1)

/-- The months that ended before `state.2` hold their tranches at their offsets, and nothing
later is entered. -/
structure Entered (months : List μ) (tranches : ℕ) (state : List (ℕ × ℕ) × ℕ) : Prop where
  boundary : 0 < state.2 → months[state.2]? ≠ months[state.2 - 1]?
  later : ∀ i, state.2 ≤ i → getItem state.1 i = none
  entered : ∀ month first count, sessionsOf months month = Finset.Ico first (first + count) →
    first + count ≤ state.2 → ∀ i ∈ sessionsOf months month, ∀ v,
      getItem state.1 i = some v ↔ v < tranches ∧ first + trancheOffset tranches count v = i

variable {state : List (ℕ × ℕ) × ℕ} {index : ℕ}

section

variable (h : Entered months tranches state)
include h

section

variable (hwalked : Walked months tranches index state)
include hwalked

theorem Entered.whole {first count : ℕ} (hlt : state.2 < index)
    (hsessions : sessionsOf months month = Finset.Ico first (first + count)) (hpos : 0 < count)
    (hle : first + count ≤ index) (hnew : state.2 < first + count) :
    first = state.2 ∧ count = index - state.2 := by
  have hin : ∀ i, months[i]? = some month ↔ first ≤ i ∧ i < first + count := by
    intro i; rw [← mem_sessionsOf, hsessions, Finset.mem_Ico]
  have hlast := (hin (first + count - 1)).2 (by omega)
  have hstart : months[state.2]? = some month := by
    rw [← hwalked.same (first + count - 1) (by omega) (by omega)]; exact hlast
  have hfirst := ((hin state.2).1 hstart).1
  have hend := (hin (index - 1)).1 ((hwalked.same (index - 1) (by omega) (by omega)).trans hstart)
  have hstarts : first = state.2 := by
    by_contra hne; refine h.boundary (by omega) (hstart.trans ?_)
    exact ((hin (state.2 - 1)).2 (by omega)).symm
  omega

theorem Entered.sessions (hordered : months.Pairwise (· ≤ ·))
    (hlt : state.2 < index) (hmonth : months[state.2]? = some month)
    (hend : months[index]? ≠ some month) : (sessionsOf months month).card = index - state.2 := by
  obtain ⟨first, count, hpos, hsessions⟩ :=
    sessionsOf_eq hordered (List.mem_of_getElem? hmonth)
  have hin : ∀ i, months[i]? = some month ↔ first ≤ i ∧ i < first + count := by
    intro i; rw [← mem_sessionsOf, hsessions, Finset.mem_Ico]
  have hlast := (hin (index - 1)).1 ((hwalked.same (index - 1) (by omega) (by omega)).trans hmonth)
  have hout : ¬ (first ≤ index ∧ index < first + count) := fun h' => hend ((hin index).2 h')
  obtain ⟨-, rfl⟩ := h.whole hwalked hlt hsessions hpos (by omega) (by omega)
  rw [hsessions, Nat.card_Ico, Nat.add_sub_cancel_left]

theorem Entered.close (ht : 0 < tranches) (hordered : months.Pairwise (· ≤ ·))
    (hlong : ∀ month ∈ months, tranches ≤ (sessionsOf months month).card) (hpos : 0 < index)
    (hle : index ≤ months.length)
    (hend : index = months.length ∨ months[index]? ≠ months[state.2]?) :
    Entered months tranches (closeMonth tranches state.2 (index - state.2) state.1, index) := by
  have hlt := hwalked.start_lt hpos
  have hprev := hwalked.same (index - 1) (by omega) (by omega)
  obtain ⟨m, hm⟩ : ∃ m, months[state.2]? = some m :=
    ⟨_, List.getElem?_eq_getElem (show state.2 < months.length by omega)⟩
  have hend' : months[index]? ≠ some m := by
    rcases hend with rfl | hend
    · simp
    · exact hm ▸ hend
  have hcount : tranches ≤ index - state.2 := by
    rw [← h.sessions hwalked hordered hlt hm hend']
    exact hlong m (List.mem_of_getElem? hm)
  refine ⟨fun _ => ?_, ?_, ?_⟩
  · dsimp only; rw [hprev, hm]; exact hend'
  · intro i hi; by_contra hsome
    obtain ⟨v, hv⟩ := Option.ne_none_iff_exists'.1 hsome
    rcases (getItem_closeMonth ht hcount _ _ _).1 hv with ⟨hvt, rfl⟩ | ⟨-, hold⟩
    · have := trancheOffset_le tranches (index - state.2) v; omega
    · rw [h.later i (by dsimp only at hi; omega)] at hold; cases hold
  · intro month first count hsessions hended i hi v
    have hi' := Finset.mem_Ico.1 (hsessions ▸ hi)
    rw [getItem_closeMonth ht hcount]; by_cases hold : first + count ≤ state.2
    · rw [h.entered month first count hsessions hold i hi v]; constructor
      · rintro (⟨-, heq⟩ | ⟨-, h'⟩)
        · omega
        · exact h'
      · intro h'; exact .inr ⟨fun k _ => by omega, h'⟩
    · obtain ⟨rfl, rfl⟩ := h.whole hwalked hlt hsessions (by omega) hended (by omega)
      refine ⟨?_, .inl⟩; rintro (h' | ⟨-, hget⟩)
      · exact h'
      · rw [h.later i hi'.1] at hget; cases hget

theorem Entered.step (ht : 0 < tranches) (hordered : months.Pairwise (· ≤ ·))
    (hlong : ∀ month ∈ months, tranches ≤ (sessionsOf months month).card) (hne : months ≠ [])
    (hle : index ≤ months.length) :
    Entered months tranches (scheduleStep months tranches state index) := by
  have hlen := List.length_pos_of_ne_nil hne
  by_cases hend : index = months.length ∨ (0 < index ∧ months[index]? ≠ months[state.2]?)
  · have hpos : 0 < index := by omega
    have hend' := hend.imp_right And.right
    rw [scheduleStep_close (hwalked.start_lt hpos) hend']
    exact h.close hwalked ht hordered hlong hpos hle hend'
  · unfold scheduleStep; dsimp only; rw [if_neg hend]; exact h

end

end

theorem entered_range (ht : 0 < tranches) (hordered : months.Pairwise (· ≤ ·))
    (hlong : ∀ month ∈ months, tranches ≤ (sessionsOf months month).card) (hne : months ≠ [])
    {k : ℕ} (hk : k ≤ months.length + 1) :
    Entered months tranches ((List.range k).foldl (scheduleStep months tranches) ([], 0)) := by
  induction k with
  | zero =>
    refine ⟨fun h => absurd h (Nat.lt_irrefl 0), fun _ _ => rfl, ?_⟩
    intro month first count hsessions hle i hi
    have := Finset.mem_Ico.1 (hsessions ▸ hi); change first + count ≤ 0 at hle
    omega
  | succ k ih =>
    rw [List.range_succ, List.foldl_append]
    exact (ih (by omega)).step (walked_range ht hne (by omega)) ht hordered hlong hne (by omega)

theorem RebalancesMonthly.of_entered {schedule : List (ℕ × ℕ)} (ht : 0 < tranches)
    (hordered : months.Pairwise (· ≤ ·))
    (hlong : ∀ month ∈ months, tranches ≤ (sessionsOf months month).card)
    (h : Entered months tranches (schedule, months.length))
    (hschedule : trancheSchedule months tranches = .ok schedule) :
    RebalancesMonthly months tranches schedule := by
  have hmonth : ∀ month ∈ months, ∃ first count, tranches ≤ count ∧
      sessionsOf months month = Finset.Ico first (first + count) ∧ ∀ i ∈ sessionsOf months month,
        ∀ v, getItem schedule i = some v ↔
          v < tranches ∧ first + trancheOffset tranches count v = i := by
    intro month hmem
    obtain ⟨first, count, hpos, hsessions⟩ := sessionsOf_eq hordered hmem
    have hcard := hlong month hmem
    rw [hsessions, Nat.card_Ico, Nat.add_sub_cancel_left] at hcard
    refine ⟨first, count, hcard, hsessions, h.entered month first count hsessions ?_⟩
    have hlast : first + count - 1 ∈ sessionsOf months month := by
      rw [hsessions, Finset.mem_Ico]; omega
    have := (List.getElem?_eq_some_iff.1 (mem_sessionsOf.1 hlast)).1; omega
  refine ⟨?_, ?_, fun e he => getItem_trancheSchedule_final hschedule he⟩
  · intro month hmem tranche hlt
    obtain ⟨first, count, hcount, hsessions, hiff⟩ := hmonth month hmem
    have hin : first + trancheOffset tranches count tranche ∈ sessionsOf months month := by
      have := trancheOffset_le tranches count tranche
      rw [hsessions, Finset.mem_Ico]; omega
    refine ⟨_, ⟨hin, (hiff _ hin _).2 ⟨hlt, rfl⟩⟩, ?_⟩; rintro i ⟨hi, hget⟩
    exact ((hiff i hi _).1 hget).2.symm
  · intro month i hi j hj k l hk hl hij
    obtain ⟨first, count, hcount, -, hiff⟩ :=
      hmonth month (List.mem_of_getElem? (mem_sessionsOf.1 hi))
    obtain ⟨hkt, rfl⟩ := (hiff i hi k).1 hk
    obtain ⟨hlt, rfl⟩ := (hiff j hj l).1 hl; by_contra hle
    rcases Nat.lt_or_eq_of_le (Nat.not_lt.1 hle) with hless | rfl
    · have := trancheOffset_strict ht hcount hless hkt; omega
    · omega

/-- **Once a month, exactly in long enough months.** -/
theorem rebalancesMonthly_iff (hordered : months.Pairwise (· ≤ ·)) (ht : 0 < tranches) :
    (∃ schedule, trancheSchedule months tranches = .ok schedule ∧
        RebalancesMonthly months tranches schedule) ↔
      ∀ month ∈ months, tranches ≤ (sessionsOf months month).card := by
  constructor
  · rintro ⟨schedule, -, h⟩ month hmem
    choose! session hsession _ using h.once month hmem
    rw [← Finset.card_range tranches]
    refine Finset.card_le_card_of_injOn session ?_ ?_
    · intro k hk; exact (hsession k (by simpa using hk)).1
    · intro k hk l hl heq; have hk' := (hsession k (by simpa using hk)).2
      rw [heq, (hsession l (by simpa using hl)).2] at hk'
      exact (Option.some.inj hk').symm
  · intro hlong
    obtain ⟨schedule, hschedule⟩ : ∃ schedule, trancheSchedule months tranches = .ok schedule :=
      ⟨_, if_neg (by omega)⟩
    refine ⟨schedule, hschedule, ?_⟩; rcases eq_or_ne months [] with rfl | hne
    · refine ⟨(nofun), fun _ i hi => ?_, fun e he => absurd he.1 (Nat.not_lt_zero e)⟩
      exact absurd (mem_sessionsOf.1 hi) (by simp)
    refine .of_entered ht hordered hlong ?_ hschedule
    have hwalk := entered_range ht hordered hlong hne (Nat.le_refl (months.length + 1))
    have hstate := Except.ok.inj ((if_neg (by omega)).symm.trans hschedule)
    have hlast : ((List.range (months.length + 1)).foldl (scheduleStep months tranches) ([], 0)).2 =
        months.length := by
      rw [List.range_succ, List.foldl_append, List.foldl_cons, List.foldl_nil, scheduleStep_close
        ((walked_range ht hne le_rfl).start_lt (List.length_pos_of_ne_nil hne)) (.inl rfl)]
    have hpair : (List.range (months.length + 1)).foldl (scheduleStep months tranches) ([], 0) =
        (schedule, months.length) := Prod.ext hstate hlast
    rw [hpair] at hwalk; exact hwalk

end Months

/-- Two tranches over months of three and of two sessions. -/
theorem rebalancesMonthly_iff_two : ∃ schedule, trancheSchedule [1, 1, 1, 2, 2] 2 = .ok schedule ∧
      RebalancesMonthly [1, 1, 1, 2, 2] 2 schedule :=
  (rebalancesMonthly_iff (by decide) (by decide)).2 (by decide)

/-- **A short month loses tranches.** Of five tranches in a month of three sessions, the first
and the third are overwritten. -/
theorem short_month_loses_tranches :
    ¬ ∃ schedule, trancheSchedule ["2026-01", "2026-01", "2026-01"] 5 = .ok schedule ∧
      RebalancesMonthly ["2026-01", "2026-01", "2026-01"] 5 schedule := by
  rintro ⟨schedule, hschedule, h⟩
  have hvalue : trancheSchedule ["2026-01", "2026-01", "2026-01"] 5 =
      .ok [(0, 1), (1, 3), (2, 4)] := by decide
  obtain rfl := Except.ok.inj (hvalue.symm.trans hschedule)
  obtain ⟨i, ⟨-, hi⟩, -⟩ := h.once "2026-01" (by decide) 0 (by decide)
  exact absurd (mem_of_getItem hi) (by simp)

end Quantbot.L3.Strategy
