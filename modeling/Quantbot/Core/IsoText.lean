import Mathlib.Data.Nat.Find
import Mathlib.Data.String.Basic
import Mathlib.Order.Monotone.Basic
import Mathlib.Tactic.IntervalCases

/-!
# ISO texts of UTC instants

`datetime.isoformat` of an instant in UTC: the date and the time of day in fixed widths, six
digits of a fraction unless it is zero, then "+00:00". Instants are microseconds from 1970; a
`datetime` has the years 1 to 9999.

The texts are ordered as the instants are (`isoformat_lt_iff`): "+" sorts before ".", so a
whole second comes before its fractions. (`encode_utc` ends texts with "Z", which does not; see
`StoredTime`.)
-/
namespace Quantbot.Core

/-! ## Digits -/

/-- The last `k` decimal digits, the highest first. -/
def digits : ℕ → ℕ → List Char
  | 0, _ => []
  | k + 1, n => Nat.digitChar (n / 10 ^ k % 10) :: digits k n

theorem digitChar_lt_iff {a b : ℕ} (ha : a < 10) (hb : b < 10) :
    Nat.digitChar a < Nat.digitChar b ↔ a < b := by
  interval_cases a <;> interval_cases b <;> decide

theorem digitChar_eq_iff {a b : ℕ} (ha : a < 10) (hb : b < 10) :
    Nat.digitChar a = Nat.digitChar b ↔ a = b := by
  interval_cases a <;> interval_cases b <;> decide

theorem quotient_lt_iff {p a b r s : ℕ} (hr : r < p) (hs : s < p) :
    r + p * a < s + p * b ↔ a < b ∨ a = b ∧ r < s := by
  rcases Nat.lt_trichotomy a b with h | rfl | h
  · have hmul : p * (a + 1) ≤ p * b := Nat.mul_le_mul_left p h
    rw [Nat.mul_succ] at hmul; refine iff_of_true ?_ (.inl h); omega
  · simp
  · have hmul : p * (b + 1) ≤ p * a := Nat.mul_le_mul_left p h
    rw [Nat.mul_succ] at hmul; omega

theorem quotient_eq_iff {p a b r s : ℕ} (hr : r < p) (hs : s < p) :
    r + p * a = s + p * b ↔ a = b ∧ r = s := by
  have hlt := quotient_lt_iff (a := a) (b := b) hr hs
  have hgt := quotient_lt_iff (a := b) (b := a) hs hr; constructor
  · intro h; omega
  · rintro ⟨rfl, rfl⟩; rfl

theorem digits_append_lt_iff {k n m : ℕ} {xs ys : List Char} : digits k n ++ xs < digits k m ++ ys ↔
      n % 10 ^ k < m % 10 ^ k ∨ n % 10 ^ k = m % 10 ^ k ∧ xs < ys := by
  induction k with
  | zero => simp [digits, Nat.mod_one]
  | succ k ih =>
    have hpos : 0 < 10 ^ k := by positivity
    have hn := Nat.mod_lt n hpos; have hm := Nat.mod_lt m hpos
    have hdn : n / 10 ^ k % 10 < 10 := Nat.mod_lt _ (by omega)
    have hdm : m / 10 ^ k % 10 < 10 := Nat.mod_lt _ (by omega); unfold digits
    rw [List.cons_append, List.cons_append, List.cons_lt_cons_iff, ih, digitChar_lt_iff hdn hdm,
      digitChar_eq_iff hdn hdm, Nat.mod_pow_succ, Nat.mod_pow_succ, quotient_lt_iff hn hm,
      quotient_eq_iff hn hm, and_or_left, or_assoc, and_assoc]

theorem field_lt_iff {k n m : ℕ} (hn : n < 10 ^ k) (hm : m < 10 ^ k) (c : Char)
    {xs ys : List Char} :
    digits k n ++ c :: xs < digits k m ++ c :: ys ↔ n < m ∨ n = m ∧ xs < ys := by
  rw [digits_append_lt_iff, Nat.mod_eq_of_lt hn, Nat.mod_eq_of_lt hm, List.cons_lt_cons_self]

/-! ## The fraction -/

/-- A fraction of a second in microseconds, and the offset of UTC. -/
def fraction (micro : ℕ) : List Char :=
  if micro = 0 then "+00:00".toList else '.' :: (digits 6 micro ++ "+00:00".toList)

theorem fraction_lt_iff {a b : ℕ} (ha : a < 10 ^ 6) (hb : b < 10 ^ 6) :
    fraction a < fraction b ↔ a < b := by
  unfold fraction; split <;> split
  · simp_all
  · rename_i h h'; refine iff_of_true ?_ (by omega)
    exact List.cons_lt_cons_iff.2 (.inl (by decide))
  · rename_i h h'; refine iff_of_false ?_ (by omega); intro hlt
    rcases List.cons_lt_cons_iff.1 hlt with hlt | ⟨heq, _⟩
    · exact absurd hlt (by decide)
    · exact absurd heq (by decide)
  · rw [List.cons_lt_cons_self, digits_append_lt_iff, Nat.mod_eq_of_lt ha, Nat.mod_eq_of_lt hb]
    simp

/-! ## The date of a day -/

/-- Days before the first of January, the year 1 beginning at 0. -/
def daysBeforeYear (y : ℕ) : ℕ := (y - 1) * 365 + (y - 1) / 4 - (y - 1) / 100 + (y - 1) / 400

def isLeap (y : ℕ) : Bool := y % 4 = 0 ∧ (y % 100 ≠ 0 ∨ y % 400 = 0)

/-- Days of a year before the first of a month. -/
def daysBeforeMonth (leap : Bool) (m : ℕ) : ℕ :=
  [0, 0, 31, 59, 90, 120, 151, 181, 212, 243, 273, 304, 334].getD m 0 +
    if leap ∧ 2 < m then 1 else 0

/-- The last year that has begun. -/
def yearOf (d : ℕ) : ℕ := Nat.findGreatest (fun y => daysBeforeYear y ≤ d) (d / 365 + 1)

/-- The last month that has begun, `n` days into the year. -/
def monthOf (leap : Bool) (n : ℕ) : ℕ := Nat.findGreatest (fun m => daysBeforeMonth leap m ≤ n) 12

theorem daysBeforeYear_mono : Monotone daysBeforeYear := by
  refine monotone_nat_of_le_succ fun y => ?_; unfold daysBeforeYear; omega

theorem le_yearOf {y d : ℕ} : y ≤ yearOf d ↔ daysBeforeYear y ≤ d := by
  have hspec : daysBeforeYear (yearOf d) ≤ d :=
    Nat.findGreatest_spec (P := fun y => daysBeforeYear y ≤ d) (Nat.zero_le _) (Nat.zero_le d)
  refine ⟨fun h => (daysBeforeYear_mono h).trans hspec, fun h => Nat.le_findGreatest ?_ h⟩
  unfold daysBeforeYear at h; omega

theorem yearOf_mono {d d' : ℕ} (h : d ≤ d') : yearOf d ≤ yearOf d' :=
  le_yearOf.2 ((le_yearOf.1 (le_refl _)).trans h)

theorem daysBeforeMonth_monthOf (leap : Bool) (n : ℕ) : daysBeforeMonth leap (monthOf leap n) ≤ n :=
  Nat.findGreatest_spec (P := fun m => daysBeforeMonth leap m ≤ n) (Nat.zero_le _)
    (by cases leap <;> exact Nat.zero_le n)

theorem monthOf_mono (leap : Bool) {n n' : ℕ} (h : n ≤ n') : monthOf leap n ≤ monthOf leap n' :=
  Nat.findGreatest_mono_left (fun _ hm => le_trans hm h) 12

/-- The days into the year. -/
def dayOfYear (d : ℕ) : ℕ := d - daysBeforeYear (yearOf d)

def dayOfMonth (leap : Bool) (n : ℕ) : ℕ := n - daysBeforeMonth leap (monthOf leap n) + 1

theorem dayOfYear_lt (d : ℕ) : dayOfYear d < 366 := by
  have hnext : ¬ daysBeforeYear (yearOf d + 1) ≤ d := by
    rw [← le_yearOf]; omega
  unfold dayOfYear daysBeforeYear at *; omega

theorem dayOfMonth_lt {leap : Bool} {n : ℕ} (h : n < 366) : dayOfMonth leap n < 100 := by
  have hle : monthOf leap n ≤ 12 := Nat.findGreatest_le 12
  have hnext : monthOf leap n < 12 → n < daysBeforeMonth leap (monthOf leap n + 1) := by
    intro hlt; refine not_le.1 ?_
    exact Nat.findGreatest_is_greatest (P := fun m => daysBeforeMonth leap m ≤ n)
      (Nat.lt_succ_self _) hlt
  unfold dayOfMonth; generalize monthOf leap n = m at hle hnext
  interval_cases m <;> cases leap <;> simp [daysBeforeMonth] at hnext ⊢ <;> omega

theorem date_lt_iff {d d' : ℕ} :
    d < d' ↔ yearOf d < yearOf d' ∨ yearOf d = yearOf d' ∧ dayOfYear d < dayOfYear d' := by
  have hd := le_yearOf.1 (le_refl (yearOf d)); unfold dayOfYear
  rcases Nat.lt_trichotomy (yearOf d) (yearOf d') with h | h | h
  · refine iff_of_true ?_ (.inl h)
    exact not_le.1 fun hle => absurd (yearOf_mono hle) (not_le.2 h)
  · rw [h] at hd ⊢; omega
  · have hle := fun hlt : d < d' => yearOf_mono hlt.le; omega

theorem day_lt_iff (leap : Bool) {n n' : ℕ} : n < n' ↔ monthOf leap n < monthOf leap n' ∨
      monthOf leap n = monthOf leap n' ∧ dayOfMonth leap n < dayOfMonth leap n' := by
  have hn := daysBeforeMonth_monthOf leap n; unfold dayOfMonth
  rcases Nat.lt_trichotomy (monthOf leap n) (monthOf leap n') with h | h | h
  · refine iff_of_true ?_ (.inl h)
    exact not_le.1 fun hle => absurd (monthOf_mono leap hle) (not_le.2 h)
  · rw [h] at hn ⊢; omega
  · have hle := fun hlt : n < n' => monthOf_mono leap hlt.le; omega

/-! ## Instants -/

/-- What a `datetime` in UTC can be. -/
def Representable (t : Int) : Prop := -62135596800000000 ≤ t ∧ t < 253402300800000000
deriving Decidable

def microOf (t : Int) : ℕ := (t % 1000000).toNat

def secondOf (t : Int) : ℕ := (t / 1000000 % 60).toNat

def minuteOf (t : Int) : ℕ := (t / 1000000 / 60 % 60).toNat

def hourOf (t : Int) : ℕ := (t / 1000000 / 60 / 60 % 24).toNat

def dayNumber (t : Int) : Int := t / 1000000 / 60 / 60 / 24

/-- Days since the first of January of the year 1. -/
def dayOf (t : Int) : ℕ := (dayNumber t + 719162).toNat

theorem fields_eq (t : Int) :
    t = 1000000 * (60 * (60 * (24 * dayNumber t + hourOf t) + minuteOf t) + secondOf t) +
      microOf t := by
  unfold dayNumber hourOf minuteOf secondOf microOf; omega

theorem fields_lt (t : Int) :
    hourOf t < 24 ∧ minuteOf t < 60 ∧ secondOf t < 60 ∧ microOf t < 1000000 := by
  unfold hourOf minuteOf secondOf microOf; omega

/-- The time of a day as text. -/
def timeText (t : Int) : List Char :=
  digits 2 (hourOf t) ++ ':' :: (digits 2 (minuteOf t) ++ ':' ::
    (digits 2 (secondOf t) ++ fraction (microOf t)))

/-- `datetime.isoformat`, the offset being zero. -/
def isoformat (t : Int) : String :=
  let leap := isLeap (yearOf (dayOf t))
  let n := dayOfYear (dayOf t)
  String.ofList (digits 4 (yearOf (dayOf t)) ++ '-' :: (digits 2 (monthOf leap n) ++ '-' ::
    (digits 2 (dayOfMonth leap n) ++ 'T' :: timeText t)))

/-- The text of an instant to the second. -/
def stem (t : Int) : List Char :=
  let leap := isLeap (yearOf (dayOf t))
  let n := dayOfYear (dayOf t)
  digits 4 (yearOf (dayOf t)) ++ '-' :: (digits 2 (monthOf leap n) ++ '-' ::
    (digits 2 (dayOfMonth leap n) ++ 'T' :: (digits 2 (hourOf t) ++ ':' ::
      (digits 2 (minuteOf t) ++ ':' :: digits 2 (secondOf t)))))

variable {a b : Int} {xs ys : List Char}

theorem isoformat_toList (t : Int) : (isoformat t).toList = stem t ++ fraction (microOf t) := by
  simp [isoformat, stem, timeText]

theorem dayOf_lt {t : Int} (h : Representable t) : dayOf t < 3652059 := by
  unfold Representable at h; unfold dayOf dayNumber; omega

theorem yearOf_lt {d : ℕ} (h : d < 3652059) : yearOf d < 10000 := by
  rw [← not_le, le_yearOf]; exact not_le.2 h

theorem monthOf_lt (leap : Bool) (n : ℕ) : monthOf leap n < 10 ^ 2 :=
  lt_of_le_of_lt (Nat.findGreatest_le 12) (by omega)

theorem dayOfMonth_dayOfYear_lt (leap : Bool) (d : ℕ) : dayOfMonth leap (dayOfYear d) < 10 ^ 2 :=
  dayOfMonth_lt (dayOfYear_lt d)

theorem stem_congr (h : a / 1000000 = b / 1000000) : stem a = stem b := by
  unfold stem dayOf dayNumber hourOf minuteOf secondOf; rw [h]

section

variable (ha : Representable a) (hb : Representable b)
include ha hb

theorem stem_lt (h : a / 1000000 < b / 1000000) : stem a ++ xs < stem b ++ ys := by
  obtain ⟨hhour, hminute, hsecond, -⟩ := fields_lt a
  obtain ⟨hhour', hminute', hsecond', -⟩ := fields_lt b; unfold stem
  simp only [List.append_assoc, List.cons_append]
  rw [field_lt_iff (yearOf_lt (dayOf_lt ha)) (yearOf_lt (dayOf_lt hb)),
    field_lt_iff (monthOf_lt _ _) (monthOf_lt _ _),
    field_lt_iff (dayOfMonth_dayOfYear_lt _ _) (dayOfMonth_dayOfYear_lt _ _),
    field_lt_iff (by omega) (by omega), field_lt_iff (by omega) (by omega),
    digits_append_lt_iff, Nat.mod_eq_of_lt (by omega), Nat.mod_eq_of_lt (by omega)]
  rcases lt_trichotomy (dayNumber a) (dayNumber b) with hdays | hdays | hdays
  · have hday : dayOf a < dayOf b := by
      unfold Representable at ha; unfold dayOf dayNumber at *; omega
    rcases date_lt_iff.1 hday with hyear | ⟨hyear, hn⟩
    · exact .inl hyear
    rw [hyear]; rcases (day_lt_iff _).1 hn with hm | ⟨hm, hd⟩
    · exact .inr ⟨rfl, .inl hm⟩
    · exact .inr ⟨rfl, .inr ⟨hm, .inl hd⟩⟩
  · have hsame : dayOf a = dayOf b := by
      unfold dayOf; rw [hdays]
    rw [hsame]; refine .inr ⟨rfl, .inr ⟨rfl, .inr ⟨rfl, ?_⟩⟩⟩
    have hfields := fields_eq a; have hfields' := fields_eq b
    unfold microOf at hfields hfields'; omega
  · unfold dayNumber at hdays; omega

/-- Texts that start alike to the second are ordered by what follows. -/
theorem stem_append_lt_iff : stem a ++ xs < stem b ++ ys ↔
    a / 1000000 < b / 1000000 ∨ a / 1000000 = b / 1000000 ∧ xs < ys := by
  rcases lt_trichotomy (a / 1000000) (b / 1000000) with h | h | h
  · exact iff_of_true (stem_lt ha hb h) (.inl h)
  · have happend : ∀ l : List Char, l ++ xs < l ++ ys ↔ xs < ys := fun l => by
      induction l with
      | nil => rfl
      | cons c l ih => rw [List.cons_append, List.cons_append, List.cons_lt_cons_self, ih]
    rw [stem_congr h, happend]; simp [h]
  · refine iff_of_false (lt_asymm (stem_lt hb ha h)) ?_; omega

/-- **The texts are ordered as the instants are.** -/
theorem isoformat_lt_iff : isoformat a < isoformat b ↔ a < b := by
  have hmicro := (fields_lt a).2.2.2; have hmicro' := (fields_lt b).2.2.2
  rw [String.lt_iff_toList_lt, isoformat_toList, isoformat_toList, stem_append_lt_iff ha hb,
    fraction_lt_iff hmicro hmicro']
  unfold microOf; omega

theorem isoformat_le_iff : isoformat a ≤ isoformat b ↔ a ≤ b := by
  rw [← not_lt, isoformat_lt_iff hb ha, not_lt]

end

example : isoformat 1735689599500000 = "2024-12-31T23:59:59.500000+00:00" ∧
    isoformat 1709164800000000 = "2024-02-29T00:00:00+00:00" := by decide

end Quantbot.Core
