import Mathlib.Tactic.Ring
import Quantbot.Core.IsoText
import Quantbot.Core.StoredTime
import Quantbot.Core.Txn

/-!
# Times as they are stored

`encode_utc` writes an instant as its ISO text with "Z" for the offset, and `decode_utc` reads
it back. Queries order rows by these texts.

* `fromisoformat_isoformat`: the ISO text of an instant is read as the instant.
* `encoded_lt_iff`: where the texts sort, `textRank` says in numbers.
* `stored_times_iff`: they sort as the instants do, except within a second that one of two is
  the start of.
-/
namespace Quantbot.L2.EncodedTimes

open Core Txn

/-- A time on the wall, and how far it is ahead of UTC; one without a zone has no offset. -/
structure Datetime where
  wall : Int
  utcoffset : Option Int

/-- `astimezone(UTC)`, where the years allow it. -/
def astimezone (wall offset : Int) : Except String Int :=
  if Representable (wall - offset) then .ok (wall - offset)
  else .error "date value out of range"

def removesuffix (s suffix : List Char) : List Char :=
  if suffix <:+ s then s.take (s.length - suffix.length) else s

/-- mirrors database.py:151-156 -/
def encodeUtc (value : Datetime) : Except String String :=
  match value.utcoffset with
  | none => .error "timestamp must be timezone-aware"
  | some offset => do
    let t ← astimezone value.wall offset
    return String.ofList (removesuffix (isoformat t).toList "+00:00".toList ++ ['Z'])

/-! ## Reading -/

/-- The number that `k` digits write, after the digits of `n`. -/
def field : ℕ → ℕ → List Char → Option (ℕ × List Char)
  | 0, n, cs => some (n, cs)
  | k + 1, n, c :: cs => if c.isDigit then field k (10 * n + (c.toNat - 48)) cs else none
  | _ + 1, _, [] => none

/-- The number after a separator. -/
def after (separator : Char) : List Char → Option (ℕ × List Char)
  | [] => none
  | c :: cs => if c = separator then field 2 0 cs else none

/-- The days of a date. -/
def dateOf (cs : List Char) : Option (Int × List Char) := do
  let (year, cs) ← field 4 0 cs
  let (month, cs) ← after '-' cs
  let (day, cs) ← after '-' cs
  let leap := isLeap year
  let n := daysBeforeMonth leap month + (day - 1)
  -- the day is one of the month, and the month one of the year
  guard (1 ≤ year ∧ daysBeforeYear year + n < daysBeforeYear (year + 1) ∧ monthOf leap n = month ∧
    dayOfMonth leap n = day)
  return (daysBeforeYear year + n - 719162, cs)

def fractionOf (cs : List Char) : Option (ℕ × List Char) :=
  if cs.head? = some '.' then field 6 0 cs.tail else some (0, cs)

def timeOf (cs : List Char) : Option (Int × List Char) := do
  let (hour, cs) ← after 'T' cs
  let (minute, cs) ← after ':' cs
  let (sec, cs) ← after ':' cs
  let (micro, cs) ← fractionOf cs
  guard (hour < 24 ∧ minute < 60 ∧ sec < 60)
  return (1000000 * (60 * (60 * hour + minute) + sec) + micro, cs)

/-- The offset a text ends with, if any. -/
def offsetOf : List Char → Option (Option Int)
  | [] => some none
  | sign :: cs => do
    let (hour, cs) ← field 2 0 cs
    let (minute, cs) ← after ':' cs
    guard (cs = [] ∧ hour < 24 ∧ minute < 60)
    let size : Int := 1000000 * (60 * (60 * hour + minute))
    if sign = '+' then some (some size) else if sign = '-' then some (some (-size)) else none

/-- `datetime.fromisoformat` of the extended form with seconds. -/
def fromisoformat (cs : List Char) : Option Datetime := do
  let (days, cs) ← dateOf cs
  let (time, cs) ← timeOf cs
  return ⟨86400 * 1000000 * days + time, ← offsetOf cs⟩

/-- mirrors database.py:159-166 -/
def decodeUtc (value : String) : Except String Int :=
  match fromisoformat (removesuffix value.toList ['Z'] ++
      if ['Z'] <:+ value.toList then "+00:00".toList else []) with
  | none => .error "Invalid isoformat string"
  | some decoded =>
    match decoded.utcoffset with
    | none => .error "timestamp must be timezone-aware"
    | some offset => astimezone decoded.wall offset

variable {a b t : Int} {xs : List Char}

theorem field_digits (k m n : ℕ) :
    field k m (digits k n ++ xs) = some (m * 10 ^ k + n % 10 ^ k, xs) := by
  induction k generalizing m with
  | zero => simp [field, digits, Nat.mod_one]
  | succ k ih =>
    have hdigit : n / 10 ^ k % 10 < 10 := Nat.mod_lt _ (by omega); unfold digits
    rw [List.cons_append, field, Nat.isDigit_digitChar, if_pos (by simpa using hdigit), ih,
      Nat.toNat_digitChar_sub_48_of_lt_ten hdigit, Nat.mod_pow_succ]
    ring_nf

theorem field_text {k n : ℕ} (h : n < 10 ^ k) : field k 0 (digits k n ++ xs) = some (n, xs) := by
  rw [field_digits, Nat.mod_eq_of_lt h, zero_mul, zero_add]

/-- A fraction of a second, left out where it is zero. -/
def fractionText (micro : ℕ) : List Char := if micro = 0 then [] else '.' :: digits 6 micro

theorem fraction_eq (micro : ℕ) : fraction micro = fractionText micro ++ "+00:00".toList := by
  unfold fraction fractionText; split <;> rfl

theorem after_text {c : Char} {n : ℕ} (h : n < 10 ^ 2) :
    after c (c :: (digits 2 n ++ xs)) = some (n, xs) :=
  (if_pos rfl).trans (field_text h)

theorem fractionOf_fraction {micro : ℕ} (h : micro < 10 ^ 6) :
    fractionOf (fraction micro) = some (micro, "+00:00".toList) := by
  unfold fractionOf fraction; split
  · rename_i hzero; rw [hzero]; rfl
  · exact field_text h

theorem dateOf_text (h : Representable t) : dateOf (digits 4 (yearOf (dayOf t)) ++ '-' ::
      (digits 2 (monthOf (isLeap (yearOf (dayOf t))) (dayOfYear (dayOf t))) ++ '-' ::
        (digits 2 (dayOfMonth (isLeap (yearOf (dayOf t))) (dayOfYear (dayOf t))) ++ xs))) =
      some (dayNumber t, xs) := by
  have hyear := le_yearOf.1 (le_refl (yearOf (dayOf t)))
  have hnext : ¬ daysBeforeYear (yearOf (dayOf t) + 1) ≤ dayOf t := by
    rw [← le_yearOf]; omega
  have hday : ∀ leap n, daysBeforeMonth leap (monthOf leap n) + (dayOfMonth leap n - 1) = n := by
    intro leap n; have := daysBeforeMonth_monthOf leap n; unfold dayOfMonth
    omega
  have hwhole : daysBeforeYear (yearOf (dayOf t)) + dayOfYear (dayOf t) = dayOf t := by
    unfold dayOfYear; omega
  have hstart : 1 ≤ yearOf (dayOf t) := le_yearOf.2 (Nat.zero_le _)
  have hnumber : (dayOf t : Int) - 719162 = dayNumber t := by
    unfold Representable at h; unfold dayOf dayNumber; omega
  unfold dateOf; rw [field_text (k := 4) (yearOf_lt (dayOf_lt h))]
  simp only [Option.bind_eq_bind, Option.bind_some, after_text (monthOf_lt _ _),
    after_text (dayOfMonth_dayOfYear_lt _ _), hday, hwhole, hstart, not_le.1 hnext, and_self,
    guard_true, ← hnumber, ← Nat.cast_add]
  rfl

theorem timeOf_text (t : Int) : timeOf ('T' :: (digits 2 (hourOf t) ++ ':' ::
    (digits 2 (minuteOf t) ++ ':' :: (digits 2 (secondOf t) ++ fraction (microOf t))))) =
      some (1000000 * (60 * (60 * (hourOf t : Int) + minuteOf t) + secondOf t) + microOf t,
        "+00:00".toList) := by
  obtain ⟨hhour, hminute, hsecond, hmicro⟩ := fields_lt t; unfold timeOf
  have hfraction := fractionOf_fraction hmicro; generalize "+00:00".toList = zone at hfraction ⊢
  simp only [after_text (show hourOf t < 10 ^ 2 by omega),
    after_text (show minuteOf t < 10 ^ 2 by omega), after_text (show secondOf t < 10 ^ 2 by omega),
    hfraction, Option.bind_eq_bind, Option.bind_some, hhour, hminute, hsecond,
    and_self, guard_true]
  rfl

/-- **The text of an instant is read as the instant.** -/
theorem fromisoformat_isoformat (h : Representable t) :
    fromisoformat (isoformat t).toList = some ⟨t, some 0⟩ := by
  have hoffset : offsetOf "+00:00".toList = some (some 0) := by decide
  have hfields := fields_eq t; rw [isoformat_toList]; unfold stem fromisoformat
  have htime := timeOf_text t; generalize "+00:00".toList = zone at hoffset htime
  simp only [List.append_assoc, List.cons_append, dateOf_text h, htime, hoffset,
    Option.bind_eq_bind, Option.bind_some]
  refine congrArg (fun wall => some (Datetime.mk wall (some 0))) ?_; omega

/-! ## Encoding and decoding -/

/-- The stored text of an instant. -/
def encoded (t : Int) : String := String.ofList (stem t ++ fractionText (microOf t) ++ ['Z'])

theorem removesuffix_append (s suffix : List Char) : removesuffix (s ++ suffix) suffix = s := by
  unfold removesuffix
  rw [if_pos (List.suffix_append s suffix), List.length_append, Nat.add_sub_cancel,
    List.take_left]

theorem encodeUtc_eq (wall offset : Int) (h : Representable (wall - offset)) :
    encodeUtc ⟨wall, some offset⟩ = .ok (encoded (wall - offset)) := by
  have htext : (isoformat (wall - offset)).toList = stem (wall - offset) ++
      fractionText (microOf (wall - offset)) ++ "+00:00".toList := by
    rw [isoformat_toList, fraction_eq, List.append_assoc]
  refine except_bind_ok.2 ⟨_, if_pos h, ?_⟩; rw [htext, removesuffix_append]
  rfl

/-- **A stored time is read as the instant it was written for.** -/
theorem decodeUtc_encoded (h : Representable t) : decodeUtc (encoded t) = .ok t := by
  have htext : removesuffix (encoded t).toList ['Z'] ++
      (if ['Z'] <:+ (encoded t).toList then "+00:00".toList else []) = (isoformat t).toList := by
    unfold encoded
    rw [String.toList_ofList, removesuffix_append, if_pos (List.suffix_append _ _),
      isoformat_toList, fraction_eq, List.append_assoc]
  unfold decodeUtc; rw [htext, fromisoformat_isoformat h]
  exact (if_pos (by rwa [sub_zero])).trans (by rw [sub_zero])

theorem fractionText_lt_iff {m n : ℕ} (hm : m < 10 ^ 6) (hn : n < 10 ^ 6) :
    fractionText m ++ ['Z'] < fractionText n ++ ['Z'] ↔ m ≠ 0 ∧ (n = 0 ∨ m < n) := by
  unfold fractionText; split <;> split
  · simp_all
  · rename_i hm hn; refine iff_of_false (fun hlt => ?_) fun h => h.1 hm
    rcases List.cons_lt_cons_iff.1 hlt with hlt | ⟨heq, -⟩
    · exact absurd hlt (by decide)
    · exact absurd heq (by decide)
  · rename_i hm hn; refine iff_of_true ?_ ⟨hm, .inl hn⟩
    exact List.cons_lt_cons_iff.2 (.inl (by decide))
  · rw [List.cons_append, List.cons_append, List.cons_lt_cons_self, digits_append_lt_iff,
      Nat.mod_eq_of_lt hm, Nat.mod_eq_of_lt hn]
    simp_all

/-- **The texts sort by `textRank`.** -/
theorem encoded_lt_iff (ha : Representable a) (hb : Representable b) :
    encoded a < encoded b ↔ textRank a < textRank b := by
  unfold encoded
  rw [String.lt_iff_toList_lt, String.toList_ofList, String.toList_ofList, List.append_assoc,
    List.append_assoc, stem_append_lt_iff ha hb,
    fractionText_lt_iff (fields_lt a).2.2.2 (fields_lt b).2.2.2, textRank_lt_iff]
  unfold microOf second; omega

/-- **Stored times sort as instants** and are read back, except where UTC has no such year, or one
of two times is the start of the second the other falls in. -/
theorem stored_times_iff (wall₁ offset₁ wall₂ offset₂ : Int) :
    (∃ e₁ e₂, encodeUtc ⟨wall₁, some offset₁⟩ = .ok e₁ ∧ encodeUtc ⟨wall₂, some offset₂⟩ = .ok e₂ ∧
      decodeUtc e₁ = .ok (wall₁ - offset₁) ∧ decodeUtc e₂ = .ok (wall₂ - offset₂) ∧
      (wall₁ - offset₁ < wall₂ - offset₂ ↔ e₁ < e₂)) ↔
    Representable (wall₁ - offset₁) ∧ Representable (wall₂ - offset₂) ∧
      ((wall₁ - offset₁) / second = (wall₂ - offset₂) / second →
        ((wall₁ - offset₁) % second = 0 ↔ (wall₂ - offset₂) % second = 0)) := by
  have hsome : ∀ {wall offset e}, encodeUtc ⟨wall, some offset⟩ = .ok e →
      Representable (wall - offset) := by
    intro wall offset e h; obtain ⟨_, ht, -⟩ := except_bind_ok.1 h
    by_contra hnot; cases (if_neg hnot).symm.trans ht
  have hsorts : ∀ a b : Int, Representable a → Representable b →
      ((a < b ↔ encoded a < encoded b) ↔
        (a / second = b / second → (a % second = 0 ↔ b % second = 0))) := by
    intro a b ha hb; rw [encoded_lt_iff ha hb, textRank_lt_iff]; unfold second
    omega
  constructor
  · rintro ⟨e₁, e₂, h₁, h₂, -, -, hiff⟩; have hr₁ := hsome h₁
    have hr₂ := hsome h₂; cases (encodeUtc_eq _ _ hr₁).symm.trans h₁
    cases (encodeUtc_eq _ _ hr₂).symm.trans h₂
    exact ⟨hr₁, hr₂, (hsorts _ _ hr₁ hr₂).1 hiff⟩
  · rintro ⟨hr₁, hr₂, hsame⟩
    exact ⟨_, _, encodeUtc_eq _ _ hr₁, encodeUtc_eq _ _ hr₂, decodeUtc_encoded hr₁,
      decodeUtc_encoded hr₂, (hsorts _ _ hr₁ hr₂).2 hsame⟩

/-- A whole second sorts after a moment later in it. -/
theorem whole_second_last :
    ∃ e₁ e₂, encodeUtc ⟨1000000, some 0⟩ = .ok e₁ ∧ encodeUtc ⟨1300000, some 0⟩ = .ok e₂ ∧
      ¬ ((1000000 : Int) < 1300000 ↔ e₁ < e₂) :=
  ⟨_, _, encodeUtc_eq 1000000 0 (by decide), encodeUtc_eq 1300000 0 (by decide), by decide⟩

end Quantbot.L2.EncodedTimes
