import Quantbot.Core.DecimalGrid
import Quantbot.Core.LTS
import Quantbot.Core.Table
import Quantbot.Core.Txn

/-!
# The research budget

`research/budget.py`: a governor admits work against what was spent, and records the spend in
an append-only table. Amounts are stored as text; what a key spent of a resource is
`SUM(amount)` in the database, read back as a Decimal.

`SUM` adds integer texts as integers and everything else in binary floating point, so its total
is given (`Total`), with what is documented of it (`ExactOnPlain`): numbers of at most 15 digits
that are binary fractions, partial sums included, are added exactly.

* `capped`: in every run of such amounts `spent` is the exact sum, the unoverridden spends stay
  within the cap, and a request up to precisely the cap is admitted.
* `cap_passed`: one amount of 19 digits, and the exact sum passes the cap.
-/
namespace Quantbot.L3.ResearchBudget

open Core Txn

/-! ## Caps and amounts -/

/-- mirrors budget.py:50-61 -/
inductive Resource | trials | wallSeconds | tokens | requests | dollars | rounds
deriving DecidableEq, Repr

/-- A Decimal, as its coefficient and exponent. -/
structure Amount where
  coefficient : ℤ
  exponent : ℤ
deriving DecidableEq, Repr

def Amount.value (a : Amount) : ℚ := a.coefficient * 10 ^ a.exponent

/-- The budget key and resource that a cap or a spend is for. -/
abbrev Key := String × Resource

/-- mirrors budget.py:104-116 -/
structure Cap where
  budgetKey : String
  resource : Resource
  limit : ℚ
  warnAt : ℚ
  limit_nonneg : 0 ≤ limit
  warnAt_pos : 0 < warnAt
  warnAt_le : warnAt ≤ 1

/-- A governor's caps: a key and resource carry one. -/
abbrev Caps := Table Cap fun cap => (cap.budgetKey, cap.resource)

/-- mirrors budget.py:93-101 -/
structure BudgetOverride where
  authorizedBy : String
  reason : String
deriving DecidableEq, Repr

/-- mirrors budget.py:119-135 -/
structure Admission where
  budgetKey : String
  resource : Resource
  requested : Amount
  spent : ℚ
  cap : ℚ
  warning : Bool

/-- A row of `budget_spend`. -/
structure BudgetSpend where
  budgetKey : String
  resource : Resource
  amount : Amount
  task : String
  recordedAt : Int
  overrideBy : Option String
  note : String
deriving DecidableEq, Repr

def BudgetSpend.key (r : BudgetSpend) : Key := (r.budgetKey, r.resource)

abbrev Spends := List BudgetSpend

inductive BudgetError
  | exceeded (budgetKey : String) (resource : Resource) (requested : Amount) (spent cap : ℚ)
  | negative
  | database
deriving DecidableEq, Repr

/-- `Decimal(str(SUM(amount)))`; none where the database raises. -/
abbrev Total := List Amount → Option ℚ

/-- `s.strip(" |")`. -/
def stripBars (s : String) : String :=
  let bar (c : Char) : Bool := c = ' ' || c = '|'
  String.ofList ((s.toList.dropWhile bar).reverse.dropWhile bar).reverse

variable (total : Total) (caps : Caps)

/-! ## The governor -/

/-- The amounts recorded for a key. -/
def amounts (rows : Spends) (key : Key) : List Amount :=
  (rows.filter fun r => r.key = key).map (·.amount)

/-- mirrors budget.py:151-158 -/
def spent (key : Key) : Txn Spends BudgetError ℚ := do
  let rows ← get
  match amounts rows key with
  | [] => pure 0
  | recorded =>
    match total recorded with
    | none => throw .database
    | some value => pure value

/-- mirrors budget.py:160-193 -/
def admitRequest (key : Key) (requested : Amount) (override : Option BudgetOverride) :
    Txn Spends BudgetError Admission := do
  match caps.get? key with
  | none => throw (.exceeded key.1 key.2 requested 0 0)
  | some cap =>
    require (0 ≤ requested.value) .negative
    let spentSoFar ← spent total key
    let projected := Decimal.add spentSoFar requested.value
    require (¬ (cap.limit < projected ∧ override = none))
      (.exceeded key.1 key.2 requested spentSoFar cap.limit)
    pure {
      budgetKey := key.1
      resource := key.2
      requested := requested
      spent := spentSoFar
      cap := cap.limit
      warning := 0 < cap.limit && Decimal.mul cap.limit cap.warnAt ≤ projected }

/-- mirrors budget.py:195-216 -/
def record (admission : Admission) (task : String) (now : Int) (override : Option BudgetOverride)
    (note : String) : Txn Spends BudgetError PUnit := do
  let row : BudgetSpend :=
    { budgetKey := admission.budgetKey
      resource := admission.resource
      amount := admission.requested
      task := task
      recordedAt := now
      overrideBy := override.map (·.authorizedBy)
      note := match override with
        | none => note
        | some override => stripBars (override.reason ++ " | " ++ note) }
  modify fun rows => rows ++ [row]

/-- mirrors budget.py:218-232 -/
def spend (key : Key) (requested : Amount) (task : String) (now : Int)
    (override : Option BudgetOverride) (note : String) : Txn Spends BudgetError Admission := do
  let admission ← admitRequest total caps key requested override
  record admission task now override note
  pure admission

/-! ## What the governor does -/

variable {total caps}
variable {key : Key} {requested : Amount} {override : Option BudgetOverride} {rows rows' : Spends}

def exactSum (recorded : List Amount) : ℚ := (recorded.map (·.value)).sum

theorem spent_ok {value : ℚ} : spent total key rows = .ok value rows' ↔ rows' = rows ∧
      (amounts rows key = [] ∧ value = 0 ∨
        amounts rows key ≠ [] ∧ total (amounts rows key) = some value) := by
  simp only [spent, bind_ok, get_ok]
  cases hrecorded : amounts rows key with
  | nil =>
    constructor
    · rintro ⟨_, _, ⟨rfl, rfl⟩, h⟩; simp only [hrecorded, pure_ok] at h
      exact ⟨h.2.symm, .inl ⟨rfl, h.1.symm⟩⟩
    · rintro ⟨rfl, ⟨_, rfl⟩ | ⟨h, _⟩⟩
      · exact ⟨_, _, ⟨rfl, rfl⟩, by simp [hrecorded]⟩
      · exact absurd rfl h
  | cons a recorded =>
    constructor
    · rintro ⟨_, _, ⟨rfl, rfl⟩, h⟩; simp only [hrecorded] at h
      cases htotal : total (a :: recorded) with
      | none => simp [htotal] at h
      | some value' =>
        simp only [htotal, pure_ok] at h
        exact ⟨h.2.symm, .inr ⟨List.cons_ne_nil _ _, by rw [h.1]⟩⟩
    · rintro ⟨rfl, ⟨h, _⟩ | ⟨_, htotal⟩⟩
      · cases h
      · exact ⟨_, _, ⟨rfl, rfl⟩, by simp [hrecorded, htotal]⟩

variable {admission : Admission}

theorem admit_ok (h : admitRequest total caps key requested override rows = .ok admission rows') :
    rows' = rows ∧ ∃ cap value, caps.get? key = some cap ∧ 0 ≤ requested.value ∧
      spent total key rows = .ok value rows ∧
      (override = none → Decimal.add value requested.value ≤ cap.limit) ∧
      admission.budgetKey = key.1 ∧ admission.resource = key.2 ∧
      admission.requested = requested := by
  unfold admitRequest at h
  cases hcap : caps.get? key with
  | none => simp [hcap] at h
  | some cap =>
    simp only [hcap, bind_ok, require_ok, pure_ok] at h
    obtain ⟨_, _, ⟨hnonneg, rfl⟩, value, _, hspent, _, _, ⟨hfits, rfl⟩, rfl, rfl⟩ := h
    obtain ⟨rfl, _⟩ := spent_ok.1 hspent
    refine ⟨rfl, cap, value, rfl, hnonneg, hspent, fun hnone => ?_, rfl, rfl, rfl⟩
    by_contra hover; exact hfits ⟨not_le.1 hover, hnone⟩

theorem record_ok {task note : String} {now : Int} {u : PUnit}
    (h : record admission task now override note rows = .ok u rows') :
    ∃ row : BudgetSpend, rows' = rows ++ [row] ∧
      row.key = (admission.budgetKey, admission.resource) ∧ row.amount = admission.requested := by
  obtain rfl := modify_ok.1 h; exact ⟨_, rfl, rfl, rfl⟩

theorem spend_ok {task note : String} {now : Int}
    (h : spend total caps key requested task now override note rows = .ok admission rows') :
    ∃ row : BudgetSpend, rows' = rows ++ [row] ∧ row.key = key ∧ row.amount = requested ∧
      admitRequest total caps key requested override rows = .ok admission rows := by
  obtain ⟨a, rows₁, hadmit, h⟩ := bind_ok.1 h
  obtain ⟨_, rows₂, hrecord, h⟩ := bind_ok.1 h; obtain ⟨rfl, rfl⟩ := pure_ok.1 h
  obtain ⟨rfl, _, _, _, _, _, _, hkey, hresource, hrequested⟩ := admit_ok hadmit
  obtain ⟨row, rfl, hrow, hamount⟩ := record_ok hrecord
  refine ⟨row, rfl, ?_, hamount.trans hrequested, hadmit⟩
  rw [hrow, hkey, hresource]

/-! ## Numbers that a sum keeps -/

/-- A finite binary floating-point number of double precision. -/
def Binary64 (x : ℚ) : Prop :=
  ∃ m e : ℤ, |m| ≤ 2 ^ 53 ∧ -1074 ≤ e ∧ e ≤ 971 ∧ x = m * 2 ^ e

/-- A double with at most 15 decimal digits. -/
def Plain (x : ℚ) : Prop := Binary64 x ∧ ∃ k : ℕ, Decimal.OnGrid k x ∧ |x| * 10 ^ k < 10 ^ 15

/-- Every amount and every partial sum is plain. -/
def AllPlain (recorded : List Amount) : Prop :=
  (∀ a ∈ recorded, Plain a.value) ∧ ∀ pre, pre <+: recorded → Plain (exactSum pre)

/-- What is documented of `SUM`: nothing is rounded where every number is plain. -/
def ExactOnPlain (total : Total) : Prop :=
  ∀ recorded, AllPlain recorded → total recorded = some (exactSum recorded)

theorem Plain.round {x : ℚ} (h : Plain x) : Decimal.round x = x := by
  obtain ⟨_, k, hgrid, hsmall⟩ := h
  exact Decimal.round_grid hgrid (hsmall.trans (by norm_num))

theorem exactSum_append (recorded : List Amount) (a : Amount) :
    exactSum (recorded ++ [a]) = exactSum recorded + a.value := by
  simp [exactSum]

theorem AllPlain.left {recorded : List Amount} {a : Amount} (h : AllPlain (recorded ++ [a])) :
    AllPlain recorded :=
  ⟨fun b hb => h.1 b (List.mem_append_left _ hb),
    fun pre hpre => h.2 pre (hpre.trans (List.prefix_append _ _))⟩

theorem spent_exact (hsum : ExactOnPlain total) (h : AllPlain (amounts rows key)) :
    spent total key rows = .ok (exactSum (amounts rows key)) rows := by
  rw [spent_ok]; refine ⟨rfl, ?_⟩
  cases hrecorded : amounts rows key with
  | nil => exact .inl ⟨rfl, rfl⟩
  | cons a recorded =>
    rw [hrecorded] at h; exact .inr ⟨List.cons_ne_nil _ _, hsum _ h⟩

theorem projected_exact (h : AllPlain (amounts rows key ++ [requested])) :
    Decimal.add (exactSum (amounts rows key)) requested.value =
      exactSum (amounts rows key ++ [requested]) := by
  unfold Decimal.add; rw [← exactSum_append]
  exact (h.2 _ (List.prefix_refl _)).round

/-! ## Runs -/

/-- The table, and the rows that a spend without an override wrote. -/
structure Ledger where
  rows : Spends := []
  unoverridden : Spends := []

inductive Call
  | admitRequest (key : Key) (requested : Amount) (override : Option BudgetOverride)
  | record (admission : Admission) (task : String) (now : Int) (override : Option BudgetOverride)
    (note : String)
  | spend (key : Key) (requested : Amount) (task : String) (now : Int)
    (override : Option BudgetOverride) (note : String)

def Call.perform (total : Total) (caps : Caps) : Call → Txn Spends BudgetError PUnit
  | .admitRequest key requested override => do
    let _ ← ResearchBudget.admitRequest total caps key requested override
    pure ⟨⟩
  | .record admission task now override note =>
    ResearchBudget.record admission task now override note
  | .spend key requested task now override note => do
    let _ ← ResearchBudget.spend total caps key requested task now override note
    pure ⟨⟩

/-- The key and amount a call asks for. -/
def Call.request : Call → Key × Amount
  | .admitRequest key requested _ | .spend key requested _ _ _ _ => (key, requested)
  | .record admission _ _ _ _ => ((admission.budgetKey, admission.resource), admission.requested)

/-- A spend without an override. -/
def Call.bound : Call → Bool
  | .spend _ _ _ _ none _ => true
  | _ => false

/-- A call in its transaction. -/
def Ledger.call (total : Total) (caps : Caps) (s : Ledger) (call : Call) : Ledger :=
  let rows := after (immediate (call.perform total caps)) s.rows
  { rows := rows
    unoverridden := if call.bound then s.unoverridden ++ rows.drop s.rows.length
      else s.unoverridden }

def budgeting (total : Total) (caps : Caps) : LTS Ledger Call where
  init s := s = {}
  step s call s' := s' = s.call total caps call

/-- The amount is not negative and keeps every sum of its key plain. -/
def Kept (s : Ledger) (call : Call) (_ : Ledger) : Prop :=
  0 ≤ call.request.2.value ∧ AllPlain (amounts s.rows call.request.1 ++ [call.request.2])

/-- What a call writes: nothing, or one row of its request that fits unless it is overridden. -/
theorem perform_rows (caps : Caps) (hsum : ExactOnPlain total) {call : Call}
    (hplain : AllPlain (amounts rows call.request.1 ++ [call.request.2])) :
    after (immediate (call.perform total caps)) rows = rows ∨
    ∃ row : BudgetSpend, after (immediate (call.perform total caps)) rows = rows ++ [row] ∧
      row.key = call.request.1 ∧ row.amount = call.request.2 ∧
      (call.bound = true → ∃ cap, caps.get? row.key = some cap ∧
        exactSum (amounts rows row.key ++ [row.amount]) ≤ cap.limit) := by
  cases hperform : immediate (call.perform total caps) rows with
  | error e rows' =>
    left; unfold after; rw [hperform]; exact immediate_error hperform
  | ok u rows' =>
    rw [after_ok hperform]; have hperform := immediate_ok.1 hperform
    cases call with
    | admitRequest key requested override =>
      obtain ⟨_, rows₁, hadmit, h⟩ := bind_ok.1 hperform
      obtain ⟨_, rfl⟩ := pure_ok.1 h; exact .inl (admit_ok hadmit).1
    | record admission task now override note =>
      obtain ⟨row, rfl, hkey, hamount⟩ := record_ok hperform
      exact .inr ⟨row, rfl, hkey, hamount, fun h => by cases h⟩
    | spend key requested task now override note =>
      obtain ⟨admission, rows₁, hspend, h⟩ := bind_ok.1 hperform
      obtain ⟨_, rfl⟩ := pure_ok.1 h
      obtain ⟨row, rfl, rfl, rfl, hadmit⟩ := spend_ok hspend
      change AllPlain (amounts rows row.key ++ [row.amount]) at hplain
      refine .inr ⟨row, rfl, rfl, rfl, fun hbound => ?_⟩
      obtain ⟨_, cap, value, hcap, _, hspent, hfits, _⟩ := admit_ok hadmit
      have hnone : override = none := by
        cases override with
        | none => rfl
        | some override => cases hbound
      have hexact := spent_exact hsum hplain.left
      obtain rfl : value = exactSum (amounts rows row.key) := by
        rw [hspent] at hexact
        injection hexact
      have hle := hfits hnone; rw [projected_exact hplain] at hle
      exact ⟨cap, hcap, hle⟩

theorem amounts_append (rows : Spends) (row : BudgetSpend) (key : Key) :
    amounts (rows ++ [row]) key =
      if row.key = key then amounts rows key ++ [row.amount] else amounts rows key := by
  unfold amounts; split
  · next h => simp [h]
  · next h => simp [h]

/-- The invariant of a run of plain amounts. -/
structure Sound (caps : Caps) (s : Ledger) : Prop where
  nonneg : ∀ row ∈ s.rows, 0 ≤ row.amount.value
  plain : ∀ key, AllPlain (amounts s.rows key)
  sublist : s.unoverridden.Sublist s.rows
  capped : ∀ key, ∀ cap ∈ caps.get? key, exactSum (amounts s.unoverridden key) ≤ cap.limit

theorem exactSum_sublist {part whole : Spends} (h : part.Sublist whole)
    (hnonneg : ∀ row ∈ whole, 0 ≤ row.amount.value) (key : Key) :
    exactSum (amounts part key) ≤ exactSum (amounts whole key) := by
  refine List.Sublist.sum_le_sum (((h.filter _).map _).map _) fun x hx => ?_
  obtain ⟨a, ha, rfl⟩ := List.mem_map.1 hx
  obtain ⟨row, hrow, rfl⟩ := List.mem_map.1 ha
  exact hnonneg row (List.mem_filter.1 hrow).1

theorem Sound.call (hsum : ExactOnPlain total) {s : Ledger} (h : Sound caps s) {call : Call}
    (hcall : Kept s call (s.call total caps call)) : Sound caps (s.call total caps call) := by
  obtain ⟨hnonneg, hplain⟩ := hcall
  rcases perform_rows caps hsum hplain with hrows | ⟨row, hrows, hkey, hamount, hfits⟩
  · have hsame : s.call total caps call = s := by
      simp [Ledger.call, hrows]
    rw [hsame]; exact h
  have hcalled : s.call total caps call =
      ⟨s.rows ++ [row], if call.bound then s.unoverridden ++ [row] else s.unoverridden⟩ := by
    simp [Ledger.call, hrows]
  rw [hcalled]
  have hwritten : ∀ r ∈ s.rows ++ [row], 0 ≤ r.amount.value := by
    intro r hr; rcases List.mem_append.1 hr with hr | hr
    · exact h.nonneg r hr
    · rw [List.mem_singleton.1 hr, hamount]; exact hnonneg
  constructor
  · exact hwritten
  · intro key; rw [amounts_append]; split
    · next he =>
      rw [← he, hkey, hamount]; exact hplain
    · exact h.plain key
  · show List.Sublist (if call.bound then s.unoverridden ++ [row] else s.unoverridden) _
    split
    · exact h.sublist.append (List.Sublist.refl _)
    · exact h.sublist.trans (List.sublist_append_left _ _)
  · intro key cap hcap; split
    · next hbound =>
      rw [amounts_append]; split
      · next he =>
        obtain ⟨cap', hcap', hle⟩ := hfits hbound; rw [he] at hcap' hle
        obtain rfl : cap = cap' := Option.some.inj (hcap.symm.trans hcap')
        have hpart := exactSum_sublist h.sublist h.nonneg key
        rw [exactSum_append] at hle ⊢; linarith
      · exact h.capped key cap hcap
    · exact h.capped key cap hcap

theorem sound_inductive (hsum : ExactOnPlain total) :
    ((budgeting total caps).restrict Kept).Inductive (Sound caps) where
  init s h := by
    obtain rfl := h
    have hplain : Plain 0 := ⟨⟨0, 0, by simp⟩, 0, .zero 0, by norm_num⟩
    refine ⟨List.forall_mem_nil _, fun key => ⟨nofun, fun pre hpre => ?_⟩,
      .slnil, fun _ cap _ => cap.limit_nonneg⟩
    obtain rfl := List.prefix_nil.1 hpre; exact hplain
  step s call s' h hst := by
    obtain ⟨rfl, hcall⟩ := hst; exact h.call hsum hcall

/-- **The cap holds on plain amounts.** Where every amount is not negative and keeps the sums of
its key plain, `spent` is the exact sum of what was recorded, the spends without an override
stay within the cap, and a request that brings the exact sum to precisely the cap is admitted. A
call that raises records nothing. -/
theorem capped (hsum : ExactOnPlain total) {s : Ledger}
    (h : ((budgeting total caps).restrict Kept).Reachable s) :
    (∀ key, spent total key s.rows = .ok (exactSum (amounts s.rows key)) s.rows) ∧
    (∀ key, ∀ cap ∈ caps.get? key, exactSum (amounts s.unoverridden key) ≤ cap.limit) ∧
    (∀ key requested override task now note e rows',
      immediate (spend total caps key requested task now override note) s.rows = .error e rows' →
      rows' = s.rows) ∧
    ∀ key cap requested task now note, caps.get? key = some cap → 0 ≤ requested.value →
      AllPlain (amounts s.rows key ++ [requested]) →
      exactSum (amounts s.rows key ++ [requested]) = cap.limit →
      ∃ admission rows', spend total caps key requested task now none note s.rows =
        .ok admission rows' := by
  have hs := (sound_inductive hsum).reachable h
  refine ⟨fun key => spent_exact hsum (hs.plain key), hs.capped,
    fun _ _ _ _ _ _ _ _ herror => immediate_error herror, ?_⟩
  intro key cap requested task now note hcap hnonneg hplain hexact
  have hspent := spent_exact hsum (hs.plain key)
  have hprojected := projected_exact hplain
  have hadmit : ∃ admission, admitRequest total caps key requested none s.rows = .ok admission s.rows := by
    unfold admitRequest; simp only [hcap, bind_ok, require_ok, pure_ok]
    exact ⟨_, ⟨⟩, _, ⟨hnonneg, rfl⟩, _, _, hspent, ⟨⟩, _,
      ⟨fun hover => absurd hover.1 (by rw [hprojected, hexact]; exact lt_irrefl _), rfl⟩, rfl, rfl⟩
  obtain ⟨admission, hadmit⟩ := hadmit; unfold spend
  simp only [bind_ok, pure_ok]
  exact ⟨admission, _, admission, _, hadmit, ⟨⟩, _, modify_ok.2 rfl, rfl, rfl⟩

theorem runs_foldl (total : Total) (caps : Caps) (s : Ledger) (calls : List Call) :
    (budgeting total caps).Run s calls (calls.foldl (Ledger.call total caps) s) := by
  induction calls generalizing s with
  | nil => exact .nil s
  | cons call calls ih => exact .cons rfl (ih _)

/-! ## A whole cap spent in halves -/

def dollars : Key := ("family", .dollars)

/-- A cap on the dollars of one family. -/
def dollarCaps (limit : ℚ) (h : 0 ≤ limit) : Caps :=
  Table.empty.upsert ⟨"family", .dollars, limit, 4 / 5, h, by norm_num, by norm_num⟩

def spending (amount : Amount) : Call := .spend dollars amount "task" 0 none ""

/-- A total that rounds nothing. -/
def exactTotal : Total := fun recorded => some (exactSum recorded)

theorem plain_intCast {n : ℤ} (h : |n| < 10 ^ 15) : Plain n := by
  refine ⟨⟨n, 0, ?_, by norm_num, by norm_num, by simp⟩, 0, ⟨n, by simp⟩, ?_⟩
  · exact h.le.trans (by norm_num)
  · rw [pow_zero, mul_one]; exact_mod_cast h

/-- The second half of a cap of ten is admitted, and the sum is the cap. -/
theorem capped_halves :
    let s := [spending ⟨5, 0⟩, spending ⟨5, 0⟩].foldl
      (Ledger.call exactTotal (dollarCaps 10 (by decide))) {}
    spent exactTotal dollars s.rows = .ok 10 s.rows ∧
      exactSum (amounts s.unoverridden dollars) ≤ 10 := by
  intro s
  have hfive : Plain (Amount.value ⟨5, 0⟩) := by
    simpa [Amount.value] using plain_intCast (n := 5) (by norm_num)
  have hprefix : ∀ pre, pre <+: [(⟨5, 0⟩ : Amount), ⟨5, 0⟩] → Plain (exactSum pre) := by
    intro pre hpre
    have hmem : pre ∈ [[], [(⟨5, 0⟩ : Amount)], [⟨5, 0⟩, ⟨5, 0⟩]] := by
      simpa using (List.mem_inits _ _).2 hpre
    rcases List.mem_cons.1 hmem with rfl | hmem
    · simpa [exactSum] using plain_intCast (n := 0) (by norm_num)
    rcases List.mem_cons.1 hmem with rfl | hmem
    · simpa [exactSum] using hfive
    obtain rfl := List.mem_singleton.1 hmem
    have hten := plain_intCast (n := 10) (by norm_num)
    have hvalue : exactSum [(⟨5, 0⟩ : Amount), ⟨5, 0⟩] = ((10 : ℤ) : ℚ) := by decide +kernel
    rw [hvalue]
    exact hten
  have htwo : AllPlain [(⟨5, 0⟩ : Amount), ⟨5, 0⟩] := by
    refine ⟨fun a ha => ?_, hprefix⟩
    obtain rfl : a = ⟨5, 0⟩ := by simpa using ha
    exact hfive
  have hreach : ((budgeting exactTotal (dollarCaps 10 (by norm_num))).restrict Kept).Reachable s := by
    refine ⟨{}, [spending ⟨5, 0⟩, spending ⟨5, 0⟩], rfl,
      .cons ⟨rfl, by decide +kernel, ?_⟩ (.cons ⟨rfl, by decide +kernel, ?_⟩ (.nil _))⟩
    · exact AllPlain.left (a := ⟨5, 0⟩) htwo
    have hrows : amounts (Ledger.call exactTotal (dollarCaps 10 (by norm_num)) {}
        (spending ⟨5, 0⟩)).rows dollars = [⟨5, 0⟩] := by decide +kernel
    show AllPlain (amounts _ dollars ++ [⟨5, 0⟩])
    rw [hrows]
    exact htwo
  obtain ⟨hspent, hcap, _⟩ := capped (fun _ _ => rfl) hreach
  refine ⟨(hspent dollars).trans ?_, ?_⟩
  · have hsum : exactSum (amounts s.rows dollars) = 10 := by decide +kernel
    rw [hsum]
  · exact hcap dollars ⟨"family", .dollars, 10, 4 / 5, by norm_num, by norm_num, by norm_num⟩ rfl

/-! ## An amount of nineteen digits -/

/-- A positive magnitude to some digits of a base. -/
def significant (base digits : ℕ) (x : ℚ) : ℚ :=
  let unit : ℚ := base ^ (Int.log base x + 1 - digits)
  Decimal.nearestEven (x / unit) * unit

/-- The nearest double of a positive number. -/
def double (x : ℚ) : ℚ := significant 2 53 x

/-- The shortest digits that read as the double. -/
def shortest (x : ℚ) : ℚ :=
  (((List.range' 1 17).map fun digits => significant 10 digits x).find? fun y =>
    double y = x).getD x

/-- Integer texts as integers; otherwise in doubles, left to right, read back from `repr`. -/
def doubleTotal : Total := fun recorded =>
  if recorded.all fun a => a.exponent = 0 then some (exactSum recorded)
  else some (shortest (recorded.foldl (fun acc a => double (acc + double a.value)) 0))

/-- 0.1000000000000000001 reads back as 0.1, and another 0.1 is admitted under a cap of 0.2. -/
theorem cap_passed :
    let s := [spending ⟨1000000000000000001, -19⟩, spending ⟨1, -1⟩].foldl
      (Ledger.call doubleTotal (dollarCaps (1 / 5) (by norm_num))) {}
    (budgeting doubleTotal (dollarCaps (1 / 5) (by norm_num))).Reachable s ∧
      1 / 5 < exactSum (amounts s.unoverridden dollars) := by
  intro s
  exact ⟨⟨{}, _, rfl, runs_foldl _ _ _ _⟩, by decide +kernel⟩

end Quantbot.L3.ResearchBudget
