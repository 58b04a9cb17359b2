import Mathlib.Data.List.MinMax
import Quantbot.Core.LTS
import Quantbot.L4PaperCore.RequestBudget

/-!
# The request window is never exceeded

`request_windows`: in every run of requests, retries, consumptions, observations and status
calls, by any issuers with any clocks, no window of sixty seconds holds more charges of a scope
and host epoch than the total limit, or more of a role than the role's; and no prepaid
charge is consumed twice. A window is half-open, as `at > now - 60` counts it.

`reserve` holds the guardian to 36 charges that are neither an owned exit nor a clock read;
`consume` moves a prepaid charge to the present and does not count these. `late_consumption` is
a run with 37 of them in one window. Where every consumption finds fewer than 36 the limit holds
(`Rechecked`), and 84 of the guardian's requests remain for protection.

The two tests of a purpose differ: `startswith` on the request, `LIKE` on the stored charges,
which knows no case and reads `_` as any character. `Rechecked` asks that they agree.
-/
namespace Quantbot.L4.RequestBudget

open Core Txn

variable {H : HeaderReading} {B : Budget} {now : ℚ} {charges : Charges}

/-! ## What a call does to the charges -/

/-- A charge that a call stamps with its own time, after counting the others. -/
structure Put (B : Budget) (now : ℚ) (charges : Charges) (c : Charge) : Prop where
  own : own B c = true
  at_ : c.at_ = now
  total : stampedAfter Charge.at_ (RequestBudget.own B) (charges.erase c.id) (now - window) <
    totalLimit
  role : stampedAfter Charge.at_ (fun d => RequestBudget.own B d && d.role = c.role)
    (charges.erase c.id) (now - window) < c.role.limit
  /-- No consumed charge is stamped again. -/
  unconsumed : ∀ old ∈ charges.get? c.id, old.consumed = false

def Call.purpose : Call → Option String
  | .reserve _ purpose _ _ | .acquire _ purpose => some purpose
  | _ => none

/-- The charges after a call, and the prepaid charge it consumed. -/
inductive Charged (B : Budget) (now : ℚ) (charges : Charges) (call : Call) :
    Option ℕ → Charges → Prop
  | same : Charged B now charges call none charges
  | reserved {c : Charge} (hput : Put B now charges c)
    (hreserve : c.role = .guardian → protective c.purpose = false →
      stampedAfter Charge.at_ (guardianCounted B) (charges.erase c.id) (now - window) < 36)
    (hpurpose : call.purpose = some c.purpose ∨
      ∃ old ∈ charges.rows, old.role = c.role ∧ old.purpose = c.purpose) :
    Charged B now charges call none (charges.upsert c)
  | consumed {original : Charge} (hcall : call = .consume original.id original.role)
    (hprepaid : prepaid B charges original.id original.role = some original)
    (hput : Put B now charges { original with at_ := now, consumed := true }) :
    Charged B now charges call (some original.id)
      (charges.upsert { original with at_ := now, consumed := true })

theorem nextId_fresh : charges.get? (nextId charges) = none := by
  rw [Table.get?_none]; intro c hc hid
  have hle := List.le_max_of_le' 0 (List.mem_map_of_mem (f := (·.id)) hc) le_rfl
  unfold nextId at hid; omega

variable {c : Charge} {role : Role} {identity : ℕ}

theorem prepaid_some (h : prepaid B charges identity role = some c) :
    charges.get? identity = some c ∧ own B c = true ∧ c.role = role ∧ c.consumed = false := by
  obtain ⟨hget, hc⟩ := Option.filter_eq_some_iff.1 h
  simp only [Bool.and_eq_true, decide_eq_true_eq, Bool.not_eq_true'] at hc
  exact ⟨hget, hc.1.1, hc.1.2, hc.2⟩

theorem ceiling_le (row : Scope) (now : ℚ) : row.ceiling now ≤ totalLimit := min_le_left _ _

variable {epoch purpose scope : String}

/-- What the checks of `reserve` let through. -/
theorem refusalReason_none {row : Scope} {others : Charges}
    (h : refusalReason B row others role purpose now = none) :
    row.cooldown ≤ now ∧ row.blocked ≤ now ∧
      stampedAfter Charge.at_ (own B) others (now - window) < totalLimit ∧
      stampedAfter Charge.at_ (fun c => own B c && c.role = role) others (now - window) <
        role.limit ∧ (role = .guardian → protective purpose = false →
        stampedAfter Charge.at_ (guardianCounted B) others (now - window) < 36) := by
  simp only [refusalReason] at h; split at h
  · cases h
  next hcooldown =>
  split at h
  · cases h
  next hblocked =>
  split at h
  · cases h
  next htotal =>
  split at h
  · cases h
  next hreserve =>
  split at h
  · cases h
  next hrole =>
  refine ⟨not_lt.1 hcooldown, not_lt.1 hblocked, ?_, Nat.not_le.1 hrole, ?_⟩
  · exact lt_of_lt_of_le (Nat.not_le.1 htotal) (ceiling_le _ _)
  intro hguardian hpurpose; by_contra hfull
  exact hreserve ⟨hguardian, hpurpose, Nat.not_lt.1 hfull⟩

theorem own_mk {id : ℕ} {at_ : ℚ} {consumed : Bool} :
    own B ⟨id, B.scope, B.epoch, role, purpose, at_, consumed⟩ = true := by
  simp [own]

variable {p : Charge → Bool}

theorem stampedAfter_erase_le {k : ℕ} {x : ℚ} :
    stampedAfter Charge.at_ p (charges.erase k) x ≤ stampedAfter Charge.at_ p charges x :=
  countP_erase_le _ _ _

variable {s' : ControlStore} {s : ControlStore}

theorem reserve_charges {consumed : Bool} {reuse : Option ℕ} {answer : Option ℕ}
    {call : Call} (hcall : call.purpose = some purpose)
    (h : reserve B role purpose now consumed reuse s = .ok answer s') :
    Charged B now s.charges call none s'.charges := by
  rcases reserve_ok h with ⟨_, refusals, rfl⟩ | ⟨judged, hjudged, hreason, _, rfl⟩
  · exact .same
  obtain ⟨_, _, htotal, hrole, hreserve⟩ := refusalReason_none hreason
  cases reuse with
  | none =>
    obtain rfl : purpose = judged := Option.some.inj hjudged
    refine .reserved ⟨own_mk, rfl, ?_, ?_, ?_⟩ ?_ (.inl hcall)
    · exact lt_of_le_of_lt stampedAfter_erase_le htotal
    · exact lt_of_le_of_lt stampedAfter_erase_le hrole
    · intro old hold; rw [nextId_fresh] at hold; cases hold
    · intro hguardian hpurpose
      exact lt_of_le_of_lt stampedAfter_erase_le (hreserve hguardian hpurpose)
  | some identity =>
    cases consumed with
    | true => cases hjudged
    | false =>
      obtain ⟨original, horiginal, rfl⟩ := Option.map_eq_some_iff.1 hjudged
      obtain ⟨hget, _, hroleOf, hunconsumed⟩ := prepaid_some horiginal
      refine .reserved ⟨own_mk, rfl, htotal, hrole, ?_⟩ hreserve (.inr ?_)
      · intro old hold; rw [hget] at hold; rw [← Option.some.inj hold]
        exact hunconsumed
      · exact ⟨original, (Table.get?_some hget).1, hroleOf, rfl⟩

theorem consume_charges {answer : Bool} (h : consume B identity role now s = .ok answer s') :
    Charged B now s.charges (.consume identity role) (if answer then some identity else none)
      s'.charges := by
  rcases consume_ok h with ⟨rfl, rfl⟩ | ⟨original, hprepaid, rfl, _, htotal, hrole, rfl⟩
  · exact .same
  obtain ⟨hget, hown, rfl, hunconsumed⟩ := prepaid_some hprepaid
  obtain rfl : original.id = identity := (Table.get?_some hget).2
  refine .consumed rfl hprepaid ⟨hown, rfl, ?_, hrole, ?_⟩
  · exact lt_of_lt_of_le htotal (ceiling_le _ _)
  intro old hold
  rw [show s.charges.get? original.id = some original from hget] at hold
  rw [← Option.some.inj hold]; exact hunconsumed

theorem perform_charges {call : Call} {answer : Answer}
    (h : call.perform H B now s = .ok answer s') :
    Charged B now s.charges call answer.consumed s'.charges := by
  cases call with
  | reserve role purpose consumed reuse =>
    obtain ⟨identity, s₁, hreserve, h⟩ := bind_ok.1 h
    obtain ⟨rfl, rfl⟩ := pure_ok.1 h; exact reserve_charges rfl hreserve
  | acquire role purpose =>
    obtain ⟨admitted, s₁, hacquire, h⟩ := bind_ok.1 h
    obtain ⟨rfl, rfl⟩ := pure_ok.1 h
    obtain ⟨identity, s₂, hreserve, hacquire⟩ := bind_ok.1 hacquire
    obtain ⟨_, rfl⟩ := pure_ok.1 hacquire; exact reserve_charges rfl hreserve
  | consume identity role =>
    obtain ⟨admitted, s₁, hconsume, h⟩ := bind_ok.1 h
    obtain ⟨rfl, rfl⟩ := pure_ok.1 h; exact consume_charges hconsume
  | status =>
    obtain ⟨_, s₁, hstatus, h⟩ := bind_ok.1 h; obtain ⟨rfl, rfl⟩ := pure_ok.1 h
    rw [status_ok hstatus]; exact .same
  | observe response =>
    obtain ⟨_, s₁, hobserve, h⟩ := bind_ok.1 h; obtain ⟨rfl, rfl⟩ := pure_ok.1 h
    rw [observe_ok hobserve]; exact .same

/-! ## Runs -/

/-- The shared database, and the prepaid charges consumed so far. -/
structure System where
  store : ControlStore := {}
  consumptions : List ℕ := []

/-- A call by a process with its budget and the reading of its clock. -/
structure Request where
  budget : Budget
  now : ℚ
  call : Call

def System.call (H : HeaderReading) (s : System) (q : Request) : System :=
  match immediate (q.call.perform H q.budget q.now) s.store with
  | .ok answer store => ⟨store, s.consumptions ++ answer.consumed.toList⟩
  | .error _ store => ⟨store, s.consumptions⟩

/-- Calls of any processes, in any order. -/
def requests (H : HeaderReading) : LTS System Request where
  init s := s = {}
  step s q s' := s' = s.call H q

theorem call_charged (s : System) (q : Request) :
    ∃ consumed, Charged q.budget q.now s.store.charges q.call consumed (s.call H q).store.charges ∧
      (s.call H q).consumptions = s.consumptions ++ consumed.toList := by
  unfold System.call
  cases hperform : immediate (q.call.perform H q.budget q.now) s.store with
  | ok answer store => exact ⟨_, perform_charges (immediate_ok.1 hperform), rfl⟩
  | error e store =>
    refine ⟨none, ?_, (List.append_nil _).symm⟩
    rw [show store = s.store from immediate_error hperform]; exact .same

/-! ## The limits -/

/-- A charge of the scope and host epoch. -/
def within (scope epoch : String) (c : Charge) : Bool := c.scope = scope && c.epoch = epoch

/-- A guardian's charge for neither an owned exit nor a clock read. -/
def unprotected (c : Charge) : Bool := c.role = .guardian && !protective c.purpose

/-- No window of charge time is over a limit, and nothing is consumed twice. -/
structure Limited (s : System) : Prop where
  total : ∀ scope epoch, Rolling Charge.at_ (within scope epoch) window totalLimit s.store.charges
  role : ∀ scope epoch role, Rolling Charge.at_ (fun c => within scope epoch c && c.role = role)
    window role.limit s.store.charges
  nodup : s.consumptions.Nodup
  consumed : ∀ id ∈ s.consumptions, ∃ c, s.store.charges.get? id = some c ∧ c.consumed = true

theorem within_of_own (hown : own B c = true) (hc : within scope epoch c = true) :
    scope = B.scope ∧ epoch = B.epoch := by
  simp only [own, within, Bool.and_eq_true, decide_eq_true_eq] at hown hc
  exact ⟨hc.1.symm.trans hown.1, hc.2.symm.trans hown.2⟩

theorem Put.total_rolling (hput : Put B now charges c)
    (h : Rolling Charge.at_ (within scope epoch) window totalLimit charges) :
    Rolling Charge.at_ (within scope epoch) window totalLimit (charges.upsert c) := by
  refine h.upsert fun hc => ?_; obtain ⟨rfl, rfl⟩ := within_of_own hput.own hc
  rw [hput.at_]; exact hput.total

theorem Put.role_rolling {c : Charge} (hput : Put B now charges c) {scope epoch : String}
    {role : Role}
    (h : Rolling Charge.at_ (fun d => within scope epoch d && d.role = role) window role.limit
      charges) :
    Rolling Charge.at_ (fun d => within scope epoch d && d.role = role) window role.limit
      (charges.upsert c) := by
  refine h.upsert fun hc => ?_
  simp only [Bool.and_eq_true, decide_eq_true_eq] at hc
  obtain ⟨hwithin, rfl⟩ := hc
  obtain ⟨rfl, rfl⟩ := within_of_own hput.own hwithin; rw [hput.at_]
  exact hput.role

variable {consumptions : List ℕ}

theorem Put.fresh (hput : Put B now charges c)
    (h : ∀ id ∈ consumptions, ∃ d, charges.get? id = some d ∧ d.consumed = true) :
    c.id ∉ consumptions := by
  intro hmem; obtain ⟨d, hget, hconsumed⟩ := h c.id hmem
  exact absurd (hput.unconsumed d hget) (by simp [hconsumed])

theorem Put.kept (hput : Put B now charges c)
    (h : ∀ id ∈ consumptions, ∃ d, charges.get? id = some d ∧ d.consumed = true) :
    ∀ id ∈ consumptions, ∃ d, (charges.upsert c).get? id = some d ∧ d.consumed = true := by
  intro id hid; have hne : c.id ≠ id := fun he => hput.fresh h (he ▸ hid)
  rw [Table.get?_upsert, if_neg hne]; exact h id hid

variable {s : System}

theorem Limited.call (h : Limited s) (q : Request) : Limited (s.call H q) := by
  obtain ⟨consumed, hcharged, hconsumptions⟩ := call_charged (H := H) s q
  generalize hcharges : (s.call H q).store.charges = charges' at hcharged
  cases hcharged with
  | same =>
    have hnone : (s.call H q).consumptions = s.consumptions :=
      hconsumptions.trans (List.append_nil _)
    constructor
    · exact hcharges.symm ▸ h.total
    · exact hcharges.symm ▸ h.role
    · exact hnone.symm ▸ h.nodup
    · exact hnone.symm ▸ hcharges.symm ▸ h.consumed
  | reserved hput _ _ =>
    have hnone : (s.call H q).consumptions = s.consumptions :=
      hconsumptions.trans (List.append_nil _)
    constructor
    · exact hcharges.symm ▸ fun scope epoch => hput.total_rolling (h.total scope epoch)
    · exact hcharges.symm ▸ fun scope epoch role => hput.role_rolling (h.role scope epoch role)
    · exact hnone.symm ▸ h.nodup
    · exact hnone.symm ▸ hcharges.symm ▸ hput.kept h.consumed
  | @consumed original _ _ hput =>
    have hfresh : original.id ∉ s.consumptions := hput.fresh h.consumed
    constructor
    · exact hcharges.symm ▸ fun scope epoch => hput.total_rolling (h.total scope epoch)
    · exact hcharges.symm ▸ fun scope epoch role => hput.role_rolling (h.role scope epoch role)
    · rw [hconsumptions]
      exact h.nodup.append (List.nodup_singleton _) (by simpa using hfresh)
    · rw [hconsumptions, hcharges]; intro id hid
      rcases List.mem_append.1 hid with hid | hid
      · exact hput.kept h.consumed id hid
      · obtain rfl : id = original.id := by simpa using hid
        exact ⟨_, by rw [Table.get?_upsert, if_pos rfl], rfl⟩

theorem limited_inductive : (requests H).Inductive Limited where
  init s h := by
    obtain rfl := h
    exact ⟨fun _ _ => Rolling.empty, fun _ _ _ => Rolling.empty, List.nodup_nil,
      fun id hid => (by cases hid)⟩
  step s q s' h hst := by
    obtain rfl := hst; exact h.call q

/-! ## The guardian's reserve -/

/-- A consumption counts what `reserve` counts, and a request's purpose reads the same to both
tests. -/
def Rechecked (s : System) (q : Request) (_ : System) : Prop :=
  (∀ purpose ∈ q.call.purpose, likeProtective purpose = true → protective purpose = true) ∧
  ∀ original, q.call = .consume original.id original.role →
    prepaid q.budget s.store.charges original.id original.role = some original →
    unprotected original = true →
    stampedAfter Charge.at_ (guardianCounted q.budget) (s.store.charges.erase original.id)
      (q.now - window) < 36

/-- The windows of the guardian's other charges, each counted by `LIKE`. -/
structure Reserved (s : System) : Prop where
  rolling : ∀ scope epoch, Rolling Charge.at_ (fun c => within scope epoch c && unprotected c)
    window 36 s.store.charges
  spelled : ∀ c ∈ s.store.charges.rows,
    likeProtective c.purpose = true → protective c.purpose = true

theorem unprotected_le {k : ℕ} {x : ℚ} (h : ∀ c ∈ charges.rows,
    likeProtective c.purpose = true → protective c.purpose = true) :
    stampedAfter Charge.at_ (fun c => within B.scope B.epoch c && unprotected c) (charges.erase k) x ≤
      stampedAfter Charge.at_ (guardianCounted B) (charges.erase k) x := by
  refine List.countP_mono_left fun c hc hcounted => ?_
  have hmem : c ∈ charges.rows := (List.mem_filter.1 hc).1
  simp only [within, unprotected, guardianCounted, own, Bool.and_eq_true, Bool.not_eq_true',
    decide_eq_true_eq] at hcounted ⊢
  obtain ⟨⟨⟨hscope, hepoch⟩, hrole, hpurpose⟩, hstamp⟩ := hcounted
  refine ⟨⟨⟨⟨hscope, hepoch⟩, hrole⟩, ?_⟩, hstamp⟩
  cases hlike : likeProtective c.purpose with
  | false => rfl
  | true =>
    rw [h c hmem hlike] at hpurpose; cases hpurpose

theorem Put.reserved {s : System} {c : Charge} (hput : Put B now s.store.charges c) (h : Reserved s)
    (hroom : unprotected c = true → stampedAfter Charge.at_ (guardianCounted B)
      (s.store.charges.erase c.id) (now - window) < 36)
    (hspelled : likeProtective c.purpose = true → protective c.purpose = true) :
    (∀ scope epoch, Rolling Charge.at_ (fun d => within scope epoch d && unprotected d) window 36
      (s.store.charges.upsert c)) ∧ ∀ d ∈ (s.store.charges.upsert c).rows,
      likeProtective d.purpose = true → protective d.purpose = true := by
  constructor
  · intro scope epoch; refine (h.rolling scope epoch).upsert fun hc => ?_
    obtain ⟨hwithin, hunprotected⟩ := (Bool.and_eq_true _ _).mp hc
    obtain ⟨rfl, rfl⟩ := within_of_own hput.own hwithin; rw [hput.at_]
    exact lt_of_le_of_lt (unprotected_le h.spelled) (hroom hunprotected)
  · intro d hd; have hget := Table.get?_key.2 hd; rw [Table.get?_upsert] at hget
    split at hget
    · rw [← Option.some.inj hget]; exact hspelled
    · exact h.spelled d (Table.get?_some hget).1

theorem Reserved.call (h : Reserved s) {q : Request} (hq : Rechecked s q (s.call H q)) :
    Reserved (s.call H q) := by
  obtain ⟨consumed, hcharged, _⟩ := call_charged (H := H) s q
  generalize hcharges : (s.call H q).store.charges = charges' at hcharged
  cases hcharged with
  | same => exact ⟨hcharges.symm ▸ h.rolling, hcharges.symm ▸ h.spelled⟩
  | @reserved c hput hreserve hpurpose =>
    have hspelled : likeProtective c.purpose = true → protective c.purpose = true := by
      rcases hpurpose with hpurpose | ⟨old, hold, _, hpurpose⟩
      · exact hq.1 _ hpurpose
      · exact hpurpose ▸ h.spelled old hold
    obtain ⟨hrolling, hrows⟩ := hput.reserved h (fun hc => by
      simp only [unprotected, Bool.and_eq_true, decide_eq_true_eq, Bool.not_eq_true'] at hc
      exact hreserve hc.1 hc.2) hspelled
    exact ⟨hcharges.symm ▸ hrolling, hcharges.symm ▸ hrows⟩
  | @consumed original hcall hprepaid hput =>
    have hmem := (Table.get?_some (prepaid_some hprepaid).1).1
    obtain ⟨hrolling, hrows⟩ := hput.reserved h
      (fun hc => hq.2 original hcall hprepaid hc) (h.spelled original hmem)
    exact ⟨hcharges.symm ▸ hrolling, hcharges.symm ▸ hrows⟩

theorem reserved_inductive : ((requests H).restrict Rechecked).Inductive Reserved where
  init s h := by
    obtain rfl := h; exact ⟨fun _ _ => Rolling.empty, fun c hc => (by cases hc)⟩
  step s q s' h hst := by
    obtain ⟨rfl, hq⟩ := hst; exact h.call hq

/-- A guardian's charge for protection. -/
def protects (c : Charge) : Bool := c.role = .guardian && protective c.purpose

/-- The charges of a caller whose clock is behind none of them are those of its window. -/
theorem stampedAfter_eq_inWindow (h : ∀ c ∈ charges.rows, p c = true → c.at_ ≤ now) :
    stampedAfter Charge.at_ p charges (now - window) =
      inWindow Charge.at_ p charges (now - window) window := by
  refine List.countP_congr fun c hc => ?_; rw [sub_add_cancel]
  simp only [Bool.and_eq_true, decide_eq_true_eq]
  exact ⟨fun hp => ⟨hp, h c hc hp.1⟩, fun hp => hp.1⟩

theorem inWindow_guardian (charges : Charges) (scope epoch : String) (x : ℚ) :
    inWindow Charge.at_ (fun c => within scope epoch c && c.role = .guardian) charges x window =
      inWindow Charge.at_ (fun c => within scope epoch c && protects c) charges x window +
        inWindow Charge.at_ (fun c => within scope epoch c && unprotected c) charges x window := by
  rw [inWindow_split _ _ fun c => protective c.purpose]; congr 1
  · exact inWindow_congr fun c => Bool.and_assoc ..
  · exact inWindow_congr fun c => Bool.and_assoc ..

theorem inWindow_roles (charges : Charges) (scope epoch : String) (x : ℚ) :
    inWindow Charge.at_ (within scope epoch) charges x window =
      inWindow Charge.at_ (fun c => within scope epoch c && c.role = .guardian) charges x window +
        (inWindow Charge.at_ (fun c => within scope epoch c && c.role = .trader) charges x window +
        inWindow Charge.at_ (fun c => within scope epoch c && c.role = .outcomes) charges x
          window) := by
  rw [inWindow_split _ _ fun c => c.role = .guardian]; congr 1
  rw [inWindow_split _ _ fun c => c.role = .trader]; congr 1
  · refine inWindow_congr fun c => ?_; cases c.role <;> simp
  · refine inWindow_congr fun c => ?_; cases c.role <;> simp

/-- With fewer than 84 of its kind in its window a request for protection is not refused. -/
theorem protection_remains {s : System} (hl : Limited s) (hr : Reserved s) {purpose : String}
    (hpurpose : protective purpose = true)
    (hstamps : ∀ c ∈ s.store.charges.rows, own B c = true → c.at_ ≤ now) {row : Scope}
    (hceiling : row.ceiling now = totalLimit) (hcooldown : row.cooldown ≤ now)
    (hblocked : row.blocked ≤ now)
    (hfew : inWindow Charge.at_ (fun c => own B c && protects c) s.store.charges (now - window)
      window < 84) : refusalReason B row s.store.charges .guardian purpose now = none := by
  by_contra hrefused
  have hguardian : 120 ≤ inWindow Charge.at_ (fun c => own B c && c.role = .guardian)
      s.store.charges (now - window) window := by
    by_contra hfew; apply hrefused
    have htrader := hl.role B.scope B.epoch .trader (now - window)
    have houtcomes := hl.role B.scope B.epoch .outcomes (now - window)
    have hall := inWindow_roles s.store.charges B.scope B.epoch (now - window)
    have htotal : ¬ row.ceiling now ≤
        stampedAfter Charge.at_ (own B) s.store.charges (now - window) := by
      rw [hceiling, stampedAfter_eq_inWindow hstamps]
      change inWindow Charge.at_ (own B) s.store.charges (now - window) window =
        inWindow Charge.at_ (fun c => own B c && c.role = .guardian) _ _ _ + (_ + _) at hall
      rw [hall]; have hrest := Nat.add_le_add htrader houtcomes
      have hsum := Nat.add_lt_add_of_lt_of_le (Nat.not_le.1 hfew) hrest
      exact Nat.not_le.2 hsum
    have hrole : ¬ Role.guardian.limit ≤
        stampedAfter Charge.at_ (fun c => own B c && c.role = .guardian) s.store.charges
          (now - window) := by
      rw [stampedAfter_eq_inWindow fun c hc hp =>
        hstamps c hc ((Bool.and_eq_true _ _).mp hp).1]
      exact hfew
    simp [refusalReason, not_lt.2 hcooldown, not_lt.2 hblocked, htotal, hrole, hpurpose]
  have hsplit := inWindow_guardian s.store.charges B.scope B.epoch (now - window)
  have hreserve := hr.rolling B.scope B.epoch (now - window)
  change 120 ≤ inWindow Charge.at_ (fun c => within B.scope B.epoch c && c.role = .guardian) _ _ _
    at hguardian
  change inWindow Charge.at_ (fun c => within B.scope B.epoch c && protects c) _ _ _ < 84 at hfew
  omega

/-- **The request window.** In every state that requests reach, every window of sixty seconds
holds at most the total limit and each role's, and nothing is consumed twice. Where the
consumptions recheck the guardian's reserve, at most 36 of the guardian's charges protect nothing,
and 84 remain: a request for protection, past the deadlines and with a clock behind no charge, is
admitted while fewer than 84 of its kind are in its window. -/
theorem request_windows (H : HeaderReading) (s : System) : ((requests H).Reachable s →
      (∀ scope epoch, Rolling Charge.at_ (within scope epoch) window totalLimit s.store.charges) ∧
      (∀ scope epoch role, Rolling Charge.at_ (fun c => within scope epoch c && c.role = role)
        window role.limit s.store.charges) ∧ s.consumptions.Nodup) ∧
    (((requests H).restrict Rechecked).Reachable s →
      (∀ scope epoch x, inWindow Charge.at_ (fun c => within scope epoch c && unprotected c)
        s.store.charges x window + 84 ≤ Role.guardian.limit) ∧
      ∀ B now purpose row, protective purpose = true →
        (∀ c ∈ s.store.charges.rows, own B c = true → c.at_ ≤ now) →
        row.ceiling now = totalLimit → row.cooldown ≤ now → row.blocked ≤ now →
        inWindow Charge.at_ (fun c => own B c && protects c) s.store.charges (now - window)
          window < 84 → refusalReason B row s.store.charges .guardian purpose now = none) := by
  constructor
  · intro h; have hl := limited_inductive.reachable h
    exact ⟨hl.total, hl.role, hl.nodup⟩
  · intro h; have hl := limited_inductive.reachable h.of_restrict
    have hr := reserved_inductive.reachable h
    refine ⟨fun scope epoch x => ?_, ?_⟩
    · have := hr.rolling scope epoch x; simp only [Role.limit]; omega
    · intro B now purpose row hpurpose hstamps hceiling hcooldown hblocked hfew
      exact protection_remains hl hr hpurpose hstamps hceiling hcooldown hblocked hfew

/-! ## A reservation consumed late -/

/-- Python's readings are not asked in the runs below. -/
def noReading : HeaderReading := ⟨fun _ => none, fun _ => none, fun _ => none⟩

def guardianBudget : Budget := ⟨"a", "e", "e", "1"⟩

def reserving (purpose : String) (now : ℚ) : Request :=
  ⟨guardianBudget, now, .reserve .guardian purpose false none⟩

/-- 36 reservations, 36 more a window later, and a consumption of the first. -/
def lateRequests : List Request :=
  List.replicate 36 (reserving "R" 0) ++ List.replicate 36 (reserving "R" 61) ++
    [⟨guardianBudget, 61, .consume 1 .guardian⟩]

theorem runs_foldl (H : HeaderReading) (s : System) (qs : List Request) :
    (requests H).Run s qs (qs.foldl (System.call H) s) := by
  induction qs generalizing s with
  | nil => exact .nil s
  | cons q qs ih => exact .cons rfl (ih _)

/-- In the minute after the first consumption there are 37 charges that protect nothing. -/
theorem late_consumption : ∃ s, (requests noReading).Reachable s ∧
      inWindow Charge.at_ (fun c => within "a" "e" c && unprotected c) s.store.charges 1 window =
        37 :=
  ⟨_, ⟨_, lateRequests, rfl, runs_foldl _ _ _⟩, by decide +kernel⟩

/-- A reservation and its consumption a window later; an owned exit is then admitted. -/
def promptRequests : List Request :=
  [reserving "R" 0, ⟨guardianBudget, 61, .consume 1 .guardian⟩]

def promptSystem : System := promptRequests.foldl (System.call noReading) {}

theorem promptSystem_reachable : ((requests noReading).restrict Rechecked).Reachable promptSystem := by
  refine ⟨{}, promptRequests, rfl, .cons ⟨rfl, ?_, ?_⟩ (.cons ⟨rfl, ?_, ?_⟩ (.nil _))⟩
  · intro purpose hpurpose
    obtain rfl : "R" = purpose := Option.some.inj hpurpose; decide
  · intro original hcall; cases hcall
  · intro purpose hpurpose; cases hpurpose
  · intro original _ _ _
    refine lt_of_le_of_lt (List.countP_le_length.trans (List.length_filter_le _ _)) ?_
    decide

theorem request_windows_prompt :
    (Rolling Charge.at_ (within "a" "e") window totalLimit promptSystem.store.charges ∧
      promptSystem.consumptions.Nodup) ∧
    inWindow Charge.at_ (fun c => within "a" "e" c && unprotected c) promptSystem.store.charges 1
      window + 84 ≤ Role.guardian.limit ∧
    refusalReason guardianBudget (promptSystem.store.row guardianBudget 61)
      promptSystem.store.charges .guardian "OWNED_EXIT" 61 = none := by
  obtain ⟨hall, hreserved⟩ := request_windows noReading promptSystem
  obtain ⟨htotal, _, hnodup⟩ := hall promptSystem_reachable.of_restrict
  obtain ⟨hreserve, hprotection⟩ := hreserved promptSystem_reachable
  refine ⟨⟨htotal "a" "e", hnodup⟩, hreserve "a" "e" 1, ?_⟩
  exact hprotection guardianBudget 61 "OWNED_EXIT" (promptSystem.store.row guardianBudget 61)
    (by decide) (by decide) (by decide) (by decide) (by decide)
    (by decide)

end Quantbot.L4.RequestBudget
