import Mathlib.Algebra.Order.Ring.Rat
import Quantbot.Core.RollingWindow
import Quantbot.Core.Txn

/-!
# The account's request budget

`RequestBudget` of `paper_core/account_control.py`: every request to the provider is charged in
one shared database before it is sent. `_state` brings the scope's row up to the caller's clock,
`reserve` and `consume` admit against it, `observe` records what the provider answered. Every
call is one transaction.

Clock readings are rational seconds. What `int`, `float` and `parsedate_to_datetime` read in a
header's text is given (`HeaderReading`).
-/
namespace Quantbot.L4.RequestBudget

open Core Txn

/-! ## The control database -/

/-- The keys of `ROLE_LIMITS`. -/
inductive Role | guardian | trader | outcomes
deriving DecidableEq, Repr

/-- mirrors account_control.py:76 -/
def Role.limit : Role → ℕ
  | .guardian => 120
  | .trader => 40
  | .outcomes => 20

def totalLimit : ℕ := 180

def window : ℚ := 60

/-- A row of `scopes`. -/
structure Scope where
  scope : String
  epoch : String
  lastMono : ℚ
  cooldown : ℚ
  blocked : ℚ
  observedLimit : ℕ
  limitUntil : ℚ
deriving DecidableEq, Repr

/-- A row of `charges`. -/
structure Charge where
  id : ℕ
  scope : String
  epoch : String
  role : Role
  purpose : String
  at_ : ℚ
  consumed : Bool
deriving DecidableEq, Repr

/-- A row of `issuers`. -/
structure Issuer where
  scope : String
  epoch : String
  issuer : String
  lastMono : ℚ
deriving DecidableEq, Repr

inductive Refused
  | hostEpochCooldown | providerRetryDeadline | sharedRequestBudget | ownedProtectionRequestReserve
  | roleRequestBudget
deriving DecidableEq, Repr

/-- A row of `refusals`. -/
structure Refusal where
  scope : String
  epoch : String
  role : Role
  purpose : String
  at_ : ℚ
  reason : Refused
deriving DecidableEq, Repr

abbrev Charges := Table Charge (·.id)

def Issuer.key (i : Issuer) : String × String × String := (i.scope, i.epoch, i.issuer)

/-- mirrors account_control.py:91-112 -/
structure ControlStore where
  scopes : Table Scope (·.scope) := Table.empty
  charges : Charges := Table.empty
  issuers : Table Issuer Issuer.key := Table.empty
  refusals : List Refusal := []

inductive ControlError
  | monotonicTimeRequired | roleAndPurposeRequired
deriving DecidableEq, Repr

/-- mirrors account_control.py:277-303 -/
structure Budget where
  scope : String
  epoch : String
  initialEpoch : String
  issuer : String
deriving DecidableEq, Repr

variable (B : Budget)

/-! ## The state of a scope -/

/-- Whether the scope's row starts over: another host epoch, or a clock that went back.
mirrors account_control.py:329-336 -/
def startsOver (row : Scope) (issuer : Option Issuer) (now : ℚ) : Bool :=
  row.epoch ≠ B.epoch ||
    match issuer with
    | some issuer => now < issuer.lastMono
    | none => now < row.lastMono - 5

/-- mirrors account_control.py:320-359 -/
def nextScope (row : Option Scope) (issuer : Option Issuer) (now : ℚ) : Scope :=
  match row with
  | none =>
    let initial := if B.initialEpoch ≠ B.epoch then now + window else now
    ⟨B.scope, B.epoch, now, initial, initial, totalLimit, now⟩
  | some row =>
    if startsOver B row issuer now then
      ⟨B.scope, B.epoch, now, now + window, now + window, totalLimit, now + window⟩
    else { row with lastMono := max now row.lastMono }

/-- mirrors account_control.py:318-366 -/
def state (now : ℚ) : Txn ControlStore ControlError Scope := do
  require (0 ≤ now) .monotonicTimeRequired
  let s ← get
  let row := nextScope B (s.scopes.get? B.scope) (s.issuers.get? (B.scope, B.epoch, B.issuer)) now
  set { s with
    scopes := s.scopes.upsert row
    issuers := s.issuers.upsert ⟨B.scope, B.epoch, B.issuer, now⟩ }
  pure row

/-! ## Counting the window -/

/-- A charge of this budget's scope and host epoch. -/
def own (c : Charge) : Bool := c.scope = B.scope && c.epoch = B.epoch

/-- `purpose.startswith(("OWNED_EXIT", "CLOCK"))`. -/
def protective (purpose : String) : Bool :=
  "OWNED_EXIT".toList.isPrefixOf purpose.toList || "CLOCK".toList.isPrefixOf purpose.toList

/-- `text LIKE 'pattern%'`: `_` stands for any character, ASCII letters match in either case. -/
def likePrefix : List Char → List Char → Bool
  | [], _ => true
  | _ :: _, [] => false
  | p :: pattern, c :: text => (p = '_' || p.toLower = c.toLower) && likePrefix pattern text

/-- `purpose LIKE 'OWNED_EXIT%' OR purpose LIKE 'CLOCK%'`. -/
def likeProtective (purpose : String) : Bool :=
  likePrefix "OWNED_EXIT".toList purpose.toList || likePrefix "CLOCK".toList purpose.toList

def guardianCounted (c : Charge) : Bool := own B c && c.role = .guardian && !likeProtective c.purpose

/-- `limit` of a charge's rolling window.
mirrors account_control.py:408,464 -/
def Scope.ceiling (row : Scope) (now : ℚ) : ℕ :=
  min totalLimit (if now < row.limitUntil then row.observedLimit else totalLimit)

/-- mirrors account_control.py:408-437 -/
def refusalReason (row : Scope) (others : Charges) (role : Role) (purpose : String) (now : ℚ) :
    Option Refused :=
  let used (p : Charge → Bool) : ℕ := stampedAfter Charge.at_ p others (now - window)
  if now < row.cooldown then some .hostEpochCooldown
  else if now < row.blocked then some .providerRetryDeadline
  else if row.ceiling now ≤ used (own B) then some .sharedRequestBudget
  else if role = .guardian ∧ protective purpose = false ∧ 36 ≤ used (guardianCounted B) then
    some .ownedProtectionRequestReserve
  else if role.limit ≤ used (fun c => own B c && c.role = role) then some .roleRequestBudget
  else none

/-! ## Requests -/

/-- `SELECT ... WHERE id=? AND scope=? AND epoch=? AND role=? AND consumed=0`. -/
def prepaid (charges : Charges) (identity : ℕ) (role : Role) : Option Charge :=
  (charges.get? identity).filter fun c => own B c && c.role = role && !c.consumed

/-- The next `INTEGER PRIMARY KEY`. -/
def nextId (charges : Charges) : ℕ := (charges.rows.map (·.id)).foldr max 0 + 1

/-- The purpose a request is judged by: a retry keeps that of its prepaid charge.
mirrors account_control.py:398-406 -/
def requestPurpose (charges : Charges) (role : Role) (purpose : String) (consumed : Bool) :
    Option ℕ → Option String
  | none => some purpose
  | some identity =>
    if consumed then none else (prepaid B charges identity role).map (·.purpose)

/-- The charges besides the one that is retried. -/
def besides (charges : Charges) : Option ℕ → Charges
  | none => charges
  | some identity => charges.erase identity

/-- The charges after an admitted request.
mirrors account_control.py:439-445 -/
def admitted (charges : Charges) (role : Role) (purpose : String) (now : ℚ) (consumed : Bool) :
    Option ℕ → ℕ × Charges
  | none =>
    (nextId charges, charges.upsert ⟨nextId charges, B.scope, B.epoch, role, purpose, now, consumed⟩)
  | some identity =>
    (identity, charges.upsert ⟨identity, B.scope, B.epoch, role, purpose, now, false⟩)

/-- mirrors account_control.py:385-445 -/
def reserve (role : Role) (purpose : String) (now : ℚ) (consumed : Bool) (reuse : Option ℕ) :
    Txn ControlStore ControlError (Option ℕ) := do
  require (purpose ≠ "") .roleAndPurposeRequired
  let row ← state B now
  let s ← get
  match requestPurpose B s.charges role purpose consumed reuse with
  | none => pure none
  | some purpose =>
    match refusalReason B row (besides s.charges reuse) role purpose now with
    | some reason =>
      let refusal : Refusal := ⟨B.scope, B.epoch, role, purpose, now, reason⟩
      set { s with refusals := s.refusals ++ [refusal] }
      pure none
    | none =>
      let (identity, charges) := admitted B s.charges role purpose now consumed reuse
      set { s with charges := charges }
      pure (some identity)

/-- mirrors account_control.py:379-383 -/
def acquire (role : Role) (purpose : String) (now : ℚ) : Txn ControlStore ControlError Bool := do
  let identity ← reserve B role purpose now true none
  pure identity.isSome

/-- mirrors account_control.py:447-472 -/
def consume (identity : ℕ) (role : Role) (now : ℚ) : Txn ControlStore ControlError Bool := do
  let row ← state B now
  let s ← get
  match prepaid B s.charges identity role with
  | none => pure false
  | some original =>
    let used (p : Charge → Bool) : ℕ :=
      stampedAfter Charge.at_ p (s.charges.erase identity) (now - window)
    if now < max row.cooldown row.blocked then pure false
    else if row.ceiling now ≤ used (own B) ∨ role.limit ≤ used (fun c => own B c && c.role = role)
    then pure false
    else
      set { s with charges := s.charges.upsert { original with at_ := now, consumed := true } }
      pure true

/-- `status`, whose answer only reports. -/
def status (now : ℚ) : Txn ControlStore ControlError Unit := do
  let _ ← state B now
  pure ()

/-! ## What the provider answered -/

/-- A Python float. -/
inductive Number
  | finite (value : ℚ)
  | infinite (negative : Bool)
  | nan
deriving DecidableEq

/-- `a < b`. -/
def Number.lt : Number → Number → Bool
  | .nan, _ | _, .nan => false
  | .finite a, .finite b => a < b
  | .infinite a, .infinite b => a && !b
  | .infinite a, .finite _ => a
  | .finite _, .infinite b => !b

/-- `max(a, b)`: the first unless the second is greater. -/
def Number.max (a b : Number) : Number := if a.lt b then b else a

/-- `a - b`. -/
def Number.sub (a : Number) (b : ℚ) : Number :=
  match a with
  | .finite a => .finite (a - b)
  | other => other

/-- What Python reads in a text; none where it raises. A date is in seconds from the epoch. -/
structure HeaderReading where
  int : String → Option Int
  float : String → Option Number
  date : String → Option ℚ

structure Response where
  statusCode : ℕ
  headers : List (String × String)
  nowUtc : ℚ

/-- `h.get(name)`: names in lower case, the last of a name. -/
def Response.header (r : Response) (name : String) : Option String :=
  (r.headers.reverse.find? fun h => h.1.toLower = name).map (·.2)

variable (H : HeaderReading) (r : Response)

/-- `retry-after`, in seconds or as a date, and `x-ratelimit-reset`.
mirrors account_control.py:513-526 -/
def requestedDelay : Option ℚ := do
  let delay ← match r.header "retry-after" with
    | none => some (.finite window)
    | some text =>
      match H.float text with
      | some delay => some delay
      | none => (H.date text).map fun date => .finite (date - r.nowUtc)
  let delay ← match r.header "x-ratelimit-reset" with
    | none => some delay
    | some text => (H.float text).map fun reset => delay.max (reset.sub r.nowUtc)
  match delay with
  | .finite delay => some (max 0 delay)
  | _ => none

/-- `int(h.get("x-ratelimit-limit", str(TOTAL_LIMIT)))` -/
def rawLimit : Option Int :=
  match r.header "x-ratelimit-limit" with
  | none => some totalLimit
  | some text => H.int text

/-- How long the answer blocks the scope, where it does: after a 429 or an exhausted remainder.
mirrors account_control.py:507-530 -/
def retryDelay : Option ℚ :=
  let asked : Option ℚ := (rawLimit H r).bind fun _ =>
    if r.statusCode = 429 ∨ r.header "x-ratelimit-remaining" = some "0" then requestedDelay H r
    else none
  if asked = none ∧ r.statusCode = 429 then some window else asked

/-- The observed limit and how long it holds.
mirrors account_control.py:508-511 -/
def observedLimit (row : Scope) (now : ℚ) : ℕ × ℚ :=
  match rawLimit H r with
  | none => (row.observedLimit, row.limitUntil)
  | some raw =>
    if 0 < raw ∧ raw < totalLimit then
      (if now < row.limitUntil then min row.observedLimit raw.toNat else raw.toNat,
        max row.limitUntil (now + window))
    else (row.observedLimit, row.limitUntil)

/-- mirrors account_control.py:493-534 -/
def observe (now : ℚ) : Txn ControlStore ControlError Unit := do
  let row ← state B now
  let s ← get
  let limit := observedLimit H r row now
  set { s with scopes := s.scopes.upsert { row with
    observedLimit := limit.1
    limitUntil := limit.2
    blocked := ((retryDelay H r).map fun delay => max row.blocked (now + delay)).getD row.blocked } }

/-! ## What a call does -/

/-- The scope's row, brought up to the caller's clock. -/
def ControlStore.row (s : ControlStore) (now : ℚ) : Scope :=
  nextScope B (s.scopes.get? B.scope) (s.issuers.get? (B.scope, B.epoch, B.issuer)) now

/-- The store with that row, and the caller's reading noted. -/
def ControlStore.sampled (s : ControlStore) (now : ℚ) : ControlStore :=
  { s with
    scopes := s.scopes.upsert (s.row B now)
    issuers := s.issuers.upsert ⟨B.scope, B.epoch, B.issuer, now⟩ }

variable {B H r} {s s' : ControlStore} {now : ℚ} {role : Role}

@[simp] theorem nextScope_scope (row : Option Scope) (issuer : Option Issuer) (now : ℚ)
    (hrow : ∀ old ∈ row, old.scope = B.scope) : (nextScope B row issuer now).scope = B.scope := by
  cases row with
  | none => rfl
  | some old =>
    show (if startsOver B old issuer now then _ else _ : Scope).scope = _; split
    · rfl
    · exact hrow old rfl

theorem row_scope (s : ControlStore) (now : ℚ) : (s.row B now).scope = B.scope :=
  nextScope_scope _ _ _ fun _ h => (Table.get?_some h).2

@[simp] theorem sampled_charges : (s.sampled B now).charges = s.charges := rfl

theorem sampled_scope : (s.sampled B now).scopes.get? B.scope = some (s.row B now) := by
  show (s.scopes.upsert (s.row B now)).get? B.scope = _
  rw [Table.get?_upsert, if_pos (row_scope s now)]

theorem sampled_scope_other {scope : String} (h : scope ≠ B.scope) :
    (s.sampled B now).scopes.get? scope = s.scopes.get? scope := by
  show (s.scopes.upsert (s.row B now)).get? scope = _
  rw [Table.get?_upsert, if_neg (by rw [row_scope]; exact h.symm)]

theorem state_ok {row : Scope} :
    state B now s = .ok row s' ↔ 0 ≤ now ∧ row = s.row B now ∧ s' = s.sampled B now := by
  simp only [state, bind_ok, require_ok, get_ok, set_ok, pure_ok]; constructor
  · rintro ⟨_, _, ⟨h0, rfl⟩, _, _, ⟨rfl, rfl⟩, _, _, rfl, rfl, rfl⟩
    exact ⟨h0, rfl, rfl⟩
  · rintro ⟨h0, rfl, rfl⟩
    exact ⟨⟨⟩, _, ⟨h0, rfl⟩, _, _, ⟨rfl, rfl⟩, ⟨⟩, _, rfl, rfl, rfl⟩

/-- A refused request changes the scope's row and the refusals, an admitted one the charges. -/
theorem reserve_ok {purpose : String} {consumed : Bool} {reuse : Option ℕ} {answer : Option ℕ}
    (h : reserve B role purpose now consumed reuse s = .ok answer s') :
    (answer = none ∧ ∃ refusals, s' = { s.sampled B now with refusals := refusals }) ∨
    ∃ judged, requestPurpose B s.charges role purpose consumed reuse = some judged ∧
      refusalReason B (s.row B now) (besides s.charges reuse) role judged now = none ∧
      answer = some (admitted B s.charges role judged now consumed reuse).1 ∧
      s' = { s.sampled B now with
        charges := (admitted B s.charges role judged now consumed reuse).2 } := by
  obtain ⟨_, s₀, hpurpose, h⟩ := bind_ok.1 h
  rw [(require_ok.1 hpurpose).2] at h
  obtain ⟨row, s₁, hstate, h⟩ := bind_ok.1 h
  obtain ⟨_, rfl, rfl⟩ := state_ok.1 hstate
  obtain ⟨_, _, hget, h⟩ := bind_ok.1 h
  obtain ⟨rfl, rfl⟩ := get_ok.1 hget
  rw [sampled_charges] at h
  cases hjudged : requestPurpose B s.charges role purpose consumed reuse with
  | none =>
    simp only [hjudged, pure_ok] at h
    obtain ⟨rfl, rfl⟩ := h
    exact .inl ⟨rfl, _, rfl⟩
  | some judged =>
    simp only [hjudged] at h
    cases hreason : refusalReason B (s.row B now) (besides s.charges reuse) role judged now with
    | some reason =>
      simp only [hreason, bind_ok, set_ok, pure_ok] at h
      obtain ⟨_, _, rfl, rfl, rfl⟩ := h
      exact .inl ⟨rfl, _, rfl⟩
    | none =>
      simp only [hreason, bind_ok, set_ok, pure_ok] at h
      obtain ⟨_, _, rfl, rfl, rfl⟩ := h
      exact .inr ⟨judged, rfl, hreason, rfl, rfl⟩

/-- A consumption moves its prepaid charge to the caller's time, or changes no charge. -/
theorem consume_ok {identity : ℕ} {answer : Bool}
    (h : consume B identity role now s = .ok answer s') :
    (answer = false ∧ s' = s.sampled B now) ∨
    ∃ original, prepaid B s.charges identity role = some original ∧ answer = true ∧
      max (s.row B now).cooldown (s.row B now).blocked ≤ now ∧
      stampedAfter Charge.at_ (own B) (s.charges.erase identity) (now - window) <
        (s.row B now).ceiling now ∧
      stampedAfter Charge.at_ (fun c => own B c && c.role = role) (s.charges.erase identity)
        (now - window) < role.limit ∧
      s' = { s.sampled B now with
        charges := s.charges.upsert { original with at_ := now, consumed := true } } := by
  obtain ⟨row, s₁, hstate, h⟩ := bind_ok.1 h
  obtain ⟨_, rfl, rfl⟩ := state_ok.1 hstate
  obtain ⟨_, _, hget, h⟩ := bind_ok.1 h; obtain ⟨rfl, rfl⟩ := get_ok.1 hget
  rw [sampled_charges] at h
  cases hprepaid : prepaid B s.charges identity role with
  | none =>
    simp only [hprepaid, pure_ok] at h; obtain ⟨rfl, rfl⟩ := h
    exact .inl ⟨rfl, rfl⟩
  | some original =>
    simp only [hprepaid] at h; split at h
    · obtain ⟨rfl, rfl⟩ := pure_ok.1 h; exact .inl ⟨rfl, rfl⟩
    next hdeadline =>
    split at h
    · obtain ⟨rfl, rfl⟩ := pure_ok.1 h; exact .inl ⟨rfl, rfl⟩
    · next hroom =>
      obtain ⟨_, _, rfl, rfl, rfl⟩ := h
      rw [not_or, Nat.not_le, Nat.not_le] at hroom
      exact .inr ⟨original, rfl, rfl, not_lt.1 hdeadline, hroom.1, hroom.2, rfl⟩

theorem status_ok {u : Unit} (h : status B now s = .ok u s') : s' = s.sampled B now := by
  obtain ⟨_, _, hstate, h⟩ := bind_ok.1 h; obtain ⟨_, rfl⟩ := pure_ok.1 h
  exact (state_ok.1 hstate).2.2

/-- The scope's row after an answer. -/
def ControlStore.answered (s : ControlStore) (B : Budget) (H : HeaderReading) (r : Response)
    (now : ℚ) : Scope :=
  { s.row B now with
    observedLimit := (observedLimit H r (s.row B now) now).1
    limitUntil := (observedLimit H r (s.row B now) now).2
    blocked := ((retryDelay H r).map fun delay => max (s.row B now).blocked (now + delay)).getD
      (s.row B now).blocked }

theorem observe_ok {u : Unit} (h : observe B H r now s = .ok u s') :
    s' = { s.sampled B now with
      scopes := (s.sampled B now).scopes.upsert (s.answered B H r now) } := by
  obtain ⟨row, s₁, hstate, h⟩ := bind_ok.1 h
  obtain ⟨_, rfl, rfl⟩ := state_ok.1 hstate
  obtain ⟨_, _, hget, h⟩ := bind_ok.1 h; obtain ⟨rfl, rfl⟩ := get_ok.1 hget
  exact set_ok.1 h

/-! ## Calls -/

/-- A call of some process, with its clock's reading. -/
inductive Call
  | reserve (role : Role) (purpose : String) (consumed : Bool) (reuse : Option ℕ)
  | acquire (role : Role) (purpose : String)
  | consume (identity : ℕ) (role : Role)
  | status
  | observe (response : Response)

/-- Whether a request was admitted, and which prepaid charge was consumed. -/
structure Answer where
  admits : Bool := false
  consumed : Option ℕ := none
deriving DecidableEq

/-- The transaction of a call. -/
def Call.perform (H : HeaderReading) (B : Budget) (now : ℚ) :
    Call → Txn ControlStore ControlError Answer
  | .reserve role purpose consumed reuse => do
    let identity ← RequestBudget.reserve B role purpose now consumed reuse
    pure { admits := identity.isSome }
  | .acquire role purpose => do
    let admitted ← RequestBudget.acquire B role purpose now
    pure { admits := admitted }
  | .consume identity role => do
    let admitted ← RequestBudget.consume B identity role now
    pure { admits := admitted, consumed := if admitted then some identity else none }
  | .status => do
    RequestBudget.status B now
    pure {}
  | .observe response => do
    RequestBudget.observe B H response now
    pure {}

end Quantbot.L4.RequestBudget
