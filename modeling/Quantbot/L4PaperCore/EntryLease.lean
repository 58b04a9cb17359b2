import Mathlib.Logic.Function.Basic
import Quantbot.Core.LTS
import Quantbot.Core.Table

/-!
# The account's entry lease

`bind_entry_account`, `AccountEntryLease` and `entry_lease_objections` of
`paper_core/account_control.py`. The control database holds one binding for an account; the file
lock of the account is held by a bind call from its first line to its last, and by a lease from
`acquire` to `release`.

A process stops between any two of: the lock, the transaction, the unlocking (`crash`). The
operating system gives a lock to one object at a time and takes it back from a dead process. An
object is a lease or a running bind call of some process (`owner`); its two steps under the lock
are separate. While a process is inside its own `acquire` it does not ask `is_current`
(`entering`).

* `entry_lease`: at most one lease is current, and the stored binding is the leased one; the
  generations of the accepted bindings are 1, 2, …; a repeated binding changes nothing.
-/
set_option linter.unusedSectionVars false
namespace Quantbot.L4.EntryLease

open Core

/-! ## The binding -/

/-- mirrors account_control.py:31-42 -/
@[ext] structure RequestControl where
  controlPath : String
  accountScope : String
  hostIdentity : String
  hostEpoch : String
  entryGeneration : ℕ
  generation_pos : 1 ≤ entryGeneration

instance : DecidableEq RequestControl := fun _ _ =>
  decidable_of_iff _ RequestControl.ext_iff.symm

/-- The control database and the account: what the lock file is named by. -/
abbrev Account := String × String

def RequestControl.account (c : RequestControl) : Account := (c.controlPath, c.accountScope)

/-- A document of kind ACCOUNT_ENTRY_BINDING_V1. -/
structure Document where
  accountScope : String
  hostIdentity : String
  generation : ℕ
  storeIdentity : String
  releaseId : String
  evidenceId : String
deriving DecidableEq

/-- A row of `entry_bindings` in its database. -/
structure EntryBinding where
  account : Account
  generation : ℕ
  storeIdentity : String
  releaseId : String
  payload : Document
deriving DecidableEq

abbrev EntryBindings := Table EntryBinding (·.account)

inductive BindingError | staleGeneration | mismatch
deriving DecidableEq, Repr

/-- The arguments of `bind_entry_account`. -/
structure BindCall where
  control : RequestControl
  storeIdentity : String
  releaseId : String
  expectedGeneration : Int
  evidenceId : String

variable (c : BindCall)

def BindCall.document : Document :=
  ⟨c.control.accountScope, c.control.hostIdentity, c.control.entryGeneration, c.storeIdentity,
    c.releaseId, c.evidenceId⟩

def BindCall.row : EntryBinding :=
  ⟨c.control.account, c.control.entryGeneration, c.storeIdentity, c.releaseId, c.document⟩

theorem BindCall.row_account : c.row.account = c.control.account := rfl

/-- `json.loads(prior["payload"]) == document`. -/
def BindCall.stored (bindings : EntryBindings) : Bool :=
  (bindings.get? c.control.account).any fun prior => prior.payload = c.document

/-- The transaction of a bind call; it returns the document's content id.
mirrors account_control.py:147-170 -/
def bindEntryAccount (bindings : EntryBindings) : Except BindingError EntryBindings :=
  if c.stored bindings then .ok bindings
  else
    let generation : ℕ := ((bindings.get? c.control.account).map (·.generation)).getD 0
    if (generation : Int) ≠ c.expectedGeneration ∨ c.control.entryGeneration ≠ generation + 1 then
      .error .staleGeneration
    else .ok (bindings.upsert c.row)

/-! ## The lease -/

/-- mirrors account_control.py:173-178 -/
structure Lease where
  control : RequestControl
  storeIdentity : String
  releaseId : String
  /-- `lock.is_acquired`. -/
  acquired : Bool := false
  entering : Bool := false
  /-- `document`, and with it `binding_id`. -/
  document : Option Document := none
deriving DecidableEq

/-- mirrors account_control.py:202-205 -/
def Lease.isCurrent (l : Lease) : Bool := l.acquired && l.document.isSome

/-- The transaction of `acquire`.
mirrors account_control.py:186-197 -/
def Lease.verify (l : Lease) (bindings : EntryBindings) : Except BindingError Document :=
  match bindings.get? l.control.account with
  | none => .error .mismatch
  | some row =>
    if (row.generation, row.storeIdentity, row.releaseId) ≠
        (l.control.entryGeneration, l.storeIdentity, l.releaseId) then .error .mismatch
    else .ok row.payload

/-- What `entry_lease_objections` reads of a store. -/
structure RuntimeStore where
  accountControl : Option RequestControl
  parallelEntries : Bool
  accountLease : Option Lease
  releaseId : String
  storeIdentity : String

/-- mirrors account_control.py:211-226 -/
def entryLeaseObjections (store : RuntimeStore) : List String :=
  match store.accountControl with
  | none => []
  | some control =>
    if store.parallelEntries = false then []
    else match store.accountLease with
      | none => ["CORE_ACCOUNT_ENTRY_LEASE_UNAVAILABLE"]
      | some lease =>
        if lease.isCurrent = false ∨ lease.releaseId ≠ store.releaseId ∨
            lease.storeIdentity ≠ store.storeIdentity ∨ lease.control ≠ control then
          ["CORE_ACCOUNT_ENTRY_LEASE_UNAVAILABLE"]
        else []

/-! ## Processes -/

/-- An object that takes the lock: a lease, or a bind call before or behind its transaction. -/
inductive Object
  | lease (l : Lease)
  | binding (c : BindCall) (committed : Bool)

def Object.account : Object → Account
  | .lease l => l.control.account
  | .binding c _ => c.control.account

def Object.holds : Object → Bool
  | .lease l => l.acquired
  | .binding _ _ => true

/-- The databases, the locks and the objects; the accepted bindings of an account, and the
documents and ids that bind calls returned. -/
structure System (ι : Type) where
  bindings : EntryBindings := Table.empty
  lock : Account → Option ι := fun _ => none
  objects : ι → Option Object := fun _ => none
  accepted : Account → List EntryBinding := fun _ => []
  returned : List (Document × String) := []

variable {ι ρ : Type} [DecidableEq ι] [DecidableEq ρ]

def System.put (s : System ι) (i : ι) (object : Option Object) : System ι :=
  { s with objects := Function.update s.objects i object }

def System.locking (s : System ι) (a : Account) (holder : Option ι) : System ι :=
  { s with lock := Function.update s.lock a holder }

/-- The store behind a committed bind call. -/
def System.binding (s : System ι) (c : BindCall) (bindings : EntryBindings) : System ι :=
  { s with
    bindings := bindings
    accepted := if c.stored s.bindings then s.accepted
      else Function.update s.accepted c.control.account (s.accepted c.control.account ++ [c.row]) }

/-- The process dies: its objects are gone, and the locks they held. -/
def System.crashed (s : System ι) (owner : ι → ρ) (p : ρ) : System ι :=
  { s with
    objects := fun i => if owner i = p then none else s.objects i
    lock := fun a => (s.lock a).filter fun i => owner i ≠ p }

/-- One step of one object, or the death of a process. -/
inductive Step (host : String) (contentId : Document → String) (owner : ι → ρ) (s : System ι) :
    System ι → Prop
  | construct (i : ι) (control : RequestControl) (storeIdentity releaseId : String)
    (hfree : s.objects i = none) (hhost : control.hostIdentity = host) :
    Step host contentId owner s (s.put i (some (.lease { control, storeIdentity, releaseId })))
  | enter {i : ι} {l : Lease} (hlease : s.objects i = some (.lease l))
    (hfree : s.lock l.control.account = none) :
    Step host contentId owner s ((s.locking l.control.account (some i)).put i
      (some (.lease { l with acquired := true, entering := true })))
  | verified {i : ι} {l : Lease} {document : Document} (hlease : s.objects i = some (.lease l))
    (hentering : l.entering = true) (hverify : l.verify s.bindings = .ok document) :
    Step host contentId owner s (s.put i
      (some (.lease { l with entering := false, document := some document })))
  | refused {i : ι} {l : Lease} {e : BindingError} (hlease : s.objects i = some (.lease l))
    (hentering : l.entering = true) (hverify : l.verify s.bindings = .error e) :
    Step host contentId owner s ((s.locking l.control.account none).put i
      (some (.lease { l with acquired := false, entering := false })))
  | release {i : ι} {l : Lease} (hlease : s.objects i = some (.lease l))
    (hacquired : l.acquired = true) (hentering : l.entering = false) :
    Step host contentId owner s ((s.locking l.control.account none).put i
      (some (.lease { l with acquired := false })))
  | bind {i : ι} {c : BindCall} (hfree : s.objects i = none)
    (hhost : c.control.hostIdentity = host) (hlock : s.lock c.control.account = none) :
    Step host contentId owner s ((s.locking c.control.account (some i)).put i
      (some (.binding c false)))
  | commit {i : ι} {c : BindCall} {bindings : EntryBindings}
    (hcall : s.objects i = some (.binding c false))
    (hbind : bindEntryAccount c s.bindings = .ok bindings) :
    Step host contentId owner s ((s.binding c bindings).put i (some (.binding c true)))
  | stale {i : ι} {c : BindCall} {e : BindingError} (hcall : s.objects i = some (.binding c false))
    (hbind : bindEntryAccount c s.bindings = .error e) :
    Step host contentId owner s ((s.locking c.control.account none).put i none)
  | finish {i : ι} {c : BindCall} (hcall : s.objects i = some (.binding c true)) :
    Step host contentId owner s { (s.locking c.control.account none).put i none with
      returned := s.returned ++ [(c.document, contentId c.document)] }
  | crash {p : ρ} : Step host contentId owner s (s.crashed owner p)

def leasing (host : String) (contentId : Document → String) (owner : ι → ρ) :
    LTS (System ι) Unit where
  init s := s = {}
  step s _ s' := Step host contentId owner s s'

/-! ## What a bind call does -/

variable {c : BindCall}

/-- A bind call that returns found its document stored, or wrote the next generation. -/
theorem bindEntryAccount_ok {bindings bindings' : EntryBindings}
    (h : bindEntryAccount c bindings = .ok bindings') :
    (c.stored bindings = true ∧ bindings' = bindings) ∨
    (c.stored bindings = false ∧ bindings' = bindings.upsert c.row ∧ c.row.generation =
        ((bindings.get? c.control.account).map (·.generation)).getD 0 + 1) := by
  unfold bindEntryAccount at h; split at h
  · next hstored => exact .inl ⟨hstored, (Except.ok.inj h).symm⟩
  next hstored =>
  simp only at h; split at h
  · cases h
  next hnext =>
  rw [not_or, not_not, not_not] at hnext
  exact .inr ⟨Bool.not_eq_true _ ▸ hstored, (Except.ok.inj h).symm, hnext.2⟩

variable {bindings : EntryBindings}

theorem verify_ok {l : Lease} {document : Document} (h : l.verify bindings = .ok document) :
    ∃ row, bindings.get? l.control.account = some row ∧
      row.generation = l.control.entryGeneration ∧ row.storeIdentity = l.storeIdentity ∧
      row.releaseId = l.releaseId ∧ document = row.payload := by
  unfold Lease.verify at h
  cases hrow : bindings.get? l.control.account with
  | none =>
    rw [hrow] at h; cases h
  | some row =>
    simp only [hrow] at h; split at h
    · cases h
    next hmatch =>
    rw [not_not, Prod.mk.injEq, Prod.mk.injEq] at hmatch
    exact ⟨row, rfl, hmatch.1, hmatch.2.1, hmatch.2.2, (Except.ok.inj h).symm⟩

/-! ## The lock -/

variable {s s' : System ι} {i : ι} {a : Account} {o : Object} {object : Option Object}

/-- What holds the lock is the object the lock names. -/
def Exclusive (s : System ι) : Prop :=
  ∀ i o, s.objects i = some o → o.holds = true → s.lock o.account = some i

theorem Exclusive.put (h : Exclusive s)
    (ho : ∀ o ∈ object, o.holds = true → s.lock o.account = some i) :
    Exclusive (s.put i object) := by
  intro j o' hj hholds
  change Function.update s.objects i object j = some o' at hj
  by_cases hji : j = i
  · subst hji; rw [Function.update_self] at hj; exact ho o' hj hholds
  · rw [Function.update_of_ne hji] at hj; exact h j o' hj hholds

theorem Exclusive.take (h : Exclusive s) (hfree : s.lock o.account = none) :
    Exclusive ((s.locking o.account (some i)).put i (some o)) := by
  intro j o' hj hholds
  change Function.update s.objects i (some o) j = some o' at hj
  show Function.update s.lock o.account (some i) o'.account = some j
  by_cases hji : j = i
  · subst hji; rw [Function.update_self] at hj
    rw [← Option.some.inj hj, Function.update_self]
  rw [Function.update_of_ne hji] at hj; have hlock := h j o' hj hholds
  have hne : o'.account ≠ o.account := by
    intro he; rw [he, hfree] at hlock; cases hlock
  rw [Function.update_of_ne hne]; exact hlock

theorem Exclusive.drop (h : Exclusive s) (hheld : s.lock a = some i)
    (ho : ∀ o ∈ object, o.holds = false) : Exclusive ((s.locking a none).put i object) := by
  intro j o' hj hholds
  change Function.update s.objects i object j = some o' at hj
  show Function.update s.lock a none o'.account = some j; by_cases hji : j = i
  · subst hji; rw [Function.update_self] at hj; rw [ho o' hj] at hholds
    cases hholds
  rw [Function.update_of_ne hji] at hj; have hlock := h j o' hj hholds
  have hne : o'.account ≠ a := by
    intro he; rw [he, hheld] at hlock; exact hji (Option.some.inj hlock).symm
  rw [Function.update_of_ne hne]; exact hlock

theorem Exclusive.crashed (h : Exclusive s) (owner : ι → ρ) (p : ρ) :
    Exclusive (s.crashed owner p) := by
  intro j o' hj hholds
  change (if owner j = p then none else s.objects j) = some o' at hj
  split at hj
  · cases hj
  next halive =>
  show (s.lock o'.account).filter _ = some j
  rw [h j o' hj hholds, Option.filter_some, if_pos (by simpa using halive)]

/-! ## The binding under a lease -/

/-- The stored binding is the one the lease was taken for. -/
def Bound (bindings : EntryBindings) (l : Lease) : Prop :=
  ∃ row, bindings.get? l.control.account = some row ∧
    row.generation = l.control.entryGeneration ∧ row.storeIdentity = l.storeIdentity ∧
    row.releaseId = l.releaseId ∧ l.document = some row.payload

/-- A lease outside its own `acquire` has the lock only with the stored binding. -/
def Leased (s : System ι) : Prop :=
  ∀ i l, s.objects i = some (.lease l) → (l.entering = true → l.acquired = true) ∧
    (l.acquired = true → l.entering = false → Bound s.bindings l)

theorem Leased.put (h : Leased s) (ho : ∀ l, object = some (.lease l) →
      (l.entering = true → l.acquired = true) ∧
      (l.acquired = true → l.entering = false → Bound s.bindings l)) : Leased (s.put i object) := by
  intro j l hj
  change Function.update s.objects i object j = some (.lease l) at hj
  by_cases hji : j = i
  · subst hji; rw [Function.update_self] at hj; exact ho l hj
  · rw [Function.update_of_ne hji] at hj; exact h j l hj

theorem Leased.locking (h : Leased s) (holder : Option ι) : Leased (s.locking a holder) := h

theorem Leased.binding {committed : Bool}
    (h : Leased s) (he : Exclusive s) (hcall : s.objects i = some (.binding c committed))
    (hbind : bindEntryAccount c s.bindings = .ok bindings) : Leased (s.binding c bindings) := by
  intro j l hj; obtain ⟨hentering, hbound⟩ := h j l hj
  refine ⟨hentering, fun hacquired hout => ?_⟩
  have hlock := he j _ hj hacquired; have hown := he i _ hcall rfl
  have hne : c.control.account ≠ l.control.account := by
    intro hsame
    have hij : some i = some j := by
      rw [← hown, ← hlock]; exact congrArg s.lock hsame
    cases hij; change s.objects i = _ at hj; rw [hcall] at hj; cases hj
  obtain ⟨row, hrow, hmatch⟩ := hbound hacquired hout; refine ⟨row, ?_, hmatch⟩
  show bindings.get? l.control.account = some row
  rcases bindEntryAccount_ok hbind with ⟨_, rfl⟩ | ⟨_, rfl, _⟩
  · exact hrow
  · rw [Table.get?_upsert, if_neg (show c.row.account ≠ _ from hne)]; exact hrow

theorem Leased.crashed (h : Leased s) (owner : ι → ρ) (p : ρ) : Leased (s.crashed owner p) := by
  intro j l hj
  change (if owner j = p then none else s.objects j) = some (.lease l) at hj
  split at hj
  · cases hj
  · exact h j l hj

/-! ## Generations -/

/-- The accepted bindings of an account are its generations in turn, the last one is stored. -/
def Generations (s : System ι) : Prop :=
  ∀ a, s.bindings.get? a = (s.accepted a).getLast? ∧
    (s.accepted a).map (·.generation) = List.range' 1 (s.accepted a).length

theorem Generations.next (h : Generations s) (a : Account) :
    ((s.bindings.get? a).map (·.generation)).getD 0 = (s.accepted a).length := by
  obtain ⟨hlast, hmap⟩ := h a; rw [hlast]
  rcases List.eq_nil_or_concat (s.accepted a) with hnil | ⟨pre, last, hpre⟩
  · simp [hnil]
  rw [hpre] at hmap ⊢
  rw [List.concat_eq_append, List.map_append, List.length_append, List.length_singleton,
    List.range'_concat, List.map_singleton] at hmap
  have hend := (List.append_inj' hmap rfl).2
  simp only [List.cons.injEq, and_true] at hend
  simp only [List.concat_eq_append, List.getLast?_append, List.getLast?_singleton,
    Option.some_or, Option.map_some, Option.getD_some, List.length_append,
    List.length_singleton]
  omega

theorem Generations.binding (h : Generations s)
    (hbind : bindEntryAccount c s.bindings = .ok bindings) :
    Generations (s.binding c bindings) := by
  rcases bindEntryAccount_ok hbind with ⟨hstored, rfl⟩ | ⟨hstored, rfl, hnext⟩
  · have hsame : s.binding c s.bindings = s := by simp [System.binding, hstored]
    rw [hsame]; exact h
  have haccepted : (s.binding c (s.bindings.upsert c.row)).accepted = Function.update s.accepted
      c.control.account (s.accepted c.control.account ++ [c.row]) := by
    simp [System.binding, hstored]
  intro a; show (s.bindings.upsert c.row).get? a = _ ∧ _
  rw [haccepted, Table.get?_upsert]; by_cases ha : a = c.control.account
  · subst ha; rw [if_pos c.row_account, Function.update_self]
    rw [h.next] at hnext; refine ⟨by simp, ?_⟩
    rw [List.map_append, (h _).2, List.length_append, List.length_singleton, List.range'_concat,
      List.map_singleton, hnext, Nat.one_mul, Nat.add_comm]
  · rw [if_neg (show c.row.account ≠ a from fun he => ha he.symm), Function.update_of_ne ha]
    exact h a

/-! ## Every run -/

/-- The invariant of a run. -/
structure Sound (contentId : Document → String) (s : System ι) : Prop where
  exclusive : Exclusive s
  leased : Leased s
  generations : Generations s
  returned : ∀ x ∈ s.returned, x.2 = contentId x.1

variable {host : String} {contentId : Document → String} {owner : ι → ρ}

theorem Sound.step (h : Sound contentId s) (hstep : Step host contentId owner s s') :
    Sound contentId s' := by
  obtain ⟨hexclusive, hleased, hgenerations, hreturned⟩ := h
  cases hstep with
  | construct i control storeIdentity releaseId hfree hhost =>
    refine ⟨hexclusive.put ?_, hleased.put ?_, hgenerations, hreturned⟩
    · intro o ho hholds; cases ho; cases hholds
    · intro l hl; obtain rfl := Object.lease.inj (Option.some.inj hl)
      exact ⟨fun h => h, fun h => by cases h⟩
  | @enter i l hlease hfree =>
    refine ⟨Exclusive.take (o := .lease { l with acquired := true, entering := true }) hexclusive
      hfree, (hleased.locking _).put ?_, hgenerations, hreturned⟩
    intro l' hl'; obtain rfl := Object.lease.inj (Option.some.inj hl')
    exact ⟨fun _ => rfl, nofun⟩
  | @verified i l document hlease hentering hverify =>
    have hacquired := (hleased i l hlease).1 hentering
    refine ⟨hexclusive.put ?_, hleased.put ?_, hgenerations, hreturned⟩
    · intro o ho hholds; cases ho
      exact hexclusive i (.lease l) hlease hacquired
    · intro l' hl'; obtain rfl := Object.lease.inj (Option.some.inj hl')
      obtain ⟨row, hrow, hg, hs, hr, rfl⟩ := verify_ok hverify
      exact ⟨nofun, fun _ _ => ⟨row, hrow, hg, hs, hr, rfl⟩⟩
  | @refused i l e hlease hentering hverify =>
    have hheld := hexclusive i _ hlease ((hleased i l hlease).1 hentering)
    refine ⟨hexclusive.drop hheld ?_, (hleased.locking _).put ?_, hgenerations, hreturned⟩
    · intro o ho; cases ho; rfl
    · intro l' hl'; obtain rfl := Object.lease.inj (Option.some.inj hl')
      exact ⟨nofun, fun h => by cases h⟩
  | @release i l hlease hacquired hentering =>
    have hheld := hexclusive i _ hlease hacquired
    refine ⟨hexclusive.drop hheld ?_, (hleased.locking _).put ?_, hgenerations, hreturned⟩
    · intro o ho; cases ho; rfl
    · intro l' hl'; obtain rfl := Object.lease.inj (Option.some.inj hl')
      exact ⟨fun h => (by rw [hentering] at h; cases h), fun h => by cases h⟩
  | @bind i c hfree hhost hlock =>
    refine ⟨Exclusive.take (o := .binding c false) hexclusive hlock,
      (hleased.locking _).put ?_, hgenerations, hreturned⟩
    intro l hl; cases hl
  | @commit i c bindings hcall hbind =>
    have hown := hexclusive i _ hcall rfl
    refine ⟨Exclusive.put (s := s.binding c bindings) hexclusive ?_,
      (hleased.binding hexclusive hcall hbind).put ?_, hgenerations.binding hbind, hreturned⟩
    · intro o ho _; cases ho; exact hown
    · intro l hl; cases hl
  | @stale i c e hcall hbind =>
    have hheld := hexclusive i _ hcall rfl
    refine ⟨hexclusive.drop hheld ?_, (hleased.locking _).put ?_, hgenerations, hreturned⟩
    · intro o ho; cases ho
    · intro l hl; cases hl
  | @finish i c hcall =>
    have hheld := hexclusive i _ hcall rfl
    refine ⟨show Exclusive ((s.locking c.control.account none).put i none) from
        hexclusive.drop hheld ?_,
      show Leased ((s.locking c.control.account none).put i none) from (hleased.locking _).put ?_,
      hgenerations, ?_⟩
    · intro o ho; cases ho
    · intro l hl; cases hl
    · intro x hx; rcases List.mem_append.1 hx with hx | hx
      · exact hreturned x hx
      · rw [List.mem_singleton.1 hx]
  | @crash p => exact ⟨hexclusive.crashed owner p, hleased.crashed owner p, hgenerations, hreturned⟩

theorem sound_inductive : (leasing host contentId owner).Inductive (Sound contentId) where
  init s h := by
    obtain rfl := h
    exact ⟨fun _ _ h => (by cases h), fun _ _ h => (by cases h), fun _ => ⟨rfl, rfl⟩,
      nofun⟩
  step _ _ _ h hst := h.step hst

/-- **The entry lease.** In every state that bindings, leases and deaths reach: two current leases
of an account are one; the stored binding is the one a current lease was taken for; the
generations accepted for an account are 1, 2, … and the last is stored; and a bind call whose
document is stored changes nothing and returns the id it returned before. -/
theorem entry_lease (host : String) (contentId : Document → String) (owner : ι → ρ) {s : System ι}
    (h : (leasing host contentId owner).Reachable s) :
    (∀ i j l m, s.objects i = some (.lease l) → s.objects j = some (.lease m) →
      l.control.account = m.control.account → l.isCurrent = true → m.isCurrent = true → i = j) ∧
    (∀ i l, s.objects i = some (.lease l) → l.isCurrent = true → l.entering = false →
      Bound s.bindings l) ∧
    (∀ a, (s.accepted a).map (·.generation) = List.range' 1 (s.accepted a).length ∧
      s.bindings.get? a = (s.accepted a).getLast?) ∧
    (∀ c, c.stored s.bindings = true → bindEntryAccount c s.bindings = .ok s.bindings) ∧
    ∀ document id id', (document, id) ∈ s.returned → (document, id') ∈ s.returned → id = id' := by
  have hs := sound_inductive.reachable h
  refine ⟨?_, ?_, fun a => ⟨(hs.generations a).2, (hs.generations a).1⟩, ?_, ?_⟩
  · intro i j l m hi hj hsame hl hm
    have hil := hs.exclusive i _ hi ((Bool.and_eq_true _ _).mp hl).1
    have hjm := hs.exclusive j _ hj ((Bool.and_eq_true _ _).mp hm).1
    change s.lock l.control.account = some i at hil; rw [hsame] at hil
    exact Option.some.inj (hil.symm.trans hjm)
  · intro i l hi hl hentering
    exact (hs.leased i l hi).2 ((Bool.and_eq_true _ _).mp hl).1 hentering
  · intro c hstored; unfold bindEntryAccount; rw [if_pos hstored]
  · intro document id id' hid hid'
    exact (hs.returned _ hid).trans (hs.returned _ hid').symm

def firstControl : RequestControl := ⟨"control", "account", "host", "epoch", 1, Nat.one_pos⟩

def firstBind : BindCall := ⟨firstControl, "store", "release", 0, "proof"⟩

def firstLease : Lease := { control := firstControl, storeIdentity := "store", releaseId := "release" }

/-- The account is bound, and a second object takes the lease. -/
theorem entry_lease_taken : ∃ s : System Bool,
    (leasing "host" (fun d => d.evidenceId) fun i => i).Reachable s ∧
    s.objects true = some (.lease { firstLease with
      acquired := true, document := some firstBind.document }) ∧
    Bound s.bindings { firstLease with acquired := true, document := some firstBind.document } := by
  have h₀ : (leasing "host" (fun d => d.evidenceId) fun i : Bool => i).Reachable {} :=
    ⟨{}, [], rfl, .nil _⟩
  have h₁ := h₀.step (l := ()) (.bind (i := false) (c := firstBind) rfl rfl rfl)
  have h₂ := h₁.step (l := ()) (.commit (i := false) (c := firstBind) rfl (by rfl))
  have h₃ := h₂.step (l := ()) (.finish (i := false) (c := firstBind) rfl)
  have h₄ := h₃.step (l := ()) (.construct true firstControl "store" "release" rfl rfl)
  have h₅ := h₄.step (l := ()) (.enter (i := true) (l := firstLease) rfl rfl)
  have h₆ := h₅.step (l := ()) (.verified (i := true) rfl rfl (by rfl))
  obtain ⟨_, hbound, _⟩ := entry_lease _ _ _ h₆
  exact ⟨_, h₆, rfl, hbound true _ rfl rfl rfl⟩

end Quantbot.L4.EntryLease
