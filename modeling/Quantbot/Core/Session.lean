import Quantbot.Core.Txn

/-!
# Sessions over a durable store

A session works on a copy of a store. What it writes becomes durable at a commit, and a
transaction that raises goes back to the last commit, not to where it began.

* `Pending.bind`: a program of steps that do not commit leaves the durable store alone.
* `transaction_error`: a transaction that raises before any commit leaves the session as it was.
-/
namespace Quantbot.Core

universe u

/-- The committed store and the copy the session works on. -/
structure Session (σ : Type u) where
  durable : σ
  working : σ

namespace Session

open Txn

variable {σ ε α β : Type u}

/-- A session that has written nothing. -/
def fresh (s : σ) : Session σ := ⟨s, s⟩

/-- A program on the session's copy. -/
def inWorking {ε' : Type u} (raise : ε → ε') (x : Txn σ ε α) : Txn (Session σ) ε' α :=
  zoom (·.working) (fun t s => { t with working := s }) raise x

def commit : Txn (Session σ) ε PUnit := modify fun t => fresh t.working

/-- What a reader of the session's copy answers, or raises. -/
def consult (f : σ → Except ε α) : Txn (Session σ) ε α := fun t =>
  match f t.working with
  | .ok a => .ok a t
  | .error e => .error e t

variable {t t' : Session σ}

theorem consult_ok {f : σ → Except ε α} {a : α} :
    consult f t = .ok a t' ↔ f t.working = .ok a ∧ t' = t := by
  unfold consult; cases f t.working <;> simp [eq_comm]

/-- Commit on return, roll back to the last commit and re-raise on an error. -/
def transaction (x : Txn (Session σ) ε α) : Txn (Session σ) ε α := fun t =>
  match x t with
  | .ok a t' => .ok a (fresh t'.working)
  | .error e t' => .error e (fresh t'.durable)

/-- Whether `x` returns or raises, it commits nothing. -/
def Pending (x : Txn (Session σ) ε α) : Prop := ∀ t, (after x t).durable = t.durable

variable {x : Txn (Session σ) ε α}

theorem Pending.ok (h : Pending x) {a : α} (hx : x t = .ok a t') : t'.durable = t.durable := by
  rw [← h t, after_ok hx]

theorem Pending.error (h : Pending x) {e : ε} (hx : x t = .error e t') :
    t'.durable = t.durable := by
  have hafter := h t; unfold after at hafter; rw [hx] at hafter; exact hafter

theorem Pending.pure (a : α) : Pending (pure a : Txn (Session σ) ε α) := fun _ => rfl

theorem Pending.consult (f : σ → Except ε α) : Pending (consult f) := fun t => by
  unfold after Session.consult
  cases f t.working <;> rfl

theorem Pending.inWorking {ε' : Type u} (raise : ε → ε') (x : Txn σ ε α) :
    Pending (inWorking raise x) := fun t => by
  unfold after Session.inWorking zoom
  cases x t.working <;> rfl

theorem Pending.bind {f : α → Txn (Session σ) ε β} (hx : Pending x) (hf : ∀ a, Pending (f a)) :
    Pending (x >>= f) := fun t => by
  cases h : (x >>= f) t with
  | ok b t' =>
    obtain ⟨a, t₁, hxt, hft⟩ := bind_ok.1 h
    rw [after_ok h, (hf a).ok hft, hx.ok hxt]
  | error e t' =>
    unfold after
    rw [h]
    rcases bind_error.1 h with hxt | ⟨a, t₁, hxt, hft⟩
    · exact hx.error hxt
    · exact ((hf a).error hft).trans (hx.ok hxt)

theorem Pending.forM {γ : Type u} {f : γ → Txn (Session σ) ε PUnit} (hf : ∀ c, Pending (f c))
    (l : List γ) : Pending (l.forM f) := by
  induction l with
  | nil => exact Pending.pure _
  | cons c l ih => exact (hf c).bind fun _ => ih

/-- **A rollback.** A transaction that raises before any commit leaves what was durable. -/
theorem transaction_error {e : ε} (hx : ∀ e t₁, x t = .error e t₁ → t₁.durable = t.durable)
    (h : transaction x t = .error e t') : t' = fresh t.durable := by
  unfold transaction at h
  cases hxt : x t with
  | ok a t₁ =>
    rw [hxt] at h; cases h
  | error e' t₁ =>
    rw [hxt] at h; cases h; rw [hx _ t₁ hxt]

end Session

end Quantbot.Core
