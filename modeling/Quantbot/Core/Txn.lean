import Mathlib.Data.List.Perm.Basic
import Mathlib.Order.Defs.Unbundled

/-!
# Transactions over a store

A transaction is a program over a store that returns a value or raises. Raising
keeps what was written so far: the writes are undone by `immediate`, the
`BEGIN IMMEDIATE .. ROLLBACK` around a whole transaction, and by nothing else.

`Moves R x` is the proof rule for writes: whenever `x` returns, the store it
started from and the store it leaves are related by the preorder `R`. It
composes along `bind`, branches and loops, so a whole transaction respects `R`
as soon as each table write does.
-/
namespace Quantbot.Core

universe u

/-- A program over the store `σ` that may raise `ε`. -/
abbrev Txn (σ ε α : Type u) := EStateM ε σ α

namespace Txn

variable {σ ε α β : Type u}

/-- `BEGIN IMMEDIATE`; commit on return, `ROLLBACK` and re-raise on an error. -/
def immediate (x : Txn σ ε α) : Txn σ ε α := fun s =>
  match x s with
  | .ok a s' => .ok a s'
  | .error e _ => .error e s

variable {x : Txn σ ε α} {a : α} {s s' : σ}

theorem immediate_ok : immediate x s = .ok a s' ↔ x s = .ok a s' := by
  unfold immediate; cases x s <;> simp

variable {e : ε}

/-- **Atomicity.** A transaction that raises leaves the store it began with. -/
theorem immediate_error (h : immediate x s = .error e s') : s' = s := by
  unfold immediate at h
  cases hx : x s with
  | ok a s₁ => simp [hx] at h
  | error e' s₁ => simp only [hx, EStateM.Result.error.injEq] at h; exact h.2.symm

/-! ## Outcomes of a run -/

/-- From `s` the program returns `a`. -/
def Returns (x : Txn σ ε α) (s : σ) (a : α) : Prop := ∃ s', x s = .ok a s'

/-- From `s` the program raises. -/
def Raises (x : Txn σ ε α) (s : σ) : Prop := ∃ e s', x s = .error e s'

instance [DecidableEq α] (x : Txn σ ε α) (s : σ) (a : α) : Decidable (Returns x s a) :=
  match h : x s with
  | .ok b s' => decidable_of_iff (b = a) ⟨fun hb => ⟨s', hb ▸ h⟩, fun ⟨_, h'⟩ => by
      rw [h] at h'; injection h'⟩
  | .error _ _ => isFalse fun ⟨_, h'⟩ => by rw [h] at h'; cases h'

instance (x : Txn σ ε α) (s : σ) : Decidable (Raises x s) :=
  match h : x s with
  | .ok _ _ => isFalse fun ⟨_, _, h'⟩ => by rw [h] at h'; cases h'
  | .error e s' => isTrue ⟨e, s', h⟩

/-- The store a transaction leaves, whether it returned or raised. -/
def after (x : Txn σ ε α) (s : σ) : σ :=
  match x s with
  | .ok _ s' => s'
  | .error _ s' => s'

theorem after_ok (h : x s = .ok a s') : after x s = s' := by
  unfold after; rw [h]

theorem after_cases (x : Txn σ ε α) (s : σ) :
    after (immediate x) s = s ∨ ∃ a, x s = .ok a (after (immediate x) s) := by
  unfold after
  cases h : immediate x s with
  | ok a s' => exact .inr ⟨a, immediate_ok.1 h⟩
  | error e s' => exact .inl (immediate_error h)

/-! ## Inversion of the control structure -/

variable {b : β}

theorem bind_ok {f : α → Txn σ ε β} :
    (x >>= f) s = .ok b s' ↔ ∃ a s₁, x s = .ok a s₁ ∧ f a s₁ = .ok b s' := by
  change EStateM.bind x f s = _ ↔ _; unfold EStateM.bind
  cases x s <;> simp [and_assoc]

theorem bind_error {f : α → Txn σ ε β} : (x >>= f) s = .error e s' ↔
      x s = .error e s' ∨ ∃ a s₁, x s = .ok a s₁ ∧ f a s₁ = .error e s' := by
  change EStateM.bind x f s = _ ↔ _; unfold EStateM.bind
  cases x s <;> simp [and_assoc]

variable {f : α → Except ε β}

theorem except_bind_ok {x : Except ε α} : (x >>= f) = .ok b ↔ ∃ a, x = .ok a ∧ f a = .ok b := by
  cases x with
  | error e => exact ⟨fun h => (by cases h), fun ⟨_, h, _⟩ => (by cases h)⟩
  | ok a => exact ⟨fun h => ⟨a, rfl, h⟩, fun ⟨_, h, h'⟩ => (by cases h; exact h')⟩

theorem exists_ok {x : Except ε α} {p : α → Prop} [DecidablePred p]
    (h : (match x with
      | .ok a => decide (p a)
      | .error _ => false) = true) : ∃ a, x = .ok a ∧ p a := by
  cases x with
  | error e => cases h
  | ok a => exact ⟨a, rfl, of_decide_eq_true h⟩

theorem except_bind_error {x : Except ε α} (h : (x >>= f) = .error e) :
    x = .error e ∨ ∃ a, x = .ok a ∧ f a = .error e := by
  cases x with
  | error e' =>
    cases h; exact .inl rfl
  | ok a => exact .inr ⟨a, rfl, h⟩

variable {as : List α} {bs : List β}

theorem mapM_ok_iff : as.mapM f = .ok bs ↔ List.Forall₂ (fun a b => f a = .ok b) as bs := by
  induction as generalizing bs with
  | nil => exact ⟨fun h => by cases h; exact .nil, fun h => by cases h; rfl⟩
  | cons a as ih =>
    rw [List.mapM_cons, List.forall₂_cons_left_iff, except_bind_ok]; constructor
    · rintro ⟨b, hb, h⟩; obtain ⟨rest, hrest, h⟩ := except_bind_ok.1 h
      exact ⟨b, rest, hb, ih.1 hrest, (Except.ok.inj h).symm⟩
    · rintro ⟨b, rest, hb, hrest, rfl⟩
      exact ⟨b, hb, except_bind_ok.2 ⟨rest, ih.2 hrest, rfl⟩⟩

theorem forall₂_left {R : α → β → Prop} (h : List.Forall₂ R as bs) : ∀ a ∈ as, ∃ b ∈ bs, R a b := by
  induction h with
  | nil => simp
  | cons hab _ ih =>
    simp only [List.forall_mem_cons, List.exists_mem_cons_iff]
    exact ⟨.inl hab, fun a ha => .inr (ih a ha)⟩

theorem mapM_ok_mem (h : as.mapM f = .ok bs) : ∀ b ∈ bs, ∃ a ∈ as, f a = .ok b :=
  forall₂_left (mapM_ok_iff.1 h).flip

theorem mapM_ok_of_mem (h : as.mapM f = .ok bs) (ha : a ∈ as) : ∃ v ∈ bs, f a = .ok v :=
  forall₂_left (mapM_ok_iff.1 h) a ha

theorem mapM_perm {as' : List α} (hperm : as.Perm as') (h : as.mapM f = .ok bs) :
    ∃ bs', as'.mapM f = .ok bs' ∧ bs.Perm bs' := by
  obtain ⟨bs', h', hp⟩ := List.perm_comp_forall₂ hperm.symm (mapM_ok_iff.1 h)
  exact ⟨bs', mapM_ok_iff.2 h', hp.symm⟩

theorem except_mapM_map {g : α → β} (h : ∀ a ∈ as, f a = .ok (g a)) : as.mapM f = .ok (as.map g) :=
  mapM_ok_iff.2 (List.forall₂_map_right_iff.2 (List.forall₂_same.2 h))

theorem except_mapM_error (h : as.mapM f = .error e) : ∃ a ∈ as, f a = .error e := by
  induction as with
  | nil => cases h
  | cons a as ih =>
    rw [List.mapM_cons] at h; rcases except_bind_error h with h | ⟨_, _, h⟩
    · exact ⟨a, List.mem_cons_self, h⟩
    rcases except_bind_error h with h | ⟨_, _, h⟩
    · obtain ⟨b, hb, hf⟩ := ih h; exact ⟨b, List.mem_cons_of_mem _ hb, hf⟩
    · cases h

theorem except_mapM_total (h : ∀ a ∈ as, ∃ b, f a = .ok b) : ∃ bs, as.mapM f = .ok bs := by
  cases hm : as.mapM f with
  | ok bs => exact ⟨bs, rfl⟩
  | error e =>
    obtain ⟨a, ha, he⟩ := except_mapM_error hm; obtain ⟨b, hb⟩ := h a ha
    rw [hb] at he; cases he

theorem except_map_ok {x : Except ε α} {f : α → β} :
    x.map f = .ok b ↔ ∃ a, x = .ok a ∧ f a = b := by
  cases x with
  | error e => exact ⟨fun h => (by cases h), fun ⟨_, h, _⟩ => (by cases h)⟩
  | ok a => exact ⟨fun h => ⟨a, rfl, Except.ok.inj h⟩, fun ⟨_, h, h'⟩ => by cases h; exact congrArg _ h'⟩

variable {γ : Type u}

theorem mapM_ok_map {g : α → γ} {h : β → γ} (hfg : ∀ a b, f a = .ok b → h b = g a)
    (hm : as.mapM f = .ok bs) : bs.map h = as.map g := by
  replace hm := mapM_ok_iff.1 hm
  induction hm with
  | nil => rfl
  | cons hb _ ih => rw [List.map_cons, List.map_cons, hfg _ _ hb, ih]

theorem except_foldlM_error {f : β → α → Except ε β} (h : as.foldlM f b = .error e) :
    ∃ b', ∃ a ∈ as, f b' a = .error e := by
  induction as generalizing b with
  | nil => cases h
  | cons a as ih =>
    rcases except_bind_error h with h | ⟨b₁, _, h⟩
    · exact ⟨b, a, List.mem_cons_self, h⟩
    · obtain ⟨b', a', ha', hf⟩ := ih h
      exact ⟨b', a', List.mem_cons_of_mem _ ha', hf⟩

theorem except_forM_error {ε : Type} {f : α → Except ε Unit} {l : List α} {e : ε}
    (h : l.forM f = .error e) : ∃ a ∈ l, f a = .error e := by
  induction l with
  | nil => cases h
  | cons a l ih =>
    rcases except_bind_error h with h | ⟨_, _, h⟩
    · exact ⟨a, List.mem_cons_self, h⟩
    · obtain ⟨b, hb, hf⟩ := ih h; exact ⟨b, List.mem_cons_of_mem _ hb, hf⟩

@[simp] theorem pure_ok {b : α} : (pure a : Txn σ ε α) s = .ok b s' ↔ a = b ∧ s = s' := by
  change EStateM.Result.ok a s = _ ↔ _; simp

@[simp] theorem throw_ok : (throw e : Txn σ ε α) s = .ok a s' ↔ False := by
  change EStateM.Result.error e s = _ ↔ _; simp

@[simp] theorem get_ok {t : σ} : (get : Txn σ ε σ) s = .ok t s' ↔ t = s ∧ s' = s := by
  change EStateM.Result.ok s s = _ ↔ _; simp [eq_comm]

variable {u : PUnit}

@[simp] theorem set_ok {t : σ} : (set t : Txn σ ε PUnit) s = .ok u s' ↔ s' = t := by
  change EStateM.Result.ok PUnit.unit t = _ ↔ _; simp [eq_comm]

@[simp] theorem modify_ok {f : σ → σ} : (modify f : Txn σ ε PUnit) s = .ok u s' ↔ s' = f s := by
  change EStateM.Result.ok PUnit.unit (f s) = _ ↔ _; simp [eq_comm]

/-- A program over a part of the store, run within the whole. -/
def zoom {τ ε' : Type u} (get : τ → σ) (set : τ → σ → τ) (raise : ε → ε') (x : Txn σ ε α) :
    Txn τ ε' α := fun t =>
  match x (get t) with
  | .ok a s => .ok a (set t s)
  | .error e s => .error (raise e) (set t s)

theorem zoom_ok {τ ε' : Type u} {get : τ → σ} {set : τ → σ → τ} {raise : ε → ε'} {t t' : τ} :
    zoom get set raise x t = .ok a t' ↔ ∃ s, x (get t) = .ok a s ∧ t' = set t s := by
  unfold zoom; cases x (get t) <;> simp [eq_comm, and_assoc]

/-- Raise `e` unless `c` holds. -/
def require (c : Prop) [Decidable c] (e : ε) : Txn σ ε PUnit := if c then pure ⟨⟩ else throw e

@[simp] theorem require_ok {c : Prop} [Decidable c] :
    (require c e : Txn σ ε PUnit) s = .ok u s' ↔ c ∧ s' = s := by
  unfold require; split <;> simp_all [eq_comm]

/-! ## Writes that respect a preorder -/

/-- Whenever `x` returns, it moved the store along `R`. -/
def Moves (R : σ → σ → Prop) (x : Txn σ ε α) : Prop := ∀ s a s', x s = .ok a s' → R s s'

/-- The preorder of a program that only reads. -/
def Unchanged (s s' : σ) : Prop := s' = s

instance : IsPreorder σ (Unchanged : σ → σ → Prop) where
  refl _ := rfl
  trans _ _ _ h h' := h'.trans h

section Moves

variable {R : σ → σ → Prop} {x : Txn σ ε α}

theorem Moves.mono {R' : σ → σ → Prop} (h : Moves R x) (hRR : ∀ s s', R s s' → R' s s') :
    Moves R' x := fun s a s' hx => hRR s s' (h s a s' hx)

theorem Moves.immediate (h : Moves R x) : Moves R (immediate x) := fun s a s' hx =>
  h s a s' (immediate_ok.1 hx)

theorem Moves.throw (e : ε) : Moves R (throw e : Txn σ ε α) := fun s a s' h => by simp at h

theorem Moves.ite {c : Prop} [Decidable c] {y : Txn σ ε α} (hx : Moves R x) (hy : Moves R y) :
    Moves R (if c then x else y) := by
  split
  · exact hx
  · exact hy

theorem Moves.modify {f : σ → σ} (h : ∀ s, R s (f s)) : Moves R (modify f : Txn σ ε PUnit) :=
  fun s u s' hx => by
    rw [modify_ok] at hx
    subst hx
    exact h s

theorem Moves.zoom {τ ε' : Type u} {Q : τ → τ → Prop} {get : τ → σ} {set : τ → σ → τ}
    {raise : ε → ε'} (h : Moves R x) (hQ : ∀ t s, R (get t) s → Q t (set t s)) :
    Moves Q (zoom get set raise x) := fun t a t' hx => by
  obtain ⟨s, hs, rfl⟩ := zoom_ok.1 hx
  exact hQ t s (h _ _ _ hs)

variable [IsPreorder σ R]

theorem Moves.pure (a : α) : Moves R (pure a : Txn σ ε α) := fun s b s' h => by
  obtain ⟨_, rfl⟩ := pure_ok.1 h
  exact refl_of R s

theorem Moves.get : Moves R (get : Txn σ ε σ) := fun s a s' h => by
  obtain ⟨_, rfl⟩ := get_ok.1 h
  exact refl_of R s'

theorem Moves.require (c : Prop) [Decidable c] (e : ε) : Moves R (require c e : Txn σ ε PUnit) :=
  fun s a s' h => by
    obtain ⟨_, rfl⟩ := require_ok.1 h
    exact refl_of R s'

theorem Moves.bind {f : α → Txn σ ε β} (hx : Moves R x) (hf : ∀ a, Moves R (f a)) :
    Moves R (x >>= f) := fun s b s' h => by
  obtain ⟨a, s₁, h₁, h₂⟩ := bind_ok.1 h
  exact trans_of R (hx _ _ _ h₁) (hf a _ _ _ h₂)

theorem Moves.forM {f : γ → Txn σ ε PUnit} (hf : ∀ c, Moves R (f c)) (l : List γ) :
    Moves R (l.forM f) := by
  induction l with
  | nil => exact Moves.pure _
  | cons c l ih => exact Moves.bind (hf c) fun _ => ih

theorem Moves.foldlM {f : β → γ → Txn σ ε β} (hf : ∀ b c, Moves R (f b c))
    (l : List γ) (b : β) : Moves R (l.foldlM f b) := by
  induction l generalizing b with
  | nil => exact Moves.pure _
  | cons c l ih => exact Moves.bind (hf b c) fun b' => ih b'

theorem Moves.after (h : Moves R x) (s : σ) : R s (after (Txn.immediate x) s) := by
  unfold Txn.after
  cases hx : Txn.immediate x s with
  | ok a s' => exact h.immediate _ _ _ hx
  | error e s' =>
    have hs' : s' = s := immediate_error hx; subst hs'; exact refl_of R _

end Moves

end Txn

end Quantbot.Core
