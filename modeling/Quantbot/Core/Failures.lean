import Quantbot.Core.Txn

/-!
# Which errors a transaction raises

`Fails P x s`: if `x` raises from `s`, the error is a `P`. The rules for the control
structure are equivalences, so the states from which a program raises nothing else are
found along its text.
-/
namespace Quantbot.Core.Txn

universe u

variable {σ ε α β : Type u} {P : ε → Prop} {s : σ}

/-- From `s` the program raises nothing but `P`. -/
def Fails (P : ε → Prop) (x : Txn σ ε α) (s : σ) : Prop := ∀ e s', x s = .error e s' → P e

variable {x : Txn σ ε α}

theorem Fails.mono {Q : ε → Prop} (h : Fails P x s) (hPQ : ∀ e, P e → Q e) :
    Fails Q x s := fun e s' hx => hPQ e (h e s' hx)

@[simp] theorem fails_pure (a : α) : Fails P (pure a : Txn σ ε α) s := fun _ _ h => nomatch h

@[simp] theorem fails_get : Fails P (get : Txn σ ε σ) s := fun _ _ h => nomatch h

@[simp] theorem fails_modify (f : σ → σ) : Fails P (modify f : Txn σ ε PUnit) s :=
  fun _ _ h => nomatch h

variable {e : ε}

@[simp] theorem fails_throw : Fails P (throw e : Txn σ ε α) s ↔ P e := by
  constructor
  · exact fun h => h e s rfl
  intro he _ _ h; cases h; exact he

@[simp] theorem fails_require {c : Prop} [Decidable c] :
    Fails P (require c e : Txn σ ε PUnit) s ↔ (c ∨ P e) := by
  unfold require; split
  · next h => exact ⟨fun _ => .inl h, fun _ => fails_pure _⟩
  · next h => exact fails_throw.trans ⟨.inr, fun he => he.resolve_left h⟩

variable {f : α → Txn σ ε β}

/-- A sequence raises what its first part raises, or its second from where the first ends. -/
theorem fails_bind :
    Fails P (x >>= f) s ↔ Fails P x s ∧ ∀ a s₁, x s = .ok a s₁ → Fails P (f a) s₁ := by
  unfold Fails; simp only [bind_error]; constructor
  · intro h
    exact ⟨fun e s' hx => h e s' (.inl hx), fun a s₁ hx e s' hf => h e s' (.inr ⟨a, s₁, hx, hf⟩)⟩
  · rintro ⟨hx, hf⟩ e s' (h | ⟨a, s₁, hok, h⟩)
    · exact hx e s' h
    · exact hf a s₁ hok e s' h

variable {t : σ}

theorem immediate_raises (hx : x s = .error e t) : immediate x s = .error e s := by
  unfold immediate; rw [hx]

theorem fails_bind_ok {a : α} (hx : x s = .ok a t) : Fails P (x >>= f) s ↔ Fails P (f a) t := by
  rw [fails_bind]; constructor
  · exact fun h => h.2 a t hx
  refine fun h => ⟨fun e s' he => ?_, fun b t' hb => ?_⟩
  · rw [hx] at he; cases he
  · rw [hx] at hb; cases hb; exact h

theorem fails_bind_error (hx : x s = .error e t) : Fails P (x >>= f) s ↔ P e := by
  rw [fails_bind]; constructor
  · exact fun h => h.1 e t hx
  refine fun h => ⟨fun e' s' he => ?_, fun b t' hb => ?_⟩
  · rw [hx] at he; cases he; exact h
  · rw [hx] at hb; cases hb

theorem fails_get_bind {f : σ → Txn σ ε α} : Fails P (get >>= f) s ↔ Fails P (f s) s :=
  fails_bind_ok rfl

/-- After a requirement that is met, or whose error is a `P`. -/
theorem fails_require_bind {c : Prop} [Decidable c] {f : PUnit → Txn σ ε α} (he : P e) :
    Fails P (require c e >>= f) s ↔ (c → Fails P (f ⟨⟩) s) := by
  rw [fails_bind, fails_require]; constructor
  · exact fun h hc => h.2 ⟨⟩ s (require_ok.2 ⟨hc, rfl⟩)
  refine fun h => ⟨.inr he, fun _ s₁ hr => ?_⟩
  obtain ⟨hc, rfl⟩ := require_ok.1 hr; exact h hc

theorem fails_immediate : Fails P (immediate x) s ↔ Fails P x s := by
  unfold Fails immediate
  cases x s with
  | ok a s₁ => exact ⟨fun _ _ _ h => (nomatch h), fun _ _ _ h => (nomatch h)⟩
  | error e s₁ =>
    constructor
    · intro h e' s' he; cases he; exact h e s rfl
    · intro h e' s' he; cases he; exact h e s₁ rfl

theorem fails_zoom {τ ε' : Type u} {Q : ε' → Prop} {get : τ → σ} {set : τ → σ → τ}
    {raise : ε → ε'} {t : τ} :
    Fails Q (zoom get set raise x) t ↔ Fails (fun e => Q (raise e)) x (get t) := by
  unfold Fails zoom
  cases x (get t) with
  | ok a s₁ => exact ⟨fun _ _ _ h => (nomatch h), fun _ _ _ h => (nomatch h)⟩
  | error e s₁ =>
    constructor
    · intro h e' s' he; cases he; exact h (raise e) (set t s₁) rfl
    · intro h e' s' he; cases he; exact h e s₁ rfl

theorem Fails.bind (hx : Fails P x s) (hf : ∀ a s₁, Fails P (f a) s₁) :
    Fails P (x >>= f) s := fails_bind.2 ⟨hx, fun a s₁ _ => hf a s₁⟩

theorem Fails.foldlM {γ : Type u} {f : β → γ → Txn σ ε β} (hf : ∀ b c s, Fails P (f b c) s)
    (l : List γ) (b : β) : Fails P (l.foldlM f b) s := by
  induction l generalizing b s with
  | nil => exact fails_pure _
  | cons c l ih => exact (hf b c s).bind fun b' _ => ih b'

theorem Fails.forM {γ : Type u} {f : γ → Txn σ ε PUnit} (hf : ∀ c s, Fails P (f c) s)
    (l : List γ) : Fails P (l.forM f) s := by
  induction l generalizing s with
  | nil => exact fails_pure _
  | cons c l ih => exact (hf c s).bind fun _ _ => ih

end Quantbot.Core.Txn
