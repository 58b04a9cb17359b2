import Quantbot.Core.Txn

/-!
# Programs that only read

`Reads view good x r`: from a good state the program `x` answers what the reader `r` answers of
the part of the state that `view` shows, returned or raised alike; it leaves that part as it was
and the state good. What a program writes elsewhere (a cache) is not seen.

`Reads` composes along `bind`, branches and traversals, so a program is settled by its reader as
soon as each lookup is. `Reads.ok` and `Reads.run` take a result from one to the other.
-/
namespace Quantbot.Core.Txn

universe u

variable {σ τ ε α β : Type u}

/-- What a program returned or raised, without the state it left. -/
def answer (x : Txn σ ε α) (s : σ) : Except ε α :=
  match x s with
  | .ok a _ => .ok a
  | .error e _ => .error e

structure Reads (view : σ → τ) (good : σ → Prop) (x : Txn σ ε α) (r : τ → Except ε α) : Prop where
  answers : ∀ s, good s → answer x s = r (view s)
  shows : ∀ s, good s → view (after x s) = view s
  keeps : ∀ s, good s → good (after x s)

/-- A computation that may raise and reads nothing. -/
def raising (x : Except ε α) : Txn σ ε α := fun s =>
  match x with
  | .ok a => .ok a s
  | .error e => .error e s

variable {a : α} {s : σ} {s' : σ}

theorem raising_ok {x : Except ε α} :
    (raising x : Txn σ ε α) s = .ok a s' ↔ x = .ok a ∧ s' = s := by
  unfold raising; cases x <;> simp [eq_comm]

variable {k : α → Txn σ ε β}

theorem Returns.bind {x : Txn σ ε α} {s₁ : σ} {b : β} (hx : x s = .ok a s₁)
    (hk : Returns (k a) s₁ b) : Returns (x >>= k) s b := by
  obtain ⟨s', hs'⟩ := hk; exact ⟨s', bind_ok.2 ⟨a, s₁, hx, hs'⟩⟩

variable {κ : Type u}

theorem Returns.zoom {get : σ → κ} {set : σ → κ → σ} {y : Txn κ ε α} {c : κ}
    (h : y (get s) = .ok a c) : Returns (zoom get set id y) s a :=
  ⟨set s c, zoom_ok.2 ⟨c, h, rfl⟩⟩

section Reads
variable {view : σ → τ} {good : σ → Prop} {x : Txn σ ε α} {r : τ → Except ε α}

variable {a : α} {s : σ}

theorem Reads.ok (h : Reads view good x r) (hs : good s) (hx : x s = .ok a s') :
    r (view s) = .ok a ∧ view s' = view s ∧ good s' := by
  have hanswer := h.answers s hs; have hshows := h.shows s hs
  have hkeeps := h.keeps s hs; rw [after_ok hx] at hshows hkeeps
  unfold answer at hanswer; rw [hx] at hanswer
  exact ⟨hanswer.symm, hshows, hkeeps⟩

theorem Reads.error (h : Reads view good x r) {e : ε} (hs : good s)
    (hx : x s = .error e s') : r (view s) = .error e ∧ view s' = view s ∧ good s' := by
  have hanswer := h.answers s hs; have hshows := h.shows s hs
  have hkeeps := h.keeps s hs; unfold after at hshows hkeeps
  unfold answer at hanswer; rw [hx] at hanswer hshows hkeeps
  exact ⟨hanswer.symm, hshows, hkeeps⟩

theorem Reads.run (h : Reads view good x r) (hs : good s) (hr : r (view s) = .ok a) :
    ∃ s', x s = .ok a s' ∧ view s' = view s ∧ good s' := by
  cases hx : x s with
  | ok b s' =>
    obtain ⟨hb, hshows, hkeeps⟩ := h.ok hs hx
    obtain rfl := Except.ok.inj (hb.symm.trans hr)
    exact ⟨s', rfl, hshows, hkeeps⟩
  | error e s' =>
    have he := (h.error hs hx).1; rw [hr] at he; cases he

theorem Reads.of_cases (hok : ∀ s a s', good s → x s = .ok a s' →
      r (view s) = .ok a ∧ view s' = view s ∧ good s')
    (herror : ∀ s e s', good s → x s = .error e s' →
      r (view s) = .error e ∧ view s' = view s ∧ good s') : Reads view good x r := by
  have hall : ∀ s, good s → answer x s = r (view s) ∧ view (after x s) = view s ∧
      good (after x s) := by
    intro s hs; unfold answer after
    cases hx : x s with
    | ok a s' =>
      obtain ⟨h₁, h₂, h₃⟩ := hok s a s' hs hx; exact ⟨h₁.symm, h₂, h₃⟩
    | error e s' =>
      obtain ⟨h₁, h₂, h₃⟩ := herror s e s' hs hx; exact ⟨h₁.symm, h₂, h₃⟩
  exact ⟨fun s hs => (hall s hs).1, fun s hs => (hall s hs).2.1, fun s hs => (hall s hs).2.2⟩

theorem Reads.raising (x : Except ε α) : Reads view good (raising x : Txn σ ε α) fun _ => x := by
  cases x with
  | ok _ | error _ => exact ⟨fun _ _ => rfl, fun _ _ => rfl, fun _ hs => hs⟩

theorem Reads.pure (a : α) : Reads view good (pure a : Txn σ ε α) fun _ => .ok a :=
  ⟨fun _ _ => rfl, fun _ _ => rfl, fun _ hs => hs⟩

theorem Reads.throw (e : ε) : Reads view good (throw e : Txn σ ε α) fun _ => .error e :=
  ⟨fun _ _ => rfl, fun _ _ => rfl, fun _ hs => hs⟩

theorem Reads.get {f : σ → Txn σ ε α} {g : τ → τ → Except ε α}
    (h : ∀ s, good s → Reads view good (f s) (g (view s))) :
    Reads view good (do let s ← get; f s) fun t => g t t := by
  refine Reads.of_cases (fun s a s' hs hx => ?_) fun s e s' hs hx => ?_
  · exact (h s hs).ok hs hx
  · exact (h s hs).error hs hx

variable {k : α → Txn σ ε β} {q : α → τ → Except ε β}

/-- The rule of `bind` when the first program establishes more than it found. -/
theorem Reads.bind_of {Q : α → σ → Prop} (hx : Reads view good x r)
    (hpost : ∀ s a s', good s → x s = .ok a s' → Q a s') (hk : ∀ a, Reads view (Q a) (k a) (q a))
    (hweak : ∀ a s, Q a s → good s) :
    Reads view good (x >>= k) fun t => r t >>= fun a => q a t := by
  refine Reads.of_cases (fun s b s' hs h => ?_) fun s e s' hs h => ?_
  · obtain ⟨a, s₁, hxs, hks⟩ := bind_ok.1 h
    obtain ⟨hr, hview, _⟩ := hx.ok hs hxs
    obtain ⟨hq, hview', hgood'⟩ := (hk a).ok (hpost s a s₁ hs hxs) hks
    rw [hview] at hq; rw [hr]; exact ⟨hq, hview'.trans hview, hweak a s' hgood'⟩
  · rcases bind_error.1 h with hxs | ⟨a, s₁, hxs, hks⟩
    · obtain ⟨hr, hview, hgood⟩ := hx.error hs hxs; rw [hr]
      exact ⟨rfl, hview, hgood⟩
    obtain ⟨hr, hview, _⟩ := hx.ok hs hxs
    obtain ⟨hq, hview', hgood'⟩ := (hk a).error (hpost s a s₁ hs hxs) hks
    rw [hview] at hq; rw [hr]; exact ⟨hq, hview'.trans hview, hweak a s' hgood'⟩

theorem Reads.bind (hx : Reads view good x r) (hk : ∀ a, Reads view good (k a) (q a)) :
    Reads view good (x >>= k) fun t => r t >>= fun a => q a t :=
  hx.bind_of (fun _ _ _ hs h => (hx.ok hs h).2.2) hk fun _ _ hs => hs

theorem Reads.zoom {get : σ → κ} {set : σ → κ → σ} {y : Txn κ ε α} {v : Except ε α}
    (h : ∀ c, answer y c = v) (hview : ∀ s c, view (set s c) = view s)
    (hgood : ∀ s c, good s → good (set s c)) :
    Reads view good (Txn.zoom get set id y) fun _ => v := by
  refine Reads.of_cases (fun s a s' hs hx => ?_) fun s e s' hs hx => ?_
  · unfold Txn.zoom at hx; have hanswer := h (get s); unfold answer at hanswer
    cases hy : y (get s) with
    | error e c => rw [hy] at hx; cases hx
    | ok b c =>
      rw [hy] at hx hanswer; cases hx
      exact ⟨hanswer.symm, hview s c, hgood s c hs⟩
  · unfold Txn.zoom at hx; have hanswer := h (get s); unfold answer at hanswer
    cases hy : y (get s) with
    | ok b c => rw [hy] at hx; cases hx
    | error e' c =>
      rw [hy] at hx hanswer; cases hx
      exact ⟨hanswer.symm, hview s c, hgood s c hs⟩

theorem Reads.then {q : τ → Except ε β} (hx : Reads view good x fun _ => .ok a)
    (hk : Reads view good (k a) q) : Reads view good (x >>= k) q := by
  have hanswer : ∀ s b s', good s → x s = .ok b s' → b = a ∧ view s' = view s ∧ good s' := by
    intro s b s' hs h; obtain ⟨hb, hview, hgood⟩ := hx.ok hs h
    exact ⟨(Except.ok.inj hb).symm, hview, hgood⟩
  refine Reads.of_cases (fun s b s' hs h => ?_) fun s e s' hs h => ?_
  · obtain ⟨a', s₁, hxs, hks⟩ := bind_ok.1 h
    obtain ⟨rfl, hview, hgood⟩ := hanswer s a' s₁ hs hxs
    obtain ⟨hq, hview', hgood'⟩ := hk.ok hgood hks; rw [hview] at hq
    exact ⟨hq, hview'.trans hview, hgood'⟩
  · rcases bind_error.1 h with hxs | ⟨a', s₁, hxs, hks⟩
    · cases (hx.error hs hxs).1
    obtain ⟨rfl, hview, hgood⟩ := hanswer s a' s₁ hs hxs
    obtain ⟨hq, hview', hgood'⟩ := hk.error hgood hks; rw [hview] at hq
    exact ⟨hq, hview'.trans hview, hgood'⟩

theorem Reads.andThen {f : α → Except ε β} (hx : Reads view good x r) :
    Reads view good (x >>= fun a => Txn.raising (f a)) fun t => r t >>= f :=
  hx.bind fun a => Reads.raising (f a)

theorem Reads.mapM {f : α → Txn σ ε β} {g : α → τ → Except ε β}
    (h : ∀ a, Reads view good (f a) (g a)) (as : List α) :
    Reads view good (as.mapM f) fun t => as.mapM fun a => g a t := by
  induction as with
  | nil => exact Reads.pure []
  | cons a as ih =>
    simp only [List.mapM_cons]
    exact (h a).bind fun b => ih.bind fun bs => Reads.pure (b :: bs)

theorem Reads.require (c : Prop) [Decidable c] (e : ε) :
    Reads view good (Txn.require c e) fun _ => if c then .ok ⟨⟩ else .error e := by
  unfold Txn.require; split
  · exact Reads.pure _
  · exact Reads.throw e

/-- Errors under another name. -/
def mapError (f : ε → ε) (x : Txn σ ε α) : Txn σ ε α := fun s =>
  match x s with
  | .ok a s' => .ok a s'
  | .error e s' => .error (f e) s'

theorem Reads.mapError (h : Reads view good x r) (f : ε → ε) :
    Reads view good (mapError f x) fun t => (r t).mapError f := by
  refine Reads.of_cases (fun s a s' hs hx => ?_) fun s e s' hs hx => ?_
  · unfold Txn.mapError at hx
    cases hxs : x s with
    | error e s₁ => rw [hxs] at hx; cases hx
    | ok b s₁ =>
      rw [hxs] at hx; cases hx; obtain ⟨hr, hview, hgood⟩ := h.ok hs hxs
      rw [hr]; exact ⟨rfl, hview, hgood⟩
  · unfold Txn.mapError at hx
    cases hxs : x s with
    | ok b s₁ => rw [hxs] at hx; cases hx
    | error e' s₁ =>
      rw [hxs] at hx; cases hx; obtain ⟨hr, hview, hgood⟩ := h.error hs hxs
      rw [hr]; exact ⟨rfl, hview, hgood⟩

end Reads

/-! ## Failures that show nothing -/

/-- Whenever `x` raises, it leaves what `view` shows as it was. -/
def Steady (view : σ → τ) (good : σ → Prop) (x : Txn σ ε α) : Prop :=
  ∀ s e s', good s → x s = .error e s' → view s' = view s ∧ good s'

section Steady
variable {view : σ → τ} {good : σ → Prop} {x : Txn σ ε α} {r : τ → Except ε α}

theorem Reads.steady (h : Reads view good x r) : Steady view good x :=
  fun _ _ _ hs hx => (h.error hs hx).2

theorem Steady.pure (a : α) : Steady view good (pure a : Txn σ ε α) := (Reads.pure a).steady

theorem Steady.bind (hx : Reads view good x r)
    (hk : ∀ a, Steady view good (k a)) : Steady view good (x >>= k) := by
  intro s e s' hs h; rcases bind_error.1 h with hxs | ⟨a, s₁, hxs, hks⟩
  · exact hx.steady s e s' hs hxs
  obtain ⟨_, hview, hgood⟩ := hx.ok hs hxs
  obtain ⟨hview', hgood'⟩ := hk a s₁ e s' hgood hks
  exact ⟨hview'.trans hview, hgood'⟩

theorem Steady.get {f : σ → Txn σ ε α} (h : ∀ s, Steady view good (f s)) :
    Steady view good (do let s ← get; f s) := fun s e s' hs hx => h s s e s' hs hx

theorem Steady.last (hx : Steady view good x)
    (hk : ∀ a s e s', k a s ≠ .error e s') : Steady view good (x >>= k) := by
  intro s e s' hs h; rcases bind_error.1 h with hxs | ⟨a, s₁, _, hks⟩
  · exact hx s e s' hs hxs
  · exact absurd hks (hk a s₁ e s')

theorem Steady.zoom {get : σ → κ} {set : σ → κ → σ} {y : Txn κ ε α}
    (hy : ∀ c e c', y c = .error e c' → c' = c) (hset : ∀ s, set s (get s) = s) :
    Steady view good (Txn.zoom get set id y) := by
  intro s e s' hs h; unfold Txn.zoom at h
  cases hc : y (get s) with
  | ok a c => rw [hc] at h; cases h
  | error e' c =>
    rw [hc] at h
    injection h with _ hsame
    rw [hy _ _ _ hc, hset] at hsame; rw [← hsame]; exact ⟨rfl, hs⟩

end Steady

end Quantbot.Core.Txn
