import Mathlib.Logic.Relation

/-!
# Labelled transition systems

Runs, reachability and the two run principles every concurrent result below
uses: an inductive predicate holds in every reachable state, and a preorder
that every step respects is respected by every run. `restrict` keeps the steps
that meet a condition, so that "in every run whose steps all meet C" is
reachability in `m.restrict C`.
-/
namespace Quantbot.Core

universe u v

/-- A labelled transition system: initial states and labelled steps. -/
structure LTS (S : Type u) (L : Type v) where
  init : S → Prop
  step : S → L → S → Prop

namespace LTS

variable {S : Type u} {L : Type v} {m : LTS S L}

/-- A finite run with the labels of its steps, first step first. -/
inductive Run (m : LTS S L) : S → List L → S → Prop
  | nil (s : S) : Run m s [] s
  | cons {s s' s'' : S} {l : L} {ls : List L} :
      m.step s l s' → Run m s' ls s'' → Run m s (l :: ls) s''

def Reachable (m : LTS S L) (s : S) : Prop := ∃ s₀ ls, m.init s₀ ∧ m.Run s₀ ls s

/-- Holds initially and is preserved by every step. -/
structure Inductive (m : LTS S L) (P : S → Prop) : Prop where
  init : ∀ s, m.init s → P s
  step : ∀ s l s', P s → m.step s l s' → P s'

/-- The steps of `m` that meet `C`. -/
def restrict (m : LTS S L) (C : S → L → S → Prop) : LTS S L where
  init := m.init
  step s l s' := m.step s l s' ∧ C s l s'

variable {ls : List L} {s s' s'' : S} {P : S → Prop}

theorem Run.keeps (hstep : ∀ s l s', P s → m.step s l s' → P s') (hr : m.Run s ls s') (hs : P s) :
    P s' := by
  induction hr with
  | nil s => exact hs
  | cons hst _ ih => exact ih (hstep _ _ _ hs hst)

theorem Inductive.reachable (h : m.Inductive P) (hr : m.Reachable s) : P s := by
  obtain ⟨s₀, ls, h0, hrun⟩ := hr; exact hrun.keeps h.step (h.init s₀ h0)

/-- A preorder that every step from a `P`-state respects is respected by every run. -/
theorem Run.rel {R : S → S → Prop} (hrefl : ∀ s, R s s) (htrans : ∀ a b c, R a b → R b c → R a c)
    (hP : ∀ s l s', P s → m.step s l s' → P s') (hR : ∀ s l s', P s → m.step s l s' → R s s')
    (hr : m.Run s ls s') (hs : P s) : R s s' := by
  induction hr with
  | nil s => exact hrefl s
  | cons hst _ ih => exact htrans _ _ _ (hR _ _ _ hs hst) (ih (hP _ _ _ hs hst))

theorem Run.append {ls' : List L} (h : m.Run s ls s') (h' : m.Run s' ls' s'') :
    m.Run s (ls ++ ls') s'' := by
  induction h with
  | nil s => exact h'
  | cons hst _ ih => exact .cons hst (ih h')

theorem Run.split {ls' : List L} (h : m.Run s (ls ++ ls') s'') :
    ∃ s', m.Run s ls s' ∧ m.Run s' ls' s'' := by
  induction ls generalizing s with
  | nil => exact ⟨s, .nil s, h⟩
  | cons l ls ih =>
    cases h with
    | cons hst hrest =>
      obtain ⟨s', hls, hls'⟩ := ih hrest; exact ⟨s', .cons hst hls, hls'⟩

theorem Run.snoc {l : L} (h : m.Run s ls s') (h' : m.step s' l s'') : m.Run s (ls ++ [l]) s'' :=
  h.append (.cons h' (.nil _))

theorem Run.of_foldlM {f : S → L → Option S} (hf : ∀ s l s', f s l = some s' → m.step s l s')
    (h : ls.foldlM f s = some s') : m.Run s ls s' := by
  induction ls generalizing s with
  | nil =>
    cases h; exact .nil _
  | cons l ls ih =>
    obtain ⟨s₁, h₁, h₂⟩ := Option.bind_eq_some_iff.1 h
    exact .cons (hf _ _ _ h₁) (ih h₂)

theorem Reachable.step {l : L} (h : m.Reachable s) (hst : m.step s l s') : m.Reachable s' := by
  obtain ⟨s₀, ls, h0, hrun⟩ := h; exact ⟨s₀, ls ++ [l], h0, hrun.snoc hst⟩

section restrict

variable {C : S → L → S → Prop}

variable {s : S}

theorem Run.of_restrict {s' : S} {ls : List L} (h : (m.restrict C).Run s ls s') :
    m.Run s ls s' := by
  induction h with
  | nil s => exact .nil s
  | cons hst _ ih => exact .cons hst.1 ih

variable {D : S → L → S → Prop}

theorem Run.restrict_mono (hCD : ∀ s l s', C s l s' → D s l s') {s' : S}
    {ls : List L} (h : (m.restrict C).Run s ls s') : (m.restrict D).Run s ls s' := by
  induction h with
  | nil s => exact .nil s
  | cons hst _ ih => exact .cons ⟨hst.1, hCD _ _ _ hst.2⟩ ih

theorem Reachable.restrict_mono (hCD : ∀ s l s', C s l s' → D s l s')
    (h : (m.restrict C).Reachable s) : (m.restrict D).Reachable s := by
  obtain ⟨s₀, ls, h0, hrun⟩ := h; exact ⟨s₀, ls, h0, hrun.restrict_mono hCD⟩

theorem Reachable.of_restrict (h : (m.restrict C).Reachable s) : m.Reachable s := by
  obtain ⟨s₀, ls, h0, hrun⟩ := h; exact ⟨s₀, ls, h0, hrun.of_restrict⟩

end restrict

end LTS

end Quantbot.Core
