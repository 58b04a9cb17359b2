import Mathlib.Data.List.MinMax

/-!
# Chains of revisions

A chain of immutable revisions: numbered from one, each naming the identity of the
one before it. Whoever appends reads the whole collection, in any order, and takes the
item with the largest number as its predecessor.

* `Linear.snoc`: an append behind the last item keeps the chain linear.
* `Linear.no_fork`: no two items name one predecessor.
* `latest_linear`: the item with the largest number is the last of the chain, whatever
  order the collection is read in.
* `latest_filter`: in a chain that is also in order of time, the newest of the items up
  to a time is the last of them.
-/
namespace Quantbot.Core

universe u v

variable {α : Type u} {ι : Type v} {number : α → Nat} {previous : α → Option ι} {name : α → ι}

/-- Numbered `1..n`, each naming its predecessor. -/
def Linear (number : α → Nat) (previous : α → Option ι) (name : α → ι) (l : List α) : Prop :=
  ∀ i a, l[i]? = some a → number a = i + 1 ∧ previous a = (l.take i).getLast?.map name

theorem Linear.nil : Linear number previous name [] := by
  intro i a h; cases h

variable {l : List α} {a : α}

section

variable (h : Linear number previous name l)
include h

theorem Linear.snoc (hnumber : number a = l.length + 1)
    (hprevious : previous a = l.getLast?.map name) : Linear number previous name (l ++ [a]) := by
  intro i b hb; rcases Nat.lt_or_ge i l.length with hi | hi
  · rw [List.getElem?_append_left hi] at hb
    rw [List.take_append_of_le_length (Nat.le_of_lt hi)]; exact h i b hb
  rw [List.getElem?_append_right hi, List.getElem?_singleton] at hb; split at hb
  · next hzero =>
    cases hb; have hlen : i = l.length := by omega
    subst hlen; rw [List.take_left]; exact ⟨hnumber, hprevious⟩
  · cases hb

theorem Linear.last (ha : l.getLast? = some a) : number a = l.length := by
  have hne : l ≠ [] := by
    rintro rfl; cases ha
  have hpos := List.length_pos_iff.2 hne; rw [List.getLast?_eq_getElem?] at ha
  have := (h _ a ha).1; omega

theorem Linear.number_le (ha : a ∈ l) : number a ≤ l.length := by
  obtain ⟨i, hi, rfl⟩ := List.getElem_of_mem ha
  have := (h i _ (List.getElem?_eq_getElem hi)).1; omega

theorem Linear.eq_last (ha : a ∈ l) (hn : l.length ≤ number a) : l.getLast? = some a := by
  obtain ⟨i, hi, rfl⟩ := List.getElem_of_mem ha
  have hi' := (h i _ (List.getElem?_eq_getElem hi)).1
  have hlast : i = l.length - 1 := by omega
  subst hlast; rw [List.getLast?_eq_getElem?, List.getElem?_eq_getElem hi]

theorem Linear.take (n : Nat) : Linear number previous name (l.take n) := by
  intro i a ha
  have hi : i < n := by
    by_contra hge
    rw [List.getElem?_eq_none (by rw [List.length_take]; omega)] at ha; cases ha
  rw [List.getElem?_take_of_lt hi] at ha
  rw [List.take_take, Nat.min_eq_left (Nat.le_of_lt hi)]; exact h i a ha

theorem Linear.no_fork {b : α}
    (hname : ∀ x ∈ l, ∀ y ∈ l, name x = name y → x = y) (ha : a ∈ l) (hb : b ∈ l)
    (hp : previous a = previous b) : a = b := by
  obtain ⟨i, hi, rfl⟩ := List.getElem_of_mem ha
  obtain ⟨j, hj, rfl⟩ := List.getElem_of_mem hb
  have hprev : (l.take i).getLast?.map name = (l.take j).getLast?.map name := by
    rw [← (h i _ (List.getElem?_eq_getElem hi)).2, ← (h j _ (List.getElem?_eq_getElem hj)).2, hp]
  have hlen : ∀ k, (hk : k < l.length) → ∀ x, (l.take k).getLast? = some x → number x = k := by
    intro k hk x hx; rw [(h.take k).last hx, List.length_take]; omega
  have hij : i = j := by
    cases hx : (l.take i).getLast? with
    | none =>
      rw [hx, Option.map_none, eq_comm, Option.map_eq_none_iff] at hprev
      rw [List.getLast?_eq_none_iff, List.take_eq_nil_iff] at hx hprev
      have hne : l ≠ [] := List.ne_nil_of_mem ha; rcases hx with hx | hx
      · rcases hprev with hy | hy
        · omega
        · exact absurd hy hne
      · exact absurd hx hne
    | some x =>
      rw [hx, Option.map_some, eq_comm, Option.map_eq_some_iff] at hprev
      obtain ⟨y, hy, hxy⟩ := hprev
      have hxl := List.mem_of_mem_take (List.mem_of_getLast? hx)
      have hyl := List.mem_of_mem_take (List.mem_of_getLast? hy)
      have hyx : y = x := hname y hyl x hxl hxy; have := hlen i hi x hx
      have := hlen j hj y hy; rw [hyx] at this; omega
  subst hij; rfl

end

/-! ## The newest -/

/-- `max(items, key=number, default=None)`: the first item with the largest number. -/
def latest (number : α → Nat) (l : List α) : Option α :=
  l.foldl (fun best a =>
    match best with
    | none => some a
    | some b => if number b < number a then some a else some b) none

theorem latest_spec (number : α → Nat) (l : List α) : (latest number l = none ∧ l = []) ∨
      ∃ a ∈ l, latest number l = some a ∧ ∀ b ∈ l, number b ≤ number a := by
  have hmax : latest number l = l.argmax number := by
    unfold latest List.argmax; congr 1; funext best a; cases best <;> rfl
  rw [hmax]
  cases h : l.argmax number with
  | none => exact .inl ⟨rfl, List.argmax_eq_none.1 h⟩
  | some a => exact .inr ⟨a, List.argmax_mem h, rfl, fun b hb => List.le_of_mem_argmax hb h⟩

theorem latest_linear {items : List α} (h : Linear number previous name l)
    (hitems : ∀ a, a ∈ items ↔ a ∈ l) : latest number items = l.getLast? := by
  rcases latest_spec number items with ⟨hnone, rfl⟩ | ⟨a, ha, hsome, hmax⟩
  · have hl : l = [] := List.eq_nil_iff_forall_not_mem.2 fun a ha => by
      cases (hitems a).2 ha
    rw [hnone, hl]; rfl
  have hal := (hitems a).1 ha; rw [hsome]; refine (h.eq_last hal ?_).symm
  have hne : l ≠ [] := List.ne_nil_of_mem hal
  have hlast := h.last (List.getLast?_eq_some_getLast hne); rw [← hlast]
  exact hmax _ ((hitems _).2 (List.getLast_mem hne))

theorem latest_numbered (h : l.map number = List.range' 1 l.length) :
    latest number l = l.getLast? := by
  rcases latest_spec number l with ⟨hnone, rfl⟩ | ⟨a, ha, hsome, hmax⟩
  · rw [hnone]; rfl
  obtain ⟨i, hi, rfl⟩ := List.getElem_of_mem ha
  have hnumber : ∀ j (hj : j < l.length), number l[j] = j + 1 := fun j hj => by
    have hget : (l.map number)[j]? = (List.range' 1 l.length)[j]? := by rw [h]
    rw [List.getElem?_map, List.getElem?_eq_getElem hj, List.getElem?_range' hj,
      Option.map_some] at hget
    have := Option.some.inj hget; omega
  have hle := hmax l[l.length - 1] (List.getElem_mem _)
  rw [hnumber _ (by omega), hnumber _ hi] at hle
  have hlast : i = l.length - 1 := by omega
  subst hlast
  rw [hsome, List.getLast?_eq_getElem?, List.getElem?_eq_getElem hi]

/-! ## A chain in order of time -/

/-- In a list ordered by `R`, the items that meet a downward closed condition come first. -/
theorem filter_eq_takeWhile {R : α → α → Prop} {p : α → Bool} (h : l.Pairwise R)
    (hp : ∀ a b, R a b → p b = true → p a = true) : l.filter p = l.takeWhile p := by
  induction l with
  | nil => rfl
  | cons a l ih =>
    obtain ⟨hal, hl⟩ := List.pairwise_cons.1 h
    cases ha : p a with
    | true => rw [List.filter_cons_of_pos ha, List.takeWhile_cons_of_pos ha, ih hl]
    | false =>
      have hnone : ∀ b ∈ l, ¬ p b = true := fun b hb hpb => by
        rw [hp a b (hal b hb) hpb] at ha; cases ha
      rw [List.takeWhile_cons_of_neg (by rw [ha]; nofun), List.filter_eq_nil_iff.2]
      intro b hb; rcases List.mem_cons.1 hb with rfl | hb
      · rw [ha]; nofun
      · exact hnone b hb

/-- The newest of the items that meet a downward closed condition is the last of them. -/
theorem latest_filter {R : α → α → Prop} {p : α → Bool} {items : List α}
    (h : Linear number previous name l) (hR : l.Pairwise R)
    (hp : ∀ a b, R a b → p b = true → p a = true) (hitems : ∀ a, a ∈ items ↔ a ∈ l ∧ p a = true) :
    latest number items = (l.filter p).getLast? := by
  have hlinear : Linear number previous name (l.filter p) := by
    have hinit : l.takeWhile p <+: l := List.takeWhile_prefix p
    rw [filter_eq_takeWhile hR hp, List.prefix_iff_eq_take.1 hinit]
    exact h.take _
  exact latest_linear hlinear fun a => (hitems a).trans List.mem_filter.symm

end Quantbot.Core
