import Mathlib.Data.List.Nodup
import Mathlib.Logic.Function.Basic

/-!
# Reads in chunks

A query for many keys is sent in slices of at most 500 keys, so that a statement has few
parameters, and what comes back is kept in a dictionary. `fetched` is what all the slices return,
`Dict` a dictionary as a function.

* `find?_key_perm`: the row of a key, in whatever order the rows stand.
* `mem_fetched`: the slices return the rows of the keys.
* `fetched_keys_nodup`: a row of a keyed table is returned once, the keys being distinct.
* `filled_found`, `filled_other`: a dictionary filled from rows.
-/
namespace Quantbot.Core

universe u v

/-! ## Distinct keys -/

section Keys

variable {κ : Type u} [DecidableEq κ]

/-- `list(dict.fromkeys(keys))`. -/
def fromKeys (keys : List κ) : List κ := keys.eraseDups

theorem mem_fromKeys {keys : List κ} {k : κ} : k ∈ fromKeys keys ↔ k ∈ keys := List.mem_eraseDups

theorem fromKeys_nodup (keys : List κ) : (fromKeys keys).Nodup := by
  unfold fromKeys
  induction hn : keys.length using Nat.strongRecOn generalizing keys with
  | ind n ih =>
    cases keys with
    | nil => exact List.nodup_nil
    | cons k keys =>
      rw [List.eraseDups_cons, List.nodup_cons]
      refine ⟨fun hk => ?_, ih _ ?_ _ rfl⟩
      · have hmem := (List.mem_filter.1 (List.mem_eraseDups.1 hk)).2
        simp at hmem
      · rw [← hn, List.length_cons]
        exact Nat.lt_succ_of_le (List.length_filter_le _ _)

end Keys

/-! ## Rows with distinct keys -/

section Distinct

variable {α : Type u} {κ : Type v} [DecidableEq κ] {key : α → κ} {l l' : List α}

theorem find?_key_iff (hl : (l.map key).Nodup) {k : κ} {a : α} :
    l.find? (fun x => key x = k) = some a ↔ a ∈ l ∧ key a = k := by
  constructor
  · intro h
    exact ⟨List.mem_of_find?_eq_some h, by simpa using List.find?_some h⟩
  · rintro ⟨ha, rfl⟩
    cases h : l.find? fun x => key x = key a with
    | none => exact absurd (decide_eq_true rfl) (List.find?_eq_none.1 h a ha)
    | some b =>
      have hb : key b = key a := by simpa using List.find?_some h
      rw [List.inj_on_of_nodup_map hl (List.mem_of_find?_eq_some h) ha hb]

theorem find?_key_perm (h : l.Perm l') (hl : (l.map key).Nodup) (k : κ) :
    l'.find? (fun x => key x = k) = l.find? fun x => key x = k := by
  have hl' : (l'.map key).Nodup := (h.map key).nodup_iff.1 hl
  refine Option.ext fun a => ?_
  rw [find?_key_iff hl', find?_key_iff hl, h.mem_iff]

theorem filter_key (hl : (l.map key).Nodup) (k : κ) :
    (l.filter fun x => key x = k) = (l.find? fun x => key x = k).toList := by
  induction l with
  | nil => rfl
  | cons a l ih =>
    rw [List.map_cons, List.nodup_cons] at hl
    rw [List.filter_cons, List.find?_cons]; by_cases hk : key a = k
    · have hrest : (l.filter fun x => key x = k) = [] := by
        refine List.filter_eq_nil_iff.2 fun b hb => ?_
        simp only [decide_eq_true_eq]; intro heq
        exact hl.1 (List.mem_map.2 ⟨b, hb, heq.trans hk.symm⟩)
      simp [hk, hrest]
    · simp only [hk, decide_false, Bool.false_eq_true, if_false]; exact ih hl.2

end Distinct

/-! ## Slices -/

section Slices

variable {α : Type u} {κ : Type v}

/-- As many slices of 500. -/
def slicesFrom : ℕ → List κ → List (List κ)
  | 0, _ => []
  | n + 1, keys => keys.take 500 :: slicesFrom n (keys.drop 500)

/-- `keys[offset : offset + 500] for offset in range(0, len(keys), 500)`. -/
def slices (keys : List κ) : List (List κ) := slicesFrom ((keys.length + 499) / 500) keys

theorem flatten_slicesFrom {n : ℕ} {keys : List κ} (h : keys.length ≤ 500 * n) :
    (slicesFrom n keys).flatten = keys := by
  induction n generalizing keys with
  | zero =>
    rw [List.length_eq_zero_iff.1 (by omega : keys.length = 0)]; rfl
  | succ n ih =>
    unfold slicesFrom
    rw [List.flatten_cons, ih (by rw [List.length_drop]; omega), List.take_append_drop]

theorem flatten_slices (keys : List κ) : (slices keys).flatten = keys :=
  flatten_slicesFrom (by omega)

variable [DecidableEq κ]

/-- The rows of all the slices, each query's rows in table order. -/
def fetched (key : α → κ) (rows : List α) (keys : List κ) : List α :=
  (slices keys).flatMap fun slice => rows.filter fun a => decide (key a ∈ slice)

theorem mem_fetched {key : α → κ} {rows : List α} {keys : List κ} {a : α} :
    a ∈ fetched key rows keys ↔ a ∈ rows ∧ key a ∈ keys := by
  unfold fetched; rw [← flatten_slices keys, List.mem_flatten, flatten_slices]
  simp only [List.mem_flatMap, List.mem_filter, decide_eq_true_eq]; constructor
  · rintro ⟨slice, hslice, ha, hk⟩; exact ⟨ha, slice, hslice, hk⟩
  · rintro ⟨ha, slice, hslice, hk⟩; exact ⟨slice, hslice, ha, hk⟩

theorem fetched_keys_nodup {key : α → κ} {rows : List α} {keys : List κ}
    (hrows : (rows.map key).Nodup) (hkeys : keys.Nodup) :
    ((fetched key rows keys).map key).Nodup := by
  have hflat := flatten_slices keys; unfold fetched
  rw [← hflat, List.nodup_flatten] at hkeys
  rw [List.map_flatMap, List.nodup_flatMap]
  refine ⟨fun slice _ => ?_, hkeys.2.imp fun hdisjoint => ?_⟩
  · exact hrows.sublist (List.filter_sublist.map key)
  intro k hk hk'; obtain ⟨a, ha, rfl⟩ := List.mem_map.1 hk
  obtain ⟨b, hb, hab⟩ := List.mem_map.1 hk'
  refine hdisjoint (of_decide_eq_true (List.mem_filter.1 ha).2) ?_; rw [← hab]
  exact of_decide_eq_true (List.mem_filter.1 hb).2

end Slices

/-! ## Dictionaries -/

section Dicts

variable {α : Type u} {κ : Type v} {β : Type*} [DecidableEq κ]

/-- A dictionary: what is under each key. -/
abbrev Dict (κ : Type v) (β : Type*) := κ → Option β

/-- `d[key] = value`. -/
def Dict.put (d : Dict κ β) (k : κ) (b : β) : Dict κ β := Function.update d k (some b)

@[simp] theorem Dict.put_self (d : Dict κ β) (k : κ) (b : β) : d.put k b k = some b :=
  Function.update_self ..

variable {d : Dict κ β}

theorem Dict.put_of_ne {k k' : κ} {b : β} (h : k' ≠ k) : d.put k b k' = d k' :=
  Function.update_of_ne h ..

/-- `d.update(other)`. -/
def Dict.merge (d other : Dict κ β) : Dict κ β := fun k => (other k).or (d k)

/-- A dictionary filled in a loop over rows. -/
def filled (key : α → κ) (value : α → β) (d : Dict κ β) (rows : List α) : Dict κ β :=
  rows.foldl (fun d a => d.put (key a) (value a)) d

theorem filled_other {key : α → κ} {value : α → β} {rows : List α} {k : κ}
    (h : ∀ a ∈ rows, key a ≠ k) : filled key value d rows k = d k := by
  induction rows generalizing d with
  | nil => rfl
  | cons a rows ih =>
    refine (ih fun b hb => h b (List.mem_cons_of_mem a hb)).trans ?_
    exact Dict.put_of_ne (h a List.mem_cons_self).symm

theorem filled_found {key : α → κ} {value : α → β} {rows : List α} {a : α}
    (ha : a ∈ rows) (h : ∀ b ∈ rows, key b = key a → value b = value a) :
    filled key value d rows (key a) = some (value a) := by
  induction rows generalizing d a with
  | nil => cases ha
  | cons b rows ih =>
    by_cases hlater : ∃ c ∈ rows, key c = key a
    · obtain ⟨c, hc, hkey⟩ := hlater
      have hvalue := h c (List.mem_cons_of_mem b hc) hkey
      have hlast := ih (d := d.put (key b) (value b)) hc fun e he heq =>
        (h e (List.mem_cons_of_mem b he) (heq.trans hkey)).trans hvalue.symm
      rw [hkey, hvalue] at hlast; exact hlast
    · have hab : a = b := by
        rcases List.mem_cons.1 ha with rfl | ha
        · rfl
        · exact absurd ⟨a, ha, rfl⟩ hlater
      subst hab
      have hrest : ∀ c ∈ rows, key c ≠ key a := fun c hc heq => hlater ⟨c, hc, heq⟩
      exact (filled_other hrest).trans (Dict.put_self ..)

end Dicts

end Quantbot.Core
