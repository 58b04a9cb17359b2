import Mathlib.Algebra.BigOperators.Group.List.Basic
import Mathlib.Data.List.Nodup
import Mathlib.Data.List.Sort

/-!
# Keyed tables

A relational table with a primary key: the rows in insertion order, no key
twice. `insert` refuses a key that is present, `modify` rewrites the row of one
key and keeps the key, `upsert` does whichever applies. Each operation has one
lookup lemma (`get?_insert`, `get?_modify`, `get?_upsert`) and one membership
lemma; later proofs use only these.
-/
namespace Quantbot.Core

universe u v w

/-- Rows of type `α` under the primary key `key`. -/
@[ext] structure Table (α : Type u) {κ : Type v} (key : α → κ) where
  rows : List α
  nodup : (rows.map key).Nodup

namespace Table

variable {α : Type u} {κ : Type v} {key : α → κ}

instance [DecidableEq α] : DecidableEq (Table α key) := fun s t =>
  decidable_of_iff (s.rows = t.rows) ⟨Table.ext, congrArg Table.rows⟩

def empty : Table α key := ⟨[], List.nodup_nil⟩

instance : Inhabited (Table α key) := ⟨empty⟩

variable [DecidableEq κ]

def get? (t : Table α key) (k : κ) : Option α := t.rows.find? fun a => decide (key a = k)

variable {t : Table α key} {a b : α} {k : κ}

theorem get?_some (h : t.get? k = some a) : a ∈ t.rows ∧ key a = k :=
  ⟨List.mem_of_find?_eq_some h, by simpa using List.find?_some h⟩

theorem get?_none : t.get? k = none ↔ ∀ a ∈ t.rows, key a ≠ k := by
  simp [get?, List.find?_eq_none]

omit [DecidableEq κ] in
theorem eq_of_key (ha : a ∈ t.rows) (hb : b ∈ t.rows) (h : key a = key b) : a = b :=
  List.inj_on_of_nodup_map t.nodup ha hb h

theorem get?_eq_some : t.get? k = some a ↔ a ∈ t.rows ∧ key a = k := by
  refine ⟨get?_some, fun ⟨hm, hk⟩ => ?_⟩
  cases h : t.get? k with
  | none => exact absurd hk (get?_none.1 h a hm)
  | some b =>
    obtain ⟨hb, hbk⟩ := get?_some h; rw [eq_of_key hm hb (hk.trans hbk.symm)]

@[simp] theorem get?_key : t.get? (key a) = some a ↔ a ∈ t.rows := by
  simp [get?_eq_some]

theorem filter_key_length (h : t.get? k = some a) :
    (t.rows.filter fun b => decide (key b = k)).length = 1 := by
  obtain ⟨ha, rfl⟩ := get?_some h
  have hall : ∀ b ∈ t.rows.filter (fun b => decide (key b = key a)), b = a := by
    intro b hb; obtain ⟨hb, hk⟩ := List.mem_filter.1 hb
    exact eq_of_key hb ha (by simpa using hk)
  have hmem : a ∈ t.rows.filter fun b => decide (key b = key a) := by simp [ha]
  have hnd : (t.rows.filter fun b => decide (key b = key a)).Nodup :=
    List.Nodup.filter _ (List.Nodup.of_map key t.nodup)
  rw [List.eq_replicate_of_mem hall] at hnd hmem ⊢
  rw [List.nodup_replicate] at hnd; have := List.length_pos_of_mem hmem
  simp only [List.length_replicate] at hnd this ⊢; omega

/-! ## Insert -/

/-- Append a row; a row whose key is present changes nothing. -/
def insert (t : Table α key) (a : α) : Table α key :=
  if h : t.get? (key a) = none then
    ⟨t.rows ++ [a], by
      rw [List.map_append, List.nodup_append]
      refine ⟨t.nodup, by simp, fun x hx y hy => ?_⟩
      obtain ⟨b, hb, rfl⟩ := List.mem_map.1 hx
      simp only [List.map_cons, List.map_nil, List.mem_singleton] at hy
      subst hy
      exact get?_none.1 h b hb⟩
  else t

theorem insert_rows (h : t.get? (key a) = none) : (t.insert a).rows = t.rows ++ [a] := by
  simp [insert, h]

theorem mem_insert (h : t.get? (key a) = none) : b ∈ (t.insert a).rows ↔ b ∈ t.rows ∨ b = a := by
  simp [insert_rows h]

theorem get?_insert (h : t.get? (key a) = none) (k : κ) :
    (t.insert a).get? k = if key a = k then some a else t.get? k := by
  by_cases hk : key a = k
  · rw [if_pos hk, get?_eq_some, mem_insert h]; exact ⟨.inr rfl, hk⟩
  · rw [if_neg hk, get?, insert_rows h, List.find?_append]; simp [get?, hk]

theorem mem_insert_of_mem (h : b ∈ t.rows) : b ∈ (t.insert a).rows := by
  unfold insert; split
  · exact List.mem_append_left _ h
  · exact h

theorem get?_kept {t' : Table α key} (h : ∀ r ∈ t.rows, r ∈ t'.rows) (ha : t.get? k = some a) :
    t'.get? k = some a := by
  obtain ⟨hm, rfl⟩ := get?_some ha; exact get?_key.2 (h _ hm)

theorem mem_of_mem_insert (h : b ∈ (t.insert a).rows) : b ∈ t.rows ∨ b = a := by
  unfold insert at h; split at h
  · simpa using h
  · exact .inl h

theorem pairwise_insert {R : α → α → Prop} (ht : t.rows.Pairwise R) (ha : ∀ b ∈ t.rows, R b a) :
    (t.insert a).rows.Pairwise R := by
  unfold insert; split
  · rw [List.pairwise_append]
    refine ⟨ht, List.pairwise_singleton R a, fun b hb c hc => ?_⟩
    rw [List.mem_singleton.1 hc]; exact ha b hb
  · exact ht

theorem insert_present (t : Table α key) (a : α) : ((t.insert a).get? (key a)).isSome := by
  by_cases h : t.get? (key a) = none
  · rw [get?_insert h, if_pos rfl]; rfl
  · rw [insert, dif_neg h]; exact Option.isSome_iff_ne_none.2 h

/-! ## Modify -/

/-- Rewrite the row under `k`, keeping its key. -/
def modify (t : Table α key) (k : κ) (f : α → α) (hf : ∀ a, key a = k → key (f a) = k) :
    Table α key :=
  ⟨t.rows.map fun a => if key a = k then f a else a, by
    have hkeys : (t.rows.map fun a => if key a = k then f a else a).map key = t.rows.map key := by
      rw [List.map_map]
      refine List.map_congr_left fun a _ => ?_
      by_cases h : key a = k
      · simp [h, hf a h]
      · simp [h]
    rw [hkeys]; exact t.nodup⟩

theorem mem_modify {f : α → α} {hf : ∀ a, key a = k → key (f a) = k} : b ∈ (t.modify k f hf).rows ↔
      (b ∈ t.rows ∧ key b ≠ k) ∨ ∃ a, t.get? k = some a ∧ b = f a := by
  simp only [modify, List.mem_map, get?_eq_some]; constructor
  · rintro ⟨a, ha, rfl⟩; by_cases h : key a = k
    · right; exact ⟨a, ⟨ha, h⟩, by simp [h]⟩
    · left; simp [h, ha]
  · rintro (⟨hb, hk⟩ | ⟨a, ⟨ha, hk⟩, rfl⟩)
    · exact ⟨b, hb, by simp [hk]⟩
    · exact ⟨a, ha, by simp [hk]⟩

theorem get?_modify (t : Table α key) (k : κ) (f : α → α) (hf : ∀ a, key a = k → key (f a) = k)
    (k' : κ) : (t.modify k f hf).get? k' = if k' = k then (t.get? k).map f else t.get? k' := by
  by_cases hk : k' = k
  · subst hk; rw [if_pos rfl]
    cases h : t.get? k' with
    | none =>
      rw [Option.map_none, get?_none]; intro b hb
      rcases mem_modify.1 hb with ⟨_, hne⟩ | ⟨a, ha, _⟩
      · exact hne
      · rw [h] at ha; cases ha
    | some a =>
      rw [Option.map_some, get?_eq_some, mem_modify]
      exact ⟨.inr ⟨a, h, rfl⟩, hf a (get?_some h).2⟩
  · rw [if_neg hk]; ext b; rw [get?_eq_some, get?_eq_some, mem_modify]
    constructor
    · rintro ⟨⟨hb, _⟩ | ⟨a, ha, rfl⟩, hb'⟩
      · exact ⟨hb, hb'⟩
      · exact absurd ((hf a (get?_some ha).2).symm.trans hb').symm hk
    · rintro ⟨hb, rfl⟩; exact ⟨.inl ⟨hb, hk⟩, rfl⟩

/-! ## Upsert -/

/-- Insert the row, or replace the row of the same key. -/
def upsert (t : Table α key) (a : α) : Table α key :=
  if t.get? (key a) = none then t.insert a else t.modify (key a) (fun _ => a) fun _ _ => rfl

theorem get?_upsert (t : Table α key) (a : α) (k : κ) :
    (t.upsert a).get? k = if key a = k then some a else t.get? k := by
  unfold upsert; split
  · next h => exact get?_insert h k
  next h =>
  rw [get?_modify]; obtain ⟨b, hb⟩ := Option.ne_none_iff_exists'.1 h
  by_cases hk : key a = k
  · subst hk; simp [hb]
  · rw [if_neg (Ne.symm hk), if_neg hk]

theorem upsert_eq_self (h : a ∈ t.rows) : t.upsert a = t := by
  have ha : t.get? (key a) = some a := get?_key.2 h; unfold upsert
  rw [if_neg (by simp [ha])]; apply Table.ext
  refine (List.map_congr_left fun b hb => ?_).trans (List.map_id _)
  by_cases hk : key b = key a
  · simp [eq_of_key hb h hk]
  · simp [hk]

/-! ## Erase and sort -/

def erase (t : Table α key) (k : κ) : Table α key :=
  ⟨t.rows.filter fun a => decide (key a ≠ k), (List.filter_sublist.map key).nodup t.nodup⟩

theorem get?_erase (t : Table α key) (k k' : κ) :
    (t.erase k).get? k' = if k' = k then none else t.get? k' := by
  by_cases hk : k' = k
  · subst hk; rw [if_pos rfl, get?_none]; intro a ha
    simpa [erase] using (List.mem_filter.1 ha).2
  rw [if_neg hk]; ext a; rw [get?_eq_some, get?_eq_some]
  simp only [erase, List.mem_filter, decide_eq_true_eq]; constructor
  · rintro ⟨⟨ha, _⟩, rfl⟩; exact ⟨ha, rfl⟩
  · rintro ⟨ha, rfl⟩; exact ⟨⟨ha, hk⟩, rfl⟩

def sort (t : Table α key) (r : α → α → Prop) [DecidableRel r] : Table α key :=
  ⟨t.rows.insertionSort r, ((List.perm_insertionSort r t.rows).map key).nodup_iff.2 t.nodup⟩

theorem get?_sort (t : Table α key) (r : α → α → Prop) [DecidableRel r] (k : κ) :
    (t.sort r).get? k = t.get? k := by
  ext a
  rw [get?_eq_some, get?_eq_some, sort, (List.perm_insertionSort r t.rows).mem_iff]

/-! ## Column totals -/

section Total

variable {M : Type*} [AddCommMonoid M]

omit [DecidableEq κ] in
/-- The sum of a column. -/
def total (t : Table α key) (f : α → M) : M := (t.rows.map f).sum

/-- The column's value at a key, zero where the key is absent. -/
def valueAt (t : Table α key) (f : α → M) (k : κ) : M := (t.get? k).elim 0 f

theorem total_split (t : Table α key) (f : α → M) (k : κ) :
    t.total f = (t.erase k).total f + t.valueAt f k := by
  obtain ⟨rows, hn⟩ := t; simp only [total, valueAt, erase, get?]
  induction rows with
  | nil => simp
  | cons a rows ih =>
    rw [List.map_cons, List.nodup_cons] at hn; have ih := ih hn.2
    by_cases hk : key a = k
    · have hrest : rows.filter (fun b => decide (key b ≠ k)) = rows := by
        refine List.filter_eq_self.2 fun b hb => decide_eq_true fun hb' => hn.1 ?_
        exact List.mem_map.2 ⟨b, hb, hb'.trans hk.symm⟩
      simp only [List.filter_cons, hk, ne_eq, not_true_eq_false, decide_false,
        Bool.false_eq_true, if_false, List.map_cons, List.sum_cons, List.find?_cons, decide_true,
        Option.elim_some] at hrest ⊢
      rw [hrest, add_comm]
    · simp only [List.filter_cons, hk, ne_eq, not_false_eq_true, decide_true, if_true,
        List.map_cons, List.sum_cons, List.find?_cons, decide_false] at ih ⊢
      rw [ih, add_assoc]

omit [DecidableEq κ] in
theorem total_sort (t : Table α key) (r : α → α → Prop) [DecidableRel r] (f : α → M) :
    (t.sort r).total f = t.total f :=
  ((List.perm_insertionSort r t.rows).map f).sum_eq

theorem erase_upsert (t : Table α key) (a : α) (f : α → M) :
    ((t.upsert a).erase (key a)).total f = (t.erase (key a)).total f := by
  unfold upsert total erase; split
  · next h => simp [insert_rows h]
  simp only [modify]; congr 1; rw [List.filter_map, List.map_map]
  have hfilter : t.rows.filter
      ((fun b => decide (key b ≠ key a)) ∘ fun b => if key b = key a then a else b) =
      t.rows.filter fun b => decide (key b ≠ key a) := by
    refine List.filter_congr fun b _ => ?_
    by_cases hb : key b = key a <;> simp [hb]
  rw [hfilter]; refine List.map_congr_left fun b hb => ?_
  have hne : key b ≠ key a := by simpa using (List.mem_filter.1 hb).2
  simp [hne]

theorem total_upsert (t : Table α key) (a : α) (f : α → M) :
    (t.upsert a).total f = (t.erase (key a)).total f + f a := by
  rw [total_split _ f (key a), erase_upsert, valueAt, get?_upsert, if_pos rfl, Option.elim_some]

end Total

end Table

/-! ## A second unique column -/

/-- A table whose column `alt` is unique as well. -/
structure UTable (α : Type u) {κ : Type v} {κ' : Type w} (key : α → κ) (alt : α → κ') extends
    Table α key where
  altNodup : (rows.map alt).Nodup

namespace UTable

variable {α : Type u} {κ : Type v} {κ' : Type w} {key : α → κ} {alt : α → κ'}

variable {t : UTable α key alt}

theorem ext' {s : UTable α key alt} (h : s.rows = t.rows) : s = t := by
  obtain ⟨⟨_, _⟩, _⟩ := t; cases h; rfl

instance [DecidableEq α] : DecidableEq (UTable α key alt) := fun s t =>
  decidable_of_iff (s.rows = t.rows) ⟨ext', fun h => h ▸ rfl⟩

def empty : UTable α key alt := ⟨.empty, List.nodup_nil⟩

instance : Inhabited (UTable α key alt) := ⟨empty⟩

variable {a b : α}

theorem eq_of_alt (ha : a ∈ t.rows) (hb : b ∈ t.rows) (h : alt a = alt b) : a = b :=
  List.inj_on_of_nodup_map t.altNodup ha hb h

variable [DecidableEq κ] [DecidableEq κ']

def getAlt? (t : UTable α key alt) (c : κ') : Option α := t.rows.find? fun a => decide (alt a = c)

omit [DecidableEq κ] in
theorem getAlt?_none {t : UTable α key alt} {c : κ'} :
    t.getAlt? c = none ↔ ∀ a ∈ t.rows, alt a ≠ c := by
  simp [getAlt?, List.find?_eq_none]

omit [DecidableEq κ] in
theorem getAlt?_eq_some {t : UTable α key alt} {c : κ'} {a : α} :
    t.getAlt? c = some a ↔ a ∈ t.rows ∧ alt a = c := by
  constructor
  · exact fun h => ⟨List.mem_of_find?_eq_some h, by simpa using List.find?_some h⟩
  rintro ⟨hm, hc⟩
  cases h : t.getAlt? c with
  | none => exact absurd hc (getAlt?_none.1 h a hm)
  | some b =>
    have hb := List.find?_some h
    rw [eq_of_alt (List.mem_of_find?_eq_some h) hm ((by simpa using hb : alt b = c).trans hc.symm)]

/-- Append a row whose key and second column are both new; else change nothing. -/
def insert (t : UTable α key alt) (a : α) : UTable α key alt :=
  if h : t.get? (key a) = none ∧ t.getAlt? (alt a) = none then
    ⟨t.toTable.insert a, by
      rw [Table.insert_rows h.1, List.map_append, List.nodup_append]
      refine ⟨t.altNodup, by simp, fun x hx y hy => ?_⟩
      obtain ⟨b, hb, rfl⟩ := List.mem_map.1 hx
      simp only [List.map_cons, List.map_nil, List.mem_singleton] at hy
      subst hy
      exact getAlt?_none.1 h.2 b hb⟩
  else t

theorem insert_toTable (h : t.get? (key a) = none) (h' : t.getAlt? (alt a) = none) :
    (t.insert a).toTable = t.toTable.insert a := by
  simp [insert, h, h']

theorem getAlt?_insert (h : t.get? (key a) = none) (h' : t.getAlt? (alt a) = none) (c : κ') :
    (t.insert a).getAlt? c = if alt a = c then some a else t.getAlt? c := by
  have hrows : (t.insert a).rows = t.rows ++ [a] := by
    rw [insert_toTable h h', Table.insert_rows h]
  by_cases hc : alt a = c
  · rw [if_pos hc, getAlt?_eq_some, hrows]; exact ⟨by simp, hc⟩
  · rw [if_neg hc, getAlt?, hrows, List.find?_append]; simp [getAlt?, hc]

/-- Rewrite the row under `k`, keeping its key and second column. -/
def modify (t : UTable α key alt) (k : κ) (f : α → α) (hf : ∀ a, key a = k → key (f a) = k)
    (hf' : ∀ a, alt (f a) = alt a) : UTable α key alt :=
  ⟨t.toTable.modify k f hf, by
    have hcol : (t.toTable.modify k f hf).rows.map alt = t.rows.map alt := by
      simp only [Table.modify, List.map_map]
      refine List.map_congr_left fun a _ => ?_
      by_cases h : key a = k <;> simp [h, hf']
    rw [hcol]; exact t.altNodup⟩

omit [DecidableEq κ'] in
/-- Replace the row that agrees on both columns; else change nothing. -/
def replace (t : UTable α key alt) (a : α) : UTable α key alt :=
  if h : ∃ b, t.get? (key a) = some b ∧ alt b = alt a then
    ⟨t.toTable.upsert a, by
      obtain ⟨b, hb, hba⟩ := h
      have hcol : (t.toTable.upsert a).rows.map alt = t.rows.map alt := by
        unfold Table.upsert
        rw [if_neg (by simp [hb])]
        simp only [Table.modify, List.map_map]
        refine List.map_congr_left fun c hc => ?_
        by_cases hk : key c = key a
        · have hcb : c = b := Table.eq_of_key hc (Table.get?_some hb).1
            (hk.trans (Table.get?_some hb).2.symm)
          subst hcb
          simp [hk, hba]
        · simp [hk]
      rw [hcol]; exact t.altNodup⟩
  else t

theorem replace_toTable (h : t.get? (key a) = some b) (h' : alt b = alt a) :
    (t.replace a).toTable = t.toTable.upsert a := by
  unfold replace; rw [dif_pos ⟨b, h, h'⟩]

theorem getAlt?_replace (h : t.get? (key a) = some b) (h' : alt b = alt a) (c : κ') :
    (t.replace a).getAlt? c = if alt a = c then some a else t.getAlt? c := by
  have hmem : ∀ r, r ∈ (t.replace a).rows ↔ (if key a = key r then some a else t.get? (key r)) = some r := by
    intro r; rw [← Table.get?_upsert, ← replace_toTable h h', Table.get?_key]
  by_cases hc : alt a = c
  · rw [if_pos hc, getAlt?_eq_some, hmem, if_pos rfl]; exact ⟨rfl, hc⟩
  rw [if_neg hc]; refine Option.ext fun r => ?_
  rw [getAlt?_eq_some, getAlt?_eq_some, hmem]
  refine and_congr_left fun hr => ?_; by_cases hk : key a = key r
  · rw [if_pos hk]; constructor
    · intro heq; cases heq; exact absurd hr hc
    · intro hin; have hb : t.get? (key r) = some b := hk ▸ h
      rw [Table.get?_key.2 hin] at hb; cases hb
      exact absurd (h'.symm.trans hr) hc
  · rw [if_neg hk, Table.get?_key]

theorem replace_eq_self (h : a ∈ t.rows) : t.replace a = t := by
  apply ext'
  rw [replace_toTable (Table.get?_key.2 h) rfl, Table.upsert_eq_self h]

end UTable

end Quantbot.Core
