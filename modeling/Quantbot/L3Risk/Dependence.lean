import Quantbot.Core.DecimalOrder
import Quantbot.L1Domain.Models
import Mathlib.Data.Finset.Prod
import Mathlib.Data.List.Sort
import Mathlib.Data.String.Basic

/-!
# Clusters of co-moving instruments

`risk/dependence.py` and the correlation veto of `risk/vetoes.py`. Symbols are placed in
alphabetical order, each in the first cluster all of whose members it clears the threshold
with.

* `clusters_perm`, `clusters_pair`: the clusters partition the symbols, and every pair inside
  one has a coefficient at or above the threshold;
* `committed_le`, `correlation_veto_refuses`: more positions never lower the value committed
  or lift a refusal, while the order's cluster keeps its members;
* `cluster_kept`: it keeps them when the new symbols sort after those measured before.

`captured_member`: a symbol that sorts earlier can take a member out of the cluster.
-/
namespace Quantbot.L3.Risk

open Core L1

/-! ## Snapshots -/

/-- The symbols the pairs name. -/
def pairSymbols (coefficients : List ((String × String) × ℚ)) : Finset String :=
  (coefficients.flatMap fun e => [e.1.1, e.1.2]).toFinset

/-- mirrors dependence.py:115-183 -/
structure DependenceSnapshot where
  identity : String
  coefficients : List ((String × String) × ℚ)
  keys_nodup : (coefficients.map Prod.fst).Nodup
  sorted : ∀ e ∈ coefficients, e.1.1 ≠ "" ∧ e.1.1 < e.1.2
  complete : coefficients.length =
    (pairSymbols coefficients).card * ((pairSymbols coefficients).card - 1) / 2

namespace DependenceSnapshot
variable (snapshot : DependenceSnapshot)

/-- mirrors dependence.py:185-192 -/
def symbols : Finset String := pairSymbols snapshot.coefficients

/-- mirrors dependence.py:222-231 -/
def coefficient (left right : String) : Option ℚ :=
  if left = right then some 1
  else
    let key := if left < right then (left, right) else (right, left)
    (snapshot.coefficients.find? fun e => e.1 = key).map Prod.snd

/-- `(coefficient or Decimal("-1")) >= threshold`: a coefficient of zero counts as minus
one. -/
def clears (threshold : ℚ) (symbol member : String) : Bool :=
  threshold ≤ match snapshot.coefficient symbol member with
    | some c => if c = 0 then -1 else c
    | none => -1

end DependenceSnapshot

/-- `sorted(set(symbols))`. -/
def sortedSet (symbols : List String) : List String := symbols.dedup.insertionSort (· ≤ ·)

/-- Into the first cluster that accepts the symbol, or into one of its own. -/
def place (accepts : String → String → Bool) : List (List String) → String → List (List String)
  | [], symbol => [[symbol]]
  | cluster :: rest, symbol =>
    if cluster.all (accepts symbol) then (cluster ++ [symbol]) :: rest
    else cluster :: place accepts rest symbol

/-- mirrors dependence.py:233-251 -/
def DependenceSnapshot.clusters (snapshot : DependenceSnapshot) (symbols : List String)
    (threshold : ℚ) : List (List String) :=
  (sortedSet symbols).foldl (place (snapshot.clears threshold)) []

/-! ## The state and the veto -/

/-- mirrors dependence.py:333-353 -/
structure DependenceState where
  snapshotIdentity : String
  threshold : ℚ
  orderCluster : Option (List String)
  committedInCluster : ℚ
  unmeasured : List String
deriving DecidableEq, Repr

section State
variable (snapshot : DependenceSnapshot) (symbol : String) (positions : List Position)
  (threshold : ℚ)

/-- `sorted(held | {symbol})`. -/
def book : List String := sortedSet (symbol :: positions.map (·.symbol))

/-- The book's symbols the snapshot has measured. -/
def measuredBook : List String := (book symbol positions).filter (· ∈ snapshot.symbols)

/-- What the positions in a cluster are worth. -/
def committedIn (cluster : List String) : ℚ :=
  Decimal.sum ((positions.filter (·.symbol ∈ cluster)).map fun p => Decimal.round |p.marketValue|)

/-- mirrors dependence.py:356-396 -/
def buildDependenceState : DependenceState :=
  let unmeasured := (book symbol positions).filter fun name =>
    name ∉ snapshot.symbols ∧ name ≠ symbol
  if symbol ∉ snapshot.symbols then
    ⟨snapshot.identity, threshold, none, 0, sortedSet (symbol :: unmeasured)⟩
  else
    let cluster := (snapshot.clusters (measuredBook snapshot symbol positions) threshold).find?
      (symbol ∈ ·)
    ⟨snapshot.identity, threshold, cluster, committedIn positions (cluster.getD []), unmeasured⟩

end State

/-- Why the veto refuses. -/
inductive CorrelationRefusal
  | snapshotMissing
  | unmeasured (symbols : List String)
  | clusterUnknown
  | priceUnavailable
  | concentrated (projected ceiling : ℚ)
deriving DecidableEq, Repr

/-- mirrors vetoes.py:709-766 -/
def correlationConcentration (dependence : Option DependenceState) (equity : ℚ)
    (orderNetExposure : Option ℚ) (maxCorrelatedClusterBps : ℕ) : Option CorrelationRefusal :=
  match dependence with
  | none => some .snapshotMissing
  | some state =>
    if state.unmeasured ≠ [] then some (.unmeasured state.unmeasured)
    else match state.orderCluster with
      | none => some .clusterUnknown
      | some _ => match orderNetExposure with
        | none => some .priceUnavailable
        | some exposure =>
          let projected := Decimal.add state.committedInCluster (Decimal.round |exposure|)
          let ceiling := Decimal.div (Decimal.mul equity maxCorrelatedClusterBps) 10000
          if ceiling < projected then some (.concentrated projected ceiling) else none

/-! ## Sorted sets -/

variable {symbols : List String} {s : String}

theorem mem_sortedSet : s ∈ sortedSet symbols ↔ s ∈ symbols := by
  unfold sortedSet; rw [List.mem_insertionSort, List.mem_dedup]

theorem sortedSet_nodup (symbols : List String) : (sortedSet symbols).Nodup :=
  (List.perm_insertionSort _ _).nodup_iff.2 symbols.nodup_dedup

theorem sortedSet_sorted (symbols : List String) : (sortedSet symbols).Pairwise (· ≤ ·) :=
  List.pairwise_insertionSort _ _

/-- A sorted list without repetitions is the sorted set of anything with its members. -/
theorem sortedSet_eq {symbols l : List String} (hsorted : l.Pairwise (· ≤ ·)) (hnodup : l.Nodup)
    (hmem : ∀ s, s ∈ symbols ↔ s ∈ l) : sortedSet symbols = l := by
  have hperm : (sortedSet symbols).Perm l :=
    (List.perm_ext_iff_of_nodup (sortedSet_nodup symbols) hnodup).2 fun s =>
      mem_sortedSet.trans (hmem s)
  exact hperm.eq_of_pairwise (fun _ _ _ _ => le_antisymm) (sortedSet_sorted symbols) hsorted

/-! ## Clusters -/

section Clusters
variable {snapshot : DependenceSnapshot} {threshold : ℚ}

theorem place_perm (accepts : String → String → Bool) (clusters : List (List String))
    (symbol : String) : (place accepts clusters symbol).flatten.Perm (symbol :: clusters.flatten) := by
  induction clusters with
  | nil => exact .refl _
  | cons cluster rest ih =>
    unfold place; split
    · rw [List.flatten_cons, List.flatten_cons, List.append_assoc]
      exact List.perm_middle
    · rw [List.flatten_cons, List.flatten_cons]
      exact (ih.append_left cluster).trans List.perm_middle

theorem foldl_place_perm (accepts : String → String → Bool) (symbols : List String)
    (clusters : List (List String)) :
    (symbols.foldl (place accepts) clusters).flatten.Perm (clusters.flatten ++ symbols) := by
  induction symbols generalizing clusters with
  | nil => rw [List.append_nil]; exact .refl _
  | cons s rest ih =>
    refine (ih _).trans (((place_perm accepts clusters s).append_right rest).trans ?_)
    exact List.perm_middle.symm

/-- **A partition.** -/
theorem clusters_perm (snapshot : DependenceSnapshot) (symbols : List String) (threshold : ℚ) :
    (snapshot.clusters symbols threshold).flatten.Perm (sortedSet symbols) :=
  foldl_place_perm _ (sortedSet symbols) []

variable {clusters : List (List String)} {P : List String → Prop}

/-- What holds of a first member and survives an accepted one holds of every cluster. -/
theorem place_forall {accepts : String → String → Bool}
    (hone : ∀ s, P [s]) (hmore : ∀ c s, P c → c.all (accepts s) = true → P (c ++ [s]))
    (h : ∀ c ∈ clusters, P c) (symbol : String) : ∀ c ∈ place accepts clusters symbol, P c := by
  induction clusters with
  | nil =>
    intro c hc; rw [List.mem_singleton.1 hc]; exact hone symbol
  | cons cluster rest ih =>
    obtain ⟨hcluster, hrest⟩ := List.forall_mem_cons.1 h; unfold place; split
    · rename_i hall
      exact List.forall_mem_cons.2 ⟨hmore _ _ hcluster hall, hrest⟩
    · exact List.forall_mem_cons.2 ⟨hcluster, ih hrest⟩

theorem clusters_forall (hone : ∀ s, P [s])
    (hmore : ∀ c s, P c → c.all (snapshot.clears threshold s) = true → P (c ++ [s]))
    (symbols : List String) : ∀ c ∈ snapshot.clusters symbols threshold, P c := by
  unfold DependenceSnapshot.clusters
  have hstart : ∀ c ∈ ([] : List (List String)), P c := fun c hc => nomatch hc
  generalize sortedSet symbols = l at *
  generalize ([] : List (List String)) = clusters at hstart
  induction l generalizing clusters with
  | nil => exact hstart
  | cons s l ih => exact ih _ (place_forall hone hmore hstart s)

theorem coefficient_comm (left right : String) :
    snapshot.coefficient left right = snapshot.coefficient right left := by
  unfold DependenceSnapshot.coefficient
  rcases lt_trichotomy left right with h | rfl | h
  · simp [h, h.ne, h.ne', not_lt.2 h.le]
  · rfl
  · simp [h, h.ne, h.ne', not_lt.2 h.le]

theorem two_mul_card_increasing (s : Finset String) :
    2 * ((s ×ˢ s).filter fun p => p.1 < p.2).card = s.card * (s.card - 1) := by
  have hswap : ((s ×ˢ s).filter fun p => p.2 < p.1).card =
      ((s ×ˢ s).filter fun p => p.1 < p.2).card := by
    refine Finset.card_bij (fun p _ => p.swap) ?_ ?_ ?_
    · intro p hp; simpa [and_comm, and_assoc, and_left_comm] using hp
    · intro p _ q _ h; exact Prod.swap_injective h
    · intro p hp
      exact ⟨p.swap, by simpa [and_comm, and_assoc, and_left_comm] using hp, by simp⟩
  have hunion : s.offDiag = ((s ×ˢ s).filter fun p => p.1 < p.2) ∪
      ((s ×ˢ s).filter fun p => p.2 < p.1) := by
    ext p
    simp only [Finset.mem_offDiag, Finset.mem_union, Finset.mem_filter, Finset.mem_product]
    constructor
    · rintro ⟨h1, h2, hne⟩
      exact (lt_or_gt_of_ne hne).imp (fun h => ⟨⟨h1, h2⟩, h⟩) (fun h => ⟨⟨h1, h2⟩, h⟩)
    · rintro (⟨⟨h1, h2⟩, h⟩ | ⟨⟨h1, h2⟩, h⟩)
      · exact ⟨h1, h2, h.ne⟩
      · exact ⟨h1, h2, h.ne'⟩
  have hdisjoint : Disjoint ((s ×ˢ s).filter fun p => p.1 < p.2)
      ((s ×ˢ s).filter fun p => p.2 < p.1) := by
    rw [Finset.disjoint_filter]; exact fun p _ h h' => lt_asymm h h'
  have hcard := Finset.offDiag_card s
  rw [hunion, Finset.card_union_of_disjoint hdisjoint, hswap] at hcard
  rw [Nat.mul_sub, mul_one]; omega

theorem coefficient_isSome {left right : String} (hleft : left ∈ snapshot.symbols)
    (hright : right ∈ snapshot.symbols) : ∃ c, snapshot.coefficient left right = some c := by
  wlog hlt : left < right generalizing left right
  · rcases (not_lt.1 hlt).lt_or_eq with h | rfl
    · rw [coefficient_comm]; exact this hright hleft h
    · exact ⟨1, if_pos rfl⟩
  have hsub : (snapshot.coefficients.map Prod.fst).toFinset ⊆
      (snapshot.symbols ×ˢ snapshot.symbols).filter fun p => p.1 < p.2 := by
    intro p hp; obtain ⟨e, he, rfl⟩ := List.mem_map.1 (List.mem_toFinset.1 hp)
    have hin : ∀ s ∈ [e.1.1, e.1.2], s ∈ snapshot.symbols := fun s hs =>
      List.mem_toFinset.2 (List.mem_flatMap.2 ⟨e, he, hs⟩)
    exact Finset.mem_filter.2 ⟨Finset.mem_product.2 ⟨hin _ (by simp), hin _ (by simp)⟩,
      (snapshot.sorted e he).2⟩
  have hcard : ((snapshot.symbols ×ˢ snapshot.symbols).filter fun p => p.1 < p.2).card ≤
      (snapshot.coefficients.map Prod.fst).toFinset.card := by
    have htwo := two_mul_card_increasing snapshot.symbols
    have hcomplete := snapshot.complete
    change _ = snapshot.symbols.card * (snapshot.symbols.card - 1) / 2 at hcomplete
    rw [List.toFinset_card_of_nodup snapshot.keys_nodup, List.length_map, hcomplete]
    omega
  have hmem : (left, right) ∈ (snapshot.coefficients.map Prod.fst).toFinset := by
    rw [Finset.eq_of_subset_of_card_le hsub hcard]
    exact Finset.mem_filter.2 ⟨Finset.mem_product.2 ⟨hleft, hright⟩, hlt⟩
  obtain ⟨e, he, hkey⟩ := List.mem_map.1 (List.mem_toFinset.1 hmem)
  unfold DependenceSnapshot.coefficient; rw [if_neg hlt.ne, if_pos hlt]
  have hsome : (snapshot.coefficients.find? fun e => e.1 = (left, right)).isSome = true :=
    List.find?_isSome.2 ⟨e, he, decide_eq_true hkey⟩
  obtain ⟨f, hf⟩ := Option.isSome_iff_exists.1 hsome; dsimp only
  exact ⟨f.2, by rw [hf]; rfl⟩

variable {cluster : List String}

/-- **Every pair of a cluster clears the threshold.** -/
theorem clusters_pair (hmeasured : ∀ s ∈ symbols, s ∈ snapshot.symbols)
    (hcluster : cluster ∈ snapshot.clusters symbols threshold) {a b : String} (ha : a ∈ cluster)
    (hb : b ∈ cluster) (hne : a ≠ b) : ∃ c, snapshot.coefficient a b = some c ∧ threshold ≤ c := by
  have hpair : ∀ c ∈ snapshot.clusters symbols threshold,
      c.Pairwise fun x y => snapshot.clears threshold y x = true := by
    refine clusters_forall (fun s => List.pairwise_singleton _ s) ?_ symbols
    intro c s hc hall
    refine List.pairwise_append.2 ⟨hc, List.pairwise_singleton _ s, fun x hx y hy => ?_⟩
    rw [List.mem_singleton.1 hy]; exact List.all_eq_true.1 hall x hx
  have hin : ∀ s ∈ cluster, s ∈ snapshot.symbols := by
    intro s hs
    have hflat := (clusters_perm snapshot symbols threshold).mem_iff.1
      (List.mem_flatten.2 ⟨cluster, hcluster, hs⟩)
    exact hmeasured s (mem_sortedSet.1 hflat)
  have hsymm : Std.Symm fun x y => snapshot.clears threshold y x = true :=
    ⟨fun x y h => by
      unfold DependenceSnapshot.clears at h ⊢; rwa [coefficient_comm]⟩
  have hclears := (hpair cluster hcluster).forall ha hb hne
  obtain ⟨c, hc⟩ := coefficient_isSome (hin a ha) (hin b hb); refine ⟨c, hc, ?_⟩
  unfold DependenceSnapshot.clears at hclears
  rw [coefficient_comm, hc] at hclears; have hle := of_decide_eq_true hclears
  dsimp only at hle; split at hle
  · rename_i hzero; linarith
  · exact hle

theorem place_grows (accepts : String → String → Bool) (h : cluster ∈ clusters) (symbol : String) :
    ∃ grown ∈ place accepts clusters symbol, cluster ⊆ grown := by
  induction clusters with
  | nil => cases h
  | cons first rest ih =>
    unfold place; split
    · rcases List.mem_cons.1 h with rfl | h
      · exact ⟨_, List.mem_cons_self, List.subset_append_left _ _⟩
      · exact ⟨cluster, List.mem_cons_of_mem _ h, fun _ => id⟩
    · rcases List.mem_cons.1 h with rfl | h
      · exact ⟨_, List.mem_cons_self, fun _ => id⟩
      · obtain ⟨grown, hgrown, hsub⟩ := ih h
        exact ⟨grown, List.mem_cons_of_mem _ hgrown, hsub⟩

theorem foldl_place_grows (accepts : String → String → Bool) (symbols : List String)
    (h : cluster ∈ clusters) :
    ∃ grown ∈ symbols.foldl (place accepts) clusters, cluster ⊆ grown := by
  induction symbols generalizing clusters cluster with
  | nil => exact ⟨cluster, h, fun _ => id⟩
  | cons s rest ih =>
    obtain ⟨grown, hgrown, hsub⟩ := place_grows accepts h s
    obtain ⟨grown', hgrown', hsub'⟩ := ih hgrown
    exact ⟨grown', hgrown', fun _ hs => hsub' (hsub hs)⟩

theorem cluster_unique {c c' : List String}
    (hc : c ∈ snapshot.clusters symbols threshold) (hc' : c' ∈ snapshot.clusters symbols threshold)
    (hs : s ∈ c) (hs' : s ∈ c') : c = c' := by
  have hnodup := (clusters_perm snapshot symbols threshold).nodup_iff.2 (sortedSet_nodup symbols)
  by_contra hne; have hdisjoint := (List.nodup_flatten.1 hnodup).2
  have : Std.Symm (List.Disjoint (α := String)) := ⟨fun _ _ h => h.symm⟩
  exact hdisjoint.forall hc hc' hne hs hs'

end Clusters

/-! ## More positions -/

section More
variable {snapshot : DependenceSnapshot} {symbol : String} {positions positions' : List Position}
  {threshold : ℚ}

/-- The order's cluster keeps its members. -/
def Kept (snapshot : DependenceSnapshot) (symbol : String) (threshold : ℚ)
    (positions positions' : List Position) : Prop :=
  ∀ cluster, (buildDependenceState snapshot symbol positions threshold).orderCluster =
      some cluster →
    ∃ cluster', (buildDependenceState snapshot symbol positions' threshold).orderCluster =
      some cluster' ∧ cluster ⊆ cluster'

theorem orderCluster_eq (positions : List Position) (threshold : ℚ)
    (hsymbol : symbol ∈ snapshot.symbols) :
    ∃ cluster ∈ snapshot.clusters (measuredBook snapshot symbol positions) threshold,
      symbol ∈ cluster ∧
        (buildDependenceState snapshot symbol positions threshold).orderCluster = some cluster := by
  have hbook : symbol ∈ measuredBook snapshot symbol positions :=
    List.mem_filter.2 ⟨mem_sortedSet.2 List.mem_cons_self, by simpa using hsymbol⟩
  obtain ⟨c, hc, hin⟩ := List.mem_flatten.1 ((clusters_perm snapshot _ threshold).mem_iff.2
    (mem_sortedSet.2 hbook))
  have hsome : ((snapshot.clusters (measuredBook snapshot symbol positions) threshold).find?
      (symbol ∈ ·)).isSome = true := List.find?_isSome.2 ⟨c, hc, by simpa using hin⟩
  obtain ⟨cluster, hcluster⟩ := Option.isSome_iff_exists.1 hsome
  refine ⟨cluster, List.mem_of_find?_eq_some hcluster, ?_, ?_⟩
  · simpa using List.find?_some hcluster
  unfold buildDependenceState; rw [if_neg (not_not.2 hsymbol)]; exact hcluster

/-- The new symbols of the longer book sort after the measured ones of the shorter. -/
def SortsAfter (snapshot : DependenceSnapshot) (symbol : String)
    (positions positions' : List Position) : Prop :=
  ∀ p ∈ positions', p.symbol ∈ snapshot.symbols →
    p.symbol ∈ measuredBook snapshot symbol positions ∨
      ∀ s ∈ measuredBook snapshot symbol positions, s < p.symbol

theorem mem_measuredBook : s ∈ measuredBook snapshot symbol positions ↔
    (s = symbol ∨ ∃ p ∈ positions, p.symbol = s) ∧ s ∈ snapshot.symbols := by
  unfold measuredBook book
  rw [List.mem_filter, mem_sortedSet, List.mem_cons, List.mem_map, decide_eq_true_iff]

theorem measuredBook_sorted (snapshot : DependenceSnapshot) (symbol : String)
    (positions : List Position) : (measuredBook snapshot symbol positions).Pairwise (· ≤ ·) ∧
      (measuredBook snapshot symbol positions).Nodup :=
  ⟨(sortedSet_sorted _).filter _, (sortedSet_nodup _).filter _⟩

/-- **Later symbols displace nobody.** -/
theorem cluster_kept (h : positions.Sublist positions')
    (hafter : SortsAfter snapshot symbol positions positions') :
    Kept snapshot symbol threshold positions positions' := by
  intro cluster hstate; by_cases hsymbol : symbol ∈ snapshot.symbols
  · obtain ⟨c, hc, hin, hc'⟩ := orderCluster_eq positions threshold hsymbol
    obtain rfl := Option.some.inj (hc'.symm.trans hstate)
    obtain ⟨grown, hgrown, hin', hstate'⟩ := orderCluster_eq positions' threshold hsymbol
    refine ⟨grown, hstate', ?_⟩
    obtain ⟨hsorted, hnodup⟩ := measuredBook_sorted snapshot symbol positions
    obtain ⟨hsorted', hnodup'⟩ := measuredBook_sorted snapshot symbol positions'
    have hsplit : sortedSet (measuredBook snapshot symbol positions') =
        measuredBook snapshot symbol positions ++ (measuredBook snapshot symbol positions').filter
          (· ∉ measuredBook snapshot symbol positions) := by
      refine sortedSet_eq ?_ ?_ fun s => ?_
      · refine List.pairwise_append.2 ⟨hsorted, hsorted'.filter _, fun a ha b hb => ?_⟩
        obtain ⟨hb, hnot⟩ := List.mem_filter.1 hb
        obtain ⟨rfl | ⟨p, hp, rfl⟩, hmeasured⟩ := mem_measuredBook.1 hb
        · exact absurd (mem_measuredBook.2 ⟨.inl rfl, hmeasured⟩) (by simpa using hnot)
        · exact ((hafter p hp hmeasured).resolve_left (by simpa using hnot) a ha).le
      · refine List.nodup_append.2 ⟨hnodup, hnodup'.filter _, ?_⟩
        rintro a ha b hb rfl
        exact absurd ha (by simpa using (List.mem_filter.1 hb).2)
      · rw [List.mem_append, List.mem_filter]; constructor
        · intro hs; by_cases hold : s ∈ measuredBook snapshot symbol positions
          · exact .inl hold
          · exact .inr ⟨hs, by simpa using hold⟩
        · rintro (hs | ⟨hs, -⟩)
          · obtain ⟨hwhere, hmeasured⟩ := mem_measuredBook.1 hs
            exact mem_measuredBook.2 ⟨hwhere.imp_right fun ⟨p, hp, heq⟩ => ⟨p, h.subset hp, heq⟩,
              hmeasured⟩
          · exact hs
    have hlonger : snapshot.clusters (measuredBook snapshot symbol positions') threshold =
        ((measuredBook snapshot symbol positions').filter
          (· ∉ measuredBook snapshot symbol positions)).foldl (place (snapshot.clears threshold))
            (snapshot.clusters (measuredBook snapshot symbol positions) threshold) := by
      unfold DependenceSnapshot.clusters
      rw [hsplit, List.foldl_append, sortedSet_eq hsorted hnodup fun _ => Iff.rfl]
    obtain ⟨grown', hmem, hsub⟩ := foldl_place_grows (snapshot.clears threshold)
      ((measuredBook snapshot symbol positions').filter
        (· ∉ measuredBook snapshot symbol positions)) hc
    rw [← hlonger] at hmem
    obtain rfl := cluster_unique hgrown hmem hin' (hsub hin); exact hsub
  · unfold buildDependenceState at hstate; rw [if_pos hsymbol] at hstate
    cases hstate

theorem committedIn_le (h : positions.Sublist positions') {cluster cluster' : List String}
    (hsub : cluster ⊆ cluster') :
    committedIn positions cluster ≤ committedIn positions' cluster' := by
  have hfilter : (positions.filter (·.symbol ∈ cluster)).Sublist
      (positions'.filter (·.symbol ∈ cluster')) := by
    refine (h.filter _).trans ?_
    exact List.monotone_filter_right _ fun p hp => by simpa using hsub (by simpa using hp)
  refine Decimal.sum_sublist (hfilter.map _) ?_; intro v hv
  obtain ⟨p, -, rfl⟩ := List.mem_map.1 hv
  exact Decimal.round_nonneg (abs_nonneg _)

theorem committedIn_nonneg (positions : List Position) (cluster : List String) :
    0 ≤ committedIn positions cluster :=
  (committedIn_le (List.nil_sublist positions) (List.Subset.refl cluster)).trans' le_rfl

section

variable (h : positions.Sublist positions')
include h

/-- **More is not less**, while the cluster keeps its members. -/
theorem committed_le (hkept : Kept snapshot symbol threshold positions positions') :
    (buildDependenceState snapshot symbol positions threshold).committedInCluster ≤
      (buildDependenceState snapshot symbol positions' threshold).committedInCluster := by
  unfold Kept at hkept; unfold buildDependenceState at hkept ⊢
  by_cases hsymbol : symbol ∉ snapshot.symbols
  · simp only [hsymbol, not_false_iff, if_true, le_refl]
  simp only [hsymbol, if_false] at hkept ⊢
  cases hcluster : (snapshot.clusters (measuredBook snapshot symbol positions) threshold).find?
      (symbol ∈ ·) with
  | none =>
    have hnil : committedIn positions ((none : Option (List String)).getD []) = 0 := by
      unfold committedIn; simp [Decimal.sum]
    rw [hnil]; exact committedIn_nonneg _ _
  | some cluster =>
    obtain ⟨cluster', hcluster', hsub⟩ := hkept cluster hcluster; rw [hcluster']
    exact committedIn_le h hsub

theorem unmeasured_ne_nil
    (hun : (buildDependenceState snapshot symbol positions threshold).unmeasured ≠ []) :
    (buildDependenceState snapshot symbol positions' threshold).unmeasured ≠ [] := by
  unfold buildDependenceState at hun ⊢
  by_cases hsymbol : symbol ∉ snapshot.symbols
  · simp only [hsymbol, not_false_iff, if_true]
    exact List.ne_nil_of_mem (mem_sortedSet.2 List.mem_cons_self)
  simp only [hsymbol, if_false] at hun ⊢
  obtain ⟨name, hname⟩ := List.exists_mem_of_ne_nil _ hun
  obtain ⟨hbook, hnot⟩ := List.mem_filter.1 hname
  refine List.ne_nil_of_mem (List.mem_filter.2 ⟨mem_sortedSet.2 ?_, hnot⟩)
  exact List.cons_subset_cons _ (List.map_subset _ h.subset) (mem_sortedSet.1 hbook)

/-- **A refusal stays**, while the cluster keeps its members. -/
theorem correlation_veto_refuses
    (hkept : Kept snapshot symbol threshold positions positions') {equity : ℚ}
    {orderNetExposure : Option ℚ} {bps : ℕ}
    (hrefused : correlationConcentration (some (buildDependenceState snapshot symbol positions
      threshold)) equity orderNetExposure bps ≠ none) :
    correlationConcentration (some (buildDependenceState snapshot symbol positions' threshold))
      equity orderNetExposure bps ≠ none := by
  have hle := committed_le h hkept
  have hnonneg : 0 ≤ (buildDependenceState snapshot symbol positions
      threshold).committedInCluster := by
    unfold buildDependenceState; split
    · exact le_rfl
    · exact committedIn_nonneg _ _
  unfold correlationConcentration at hrefused ⊢; dsimp only at hrefused ⊢; split
  · simp
  rename_i hun'
  have hun : ¬ (buildDependenceState snapshot symbol positions threshold).unmeasured ≠ [] :=
    fun hun => hun' (unmeasured_ne_nil h hun)
  rw [if_neg hun] at hrefused; split
  · simp
  split
  · simp
  rename_i exposure; split
  · simp
  rename_i cluster' hcluster' hceiling
  cases hcluster : (buildDependenceState snapshot symbol positions
      threshold).orderCluster with
  | none =>
    by_cases hsymbol : symbol ∈ snapshot.symbols
    · obtain ⟨c, -, -, hc⟩ := orderCluster_eq positions threshold hsymbol
      rw [hcluster] at hc; cases hc
    · refine absurd ?_ hun; unfold buildDependenceState; rw [if_pos hsymbol]
      exact List.ne_nil_of_mem (mem_sortedSet.2 List.mem_cons_self)
  | some cluster =>
    rw [hcluster] at hrefused; dsimp only at hrefused; refine absurd ?_ hrefused
    rw [if_neg]; refine fun hlt => hceiling (hlt.trans_le ?_)
    refine Decimal.round_mono ?_ ?_
    · have := Decimal.round_nonneg (abs_nonneg exposure); linarith
    · linarith

end

end More

/-- **Clusters and the veto.** The clusters partition the symbols and every pair of one clears
the threshold; more positions never lower the committed value or lift a refusal while the
order's cluster keeps its members, and later symbols displace none. -/
theorem correlation_clusters (snapshot : DependenceSnapshot) (threshold : ℚ) :
    (∀ symbols, (snapshot.clusters symbols threshold).flatten.Perm (sortedSet symbols) ∧
      ((∀ s ∈ symbols, s ∈ snapshot.symbols) → ∀ cluster ∈ snapshot.clusters symbols threshold,
        ∀ a ∈ cluster, ∀ b ∈ cluster, a ≠ b →
          ∃ c, snapshot.coefficient a b = some c ∧ threshold ≤ c)) ∧
    ∀ symbol positions positions', positions.Sublist positions' →
      (SortsAfter snapshot symbol positions positions' →
        Kept snapshot symbol threshold positions positions') ∧
      (Kept snapshot symbol threshold positions positions' →
        (buildDependenceState snapshot symbol positions threshold).committedInCluster ≤
          (buildDependenceState snapshot symbol positions' threshold).committedInCluster ∧
        ∀ equity orderNetExposure bps,
          correlationConcentration (some (buildDependenceState snapshot symbol positions
            threshold)) equity orderNetExposure bps ≠ none →
          correlationConcentration (some (buildDependenceState snapshot symbol positions'
            threshold)) equity orderNetExposure bps ≠ none) :=
  ⟨fun symbols => ⟨clusters_perm snapshot symbols threshold,
      fun hmeasured _ hcluster _ ha _ hb hne => clusters_pair hmeasured hcluster ha hb hne⟩,
    fun _ _ _ h => ⟨cluster_kept h, fun hkept =>
      ⟨committed_le h hkept, fun _ _ _ => correlation_veto_refuses h hkept⟩⟩⟩

/-- `A` and `B` move together, and so do `B` and `C`, but not `A` and `C`. -/
def chained : DependenceSnapshot where
  identity := "dependence-v1"
  coefficients := [(("A", "B"), 95 / 100), (("A", "C"), 1 / 10), (("B", "C"), 95 / 100)]
  keys_nodup := by decide
  sorted := by decide
  complete := by decide

/-- One share. -/
def holding (symbol : String) (price : ℚ) (h : 0 < price) : Position :=
  ⟨symbol, 1, price, price, price, h, h⟩

/-- Another 5 of `B` keep an order for `C` refused. -/
theorem correlation_clusters_more : correlationConcentration (some (buildDependenceState chained "C"
      [holding "B" 50 (by decide), holding "B" 5 (by decide)] (9 / 10))) 100 (some 10) 4000
        ≠ none := by
  obtain ⟨-, hmore⟩ := correlation_clusters chained (9 / 10)
  obtain ⟨hafter, hkept⟩ := hmore "C" [holding "B" 50 (by decide)]
    [holding "B" 50 (by decide), holding "B" 5 (by decide)] (.cons_cons _ (.cons _ .slnil))
  refine (hkept (hafter ?_)).2 _ _ _ (by decide +kernel); intro p hp hmeasured
  refine .inl (mem_measuredBook.2 ⟨.inr ⟨holding "B" 50 (by decide), by simp, ?_⟩, hmeasured⟩)
  rcases List.mem_pair.1 hp with rfl | rfl <;> rfl

/-- **A captured member.** An order for `C` is refused over 50 of `B`; with 1 of `A` in the
book as well, `B` is clustered with `A` and the order is let through. -/
theorem captured_member : correlationConcentration (some (buildDependenceState chained "C"
        [holding "B" 50 (by decide)] (9 / 10))) 100 (some 10) 4000 = some (.concentrated 60 40) ∧
    correlationConcentration (some (buildDependenceState chained "C"
        [holding "B" 50 (by decide), holding "A" 1 (by decide)] (9 / 10))) 100 (some 10) 4000 =
      none := by
  constructor <;> decide +kernel

end Quantbot.L3.Risk
