import Quantbot.L4PaperCore.HealthRuns

/-!
# The active events of a log

`active_health` reads the log through an SQL projection (`paper_core/health.py:58-96`), the
recovery of a cohort folds over every event (`:396-405`). `activeEvents` is what both are to be:
the events that are not READY and that no event of the log recovers, in sequence order.

Results:
* `activeHealth_eq`: the projection, for every log.
* `batchActive_perm`, `batchActive_eq`: the fold, in whatever order the rows are read.
* `health_projection`: a recovery acts on what the gates see.
-/
namespace Quantbot.L4.Health

open Core Txn

variable {eventId : EventId}

/-! ## Filtering a stable sort -/

section Stable

variable {α : Type} {r : α → α → Prop} [DecidableRel r] [IsTrans α r]

theorem filter_orderedInsert (p : α → Bool) (a : α) {l : List α} (hl : l.Pairwise r) :
    (l.orderedInsert r a).filter p =
      if p a then (l.filter p).orderedInsert r a else l.filter p := by
  induction l with
  | nil => cases h : p a <;> simp [h]
  | cons b l ih =>
    obtain ⟨hb, hl⟩ := List.pairwise_cons.1 hl; rw [List.orderedInsert_cons]
    split
    · rename_i hab
      have hfirst : ∀ c ∈ (b :: l).filter p, r a c := by
        intro c hc
        rcases List.mem_cons.1 (List.mem_filter.1 hc).1 with rfl | hc
        · exact hab
        · exact trans_of r hab (hb c hc)
      rw [List.filter_cons]; split
      · cases hrest : (b :: l).filter p with
        | nil => rfl
        | cons c rest =>
          rw [List.orderedInsert_cons, if_pos]
          exact hfirst c (by rw [hrest]; exact List.mem_cons_self)
      · rfl
    · rename_i hab; rw [List.filter_cons, ih hl, List.filter_cons]; split
      · split
        · rw [List.orderedInsert_cons, if_neg hab]
        · rfl
      · rfl

theorem filter_insertionSort [Std.Total r] (p : α → Bool) (l : List α) :
    (l.insertionSort r).filter p = (l.filter p).insertionSort r := by
  induction l with
  | nil => rfl
  | cons a l ih =>
    rw [List.insertionSort_cons, filter_orderedInsert p a (List.pairwise_insertionSort r l), ih,
      List.filter_cons]
    split
    · rw [List.insertionSort_cons]
    · rfl

end Stable

/-! ## The definition -/

/-- Sequence order; events of one number stay as they are. -/
def inSequence (events : List Event) : List Event :=
  events.insertionSort fun a b => a.sequence ≤ b.sequence

/-- An event that is not READY, and that no event of the log recovers. -/
def Standing (eventId : EventId) (log : List Event) (h : Event) : Prop :=
  h.state ≠ .ready ∧ eventId h ∉ recoveredIds log
deriving Decidable

def activeEvents (eventId : EventId) (log : List Event) : List Event :=
  inSequence (log.filter fun h => decide (Standing eventId log h))

/-- What the recovery of a cohort folds the rows into.
mirrors health.py:396-405 -/
def batchActive (eventId : EventId) (read : List Event) : List Event :=
  let events := inSequence read
  events.filter fun h => decide (h.state ≠ .ready ∧ eventId h ∉ recoveredIds events)

theorem inSequence_perm (log : List Event) : (inSequence log).Perm log :=
  List.perm_insertionSort _ log

theorem recoveredIds_congr {log log' : List Event} (h : ∀ e, e.recoveredFrom ≠ [] →
    (e ∈ log ↔ e ∈ log')) (id : String) : id ∈ recoveredIds log ↔ id ∈ recoveredIds log' := by
  unfold recoveredIds; simp only [List.mem_flatMap]
  refine exists_congr fun e => and_congr_left fun hid => h e ?_; intro hnil
  rw [hnil] at hid; cases hid

theorem recoveredIds_perm {log log' : List Event} (h : log.Perm log') (id : String) :
    id ∈ recoveredIds log ↔ id ∈ recoveredIds log' :=
  recoveredIds_congr (fun _ _ => h.mem_iff) id

instance : IsTrans Event fun a b => a.sequence ≤ b.sequence := ⟨fun _ _ _ => le_trans⟩

instance : Std.Total fun a b : Event => a.sequence ≤ b.sequence := ⟨fun _ _ => le_total _ _⟩

theorem filter_inSequence (p : Event → Bool) (log : List Event) :
    (inSequence log).filter p = inSequence (log.filter p) :=
  filter_insertionSort p log

/-! ## The fold -/

theorem batchActive_eq (log : List Event) : batchActive eventId log = activeEvents eventId log := by
  unfold batchActive activeEvents; rw [filter_inSequence]; congr 1
  refine List.filter_congr fun h _ => ?_; rw [decide_eq_decide]; unfold Standing
  rw [recoveredIds_perm (inSequence_perm log)]

variable {read log : List Event}

theorem batchActive_perm (h : read.Perm log) :
    (batchActive eventId read).Perm (activeEvents eventId log) := by
  rw [batchActive_eq]
  refine (inSequence_perm _).trans (List.Perm.trans ?_ (inSequence_perm _).symm)
  have hsame : read.filter (fun e => decide (Standing eventId read e)) =
      read.filter fun e => decide (Standing eventId log e) := by
    refine List.filter_congr fun e _ => ?_; rw [decide_eq_decide]
    unfold Standing; rw [recoveredIds_perm h]
  rw [hsame]; exact h.filter _

theorem batchActive_distinct (h : read.Perm log) (hdistinct : (log.map (·.sequence)).Nodup) :
    batchActive eventId read = activeEvents eventId log := by
  have hperm : (batchActive eventId read).Perm (activeEvents eventId log) := batchActive_perm h
  have hread : (batchActive eventId read).Pairwise (fun a b => a.sequence ≤ b.sequence) := by
    rw [batchActive_eq]; exact List.pairwise_insertionSort _ _
  refine hperm.eq_of_pairwise ?_ hread (List.pairwise_insertionSort _ _)
  · intro a b ha hb hab hba
    have hlog : ∀ {e}, e ∈ activeEvents eventId log → e ∈ log := fun he =>
      (List.mem_filter.1 ((inSequence_perm _).mem_iff.1 he)).1
    exact List.inj_on_of_nodup_map hdistinct (hlog (hperm.mem_iff.1 ha)) (hlog hb)
      (le_antisymm hab hba)

/-! ## The projection -/

theorem kept_payloads {s : HealthStore} (hids : ∀ r ∈ s.events.rows, eventId r.payload = r.id) :
    ((s.events.rows.filter fun r =>
      decide (r.payload.state ≠ .ready ∧ r.id ∉ recoveredIds s.payloads ∨
        r.payload.recoveredFrom ≠ [])).map (·.payload)) =
      s.payloads.filter fun h => decide (Standing eventId s.payloads h ∨ h.recoveredFrom ≠ []) := by
  conv_rhs => unfold HealthStore.payloads
  rw [List.filter_map]; congr 1; refine List.filter_congr fun r hr => ?_
  show decide _ = decide _; rw [decide_eq_decide]; unfold Standing
  rw [hids r hr]; rfl

theorem recoveredIds_kept (log : List Event) (id : String) :
    id ∈ recoveredIds (inSequence (log.filter fun h =>
      decide (Standing eventId log h ∨ h.recoveredFrom ≠ []))) ↔ id ∈ recoveredIds log := by
  rw [recoveredIds_perm (inSequence_perm _)]
  refine recoveredIds_congr (fun e he => ?_) id
  rw [List.mem_filter, decide_eq_true_eq]
  exact ⟨fun h => h.1, fun h => ⟨h, .inr he⟩⟩

/-- **The projection is the definition.** Rows under other ids than their contents' are refused
before. -/
theorem activeHealth_eq (s : HealthStore) : activeHealth eventId s =
    if ∀ r ∈ s.events.rows, eventId r.payload = r.id then .ok (activeEvents eventId s.payloads) s
    else .error .identityMismatch s := by
  split
  · rename_i hids; unfold activeHealth; rw [bind_ok]
    refine ⟨s, s, rfl, ?_⟩; rw [bind_ok]
    refine ⟨⟨⟩, s, require_ok.2 ⟨hids, rfl⟩, ?_⟩; rw [pure_ok]; refine ⟨?_, rfl⟩
    rw [kept_payloads hids]
    show (inSequence _).filter _ = activeEvents eventId s.payloads
    rw [filter_inSequence, List.filter_filter]
    refine congrArg inSequence (List.filter_congr fun h _ => ?_)
    rw [← Bool.decide_and, decide_eq_decide]
    show (h.state ≠ .ready ∧ eventId h ∉ recoveredIds (inSequence _)) ∧ _ ↔
      Standing eventId s.payloads h
    rw [recoveredIds_kept]; exact ⟨fun hs => hs.1, fun hs => ⟨hs, .inl hs⟩⟩
  · rename_i hids; unfold activeHealth; rw [bind_error]
    refine .inr ⟨s, s, rfl, bind_error.2 (.inl ?_)⟩; unfold require
    rw [if_neg hids]; rfl

/-! ## Recoveries and gates -/

/-- The receipts of a cohort, given the events that are active. -/
def recoverActive (eventId : EventId) (proof : Authority) (i : CohortInputs)
    (symbols : List String) (active : List Event) : HealthTxn PUnit := do
  let s ← get
  let resolved := recoveredIds (inSequence s.payloads)
  let now := if s.config.clockProfile = .paperTime then max i.now i.clock else i.now
  if symbols = [] ∨ i.inventoryObjected ∨ s.killSwitch then pure ⟨⟩
  else recoverSymbols eventId s.config proof now active symbols.eraseDups s.lastSequence resolved

theorem recoverHealthMany_eq (proof : Authority) (i : CohortInputs) (symbols : List String)
    (s : HealthStore) : recoverHealthMany eventId proof i symbols s =
      recoverActive eventId proof i symbols (batchActive eventId s.payloads) s := rfl

/-- **The projection is what a recovery acts on.** For every log: the gates are given exactly the
events that are not READY and that no event recovers, in sequence order, or nothing when a row
stands under another id than its content's. The fold of the recovery is the same list, and in
whatever order the rows are read the same events; so the recovery does what it would do if it
were given what the gates are given. -/
theorem health_projection (eventId : EventId) (s : HealthStore) :
    (activeHealth eventId s =
      if ∀ r ∈ s.events.rows, eventId r.payload = r.id then .ok (activeEvents eventId s.payloads) s
      else .error .identityMismatch s) ∧
    (∀ h, h ∈ activeEvents eventId s.payloads ↔
      h ∈ s.payloads ∧ h.state ≠ .ready ∧ ∀ e ∈ s.payloads, eventId h ∉ e.recoveredFrom) ∧
    (activeEvents eventId s.payloads).Pairwise (fun a b => a.sequence ≤ b.sequence) ∧
    batchActive eventId s.payloads = activeEvents eventId s.payloads ∧
    (∀ read, read.Perm s.payloads →
      (batchActive eventId read).Perm (activeEvents eventId s.payloads) ∧
      ((s.payloads.map (·.sequence)).Nodup →
        batchActive eventId read = activeEvents eventId s.payloads)) ∧
    ∀ proof i symbols, (∀ r ∈ s.events.rows, eventId r.payload = r.id) →
      recoverHealthMany eventId proof i symbols s =
        (do
          let active ← activeHealth eventId
          recoverActive eventId proof i symbols active) s := by
  refine ⟨activeHealth_eq s, fun h => ?_, List.pairwise_insertionSort _ _, batchActive_eq _,
    fun read hread => ⟨batchActive_perm hread, batchActive_distinct hread⟩,
    fun proof i symbols hids => ?_⟩
  · unfold activeEvents
    rw [(inSequence_perm _).mem_iff, List.mem_filter, decide_eq_true_eq]
    unfold Standing recoveredIds
    simp only [List.mem_flatMap, not_exists, not_and]
  · have hactive : activeHealth eventId s = .ok (activeEvents eventId s.payloads) s := by
      rw [activeHealth_eq, if_pos hids]
    rw [recoverHealthMany_eq, batchActive_eq]
    show _ = EStateM.bind (activeHealth eventId) _ s; unfold EStateM.bind
    rw [hactive]

/-- After a recovery the quarantine is what the gates and the next recovery see, in whatever
order the three rows are read. -/
theorem health_projection_recovered :
    activeHealth sequenceId recoveredBoth = .ok [quarantineRow.payload] recoveredBoth ∧
    batchActive sequenceId recoveredBoth.payloads.reverse =
      activeEvents sequenceId recoveredBoth.payloads ∧
    recoverHealthMany sequenceId firstProof ⟨10, 10, false⟩ ["MSFT"] recoveredBoth =
      (do
        let active ← activeHealth sequenceId
        recoverActive sequenceId firstProof ⟨10, 10, false⟩ ["MSFT"] active) recoveredBoth := by
  have hids : ∀ r ∈ recoveredBoth.events.rows, sequenceId r.payload = r.id := by decide
  obtain ⟨hgates, _, _, _, hread, hbatch⟩ := health_projection sequenceId recoveredBoth
  refine ⟨?_, (hread _ (List.reverse_perm _)).2 (by decide), hbatch _ _ _ hids⟩
  rw [hgates, if_pos hids]
  have hactive : activeEvents sequenceId recoveredBoth.payloads = [quarantineRow.payload] := by
    decide
  rw [hactive]

end Quantbot.L4.Health
