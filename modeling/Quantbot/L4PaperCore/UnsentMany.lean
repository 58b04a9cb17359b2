import Quantbot.Core.ChunkedReads
import Quantbot.L4PaperCore.Settlement

/-!
# Definitively unsent, in bulk

`definitively_unsent_many` (`paper_core/settlement.py:46-98`) loads the intents, the orders and
the events in slices and decides in memory; `definitively_unsent` asks for one intent.

Results:
* `getOrderIntents_eq`, `getBrokerOrders_eq`, `mem_histories`: the loads are the single lookups.
* `definitively_unsent_many`: so are the decisions.
-/
namespace Quantbot.L4

open Core L1 L2

/-! ## The loads -/

/-- mirrors repositories.py:1159-1173 -/
def getOrderIntents (s : Store) (intentIds : List String) : List (Option OrderIntent) :=
  let rows := fetched (·.intentId) s.orderIntents.rows (fromKeys intentIds)
  let found : Dict String OrderIntent := filled (·.intentId) id (fun _ => none) rows
  intentIds.map found

/-- The rows of one statement, and the identities met twice. -/
def collectOrder (state : Dict String BrokerOrder × List String) (row : BrokerOrder) :
    Dict String BrokerOrder × List String :=
  (state.1.put row.clientOrderId row,
    if (state.1 row.clientOrderId).isSome then row.clientOrderId :: state.2 else state.2)

/-- mirrors repositories.py:1370-1396 -/
def getBrokerOrdersByClientOrderIds (s : Store) (clientOrderIds : List String) :
    Except String (List (Option BrokerOrder)) :=
  let rows := fetched (·.clientOrderId) s.brokerOrders.rows (fromKeys clientOrderIds)
  let (found, duplicates) := rows.foldl collectOrder (fun _ => none, [])
  clientOrderIds.mapM fun identity =>
    if identity ∈ duplicates then .error "Multiple broker orders for client order ID"
    else .ok (found identity)

/-- mirrors repositories.py:1575-1589 -/
def getOrderEventsForIntents (s : Store) (intentIds : List String) : String → List OrderEventRow :=
  let rows := fetched (·.intentId) s.orderEvents.rows ((fromKeys intentIds).map some)
  fun identity => rows.filter fun e => decide (e.intentId = some identity)

/-! ## The decisions -/

/-- The decision on an intent without an order, from its events. -/
def decideUnsent (events : List OrderEventRow) (intent : OrderIntent) : Bool :=
  if intent.state = .rejected then events.any (showsNoSend intent.clientOrderId)
  else events.any showsRefusal

/-- mirrors settlement.py:57-98 -/
def definitivelyUnsentLoaded (s : Store) (intents : List OrderIntent) :
    Except String (Dict String Bool) := do
  let result : Dict String Bool := filled (·.intentId) (fun _ => false) (fun _ => none) intents
  let eligible := intents.filter fun i => decide (i.state = .error ∨ i.state = .rejected)
  let orders ← getBrokerOrdersByClientOrderIds s (eligible.map (·.clientOrderId))
  let candidates := ((eligible.zip orders).filter (·.2.isNone)).map (·.1)
  let histories := getOrderEventsForIntents s (candidates.map (·.intentId))
  pure (filled (·.intentId) (fun i => decideUnsent (histories i.intentId) i) result candidates)

/-- mirrors settlement.py:46-54 -/
def definitivelyUnsentMany (s : Store) (intentIds : List String) :
    Except String (Dict String Bool) := do
  let unique := fromKeys intentIds
  let result : Dict String Bool := filled id (fun _ => false) (fun _ => none) unique
  let loaded ← definitivelyUnsentLoaded s ((getOrderIntents s unique).filterMap id)
  pure (result.merge loaded)

/-! ## The loads are single lookups -/

theorem getOrderIntents_eq (s : Store) (intentIds : List String) :
    getOrderIntents s intentIds = intentIds.map s.orderIntents.get? := by
  refine List.map_congr_left fun k hk => ?_
  cases hget : s.orderIntents.get? k with
  | none =>
    refine filled_other fun a ha hkey => ?_
    exact Table.get?_none.1 hget a (mem_fetched.1 ha).1 hkey
  | some intent =>
    obtain ⟨hmem, rfl⟩ := Table.get?_some hget
    refine filled_found (mem_fetched.2 ⟨hmem, mem_fromKeys.2 hk⟩) fun b hb hkey => ?_
    exact Table.eq_of_key (mem_fetched.1 hb).1 hmem hkey

theorem collectOrder_distinct {rows : List BrokerOrder} {found : Dict String BrokerOrder}
    (hrows : (rows.map (·.clientOrderId)).Nodup)
    (hfound : ∀ row ∈ rows, found row.clientOrderId = none) :
    rows.foldl collectOrder (found, []) = (filled (·.clientOrderId) id found rows, []) := by
  induction rows generalizing found with
  | nil => rfl
  | cons row rows ih =>
    rw [List.map_cons, List.nodup_cons] at hrows; rw [List.foldl_cons]
    have hstep : collectOrder (found, []) row = (found.put row.clientOrderId row, []) := by
      unfold collectOrder; simp [hfound row List.mem_cons_self]
    rw [hstep, ih hrows.2]
    · rfl
    intro later hlater; rw [Dict.put_of_ne]
    · exact hfound later (List.mem_cons_of_mem _ hlater)
    · intro heq; exact hrows.1 (List.mem_map.2 ⟨later, hlater, heq⟩)

theorem getBrokerOrders_eq (s : Store) (clientOrderIds : List String) :
    getBrokerOrdersByClientOrderIds s clientOrderIds =
      .ok (clientOrderIds.map s.orderByClient) := by
  have hrows := fetched_keys_nodup s.brokerOrders.altNodup (fromKeys_nodup clientOrderIds)
  unfold getBrokerOrdersByClientOrderIds; dsimp only
  rw [collectOrder_distinct hrows fun _ _ => rfl]
  refine Txn.except_mapM_map fun k hk => ?_; refine congrArg Except.ok ?_
  unfold Store.orderByClient
  cases hget : s.brokerOrders.getAlt? k with
  | none =>
    refine filled_other fun a ha hkey => ?_
    exact UTable.getAlt?_none.1 hget a (mem_fetched.1 ha).1 hkey
  | some order =>
    obtain ⟨hmem, rfl⟩ := UTable.getAlt?_eq_some.1 hget
    refine filled_found (mem_fetched.2 ⟨hmem, mem_fromKeys.2 hk⟩) fun b hb hkey => ?_
    exact UTable.eq_of_alt (mem_fetched.1 hb).1 hmem hkey

variable {s : Store}

theorem mem_histories {intentIds : List String} {k : String} (hk : k ∈ intentIds)
    {e : OrderEventRow} : e ∈ getOrderEventsForIntents s intentIds k ↔ e ∈ s.eventsOf k := by
  unfold getOrderEventsForIntents Store.eventsOf
  rw [List.mem_filter, mem_fetched, List.mem_filter, decide_eq_true_eq, and_assoc]
  refine and_congr_right fun _ => ⟨fun h => h.2, fun h => ⟨?_, h⟩⟩; rw [h]
  exact List.mem_map_of_mem (mem_fromKeys.2 hk)

/-! ## The decisions are single decisions -/

theorem zip_answers {α β : Type} (f : α → Option β) (as : List α) :
    ((as.zip (as.map f)).filter (·.2.isNone)).map (·.1) = as.filter fun a => (f a).isNone := by
  induction as with
  | nil => rfl
  | cons a as ih =>
    rw [List.map_cons, List.zip_cons_cons, List.filter_cons, List.filter_cons]
    split
    · rw [List.map_cons, ih]
    · exact ih

theorem decideUnsent_congr {events events' : List OrderEventRow} {i : OrderIntent}
    (h : ∀ e, e ∈ events ↔ e ∈ events') : decideUnsent events i = decideUnsent events' i := by
  have hany : ∀ p : OrderEventRow → Bool, events.any p = events'.any p := by
    intro p; rw [Bool.eq_iff_iff, List.any_eq_true, List.any_eq_true]
    simp only [h]
  unfold decideUnsent; rw [hany, hany]

theorem definitivelyUnsent_stored {i : OrderIntent} (h : s.orderIntents.get? i.intentId = some i) :
    definitivelyUnsent s i.intentId =
      if (i.state = .error ∨ i.state = .rejected) ∧ s.orderByClient i.clientOrderId = none then
        decideUnsent (s.eventsOf i.intentId) i else false := by
  unfold definitivelyUnsent decideUnsent; simp only [h]
  cases hstate : i.state <;> by_cases horder : s.orderByClient i.clientOrderId = none <;>
    simp [horder]

theorem definitivelyUnsentLoaded_eq {intents : List OrderIntent}
    (hintents : ∀ i ∈ intents, s.orderIntents.get? i.intentId = some i) :
    ∃ loaded, definitivelyUnsentLoaded s intents = .ok loaded ∧ ∀ k,
      loaded k = if k ∈ intents.map (·.intentId) then some (definitivelyUnsent s k) else none := by
  have hsame : ∀ i ∈ intents, ∀ j ∈ intents, i.intentId = j.intentId → i = j := by
    intro i hi j hj hij; have hj' := hintents j hj
    rw [← hij, hintents i hi] at hj'; exact Option.some.inj hj'
  unfold definitivelyUnsentLoaded; dsimp only
  rw [getBrokerOrders_eq, List.map_map]; refine ⟨_, rfl, fun k => ?_⟩
  rw [zip_answers]
  generalize hcandidates : List.filter _ (List.filter _ intents) = candidates
  have hmem : ∀ i, i ∈ candidates ↔ i ∈ intents ∧ (i.state = .error ∨ i.state = .rejected) ∧
      s.orderByClient i.clientOrderId = none := by
    intro i
    rw [← hcandidates, List.mem_filter, List.mem_filter, decide_eq_true_eq, and_assoc]
    refine and_congr_right fun _ => and_congr_right fun _ => ?_
    exact Option.isNone_iff_eq_none
  split
  · rename_i hk; obtain ⟨i, hi, rfl⟩ := List.mem_map.1 hk
    rw [definitivelyUnsent_stored (hintents i hi)]
    by_cases hcandidate : i ∈ candidates
    · rw [if_pos ((hmem i).1 hcandidate).2]
      refine (filled_found hcandidate fun b hb hid => ?_).trans ?_
      · rw [hsame b ((hmem b).1 hb).1 i hi hid]
      · refine congrArg some (decideUnsent_congr fun e => ?_)
        exact mem_histories (List.mem_map_of_mem hcandidate)
    · rw [if_neg fun h => hcandidate ((hmem i).2 ⟨hi, h⟩)]
      refine (filled_other fun b hb hid => hcandidate ?_).trans (filled_found hi fun _ _ _ => rfl)
      rw [← hsame b ((hmem b).1 hb).1 i hi hid]; exact hb
  · rename_i hk
    have hnone : ∀ i ∈ intents, i.intentId ≠ k := fun i hi hid =>
      hk (List.mem_map.2 ⟨i, hi, hid⟩)
    exact (filled_other fun b hb => hnone b ((hmem b).1 hb).1).trans (filled_other hnone)

/-- **The bulk check is the single one.** For every store and every list of ids, repeated and
unknown ones included: the load raises nothing, and the dictionary has an entry for each id
asked for and no other, which is what the single check answers. -/
theorem definitively_unsent_many (s : Store) (intentIds : List String) :
    ∃ result, definitivelyUnsentMany s intentIds = .ok result ∧
      (∀ k, result k = if k ∈ intentIds then some (definitivelyUnsent s k) else none) ∧
      ∀ k, result k = some true ↔ k ∈ intentIds ∧ definitivelyUnsent s k = true := by
  have hloaded : ∀ i, i ∈ (getOrderIntents s (fromKeys intentIds)).filterMap id ↔
      i.intentId ∈ intentIds ∧ s.orderIntents.get? i.intentId = some i := by
    intro i; rw [getOrderIntents_eq, List.mem_filterMap]
    simp only [List.mem_map, id_eq]; constructor
    · rintro ⟨_, ⟨k, hk, rfl⟩, hget⟩; obtain ⟨_, rfl⟩ := Table.get?_some hget
      exact ⟨mem_fromKeys.1 hk, hget⟩
    · rintro ⟨hk, hget⟩; exact ⟨_, ⟨_, mem_fromKeys.2 hk, rfl⟩, hget⟩
  obtain ⟨loaded, hrun, hvalue⟩ :=
    definitivelyUnsentLoaded_eq fun i hi => ((hloaded i).1 hi).2
  have hresult : definitivelyUnsentMany s intentIds = .ok
      (Dict.merge (filled id (fun _ => false) (fun _ => none) (fromKeys intentIds)) loaded) := by
    unfold definitivelyUnsentMany; dsimp only; rw [hrun]; rfl
  have hentries : ∀ k, Dict.merge (filled id (fun _ => false) (fun _ => none) (fromKeys intentIds))
      loaded k = if k ∈ intentIds then some (definitivelyUnsent s k) else none := by
    intro k; unfold Dict.merge; rw [hvalue]; by_cases hk : k ∈ intentIds
    · rw [if_pos hk]; split
      · rfl
      rename_i hmissing
      have hunsent : definitivelyUnsent s k = false := by
        unfold definitivelyUnsent
        cases hget : s.orderIntents.get? k with
        | none => rfl
        | some i =>
          obtain ⟨_, rfl⟩ := Table.get?_some hget
          exact absurd (List.mem_map.2 ⟨i, (hloaded i).2 ⟨hk, hget⟩, rfl⟩) hmissing
      rw [Option.none_or, hunsent]
      have hin : k ∈ fromKeys intentIds := mem_fromKeys.2 hk
      exact filled_found hin fun _ _ _ => rfl
    · rw [if_neg hk, if_neg, Option.none_or]
      · refine filled_other fun j hj hjk => hk ?_; rw [← hjk]
        exact mem_fromKeys.1 hj
      · intro hmem; obtain ⟨i, hi, rfl⟩ := List.mem_map.1 hmem
        exact hk ((hloaded i).1 hi).1
  refine ⟨_, hresult, hentries, fun k => ?_⟩; rw [hentries]; split
  · simp_all
  · simp_all

end Quantbot.L4
