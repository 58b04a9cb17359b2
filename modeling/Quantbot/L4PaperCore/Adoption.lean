import Quantbot.Core.Reads
import Quantbot.Core.Failures
import Quantbot.L4PaperCore.OversoldRuns

/-!
# Which orders can be imported

`_adopt` of `paper_core/outcomes.py` takes an intent to the state a snapshot implies, and
`_import_events` turns the state conflicts and protocol errors of an event into rejected
evidence. An edge missing from the lifecycle's table and a row missing under the order's id
raise neither, so they escape (`Escapes`) and take the batch with them.

Results:
* `handled_iff`: when one event is applied or rejected, from any store.
* `import_poison_free`: when a whole batch is, and when it escapes.
* `lost_reply_escapes`: an order whose post was answered with a malformed reply escapes.
-/
namespace Quantbot.L4

open Core L1 L2 L3 Txn

/-! ## Errors -/

/-- The errors an event is rejected for. -/
def Refused : CoreError → Prop
  | .store (.stateConflict _) | .brokerProtocol _ | .evidenceRejected _ _ _ => True
  | _ => False

/-- The rejection `import_broker_events` records. -/
def Rejected : CoreError → Prop
  | .evidenceRejected _ _ _ => True
  | _ => False

/-- The errors of `_adopt` that no clause of the import catches. -/
def Escapes : CoreError → Prop
  | .store (.invalidTransition _) | .store (.recordNotFound _) => True
  | _ => False

/-! ## The states a snapshot can move -/

/-- No accepted transitions take the intent to the state a snapshot implies. -/
def Stuck (current target : IntentState) : Prop :=
  current = .error ∨ current = .riskApproved ∨ (current = .orderCreated ∧ target ≠ .cancelled) ∨
    (current = .partiallyFilled ∧ target = .rejected) ∨
    (current = .cancelPending ∧ (target = .rejected ∨ target = .expired))
deriving Decidable

/-- The state after `adoptSent`. -/
def sentState (q : IntentState) : IntentState :=
  if q = .submitting ∨ q = .submissionUnknown then .brokerAccepted else q

theorem stuck_iff {current target : IntentState}
    (h : target ∈ [IntentState.rejected, .filled, .cancelled, .expired, .partiallyFilled]) :
    Stuck current target ↔
      ¬ (sentState current ∈ adoptSettled ∨ Allowed (sentState current) target) := by
  have hall : ∀ q : IntentState,
      ∀ t ∈ [IntentState.rejected, .filled, .cancelled, .expired, .partiallyFilled],
        (Stuck q t ↔ ¬ (sentState q ∈ adoptSettled ∨ Allowed (sentState q) t)) := by decide
  exact hall current target h

/-- The snapshot moves the intent along the table, or leaves it. -/
def Follows (intent : OrderIntent) (order : BrokerOrder) : Prop :=
  ∀ target, ackTerminalTarget order = some target → ¬ Stuck intent.state target

/-- The snapshot can be imported: its intent moves along the table, or a conflict refuses it
before that (its order is another client's, has regressed, or has another identity). -/
def Importable (s : Store) (intent : OrderIntent) (order : BrokerOrder) : Prop :=
  match s.orderByClient intent.clientOrderId with
  | none => s.brokerOrders.get? order.brokerOrderId ≠ none ∨ Follows intent order
  | some old => order.filledQuantity < old.filledQuantity ∨
      ∃ row, s.brokerOrders.get? order.brokerOrderId = some row ∧
        (¬ SameIdentity row order ∨ Follows intent order)

/-! ## Adoption -/

section Adopt

variable {P : ExecError → Prop} {s : Store} {intent : OrderIntent} {order : BrokerOrder}

theorem fails_stored {α : Type} {x : Repo α} :
    Fails P (stored x) s ↔ Fails (fun e => P (.store e)) x s := fails_zoom

theorem stored_error {α : Type} {x : Repo α} {e : StoreError} {t : Store} (h : x s = .error e t) :
    stored x s = .error (.store e) t := by
  unfold stored zoom; simp only [id, h]

theorem transitionOrderIntent_fails {Q : StoreError → Prop} {i : String} {target : IntentState}
    {row : OrderIntent} (hrow : s.orderIntents.get? i = some row) :
    Fails Q (transitionOrderIntent i target row.state) s ↔
      (Allowed row.state target ∨ Q (.invalidTransition ⟨row.state, target⟩)) := by
  unfold Fails transitionOrderIntent; rw [hrow]
  simp only [ne_eq, not_true_eq_false, if_false, transitionOrder_eq]
  by_cases hallowed : Allowed row.state target
  · simp only [if_pos hallowed]
    exact ⟨fun _ => .inl hallowed, fun _ _ _ h => (nomatch h)⟩
  simp only [if_neg hallowed]; constructor
  · exact fun h => .inr (h _ s rfl)
  intro h e s' he; cases he; exact h.resolve_left hallowed

section

variable (hrow : s.orderIntents.get? intent.intentId = some intent)
include hrow

theorem adoptTarget_fails (hinvalid : ∀ t, ¬ P (.store (.invalidTransition t))) :
    Fails P (adoptTarget intent order) s ↔ ∀ target, ackTerminalTarget order = some target →
      intent.state ∈ adoptSettled ∨ Allowed intent.state target := by
  unfold adoptTarget
  cases htarget : ackTerminalTarget order with
  | none => exact ⟨fun _ _ h => (nomatch h), fun _ => fails_pure _⟩
  | some target =>
    have hone : (∀ t, some target = some t → intent.state ∈ adoptSettled ∨ Allowed intent.state t) ↔
        (intent.state ∈ adoptSettled ∨ Allowed intent.state target) :=
      ⟨fun h => h target rfl, fun h t ht => Option.some.inj ht ▸ h⟩
    rw [hone]; dsimp only; split
    · next hsettled => exact ⟨fun _ => .inl hsettled, fun _ => fails_pure _⟩
    next hsettled =>
    rw [fails_bind, fails_stored, transitionOrderIntent_fails hrow]; constructor
    · exact fun h => .inr (h.1.resolve_right (hinvalid _))
    · exact fun h => ⟨.inl (h.resolve_left hsettled), fun _ _ _ => fails_pure _⟩

theorem adoptState_fails (hinvalid : ∀ t, ¬ P (.store (.invalidTransition t))) :
    Fails P (adoptSent intent >>= fun current => adoptTarget current order) s ↔
      Follows intent order := by
  have hfollows : Follows intent order ↔ ∀ target, ackTerminalTarget order = some target →
      sentState intent.state ∈ adoptSettled ∨ Allowed (sentState intent.state) target := by
    refine forall_congr' fun target => imp_congr_right fun htarget => ?_
    rw [stuck_iff (ackTerminalTarget_mem htarget), not_not]
  rw [hfollows, fails_bind]; unfold adoptSent; split
  · next hsent =>
    have hallowed : Allowed intent.state .brokerAccepted := by
      rcases hsent with h | h <;> rw [h] <;> decide
    have hstate : sentState intent.state = .brokerAccepted := if_pos hsent
    rw [fails_stored, transitionOrderIntent_fails hrow, hstate]
    -- the row the target is reached from is the accepted one
    have hafter : ∀ a s₁, stored (transitionOrderIntent intent.intentId .brokerAccepted intent.state)
        s = .ok a s₁ → a.state = .brokerAccepted ∧ s₁.orderIntents.get? a.intentId = some a := by
      intro a s₁ h
      obtain ⟨row, hrow', _, _, rfl, rfl⟩ := transitionOrderIntent_ok (stored_ok.1 h)
      rw [hrow] at hrow'; cases hrow'; refine ⟨rfl, ?_⟩
      rw [OrderIntent.withState_intentId, setState_get?, if_pos rfl, hrow]; rfl
    constructor
    · intro h target htarget
      have hok := stored_ok.2 (transitionOrderIntent_run hrow hallowed)
      obtain ⟨hstate₁, hrow₁⟩ := hafter _ _ hok
      have := (adoptTarget_fails hrow₁ hinvalid).1 (h.2 _ _ hok) target htarget
      rwa [hstate₁] at this
    · refine fun h => ⟨.inl hallowed, fun a s₁ hok => ?_⟩
      obtain ⟨hstate₁, hrow₁⟩ := hafter a s₁ hok
      refine (adoptTarget_fails hrow₁ hinvalid).2 fun target htarget => ?_
      rw [hstate₁]; exact h target htarget
  · next hsent =>
    have hstate : sentState intent.state = intent.state := if_neg hsent
    rw [hstate, ← adoptTarget_fails hrow hinvalid]; constructor
    · exact fun h => h.2 intent s rfl
    refine fun h => ⟨fails_pure _, fun a s₁ hok => ?_⟩
    obtain ⟨rfl, rfl⟩ := pure_ok.1 hok; exact h

/-- The order's row: a conflict may refuse it, and a client whose order has another id finds
no row to update. -/
theorem adoptOrder_fails
    (hack : AckMatches intent order) (hconflict : ∀ m, P (.store (.stateConflict m)))
    (hmissing : ∀ m, ¬ P (.store (.recordNotFound m))) {Q : Prop} {rest : Exec PUnit}
    (hrest : ∀ t, t.orderIntents = s.orderIntents → (Fails P rest t ↔ Q)) :
    Fails P (adoptOrder intent order >>= fun _ => rest) s ↔
      match s.orderByClient intent.clientOrderId with
      | none => s.brokerOrders.get? order.brokerOrderId ≠ none ∨ Q
      | some old => order.filledQuantity < old.filledQuantity ∨
          ∃ row, s.brokerOrders.get? order.brokerOrderId = some row ∧
            (¬ SameIdentity row order ∨ Q) := by
  have hclient : intent.clientOrderId = order.clientOrderId := hack.1.symm
  have hkept : ∀ b t, adoptOrder intent order s = .ok b t → t.orderIntents = s.orderIntents := by
    intro b t h; cases adoptOrder_ok hack h <;> rfl
  have hok : ∀ b t, adoptOrder intent order s = .ok b t →
      (Fails P (adoptOrder intent order >>= fun _ => rest) s ↔ Q) := fun b t h =>
    (fails_bind_ok h).trans (hrest t (hkept b t h))
  have hrefused : ∀ m t, adoptOrder intent order s = .error (.store (.stateConflict m)) t →
      Fails P (adoptOrder intent order >>= fun _ => rest) s := fun m t h =>
    (fails_bind_error h).2 (hconflict m)
  have heq : adoptOrder intent order s = match s.orderByClient intent.clientOrderId with
      | none => stored (saveBrokerOrder order) s
      | some old => (do
          require (old.filledQuantity ≤ order.filledQuantity)
            (.store (.stateConflict "order filled quantity regressed"))
          stored (updateBrokerOrderLifecycle order) : Exec Bool) s := by
    show (match s.orderByClient intent.clientOrderId with
      | none => stored (saveBrokerOrder order)
      | some old => _ : Exec Bool) s = _
    cases s.orderByClient intent.clientOrderId <;> rfl
  cases hold : s.orderByClient intent.clientOrderId with
  | none =>
    rw [hold] at heq
    cases hget : s.brokerOrders.get? order.brokerOrderId with
    | some existing =>
      -- the row is another client's
      have hne : existing ≠ order := by
        rintro rfl
        exact UTable.getAlt?_none.1 hold existing (Table.get?_some hget).1 hclient.symm
      have hsave : saveBrokerOrder order s = .error (.stateConflict
          ("broker order " ++ order.brokerOrderId ++ " conflicts with stored data")) s := by
        unfold saveBrokerOrder; simp only [hget, if_neg hne]
      exact ⟨fun _ => .inl nofun, fun _ => hrefused _ _ (heq.trans (stored_error hsave))⟩
    | none =>
      have hlinked : s.intentByClient order.clientOrderId = some intent :=
        UTable.getAlt?_eq_some.2 ⟨(Table.get?_some hrow).1, hclient⟩
      have hsave : saveBrokerOrder order s =
          .ok true { s with brokerOrders := s.brokerOrders.insert order } := by
        unfold saveBrokerOrder; rw [hclient] at hold
        simp only [hget, hlinked, hold]
      refine (hok _ _ (heq.trans (stored_ok.2 hsave))).trans ⟨.inr, fun h => ?_⟩
      exact h.resolve_left fun h => h rfl
  | some old =>
    rw [hold] at heq; by_cases hle : old.filledQuantity ≤ order.filledQuantity
    · have hupdate : adoptOrder intent order s = stored (updateBrokerOrderLifecycle order) s := by
        rw [heq]; simp only [require, if_pos hle]; rfl
      cases hget : s.brokerOrders.get? order.brokerOrderId with
      | none =>
        have hmissed : updateBrokerOrderLifecycle order s =
            .error (.recordNotFound ("broker order not found: " ++ order.brokerOrderId)) s := by
          unfold updateBrokerOrderLifecycle; simp only [hget]
        rw [fails_bind_error (hupdate.trans (stored_error hmissed))]
        refine ⟨fun h => absurd h (hmissing _), ?_⟩
        rintro (hlt | ⟨row, hrow', _⟩)
        · exact absurd hle (not_le.2 hlt)
        · cases hrow'
      | some row =>
        have hfound : (order.filledQuantity < old.filledQuantity ∨
            ∃ r, some row = some r ∧ (¬ SameIdentity r order ∨ Q)) ↔
            (¬ SameIdentity row order ∨ Q) := by
          constructor
          · rintro (hlt | ⟨r, hr, h⟩)
            · exact absurd hle (not_le.2 hlt)
            · exact Option.some.inj hr ▸ h
          · exact fun h => .inr ⟨row, rfl, h⟩
        refine Iff.trans ?_ hfound.symm; by_cases hsame : SameIdentity row order
        · obtain ⟨b, t, hstored⟩ : ∃ b t, updateBrokerOrderLifecycle order s = .ok b t := by
            unfold updateBrokerOrderLifecycle
            simp only [hget, not_true_eq_false, if_false, hsame]; split
            · exact ⟨_, _, rfl⟩
            · exact ⟨_, _, rfl⟩
          refine (hok _ _ (hupdate.trans (stored_ok.2 hstored))).trans ⟨.inr, fun h => ?_⟩
          exact h.resolve_left (not_not.2 hsame)
        · have hconflicts : updateBrokerOrderLifecycle order s = .error (.stateConflict
              ("broker order " ++ order.brokerOrderId ++ " identity conflicts with stored data"))
              s := by
            unfold updateBrokerOrderLifecycle
            simp only [hget, hsame, not_false_eq_true, if_true]
          exact ⟨fun _ => .inl hsame, fun _ => hrefused _ _ (hupdate.trans (stored_error hconflicts))⟩
    · have hregressed : adoptOrder intent order s =
          .error (.store (.stateConflict "order filled quantity regressed")) s := by
        rw [heq]; simp only [require, if_neg hle]; rfl
      exact ⟨fun _ => .inl (not_le.1 hle), fun _ => hrefused _ _ hregressed⟩

/-- **When adoption is refused or applied.** -/
theorem adopt_fails
    (hack : AckMatches intent order) (hconflict : ∀ m, P (.store (.stateConflict m)))
    (hprotocol : ∀ m, P (.brokerProtocol m)) (hmissing : ∀ m, ¬ P (.store (.recordNotFound m)))
    (hinvalid : ∀ t, ¬ P (.store (.invalidTransition t))) :
    Fails P (adopt intent order) s ↔ Importable s intent order := by
  unfold adopt assertAckMatchesIntent; rw [fails_require_bind (hprotocol _)]
  refine (imp_iff_right hack).trans ?_
  exact adoptOrder_fails hrow hack hconflict hmissing fun t ht =>
    adoptState_fails (ht ▸ hrow) hinvalid

end

/-- Whatever the intent, adoption raises what an event is refused for, or escapes. -/
theorem adopt_raises (hconflict : ∀ m, P (.store (.stateConflict m)))
    (hprotocol : ∀ m, P (.brokerProtocol m)) (hmissing : ∀ m, P (.store (.recordNotFound m)))
    (hinvalid : ∀ t, P (.store (.invalidTransition t))) : Fails P (adopt intent order) s := by
  have htransition : ∀ i target q (t : Store), Fails P (stored (transitionOrderIntent i target q)) t := by
    intro i target q t; rw [fails_stored]; intro e t' h
    unfold transitionOrderIntent at h
    repeat' split at h
    all_goals cases h
    · exact hmissing _
    · exact hconflict _
    · exact hinvalid _
  have hsave : ∀ t : Store, Fails P (stored (saveBrokerOrder order)) t := by
    intro t; rw [fails_stored]; intro e t' h; unfold saveBrokerOrder at h
    repeat' split at h
    all_goals cases h
    all_goals exact hconflict _
  have hupdate : ∀ t : Store, Fails P (stored (updateBrokerOrderLifecycle order)) t := by
    intro t; rw [fails_stored]; intro e t' h
    unfold updateBrokerOrderLifecycle at h
    repeat' split at h
    all_goals cases h
    · exact hmissing _
    · exact hconflict _
  refine Fails.bind (fails_require.2 (.inr (hprotocol _))) fun _ s₁ => Fails.bind ?_ fun _ s₂ =>
    Fails.bind ?_ fun current s₃ => ?_
  · refine fails_get.bind fun t s₂ => ?_; split
    · exact hsave _
    · exact (fails_require.2 (.inr (hconflict _))).bind fun _ _ => hupdate _
  · unfold adoptSent; split
    · exact htransition _ _ _ _
    · exact fails_pure _
  · unfold adoptTarget; split
    · exact fails_pure _
    split
    · exact fails_pure _
    · exact (htransition _ _ _ _).bind fun _ _ => fails_pure _

end Adopt

/-! ## One event -/

section Event

variable {contentId : ContentId} {s : CoreStore} {event : BrokerEvent} {Q : CoreError → Prop}

theorem fails_onExec {α : Type} {x : Exec α} :
    Fails Q (onExec x) s ↔ Fails (fun e => Q (coreError e)) x s.toStore := by
  unfold onExec; rw [fails_zoom]
  refine forall_congr' fun e => forall_congr' fun t => imp_congr_right fun _ => ?_
  cases e <;> exact Iff.rfl

theorem fails_onLedger {α : Type} {x : Repo α} :
    Fails Q (onLedger x) s ↔ Fails (fun e => Q (.store e)) x s.toStore := fails_zoom

theorem requireCore_fails (c : Prop) [Decidable c] (m : String) (s : CoreStore) :
    Fails Refused (requireCore c m) s := fails_require.2 (.inr trivial)

theorem put_fails (identity : String) (d : Document) (hd : ∀ r, d ≠ .receipt r) :
    Fails Refused (put identity d) s := by
  refine Fails.bind (fun e s' h => ?_) fun b s₁ => ?_
  · unfold insertDocument at h
    repeat' split at h
    all_goals cases h
    trivial
  · split
    · cases d with
      | receipt r => exact absurd rfl (hd r)
      | proof _ | cost _ | source _ => exact fails_get.bind fun _ _ => fails_modify _
      | _ => exact fails_pure _
    · exact fails_pure _

theorem importFill_fails (intent : OrderIntent) (fill : Fill) :
    Fails Refused (importFill intent fill) s := by
  refine fails_get.bind fun t s₁ => ?_; split
  · exact fails_throw.2 trivial
  refine (requireCore_fails _ _ _).bind fun _ s₂ => Fails.bind ?_ fun _ _ => fails_pure _
  rw [fails_onLedger]; intro e s' h; unfold recordFill at h
  repeat' split at h
  all_goals cases h
  all_goals trivial

theorem recordCost_fails (item : CostItem) (fill : Fill) :
    Fails Refused (recordCost contentId item fill) s := by
  refine (requireCore_fails _ _ _).bind fun _ s₁ => fails_get.bind fun t s₂ => ?_
  split
  · exact (requireCore_fails _ _ _).bind fun _ _ => put_fails _ _ nofun
  split
  · exact fails_pure _
  · exact (requireCore_fails _ _ _).bind fun _ _ => put_fails _ _ nofun

theorem importCost_fails (intent : OrderIntent) (cost : CostItem) :
    Fails Refused (importCost contentId event intent cost) s := by
  refine fails_get.bind fun t s₁ => ?_; split
  · refine (requireCore_fails _ _ _).bind fun _ _ => (requireCore_fails _ _ _).bind fun _ _ =>
      (requireCore_fails _ _ _).bind fun _ _ => ?_
    split
    · exact recordCost_fails _ _
    · exact put_fails _ _ nofun
  · exact fails_throw.2 trivial

theorem importCashActivity_fails (activity : CashActivity) :
    Fails Refused (importCashActivity contentId event activity) s :=
  fails_get.bind fun _ _ => (requireCore_fails _ _ _).bind fun _ _ =>
    (requireCore_fails _ _ _).bind fun _ _ => (requireCore_fails _ _ _).bind fun _ _ =>
      put_fails _ _ nofun

/-- The event, if it brings a new order for its intent, brings one that can be imported. -/
def EventImportable (contentId : ContentId) (s : CoreStore) (event : BrokerEvent) : Prop :=
  ∀ intent order, Bound s.config event → s.source? (sourceId contentId event) = none →
    s.linkedClient event.clientOrderId = some intent → event.payload = .order order →
      AckMatches intent order → Importable s.toStore intent order

theorem importEventBody_fails (hQ : ∀ e, Refused e → Q e) :
    Fails Q (importEventBody contentId event) s ↔
      (Bound s.config event → s.source? (sourceId contentId event) = none →
        ∀ intent, s.linkedClient event.clientOrderId = some intent →
          Fails Q (importPayload contentId event intent) s) := by
  have hconflict : ∀ m, Q (.store (.stateConflict m)) := fun m => hQ _ trivial
  have hrest : ∀ t : CoreStore, Fails Q (do
      put (sourceId contentId event) (.source event)
      advanceCursor (contentId (.cursor event.provider event.accountId event.endpoint))
        event.recordedAt (sourceId contentId event)
      pure (some (sourceId contentId event))) t := fun t =>
    ((put_fails (sourceId contentId event) (.source event) nofun).mono hQ).bind fun _ _ =>
      (fails_modify _).bind fun _ _ => fails_pure _
  unfold importEventBody; rw [fails_get_bind, fails_require_bind (hconflict _)]
  refine imp_congr_right fun _ => ?_; dsimp only
  cases s.source? (sourceId contentId event) with
  | some old =>
    refine ⟨fun _ h => (nomatch h), fun _ => ?_⟩; dsimp only; split
    · exact fails_pure _
    · exact fails_throw.2 (hQ _ trivial)
  | none =>
    cases s.linkedClient event.clientOrderId with
    | none => exact ⟨fun _ _ _ h => (nomatch h), fun _ => (fails_throw (s := s)).2 (hconflict _)⟩
    | some intent =>
      rw [fails_bind]; constructor
      · intro h _ i hi; cases hi; exact h.1
      · exact fun h => ⟨h rfl intent rfl, fun _ t _ => hrest t⟩

theorem importPayload_fails (hQ : ∀ e, Refused e → Q e) (intent : OrderIntent) :
    Fails Q (importPayload contentId event intent) s ↔ ∀ order, event.payload = .order order →
        Fails (fun e => Q (coreError e)) (adopt intent order) s.toStore := by
  unfold importPayload
  cases event.payload with
  | order o =>
    refine fails_onExec.trans ⟨fun h order horder => ?_, fun h => h o rfl⟩
    cases horder; exact h
  | fill f => exact ⟨fun _ _ h => (nomatch h), fun _ => (importFill_fails intent f).mono hQ⟩
  | cost c => exact ⟨fun _ _ h => (nomatch h), fun _ => (importCost_fails intent c).mono hQ⟩
  | cashActivity a => exact ⟨fun _ _ h => (nomatch h), fun _ => (importCashActivity_fails a).mono hQ⟩

/-- The `except` clauses turn what an event is refused for into rejected evidence. -/
theorem importEvent_fails : Fails Rejected (importEvent contentId event) s ↔
      Fails Refused (importEventBody contentId event) s := by
  unfold Fails importEvent
  cases importEventBody contentId event s with
  | ok r s' => exact ⟨fun _ _ _ h => (nomatch h), fun _ _ _ h => (nomatch h)⟩
  | error e s' =>
    constructor
    · intro h e' s'' he; cases he
      cases e with
      | store e =>
        cases e with
        | stateConflict m => trivial
        | _ => exact absurd (h _ _ rfl) id
      | brokerProtocol _ | evidenceRejected _ _ _ => trivial
      | _ => exact absurd (h _ _ rfl) id
    · intro h e' s'' he; have hrefused := h e s' rfl
      cases e with
      | store e =>
        cases e with
        | stateConflict m => cases he; trivial
        | _ => exact absurd hrefused id
      | brokerProtocol _ | evidenceRejected _ _ _ => cases he; trivial
      | _ => exact absurd hrefused id

/-- **One event** is applied or rejected from exactly the stores it can be imported in. -/
theorem handled_iff :
    Fails Rejected (importEvent contentId event) s ↔ EventImportable contentId s event := by
  rw [importEvent_fails, importEventBody_fails fun _ h => h]
  have hpayload : ∀ intent, s.linkedClient event.clientOrderId = some intent →
      (Fails Refused (importPayload contentId event intent) s ↔
        ∀ order, event.payload = .order order → AckMatches intent order →
          Importable s.toStore intent order) := by
    intro intent hlinked; rw [importPayload_fails fun _ h => h]
    refine forall_congr' fun order => imp_congr_right fun _ => ?_
    by_cases hack : AckMatches intent order
    · rw [imp_iff_right hack]
      exact adopt_fails (linkedClient_row hlinked).1 hack (fun _ => trivial) (fun _ => trivial)
        (fun _ => id) fun _ => id
    · refine ⟨fun _ h => absurd h hack, fun _ => ?_⟩
      exact (fails_require_bind trivial).2 fun h => absurd h hack
  constructor
  · intro h intent order hbound hnew hlinked hp hack
    exact (hpayload intent hlinked).1 (h hbound hnew intent hlinked) order hp hack
  · intro h hbound hnew intent hlinked
    exact (hpayload intent hlinked).2 fun order hp hack => h intent order hbound hnew hlinked hp hack

theorem importEvent_raises :
    Fails (fun e => Rejected e ∨ Escapes e) (importEvent contentId event) s := by
  have hbody : Fails (fun e => Refused e ∨ Escapes e) (importEventBody contentId event) s := by
    refine (importEventBody_fails fun _ => .inl).2 fun _ _ intent _ => ?_
    refine (importPayload_fails (fun _ => .inl) intent).2 fun order _ => ?_
    exact adopt_raises (fun _ => .inl trivial) (fun _ => .inl trivial) (fun _ => .inr trivial)
      fun _ => .inr trivial
  intro e s' h; unfold importEvent at h
  cases hb : importEventBody contentId event s with
  | ok r t =>
    rw [hb] at h; cases h
  | error e' t =>
    have hkind := hbody e' t hb; rw [hb] at h
    cases e' with
    | store e' =>
      cases e' with
      | stateConflict m => cases h; exact .inl trivial
      | invalidTransition _ | recordNotFound _ => cases h; exact .inr trivial
    | brokerProtocol _ | evidenceRejected _ _ _ => cases h; exact .inl trivial
    | _ => exact absurd hkind (by simp [Refused, Escapes])

end Event

/-! ## A batch -/

section Batch

variable {contentId : ContentId} {s : CoreStore}

/-- Each event can be imported from where the events before it leave the store. -/
def BatchImportable (contentId : ContentId) : List BrokerEvent → CoreStore → Prop
  | [], _ => True
  | e :: es, s => EventImportable contentId s e ∧
      ∀ r s', importEvent contentId e s = .ok r s' → BatchImportable contentId es s'

variable {acc : List (String × Int)}

theorem importAll_fails {es : List BrokerEvent} :
    Fails Rejected (importAll contentId es acc) s ↔ BatchImportable contentId es s := by
  induction es generalizing acc s with
  | nil => exact ⟨fun _ => trivial, fun _ => fails_pure _⟩
  | cons e es ih =>
    unfold importAll BatchImportable; rw [fails_bind, handled_iff]
    refine and_congr_right fun _ => forall_congr' fun r => forall_congr' fun t =>
      imp_congr_right fun _ => ?_
    cases r with
    | none | some _ => exact ih

theorem importAll_raises {es : List BrokerEvent} :
    Fails (fun e => Rejected e ∨ Escapes e) (importAll contentId es acc) s := by
  induction es generalizing acc s with
  | nil => exact fails_pure _
  | cons e es ih =>
    refine importEvent_raises.bind fun r t => ?_
    cases r with
    | none | some _ => exact ih

theorem checkFilled_contained (events : List BrokerEvent) :
    Fails (fun e => ¬ Escapes e) (checkFilled contentId events) s := by
  refine fails_get.bind fun t s₁ => ?_; split
  · exact fails_pure _
  · exact fails_throw.2 id

theorem ledger_contained : Fails (fun e => ¬ Escapes e) (ledger contentId) s := by
  refine fails_get.bind fun t s₁ => ?_; split
  · refine (Fails.foldlM (fun l fill s₂ => ?_) _ _).bind fun _ _ => fails_pure _
    unfold ledgerFill; split
    · exact fails_throw.2 id
    split
    · exact fails_throw.2 id
    · exact (fails_require.2 (.inr id)).bind fun _ _ => (fails_require.2 (.inr id)).bind fun _ _ =>
        fails_pure _
  · exact fails_throw.2 id

theorem revokeStaleCash_contained (ids : List String) (at' : Int) :
    Fails (fun e => ¬ Escapes e) (revokeStaleCash contentId ids at') s := by
  refine ledger_contained.bind fun _ _ => fails_get.bind fun _ _ => Fails.forM (fun row s₁ => ?_) _
  refine fails_get.bind fun _ s₂ => ?_; split
  · exact fails_throw.2 id
  split
  · exact fails_pure _
  · exact (fails_modify _).bind fun _ _ => fails_get.bind fun _ _ => (fails_modify _).bind fun _ _ =>
      fails_get.bind fun _ _ => fails_modify _

theorem createIncident_contained (row : IncidentRow) :
    Fails (fun e => ¬ Escapes e) (onLedger (createIncident row)) s := by
  rw [fails_onLedger]; intro e s' h; unfold createIncident at h
  repeat' split at h
  all_goals cases h
  exact id

theorem rejectEvidence_contained (events : List BrokerEvent) (error : CoreError) (reason : String) :
    Fails (fun e => ¬ Escapes e) (rejectEvidence contentId events error reason) s := by
  refine fails_immediate.2 (fails_get.bind fun _ s₁ => ?_); split
  · exact fails_throw.2 id
  refine (createIncident_contained _).bind fun _ _ => ?_; split
  · exact (fails_modify _).bind fun _ _ => fails_modify _
  · exact fails_pure _

variable {events : List BrokerEvent}

theorem importBrokerEvents_escapes {e : CoreError} {s' : CoreStore}
    (h : importAll contentId (ordered events) [] s = .error e s') (he : Escapes e) :
    importBrokerEvents contentId events s = .error e s := by
  have hevents : importEvents contentId events s = .error e s := immediate_raises (bind_error.2 (.inl h))
  have hnone : e.conflict? = none := by
    cases e with
    | store e => cases e with
      | stateConflict m => exact absurd he id
      | _ => rfl
    | evidenceRejected m clients sources => exact absurd he id
    | _ => rfl
  unfold importBrokerEvents; rw [hevents]; dsimp only; rw [hnone]

/-- The batch is applied or rejected, and nothing of an adoption leaves the import. -/
structure PoisonFree (contentId : ContentId) (events : List BrokerEvent) (s : CoreStore) :
    Prop where
  /-- An event that is not applied is rejected with its evidence. -/
  handled : ∀ e s', importAll contentId (ordered events) [] s = .error e s' → Rejected e
  /-- Neither a transition outside the table nor a missing row is raised. -/
  contained : ∀ e s', importBrokerEvents contentId events s = .error e s' → ¬ Escapes e

theorem poisonFree_iff (contentId : ContentId) (s : CoreStore) (events : List BrokerEvent) :
    PoisonFree contentId events s ↔ BatchImportable contentId (ordered events) s := by
  refine ⟨fun h => importAll_fails.1 h.handled, fun h => ⟨importAll_fails.2 h, ?_⟩⟩
  intro e s' hraised
  have hall : Fails (fun e => ¬ Escapes e) (importAll contentId (ordered events) []) s :=
    (importAll_fails.2 h).mono fun e he hesc => by
      cases e with
      | evidenceRejected m clients sources => exact hesc
      | _ => exact he
  have hevents : Fails (fun e => ¬ Escapes e) (importEvents contentId events) s := by
    refine fails_immediate.2 (hall.bind fun imported s₁ => (checkFilled_contained events).bind
      fun _ s₂ => ?_)
    split
    · exact fails_pure _
    · exact (revokeStaleCash_contained _ _).bind fun _ _ => fails_pure _
  unfold importBrokerEvents at hraised
  cases hresult : importEvents contentId events s with
  | ok ids t =>
    rw [hresult] at hraised; cases hraised
  | error e₁ t =>
    rw [hresult] at hraised; dsimp only at hraised; split at hraised
    · cases hraised; exact hevents _ _ hresult
    split at hraised
    · cases hraised; exact hevents _ _ hresult
    · next herr =>
      cases hraised; exact rejectEvidence_contained _ _ _ _ _ herr

theorem escapes_of_not_poisonFree (h : ¬ PoisonFree contentId events s) :
    ∃ e, importBrokerEvents contentId events s = .error e s ∧ Escapes e := by
  by_contra hno
  have hall : Fails Rejected (importAll contentId (ordered events) []) s := fun e s' hraised =>
    (importAll_raises e s' hraised).resolve_right fun he =>
      hno ⟨e, importBrokerEvents_escapes hraised he, he⟩
  exact h ((poisonFree_iff contentId s events).2 (importAll_fails.1 hall))

end Batch

/-- The condition on one step of the core: what it imports can be imported. -/
def Importing {ι : Type} (v : GuardViews) (w : CoreWorld ι) (l : SendLabel ι SendReading CoreWrite)
    (_ : CoreWorld ι) : Prop :=
  ∀ events, l = .write (.importEvents events) →
    BatchImportable v.contentId (ordered events) w.store

/-- **Poison-free.** A batch is handled from exactly the stores each of its events can be
imported in, a single event from those it can; from any other store the import raises what
no clause catches, and the store stays as it was. So every import is handled in a run of the
core whose imports can all be imported. -/
theorem import_poison_free {ι : Type} [DecidableEq ι] (sha256 : String → String) (v : GuardViews)
    (kind : ι → CoordinatorKind) : (∀ s events, PoisonFree v.contentId events s ↔
      BatchImportable v.contentId (ordered events) s) ∧
    (∀ s event, PoisonFree v.contentId [event] s ↔ EventImportable v.contentId s event) ∧
    (∀ s events, ¬ PoisonFree v.contentId events s →
      ∃ e, importBrokerEvents v.contentId events s = .error e s ∧ Escapes e) ∧
    ∀ w ls w', ((core sha256 v kind).restrict (Importing v)).Run w ls w' →
      ∀ before events rest, ls = before ++ .write (.importEvents events) :: rest →
        ∃ u, (core sha256 v kind).Run w before u ∧ PoisonFree v.contentId events u.store := by
  have hfree := poisonFree_iff v.contentId
  refine ⟨hfree, fun s event => ?_, fun s events h => escapes_of_not_poisonFree h, ?_⟩
  · rw [hfree, show ordered [event] = [event] from rfl]
    exact and_iff_left fun _ _ _ => trivial
  · intro w ls w' hrun before events rest hls; rw [hls] at hrun
    obtain ⟨u, hbefore, hafter⟩ := hrun.split
    refine ⟨u, hbefore.of_restrict, ?_⟩
    cases hafter with
    | cons hst _ => exact (hfree u.store events).2 (hst.2 events rfl)

/-! ## A reply that was lost

The entry is posted and the reply is malformed, so its intent ends in `ERROR`. The order was
accepted all the same, and is filled. -/

theorem desk_core {C : Desk Nat → DeskLabel Nat → Desk Nat → Prop} {d : Desk Nat}
    (h : (paperDesk.restrict C).Reachable d) :
    (core id paperViews fun _ : Nat => .core).Reachable d.world := by
  obtain ⟨d₀, ls, hinit, hrun⟩ := h
  have hreach : (core id paperViews fun _ : Nat => .core).Reachable d₀.world :=
    ⟨d₀.world, [], hinit.1, .nil _⟩
  clear hinit
  induction hrun with
  | nil d => exact hreach
  | @cons d d' d'' l ls hst _ ih =>
    refine ih ?_
    cases l with
    | read r =>
      obtain ⟨_, rfl⟩ := hst.1; exact hreach
    | act l => exact hreach.step hst.1.1

def garbledStore : CoreStore :=
  after (coreSession.exec (transition "core-entry-1" .error .submitting)) sendingEntry

def filledBatch : List BrokerEvent := [paperEvent "o1" 3 (.order wholeOrder)]

theorem garbled_reached : Reaches garbledStore [] 1 ["qb-1"] := by
  have hfailed : Returns (coreSession.exec (transition "core-entry-1" .error .submitting))
      sendingEntry (preparedEntry.withState .error) := by decide
  obtain ⟨s₃, h₃⟩ := entry_claimed; obtain ⟨s₄, h₄⟩ := hfailed
  have hs₃ : sendingEntry = s₃ := after_ok h₃
  have hs₄ : garbledStore = s₄ := after_ok h₄
  exact ready_reached.garbled (by decide) (by decide) rfl (hs₃ ▸ h₃) (hs₄ ▸ h₄)

theorem filled_escapes : importBrokerEvents labelDigest filledBatch garbledStore =
    .error (.store (.invalidTransition ⟨.error, .filled⟩)) garbledStore := by
  have hanswer : answer (importBrokerEvents labelDigest filledBatch) garbledStore =
      .error (.store (.invalidTransition ⟨.error, .filled⟩)) := by decide
  have hafter : after (importBrokerEvents labelDigest filledBatch) garbledStore =
      garbledStore := by decide
  unfold answer at hanswer; unfold after at hafter
  cases hi : importBrokerEvents labelDigest filledBatch garbledStore with
  | ok ids s =>
    rw [hi] at hanswer; cases hanswer
  | error e s =>
    rw [hi] at hanswer hafter; cases hanswer; rw [← hafter]

/-- The same order is imported while its reply is awaited, and escapes once it was lost. -/
theorem import_poison_free_filled :
    PoisonFree labelDigest [paperEvent "o1" 3 (.order wholeOrder)] sendingEntry ∧
      ¬ EventImportable labelDigest garbledStore (paperEvent "o1" 3 (.order wholeOrder)) ∧
      ∃ e, importBrokerEvents labelDigest filledBatch garbledStore = .error e garbledStore ∧
        Escapes e := by
  obtain ⟨_, hone, hescapes, _⟩ := import_poison_free id paperViews fun _ : Nat => .core
  have hlost : ¬ PoisonFree labelDigest filledBatch garbledStore := fun h =>
    h.contained _ _ filled_escapes trivial
  refine ⟨(hone _ _).2 fun intent order _ _ hlinked hp _ => ?_,
    fun h => hlost ((hone _ _).2 h), hescapes _ _ hlost⟩
  have hintent : sendingEntry.linkedClient "qb-1" = some (preparedEntry.withState .submitting) := by
    decide
  obtain rfl : preparedEntry.withState .submitting = intent :=
    Option.some.inj (hintent.symm.trans hlinked)
  cases hp
  have hnone : sendingEntry.orderByClient "qb-1" = none := by decide
  have hfilled : ackTerminalTarget wholeOrder = some .filled := by decide
  unfold Importable; refine .inr fun target ht => ?_; cases ht; decide

/-- A filled order of a posted intent cannot be imported. -/
theorem lost_reply_escapes :
    ∃ w : CoreWorld Nat, (core id paperViews fun _ => .core).Reachable w ∧ Posted w "qb-1" ∧
      AckMatches (preparedEntry.withState .error) wholeOrder ∧
      w.store.linkedClient "qb-1" = some (preparedEntry.withState .error) ∧
      ¬ PoisonFree labelDigest filledBatch w.store ∧
      importBrokerEvents labelDigest filledBatch w.store =
        .error (.store (.invalidTransition ⟨.error, .filled⟩)) w.store := by
  obtain ⟨d, hreach, hstore, _, _, hposted⟩ := garbled_reached
  refine ⟨d.world, desk_core hreach, hposted _ List.mem_cons_self, by decide, ?_, ?_, ?_⟩
  · rw [hstore]; decide
  · rw [hstore]; exact fun h => h.contained _ _ filled_escapes trivial
  · rw [hstore]; exact filled_escapes

end Quantbot.L4
