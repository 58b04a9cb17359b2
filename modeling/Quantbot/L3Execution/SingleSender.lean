import Quantbot.Core.LTS
import Quantbot.L3Execution.Coordinator

/-!
# A single sender

Any number of calls of `submit_durable` and `reconcile_durable`, each a process of
its own that may die in any phase, over one store that other transactions write as
well. Only a call whose compare-and-set took the intent from `ORDER_CREATED` to
`SUBMITTING` posts it, and an intent never returns to `ORDER_CREATED`; so one call
sends, and its retry loop bounds and separates its posts (`single_sender`).

`Sends` says what one step does to the call's sending, `SingleSender` is the
invariant of one intent.
-/
namespace Quantbot.L3

open Core L1 L2 Txn

variable {σ ε η : Type} {b : Session σ ε}

/-! ## A call's sending -/

/-- A call that may still post: its request, its posts so far, and whether the next
step towards a post needs no further lookup. -/
structure Sending where
  intent : OrderIntent
  posts : Nat
  ready : Bool

def Phase.sending : Phase ε → Option Sending
  | .post intent _ retries => some ⟨intent, retries, true⟩
  | .posted intent _ retries | .unknown intent retries | .lookup intent _ retries =>
    some ⟨intent, retries + 1, false⟩
  | .retry intent retries => some ⟨intent, retries + 1, true⟩
  | _ => none

/-- The stored request a phase carries. -/
def Phase.request : Phase ε → Option OrderIntent
  | .initialGate intent _ | .prepare intent _ | .finalGate intent _ | .claim intent _ _
  | .post intent _ _ | .posted intent _ _ | .unknown intent _ | .lookup intent _ _
  | .retry intent _ | .rejecting intent _ | .noSend intent _ => some intent
  | _ => none

/-- The stored intent is the request, but for its state. -/
def Requested (s : Store) (intent : OrderIntent) : Prop :=
  ∃ row, s.orderIntents.get? intent.intentId = some row ∧ row.withState intent.state = intent

variable {i intent r : OrderIntent} {s s' : Store}

theorem Requested.evolves (h : Requested s i) (he : Evolves s s') : Requested s' i := by
  obtain ⟨row, hrow, hsame⟩ := h; obtain ⟨q, hq, _⟩ := he.intents _ row hrow
  exact ⟨_, hq, hsame⟩

theorem Requested.clientOrderId {row : OrderIntent} (h : Requested s i)
    (hrow : s.orderIntents.get? i.intentId = some row) : row.clientOrderId = i.clientOrderId := by
  obtain ⟨row', hrow', hsame⟩ := h; rw [hrow] at hrow'; cases hrow'
  calc row.clientOrderId = (row.withState i.state).clientOrderId := rfl
    _ = i.clientOrderId := by rw [hsame]

def Action.isSubmit (intentId : String) : Action → Bool
  | .submit i _ _ => decide (i = intentId)
  | .lookup _ _ _ => false

/-! ## What one step does -/

/-- What one step does to the call's sending. -/
inductive Sends (c : Coordinator b η) (s : σ) (ph : Phase ε) (st : Step σ ε) : Prop
  /-- The call does not send, or no longer does. -/
  | aside (after : st.phase.sending = none) (quiet : ∀ a ∈ st.action, ∀ i, a.isSubmit i = false)
  | kept (after : st.phase.sending = ph.sending) (quiet : st.action = none)
  /-- The compare-and-set of the send state. -/
  | claimed (intent : OrderIntent) (before : ph.sending = none) (quiet : st.action = none)
      (unsent : ¬ PastCreated (b.ledger s) intent.intentId)
      (taken : PastCreated (b.ledger st.store) intent.intentId)
      (after : st.phase.sending = some ⟨intent, 0, true⟩)
  | submitted (intent : OrderIntent) (posts : Nat) (sent : Bool)
      (before : ph.sending = some ⟨intent, posts, true⟩)
      (action : st.action = some (.submit intent.intentId intent.clientOrderId sent))
      (after : st.phase.sending = none ∨ st.phase.sending = some ⟨intent, posts + 1, false⟩)
  | missed (intent : OrderIntent) (posts : Nat)
      (before : ph.sending = some ⟨intent, posts, false⟩)
      (within : posts ≤ c.maxNotFoundRetries)
      (action : st.action = some (.lookup intent.intentId intent.clientOrderId false))
      (after : st.phase.sending = some ⟨intent, posts, true⟩)

/-- What one step does. -/
structure Moved (c : Coordinator b η) (s : σ) (ph : Phase ε) (st : Step σ ε) : Prop where
  evolves : b.Evolves s st.store
  request : (∀ i, ph.request = some i → Requested (b.ledger s) i) →
    ∀ i, st.phase.request = some i → Requested (b.ledger st.store) i
  sends : Sends c s ph st

section Step

variable {c : Coordinator b η} {s : σ} {ph ph' : Phase ε} {α : Type}

theorem Moved.quiet (hs : ph'.sending = none) (hr : ph'.request = none ∨ ph'.request = ph.request)
    {action : Option Action} (ha : ∀ a ∈ action, ∀ i, a.isSubmit i = false) :
    Moved c s ph { phase := ph', store := s, action := action } where
  evolves := refl_of b.Evolves s
  request hrequest i hi := by
    rcases hr with hr | hr
    · rw [hr] at hi
      cases hi
    · exact hrequest i (hr ▸ hi)
  sends := .aside hs ha

theorem Moved.wrote {s' : σ} (he : b.Evolves s s') (hs : ph'.sending = none)
    (hr : ph'.request = none) : Moved c s ph { phase := ph', store := s' } where
  evolves := he
  request _ i hi := by
    rw [hr] at hi
    cases hi
  sends := .aside hs (by simp)

variable {x : Txn σ ε α} {next : α → Phase ε}

theorem Moved.commit {x : Txn σ ε α} {next : α → Phase ε} (hx : Moves b.Evolves x)
    (hs : ∀ a, (next a).sending = none)
    (hr : (∀ i, ph.request = some i → Requested (b.ledger s) i) → ∀ a s', x s = .ok a s' →
      ∀ i, (next a).request = some i → Requested (b.ledger s') i) :
    Moved c s ph (commit x next raised s) := by
  unfold L3.commit
  cases hc : Txn.immediate x s with
  | ok a s' =>
    have hok := immediate_ok.1 hc
    exact ⟨hx _ _ _ hok, fun hrequest => hr hrequest a s' hok, .aside (hs a) (by simp)⟩
  | error e s' =>
    rw [immediate_error hc]; exact Moved.quiet rfl (.inl rfl) (by simp)

theorem Moved.commit_wrote (hx : Moves b.Evolves x) (hs : ∀ a, (next a).sending = none)
    (hr : ∀ a, (next a).request = none) : Moved c s ph (L3.commit x next raised s) :=
  .commit hx hs fun _ a _ _ i hi => by
    rw [hr a] at hi
    cases hi

theorem Moved.commit_kept (hx : Moves b.Evolves x) (hs : ∀ a, (next a).sending = ph.sending)
    (hr : ∀ a, (next a).request = ph.request) : Moved c s ph (L3.commit x next raised s) := by
  unfold L3.commit
  cases hc : Txn.immediate x s with
  | ok a s' =>
    have hok := immediate_ok.1 hc
    refine ⟨hx _ _ _ hok, fun hrequest i hi => ?_, .kept (hs a) rfl⟩
    exact (hrequest i (hr a ▸ hi)).evolves (hx _ _ _ hok)
  | error e s' =>
    rw [immediate_error hc]; exact Moved.quiet rfl (.inl rfl) (by simp)

end Step

/-! ## The transactions -/

theorem transition_evolves (i : String) (target expected : IntentState) :
    Moves Evolves (transition i target expected) :=
  stored_evolves (transitionOrderIntent_evolves i target expected)

theorem claimExit_evolves (intent : OrderIntent) : Moves Evolves (claimExit intent) := by
  refine Moves.get.bind fun s => (Moves.require _ _).bind fun _ => ?_; split
  · exact (stored_evolves (createOrderIntent_evolves _)).bind fun _ =>
      stored_evolves (transitionOrderIntent_evolves _ _ _)
  · exact (Moves.require _ _).bind fun _ => stored_evolves (transitionOrderIntent_evolves _ _ _)

theorem prepareIntent_evolves (intent : OrderIntent) (purpose : OrderPurpose) :
    Moves Evolves (prepareIntent intent purpose) :=
  Moves.ite (claimExit_evolves intent) (transition_evolves _ _ _)

theorem recordUnknownIncident_evolves (sha256 : String → String) (intent : OrderIntent)
    (retries : Nat) : Moves Evolves (recordUnknownIncident sha256 intent retries) :=
  (stored_evolves (createIncident_evolves _)).bind fun _ => Moves.pure _

theorem transition_stored {i : String} {target expected : IntentState}
    (h : transition i target expected s = .ok r s') : s'.orderIntents.get? r.intentId = some r := by
  obtain ⟨row, hrow, _, _, rfl, rfl⟩ := transitionOrderIntent_ok (stored_ok.1 h)
  have hid : row.intentId = i := (Table.get?_some hrow).2
  rw [OrderIntent.withState_intentId, hid, setState_get?, if_pos rfl, hrow]; rfl

theorem requested_row {row : OrderIntent} (h : s.orderIntents.get? row.intentId = some row) :
    Requested s row := ⟨row, h, rfl⟩

variable {purpose : OrderPurpose}

theorem prepareIntent_stored (h : prepareIntent intent purpose s = .ok r s') :
    s'.orderIntents.get? r.intentId = some r := by
  unfold prepareIntent at h; split at h
  · unfold claimExit at h; simp only [bind_ok, require_ok] at h
    obtain ⟨t, s₁, hget, _, _, ⟨_, rfl⟩, h⟩ := h
    cases hrow : t.orderIntents.get? intent.intentId with
    | none | some _ =>
      rw [hrow] at h; obtain ⟨_, _, _, h⟩ := bind_ok.1 h
      exact transition_stored h
  · exact transition_stored h

theorem storedIntent_ok {expected : OrderIntent} (h : storedIntent expected s = .ok r s') :
    s' = s ∧ s.orderIntents.get? expected.intentId = some r ∧
      r.withState expected.state = expected := by
  obtain ⟨found, s₁, hget, h⟩ := bind_ok.1 h
  obtain ⟨rfl, rfl⟩ := getOrderIntent_ok.1 (stored_ok.1 hget)
  cases hrow : s₁.orderIntents.get? expected.intentId with
  | none =>
    rw [hrow] at h; cases h
  | some row =>
    rw [hrow] at h; simp only [bind_ok, require_ok, pure_ok] at h
    obtain ⟨_, _, ⟨hsame, rfl⟩, rfl, rfl⟩ := h; exact ⟨rfl, rfl, hsame⟩

theorem storedIntent_evolves (expected : OrderIntent) : Moves Evolves (storedIntent expected) :=
  fun s r s' h => by
    obtain ⟨rfl, _⟩ := storedIntent_ok h
    exact .rfl' _

theorem storedOrder_evolves (intent : OrderIntent) : Moves Evolves (storedOrder intent) := by
  refine Moves.get.bind fun s => ?_; split
  · exact Moves.throw _
  · exact (Moves.require _ _).bind fun _ => Moves.pure _

theorem sendObjections_evolves (c : Coordinator b η) (reading : η) (intent : OrderIntent)
    (purpose : OrderPurpose) (reasons : List String) :
    Moves b.Evolves (c.sendObjections reading intent purpose reasons) := by
  unfold Coordinator.sendObjections; split
  · next check hcheck =>
    exact Moves.ite (c.check_evolves check hcheck reading intent purpose) (Moves.pure _)
  · exact Moves.pure _

theorem recordRefusal_evolves (c : Coordinator b η) (reading : η) (intent : OrderIntent)
    (purpose : OrderPurpose) (reasons : List String) :
    Moves b.Evolves (c.recordRefusal reading intent purpose reasons) := by
  unfold Coordinator.recordRefusal; split
  · next refuse _ hrefuse =>
    exact Moves.ite (Moves.pure _) (c.refusal_evolves refuse hrefuse reading intent purpose reasons)
  · exact Moves.pure _

variable {c : Coordinator b η}

/-- **The claim.** After its hooks, the compare-and-set took the intent from
`ORDER_CREATED`: to `SUBMITTING` when no reason was left, else to `ERROR`. -/
theorem claimSend_ok {reading : η} {claimed : OrderIntent} {reasons left : List String} {s s' : σ}
    (h : c.claimSend reading intent purpose reasons s = .ok (left, claimed) s') :
    ∃ objections s₁ s₂ t, left = reasons ++ objections ∧
      c.sendObjections reading intent purpose reasons s = .ok objections s₁ ∧
      c.recordRefusal reading intent purpose left s₁ = .ok ⟨⟩ s₂ ∧
      transition intent.intentId (if left = [] then .submitting else .error) .orderCreated
        (b.ledger s₂) = .ok claimed t ∧ s' = b.setLedger s₂ t := by
  unfold Coordinator.claimSend at h
  simp only [bind_ok, pure_ok, Prod.mk.injEq] at h
  obtain ⟨objections, s₁, hcheck, _, s₂, hrefuse, a, s₃, hset, ⟨rfl, rfl⟩, rfl⟩ := h
  obtain ⟨t, ht, rfl⟩ := b.exec_ok.1 hset
  exact ⟨objections, s₁, s₂, t, rfl, hcheck, hrefuse, ht, rfl⟩

theorem claimSend_evolves (c : Coordinator b η) (reading : η) (intent : OrderIntent)
    (purpose : OrderPurpose) (reasons : List String) :
    Moves b.Evolves (c.claimSend reading intent purpose reasons) :=
  (sendObjections_evolves c reading intent purpose reasons).bind fun objections =>
    (recordRefusal_evolves c reading intent purpose (reasons ++ objections)).bind fun _ =>
      (b.exec_evolves (transition_evolves _ _ _)).bind fun _ => Moves.pure _

/-! ## One step of a call -/

theorem claim_moved (c : Coordinator b η) (s : σ) (reading : η) (intent : OrderIntent)
    (purpose : OrderPurpose) (reasons : List String) : Moved c s (.claim intent purpose reasons)
      (commit (c.claimSend reading intent purpose reasons) (Coordinator.afterClaim intent) raised s) := by
  unfold commit
  cases hc : immediate (c.claimSend reading intent purpose reasons) s with
  | error e s' =>
    rw [immediate_error hc]; exact Moved.quiet rfl (.inl rfl) (by simp)
  | ok r s' =>
    obtain ⟨left, claimed⟩ := r; have hok := immediate_ok.1 hc
    have hev := claimSend_evolves c reading intent purpose reasons _ _ _ hok
    cases left with
    | cons reason rest => exact Moved.wrote hev rfl rfl
    | nil =>
      obtain ⟨objections, s₁, s₂, t, hleft, hcheck, hrefuse, hset, rfl⟩ := claimSend_ok hok
      obtain ⟨row, hrow, hstate, _, _, ht⟩ := transitionOrderIntent_ok (stored_ok.1 hset)
      refine ⟨hev, fun hrequest i hi => ?_, .claimed intent rfl rfl ?_ ?_ rfl⟩
      · cases hi; exact (hrequest intent rfl).evolves hev
      · -- the hooks only evolve the ledger, and after them the intent is ORDER_CREATED
        intro hpast
        have h₂ := trans_of b.Evolves (sendObjections_evolves c _ _ _ _ _ _ _ hcheck)
          (recordRefusal_evolves c _ _ _ _ _ _ _ hrefuse)
        obtain ⟨row', hrow', _, hne⟩ := h₂.pastCreated hpast; rw [hrow] at hrow'
        cases hrow'; exact hne hstate
      · show PastCreated (b.ledger (b.setLedger s₂ t)) intent.intentId
        rw [b.ledger_set, ht]
        refine ⟨row.withState .submitting, ?_, by simp, by simp⟩
        rw [setState_get?, if_pos rfl, hrow]; rfl

theorem adoptStep_moved (c : Coordinator b η) (s : σ) (intent : OrderIntent) (order : BrokerOrder)
    (onProtocol : Option IntentState) (recovered : Bool) (retries : Nat) (ph : Phase ε) :
    Moved c s ph (c.adoptStep intent order onProtocol recovered retries s) := by
  unfold Coordinator.adoptStep; split
  · next adopted t hok =>
    have hev : b.Evolves s (b.setLedger s t) := by
      show Evolves (b.ledger s) (b.ledger (b.setLedger s t)); rw [b.ledger_set]
      exact c.adopt_evolves intent order _ _ _ (immediate_ok.1 hok)
    exact Moved.wrote hev rfl rfl
  · split
    · exact Moved.quiet rfl (.inl rfl) (by simp)
    · exact Moved.quiet rfl (.inl rfl) (by simp)
  · exact Moved.quiet rfl (.inl rfl) (by simp)

theorem reconcileAccepted_evolves (intent : OrderIntent) (found : BrokerOrder) :
    Moves Evolves (reconcileAccepted intent found) := by
  refine ((Moves.require _ _).bind fun _ => Moves.get.bind fun s => ?_).immediate
  split
  · exact Moves.throw _
  refine (Moves.require _ _).bind fun _ =>
    (stored_evolves (updateBrokerOrderLifecycle_evolves _)).bind fun _ => ?_
  split
  · exact Moves.pure _
  · exact Moves.ite (Moves.pure _) (stored_evolves (transitionOrderIntent_evolves _ _ _))

theorem reconcileStep_moved (c : Coordinator b η) (s : σ) (intent : OrderIntent)
    (found : BrokerOrder) (ph : Phase ε) : Moved c s ph (b.reconcileStep intent found s) := by
  unfold Session.reconcileStep; split
  · next r t hok =>
    have hev : b.Evolves s (b.setLedger s t) := by
      show Evolves (b.ledger s) (b.ledger (b.setLedger s t)); rw [b.ledger_set]
      exact reconcileAccepted_evolves intent found _ _ _ hok
    exact Moved.wrote hev rfl rfl
  all_goals exact Moved.quiet rfl (.inl rfl) (by simp)

theorem lookupAction_quiet {reply : LookupReply} :
    ∀ a ∈ Coordinator.lookupAction intent reply, ∀ i, a.isSubmit i = false := by
  intro a ha i
  cases reply with
  | error f => cases ha
  | ok found =>
    cases ha; rfl

theorem resume_sending (purpose : OrderPurpose) (stored : OrderIntent) :
    (resume purpose stored : Phase ε).sending = none := by
  unfold resume; cases stored.state <;> rfl

theorem resume_request {stored : OrderIntent}
    (h : (resume purpose stored : Phase ε).request = some i) : i = stored := by
  unfold resume at h
  cases hs : stored.state <;> rw [hs] at h <;> cases h <;> rfl

theorem resumeReconcile_sending (stored : OrderIntent) :
    (resumeReconcile stored : Phase ε).sending = none ∧
      (resumeReconcile stored : Phase ε).request = none := by
  unfold resumeReconcile; cases stored.state <;> exact ⟨rfl, rfl⟩

theorem afterSubmit_sending (intent submitting : OrderIntent) (retries : Nat)
    (reply : SubmitReply) :
    ((afterSubmit intent submitting retries reply : Phase ε).sending = none ∨
      (afterSubmit intent submitting retries reply : Phase ε).sending =
        some ⟨intent, retries + 1, false⟩) ∧
    ((afterSubmit intent submitting retries reply : Phase ε).request = none ∨
      (afterSubmit intent submitting retries reply : Phase ε).request = some intent) := by
  unfold afterSubmit; split
  · exact ⟨.inl rfl, .inl rfl⟩
  · exact ⟨.inr rfl, .inr rfl⟩
  · exact ⟨.inr rfl, .inr rfl⟩
  · exact ⟨.inl rfl, .inl rfl⟩
  · split
    · exact ⟨.inl rfl, .inr rfl⟩
    · exact ⟨.inr rfl, .inr rfl⟩

theorem afterRecovery_sending (stored : OrderIntent) (reply : LookupReply) :
    (Coordinator.afterRecovery stored reply : Phase ε).sending = none ∧
      (Coordinator.afterRecovery stored reply : Phase ε).request = none := by
  unfold Coordinator.afterRecovery
  repeat' split
  all_goals exact ⟨rfl, rfl⟩

theorem afterReconcile_sending (stored : OrderIntent) (reply : LookupReply) :
    (Coordinator.afterReconcile stored reply : Phase ε).sending = none ∧
      (Coordinator.afterReconcile stored reply : Phase ε).request = none := by
  unfold Coordinator.afterReconcile
  repeat' split
  all_goals exact ⟨rfl, rfl⟩

theorem raiseRefusal_sending (c : Coordinator b η) (intent : OrderIntent)
    (failure : BrokerFailure) : (c.raiseRefusal intent failure).sending = none ∧
      ((c.raiseRefusal intent failure).request = none ∨
        (c.raiseRefusal intent failure).request = some intent) := by
  unfold Coordinator.raiseRefusal; split
  · exact ⟨rfl, .inr rfl⟩
  · exact ⟨rfl, .inl rfl⟩

/-- The lookup after an ambiguous send: a miss within the bound readies the next post. -/
theorem lookup_moved (c : Coordinator b η) (s : σ) (intent submitting : OrderIntent)
    (retries : Nat) (reply : LookupReply) :
    Moved c s (.lookup intent submitting retries)
      { phase := c.afterLookup intent submitting retries reply, store := s,
        action := Coordinator.lookupAction intent reply } := by
  unfold Coordinator.afterLookup
  split
  · exact Moved.quiet rfl (.inl rfl) lookupAction_quiet
  · split
    · exact Moved.quiet rfl (.inl rfl) lookupAction_quiet
    next hmax =>
    refine ⟨refl_of b.Evolves s, fun hr i hi => hr i hi, ?_⟩
    exact .missed intent (retries + 1) rfl (by omega) rfl rfl
  · split
    · exact Moved.quiet rfl (.inl rfl) lookupAction_quiet
    · exact Moved.quiet rfl (.inl rfl) lookupAction_quiet

variable {ph : Phase ε}

/-- A `submit_order` is called, and answered at once when its request may not leave. -/
theorem post_moved (c : Coordinator b η) (s : σ) (intent submitting : OrderIntent) (retries : Nat)
    (sent : Bool) (hs : ph.sending = none ∨ ph.sending = some ⟨intent, retries + 1, false⟩)
    (hr : ph.request = none ∨ ph.request = some intent) :
    Moved c s (.post intent submitting retries)
      { phase := ph, store := s,
        action := some (.submit intent.intentId intent.clientOrderId sent) } where
  evolves := refl_of b.Evolves s
  request hrequest i hi := by
    rcases hr with hr | hr
    · rw [hr] at hi
      cases hi
    · rw [hr] at hi
      exact hrequest i hi
  sends := .submitted intent retries sent rfl rfl hs

variable {sha256 : String → String}

/-- **One step** of a call. -/
theorem step_moved {s : σ}
    {input : Input η} {st : Step σ ε} (h : c.step sha256 s ph input = some st) :
    Moved c s ph st := by
  have hquiet : ∀ a ∈ (none : Option Action), ∀ i, a.isSubmit i = false := by simp
  cases ph <;> cases input <;> try cases h
  case submitDurable.run intent purpose reading =>
    refine .commit (b.exec_evolves (storedIntent_evolves _)) (resume_sending _) ?_
    intro _ row s' hrow i hi; obtain ⟨t, ht, rfl⟩ := b.exec_ok.1 hrow
    obtain ⟨rfl, hget, _⟩ := storedIntent_ok ht
    rw [resume_request hi, b.ledger_set]
    exact requested_row ((Table.get?_some hget).2 ▸ hget)
  case reconcileDurable.run intent reading =>
    exact .commit_wrote (b.exec_evolves (storedIntent_evolves _))
      (fun row => (resumeReconcile_sending row).1) fun row => (resumeReconcile_sending row).2
  case initialGate.gate stored purpose reasons =>
    split
    · refine .quiet ?_ (.inr ?_) hquiet <;> rfl
    · refine .quiet ?_ (.inl ?_) hquiet <;> rfl
  case initialGate.acquisitionFailed stored purpose failure =>
    refine .quiet ?_ (.inl ?_) hquiet <;> rfl
  case prepare.run stored purpose reading =>
    refine .commit (b.exec_evolves (prepareIntent_evolves _ _)) (fun _ => rfl) ?_
    intro _ row s' hrow i hi; cases hi; obtain ⟨t, ht, rfl⟩ := b.exec_ok.1 hrow
    rw [b.ledger_set]; exact requested_row (prepareIntent_stored ht)
  case finalGate.gate intent purpose reasons => refine .quiet ?_ (.inr ?_) hquiet <;> rfl
  case finalGate.acquisitionFailed intent purpose failure =>
    refine .quiet ?_ (.inl ?_) hquiet <;> rfl
  case claim.run intent purpose reasons reading =>
    exact claim_moved c s reading intent purpose reasons
  case post.send intent submitting retries =>
    exact post_moved c s intent submitting retries true (.inr rfl) (.inr rfl)
  case post.submitReply intent submitting retries reply =>
    rw [Coordinator.step] at h; split at h
    · cases h
      obtain ⟨hs, hr⟩ := afterSubmit_sending intent submitting retries reply
      exact post_moved c s intent submitting retries false hs hr
    · cases h
  case posted.submitReply intent submitting retries reply =>
    rw [Coordinator.step] at h; split at h
    · cases h
    cases h
    obtain ⟨hs, hr⟩ := afterSubmit_sending (ε := ε) intent submitting retries reply
    have hr' : (afterSubmit intent submitting retries reply : Phase ε).request = none ∨
        (afterSubmit intent submitting retries reply : Phase ε).request =
          (Phase.posted intent submitting retries : Phase ε).request := hr
    rcases hs with hs | hs
    · exact .quiet hs hr' hquiet
    refine ⟨refl_of b.Evolves s, fun hrequest i hi => ?_, .kept hs rfl⟩
    rcases hr' with hr | hr
    · rw [hr] at hi; cases hi
    · rw [hr] at hi; exact hrequest i hi
  case rejecting.run intent failure reading =>
    obtain ⟨hs, hr⟩ := raiseRefusal_sending c intent failure
    have hx : Moves b.Evolves (b.exec (transition intent.intentId .rejected .submitting)) :=
      b.exec_evolves (transition_evolves _ _ _)
    refine .commit hx (fun _ => hs) fun hrequest a s' hok i hi => ?_
    rcases hr with hr | hr
    · rw [hr] at hi; cases hi
    · rw [hr] at hi; exact (hrequest i hi).evolves (hx _ _ _ hok)
  case noSend.run intent failure reading =>
    refine .commit_wrote ?_ (fun _ => rfl) fun _ => rfl
    unfold Coordinator.noSend; split
    · next record hrecord => exact c.noSend_evolves record hrecord reading intent
    · exact Moves.pure _
  case unknown.run reading | retry.run reading =>
    exact .commit_kept (b.exec_evolves (transition_evolves _ _ _)) (fun _ => rfl) fun _ => rfl
  case lookup.lookupReply intent submitting retries reply =>
    exact lookup_moved c s intent submitting retries reply
  case incident.run intent retries message reading =>
    exact .commit_wrote (b.exec_evolves (recordUnknownIncident_evolves _ _ _)) (fun _ => rfl)
      fun _ => rfl
  case adopting.run intent order onProtocol recovered retries reading =>
    exact adoptStep_moved c s intent order onProtocol recovered retries _
  case failing.run reading | recoverUnknown.run reading =>
    exact .commit_wrote (b.exec_evolves (transition_evolves _ _ _)) (fun _ => rfl) fun _ => rfl
  case recovering.lookupReply stored reply =>
    obtain ⟨hs, hr⟩ := afterRecovery_sending (ε := ε) stored reply
    exact .quiet hs (.inl hr) lookupAction_quiet
  case reconciling.lookupReply stored reply =>
    obtain ⟨hs, hr⟩ := afterReconcile_sending (ε := ε) stored reply
    exact .quiet hs (.inl hr) lookupAction_quiet
  case reconcile.run stored found reading => exact reconcileStep_moved c s stored found _
  case storedOrder.run stored reading =>
    exact .commit_wrote (b.exec_evolves (storedOrder_evolves _)) (fun _ => rfl) fun _ => rfl

/-! ## What the broker sees -/

section Log

variable {ι : Type}

/-- The posts of one intent, newest first. -/
def submits (intentId : String) (log : List (ι × Action)) : List (ι × Action) :=
  log.filter fun a => a.2.isSubmit intentId

/-- Since the last post of the intent a lookup by `call` has found nothing. -/
def MissedSince (call : ι) (intentId clientOrderId : String) (log : List (ι × Action)) : Prop :=
  (call, Action.lookup intentId clientOrderId false) ∈
    log.takeWhile fun a => !a.2.isSubmit intentId

/-- Every post but the first follows a lookup of its id that found nothing, made by
its own call since the post before. -/
def Spaced (intentId : String) (log : List (ι × Action)) : Prop :=
  ∀ later call clientOrderId sent earlier,
    log = later ++ (call, .submit intentId clientOrderId sent) :: earlier →
      submits intentId earlier = [] ∨ MissedSince call intentId clientOrderId earlier

variable {i c : String} {p : ι} {a : ι × Action} {log : List (ι × Action)}

theorem submits_cons_quiet (h : a.2.isSubmit i = false) : submits i (a :: log) = submits i log :=
  List.filter_cons_of_neg (by simp [h])

theorem submits_cons_submit (h : a.2.isSubmit i = true) :
    submits i (a :: log) = a :: submits i log := List.filter_cons_of_pos h

theorem MissedSince.cons (h : MissedSince p i c log) (ha : a.2.isSubmit i = false) :
    MissedSince p i c (a :: log) := by
  unfold MissedSince; rw [List.takeWhile_cons_of_pos (by simp [ha])]
  exact List.mem_cons_of_mem _ h

theorem missedSince_now : MissedSince p i c ((p, .lookup i c false) :: log) := by
  unfold MissedSince; exact List.mem_cons_self

theorem spaced_nil : Spaced i ([] : List (ι × Action)) := by
  intro later call client sent earlier h; exact absurd h.symm (by simp)

theorem Spaced.cons (h : Spaced i log) (ha : ∀ client sent, a.2 = .submit i client sent →
      submits i log = [] ∨ MissedSince a.1 i client log) : Spaced i (a :: log) := by
  intro later call client sent earlier heq
  rcases List.cons_eq_append_iff.1 heq with ⟨_, hnow⟩ | ⟨rest, _, hrest⟩
  · obtain ⟨rfl, rfl⟩ := List.cons.inj hnow; exact ha client sent rfl
  · exact h rest call client sent earlier hrest

theorem Spaced.cons_quiet (h : Spaced i log) (ha : a.2.isSubmit i = false) :
    Spaced i (a :: log) := by
  refine h.cons fun client sent hsubmit => ?_; rw [hsubmit] at ha
  exact absurd ha (by simp [Action.isSubmit])

end Log

/-! ## Any number of calls -/

/-- The store, where each call stands, and what the broker has seen, newest first. -/
structure World (ι σ ε : Type) where
  store : σ
  phases : ι → Phase ε
  log : List (ι × Action)

/-- The next move: of a call, of a dying process, or of another transaction. -/
inductive SendLabel (ι η Λ : Type)
  | submitDurable (call : ι) (intent : OrderIntent) (purpose : OrderPurpose)
  | reconcileDurable (call : ι) (intent : OrderIntent)
  | run (call : ι) (input : Input η)
  | crash (call : ι)
  | write (l : Λ)

section Calls

variable {ι Λ : Type}

/-! ## The invariant of one intent -/

/-- One call holds the send of intent `i`: its posts are all posts, and the retry
bound holds of their number. -/
structure SingleSender (coordinator : ι → Coordinator b η) (i : String) (w : World ι σ ε) :
    Prop where
  request : ∀ p j, (w.phases p).request = some j → Requested (b.ledger w.store) j
  taken : ∀ p x, (w.phases p).sending = some x → x.intent.intentId = i →
    PastCreated (b.ledger w.store) i
  left : submits i w.log ≠ [] → PastCreated (b.ledger w.store) i
  one : ∀ p x, (w.phases p).sending = some x → x.intent.intentId = i →
    (∀ q y, (w.phases q).sending = some y → y.intent.intentId = i → q = p) ∧
      ∀ a ∈ submits i w.log, a.1 = p
  same : ∀ a ∈ submits i w.log, ∀ a' ∈ submits i w.log, a.1 = a'.1
  client : ∀ a ∈ submits i w.log, ∃ row sent, (b.ledger w.store).orderIntents.get? i = some row ∧
    a.2 = .submit i row.clientOrderId sent
  count : ∀ p x, (w.phases p).sending = some x → x.intent.intentId = i →
    (submits i w.log).length = x.posts ∧
      (x.ready = true → x.posts ≤ (coordinator p).maxNotFoundRetries ∧
        (x.posts = 0 ∨ MissedSince p i x.intent.clientOrderId w.log))
  bound : ∀ a ∈ submits i w.log,
    (submits i w.log).length ≤ 1 + (coordinator a.1).maxNotFoundRetries
  spaced : Spaced i w.log

theorem sending_request {x : Sending} (h : ph.sending = some x) : ph.request = some x.intent := by
  cases ph <;> cases h <;> rfl

variable {w : World ι σ ε} {coordinator : ι → Coordinator b η}

theorem SingleSender.client_evolves {i : String} (h : SingleSender coordinator i w) {s' : σ}
    (he : b.Evolves w.store s') : ∀ a ∈ submits i w.log,
      ∃ row sent, (b.ledger s').orderIntents.get? i = some row ∧
        a.2 = .submit i row.clientOrderId sent := by
  intro a ha; obtain ⟨row, sent, hrow, hact⟩ := h.client a ha
  obtain ⟨q, hq, _⟩ := he.intents i row hrow; exact ⟨_, sent, hq, hact⟩

theorem SingleSender.write {i : String} (h : SingleSender coordinator i w) {s' : σ}
    (he : b.Evolves w.store s') : SingleSender coordinator i { w with store := s' } where
  request p j hj := (h.request p j hj).evolves he
  taken p x hx hi := he.pastCreated (h.taken p x hx hi)
  left hne := he.pastCreated (h.left hne)
  one := h.one
  same := h.same
  client := h.client_evolves he
  count := h.count
  bound := h.bound
  spaced := h.spaced

/-! ## Moves -/

variable [DecidableEq ι]

/-- One step of one call. -/
def World.move (w : World ι σ ε) (call : ι) (st : Step σ ε) : World ι σ ε where
  store := st.store
  phases := Function.update w.phases call st.phase
  log := (st.action.map fun a => (call, a)).toList ++ w.log

def World.goto (w : World ι σ ε) (call : ι) (phase : Phase ε) : World ι σ ε :=
  w.move call { phase := phase, store := w.store }

def SendStep (sha256 : String → String) (coordinator : ι → Coordinator b η)
    (write : σ → Λ → σ → Prop) (w : World ι σ ε) : SendLabel ι η Λ → World ι σ ε → Prop
  | .submitDurable call intent purpose, w' =>
    w.phases call = .idle ∧ w' = w.goto call (.submitDurable intent purpose)
  | .reconcileDurable call intent, w' =>
    w.phases call = .idle ∧ w' = w.goto call (.reconcileDurable intent)
  | .run call input, w' =>
    ∃ st, (coordinator call).step sha256 w.store (w.phases call) input = some st ∧
      w' = w.move call st
  | .crash call, w' => w' = w.goto call .crashed
  | .write l, w' => ∃ s, write w.store l s ∧ w' = { w with store := s }

/-- Calls over a shared store, which other transactions write along `write`. -/
def sending (sha256 : String → String) (coordinator : ι → Coordinator b η)
    (write : σ → Λ → σ → Prop) : LTS (World ι σ ε) (SendLabel ι η Λ) where
  init w := (∀ call, w.phases call = .idle) ∧ w.log = []
  step := SendStep sha256 coordinator write

section Invariant

variable {coordinator : ι → Coordinator b η} {i : String} {w : World ι σ ε} {p : ι}
  {st : Step σ ε}

theorem move_phase (q : ι) : (w.move p st).phases q = if q = p then st.phase else w.phases q :=
  Function.update_apply ..

theorem move_sending {q : ι} {x : Sending} (h : ((w.move p st).phases q).sending = some x) :
    (q = p ∧ st.phase.sending = some x) ∨ (q ≠ p ∧ (w.phases q).sending = some x) := by
  rw [move_phase] at h; split at h
  · next hq => exact .inl ⟨hq, h⟩
  · next hq => exact .inr ⟨hq, h⟩

theorem SingleSender.request_move (h : SingleSender coordinator i w)
    (hm : Moved (coordinator p) w.store (w.phases p) st) (q : ι) (j : OrderIntent)
    (hj : ((w.move p st).phases q).request = some j) : Requested (b.ledger st.store) j := by
  rw [move_phase] at hj; split at hj
  · exact hm.request (fun j hj => h.request p j hj) j hj
  · exact (h.request q j hj).evolves hm.evolves

/-- A move that posts nothing for `i` and after which the call sends for `i` only if it
did before, no further along. -/
theorem SingleSender.quiet (h : SingleSender coordinator i w)
    (hm : Moved (coordinator p) w.store (w.phases p) st)
    (hquiet : ∀ a ∈ st.action, a.isSubmit i = false)
    (hs : ∀ x, st.phase.sending = some x → x.intent.intentId = i →
      (w.phases p).sending = some x) : SingleSender coordinator i (w.move p st) := by
  have hlog : submits i (w.move p st).log = submits i w.log := by
    show submits i ((st.action.map fun a => (p, a)).toList ++ w.log) = _
    cases hact : st.action with
    | none => rfl
    | some a => exact submits_cons_quiet (hquiet a (by simp [hact]))
  have hmissed : ∀ q c, MissedSince q i c w.log → MissedSince q i c (w.move p st).log := by
    intro q c hc
    show MissedSince q i c ((st.action.map fun a => (p, a)).toList ++ w.log)
    cases hact : st.action with
    | none => exact hc
    | some a => exact hc.cons (hquiet a (by simp [hact]))
  have hbefore : ∀ q x, ((w.move p st).phases q).sending = some x → x.intent.intentId = i →
      (w.phases q).sending = some x := by
    intro q x hx hi; rcases move_sending hx with ⟨rfl, hnow⟩ | ⟨_, hkept⟩
    · exact hs x hnow hi
    · exact hkept
  refine ⟨h.request_move hm, fun q x hx hi => ?_, fun hne => ?_, fun q x hx hi => ?_, ?_, ?_,
    fun q x hx hi => ?_, ?_, ?_⟩
  · exact hm.evolves.pastCreated (h.taken q x (hbefore q x hx hi) hi)
  · exact hm.evolves.pastCreated (h.left (hlog ▸ hne))
  · obtain ⟨hone, hall⟩ := h.one q x (hbefore q x hx hi) hi
    exact ⟨fun r y hy hi' => hone r y (hbefore r y hy hi') hi', hlog ▸ hall⟩
  · exact hlog ▸ h.same
  · exact hlog ▸ h.client_evolves hm.evolves
  · obtain ⟨hn, hready⟩ := h.count q x (hbefore q x hx hi) hi
    refine ⟨hlog ▸ hn, fun hr => ?_⟩; obtain ⟨hmax, hmiss⟩ := hready hr
    exact ⟨hmax, hmiss.imp_right (hmissed q _)⟩
  · exact hlog ▸ h.bound
  · show Spaced i ((st.action.map fun a => (p, a)).toList ++ w.log)
    cases hact : st.action with
    | none => exact h.spaced
    | some a => exact h.spaced.cons_quiet (hquiet a (by simp [hact]))

variable {intent : OrderIntent}

section

variable (h : SingleSender coordinator i w)
include h

section

variable (hm : Moved (coordinator p) w.store (w.phases p) st)
include hm

theorem SingleSender.claimed (hquiet : st.action = none)
    (hunsent : ¬ PastCreated (b.ledger w.store) i) (htaken : PastCreated (b.ledger st.store) i)
    (hafter : st.phase.sending = some ⟨intent, 0, true⟩) :
    SingleSender coordinator i (w.move p st) := by
  have hlog : (w.move p st).log = w.log := by
    show (st.action.map fun a => (p, a)).toList ++ w.log = w.log; rw [hquiet]
    rfl
  have hempty : submits i w.log = [] := by
    by_contra hne; exact hunsent (h.left hne)
  have honly : ∀ q x, ((w.move p st).phases q).sending = some x → x.intent.intentId = i →
      q = p ∧ x = ⟨intent, 0, true⟩ := by
    intro q x hx hix; rcases move_sending hx with ⟨hq, hnow⟩ | ⟨_, hkept⟩
    · rw [hafter] at hnow; cases hnow; exact ⟨hq, rfl⟩
    · exact absurd (h.taken q x hkept hix) hunsent
  refine ⟨h.request_move hm, fun _ _ _ _ => htaken, fun _ => htaken, fun q x hx hix => ?_, ?_, ?_,
    fun q x hx hix => ?_, ?_, hlog ▸ h.spaced⟩
  · obtain ⟨rfl, _⟩ := honly q x hx hix
    refine ⟨fun r y hy hiy => (honly r y hy hiy).1, ?_⟩; rw [hlog, hempty]; simp
  · rw [hlog, hempty]; simp
  · rw [hlog, hempty]; simp
  · obtain ⟨_, rfl⟩ := honly q x hx hix; rw [hlog, hempty]
    exact ⟨rfl, fun _ => ⟨Nat.zero_le _, .inl rfl⟩⟩
  · rw [hlog, hempty]; simp

theorem SingleSender.submitted {posts : Nat} {sent : Bool}
    (hi : intent.intentId = i) (hbefore : (w.phases p).sending = some ⟨intent, posts, true⟩)
    (haction : st.action = some (.submit i intent.clientOrderId sent))
    (hafter : st.phase.sending = none ∨ st.phase.sending = some ⟨intent, posts + 1, false⟩) :
    SingleSender coordinator i (w.move p st) := by
  have hlog : (w.move p st).log = (p, .submit i intent.clientOrderId sent) :: w.log := by
    show (st.action.map fun a => (p, a)).toList ++ w.log = _; rw [haction]; rfl
  have hsubmits : submits i (w.move p st).log =
      (p, .submit i intent.clientOrderId sent) :: submits i w.log := by
    rw [hlog]; exact submits_cons_submit (by simp [Action.isSubmit])
  obtain ⟨hone, hall⟩ := h.one p _ hbefore hi
  obtain ⟨hposts, hready⟩ := h.count p _ hbefore hi
  obtain ⟨hmax, hspaced⟩ := hready rfl
  have hlength : (submits i (w.move p st).log).length = posts + 1 := by
    rw [hsubmits, List.length_cons, hposts]
  have htaken := hm.evolves.pastCreated (h.taken p _ hbefore hi)
  have hmine : ∀ a ∈ submits i (w.move p st).log, a.1 = p := by
    intro a ha; rw [hsubmits] at ha; rcases List.mem_cons.1 ha with rfl | ha
    · rfl
    · exact hall a ha
  have honly : ∀ q x, ((w.move p st).phases q).sending = some x → x.intent.intentId = i →
      q = p ∧ x = ⟨intent, posts + 1, false⟩ := by
    intro q x hx hix; rcases move_sending hx with ⟨hq, hnow⟩ | ⟨hq, hkept⟩
    · rcases hafter with hafter | hafter
      · rw [hafter] at hnow; cases hnow
      · rw [hafter] at hnow; cases hnow; exact ⟨hq, rfl⟩
    · exact absurd (hone q x hkept hix) hq
  refine ⟨h.request_move hm, fun _ _ _ _ => htaken, fun _ => htaken, fun q x hx hix => ?_, ?_, ?_,
    fun q x hx hix => ?_, ?_, ?_⟩
  · obtain ⟨rfl, _⟩ := honly q x hx hix
    exact ⟨fun r y hy hiy => (honly r y hy hiy).1, hmine⟩
  · exact fun a ha a' ha' => (hmine a ha).trans (hmine a' ha').symm
  · intro a ha; rw [hsubmits] at ha; rcases List.mem_cons.1 ha with rfl | ha
    · -- the row still is the request the call has stored
      have hrequest := (h.request p intent (sending_request hbefore)).evolves hm.evolves
      obtain ⟨row, hrow, hsame⟩ := hrequest
      have hclient := Requested.clientOrderId ⟨row, hrow, hsame⟩ hrow
      rw [hi] at hrow; exact ⟨row, sent, hrow, by rw [hclient]⟩
    · exact h.client_evolves hm.evolves a ha
  · obtain ⟨_, rfl⟩ := honly q x hx hix; exact ⟨hlength, nofun⟩
  · intro a ha; have hmax : posts ≤ (coordinator p).maxNotFoundRetries := hmax
    rw [hlength, hmine a ha]; omega
  · rw [hlog]; refine h.spaced.cons fun client sent' heq => ?_; cases heq
    rcases hspaced with hzero | hmissed
    · exact .inl (List.eq_nil_of_length_eq_zero (hposts.trans hzero))
    · exact .inr hmissed

theorem SingleSender.missed {posts : Nat} (hi : intent.intentId = i)
    (hbefore : (w.phases p).sending = some ⟨intent, posts, false⟩)
    (hwithin : posts ≤ (coordinator p).maxNotFoundRetries)
    (haction : st.action = some (.lookup i intent.clientOrderId false))
    (hafter : st.phase.sending = some ⟨intent, posts, true⟩) :
    SingleSender coordinator i (w.move p st) := by
  have hlog : (w.move p st).log = (p, .lookup i intent.clientOrderId false) :: w.log := by
    show (st.action.map fun a => (p, a)).toList ++ w.log = _; rw [haction]; rfl
  have hsubmits : submits i (w.move p st).log = submits i w.log := by
    rw [hlog]; exact submits_cons_quiet rfl
  obtain ⟨hone, hall⟩ := h.one p _ hbefore hi
  obtain ⟨hposts, _⟩ := h.count p _ hbefore hi
  have htaken := hm.evolves.pastCreated (h.taken p _ hbefore hi)
  have honly : ∀ q x, ((w.move p st).phases q).sending = some x → x.intent.intentId = i →
      q = p ∧ x = ⟨intent, posts, true⟩ := by
    intro q x hx hix; rcases move_sending hx with ⟨hq, hnow⟩ | ⟨hq, hkept⟩
    · rw [hafter] at hnow; cases hnow; exact ⟨hq, rfl⟩
    · exact absurd (hone q x hkept hix) hq
  refine ⟨h.request_move hm, fun _ _ _ _ => htaken, fun _ => htaken, fun q x hx hix => ?_, ?_, ?_,
    fun q x hx hix => ?_, ?_, ?_⟩
  · obtain ⟨rfl, _⟩ := honly q x hx hix
    exact ⟨fun r y hy hiy => (honly r y hy hiy).1, hsubmits ▸ hall⟩
  · exact hsubmits ▸ h.same
  · exact hsubmits ▸ h.client_evolves hm.evolves
  · obtain ⟨rfl, rfl⟩ := honly q x hx hix
    refine ⟨hsubmits ▸ hposts, fun _ => ⟨hwithin, .inr ?_⟩⟩; rw [hlog]
    exact missedSince_now
  · exact hsubmits ▸ h.bound
  · rw [hlog]; exact h.spaced.cons_quiet rfl

/-- **One step of a call** keeps every intent's invariant. -/
theorem SingleSender.move : SingleSender coordinator i (w.move p st) := by
  cases hm.sends with
  | aside hafter hquiet =>
    refine h.quiet hm (fun a ha => hquiet a ha i) fun x hx _ => ?_
    rw [hafter] at hx; cases hx
  | kept hafter hquiet =>
    refine h.quiet hm (by simp [hquiet]) fun x hx _ => ?_; rw [← hafter]
    exact hx
  | claimed intent hbefore hquiet hunsent htaken hafter =>
    by_cases hi : intent.intentId = i
    · exact h.claimed hm hquiet (hi ▸ hunsent) (hi ▸ htaken) hafter
    refine h.quiet hm (by simp [hquiet]) fun x hx hix => ?_; rw [hafter] at hx
    cases hx; exact absurd hix hi
  | submitted intent posts sent hbefore haction hafter =>
    by_cases hi : intent.intentId = i
    · exact h.submitted hm hi hbefore (hi ▸ haction) hafter
    refine h.quiet hm (by simp [haction, Action.isSubmit, hi]) fun x hx hix => ?_
    rcases hafter with hafter | hafter
    · rw [hafter] at hx; cases hx
    · rw [hafter] at hx; cases hx; exact absurd hix hi
  | missed intent posts hbefore hwithin haction hafter =>
    by_cases hi : intent.intentId = i
    · exact h.missed hm hi hbefore hwithin (hi ▸ haction) hafter
    refine h.quiet hm (by simp [haction, Action.isSubmit]) fun x hx hix => ?_
    rw [hafter] at hx; cases hx; exact absurd hix hi

end

theorem SingleSender.goto (hs : ph.sending = none) (hr : ph.request = none) :
    SingleSender coordinator i (w.goto p ph) :=
  h.move (Moved.quiet hs (.inl hr) (by simp))

end

end Invariant

variable {write : σ → Λ → σ → Prop}

theorem singleSender_inductive (sha256 : String → String) (coordinator : ι → Coordinator b η)
    (hwrite : ∀ s l s', write s l s' → b.Evolves s s') (i : String) :
    (sending sha256 coordinator write).Inductive (SingleSender coordinator i) where
  init w := by
    rintro ⟨hidle, hlog⟩
    have hnone : ∀ p x, (w.phases p).sending = some x → False := by
      intro p x hx; rw [hidle p] at hx; cases hx
    have hempty : submits i w.log = [] := by
      rw [hlog]; rfl
    refine ⟨fun p j hj => ?_, fun p x hx => absurd hx (hnone p x), fun hne => absurd hempty hne,
      fun p x hx => absurd hx (hnone p x), ?_, ?_, fun p x hx => absurd hx (hnone p x), ?_, ?_⟩
    · rw [hidle p] at hj; cases hj
    · simp [hempty]
    · simp [hempty]
    · simp [hempty]
    · rw [hlog]; exact spaced_nil
  step w l w' h hst := by
    cases l with
    | submitDurable _ _ _ | reconcileDurable _ _ =>
      obtain ⟨_, rfl⟩ := hst; exact h.goto rfl rfl
    | run call input =>
      obtain ⟨st, hstep, rfl⟩ := hst; exact h.move (step_moved hstep)
    | crash call =>
      cases hst; exact h.goto rfl rfl
    | write l =>
      obtain ⟨s, hs, rfl⟩ := hst; exact h.write (hwrite _ _ _ hs)

/-- **Single sender.** In every state that any calls of any coordinators reach on a
store, whatever the broker answers, wherever calls die and whatever other
transactions evolve the ledger: all posts of an intent are one call's and carry the
stored client order id, they are at most `1 + max_not_found_retries`, and every post
after the first follows a lookup of its id that found nothing, made since the post
before. -/
theorem single_sender (sha256 : String → String) (coordinator : ι → Coordinator b η)
    (w : World ι σ ε)
    (h : (sending sha256 coordinator fun s (_ : Unit) s' => b.Evolves s s').Reachable w)
    (i : String) :
    (∀ a ∈ submits i w.log, ∃ row sent, (b.ledger w.store).orderIntents.get? i = some row ∧
      a.2 = .submit i row.clientOrderId sent) ∧
    (∀ a ∈ submits i w.log, ∀ a' ∈ submits i w.log, a.1 = a'.1) ∧ (∀ a ∈ submits i w.log,
      (submits i w.log).length ≤ 1 + (coordinator a.1).maxNotFoundRetries) ∧ Spaced i w.log := by
  have hinv := (singleSender_inductive sha256 coordinator (fun _ _ _ hs => hs) i).reachable h
  exact ⟨hinv.client, hinv.same, hinv.bound, hinv.spaced⟩

/-! ## One call and its retry -/

/-- A call on its own, along its inputs. -/
def World.play (sha256 : String → String) (coordinator : ι → Coordinator b η) (call : ι) :
    List (Input η) → World ι σ ε → Option (World ι σ ε)
  | [], w => some w
  | input :: rest, w =>
    match (coordinator call).step sha256 w.store (w.phases call) input with
    | some st => (w.move call st).play sha256 coordinator call rest
    | none => none

theorem play_run {call : ι} {inputs : List (Input η)} {w' : World ι σ ε}
    (h : w.play sha256 coordinator call inputs = some w') :
    (sending sha256 coordinator write).Run w (inputs.map (SendLabel.run call)) w' := by
  induction inputs generalizing w with
  | nil =>
    cases h; exact .nil _
  | cons input rest ih =>
    unfold World.play at h
    cases hst : (coordinator call).step sha256 w.store (w.phases call) input with
    | none =>
      rw [hst] at h; cases h
    | some st =>
      rw [hst] at h; exact .cons ⟨st, hst, rfl⟩ (ih h)

end Calls

/-- The order ledger on its own. -/
def ledgerSession : Session Store ExecError := ⟨id, fun _ t => t, id, fun _ _ => rfl⟩

theorem adoptAcknowledgement_evolves (intent : OrderIntent) (order : BrokerOrder) :
    Moves Evolves (adoptAcknowledgement intent order) := fun s r s' h =>
  persistBrokerAcknowledgement_evolves intent order s r s' (adoptAcknowledgement_ok h)

/-- An `ExecutionCoordinator` without hooks. -/
def plainCoordinator : Coordinator ledgerSession Unit where
  adopt_evolves := adoptAcknowledgement_evolves

def createdIntent : OrderIntent where
  intentId := "i1"
  clientOrderId := "qb-1"
  strategyId := "s"
  symbol := "SPY"
  signalDate := 0
  side := .buy
  orderType := .market
  timeInForce := .day
  quantity := 10
  state := .orderCreated
  createdAt := 0
  quantity_pos := L1.ten_pos
  prices := L1.market_unpriced

def createdWorld : World Nat Store ExecError :=
  { store := { orderIntents := UTable.empty.insert createdIntent }
    phases := fun _ => .idle
    log := [] }

/-- The first post times out, its lookup finds nothing, the second is rejected late. -/
def retryInputs : List (Input Unit) :=
  [.run (), .gate [], .run (), .send, .submitReply (.error .transport), .run (),
    .lookupReply (.ok none), .run (), .send, .submitReply (.error (.request (some 503)))]

theorem single_sender_retry :
    ∃ w : World Nat Store ExecError, w.log = [(0, .submit "i1" "qb-1" true), (0, .lookup "i1" "qb-1" false),
        (0, .submit "i1" "qb-1" true)] ∧ (submits "i1" w.log).length ≤ 2 ∧ Spaced "i1" w.log := by
  have hlog : ((createdWorld.goto 0 (.submitDurable createdIntent .entry)).play id
      (fun _ => plainCoordinator) 0 retryInputs).map (·.log) =
      some [(0, .submit "i1" "qb-1" true), (0, .lookup "i1" "qb-1" false),
        (0, .submit "i1" "qb-1" true)] := by decide
  obtain ⟨w, hw, hlog⟩ := Option.map_eq_some_iff.1 hlog
  have hrun : (sending id (fun _ => plainCoordinator) fun s (_ : Unit) s' =>
      ledgerSession.Evolves s s').Run createdWorld
      (.submitDurable 0 createdIntent .entry :: retryInputs.map (SendLabel.run 0)) w :=
    .cons ⟨rfl, rfl⟩ (play_run hw)
  obtain ⟨_, _, hbound, hspaced⟩ := single_sender id (fun _ => plainCoordinator) w
    ⟨createdWorld, _, ⟨fun _ => rfl, rfl⟩, hrun⟩ "i1"
  refine ⟨w, hlog, hbound (0, .submit "i1" "qb-1" true) ?_, hspaced⟩; rw [hlog]
  decide

end Quantbot.L3
