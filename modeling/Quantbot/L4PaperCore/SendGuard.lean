import Quantbot.L3Execution.SingleSender
import Quantbot.L4PaperCore.Resolve
import Quantbot.L4PaperCore.Runtime

/-!
# The send guard

`paper_core/send_guard.py`: the last check before a send, the refusal it latches, and
the retirement of entries whose authority has elapsed; and the two coordinators of
`paper_core/runtime.py` that run the check under the writer lock of their claim.

The verdicts of the authorities a guard consults (runtime, policy, guardian, model,
risk, market) are inputs; which of them a refusal names decides nothing here. What the
guard reads of the store is read: the intent, its link, its earlier refusals, and for
an exit the owned quantity.

Each function has one lemma for what it does: which events it adds, of which intent,
and from which state a definitive refusal is written.
-/
namespace Quantbot.L4

open Core L1 L2 L3 Txn

/-! ## Refusals -/

/-- The event type of a refusal; a liquidation has none. -/
def refusalType : OrderPurpose → Option String
  | .entry => some entryRefusal
  | .strategyExit => some exitRefusal
  | .drawdownLiquidation => none

/-- An event of the type is on record for the intent. -/
def hasEvent (s : Store) (intentId eventType : String) : Bool :=
  (s.eventsOf intentId).any fun e => decide (e.eventType = eventType)

/-- The row of a refusal. -/
def refusalRow (contentId : ContentId) (intentId eventType : String) (reasons : List String)
    (unsent : Bool) (state : IntentState) (at' : Int) : OrderEventRow where
  eventId := "core-send-refused-" ++ contentId (.ofIntent intentId)
  intentId := some intentId
  brokerOrderId := none
  eventType := eventType
  occurredAt := at'
  detail := .sendRefusal ⟨sendContract, reasons, unsent, state.value⟩

/-- Record an event of an intent. -/
def recordEvent (row : OrderEventRow) : CoreTxn PUnit := do
  let _ ← onLedger (recordOrderEvent row)
  pure ⟨⟩

/-- mirrors send_guard.py:43-80 -/
def recordPreSendRefusal (contentId : ContentId) (intent : OrderIntent) (purpose : OrderPurpose)
    (reasons : List String) (at' : Int) : CoreTxn PUnit :=
  match refusalType purpose with
  | none => pure ⟨⟩
  | some refusal => do
    let s ← get
    match s.orderIntents.get? intent.intentId with
    | none => throw (.runtime "pre-send refusal requires ORDER_CREATED")
    | some stored => do
      require (stored.state = .orderCreated) (.runtime "pre-send refusal requires ORDER_CREATED")
      if hasEvent s.toStore intent.intentId refusal then pure ⟨⟩
      else recordEvent (refusalRow contentId intent.intentId refusal reasons.dedup
        (s.orderByClient intent.clientOrderId).isNone stored.state at')

/-! ## The owned quantity of an exit -/

/-- What is filled under a client id. -/
def CoreStore.filledByClient (s : CoreStore) (clientOrderId : String) : ℚ :=
  match s.orderByClient clientOrderId with
  | none => 0
  | some order => s.filled order.brokerOrderId

/-- The links of a lot in one role. -/
def CoreStore.linksOf (s : CoreStore) (lot : String) (role : LinkRole) : List IntentLink :=
  s.links.rows.filter fun l => decide (l.lotId = lot ∧ l.role = role)

/-- The link of an intent in one role. -/
def CoreStore.linkIn (s : CoreStore) (role : LinkRole) (intentId : String) : Option IntentLink :=
  (s.links.get? intentId).filter fun l => decide (l.role = role)

/-- The states in which an exit that is not filled may still be sent. -/
def pendingExitStates : List IntentState :=
  [.submitting, .submissionUnknown, .orderCreated, .riskApproved]

/-- What one exit of the lot leaves of the owned quantity. -/
def ownedAfter (s : CoreStore) (intentId : String) (owned : ℚ) (link : IntentLink) : Option ℚ :=
  (s.intentOf link).map fun exit =>
    let filled := s.filledByClient exit.clientOrderId
    if exit.intentId ≠ intentId ∧ exit.state ∈ pendingExitStates then
      owned - filled - (exit.quantity - filled)
    else owned - filled

/-- The exit against its entry and the other exits of the lot. -/
def exitOwnership (s : CoreStore) (intent : OrderIntent) (lot owner : String) : List String :=
  match (s.linksOf lot .entry).head? with
  | none => ["CORE_EXIT_OWNERSHIP_MISMATCH"]
  | some entry =>
    match s.intentOf entry with
    | none => ["CORE_EXIT_OWNERSHIP_MISMATCH"]
    | some original =>
      if intent.strategyId ≠ owner ∨ intent.side ≠ .sell ∨ original.strategyId ≠ owner ∨
          original.symbol ≠ intent.symbol then ["CORE_EXIT_OWNERSHIP_MISMATCH"]
      else
        match (s.linksOf lot .exit).foldlM (ownedAfter s intent.intentId)
            (s.filledByClient original.clientOrderId) with
        | none => ["CORE_EXIT_OWNERSHIP_MISMATCH"]
        | some owned =>
          if owned < intent.quantity then ["CORE_EXIT_OWNED_QUANTITY_UNAVAILABLE"] else []

/-- mirrors send_guard.py:597-660 -/
def ownedExitObjections (plan? : String → Option ProtectionPlan) (intent : OrderIntent) :
    CoreTxn (List String) := do
  let s ← get
  match s.linkIn .exit intent.intentId with
  | none => pure ["CORE_EXIT_HANDOFF_MISSING"]
  | some link =>
    match plan? link.protectionId with
    | none => throw .noResult
    | some plan => pure (exitOwnership s intent link.lotId plan.owner)

/-! ## The final check -/

structure GuardViews where
  contentId : ContentId
  plan? : String → Option ProtectionPlan

/-- What a guard learns beside the store: the clock, and the verdicts of the
authorities in the order their reasons are listed. -/
structure SendReading where
  now : Int
  /-- `runtime_objections`, and the two switches of the commissioned runtime. -/
  runtime : List String := []
  lease : List String := []
  custody : List String := []
  authority : List String := []
  /-- Plan, decision and configuration name each other. -/
  bound : Bool := true
  /-- The second clock reading and the entry policy. -/
  expiry : List String := []

/-- Every reason against sending an entry. -/
def entryReasons (v : GuardViews) (r : SendReading) (runtime : List String)
    (intent stored : OrderIntent) (link : IntentLink) (decision : Decision) : List String :=
  runtime ++ r.lease ++ r.authority ++
    (if stored.state ≠ .orderCreated ∨ intent.state ≠ .orderCreated ∨ stored ≠ intent ∨
        v.contentId (.decision decision) ≠ link.decisionId ∨
        decision.observationId ≠ link.observationId ∨ r.bound = false then
      ["CORE_ENTRY_AUTHORITY_MISMATCH"] else []) ++ r.expiry

/-- The row of an authorised send. -/
def authorizedRow (contentId : ContentId) (intentId : String) (at' : Int) : OrderEventRow where
  eventId := "core-send-authorized-" ++ contentId (.ofIntent intentId)
  intentId := some intentId
  brokerOrderId := none
  eventType := "CORE_LOCKED_SEND_AUTHORIZED"
  occurredAt := at'
  detail := .sendAuthorized sendContract

/-- The evidence of the verdict on an entry. -/
def recordVerdict (v : GuardViews) (now : Int) (intent stored : OrderIntent)
    (reasons : List String) : CoreTxn PUnit := do
  let s ← get
  if reasons ≠ [] then
    recordEvent (refusalRow v.contentId intent.intentId entryRefusal reasons
      (decide (stored.state = .orderCreated) && (s.orderByClient intent.clientOrderId).isNone)
      stored.state now)
  else if s.config.evidenceLane = .brokerPaper then
    recordEvent (authorizedRow v.contentId intent.intentId now)
  else pure ⟨⟩

/-- The check of an entry. An earlier refusal of whatever kind stands. -/
def entrySend (v : GuardViews) (r : SendReading) (runtime : List String) (intent : OrderIntent) :
    CoreTxn (List String) := do
  let s ← get
  match s.orderIntents.get? intent.intentId, s.linkIn .entry intent.intentId with
  | some stored, some link =>
    if hasEvent s.toStore intent.intentId entryRefusal then
      pure ["CORE_ENTRY_ALREADY_REFUSED"]
    else
      match s.decision? link.decisionId with
      | none => throw .noResult
      | some decision => do
        let reasons := entryReasons v r runtime intent stored link decision
        recordVerdict v r.now intent stored reasons
        pure reasons
  | _, _ => pure ["CORE_ENTRY_HANDOFF_MISSING"]

/-- The reasons of the commissioned runtime; there is none outside the broker lane. -/
def runtimeReasons (config : CoreConfig) (r : SendReading) : List String :=
  if config.evidenceLane = .brokerPaper then r.runtime else []

/-- The check of an exit. -/
def exitSend (v : GuardViews) (r : SendReading) (intent : OrderIntent) :
    CoreTxn (List String) := do
  let s ← get
  if s.config.evidenceLane = .brokerPaper then do
    let owned ← ownedExitObjections v.plan? intent
    pure (runtimeReasons s.config r ++ owned ++ r.custody)
  else pure (runtimeReasons s.config r)

/-- mirrors send_guard.py:230-506 -/
def finalSendInSession (v : GuardViews) (r : SendReading) (intent : OrderIntent)
    (purpose : OrderPurpose) : CoreTxn (List String) := do
  let s ← get
  if "CORE_RUNTIME_BINDING_MISMATCH" ∈ runtimeReasons s.config r then
    pure (runtimeReasons s.config r)
  else if purpose = .entry then entrySend v r (runtimeReasons s.config r) intent
  else exitSend v r intent

/-! ## Retirement -/

/-- What the retirement of one entry learns beside the store. -/
structure RetireReading where
  now : Int
  /-- `runtime_objections` of the commissioned runtime. -/
  fenced : Bool := false
  /-- Decision, plan, link and configuration name each other, and neither the decision
  nor the plan is dated after `now`. -/
  bound : Bool := true
  current : Bool := true
  /-- `_retirement_reasons`. -/
  elapsed : List String

/-- `_latched_refusal`. -/
def latchedRefusal (s : Store) (intentId : String) : Bool :=
  (s.eventsOf intentId).any fun e => decide (e.eventType = entryRefusal) && showsRefusal e

/-- A prepared entry is taken to `ORDER_CREATED` first. -/
def createEntry (intent : OrderIntent) : CoreTxn OrderIntent :=
  if intent.state = .riskApproved then
    onLedger (transitionOrderIntent intent.intentId .orderCreated .riskApproved)
  else pure intent

/-- The refusal, unless one is latched already. -/
def latchRefusal (contentId : ContentId) (r : RetireReading) (latched : Bool)
    (intent : OrderIntent) : CoreTxn PUnit :=
  if latched then pure ⟨⟩ else recordPreSendRefusal contentId intent .entry r.elapsed r.now

/-- The transitions of a retired entry. -/
def retireIntent (contentId : ContentId) (r : RetireReading) (intent : OrderIntent)
    (latched : Bool) : CoreTxn PUnit := do
  let created ← createEntry intent
  latchRefusal contentId r latched created
  let _ ← onLedger (transitionOrderIntent intent.intentId .error .orderCreated)
  pure ⟨⟩

/-- The lock-protected part of `retire_stale_entries` for one candidate.
mirrors send_guard.py:779-873 -/
def retireEntry (v : GuardViews) (r : RetireReading) (intentId : String) : CoreTxn Bool :=
  immediate do
    let s ← get
    match s.orderIntents.get? intentId, s.linkIn .entry intentId with
    | some intent, some link =>
      let latched := latchedRefusal s.toStore intentId
      if intent.state ≠ .riskApproved ∧ intent.state ≠ .orderCreated then pure false
      else if s.orderByClient intent.clientOrderId ≠ none then pure false
      else if s.config.evidenceLane = .brokerPaper ∧ r.fenced then pure false
      else
        match s.decision? link.decisionId with
        | none => throw .noResult
        | some decision =>
          if ¬ r.bound ∨ decision.observationId ≠ link.observationId ∨
              intent.symbol ≠ decision.symbol then pure false
          else if ¬ latched ∧ hasEvent s.toStore intentId entryRefusal then pure false
          else if ¬ latched ∧ (r.elapsed = [] ∨ r.now < decision.recordedAt ∨ ¬ r.current) then
            pure false
          else do
            retireIntent v.contentId r intent latched
            pure true
    | _, _ => pure false

/-! ## What each does -/

section Facts

variable {s s' : CoreStore} {i : String}

/-- Events of one intent were added, none of them evidence that no send was attempted. -/
structure EventsAdded (i : String) (s s' : CoreStore) : Prop where
  intents : s'.orderIntents = s.orderIntents
  orders : s'.brokerOrders = s.brokerOrders
  links : s'.links = s.links
  evolves : Evolves s.toStore s'.toStore
  added : ∀ e ∈ s'.orderEvents.rows, e ∈ s.orderEvents.rows ∨
    e.intentId = some i ∧ ∀ c, showsNoSend c e = false

instance : IsPreorder CoreStore (EventsAdded i) where
  refl s := ⟨rfl, rfl, rfl, .rfl' _, fun _ he => .inl he⟩
  trans a b c h h' := by
    refine ⟨h'.intents.trans h.intents, h'.orders.trans h.orders, h'.links.trans h.links,
      h.evolves.trans' h'.evolves, fun e he => ?_⟩
    rcases h'.added e he with he | hnew
    · exact h.added e he
    · exact .inr hnew

variable {u : PUnit}

theorem recordEvent_ok {row : OrderEventRow} (h : recordEvent row s = .ok u s')
    (hi : row.intentId = some i) (hrow : ∀ c, showsNoSend c row = false) :
    EventsAdded i s s' ∧ ∀ e ∈ s'.orderEvents.rows, e ∈ s.orderEvents.rows ∨ e = row := by
  obtain ⟨b, s₁, hrecord, h⟩ := bind_ok.1 h; obtain ⟨_, rfl⟩ := pure_ok.1 h
  obtain ⟨t, ht, rfl⟩ := zoom_ok.1 hrecord
  have hevolves : Evolves s.toStore t := recordOrderEvent_evolves row _ _ _ ht
  rcases recordOrderEvent_ok ht with ⟨_, _, rfl⟩ | ⟨_, hnone, rfl⟩
  · exact ⟨⟨rfl, rfl, rfl, hevolves, fun _ he => .inl he⟩, fun _ he => .inl he⟩
  have hmem := fun e => Table.mem_insert (a := row) (b := e) hnone
  refine ⟨⟨rfl, rfl, rfl, hevolves, fun e he => ?_⟩, fun e he => (hmem e).1 he⟩
  rcases (hmem e).1 he with he | rfl
  · exact .inl he
  · exact .inr ⟨hi, hrow⟩

theorem value_orderCreated {q : IntentState} :
    q.value = IntentState.orderCreated.value ↔ q = .orderCreated := by
  cases q <;> decide

variable {contentId : ContentId} {reasons : List String}

theorem refusalRow_shows {eventType : String} {unsent : Bool} {q : IntentState} {at' : Int}
    (h : showsRefusal (refusalRow contentId i eventType reasons unsent q at') = true) :
    unsent = true ∧ q = .orderCreated := by
  obtain ⟨_, hunsent, hstate, _⟩ := of_decide_eq_true h
  exact ⟨hunsent, value_orderCreated.1 hstate⟩

variable {intent : OrderIntent} {purpose : OrderPurpose}

/-- A refusal by the coordinator is written from `ORDER_CREATED`. -/
theorem recordPreSendRefusal_ok {at' : Int}
    (h : recordPreSendRefusal contentId intent purpose reasons at' s = .ok u s') :
    EventsAdded intent.intentId s s' ∧ ∀ e ∈ s'.orderEvents.rows, e ∈ s.orderEvents.rows ∨
      some e.eventType = refusalType purpose ∧
        ∃ row, s.orderIntents.get? intent.intentId = some row ∧ row.state = .orderCreated := by
  have hsame : ∀ t, EventsAdded intent.intentId t t := fun t => refl_of (EventsAdded _) t
  unfold recordPreSendRefusal at h
  cases htype : refusalType purpose with
  | none =>
    rw [htype] at h; obtain ⟨_, rfl⟩ := pure_ok.1 h
    exact ⟨hsame _, fun _ he => .inl he⟩
  | some refusal =>
    rw [htype] at h; rw [bind_ok] at h; obtain ⟨t, s₁, hget, h⟩ := h
    rw [get_ok] at hget; obtain ⟨rfl, rfl⟩ := hget
    cases hrow : s₁.orderIntents.get? intent.intentId with
    | none =>
      rw [hrow] at h; cases h
    | some row =>
      rw [hrow] at h; obtain ⟨_, s₂, hrequire, h⟩ := bind_ok.1 h
      obtain ⟨hstate, rfl⟩ := require_ok.1 hrequire; split at h
      · obtain ⟨_, rfl⟩ := pure_ok.1 h; exact ⟨hsame _, fun _ he => .inl he⟩
      obtain ⟨hrecorded, hnew⟩ := recordEvent_ok h rfl fun _ => rfl
      refine ⟨hrecorded, fun e he => ?_⟩; rcases hnew e he with he | rfl
      · exact .inl he
      · exact .inr ⟨rfl, row, rfl, hstate⟩

/-- What a definitive refusal of an entry rests on. -/
structure EntryLatch (i : String) (s : CoreStore) (e : OrderEventRow) : Prop where
  type : e.eventType = entryRefusal
  created : ∃ row, s.orderIntents.get? i = some row ∧ row.state = .orderCreated
  link : ∃ link, s.linkIn .entry i = some link

variable {v : GuardViews} {r : SendReading}

theorem entrySend_ok {runtime objections : List String}
    (h : entrySend v r runtime intent s = .ok objections s') : EventsAdded intent.intentId s s' ∧
      (∀ e ∈ s'.orderEvents.rows, e ∈ s.orderEvents.rows ∨
        (showsRefusal e = true → EntryLatch intent.intentId s e ∧ objections ≠ [])) ∧
      (objections = [] → hasEvent s.toStore intent.intentId entryRefusal = false) := by
  have hsame : ∀ t, EventsAdded intent.intentId t t := fun t => refl_of (EventsAdded _) t
  unfold entrySend at h; rw [bind_ok] at h; obtain ⟨t, s₁, hget, h⟩ := h
  rw [get_ok] at hget; obtain ⟨rfl, rfl⟩ := hget
  cases hstored : s₁.orderIntents.get? intent.intentId with
  | none =>
    rw [hstored] at h; obtain ⟨rfl, rfl⟩ := pure_ok.1 h
    exact ⟨hsame _, fun _ he => .inl he, nofun⟩
  | some stored =>
  cases hlink : s₁.linkIn .entry intent.intentId with
  | none =>
    rw [hstored, hlink] at h; obtain ⟨rfl, rfl⟩ := pure_ok.1 h
    exact ⟨hsame _, fun _ he => .inl he, nofun⟩
  | some link =>
    rw [hstored, hlink] at h
    cases hevent : hasEvent s₁.toStore intent.intentId entryRefusal with
    | true =>
      rw [hevent] at h; obtain ⟨rfl, rfl⟩ := pure_ok.1 h
      exact ⟨hsame _, fun _ he => .inl he, nofun⟩
    | false =>
    rw [hevent] at h; dsimp only at h; rw [if_neg Bool.false_ne_true] at h
    cases hdecision : s₁.decision? link.decisionId with
    | none =>
      rw [hdecision] at h; cases h
    | some decision =>
      rw [hdecision] at h; rw [bind_ok] at h; obtain ⟨_, s₂, hverdict, h⟩ := h
      obtain ⟨rfl, rfl⟩ := pure_ok.1 h; unfold recordVerdict at hverdict
      rw [bind_ok] at hverdict; obtain ⟨t, s₃, hget, hverdict⟩ := hverdict
      obtain ⟨rfl, rfl⟩ := hget; split at hverdict
      · next hreasons =>
        obtain ⟨hrecorded, hnew⟩ := recordEvent_ok hverdict rfl fun _ => rfl
        refine ⟨hrecorded, fun e he => ?_, fun hempty => absurd hempty hreasons⟩
        rcases hnew e he with he | rfl
        · exact .inl he
        · refine .inr fun hshows => ⟨⟨rfl, ⟨stored, hstored, ?_⟩, link, hlink⟩, hreasons⟩
          exact (refusalRow_shows hshows).2
      · split at hverdict
        · obtain ⟨hrecorded, hnew⟩ := recordEvent_ok hverdict rfl fun _ => rfl
          refine ⟨hrecorded, fun e he => ?_, fun _ => rfl⟩
          rcases hnew e he with he | rfl
          · exact .inl he
          · refine .inr fun hshows => ?_; cases hshows
        · obtain ⟨_, rfl⟩ := pure_ok.1 hverdict
          exact ⟨hsame _, fun _ he => .inl he, fun _ => rfl⟩

theorem ownedExitObjections_reads (plan? : String → Option ProtectionPlan) (intent : OrderIntent) :
    Moves Unchanged (ownedExitObjections plan? intent) := by
  refine Moves.get.bind fun s => ?_; split
  · exact Moves.pure _
  split
  · exact Moves.throw _
  · exact Moves.pure _

theorem exitSend_reads (v : GuardViews) (r : SendReading) (intent : OrderIntent) :
    Moves Unchanged (exitSend v r intent) := by
  refine Moves.get.bind fun s => Moves.ite ?_ (Moves.pure _)
  exact (ownedExitObjections_reads _ _).bind fun _ => Moves.pure _

/-- **The final check** records at most its verdict on the intent. A definitive refusal
is of an entry still `ORDER_CREATED` and comes with an objection; an entry that was
refused before always meets one. -/
theorem finalSendInSession_ok
    {objections : List String} (h : finalSendInSession v r intent purpose s = .ok objections s') :
    EventsAdded intent.intentId s s' ∧ (∀ e ∈ s'.orderEvents.rows, e ∈ s.orderEvents.rows ∨
        (showsRefusal e = true → EntryLatch intent.intentId s e ∧ objections ≠ [])) ∧
      (purpose = .entry → objections = [] →
        hasEvent s.toStore intent.intentId entryRefusal = false) := by
  have hsame : ∀ t, EventsAdded intent.intentId t t := fun t => refl_of (EventsAdded _) t
  unfold finalSendInSession at h; rw [bind_ok] at h
  obtain ⟨t, s₁, hget, h⟩ := h; rw [get_ok] at hget; obtain ⟨rfl, rfl⟩ := hget
  split at h
  · next hbinding =>
    obtain ⟨rfl, rfl⟩ := pure_ok.1 h
    refine ⟨hsame _, fun _ he => .inl he, fun _ hempty => ?_⟩
    rw [hempty] at hbinding; cases hbinding
  · split at h
    · obtain ⟨hrecorded, hnew, hclear⟩ := entrySend_ok h
      exact ⟨hrecorded, hnew, fun _ => hclear⟩
    · next hpurpose =>
      have heq : s' = s₁ := exitSend_reads _ _ _ _ _ _ h; rw [heq]
      exact ⟨hsame _, fun _ he => .inl he, fun hentry => absurd hentry hpurpose⟩

theorem recordPreSendRefusal_events (contentId : ContentId) (intent : OrderIntent)
    (purpose : OrderPurpose) (reasons : List String) (at' : Int) :
    Moves (EventsAdded intent.intentId) (recordPreSendRefusal contentId intent purpose reasons at') :=
  fun _ _ _ h => (recordPreSendRefusal_ok h).1

theorem latchRefusal_events (contentId : ContentId) (r : RetireReading) (latched : Bool)
    (intent : OrderIntent) :
    Moves (EventsAdded intent.intentId) (latchRefusal contentId r latched intent) :=
  Moves.ite (Moves.pure _) (recordPreSendRefusal_events _ _ _ _ _)

/-- A prepared entry ended in `ERROR`, with events of its own. -/
structure Retired (i : String) (s s' : CoreStore) : Prop where
  evolves : Evolves s.toStore s'.toStore
  orders : s'.brokerOrders = s.brokerOrders
  links : s'.links = s.links
  prepared : ∃ row, s.orderIntents.get? i = some row ∧
    (row.state = .riskApproved ∨ row.state = .orderCreated) ∧
    s'.orderIntents.get? i = some (row.withState .error)
  others : ∀ j, j ≠ i → s'.orderIntents.get? j = s.orderIntents.get? j
  added : ∀ e ∈ s'.orderEvents.rows, e ∈ s.orderEvents.rows ∨
    e.intentId = some i ∧ ∀ c, showsNoSend c e = false

theorem createEntry_ok {created : OrderIntent}
    (hi : s.orderIntents.get? intent.intentId = some intent)
    (h : createEntry intent s = .ok created s') :
    created.intentId = intent.intentId ∧
      ∃ q, s' = { s with toStore := s.toStore.setState intent.intentId q } ∧
        Evolves s.toStore s'.toStore := by
  unfold createEntry at h
  split at h
  · obtain ⟨t, ht, rfl⟩ := zoom_ok.1 h
    obtain ⟨row, hrow, _, _, rfl, rfl⟩ := transitionOrderIntent_ok ht
    refine ⟨(Table.get?_some hrow).2, _, rfl, transitionOrderIntent_evolves _ _ _ _ _ _ ht⟩
  · obtain ⟨rfl, rfl⟩ := pure_ok.1 h
    refine ⟨rfl, intent.state, ?_, .rfl' _⟩
    rw [setState_self hi]

theorem retireIntent_ok {r : RetireReading} {latched : Bool}
    (hi : s.orderIntents.get? intent.intentId = some intent)
    (hstate : intent.state = .riskApproved ∨ intent.state = .orderCreated)
    (h : retireIntent contentId r intent latched s = .ok u s') : Retired intent.intentId s s' := by
  unfold retireIntent at h; simp only [bind_ok, pure_ok] at h
  obtain ⟨created, s₁, hcreate, _, s₂, hlatch, _, s₃, hend, _, rfl⟩ := h
  obtain ⟨hid, q, rfl, hevolves₁⟩ := createEntry_ok hi hcreate
  have hrecorded := latchRefusal_events contentId r latched created _ _ _ hlatch
  rw [hid] at hrecorded; obtain ⟨t, ht, rfl⟩ := zoom_ok.1 hend
  have hevolves₃ : Evolves s₂.toStore t := transitionOrderIntent_evolves _ _ _ _ _ _ ht
  obtain ⟨_, _, _, _, _, rfl⟩ := transitionOrderIntent_ok ht
  refine ⟨(hevolves₁.trans' hrecorded.evolves).trans' hevolves₃, hrecorded.orders, hrecorded.links,
    ⟨intent, hi, hstate, ?_⟩, fun j hj => ?_, hrecorded.added⟩
  · show (s₂.toStore.setState intent.intentId .error).orderIntents.get? intent.intentId = _
    rw [setState_get?, if_pos rfl, hrecorded.intents, setState_get?, if_pos rfl, hi]
    rfl
  · show (s₂.toStore.setState intent.intentId .error).orderIntents.get? j = _
    rw [setState_get?, if_neg hj, hrecorded.intents, setState_get?, if_neg hj]

/-- **Retirement** leaves an entry alone, or ends a prepared one. -/
theorem retireEntry_ok {r : RetireReading} {b : Bool} (h : retireEntry v r i s = .ok b s') :
    s' = s ∨ Retired i s s' := by
  unfold retireEntry at h; rw [immediate_ok, bind_ok] at h
  obtain ⟨t, s₁, hget, h⟩ := h; rw [get_ok] at hget; obtain ⟨rfl, rfl⟩ := hget
  cases hrow : s₁.orderIntents.get? i with
  | none =>
    rw [hrow] at h; exact .inl (pure_ok.1 h).2.symm
  | some intent =>
  cases hlink : s₁.linkIn .entry i with
  | none =>
    rw [hrow, hlink] at h; exact .inl (pure_ok.1 h).2.symm
  | some link =>
    rw [hrow, hlink] at h; dsimp only at h
    have hid : intent.intentId = i := (Table.get?_some hrow).2; split at h
    · exact .inl (pure_ok.1 h).2.symm
    next hstate =>
    split at h
    · exact .inl (pure_ok.1 h).2.symm
    split at h
    · exact .inl (pure_ok.1 h).2.symm
    cases hdecision : s₁.decision? link.decisionId with
    | none =>
      rw [hdecision] at h; cases h
    | some decision =>
      rw [hdecision] at h; dsimp only at h; split at h
      · exact .inl (pure_ok.1 h).2.symm
      split at h
      · exact .inl (pure_ok.1 h).2.symm
      split at h
      · exact .inl (pure_ok.1 h).2.symm
      rw [bind_ok] at h; obtain ⟨_, s₂, hretire, h⟩ := h
      obtain ⟨_, rfl⟩ := pure_ok.1 h
      have hprepared : intent.state = .riskApproved ∨ intent.state = .orderCreated := by
        by_contra hno; exact hstate (not_or.1 hno)
      exact .inr (hid ▸ retireIntent_ok (hid.symm ▸ hrow) hprepared hretire)

end Facts

/-! ## The coordinators -/

/-- The core's errors over the ledger's. -/
def coreError : ExecError → CoreError
  | .store e => .store e
  | .brokerProtocol m => .brokerProtocol m
  | .blocked r => .blocked r
  | .runtime m => .runtime m

def coreSession : Session CoreStore CoreError where
  ledger := CoreStore.toStore
  setLedger s t := { s with toStore := t }
  raise := coreError
  ledger_set _ _ := rfl

theorem adoptUnderLock_evolves (intent : OrderIntent) (order : BrokerOrder) :
    Moves Evolves (adoptUnderLock intent order) := fun s _ s' h => by
  obtain ⟨current, _, _, hadopt⟩ := adoptUnderLock_ok h
  exact adopt_evolves current order _ _ _ hadopt

theorem finalSendInSession_evolves (v : GuardViews) (r : SendReading) (intent : OrderIntent)
    (purpose : OrderPurpose) : Moves coreSession.Evolves (finalSendInSession v r intent purpose) :=
  fun _ _ _ h => (finalSendInSession_ok h).1.evolves

theorem recordLocalNoSend_evolves (contentId : ContentId) (i client : String) (at' : Int) :
    Moves Evolves (recordLocalNoSend contentId i client at') := by
  refine Moves.immediate (Moves.get.bind fun s => ?_); split
  · exact Moves.ite ((recordOrderEvent_evolves _).bind fun _ => Moves.pure _) (Moves.pure _)
  · exact Moves.pure _

/-- The coordinator of a store: the commissioned one, or that of a synthetic broker. -/
inductive CoordinatorKind | core | fixture
deriving DecidableEq, Repr

/-- mirrors runtime.py:71-85, 87-123, 221-245, 292-325, 577-602 -/
def coreCoordinator (v : GuardViews) : CoordinatorKind → Coordinator coreSession SendReading
  | .core =>
    { maxNotFoundRetries := 0
      adopt := adoptUnderLock
      transactionalSendCheck := some (finalSendInSession v)
      transactionalSendRefusal := some fun r intent purpose reasons =>
        recordPreSendRefusal v.contentId intent purpose reasons r.now
      recordNoSend := some fun r intent =>
        onLedger (recordLocalNoSend v.contentId intent.intentId intent.clientOrderId r.now)
      adopt_evolves := adoptUnderLock_evolves
      check_evolves := fun f hf r i p => by
        cases hf
        exact finalSendInSession_evolves v r i p
      refusal_evolves := fun f hf r i p l => by
        cases hf
        exact fun s _ s' h => (recordPreSendRefusal_ok h).1.evolves
      noSend_evolves := fun f hf r i => by
        cases hf
        exact (recordLocalNoSend_evolves _ _ _ _).zoom fun _ _ h => h }
  | .fixture =>
    { maxNotFoundRetries := 0
      transactionalSendCheck := some (finalSendInSession v)
      adopt_evolves := adoptAcknowledgement_evolves
      check_evolves := fun f hf r i p => by
        cases hf
        exact finalSendInSession_evolves v r i p }

end Quantbot.L4
