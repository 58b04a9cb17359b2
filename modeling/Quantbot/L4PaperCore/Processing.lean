import Mathlib.Logic.Function.Basic
import Quantbot.L4PaperCore.ImportAtomicity
import Quantbot.L4PaperCore.Settlement

/-!
# Processing outcome work

`process_outcomes` of `paper_core/outcomes.py`: a run selects at most sixteen lots
in one transaction and then processes each in a transaction of its own, so any
other role may write in between and the process may die after any of them.

How a lot resolves (`_resolve`) is an arbitrary function of the store: it decides
which outcome is recorded, never what has been notified.

**The system (`processing`).** Any number of runs with arbitrary cutoffs,
notifications with known, unknown and absent source times, claims, published
documents, imports, revoked proofs, and any other transaction that grows the
evidence and leaves the queue's tables.

**Result** (`acknowledged_covers`): while a lot's processed version is its version,
every notification recorded for it so far is within the cutoff of the run that
acknowledged that version.
-/
namespace Quantbot.L4

open Core L1 L2 Txn

/-! ## One lot -/

/-- What `_resolve` returns: `OutcomeIncomplete`, or a round trip. -/
inductive Resolution
  | incomplete (reason : String)
  | trip (trip : RoundTrip)

/-- `_resolve(store, session, lot, cutoff)`. -/
abbrev Resolver := CoreStore → String → Int → Except CoreError Resolution

inductive LotResult
  | unsent
  | incomplete (reason : String)
  | historical
  | current (trip : RoundTrip)
  | revised (trip : RoundTrip)
deriving DecidableEq

/-- What processing a lot did; `acknowledged` when it set the processed version. -/
structure LotOutcome where
  result : LotResult
  version : Nat
  acknowledged : Bool
deriving DecidableEq

/-- The lot's version; work without a watermark, or none at all, is notified first.
mirrors outcomes.py:863-878 -/
def ensureVersion (lot : String) : CoreTxn Nat := do
  let s ← get
  let version := (s.work.get? lot).map (·.version)
  if version = none ∨ s.notifications.get? lot = none then do
    dirty [lot] none false
    pure (nextVersion (s.work.get? lot))
  else pure (version.getD 0)

def WorkRow.attempt (cutoff : Int) (w : WorkRow) : WorkRow := { w with attemptedAt := some cutoff }

def markAttempted (lot : String) (cutoff : Int) : CoreTxn PUnit :=
  modify fun s => { s with work := s.work.modify lot (·.attempt cutoff) fun _ h => h }

/-- `SET processed_version = .. WHERE version = .. AND covered`. -/
def WorkRow.acknowledge (version : Nat) (covered : Bool) (w : WorkRow) : WorkRow :=
  if w.version = version ∧ covered then { w with processedVersion := version } else w

theorem WorkRow.acknowledge_lotId (version : Nat) (covered : Bool) (w : WorkRow) :
    (w.acknowledge version covered).lotId = w.lotId := by
  unfold acknowledge; split <;> rfl

def acknowledge (lot : String) (version : Nat) (covered : Bool) : CoreTxn PUnit :=
  modify fun s => { s with
    work := s.work.modify lot (·.acknowledge version covered)
      fun w h => (w.acknowledge_lotId version covered).trans h }

/-- Set the status of the lot's current outcome. -/
def setStatus (lot status : String) : CoreTxn PUnit :=
  modify fun s => { s with outcomeIndex := setOutcomeStatus status s.outcomeIndex lot }

/-- Record a revision and make it the lot's current outcome.
mirrors outcomes.py:923-951 -/
def recordOutcome (contentId : ContentId) (lot : String) (trip : RoundTrip) : CoreTxn PUnit := do
  put (contentId (.roundTrip trip)) (.revision trip)
  modify fun s => { s with
    roundTrips := s.roundTrips.upsert ⟨lot, trip⟩
    outcomeIndex := s.outcomeIndex.upsert
      { lotId := lot
        outcomeId := contentId (.roundTrip trip)
        availableAt := trip.availableAt
        sourceStart := trip.sourceStart
        sourceEnd := trip.sourceEnd
        dataset := trip.dataset
        policyId := trip.policyId
        evidenceLane := s.config.evidenceLane
        status := trip.status } }

/-- A resolved lot: refresh the current outcome, refuse to roll it back, or revise it.
mirrors outcomes.py:903-957 -/
def settleTrip (contentId : ContentId) (lot : String) (version : Nat) (covered : Bool)
    (trip : RoundTrip) : CoreTxn LotOutcome := do
  let s ← get
  let current := (s.outcomeIndex.get? lot).map (·.outcomeId)
  if current = some (contentId (.roundTrip trip)) then do
    setStatus lot trip.status
    acknowledge lot version covered
    pure ⟨.current trip, version, covered⟩
  else if current ≠ none ∧ trip.supersedes ≠ current then pure ⟨.historical, version, false⟩
  else do
    recordOutcome contentId lot trip
    acknowledge lot version covered
    pure ⟨.revised trip, version, covered⟩

/-- An entry of the lot was definitively not sent. -/
def CoreStore.entryUnsent (s : CoreStore) (lot : String) : Bool :=
  s.links.rows.any fun l =>
    decide (l.lotId = lot ∧ l.role = .entry) && definitivelyUnsent s.toStore l.intentId

/-- mirrors outcomes.py:858-957 -/
def processLot (contentId : ContentId) (resolve : Resolver) (cutoff : Int) (lot : String) :
    CoreTxn LotOutcome :=
  immediate do
    let version ← ensureVersion lot
    let covered ← coveredVersion lot version cutoff
    markAttempted lot cutoff
    let s ← get
    if s.entryUnsent lot then pure ⟨.unsent, version, false⟩
    else
      match resolve s lot cutoff with
      | .error e => throw e
      | .ok (.incomplete reason) => do
        setStatus lot (if reason = "SOURCE_EVIDENCE_QUARANTINED" then "INTEGRITY_FAILURE"
          else "AUTHORITY_PENDING")
        pure ⟨.incomplete reason, version, false⟩
      | .ok (.trip trip) => settleTrip contentId lot version covered trip

/-! ## The lots of a run -/

/-- A fill of the link's order is stored. -/
def CoreStore.hasFill (s : CoreStore) (l : IntentLink) : Bool :=
  match s.intentOf l with
  | none => false
  | some i => s.fills.rows.any fun f => match s.brokerOrders.get? f.brokerOrderId with
    | some o => decide (o.clientOrderId = i.clientOrderId)
    | none => false

/-- Where a work row's `attempted_at` sorts: no row, never attempted, then by text. -/
def attemptKey (w : Option WorkRow) : ℕ ×ₗ (Int ×ₗ Int) :=
  match w with
  | none => toLex (0, toLex (0, 0))
  | some w =>
    match w.attemptedAt with
    | none => toLex (1, toLex (0, 0))
    | some t => toLex (2, encodedKey t)

/-- mirrors outcomes.py:836-857 -/
def selectLots (s : CoreStore) : List String :=
  let key := fun l : IntentLink => toLex (if s.hasFill l then 0 else 1,
    toLex (attemptKey (s.work.get? l.lotId), l.lotId))
  let due := s.links.rows.filter fun l => decide (l.role = .entry) &&
    match s.work.get? l.lotId with
    | none => true
    | some w => decide (w.processedVersion < w.version) || (s.notifications.get? l.lotId).isNone
  ((due.insertionSort fun a b => key a ≤ key b).take 16).map (·.lotId)

/-! ## Writes aside of the queue -/

/-- The evidence grows, the queue's tables stay. -/
structure Aside (s s' : CoreStore) : Prop where
  grows : Grows s s'
  work : s'.work = s.work
  notifications : s'.notifications = s.notifications
  journal : s'.journal = s.journal

instance : IsPreorder CoreStore Aside where
  refl s := ⟨.rfl' s, rfl, rfl, rfl⟩
  trans _ _ _ h h' := ⟨h.grows.trans' h'.grows, h'.work.trans h.work,
    h'.notifications.trans h.notifications, h'.journal.trans h.journal⟩

variable {s s' : CoreStore}

theorem Aside.keeps (h : Aside s s') : Keeps s s' :=
  .of_queue h.grows h.work h.notifications h.journal

theorem Aside.of_eq (hc : s'.config = s.config) (ht : s'.toStore = s.toStore)
    (hl : s'.links = s.links) (hd : s'.documents = s.documents)
    (hg : s'.guardianCurrent = s.guardianCurrent) (hw : s'.work = s.work)
    (hn : s'.notifications = s.notifications) (hj : s'.journal = s.journal) : Aside s s' := by
  refine ⟨⟨hc, by rw [ht]; exact .rfl' _, fun l h => hl ▸ h, fun r h => hd ▸ h, fun r hr => ?_⟩,
    hw, hn, hj⟩
  have hr' : s'.currentReceipt = s.currentReceipt := by
    unfold CoreStore.currentReceipt CoreStore.receipt? CoreStore.document
    rw [hg, hd]
  exact ⟨r, hr'.trans hr, le_refl _⟩

theorem Keeps.of_eq (hc : s'.config = s.config) (ht : s'.toStore = s.toStore)
    (hl : s'.links = s.links) (hd : s'.documents = s.documents)
    (hg : s'.guardianCurrent = s.guardianCurrent) (hw : s'.work = s.work)
    (hn : s'.notifications = s.notifications) (hj : s'.journal = s.journal) : Keeps s s' :=
  (Aside.of_eq hc ht hl hd hg hw hn hj).keeps

/-! ## Imports and claims keep the queue -/

section Import

open L3

/-- What an import of one event does beside its payload, and the payload itself. -/
structure ImportKinds (contentId : ContentId) (R : CoreStore → CoreStore → Prop) : Prop where
  payload : ∀ e i, Moves R (importPayload contentId e i)
  ledger : ∀ s t, Evolves s.toStore t → R s { s with toStore := t }
  source : ∀ id e, Moves R (put id (.source e))
  cursors : ∀ s c, R s { s with sourceCursors := c }
  revocations : ∀ s r, R s { s with revocations := r }
  statuses : ∀ s status (lots : List String),
    R s { s with outcomeIndex := lots.foldl (setOutcomeStatus status) s.outcomeIndex }
  dirty : ∀ lots t initialClaim, Moves R (dirty lots t initialClaim)

/-- The kinds of writes an import is made of. -/
structure ImportWrites (R : CoreStore → CoreStore → Prop) : Prop where
  ledger : ∀ s t, Evolves s.toStore t → R s { s with toStore := t }
  put : ∀ id d, d.kind ≠ .revision → Moves R (put id d)
  cursors : ∀ s c, R s { s with sourceCursors := c }
  revocations : ∀ s r, R s { s with revocations := r }
  statuses : ∀ s status (lots : List String),
    R s { s with outcomeIndex := lots.foldl (setOutcomeStatus status) s.outcomeIndex }
  dirty : ∀ lots t initialClaim, Moves R (dirty lots t initialClaim)

namespace ImportKinds

variable {contentId : ContentId} {R : CoreStore → CoreStore → Prop} [IsPreorder CoreStore R]

section

variable (h : ImportKinds contentId R)
include h

theorem cursor (source : String) (at' : Int) (eventId : String) :
    Moves R (advanceCursor source at' eventId) := Moves.modify fun s => by
  repeat' split
  · exact h.cursors s _
  · exact h.cursors s _
  · exact refl_of R s

theorem event (e : BrokerEvent) : Moves R (importEvent contentId e) := by
  have hbody : Moves R (importEventBody contentId e) := by
    refine Moves.get.bind fun s => (Moves.require _ _).bind fun _ => ?_
    dsimp only; split
    · exact Moves.ite (Moves.pure _) (Moves.throw _)
    split
    · exact Moves.throw _
    · exact (h.payload e _).bind fun _ => (h.source _ _).bind fun _ =>
        (h.cursor _ _ _).bind fun _ => Moves.pure _
  intro s r s' hs; unfold importEvent at hs; split at hs
  · next hok => cases hs; exact hbody _ _ _ hok
  all_goals cases hs

theorem all (es : List BrokerEvent)
    (acc : List (String × Int)) : Moves R (importAll contentId es acc) := by
  induction es generalizing acc with
  | nil => exact Moves.pure _
  | cons e es ih =>
    refine (h.event e).bind fun r => ?_
    cases r with
    | none => exact ih acc
    | some identity => exact ih _

theorem revoke (proofId : String) (availableAt : Option Int) :
    Moves R (revokedProof proofId availableAt) :=
  Moves.get.bind fun _ => (h.dirty _ _ _).bind fun _ => Moves.get.bind fun _ => h.dirty _ _ _

theorem revokeStale (ids : List String)
    (at' : Int) : Moves R (revokeStaleCash contentId ids at') := by
  have hledger : Moves R (L4.ledger contentId) :=
    (ledger_reads contentId).mono fun s s' h => h ▸ refl_of R s
  refine hledger.bind fun ⟨q, c, f⟩ => Moves.get.bind fun s => Moves.forM (fun row => ?_) _
  refine Moves.get.bind fun t => ?_; split
  · exact Moves.throw _
  · exact Moves.ite (Moves.pure _) (Moves.bind (Moves.modify fun s => h.revocations s _) fun _ =>
      h.revoke _ _)

theorem events (events : List BrokerEvent) : Moves R (importEvents contentId events) := by
  refine Moves.immediate ((h.all _ _).bind fun imported =>
    Moves.bind (fun s u s' hs => ?_) fun _ => ?_)
  · obtain ⟨_, rfl⟩ := checkFilled_ok.1 hs; exact refl_of R _
  · split
    · exact Moves.pure _
    · exact (h.revokeStale _ _).bind fun _ => Moves.pure _

theorem reject (events : List BrokerEvent) (error : CoreError) (reason : String) :
    Moves R (rejectEvidence contentId events error reason) := by
  refine Moves.immediate (Moves.get.bind fun s => ?_); split
  · exact Moves.throw _
  exact ((createIncident_evolves _).zoom fun s t => h.ledger s t).bind fun _ =>
    Moves.ite (Moves.bind (Moves.modify fun s => h.statuses s _ _) fun _ => h.dirty _ _ _)
      (Moves.pure _)

theorem after (events : List BrokerEvent)
    (s : CoreStore) : R s (Txn.after (importBrokerEvents contentId events) s) := by
  unfold Txn.after importBrokerEvents
  cases hi : importEvents contentId events s with
  | ok ids s' => exact h.events events _ _ _ hi
  | error e s' =>
    have hs' : s' = s := immediate_error hi; subst hs'
    cases hc : e.conflict? with
    | none => simp only [hc]; exact refl_of R _
    | some reason =>
      simp only [hc]
      cases hr : rejectEvidence contentId events e reason s' with
      | ok _ s'' => exact h.reject _ _ _ _ _ _ hr
      | error e' s'' =>
        have hs'' : s'' = s' := immediate_error hr; subst hs''
        exact refl_of R _

end

end ImportKinds

namespace ImportWrites

variable {R : CoreStore → CoreStore → Prop}

theorem onLedger (h : ImportWrites R) {α : Type} {x : Repo α} (hx : Moves Evolves x) :
    Moves R (onLedger x) := hx.zoom fun s t => h.ledger s t

variable [IsPreorder CoreStore R]

theorem payload (h : ImportWrites R) (contentId : ContentId) (e : BrokerEvent) (i : OrderIntent) :
    Moves R (importPayload contentId e i) := by
  unfold importPayload; split
  · exact (adopt_evolves _ _).zoom fun s t => h.ledger s t
  · refine Moves.get.bind fun s => ?_; split
    · exact Moves.throw _
    · refine (Moves.require _ _).bind fun _ => Moves.bind ?_ fun _ => Moves.pure _
      exact h.onLedger (recordFill_evolves _)
  · refine Moves.get.bind fun s => ?_; split
    · refine (Moves.require _ _).bind fun _ => (Moves.require _ _).bind fun _ =>
        (Moves.require _ _).bind fun _ => ?_
      split
      · refine (Moves.require _ _).bind fun _ => Moves.get.bind fun s => ?_
        split
        · exact (Moves.require _ _).bind fun _ => h.put _ _ nofun
        · exact Moves.ite (Moves.pure _) ((Moves.require _ _).bind fun _ => h.put _ _ nofun)
      · exact h.put _ _ nofun
    · exact Moves.throw _
  · exact Moves.get.bind fun s => (Moves.require _ _).bind fun _ =>
      (Moves.require _ _).bind fun _ => (Moves.require _ _).bind fun _ => h.put _ _ nofun

/-- An import whose puts all respect `R`. -/
theorem kinds (h : ImportWrites R) (contentId : ContentId) : ImportKinds contentId R where
  payload := h.payload contentId
  ledger := h.ledger
  source _ e :=
    have hsource : (Document.source e).kind ≠ .revision := nofun
    h.put _ _ hsource
  cursors := h.cursors
  revocations := h.revocations
  statuses := h.statuses
  dirty := h.dirty

theorem after (h : ImportWrites R) (contentId : ContentId) (events : List BrokerEvent)
    (s : CoreStore) : R s (Txn.after (importBrokerEvents contentId events) s) :=
  (h.kinds contentId).after events s

end ImportWrites

end Import

theorem keeps_importWrites : ImportWrites Keeps where
  ledger _ _ := ledger_keeps
  put id d _ := put_keeps id d
  cursors _ _ := .of_eq rfl rfl rfl rfl rfl rfl rfl rfl
  revocations _ _ := .of_eq rfl rfl rfl rfl rfl rfl rfl rfl
  statuses _ _ _ := .of_eq rfl rfl rfl rfl rfl rfl rfl rfl
  dirty := dirty_keeps

theorem importBrokerEvents_after (contentId : ContentId) (events : List BrokerEvent)
    (s : CoreStore) : Keeps s (after (importBrokerEvents contentId events) s) :=
  keeps_importWrites.after contentId events s

/-- A transaction that keeps the queue when it commits keeps it when it rolls back. -/
theorem insertLink_keeps (link : IntentLink) : Moves Keeps (insertLink link) :=
  fun s u s' h => by
    obtain ⟨hnone, rfl⟩ := insertLink_ok h
    refine .of_queue ⟨rfl, .rfl' _, fun l hl => ?_, fun _ h => h, fun r h => ⟨r, h, le_refl _⟩⟩
      rfl rfl rfl
    exact (Table.mem_insert hnone).2 (.inl hl)

theorem claimEntry_after (contentId : ContentId) (d : Decision) (i : OrderIntent) (p : String)
    (s : CoreStore) : Keeps s (after (claimEntry contentId d i p) s) :=
  ((put_keeps _ _).bind fun _ => (onLedger_keeps (createOrderIntent_evolves i)).bind fun _ =>
    (insertLink_keeps _).bind fun _ => dirty_keeps _ _ _).after s

/-! ## What processing a lot does -/

section Lot

variable {contentId : ContentId} {resolve : Resolver} {lot : String} {cutoff : Int}
  {s s' : CoreStore}

variable {version : Nat}

theorem ensureVersion_ok (h : ensureVersion lot s = .ok version s') :
    Keeps s s' ∧ ∃ w, s'.work.get? lot = some w ∧ w.version = version := by
  unfold ensureVersion at h; rw [bind_ok] at h; obtain ⟨s₀, s₁, hget, h⟩ := h
  obtain ⟨rfl, rfl⟩ := get_ok.1 hget; split at h
  · simp only [bind_ok, pure_ok] at h; obtain ⟨_, s₂, hdirty, rfl, rfl⟩ := h
    refine ⟨dirty_keeps _ _ _ _ _ _ hdirty, nextWork (s₁.work.get? lot) lot, ?_,
      nextWork_version _ _⟩
    rw [dirty, modify_ok] at hdirty; subst hdirty
    show (s₁.work.upsert (nextWork (s₁.work.get? lot) lot)).get? lot = _
    rw [Table.get?_upsert, if_pos]
    cases hw : s₁.work.get? lot with
    | none => rfl
    | some w => exact (Table.get?_some hw).2
  · next hboth =>
    obtain ⟨rfl, rfl⟩ := pure_ok.1 h; refine ⟨refl_of Keeps _, ?_⟩
    cases hw : s₁.work.get? lot with
    | none => simp [hw] at hboth
    | some w => exact ⟨w, rfl, by simp⟩

theorem markAttempted_ok {u : PUnit} (h : markAttempted lot cutoff s = .ok u s') :
    Keeps s s' ∧ s'.work.get? lot = (s.work.get? lot).map (·.attempt cutoff) ∧
      s'.journal = s.journal := by
  rw [markAttempted, modify_ok] at h; subst h
  have hget := fun other => Table.get?_modify s.work lot (·.attempt cutoff) (fun _ h => h) other
  refine ⟨⟨?_, fun acks hq other => ?_⟩, (hget lot).trans (if_pos rfl), rfl⟩
  · exact ⟨rfl, .rfl' _, fun _ h => h, fun _ h => h, fun r h => ⟨r, h, le_refl _⟩⟩
  rw [hget other]; by_cases hlot : other = lot
  · subst hlot; rw [if_pos rfl]; exact (hq other).attempted (some cutoff)
  · rw [if_neg hlot]; exact hq other

theorem insertDocument_aside (identity : String) (d : Document) :
    Moves Aside (insertDocument identity d) := fun s b s' h => by
  have hg := (insertDocument_keeps identity d _ _ _ h).1
  rcases insertDocument_ok h with ⟨_, _, rfl⟩ | ⟨_, _, rfl⟩
  · exact ⟨hg, rfl, rfl, rfl⟩
  · exact ⟨hg, rfl, rfl, rfl⟩

theorem setStatus_aside (lot status : String) : Moves Aside (setStatus lot status) :=
  Moves.modify fun _ => .of_eq rfl rfl rfl rfl rfl rfl rfl rfl

theorem recordOutcome_aside (contentId : ContentId) (lot : String) (trip : RoundTrip) :
    Moves Aside (recordOutcome contentId lot trip) := by
  refine Moves.bind ((insertDocument_aside _ _).bind fun b => ?_) fun _ => Moves.modify fun _ => ?_
  · cases b with
    | false | true => exact Moves.pure _
  · exact .of_eq rfl rfl rfl rfl rfl rfl rfl rfl

/-- The acknowledgements after one that was conditional. -/
def ackIf (acks : List Ack) (b : Bool) (a : Ack) : List Ack := if b then acks ++ [a] else acks

variable {acks : List Ack} {covered : Bool}

/-- **Acknowledgement.** Over a covered version the queue stays sound with it. -/
theorem acknowledge_ok {w : WorkRow} {u : PUnit} (hw : s.work.get? lot = some w)
    (hv : w.version = version) (hq : QueueSound acks s)
    (hcov : covered = true → ∀ n ∈ s.notesOf lot, ∀ t ∈ n.times, t ≤ cutoff)
    (h : acknowledge lot version covered s = .ok u s') :
    Grows s s' ∧ QueueSound (ackIf acks covered ⟨lot, version, cutoff⟩) s' := by
  rw [acknowledge, modify_ok] at h; subst h
  refine ⟨⟨rfl, .rfl' _, fun _ h => h, fun _ h => h, fun r h => ⟨r, h, le_refl _⟩⟩,
    fun other => ?_⟩
  have hget := Table.get?_modify s.work lot (·.acknowledge version covered)
    (fun w h => (w.acknowledge_lotId version covered).trans h) other
  rw [hget]; by_cases hlot : other = lot
  · subst hlot; rw [if_pos rfl, hw, Option.map_some]
    cases hb : covered with
    | false =>
      have hacks : acksOf (ackIf acks false ⟨other, version, cutoff⟩) other = acksOf acks other :=
        rfl
      rw [hacks, WorkRow.acknowledge, if_neg (by simp), ← hw]; exact hq other
    | true =>
      have hacks : acksOf (ackIf acks true ⟨other, version, cutoff⟩) other =
          acksOf acks other ++ [⟨other, version, cutoff⟩] := by simp [acksOf, ackIf]
      rw [hacks, WorkRow.acknowledge, if_pos ⟨hv, rfl⟩, ← hv]
      have hrow := hq other; rw [hw] at hrow
      exact hrow.acknowledge rfl (hcov hb)
  · have hacks : acksOf (ackIf acks covered ⟨lot, version, cutoff⟩) other = acksOf acks other := by
      cases covered with
      | false => rfl
      | true => simp [acksOf, ackIf, Ne.symm hlot]
    rw [if_neg hlot, hacks]; exact hq other

theorem settleTrip_ok {w : WorkRow} {trip : RoundTrip} {out : LotOutcome}
    (hw : s.work.get? lot = some w) (hv : w.version = version) (hq : QueueSound acks s)
    (hcov : covered = true → ∀ n ∈ s.notesOf lot, ∀ t ∈ n.times, t ≤ cutoff)
    (h : settleTrip contentId lot version covered trip s = .ok out s') :
    Grows s s' ∧ QueueSound (ackIf acks out.acknowledged ⟨lot, out.version, cutoff⟩) s' := by
  -- after writes aside of the queue, the acknowledgement still finds the version covered
  have htail : ∀ (s₁ s₂ : CoreStore) (u : PUnit), Aside s s₁ →
      acknowledge lot version covered s₁ = .ok u s₂ →
      Grows s s₂ ∧ QueueSound (ackIf acks covered ⟨lot, version, cutoff⟩) s₂ := by
    intro s₁ s₂ u haside hack
    have hnotes : s₁.notesOf lot = s.notesOf lot := by
      unfold CoreStore.notesOf; rw [haside.journal]
    obtain ⟨hg, hq'⟩ := acknowledge_ok (haside.work ▸ hw) hv (haside.keeps.2 acks hq)
      (fun hb => by rw [hnotes]; exact hcov hb) hack
    exact ⟨haside.grows.trans' hg, hq'⟩
  unfold settleTrip at h; rw [bind_ok] at h; obtain ⟨s₀, s₁, hget, h⟩ := h
  obtain ⟨rfl, rfl⟩ := get_ok.1 hget; split at h
  · simp only [bind_ok, pure_ok] at h
    obtain ⟨_, s₂, hset, _, s₃, hack, rfl, rfl⟩ := h
    exact htail _ _ _ (setStatus_aside _ _ _ _ _ hset) hack
  split at h
  · obtain ⟨rfl, rfl⟩ := pure_ok.1 h; exact ⟨.rfl' _, hq⟩
  · simp only [bind_ok, pure_ok] at h
    obtain ⟨_, s₂, hrec, _, s₃, hack, rfl, rfl⟩ := h
    exact htail _ _ _ (recordOutcome_aside _ _ _ _ _ _ hrec) hack

/-- **One lot.** Processing a lot grows the evidence and keeps the queue sound, with the
acknowledgement it made. -/
theorem processLot_ok {out : LotOutcome}
    (h : processLot contentId resolve cutoff lot s = .ok out s') (hq : QueueSound acks s) :
    Grows s s' ∧ QueueSound (ackIf acks out.acknowledged ⟨lot, out.version, cutoff⟩) s' := by
  unfold processLot at h; rw [immediate_ok, bind_ok] at h
  obtain ⟨version, s₁, hver, h⟩ := h; rw [bind_ok] at h
  obtain ⟨covered, s₂, hcovered, h⟩ := h; rw [bind_ok] at h
  obtain ⟨_, s₃, hatt, h⟩ := h; rw [bind_ok] at h; obtain ⟨s₀, s₄, hget, h⟩ := h
  obtain ⟨rfl, rfl⟩ := get_ok.1 hget
  obtain ⟨k₁, w, hw, hv⟩ := ensureVersion_ok hver
  obtain ⟨k₂, hwork, hcov⟩ := coveredVersion_ok hw hv hcovered
  obtain ⟨k₃, hwork', hjournal⟩ := markAttempted_ok hatt
  have keeps : Keeps s s₄ := trans_of Keeps k₁ (trans_of Keeps k₂ k₃)
  have hq₄ := keeps.2 acks hq; split at h
  · obtain ⟨rfl, rfl⟩ := pure_ok.1 h; exact ⟨keeps.1, hq₄⟩
  cases hr : resolve s₄ lot cutoff with
  | error e =>
    rw [hr] at h; cases h
  | ok r =>
    rw [hr] at h
    cases r with
    | incomplete reason =>
      simp only [bind_ok, pure_ok] at h; obtain ⟨_, s₅, hset, rfl, rfl⟩ := h
      have haside := setStatus_aside _ _ _ _ _ hset
      exact ⟨keeps.1.trans' haside.grows, haside.keeps.2 acks hq₄⟩
    | trip trip =>
      have hnotes : s₄.notesOf lot = s₂.notesOf lot := by
        unfold CoreStore.notesOf; rw [hjournal]
      have hw₄ : s₄.work.get? lot = some (w.attempt cutoff) := by
        rw [hwork', hwork, hw]; rfl
      obtain ⟨hg, hq'⟩ := settleTrip_ok hw₄ hv hq₄
        (fun hb => by rw [hnotes]; exact hcov acks (k₁.2 acks hq) hb) h
      exact ⟨keeps.1.trans' hg, hq'⟩

end Lot

/-! ## The system -/

/-- A run of `process_outcomes` between its transactions. -/
structure ActiveRun where
  cutoff : Int
  remaining : List String

structure QueueState where
  store : CoreStore
  runs : Nat → Option ActiveRun
  acks : List Ack

inductive QueueLabel
  /-- `dirty` from any caller. -/
  | notify (lots : List String) (availableAt : Option Int)
  | claim (decision : Decision) (intent : OrderIntent) (protectionId : String)
  /-- `store.record`. -/
  | publish (identity : String) (document : Document)
  | importBatch (events : List BrokerEvent)
  | revoke (proofId : String) (availableAt : Option Int)
  /-- Any transaction aside of the queue. -/
  | write (store : CoreStore)
  | start (run : Nat) (cutoff : Int)
  /-- The run processes its next lot. -/
  | advance (run : Nat)
  /-- The run returns, or its process dies. -/
  | stop (run : Nat)

/-- One transaction, or one move of a run. -/
def QueueStep (contentId : ContentId) (resolve : Resolver) (st : QueueState) :
    QueueLabel → QueueState → Prop
  | .notify lots availableAt, st' =>
    st' = { st with store := after (immediate (dirty lots availableAt false)) st.store }
  | .claim d i p, st' => st' = { st with store := after (claimEntry contentId d i p) st.store }
  | .publish identity d, st' => st' = { st with store := after (immediate (put identity d)) st.store }
  | .importBatch events, st' =>
    st' = { st with store := after (importBrokerEvents contentId events) st.store }
  | .revoke p t, st' => st' = { st with store := after (immediate (revokedProof p t)) st.store }
  | .write s, st' => Aside st.store s ∧ st' = { st with store := s }
  | .start run cutoff, st' => st.runs run = none ∧
    st' = { st with runs := Function.update st.runs run (some ⟨cutoff, selectLots st.store⟩) }
  | .advance run, st' => ∃ cutoff lot rest, st.runs run = some ⟨cutoff, lot :: rest⟩ ∧
    ((∃ out s', processLot contentId resolve cutoff lot st.store = .ok out s' ∧
        st' = { store := s'
                runs := Function.update st.runs run (some ⟨cutoff, rest⟩)
                acks := ackIf st.acks out.acknowledged ⟨lot, out.version, cutoff⟩ }) ∨
      (∃ e s', processLot contentId resolve cutoff lot st.store = .error e s' ∧
        st' = { st with store := s', runs := Function.update st.runs run none }))
  | .stop run, st' => st' = { st with runs := Function.update st.runs run none }

/-- From any store whose notifications are still to come. -/
def processing (contentId : ContentId) (resolve : Resolver) : LTS QueueState QueueLabel where
  init st := st.store.journal = [] ∧ st.acks = [] ∧ (∀ r, st.runs r = none) ∧
    ∀ w ∈ st.store.work.rows, w.processedVersion ≤ w.version
  step := QueueStep contentId resolve

theorem processing_init {contentId : ContentId} {resolve : Resolver} {st : QueueState}
    (h : (processing contentId resolve).init st) : QueueSound st.acks st.store := by
  obtain ⟨hj, ha, _, hw⟩ := h; intro lot
  have hnotes : st.store.notesOf lot = [] := by
    unfold CoreStore.notesOf; rw [hj]; rfl
  rw [hnotes, ha]
  refine ⟨fun n hn => ?_, fun _ _ _ _ _ n hn => ?_, fun n hn => ?_, fun a ha => ?_, fun w hget => ?_⟩
  · cases hn
  · cases hn
  · cases hn
  · cases ha
  · exact ⟨hw w (Table.get?_some hget).1, fun _ => .inl rfl⟩

theorem processing_step {contentId : ContentId} {resolve : Resolver} {st st' : QueueState}
    {l : QueueLabel} (hq : QueueSound st.acks st.store)
    (h : (processing contentId resolve).step st l st') : QueueSound st'.acks st'.store := by
  cases l with
  | notify lots t => subst h; exact ((dirty_keeps _ _ _).after st.store).2 _ hq
  | claim d i p => subst h; exact (claimEntry_after contentId d i p st.store).2 _ hq
  | publish identity d => subst h; exact ((put_keeps _ _).after st.store).2 _ hq
  | importBatch events => subst h; exact (importBrokerEvents_after contentId events st.store).2 _ hq
  | revoke p t => subst h; exact ((revokedProof_keeps _ _).after st.store).2 _ hq
  | write s =>
    obtain ⟨haside, rfl⟩ := h; exact haside.keeps.2 _ hq
  | start run cutoff =>
    obtain ⟨_, rfl⟩ := h; exact hq
  | advance run =>
    obtain ⟨cutoff, lot, rest, _, ⟨out, s', hok, rfl⟩ | ⟨e, s', herr, rfl⟩⟩ := h
    · exact (processLot_ok hok hq).2
    -- the transaction rolled back
    have hs' : s' = st.store := immediate_error herr; subst hs'; exact hq
  | stop run => subst h; exact hq

theorem processing_sound (contentId : ContentId) (resolve : Resolver) :
    (processing contentId resolve).Inductive fun st => QueueSound st.acks st.store where
  init _ := processing_init
  step _ _ _ := processing_step

/-- **Work is never lost.** While a lot's processed version is its version, that version
was acknowledged, and every notification recorded for the lot so far (an absent source
time stands for the evidence then on record) is within the cutoff of every run that
acknowledged it. -/
theorem acknowledged_covers {contentId : ContentId} {resolve : Resolver} {st : QueueState}
    (hr : (processing contentId resolve).Reachable st) {w : WorkRow}
    (hw : w ∈ st.store.work.rows) (hp : w.processedVersion = w.version) {n : Notification}
    (hn : n ∈ st.store.journal) (hlot : n.lotId = w.lotId) :
    (∃ a ∈ st.acks, a.lotId = w.lotId ∧ a.version = w.version) ∧
      ∀ a ∈ st.acks, a.lotId = w.lotId → a.version = w.version → ∀ t ∈ n.times, t ≤ a.cutoff := by
  have hsound := (processing_sound contentId resolve).reachable hr w.lotId
  have hget : st.store.work.get? w.lotId = some w := Table.get?_key.2 hw
  have hmem : n ∈ st.store.notesOf w.lotId := List.mem_filter.2 ⟨hn, by simpa using hlot⟩
  rw [hget] at hsound; refine ⟨?_, fun a ha halot hav => ?_⟩
  · rcases (hsound.processed w rfl).2 hp with hnil | ⟨a, ha, hav⟩
    · rw [hnil] at hmem; cases hmem
    · obtain ⟨ha, halot⟩ := List.mem_filter.1 ha
      exact ⟨a, ha, by simpa using halot, hav⟩
  · obtain ⟨w', hw', _, hcov⟩ := hsound.acked a (List.mem_filter.2 ⟨ha, by simpa using halot⟩)
    cases hw'; exact hcov hav n hmem

/-! ## A claim and one run -/

def paperDecision : Decision := ⟨5, "obs", "SPY", 10⟩

def paperTrip : RoundTrip :=
  ⟨"decision:obs", "proof:PA1", "COMPLETE", 1, none, 10, 1, 4, 10, "EXPLICIT_SYNTHETIC", "p", "h"⟩

def resolveAll : Resolver := fun _ _ _ => .ok (.trip paperTrip)

def emptyStore : CoreStore := { config := paperConfig }

def openedStore : CoreStore :=
  after (claimEntry labelDigest paperDecision (entryIntent.withState .riskApproved) "plan") emptyStore

def processedStore : CoreStore :=
  after (processLot labelDigest resolveAll 10 "decision:obs") openedStore

/-- The claim at time 5 is acknowledged by a run whose cutoff is 10. -/
theorem acknowledged_covers_claim : ∃ st, (processing labelDigest resolveAll).Reachable st ∧
      ∃ w ∈ st.store.work.rows, w.processedVersion = w.version ∧
        ∃ n ∈ st.store.journal, n.times = [5] ∧
          (∃ a ∈ st.acks, a.lotId = w.lotId ∧ a.version = w.version) ∧
          ∀ a ∈ st.acks, a.lotId = w.lotId → a.version = w.version → ∀ t ∈ n.times, t ≤ a.cutoff := by
  have hlots : selectLots openedStore = ["decision:obs"] := by decide
  have hrun : Returns (processLot labelDigest resolveAll 10 "decision:obs") openedStore
      ⟨.revised paperTrip, 1, true⟩ := by decide
  obtain ⟨s', hok⟩ := hrun; have hs' : processedStore = s' := after_ok hok
  let start : QueueState := ⟨emptyStore, fun _ => none, []⟩
  let opened : QueueState := ⟨openedStore, fun _ => none, []⟩
  let running : QueueState :=
    ⟨openedStore, Function.update (fun _ => none) 0 (some ⟨10, selectLots openedStore⟩), []⟩
  let final : QueueState := ⟨s', Function.update running.runs 0 (some ⟨10, []⟩),
    ackIf [] true ⟨"decision:obs", 1, 10⟩⟩
  have hclaim : (processing labelDigest resolveAll).step start
      (.claim paperDecision (entryIntent.withState .riskApproved) "plan") opened := rfl
  have hstart : (processing labelDigest resolveAll).step opened (.start 0 10) running := ⟨rfl, rfl⟩
  have hadvance : (processing labelDigest resolveAll).step running (.advance 0) final := by
    refine ⟨10, "decision:obs", [], ?_, .inl ⟨_, s', hok, rfl⟩⟩
    simp [running, hlots]
  have hreach : (processing labelDigest resolveAll).Reachable final :=
    ⟨start, _, ⟨rfl, rfl, fun _ => rfl, nofun⟩,
      .cons hclaim (.cons hstart (.cons hadvance (.nil final)))⟩
  have hwork : ⟨"decision:obs", 1, 1, some 10⟩ ∈ s'.work.rows := by
    rw [← hs']; decide
  have hnote : ⟨"decision:obs", some 5, [5]⟩ ∈ s'.journal := by
    rw [← hs']; decide
  exact ⟨final, hreach, _, hwork, rfl, _, hnote, rfl, acknowledged_covers hreach hwork rfl hnote rfl⟩

end Quantbot.L4
