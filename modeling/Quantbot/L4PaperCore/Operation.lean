import Quantbot.L4PaperCore.Guardian
import Quantbot.L4PaperCore.UnsentRuns

/-!
# The paper core in operation

Every process of the core over one store: the coordinators' calls (`UnsentRuns`), and as
`CoreWrite` the transactions beside them. Claims of entries, the guardian's exit, the
prelude of a submission, retirement, imports and the two recoveries.

`definitively_unsent_permanent`: an intent that is definitively unsent in any state of
any run was never posted, is not posted later, and stays definitively unsent.
-/
namespace Quantbot.L4

open Core L1 L2 L3 Txn

/-! ## Transactions that show nothing -/

/-- A guarded write whose new events are neither refusals nor evidence of no send. -/
structure QuietWrite (posted : String → Prop) (s s' : CoreStore) : Prop where
  respects : Respects posted s s'
  added : ∀ e ∈ s'.orderEvents.rows, e ∈ s.orderEvents.rows ∨
    (∀ c, showsNoSend c e = false) ∧ showsRefusal e = false

section Quiet

variable {posted : String → Prop} {s s' : CoreStore}

theorem Respects.trans' {a b c : CoreStore} (h : Respects posted a b) (h' : Respects posted b c) :
    Respects posted a c := by
  refine ⟨h.evolves.trans' h'.evolves, fun l hl => h'.links l (h.links l hl), fun o ho => ?_,
    fun i row hrow hstate hnot => ?_⟩
  · rcases h'.orders o ho with hp | ⟨o₁, ho₁, hc₁⟩
    · exact .inl hp
    rcases h.orders o₁ ho₁ with hp | ⟨o₂, ho₂, hc₂⟩
    · exact .inl (hc₁ ▸ hp)
    · exact .inr ⟨o₂, ho₂, hc₂.trans hc₁⟩
  · obtain ⟨q, hq, rfl | rfl⟩ := h.created i row hrow hstate hnot
    · obtain ⟨q, hq', hcase⟩ := h'.created i _ hq rfl hnot
      exact ⟨q, hq', hcase⟩
    · obtain ⟨q, hq', hleads⟩ := h'.evolves.intents i _ hq
      exact ⟨q, hq', .inr (hleads.of_terminal (by decide))⟩

instance : IsPreorder CoreStore (QuietWrite posted) where
  refl s := ⟨(refl_of (HarmlessCore posted) s).respects, fun _ he => .inl he⟩
  trans a b c h h' := by
    refine ⟨h.respects.trans' h'.respects, fun e he => ?_⟩
    rcases h'.added e he with hold | hnew
    · exact h.added e hold
    · exact .inr hnew

theorem HarmlessCore.quiet (h : HarmlessCore posted s s') : QuietWrite posted s s' :=
  ⟨h.respects, fun _ he => .inl (h.ledger.events ▸ he)⟩

theorem QuietWrite.guarded (h : QuietWrite posted s s') : GuardedWrite posted s s' := by
  refine ⟨h.respects, fun e he => (h.added e he).imp_right fun hnew => ⟨hnew.1, fun hshows => ?_⟩⟩
  rw [hnew.2] at hshows; cases hshows

theorem onLedger_quiet {α : Type} {x : Repo α} (hx : Moves (Harmless posted) x) :
    Moves (QuietWrite posted) (onLedger x) :=
  hx.zoom fun _ _ h => HarmlessCore.quiet ⟨h, fun _ hl => hl⟩

theorem transitionOrderIntent_harmless {i : String} {target expected : IntentState}
    (h : target = .error ∨ expected ≠ .orderCreated) :
    Moves (Harmless posted) (transitionOrderIntent i target expected) := fun s r s' hx =>
  transition_harmless h s r s' (stored_ok.2 hx)

theorem insertLink_quiet (link : IntentLink) : Moves (QuietWrite posted) (insertLink link) :=
  fun s u s' h => by
  obtain ⟨hnone, rfl⟩ := insertLink_ok h
  exact HarmlessCore.quiet ⟨refl_of (Harmless posted) _, fun l hl => (Table.mem_insert hnone).2 (.inl hl)⟩

theorem recordEvent_quiet {row : OrderEventRow} (hnosend : ∀ c, showsNoSend c row = false)
    (hrefusal : showsRefusal row = false) : Moves (QuietWrite posted) (recordEvent row) := by
  refine Moves.bind (fun s b s' h => ?_) fun _ => Moves.pure _
  obtain ⟨t, ht, rfl⟩ := zoom_ok.1 h
  rcases recordOrderEvent_ok ht with ⟨_, _, rfl⟩ | ⟨_, hnone, rfl⟩
  · exact refl_of (QuietWrite posted) _
  refine ⟨⟨recordOrderEvent_evolves row _ _ _ ht, fun _ hl => hl, fun o ho => .inr ⟨o, ho, rfl⟩,
    fun i q hq hcreated _ => ⟨q.state, hq, .inl hcreated⟩⟩, fun e he => ?_⟩
  rcases (Table.mem_insert hnone).1 he with hold | rfl
  · exact .inl hold
  · exact .inr ⟨hnosend, hrefusal⟩

end Quiet

/-! ## The guardian's exit -/

section Exit

variable {posted : String → Prop}

theorem handOver_quiet (r : ExitReading) (exit : OrderIntent) :
    Moves (QuietWrite posted) (handOver r exit) := by
  have htransition : Moves (Harmless posted) (transitionOrderIntent exit.intentId .orderCreated
      .riskApproved) := transitionOrderIntent_harmless (.inr nofun)
  exact Moves.ite (onLedger_quiet htransition) (Moves.pure _)

theorem insertExit_quiet (contentId : ContentId) (r : ExitReading) (exit : OrderIntent) :
    Moves (QuietWrite posted) (insertExit contentId r exit) :=
  (onLedger_quiet (createOrderIntent_harmless exit)).bind fun _ =>
    (insertLink_quiet _).bind fun _ => recordEvent_quiet (fun _ => rfl) rfl

theorem exitOf_quiet (contentId : ContentId) (r : ExitReading) (previous : List String)
    (held : ExitsHeld) (remaining : ℚ) :
    Moves (QuietWrite posted) (exitOf contentId r previous held remaining) := by
  unfold exitOf; split
  · exact (handOver_quiet r _).bind fun _ => Moves.pure _
  split
  · exact (insertExit_quiet contentId r _).bind fun _ =>
      (handOver_quiet r _).bind fun _ => Moves.pure _
  · exact Moves.pure _

theorem claimLotExit_quiet (contentId : ContentId) (r : ExitReading) :
    Moves (QuietWrite posted) (claimLotExit contentId r) := by
  refine Moves.immediate (Moves.get.bind fun s => ?_); split
  · exact Moves.throw _
  split
  · exact Moves.pure _
  · exact exitOf_quiet _ _ _ _ _

end Exit

/-! ## Admissions -/

/-- Prepared intents and links of entries were added; the rest of the order ledger and
the broker's evidence are as they were. -/
structure Admits (s s' : CoreStore) : Prop where
  intents : ∀ i row, s.orderIntents.get? i = some row → s'.orderIntents.get? i = some row
  prepared : ∀ i row, s'.orderIntents.get? i = some row →
    s.orderIntents.get? i = some row ∨ row.state = .riskApproved
  orders : s'.brokerOrders = s.brokerOrders
  fills : s'.fills = s.fills
  events : s'.orderEvents = s.orderEvents
  links : ∀ l ∈ s.links.rows, l ∈ s'.links.rows
  entries : ∀ l ∈ s'.links.rows, l ∈ s.links.rows ∨ l.role = .entry
  sources : ∀ id, s'.source? id = s.source? id

instance : IsPreorder CoreStore Admits where
  refl s := ⟨fun _ _ h => h, fun _ _ h => .inl h, rfl, rfl, rfl, fun _ h => h, fun _ h => .inl h,
    fun _ => rfl⟩
  trans a b c h h' := by
    refine ⟨fun i row hrow => h'.intents i row (h.intents i row hrow), fun i row hrow => ?_,
      h'.orders.trans h.orders, h'.fills.trans h.fills, h'.events.trans h.events,
      fun l hl => h'.links l (h.links l hl), fun l hl => ?_,
      fun id => (h'.sources id).trans (h.sources id)⟩
    · rcases h'.prepared i row hrow with hold | hnew
      · exact h.prepared i row hold
      · exact .inr hnew
    · rcases h'.entries l hl with hold | hnew
      · exact h.entries l hold
      · exact .inr hnew

section Admits

variable {posted : String → Prop} {s s' : CoreStore}

theorem Admits.quiet (h : Admits s s') : QuietWrite posted s s' := by
  refine ⟨⟨⟨fun i row hrow => ⟨row.state, h.intents i row hrow, .refl⟩, fun id row hrow => ?_,
    fun f hf => ?_, fun e he => ?_⟩, h.links, fun o ho => .inr ⟨o, h.orders ▸ ho, rfl⟩,
    fun i row hrow hstate _ => ⟨row.state, h.intents i row hrow, .inl hstate⟩⟩,
    fun e he => .inl (h.events ▸ he)⟩
  · refine ⟨row, ?_, .rfl' row⟩; rw [h.orders]; exact hrow
  · rw [h.fills]; exact hf
  · rw [h.events]; exact he

theorem Beside.admits (h : Beside s s') : Admits s s' := by
  have hlinks : ∀ l, l ∈ s'.links.rows ↔ l ∈ s.links.rows := fun l => by rw [h.links]
  refine ⟨fun i row hrow => ?_, fun i row hrow => .inl ?_, ?_, ?_, ?_, fun l hl => (hlinks l).2 hl,
    fun l hl => .inl ((hlinks l).1 hl), h.sources⟩
  · rw [h.ledger]; exact hrow
  · rw [← h.ledger]; exact hrow
  · rw [h.ledger]
  · rw [h.ledger]
  · rw [h.ledger]

theorem createOrderIntent_admits {intent : OrderIntent} (hstate : intent.state = .riskApproved) :
    Moves Admits (onLedger (createOrderIntent intent)) := fun s b s' h => by
  obtain ⟨t, ht, rfl⟩ := zoom_ok.1 h
  rcases createOrderIntent_ok ht with ⟨_, _, rfl⟩ | ⟨_, hnone, hclient, rfl⟩
  · exact refl_of Admits _
  have hget := fun i => Table.get?_insert (a := intent) hnone i
  refine ⟨fun i row hrow => ?_, fun i row hrow => ?_, rfl, rfl, rfl, fun _ hl => hl,
    fun _ hl => .inl hl, fun _ => rfl⟩
  · show (s.orderIntents.insert intent).get? i = some row
    rw [UTable.insert_toTable hnone hclient, hget,
      if_neg fun hi => by rw [hi, hrow] at hnone; cases hnone]
    exact hrow
  · have hrow : (s.orderIntents.insert intent).get? i = some row := hrow
    rw [UTable.insert_toTable hnone hclient, hget] at hrow
    split at hrow
    · cases hrow
      exact .inr hstate
    · exact .inl hrow

theorem insertLink_admits {link : IntentLink} (hrole : link.role = .entry) :
    Moves Admits (insertLink link) := fun s u s' h => by
  obtain ⟨hnone, rfl⟩ := insertLink_ok h
  refine ⟨fun _ _ h => h, fun _ _ h => .inl h, rfl, rfl, rfl,
    fun l hl => (Table.mem_insert hnone).2 (.inl hl), fun l hl => ?_, fun _ => rfl⟩
  rcases (Table.mem_insert hnone).1 hl with hold | rfl
  · exact .inl hold
  · exact .inr hrole

theorem claimEntry_admits {contentId : ContentId} {decision : Decision} {intent : OrderIntent}
    {protectionId : String} (hstate : intent.state = .riskApproved) :
    Moves Admits (claimEntry contentId decision intent protectionId) := by
  have hput : Moves Beside (put (contentId (.decision decision)) (.decision decision)) :=
    put_beside nofun
  refine Moves.immediate (Moves.bind ?_ fun _ => (createOrderIntent_admits hstate).bind fun _ =>
    (insertLink_admits rfl).bind fun _ => ?_)
  · exact fun _ _ _ h => (hput _ _ _ h).admits
  · exact fun _ _ _ h => (dirty_beside _ _ _ _ _ _ h).admits

end Admits

/-! ## The transactions beside the calls -/

inductive CoreWrite
  /-- `claim_entry`, `claim_batch`, and whatever leaves the order ledger alone. -/
  | admission
  /-- A guardian cycle's exit. -/
  | exit (reading : ExitReading)
  /-- `RISK_APPROVED` to `ORDER_CREATED` ahead of a submission (runtime.py:189-197). -/
  | create (intentId : String)
  | retire (reading : RetireReading) (intentId : String)
  | importEvents (events : List BrokerEvent)
  | recoverSubmission (intentId : String) (order : BrokerOrder)
  /-- `SUBMITTING` to `SUBMISSION_UNKNOWN` in `recover_intents` (outcomes.py:987-1001). -/
  | markUnknown (intentId : String)

/-- The transaction commits, or an import is rejected with its incident. -/
def CoreWrite.Writes (v : GuardViews) (s : CoreStore) : CoreWrite → CoreStore → Prop
  | .admission, s' => Admits s s'
  | .exit r, s' => ∃ exit, claimLotExit v.contentId r s = .ok exit s'
  | .create i, s' => ∃ row, onLedger (transitionOrderIntent i .orderCreated .riskApproved) s = .ok row s'
  | .retire r i, s' => ∃ b, retireEntry v r i s = .ok b s'
  | .importEvents events, s' => s' = after (importBrokerEvents v.contentId events) s
  | .recoverSubmission i order, s' =>
    ∃ row, coreSession.exec (L3.recoverSubmission i order) s = .ok row s'
  | .markUnknown i, s' =>
    ∃ row, onLedger (transitionOrderIntent i .submissionUnknown .submitting) s = .ok row s'

/-- The orders a transaction has from the broker. -/
def CoreWrite.Brings : CoreWrite → BrokerOrder → Prop
  | .importEvents events, o => ∃ e ∈ events, e.order? = some o
  | .recoverSubmission _ order, o => o = order
  | _, _ => False

/-- The core: coordinator calls beside every other transaction. -/
def core {ι : Type} [DecidableEq ι] (sha256 : String → String) (v : GuardViews)
    (kind : ι → CoordinatorKind) : LTS (CoreWorld ι) (SendLabel ι SendReading CoreWrite) :=
  operating sha256 v kind (fun s l s' => l.Writes v s s') CoreWrite.Brings

theorem coreWrite_guarded (v : GuardViews) :
    GuardedWrites (fun s (l : CoreWrite) s' => l.Writes v s s') CoreWrite.Brings := by
  intro posted s l s' h hbrings
  cases l with
  | admission => exact Admits.quiet h |>.guarded
  | exit r =>
    obtain ⟨_, h⟩ := h; exact (claimLotExit_quiet _ _ _ _ _ h).guarded
  | create i =>
    obtain ⟨_, h⟩ := h
    have hmoves : Moves (Harmless posted) (transitionOrderIntent i .orderCreated .riskApproved) :=
      transitionOrderIntent_harmless (.inr nofun)
    exact (onLedger_quiet hmoves _ _ _ h).guarded
  | retire r i =>
    obtain ⟨_, h⟩ := h; exact retireEntry_guarded h
  | importEvents events =>
    subst h
    exact (import_harmless _ (fun e he o ho => hbrings o ⟨e, he, ho⟩) s).guarded
  | recoverSubmission i order =>
    obtain ⟨_, h⟩ := h; obtain ⟨t, ht, rfl⟩ := zoom_ok.1 h
    exact HarmlessCore.guarded ⟨recoverSubmission_harmless (hbrings order rfl) ht, fun _ hl => hl⟩
  | markUnknown i =>
    obtain ⟨_, h⟩ := h
    have hmoves : Moves (Harmless posted) (transitionOrderIntent i .submissionUnknown .submitting) :=
      transitionOrderIntent_harmless (.inr nofun)
    exact (onLedger_quiet hmoves _ _ _ h).guarded

/-- **Definitively unsent is sound and permanent.** In whatever order the coordinators'
calls, their guards and claims, retirements, imports, recoveries, entry and exit claims
and crashes interleave: an intent that is definitively unsent has never been posted, and
in every later state its client id has not been posted and it is still definitively
unsent. -/
theorem definitively_unsent_permanent {ι : Type} [DecidableEq ι] (sha256 : String → String)
    (v : GuardViews) (kind : ι → CoordinatorKind) (w w' : CoreWorld ι)
    (ls : List (SendLabel ι SendReading CoreWrite)) (i : String)
    (hreach : (core sha256 v kind).Reachable w) (hrun : (core sha256 v kind).Run w ls w')
    (hunsent : definitivelyUnsent w.store.toStore i = true) :
    definitivelyUnsent w'.store.toStore i = true ∧ ∃ row, w'.store.orderIntents.get? i = some row ∧
        ∀ a ∈ w'.log, ∀ j, a.2 ≠ .submit j row.clientOrderId true := by
  obtain ⟨hkept, row, hrow, hunposted⟩ :=
    unsent_permanent (coreWrite_guarded v) hreach hunsent hrun
  exact ⟨hkept, row, hrow, fun a ha j hsubmit => hunposted ⟨a, ha, j, hsubmit⟩⟩

/-! ## An entry retired in time -/

def paperViews : GuardViews := ⟨labelDigest, fun _ => none⟩

def preparedEntry : OrderIntent := entryIntent.withState .riskApproved

def entryDecision : Decision := ⟨0, "obs", "SPY", 10⟩

def admittedStore : CoreStore :=
  after (claimEntry labelDigest entryDecision preparedEntry "plan") emptyStore

def createdStore : CoreStore :=
  after (onLedger (transitionOrderIntent "core-entry-1" .orderCreated .riskApproved)) admittedStore

def elapsedReading : RetireReading := { now := 1, elapsed := ["CORE_ENTRY_AUTHORITY_EXPIRED"] }

def retiredStore : CoreStore := after (retireEntry paperViews elapsedReading "core-entry-1") createdStore

/-- No call, nothing sent. -/
def idleWorld (s : CoreStore) : CoreWorld Nat := ⟨s, fun _ => .idle, []⟩

theorem retired_reachable :
    (core id paperViews fun _ : Nat => .core).Reachable (idleWorld retiredStore) := by
  have hadmitted : Returns (claimEntry labelDigest entryDecision preparedEntry "plan") emptyStore
      ⟨⟩ := by decide
  have hcreated : Returns (onLedger (transitionOrderIntent "core-entry-1" .orderCreated
      .riskApproved)) admittedStore (preparedEntry.withState .orderCreated) := by decide
  have hretired : Returns (retireEntry paperViews elapsedReading "core-entry-1") createdStore
      true := by decide
  obtain ⟨s₁, h₁⟩ := hadmitted; obtain ⟨s₂, h₂⟩ := hcreated
  obtain ⟨s₃, h₃⟩ := hretired; have hs₁ : admittedStore = s₁ := after_ok h₁
  have hs₂ : createdStore = s₂ := after_ok h₂
  have hs₃ : retiredStore = s₃ := after_ok h₃
  have hadmit : (core id paperViews fun _ : Nat => .core).step (idleWorld emptyStore)
      (.write .admission) (idleWorld admittedStore) :=
    ⟨⟨_, claimEntry_admits rfl _ _ _ (hs₁ ▸ h₁), rfl⟩, fun _ => nofun⟩
  have hcreate : (core id paperViews fun _ : Nat => .core).step (idleWorld admittedStore)
      (.write (.create "core-entry-1")) (idleWorld createdStore) :=
    ⟨⟨_, ⟨_, hs₂ ▸ h₂⟩, rfl⟩, fun _ => nofun⟩
  have hretire : (core id paperViews fun _ : Nat => .core).step (idleWorld createdStore)
      (.write (.retire elapsedReading "core-entry-1")) (idleWorld retiredStore) :=
    ⟨⟨_, ⟨_, hs₃ ▸ h₃⟩, rfl⟩, fun _ => nofun⟩
  exact ⟨idleWorld emptyStore, _, ⟨fun _ => rfl, rfl, rfl, rfl, rfl⟩,
    .cons hadmit (.cons hcreate (.cons hretire (.nil _)))⟩

/-- A call for the retired entry finds nothing to send. -/
theorem definitively_unsent_permanent_retired : definitivelyUnsent ((idleWorld retiredStore).goto 0
        (.submitDurable preparedEntry .entry)).store.toStore "core-entry-1" = true ∧
      ∃ row, retiredStore.orderIntents.get? "core-entry-1" = some row ∧
        ∀ a ∈ ((idleWorld retiredStore).goto 0 (.submitDurable preparedEntry .entry)).log,
          ∀ j, a.2 ≠ .submit j row.clientOrderId true := by
  have hstep : (core id paperViews fun _ : Nat => .core).step (idleWorld retiredStore)
      (.submitDurable 0 preparedEntry .entry)
      ((idleWorld retiredStore).goto 0 (.submitDurable preparedEntry .entry)) := by
    refine ⟨⟨rfl, rfl⟩, ⟨"core-entry-1", "decision:obs", "plan", "obs", .entry, "decision:obs"⟩, ?_⟩
    decide
  exact definitively_unsent_permanent id paperViews (fun _ => .core) (idleWorld retiredStore) _ _
    "core-entry-1" retired_reachable (.cons hstep (.nil _)) (by decide)

end Quantbot.L4
