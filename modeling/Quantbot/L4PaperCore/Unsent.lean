import Quantbot.L4PaperCore.Harmless

/-!
# Definitively unsent

What `definitively_unsent` promises (`paper_core/settlement.py`): capital, slots and
exit quantity are released on it, so no request of the intent may have left, and none
may leave later.
-/
namespace Quantbot.L4

open Core L1 L2 L3 Txn

abbrev CorePhase := Phase CoreError

/-! ## What a phase carries -/

/-- The intent a call was made for and its purpose, up to the claim. -/
def calledFor : CorePhase → Option (String × OrderPurpose)
  | .submitDurable intent purpose | .initialGate intent purpose | .prepare intent purpose
  | .finalGate intent purpose | .claim intent purpose _ => some (intent.intentId, purpose)
  | _ => none

/-- An intent that was past its claim when the phase was entered. -/
def pastIntent : CorePhase → Option String
  | .post _ intent _ | .posted _ intent _ | .lookup _ intent _ | .recovering intent
  | .reconciling intent | .adopting intent _ _ _ _ | .reconcile intent _ =>
    some intent.intentId
  | _ => none

/-- The order the broker has answered with. -/
def snapshot : CorePhase → Option BrokerOrder
  | .adopting _ order _ _ _ => some order
  | .reconcile _ found => some found
  | _ => none

/-- An intent whose request was refused before any I/O. -/
def sparedIntent : CorePhase → Option String
  | .rejecting intent (.budget _ _) | .noSend intent _ => some intent.intentId
  | _ => none

/-- The request a call sends. -/
def sender (ph : CorePhase) : Option OrderIntent := ph.sending.map (·.intent)

/-- The input brings an order. -/
def Delivers (order : BrokerOrder) : Input SendReading → Prop
  | .submitReply (.ok o) => o = order
  | .lookupReply (.ok (some o)) => o = order
  | _ => False

/-- The input is the refusal before any I/O of the first request for the intent. -/
def RefusesFirst (ph : CorePhase) (input : Input SendReading) (i : String) : Prop :=
  ∃ intent submitting reply, ph = .post intent submitting 0 ∧ intent.intentId = i ∧
    input = .submitReply reply ∧ reply.unsent = true

/-- How the next phase follows from the one before. -/
structure Continues (s' : CoreStore) (ph : CorePhase) (input : Input SendReading)
    (ph' : CorePhase) : Prop where
  called : ∀ x, calledFor ph' = some x → calledFor ph = some x
  past : ∀ i, pastIntent ph' = some i → PastCreated s'.toStore i
  snapshot : ∀ o, snapshot ph' = some o → L4.snapshot ph = some o ∨ Delivers o input
  spared : ∀ i, sparedIntent ph' = some i → sparedIntent ph = some i ∨ RefusesFirst ph input i
  sender : ∀ x, L4.sender ph' = some x → L4.sender ph = some x

/-- A harmless step of a call. -/
structure Stepped (posted : String → Prop) (s : CoreStore) (ph : CorePhase)
    (input : Input SendReading) (st : Step CoreStore CoreError) : Prop where
  write : HarmlessCore posted s st.store
  next : Continues st.store ph input st.phase

section Step

variable {posted : String → Prop} {s s' : CoreStore} {ph ph' : CorePhase}
  {input : Input SendReading} {α : Type}

theorem Continues.calls (h : calledFor ph' = calledFor ph) (h₁ : pastIntent ph' = none)
    (h₂ : L4.snapshot ph' = none) (h₃ : sparedIntent ph' = none) (h₄ : L4.sender ph' = none) :
    Continues s' ph input ph' where
  called x hx := h ▸ hx
  past i hi := by cases h₁.symm.trans hi
  snapshot o ho := by cases h₂.symm.trans ho
  spared i hi := by cases h₃.symm.trans hi
  sender x hx := by cases h₄.symm.trans hx

variable {i : String}

theorem Continues.behind (h : calledFor ph' = none) (h₁ : pastIntent ph' = some i)
    (hpast : PastCreated s'.toStore i)
    (h₂ : ∀ o, L4.snapshot ph' = some o → L4.snapshot ph = some o ∨ Delivers o input)
    (h₃ : sparedIntent ph' = none) (h₄ : L4.sender ph' = none ∨ L4.sender ph' = L4.sender ph) :
    Continues s' ph input ph' where
  called x hx := by cases h.symm.trans hx
  past j hj := by
    rw [h₁] at hj
    cases hj
    exact hpast
  snapshot := h₂
  spared i hi := by cases h₃.symm.trans hi
  sender x hx := by
    rcases h₄ with h₄ | h₄
    · cases h₄.symm.trans hx
    · exact h₄ ▸ hx

theorem Continues.keeps (h : calledFor ph' = none) (h₁ : pastIntent ph' = none)
    (h₂ : L4.snapshot ph' = none) (h₃ : sparedIntent ph' = none)
    (h₄ : L4.sender ph' = L4.sender ph) : Continues s' ph input ph' where
  called z hz := by cases h.symm.trans hz
  past i hi := by cases h₁.symm.trans hi
  snapshot o ho := by cases h₂.symm.trans ho
  spared i hi := by cases h₃.symm.trans hi
  sender x hx := h₄ ▸ hx

theorem Continues.spares (h : calledFor ph' = none) (h₁ : pastIntent ph' = none)
    (h₂ : L4.snapshot ph' = none)
    (h₃ : ∀ i, sparedIntent ph' = some i → sparedIntent ph = some i ∨ RefusesFirst ph input i)
    (h₄ : L4.sender ph' = none) : Continues s' ph input ph' where
  called x hx := by cases h.symm.trans hx
  past i hi := by cases h₁.symm.trans hi
  snapshot o ho := by cases h₂.symm.trans ho
  spared := h₃
  sender x hx := by cases h₄.symm.trans hx

theorem Continues.bare (h : calledFor ph' = none) (h₁ : pastIntent ph' = none)
    (h₂ : L4.snapshot ph' = none) (h₃ : sparedIntent ph' = none) (h₄ : L4.sender ph' = none) :
    Continues s' ph input ph' :=
  .spares h h₁ h₂ (fun i hi => by cases h₃.symm.trans hi) h₄

theorem Continues.raised (e : CoreError) : Continues s' ph input (L3.raised e) :=
  .bare rfl rfl rfl rfl rfl

theorem Stepped.still {action : Option Action} (h : Continues s ph input ph') :
    Stepped posted s ph input { phase := ph', store := s, action := action } :=
  ⟨refl_of (HarmlessCore posted) s, h⟩

variable {next : α → CorePhase}

theorem Stepped.commit {x : CoreTxn α}
    (hx : ∀ a s', x s = .ok a s' → HarmlessCore posted s s' ∧ Continues s' ph input (next a)) :
    Stepped posted s ph input (L3.commit x next L3.raised s) := by
  unfold L3.commit
  cases hc : Txn.immediate x s with
  | ok a s' =>
    obtain ⟨hwrite, hnext⟩ := hx a s' (immediate_ok.1 hc); exact ⟨hwrite, hnext⟩
  | error e s' =>
    rw [immediate_error hc]; exact .still (.raised e)

theorem exec_harmless {x : Exec α} (hx : Moves (Harmless posted) x) :
    Moves (HarmlessCore posted) (coreSession.exec x) :=
  hx.zoom fun _ _ h => ⟨h, fun _ hl => hl⟩

theorem Stepped.exec {x : Exec α} (hx : Moves (Harmless posted) x)
    (hnext : ∀ a s', Continues s' ph input (next a)) :
    Stepped posted s ph input (L3.commit (coreSession.exec x) next L3.raised s) :=
  .commit fun a s' h => ⟨exec_harmless hx _ _ _ h, hnext a s'⟩

/-! ## One step of a call -/

variable {intent r : OrderIntent} {t t' : Store} {target expected : IntentState}

theorem transition_row
    (h : transition i target expected t = .ok r t') : r.intentId = i ∧ r.state = target := by
  obtain ⟨row, hrow, _, _, rfl, _⟩ := transitionOrderIntent_ok (stored_ok.1 h)
  exact ⟨(Table.get?_some hrow).2, rfl⟩

theorem transition_past (h : coreSession.exec (transition i target expected) s = .ok r s')
    (ht : target ≠ .riskApproved ∧ target ≠ .orderCreated) : PastCreated s'.toStore r.intentId := by
  obtain ⟨t, hx, rfl⟩ := coreSession.exec_ok.1 h
  refine ⟨r, transition_stored hx, ?_⟩; rw [(transition_row hx).2]; exact ht

theorem prepareIntent_id {purpose : OrderPurpose} (h : prepareIntent intent purpose t = .ok r t') :
    r.intentId = intent.intentId := by
  unfold prepareIntent at h; split at h
  · unfold claimExit at h; simp only [bind_ok, require_ok] at h
    obtain ⟨u, t₁, hget, _, _, ⟨_, rfl⟩, h⟩ := h
    cases hrow : u.orderIntents.get? intent.intentId with
    | none | some _ =>
      rw [hrow] at h; obtain ⟨_, _, _, h⟩ := bind_ok.1 h
      exact (transition_row h).1
  · exact (transition_row h).1

theorem prepareIntent_harmless (intent : OrderIntent) (purpose : OrderPurpose) :
    Moves (Harmless posted) (prepareIntent intent purpose) := by
  have htransition : Moves (Harmless posted) (transition intent.intentId .orderCreated
      .riskApproved) := transition_harmless (.inr nofun)
  refine Moves.ite (Moves.get.bind fun t => (Moves.require _ _).bind fun _ => ?_) htransition
  split
  · refine Moves.bind ?_ fun _ => htransition
    exact fun t r t' h => createOrderIntent_harmless intent _ _ _ (stored_ok.1 h)
  · exact (Moves.require _ _).bind fun _ => htransition

theorem recordUnknownIncident_harmless (sha256 : String → String) (intent : OrderIntent)
    (retries : Nat) : Moves (Harmless posted) (recordUnknownIncident sha256 intent retries) := by
  refine Moves.bind ?_ fun _ => Moves.pure _
  exact fun t r t' h => createIncident_harmless _ _ _ _ (stored_ok.1 h)

theorem storedOrder_harmless (intent : OrderIntent) :
    Moves (Harmless posted) (L3.storedOrder intent) := by
  refine Moves.get.bind fun t => ?_; split
  · exact Moves.throw _
  · exact (Moves.require _ _).bind fun _ => Moves.pure _

theorem resume_continues {row : OrderIntent} {purpose : OrderPurpose}
    (hid : row.intentId = intent.intentId) (hrow : s.orderIntents.get? row.intentId = some row) :
    Continues s (.submitDurable intent purpose) input (resume purpose row) := by
  have hcalled : some (row.intentId, purpose) = some (intent.intentId, purpose) := by rw [hid]
  unfold resume; split
  · next hstate => exact .behind rfl rfl ⟨row, hrow, by simp [hstate]⟩ (fun _ => nofun) rfl (.inl rfl)
  · next hstate => exact .behind rfl rfl ⟨row, hrow, by simp [hstate]⟩ (fun _ => nofun) rfl (.inl rfl)
  · exact .bare rfl rfl rfl rfl rfl
  · exact .bare rfl rfl rfl rfl rfl
  · exact .bare rfl rfl rfl rfl rfl
  · exact .calls hcalled rfl rfl rfl rfl
  · exact .calls hcalled rfl rfl rfl rfl
  · exact .bare rfl rfl rfl rfl rfl

theorem resumeReconcile_continues {row : OrderIntent}
    (hrow : s.orderIntents.get? row.intentId = some row) :
    Continues s ph input (resumeReconcile row) := by
  unfold resumeReconcile; split
  all_goals first
    | exact .bare rfl rfl rfl rfl rfl
    | next hstate => exact .behind rfl rfl ⟨row, hrow, by simp [hstate]⟩ (fun _ => nofun) rfl (.inl rfl)

theorem afterSubmit_continues {intent submitting : OrderIntent} {retries : Nat}
    {reply : SubmitReply} (hpast : PastCreated s.toStore submitting.intentId)
    (hsend : L4.sender ph = some intent)
    (hspared : ∀ method client, reply = .error (.budget method client) → retries = 0 →
      RefusesFirst ph (.submitReply reply) intent.intentId) :
    Continues s ph (.submitReply reply) (afterSubmit intent submitting retries reply) := by
  unfold afterSubmit; split
  · refine .behind rfl rfl hpast (fun o ho => ?_) rfl (.inl rfl); cases ho
    exact .inr rfl
  · exact .keeps rfl rfl rfl rfl hsend.symm
  · exact .keeps rfl rfl rfl rfl hsend.symm
  · exact .bare rfl rfl rfl rfl rfl
  · next failure _ _ _ =>
    split
    · next hfirst =>
      refine .spares rfl rfl rfl (fun i hi => .inr ?_) rfl
      cases failure with
      | budget method client =>
        cases hi; exact hspared method client rfl hfirst.1
      | _ => cases hi
    · exact .keeps rfl rfl rfl rfl hsend.symm

variable {kind : CoordinatorKind} {v : GuardViews} {order : BrokerOrder}

theorem coreAdopt_harmless (hp : posted order.clientOrderId) (hpast : PastCreated t intent.intentId)
    (h : (coreCoordinator v kind).adopt intent order t = .ok r t') : Harmless posted t t' := by
  cases kind with
  | core => exact adoptUnderLock_harmless hp (.of_past hpast) h
  | fixture =>
    exact persistBrokerAcknowledgement_harmless hp (.of_past hpast) (adoptAcknowledgement_ok h)

theorem adoptStep_stepped {onProtocol : Option IntentState}
    {recovered : Bool} {retries : Nat} (hp : posted order.clientOrderId)
    (hpast : PastCreated s.toStore intent.intentId) : Stepped posted s ph input
      ((coreCoordinator v kind).adoptStep intent order onProtocol recovered retries s) := by
  unfold Coordinator.adoptStep; split
  · next hok =>
    exact ⟨⟨coreAdopt_harmless hp hpast (immediate_ok.1 hok), fun _ hl => hl⟩,
      .bare rfl rfl rfl rfl rfl⟩
  · split
    · exact .still (.bare rfl rfl rfl rfl rfl)
    · exact .still (.raised _)
  · exact .still (.raised _)

theorem reconcileStep_stepped {found : BrokerOrder}
    (hpast : PastCreated s.toStore intent.intentId) :
    Stepped posted s ph input (coreSession.reconcileStep intent found s) := by
  unfold Session.reconcileStep; split
  · next hok =>
    exact ⟨⟨reconcileAccepted_harmless (.of_past hpast) hok, fun _ hl => hl⟩,
      .bare rfl rfl rfl rfl rfl⟩
  · exact .still (.bare rfl rfl rfl rfl rfl)
  · exact .still (.bare rfl rfl rfl rfl rfl)
  · exact .still (.bare rfl rfl rfl rfl rfl)
  · exact .still (.raised _)

/-- **One step** of a call, other than the claim and the no-send evidence, is harmless. -/
theorem step_stepped {sha256 : String → String} {st : Step CoreStore CoreError}
    (h : (coreCoordinator v kind).step sha256 s ph input = some st)
    (hpast : ∀ i, pastIntent ph = some i → PastCreated s.toStore i)
    (hsnap : ∀ o, L4.snapshot ph = some o → posted o.clientOrderId)
    (hclaim : ∀ intent purpose reasons, ph ≠ .claim intent purpose reasons)
    (hnosend : ∀ intent failure, ph ≠ .noSend intent failure) : Stepped posted s ph input st := by
  cases ph <;> cases input <;> try cases h
  case submitDurable.run intent purpose reading =>
    refine .commit fun row s' hrow => ?_
    obtain ⟨t, ht, rfl⟩ := coreSession.exec_ok.1 hrow
    obtain ⟨rfl, hget, _⟩ := storedIntent_ok ht
    have hid : row.intentId = intent.intentId := (Table.get?_some hget).2
    exact ⟨refl_of (HarmlessCore posted) _, resume_continues hid (hid ▸ hget)⟩
  case reconcileDurable.run intent reading =>
    refine .commit fun row s' hrow => ?_
    obtain ⟨t, ht, rfl⟩ := coreSession.exec_ok.1 hrow
    obtain ⟨rfl, hget, _⟩ := storedIntent_ok ht
    have hid : row.intentId = intent.intentId := (Table.get?_some hget).2
    exact ⟨refl_of (HarmlessCore posted) _, resumeReconcile_continues (hid ▸ hget)⟩
  case initialGate.gate intent purpose reasons =>
    split
    · exact .still (.calls rfl rfl rfl rfl rfl)
    · exact .still (.bare rfl rfl rfl rfl rfl)
  case initialGate.acquisitionFailed intent purpose failure =>
    exact .still (.bare rfl rfl rfl rfl rfl)
  case prepare.run intent purpose reading =>
    refine .commit fun row s' hrow => ?_
    obtain ⟨t, ht, rfl⟩ := coreSession.exec_ok.1 hrow
    refine ⟨exec_harmless (prepareIntent_harmless intent purpose) _ _ _ hrow,
      .calls ?_ rfl rfl rfl rfl⟩
    show some (row.intentId, purpose) = some (intent.intentId, purpose)
    rw [prepareIntent_id ht]
  case finalGate.gate intent purpose reasons => exact .still (.calls rfl rfl rfl rfl rfl)
  case finalGate.acquisitionFailed intent purpose failure =>
    exact .still (.bare rfl rfl rfl rfl rfl)
  case claim.run intent purpose reasons reading => exact absurd rfl (hclaim intent purpose reasons)
  case post.send intent submitting retries =>
    have hsubmitting : PastCreated s.toStore submitting.intentId := hpast _ rfl
    exact .still (.behind rfl rfl hsubmitting (fun _ h => by cases h) rfl (.inr rfl))
  case post.submitReply intent submitting retries reply =>
    have hsubmitting : PastCreated s.toStore submitting.intentId := hpast _ rfl
    rw [Coordinator.step] at h; split at h
    · next hunsent =>
      cases h
      refine .still (afterSubmit_continues hsubmitting rfl fun method client hreply hfirst => ?_)
      exact ⟨intent, submitting, reply, hfirst ▸ rfl, rfl, rfl, hunsent⟩
    · cases h
  case posted.submitReply intent submitting retries reply =>
    rw [Coordinator.step] at h; split at h
    · cases h
    next hsent =>
    cases h
    refine .still (afterSubmit_continues (hpast _ rfl) rfl fun method client hreply _ => ?_)
    rw [hreply] at hsent; exact absurd rfl hsent
  case rejecting.run intent failure reading =>
    refine .exec (transition_harmless (.inr fun h => by cases h)) fun _ s' => ?_
    unfold Coordinator.raiseRefusal; split
    · next hbudget =>
      refine .spares rfl rfl rfl (fun i hi => .inl ?_) rfl; rw [hbudget.2]
      exact hi
    · exact .bare rfl rfl rfl rfl rfl
  case noSend.run intent failure reading => exact absurd rfl (hnosend intent failure)
  case unknown.run intent retries reading =>
    have hmoves : Moves (Harmless posted) (transition intent.intentId .submissionUnknown
      .submitting) := transition_harmless (.inr fun h => by cases h)
    exact .commit fun row s' hrow => ⟨exec_harmless hmoves _ _ _ hrow,
      .behind rfl rfl (transition_past hrow (by decide)) (fun _ h => by cases h) rfl (.inr rfl)⟩
  case lookup.lookupReply intent submitting retries reply =>
    refine .still ?_; unfold Coordinator.afterLookup; split
    · refine .behind rfl rfl (hpast _ rfl) (fun o ho => ?_) rfl (.inl rfl)
      cases ho; exact .inr rfl
    · split
      · exact .bare rfl rfl rfl rfl rfl
      · exact .keeps rfl rfl rfl rfl rfl
    · split <;> exact .bare rfl rfl rfl rfl rfl
  case retry.run intent retries reading =>
    have hmoves : Moves (Harmless posted) (transition intent.intentId .submitting
      .submissionUnknown) := transition_harmless (.inr fun h => by cases h)
    exact .commit fun row s' hrow => ⟨exec_harmless hmoves _ _ _ hrow,
      .behind rfl rfl (transition_past hrow (by decide)) (fun _ h => by cases h) rfl (.inr rfl)⟩
  case incident.run intent retries message reading =>
    exact .exec (recordUnknownIncident_harmless _ _ _) fun _ _ => .bare rfl rfl rfl rfl rfl
  case adopting.run intent order onProtocol recovered retries reading =>
    exact adoptStep_stepped (hsnap _ rfl) (hpast _ rfl)
  case failing.run intentId expected error reading =>
    exact .exec (transition_harmless (.inl rfl)) fun _ _ => .bare rfl rfl rfl rfl rfl
  case recovering.lookupReply intent reply =>
    refine .still ?_; unfold Coordinator.afterRecovery; split
    · refine .behind rfl rfl (hpast _ rfl) (fun o ho => ?_) rfl (.inl rfl)
      cases ho; exact .inr rfl
    · split <;> exact .bare rfl rfl rfl rfl rfl
    · split <;> exact .bare rfl rfl rfl rfl rfl
  case recoverUnknown.run intent reading =>
    exact .exec (transition_harmless (.inr fun h => by cases h)) fun _ _ => .bare rfl rfl rfl rfl rfl
  case reconciling.lookupReply intent reply =>
    refine .still ?_; unfold Coordinator.afterReconcile; split
    · refine .behind rfl rfl (hpast _ rfl) (fun o ho => ?_) rfl (.inl rfl)
      cases ho; exact .inr rfl
    · exact .bare rfl rfl rfl rfl rfl
    · split <;> exact .bare rfl rfl rfl rfl rfl
  case reconcile.run intent found reading => exact reconcileStep_stepped (hpast _ rfl)
  case storedOrder.run intent reading =>
    exact .exec (storedOrder_harmless _) fun _ _ => .bare rfl rfl rfl rfl rfl

end Step

end Quantbot.L4
