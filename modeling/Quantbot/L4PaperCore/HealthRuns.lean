import Quantbot.L4PaperCore.Health

/-!
# Recoveries over runs

Reports and recoveries of `paper_core/health.py` in any order, with any proofs. Each is one
`BEGIN IMMEDIATE` transaction.

* `health_recovery`: in every run the sequence numbers ascend, and an active event is
  deactivated only by a recovery entitled to it: a failure of a lower generation than
  the recovering proof, or the one quarantine an approval names. So an integrity failure
  or a manual pause stays active through any other steps.
-/
namespace Quantbot.L4.Health

open Core Txn

variable {eventId : EventId}

/-! ## What each transaction may recover -/

/-- A failure a proof of a higher generation may recover. -/
def Outdated (proof : Authority) (h : Event) : Prop :=
  h.failedGeneration < proof.generation ∧
    (h.state = .temporaryWait ∨ h.state = .retryableFailure ∨ h.state = .protocolFailure)

/-- Rows stand under their content ids. -/
def Sound (eventId : EventId) (s : HealthStore) : Prop :=
  ∀ r ∈ s.events.rows, r.id = eventId r.payload

/-- The event is on record under its content id. -/
def OnRecord (eventId : EventId) (s : HealthStore) (h : Event) : Prop :=
  ⟨eventId h, h⟩ ∈ s.events.rows

theorem report_grown (r : Report) (P : Event → Prop) :
    Moves (Grown eventId P) (report eventId r) := fun s id s' h => by
  unfold report at h
  rw [bind_ok] at h
  obtain ⟨_, _, hget, h⟩ := h
  obtain ⟨rfl, rfl⟩ := get_ok.1 hget
  rw [bind_ok] at h
  obtain ⟨active, s₁, hactive, h⟩ := h
  obtain ⟨rfl, _⟩ := activeHealth_ok hactive
  refine recordHealth_grown h fun id hid => ?_
  cases hid

variable {proof : Authority} {resolved : List String} {active : List Event}

theorem symbolFailures_spec {accountId symbol : String} {h : Event}
    (hh : h ∈ symbolFailures eventId proof accountId symbol active resolved) :
    h ∈ active ∧ Outdated proof h := by
  unfold symbolFailures at hh; dsimp only at hh; split at hh
  · cases hh
  obtain ⟨hscope, hfailure⟩ := List.mem_filter.1 hh
  obtain ⟨hstate, _, hgeneration, _⟩ := of_decide_eq_true hfailure
  exact ⟨(List.mem_filter.1 hscope).1, hgeneration, hstate⟩

variable {s s' : HealthStore} {u : PUnit} {symbols : List String}

theorem recoverSymbols_grown {config : CoreConfig} {now : Int} {sequence : Nat}
    (h : recoverSymbols eventId config proof now active symbols sequence resolved s = .ok u s')
    (hlast : ∀ r ∈ s.events.rows, r.payload.sequence ≤ sequence) :
    Grown eventId (fun e => e ∈ active ∧ Outdated proof e) s s' := by
  induction symbols generalizing sequence resolved s with
  | nil =>
    obtain ⟨_, rfl⟩ := pure_ok.1 h; exact refl_of (Grown eventId _) _
  | cons symbol symbols ih =>
    unfold recoverSymbols at h; dsimp only at h; split at h
    · exact ih h hlast
    rw [bind_ok] at h; obtain ⟨_, s₁, hput, h⟩ := h
    have hbehind : ∀ r ∈ s.events.rows, r.payload.sequence < (symbolReceipt eventId config proof
        now symbol (symbolFailures eventId proof config.accountId symbol active resolved)
        (sequence + 1)).sequence := fun r hr => Nat.lt_succ_of_le (hlast r hr)
    have hgrown := putEvent_grown hput hbehind (P := fun e => e ∈ active ∧ Outdated proof e)
      fun id hid => by
        obtain ⟨e, he, rfl⟩ := List.mem_map.1 hid
        exact ⟨e, symbolFailures_spec he, rfl⟩
    refine trans_of (Grown eventId _) hgrown (ih h fun r hr => ?_)
    rw [putEvent_ok hput hbehind] at hr
    rcases List.mem_append.1 hr with hr | hr
    · exact Nat.le_succ_of_le (hlast r hr)
    · rw [List.mem_singleton.1 hr]; exact le_rfl

theorem recoverHealthMany_grown {i : CohortInputs} (hs : Sound eventId s)
    (h : recoverHealthMany eventId proof i symbols s = .ok u s') :
    Grown eventId (fun e => OnRecord eventId s e ∧ Outdated proof e) s s' := by
  unfold recoverHealthMany at h; rw [bind_ok] at h; obtain ⟨_, _, hget, h⟩ := h
  obtain ⟨rfl, rfl⟩ := get_ok.1 hget; split at h
  · obtain ⟨_, rfl⟩ := pure_ok.1 h; exact refl_of (Grown eventId _) _
  refine (recoverSymbols_grown h fun r hr => sequence_le_last hr).mono fun e he => ⟨?_, he.2⟩
  have hmem := (List.mem_insertionSort _).1 (List.mem_filter.1 he.1).1
  obtain ⟨r, hr, rfl⟩ := List.mem_map.1 hmem; unfold OnRecord; rw [← hs r hr]
  exact hr

theorem recoverInventoryHealth_grown {i : InventoryInputs}
    (h : recoverInventoryHealth eventId proof i s = .ok u s') :
    Grown eventId (fun e => OnRecord eventId s e ∧ Outdated proof e) s s' := by
  unfold recoverInventoryHealth at h; rw [bind_ok] at h
  obtain ⟨_, _, hget, h⟩ := h; obtain ⟨rfl, rfl⟩ := get_ok.1 hget; split at h
  · rw [bind_ok] at h; obtain ⟨active, s₁, hactive, h⟩ := h
    obtain ⟨rfl, hrecord⟩ := activeHealth_ok hactive; split at h
    · unfold recordRecovered at h; split at h
      · obtain ⟨_, rfl⟩ := pure_ok.1 h; exact refl_of (Grown eventId _) _
      rw [bind_ok] at h; obtain ⟨_, s₂, hput, h⟩ := h
      obtain ⟨_, rfl⟩ := pure_ok.1 h
      refine recordHealth_grown hput fun id hid => ?_
      obtain ⟨e, he, rfl⟩ := List.mem_map.1 hid
      obtain ⟨hactive, hfailure⟩ := List.mem_filter.1 he
      obtain ⟨_, hstate, _, _, _, hgeneration, _⟩ := of_decide_eq_true hfailure
      exact ⟨e, ⟨hrecord e hactive, hgeneration, .inr hstate⟩, rfl⟩
    · obtain ⟨_, rfl⟩ := pure_ok.1 h; exact refl_of (Grown eventId _) _
  · obtain ⟨_, rfl⟩ := pure_ok.1 h; exact refl_of (Grown eventId _) _

/-- The one quarantine an approval names. -/
def Approved (eventId : EventId) (a : Approval) (h : Event) : Prop :=
  h.failedGeneration < a.proof.generation ∧ h.state = .integrityFailure ∧ eventId h = a.healthId

theorem resolveDelayedOwnedBuy_grown {a : Approval}
    (h : resolveDelayedOwnedBuy eventId a s = .ok u s') :
    Grown eventId (fun e => OnRecord eventId s e ∧ Approved eventId a e) s s' := by
  unfold resolveDelayedOwnedBuy at h; rw [bind_ok] at h
  obtain ⟨_, t, hget, h⟩ := h; obtain ⟨rfl, rfl⟩ := get_ok.1 hget
  cases hrow : t.events.get? a.healthId with
  | none =>
    rw [hrow] at h; cases h
  | some row =>
    rw [hrow] at h; obtain ⟨hmem, hkey⟩ := Table.get?_some hrow
    simp only [bind_ok, require_ok] at h
    obtain ⟨_, _, ⟨hid, rfl⟩, active, s₁, hactive, h⟩ := h
    obtain ⟨rfl, _⟩ := activeHealth_ok hactive
    obtain ⟨_, _, ⟨hexact, rfl⟩, _, _, ⟨_, rfl⟩, _, _, ⟨_, rfl⟩, _, _, ⟨hgeneration, rfl⟩, h⟩ := h
    obtain ⟨_, _, ⟨_, rfl⟩, _, _, ⟨_, rfl⟩, _, _, ⟨_, rfl⟩, hput⟩ := h
    refine putEvent_grown hput (fun r hr => Nat.lt_succ_of_le (sequence_le_last hr)) fun id hid' => ?_
    refine ⟨row.payload, ⟨?_, hgeneration, hexact.2.2.2.1, hid⟩, List.mem_singleton.1 hid'⟩
    unfold OnRecord; rw [hid, ← hkey]; exact hmem

/-! ## Steps -/

inductive HealthLabel
  | report (r : Report)
  | recover (proof : Authority) (inputs : CohortInputs) (symbol : Option String)
  | recoverMany (proof : Authority) (inputs : CohortInputs) (symbols : List String)
  | recoverInventory (proof : Authority) (inputs : InventoryInputs)
  | resolve (approval : Approval)
  /-- Anything else: proofs, certifications, the kill switch. -/
  | other

inductive HealthStep (eventId : EventId) : HealthStore → HealthLabel → HealthStore → Prop
  | report (s : HealthStore) (r : Report) :
      HealthStep eventId s (.report r) (after (immediate (report eventId r)) s)
  | recover (s : HealthStore) (p : Authority) (i : CohortInputs) (symbol : Option String) :
      HealthStep eventId s (.recover p i symbol)
        (after (immediate (recoverHealth eventId p i symbol)) s)
  | recoverMany (s : HealthStore) (p : Authority) (i : CohortInputs) (symbols : List String) :
      HealthStep eventId s (.recoverMany p i symbols)
        (after (immediate (recoverHealthMany eventId p i symbols)) s)
  | recoverInventory (s : HealthStore) (p : Authority) (i : InventoryInputs) :
      HealthStep eventId s (.recoverInventory p i)
        (after (immediate (recoverInventoryHealth eventId p i)) s)
  | resolve (s : HealthStore) (a : Approval) :
      HealthStep eventId s (.resolve a) (after (immediate (resolveDelayedOwnedBuy eventId a)) s)
  | other {s s' : HealthStore} : s'.events = s.events → HealthStep eventId s .other s'

/-- From an empty log. -/
def health (eventId : EventId) : LTS HealthStore HealthLabel where
  init s := s.events = .empty
  step := HealthStep eventId

/-- What a step may deactivate. -/
def Entitled (eventId : EventId) (l : HealthLabel) (h : Event) : Prop :=
  match l with
  | .recover proof _ _ | .recoverMany proof _ _ | .recoverInventory proof _ => Outdated proof h
  | .resolve a => Approved eventId a h
  | .report _ | .other => False

theorem Grown.after {α : Type} {x : HealthTxn α} {P : Event → Prop}
    (h : ∀ a s', x s = .ok a s' → Grown eventId P s s') :
    Grown eventId P s (Txn.after (immediate x) s) := by
  unfold Txn.after
  cases hx : immediate x s with
  | ok a s' => exact h a s' (immediate_ok.1 hx)
  | error e s' =>
    have hs : s' = s := immediate_error hx; rw [hs]
    exact refl_of (Grown eventId P) s

variable {l : HealthLabel}

/-- **A step only appends**, and recovers only what it is entitled to. -/
theorem step_grown (hs : Sound eventId s) (h : (health eventId).step s l s') :
    Grown eventId (fun e => OnRecord eventId s e ∧ Entitled eventId l e) s s' := by
  cases h with
  | report r => exact Grown.after fun a s' => report_grown r _ s a s'
  | recover p i symbol =>
    refine Grown.after fun a s' h => ?_; unfold recoverHealth at h
    rw [bind_ok] at h; obtain ⟨_, _, hget, h⟩ := h
    obtain ⟨rfl, rfl⟩ := get_ok.1 hget; exact recoverHealthMany_grown hs h
  | recoverMany p i symbols => exact Grown.after fun a s' => recoverHealthMany_grown hs
  | recoverInventory p i => exact Grown.after fun a s' => recoverInventoryHealth_grown
  | resolve a => exact Grown.after fun _ s' => resolveDelayedOwnedBuy_grown
  | other hsame =>
    refine ⟨⟨[], ?_, fun n hn => by cases hn⟩, fun hasc => ?_⟩
    · rw [hsame, List.append_nil]
    unfold Ascending; rw [hsame]; exact hasc

/-- Rows under their content ids, in ascending sequence. -/
structure Logged (eventId : EventId) (s : HealthStore) : Prop where
  sound : Sound eventId s
  ascending : Ascending s

theorem Logged.step (h : Logged eventId s) (hst : (health eventId).step s l s') :
    Logged eventId s' := by
  have hgrown := step_grown h.sound hst
  obtain ⟨news, hrows, hnews⟩ := hgrown.rows
  refine ⟨fun r hr => ?_, hgrown.ascending h.ascending⟩; rw [hrows] at hr
  rcases List.mem_append.1 hr with hr | hr
  · exact h.sound r hr
  · exact (hnews r hr).1

theorem logged_inductive (eventId : EventId) : (health eventId).Inductive (Logged eventId) where
  init s h := by
    have hrows : s.events.rows = [] := by
      rw [show s.events = .empty from h]; rfl
    refine ⟨fun r hr => ?_, ?_⟩
    · rw [hrows] at hr; cases hr
    · unfold Ascending; rw [hrows]; exact List.Pairwise.nil
  step _ _ _ h hst := h.step hst

/-! ## Runs -/

/-- A failure no event recovers. -/
structure Active (s : HealthStore) (x : EventRow) : Prop where
  stored : x ∈ s.events.rows
  failed : x.payload.state ≠ .ready
  unresolved : ∀ r ∈ s.events.rows, x.id ∉ r.payload.recoveredFrom

variable {x : EventRow}

theorem Active.step (h : Active s x) (hs : Logged eventId s) (hst : (health eventId).step s l s') :
    Active s' x ∨ Entitled eventId l x.payload := by
  obtain ⟨news, hrows, hnews⟩ := (step_grown hs.sound hst).rows
  by_cases hnamed : ∃ n ∈ news, x.id ∈ n.payload.recoveredFrom
  · right; obtain ⟨n, hn, hid⟩ := hnamed
    obtain ⟨e, ⟨hrecord, hentitled⟩, hide⟩ := (hnews n hn).2 x.id hid
    have hrow : x = ⟨eventId e, e⟩ := Table.eq_of_key h.stored hrecord hide
    rw [hrow]; exact hentitled
  · left; refine ⟨?_, h.failed, fun r hr => ?_⟩
    · rw [hrows]; exact List.mem_append_left _ h.stored
    · rw [hrows] at hr; rcases List.mem_append.1 hr with hr | hr
      · exact h.unresolved r hr
      · exact fun hid => hnamed ⟨r, hr, hid⟩

theorem Active.run {ls : List HealthLabel} (hr : (health eventId).Run s ls s') (h : Active s x)
    (hs : Logged eventId s) : Active s' x ∨ ∃ l ∈ ls, Entitled eventId l x.payload := by
  induction hr with
  | nil s => exact .inl h
  | cons hst _ ih =>
    rcases h.step hs hst with h' | hentitled
    · rcases ih h' (hs.step hst) with h'' | ⟨l, hl, hentitled⟩
      · exact .inl h''
      · exact .inr ⟨l, List.mem_cons_of_mem _ hl, hentitled⟩
    · exact .inr ⟨_, List.mem_cons_self, hentitled⟩

theorem run_prefix {ls : List HealthLabel} (hr : (health eventId).Run s ls s')
    (hs : Logged eventId s) : s.events.rows <+: s'.events.rows := by
  induction hr with
  | nil s => exact List.prefix_refl _
  | cons hst _ ih =>
    obtain ⟨news, hrows, _⟩ := (step_grown hs.sound hst).rows
    exact (show _ <+: _ from ⟨news, hrows.symm⟩).trans (ih (hs.step hst))

/-- An integrity failure or a manual pause outlives every step that does not resolve
exactly it. -/
theorem quarantine_stands (hx : x.payload.state.Quarantine) (h : Entitled eventId l x.payload) :
    x.payload.state = .integrityFailure ∧ ∃ a, l = .resolve a ∧ a.healthId = eventId x.payload := by
  have houtdated : ∀ proof, ¬ Outdated proof x.payload := by
    intro proof ⟨_, hstate⟩
    rcases hx with hx | hx <;> rw [hx] at hstate <;> simp at hstate
  cases l with
  | report _ | other => exact h.elim
  | recover p _ _ | recoverMany p _ _ | recoverInventory p _ => exact absurd h (houtdated p)
  | resolve a => exact ⟨h.2.1, a, rfl, h.2.2.symm⟩

/-- **Recovery clears only what it may.** Along every run the log is only appended to and its
sequence numbers ascend; an event active at one point is active later on unless a
recovery in between was entitled to it, so its failed generation was below the proof's;
and an integrity failure or a manual pause is still active unless an approval named
exactly it. -/
theorem health_recovery (eventId : EventId) {s s' : HealthStore} {ls : List HealthLabel}
    (hs : (health eventId).Reachable s) (hr : (health eventId).Run s ls s') :
    Ascending s' ∧ s.events.rows <+: s'.events.rows ∧ ∀ x, Active s x →
        (Active s' x ∨ ∃ l ∈ ls, Entitled eventId l x.payload) ∧
        (x.payload.state = .manualPause → Active s' x) ∧ (x.payload.state = .integrityFailure →
          (∀ a, .resolve a ∈ ls → a.healthId ≠ eventId x.payload) → Active s' x) := by
  have hlogged := (logged_inductive eventId).reachable hs
  have hlogged' := hr.keeps (fun _ _ _ h hst => h.step hst) hlogged
  refine ⟨hlogged'.ascending, run_prefix hr hlogged, fun x hx => ?_⟩
  have hactive := hx.run hr hlogged
  refine ⟨hactive, fun hpause => ?_, fun hfailure hunnamed => ?_⟩
  · rcases hactive with hactive | ⟨l, _, hentitled⟩
    · exact hactive
    obtain ⟨hstate, _⟩ := quarantine_stands (.inr hpause) hentitled
    rw [hpause] at hstate; cases hstate
  · rcases hactive with hactive | ⟨l, hl, hentitled⟩
    · exact hactive
    · obtain ⟨_, a, rfl, hid⟩ := quarantine_stands (.inl hfailure) hentitled
      exact absurd hid (hunnamed a hl)

/-! ## Two failures, one of them a quarantine -/

def sequenceId : EventId := fun e => "health-" ++ toString e.sequence

def emptyLog : HealthStore where
  config := ⟨"PA1", "rel", "core", 1, .brokerPaper, "policy", .modelOnly, .strict⟩
  symbol := "SPY"

def reported (s : HealthStore) (r : Report) : HealthStore :=
  after (immediate (report sequenceId r)) s

def failedTwice : HealthStore :=
  reported (reported emptyLog ⟨.trader, .retryableFailure, ["DATA_LATE"], 5, .symbol, none, [], false⟩)
    ⟨.guardian, .integrityFailure, ["OWNERSHIP"], 6, .symbol, some "MSFT", [], true⟩

/-- A proof of the first generation. -/
def firstProof : Authority := ⟨"proof", 1, 8⟩

def recoveredBoth : HealthStore :=
  after (immediate (recoverHealthMany sequenceId firstProof ⟨9, 9, false⟩ ["SPY", "MSFT"])) failedTwice

def quarantineRow : EventRow :=
  (failedTwice.events.get? "health-2").getD ⟨"", (Report.event ⟨.trader, .ready, [], 0, .symbol, none,
    [], false⟩ emptyLog [])⟩

theorem health_recovery_cohort :
    Active recoveredBoth quarantineRow ∧ recoveredIds recoveredBoth.payloads = ["health-1"] := by
  have hreported : ∀ s r, (health sequenceId).step s (.report r) (reported s r) :=
    fun _ _ => .report _ _
  have hreach : (health sequenceId).Reachable failedTwice :=
    ⟨emptyLog, _, rfl, .cons (hreported _ _) (.cons (hreported _ _) (.nil _))⟩
  have hrun : (health sequenceId).Run failedTwice
      [.recoverMany firstProof ⟨9, 9, false⟩ ["SPY", "MSFT"]] recoveredBoth :=
    .cons (.recoverMany _ _ _ _) (.nil _)
  have hactive : Active failedTwice quarantineRow :=
    ⟨by decide +kernel, by decide +kernel, by decide +kernel⟩
  refine ⟨((health_recovery sequenceId hreach hrun).2.2 quarantineRow hactive).2.2
    (by decide +kernel) fun a ha => ?_, by decide +kernel⟩
  cases ha with
  | tail _ ha => cases ha

end Quantbot.L4.Health
