import Quantbot.Core.LTS
import Quantbot.L4PaperCore.Authority

/-!
# Runs of the runtime authority

Calls of the five operations in any order, by any process, with any approval, between them
documents that other modules file beside the bindings. `Effect` says once what a call can do.

* `entry_fence`: events are numbered 1, 2, ..; bindings form one chain that the pointer ends;
  every later binding was made under the fence in force; and a fenced core objects to every
  entry until a resumption that names the very fence, which no older approval does.
-/
namespace Quantbot.L4.Authority

open Core Txn Learning

variable (contentId : ContentId)

/-! ## Runs -/

inductive Call
  | commission (h : CoreHandle) (release : PreparedRelease) (c : RuntimeCommission)
      (b : Baseline) (r : CommissionReading)
  | fence (h : CoreHandle) (reason : String) (evidenceIds : List String) (now : Int)
  | release (h : CoreHandle) (successor : PreparedRelease) (a : Approval) (r : TransitionReading)
  | policy (h : CoreHandle) (successor : PreparedRelease) (a : Approval) (r : PolicyReading)
  | resume (h : CoreHandle) (a : Approval) (r : ResumeReading)
  /-- Evidence of a migration or of the account's control (handover.py:122, 203, 221). -/
  | file (d : HistoryDocument)

/-- Only the transitions write bindings. -/
def HistoryDocument.isBinding : HistoryDocument → Bool
  | .binding _ => true
  | _ => false

def fileDocument (d : HistoryDocument) : AuthorityTxn String := do
  require (d.isBinding = false) .validation
  putHistory contentId d
  pure (d.id contentId)

def Call.body : Call → AuthorityTxn String
  | .commission h prepared c b r => commissionRuntime contentId h prepared c b r
  | .fence h reason evidenceIds now => fenceEntries contentId h reason evidenceIds now
  | .release h successor a r => transitionRelease contentId h successor a r
  | .policy h successor a r => transitionEntryPolicy contentId h successor a r
  | .resume h a r => resumeEntries contentId h a r
  | .file d => fileDocument contentId d

def authority : LTS AuthorityStore Call where
  init s := s = {}
  step s c s' := s' = after (immediate (c.body contentId)) s

/-! ## The bindings among the documents -/

def HistoryDocument.binding? : HistoryDocument → Option ExecutableBinding
  | .binding b => some b
  | _ => none

def AuthorityStore.bindings (s : AuthorityStore) : List ExecutableBinding :=
  s.history.rows.filterMap fun row => row.payload.binding?

/-- A later binding names a fence on record; one by the code-only path keeps the release's
configuration. -/
structure Succeeds (s : AuthorityStore) (a b : ExecutableBinding) : Prop where
  fenced : ∃ row ∈ s.events.rows, b.fenceId = some row.id ∧ row.payload.action = .fenceEntry
  code : b.kind = .codeOnly → b.release.config = a.release.config

structure Valid (s : AuthorityStore) : Prop where
  numbered : s.runtimeEvents.map (·.sequence) = List.range' 1 s.runtimeEvents.length
  filed : ∀ row ∈ s.events.rows, row.id = row.payload.id contentId
  filedHistory : ∀ row ∈ s.history.rows, row.id = row.payload.id contentId
  chain : Linear (·.sequence) (·.previousId) (·.id contentId) s.bindings
  current : s.current = s.bindings.getLast?.map (·.id contentId)
  succeeds : s.bindings.IsChain (Succeeds s)
  begun : s.commissions.rows = [] → s.runtimeEvents = [] ∧ s.bindings = []

/-- Nothing but documents that are no bindings. -/
structure Beside (s t : AuthorityStore) : Prop where
  rest : t = { s with history := t.history }
  bindings : t.bindings = s.bindings
  filed : (∀ row ∈ s.history.rows, row.id = row.payload.id contentId) →
    ∀ row ∈ t.history.rows, row.id = row.payload.id contentId

/-- One event more. -/
structure Recorded (s t : AuthorityStore) (e : RuntimeEvent) : Prop where
  rest : t = { s with events := t.events }
  rows : t.events.rows = s.events.rows ++ [⟨e.id contentId, e⟩]

/-- One binding more, and the pointer at it. -/
structure Rebound (s t : AuthorityStore) (b : ExecutableBinding) : Prop where
  rest : t = { s with history := t.history, current := some (b.id contentId) }
  rows : t.history.rows = s.history.rows ++ [⟨b.id contentId, .binding b⟩]

variable {contentId}

variable {s t : AuthorityStore} {b prior : ExecutableBinding}

theorem mem_bindings : b ∈ s.bindings ↔ ∃ row ∈ s.history.rows, row.payload = .binding b := by
  unfold AuthorityStore.bindings; rw [List.mem_filterMap]; constructor
  · intro ⟨row, hrow, hb⟩; refine ⟨row, hrow, ?_⟩
    cases hp : row.payload with
    | binding b' =>
      rw [hp] at hb; cases hb; rfl
    | _ =>
      rw [hp] at hb; cases hb
  · intro ⟨row, hrow, hb⟩; exact ⟨row, hrow, by rw [hb]; rfl⟩

theorem executable_last (hv : Valid contentId s) :
    executableInSession s = .ok s.bindings.getLast? := by
  unfold executableInSession; rw [hv.current]
  cases hlast : s.bindings.getLast? with
  | none => rfl
  | some b =>
    obtain ⟨row, hrow, hb⟩ := mem_bindings.1 (List.mem_of_getLast? hlast)
    have hid : row.id = b.id contentId := by
      rw [hv.filedHistory row hrow, hb]; rfl
    have hget : s.history.get? (b.id contentId) = some row := by
      rw [← hid]; exact Table.get?_key.2 hrow
    rw [Option.map_some, Option.bind_some, hget]; dsimp only; rw [hb]

variable {e f : RuntimeEvent}

theorem current_last (hv : Valid contentId s) :
    currentRuntimeEvent s = .ok e ↔ s.runtimeEvents.getLast? = some e := by
  unfold currentRuntimeEvent
  rw [if_pos (by rw [hv.numbered]; exact List.nodup_range'), latest_numbered hv.numbered]
  cases s.runtimeEvents.getLast? <;> simp

theorem sequence_le (hn : s.runtimeEvents.map (·.sequence) = List.range' 1 s.runtimeEvents.length)
    (he : e ∈ s.runtimeEvents) : e.sequence ≤ s.runtimeEvents.length := by
  have hmem : e.sequence ∈ List.range' 1 s.runtimeEvents.length := by
    rw [← hn]; exact List.mem_map_of_mem he
  rw [List.mem_range'_1] at hmem; omega

theorem last_sequence (hn : s.runtimeEvents.map (·.sequence) = List.range' 1 s.runtimeEvents.length)
    (he : s.runtimeEvents.getLast? = some e) : e.sequence = s.runtimeEvents.length := by
  have hlast : (s.runtimeEvents.map (·.sequence)).getLast? = some e.sequence := by
    rw [List.getLast?_map, he]; rfl
  rw [hn, List.getLast?_range'] at hlast; split at hlast
  · cases hlast
  · have := Option.some.inj hlast; omega

theorem nextSequence_ok (hv : Valid contentId s) {n : Nat} (h : nextSequence s = .ok n) :
    n = s.runtimeEvents.length + 1 := by
  unfold nextSequence at h; rw [latest_numbered hv.numbered] at h
  cases hlast : s.runtimeEvents.getLast? with
  | none =>
    rw [hlast] at h; cases h
  | some e =>
    rw [hlast] at h; cases h; rw [last_sequence hv.numbered hlast]

/-! ## What a call can do -/

theorem Beside.refl (s : AuthorityStore) : Beside contentId s s := ⟨rfl, rfl, fun h => h⟩

variable {u : PUnit}

theorem putEvent_new (hn : s.runtimeEvents.map (·.sequence) = List.range' 1 s.runtimeEvents.length)
    (hseq : e.sequence = s.runtimeEvents.length + 1) (h : putEvent contentId e s = .ok u t) :
    Recorded contentId s t e := by
  unfold putEvent putIn at h
  cases hget : s.events.get? (e.id contentId) with
  | some row =>
    rw [hget] at h; dsimp only at h; by_cases hp : row.payload = e
    · have hmem : e ∈ s.runtimeEvents :=
        List.mem_map.2 ⟨row, (Table.get?_some hget).1, hp⟩
      have hle := sequence_le hn hmem; omega
    · rw [if_neg hp] at h; cases h
  | none =>
    rw [hget] at h; obtain ⟨rfl⟩ := h; exact ⟨rfl, Table.insert_rows hget⟩

variable {d : HistoryDocument}

theorem putHistory_ok (h : putHistory contentId d s = .ok u t) :
    t = s ∧ (∃ row ∈ s.history.rows, row.payload = d) ∨
      t = { s with history := t.history } ∧
        t.history.rows = s.history.rows ++ [⟨d.id contentId, d⟩] := by
  unfold putHistory putIn at h
  cases hget : s.history.get? (d.id contentId) with
  | some row =>
    rw [hget] at h
    dsimp only at h
    by_cases hp : row.payload = d
    · rw [if_pos hp] at h
      obtain ⟨rfl⟩ := h
      exact .inl ⟨rfl, row, (Table.get?_some hget).1, hp⟩
    · rw [if_neg hp] at h
      cases h
  | none =>
    rw [hget] at h
    obtain ⟨rfl⟩ := h
    exact .inr ⟨rfl, Table.insert_rows hget⟩

theorem bindings_append (h : t.history.rows = s.history.rows ++ [⟨d.id contentId, d⟩]) :
    t.bindings = s.bindings ++ d.binding?.toList := by
  unfold AuthorityStore.bindings; rw [h, List.filterMap_append]; cases d <;> rfl

theorem filed_append (h : t.history.rows = s.history.rows ++ [⟨d.id contentId, d⟩])
    (hs : ∀ row ∈ s.history.rows, row.id = row.payload.id contentId) :
    ∀ row ∈ t.history.rows, row.id = row.payload.id contentId := by
  intro row hrow; rw [h] at hrow; rcases List.mem_append.1 hrow with hold | hnew
  · exact hs row hold
  · rw [List.mem_singleton.1 hnew]

theorem putHistory_beside (hd : d.isBinding = false) (h : putHistory contentId d s = .ok u t) :
    Beside contentId s t := by
  rcases putHistory_ok h with ⟨rfl, _⟩ | ⟨hrest, hrows⟩
  · exact Beside.refl t
  refine ⟨hrest, ?_, filed_append hrows⟩; rw [bindings_append hrows]
  cases d with
  | binding b => cases hd
  | _ => exact List.append_nil _

theorem putHistory_new (hb : b ∉ s.bindings) (h : putHistory contentId (.binding b) s = .ok u t) :
    t = { s with history := t.history } ∧
      t.history.rows = s.history.rows ++ [⟨b.id contentId, .binding b⟩] := by
  rcases putHistory_ok h with ⟨_, row, hrow, hp⟩ | hnew
  · exact absurd (mem_bindings.2 ⟨row, hrow, hp⟩) hb
  · exact hnew

/-- What a call may leave. -/
inductive Effect (contentId : ContentId) (s : AuthorityStore) : Call → AuthorityStore → Prop
  | beside {c : Call} {t : AuthorityStore} : Beside contentId s t → Effect contentId s c t
  | began {h : CoreHandle} {release : PreparedRelease} {c : RuntimeCommission} {b : Baseline}
      {r : CommissionReading} {t : AuthorityStore} {e : RuntimeEvent} {first : ExecutableBinding} :
      s.commissions.rows = [] → t.commissions.rows ≠ [] → e.sequence = 1 → first.sequence = 1 →
      first.previousId = none → t.events.rows = s.events.rows ++ [⟨e.id contentId, e⟩] →
      t.history.rows = s.history.rows ++ [⟨first.id contentId, .binding first⟩] →
      t.current = some (first.id contentId) → Effect contentId s (.commission h release c b r) t
  | fenced {h : CoreHandle} {reason : String} {evidenceIds : List String} {now : Int}
      {t : AuthorityStore} {e : RuntimeEvent} : s.commissions.rows ≠ [] →
      e.sequence = s.runtimeEvents.length + 1 → e.action = .fenceEntry →
      Recorded contentId s t e → Effect contentId s (.fence h reason evidenceIds now) t
  | resumed {h : CoreHandle} {a : Approval} {r : ResumeReading} {s₁ t : AuthorityStore}
      {e f : RuntimeEvent} : currentRuntimeEvent s = .ok f → f.action = .fenceEntry →
      a.expectedFenceId = some (f.id contentId) → e.sequence = s.runtimeEvents.length + 1 →
      e.action = .resumeEntry → f.id contentId ∈ e.evidenceIds → Beside contentId s s₁ →
      Recorded contentId s₁ t e → Effect contentId s (.resume h a r) t
  | rebound {c : Call} {s₁ t : AuthorityStore} {prior b : ExecutableBinding} {f : RuntimeEvent} :
      s.bindings.getLast? = some prior → currentRuntimeEvent s = .ok f →
      f.action = .fenceEntry → b.fenceId = some (f.id contentId) →
      b.sequence = prior.sequence + 1 → b.previousId = some (prior.id contentId) →
      (b.kind = .codeOnly → b.release.config = prior.release.config) →
      Beside contentId s s₁ → Rebound contentId s₁ t b → Effect contentId s c t

theorem Beside.runtimeEvents (h : Beside contentId s t) : t.runtimeEvents = s.runtimeEvents := by
  rw [h.rest]; rfl

variable {h : CoreHandle}

theorem commission_present {c : RuntimeCommission}
    (hc : commissionInSession contentId h s = .ok c) : s.commissions.rows ≠ [] := by
  intro hnil; unfold commissionInSession at hc; rw [hnil] at hc; cases hc

variable {id : String} {evidenceIds : List String}

theorem fenceEntries_effect {reason : String} {now : Int}
    (hv : Valid contentId s) (hok : fenceEntries contentId h reason evidenceIds now s = .ok id t) :
    Effect contentId s (.fence h reason evidenceIds now) t := by
  unfold fenceEntries at hok; simp only [bind_ok, consult_ok, pure_ok] at hok
  obtain ⟨e, s₁, ⟨hevent, rfl⟩, _, s₂, hput, _, rfl⟩ := hok
  unfold fenceEvent at hevent; simp only [except_bind_ok] at hevent
  obtain ⟨c, hc, n, hn, he⟩ := hevent
  have hfields := EventFields.validate_ok he
  have hseq : e.sequence = s₁.runtimeEvents.length + 1 := by
    rw [hfields]; exact nextSequence_ok hv hn
  have haction : e.action = .fenceEntry := by rw [hfields]
  exact .fenced (commission_present hc) hseq haction (putEvent_new hv.numbered hseq hput)

variable {a : Approval}

theorem resumeEntries_effect {r : ResumeReading} (hv : Valid contentId s)
    (hok : resumeEntries contentId h a r s = .ok id t) : Effect contentId s (.resume h a r) t := by
  unfold resumeEntries at hok; simp only [bind_ok, consult_ok, pure_ok] at hok
  obtain ⟨e, s₁, ⟨hevent, rfl⟩, _, s₂, hfile, _, s₃, hput, _, rfl⟩ := hok
  unfold resumeEvent at hevent
  simp only [except_bind_ok, refuseUnless_ok] at hevent
  obtain ⟨c, _, f, hf, selection, _, _, hexact, _, _, _, _, hevent⟩ := hevent
  obtain ⟨_, hnames, hfence, _⟩ := hexact
  have hbeside := putHistory_beside rfl hfile; split at hevent
  · simp only [except_bind_ok, refuseUnless_ok] at hevent
    obtain ⟨_, _, _, _, hevent⟩ := hevent; split at hevent
    · cases hevent
    simp only [except_bind_ok, refuseUnless_ok] at hevent
    obtain ⟨_, _, _, _, _, _, he⟩ := hevent
    have hfields := EventFields.validate_ok he
    have hseq : e.sequence = s₁.runtimeEvents.length + 1 := by
      rw [hfields]
      exact congrArg (· + 1) (last_sequence hv.numbered ((current_last hv).1 hf))
    refine .resumed hf hfence hnames hseq (by rw [hfields]) (by rw [hfields]; simp) hbeside
      (putEvent_new ?_ ?_ hput)
    · rw [hbeside.runtimeEvents]; exact hv.numbered
    · rw [hbeside.runtimeEvents]; exact hseq
  · cases hevent

theorem successor_new (hv : Valid contentId s) (hlast : s.bindings.getLast? = some prior)
    (hseq : b.sequence = prior.sequence + 1) : b ∉ s.bindings := by
  intro hb; have hle := hv.chain.number_le hb
  have hprior := hv.chain.last hlast; omega

variable {c : Call} {successor : PreparedRelease}

theorem rebind_effect {c : Call} {s s₁ t t' : AuthorityStore} {prior b : ExecutableBinding}
    {f : RuntimeEvent} {kind : BindingKind} {commission : RuntimeCommission}
    {successor : PreparedRelease} {a : Approval} {at' : Int} {activation text : String}
    {u u' : PUnit} (hv : Valid contentId s)
    (hprior : executableInSession s = .ok (some prior)) (hf : currentRuntimeEvent s = .ok f)
    (hnames : a.Names contentId commission prior successor f activation)
    (hb : (successorOf contentId kind commission prior successor f a at' activation
      evidenceIds).validate = .ok b)
    (hcode : kind = .codeOnly → successor.config = prior.release.config)
    (hbeside : Beside contentId s s₁) (hput : putHistory contentId (.binding b) s₁ = .ok u t)
    (hmove : movePointer (prior.id contentId) (b.id contentId) text t = .ok u' t') :
    Effect contentId s c t' := by
  have hlast : s.bindings.getLast? = some prior := by
    rw [executable_last hv] at hprior; exact Except.ok.inj hprior
  obtain ⟨_, _, _, _, _, hfence, _⟩ := hnames
  have hfields := BindingFields.validate_ok hb
  have hseq : b.sequence = prior.sequence + 1 := by rw [hfields]; rfl
  have hnew : b ∉ s₁.bindings := by
    rw [hbeside.bindings]; exact successor_new hv hlast hseq
  obtain ⟨hrest, hrows⟩ := putHistory_new hnew hput; unfold movePointer at hmove
  split at hmove
  · obtain ⟨rfl⟩ := hmove
    refine .rebound hlast hf hfence (by rw [hfields]; rfl) hseq (by rw [hfields]; rfl)
      (fun hkind => ?_) hbeside ⟨?_, hrows⟩
    · rw [hfields] at hkind ⊢; exact hcode hkind
    · rw [hrest]
  · cases hmove

theorem transitionRelease_effect {r : TransitionReading} (hv : Valid contentId s)
    (hok : transitionRelease contentId h successor a r s = .ok id t) (c : Call) :
    Effect contentId s c t := by
  unfold transitionRelease at hok
  simp only [bind_ok, require_ok, consult_ok, pure_ok] at hok
  obtain ⟨_, s₁, ⟨_, rfl⟩, ⟨prior, b⟩, s₂, ⟨hbinding, rfl⟩, _, s₃, hput, _, s₄, hmove, _, rfl⟩ := hok
  unfold codeOnlyBinding at hbinding; simp only [except_bind_ok] at hbinding
  obtain ⟨commission, _, executable, hexec, f, hf, selection, _, hbinding⟩ := hbinding
  split at hbinding
  · simp only [except_bind_ok, refuseUnless_ok] at hbinding
    obtain ⟨_, ⟨hnames, _, hconfig, _⟩, _, _, b', hb, hpair⟩ := hbinding
    cases hpair
    exact rebind_effect hv hexec hf hnames hb (fun _ => hconfig.symm) (Beside.refl _) hput hmove
  · cases hbinding

theorem transitionEntryPolicy_effect {r : PolicyReading} (hv : Valid contentId s)
    (hok : transitionEntryPolicy contentId h successor a r s = .ok id t) (c : Call) :
    Effect contentId s c t := by
  unfold transitionEntryPolicy at hok
  simp only [bind_ok, require_ok, consult_ok, pure_ok] at hok
  obtain ⟨_, s₁, ⟨_, rfl⟩, ⟨prior, b⟩, s₂, ⟨hbinding, rfl⟩, _, s₃, hfile, _, s₄, hput, _, s₅, hmove,
    _, rfl⟩ := hok
  unfold entryPolicyBinding at hbinding; simp only [except_bind_ok] at hbinding
  obtain ⟨commission, _, executable, hexec, f, hf, selection, _, hbinding⟩ := hbinding
  split at hbinding
  · simp only [except_bind_ok, refuseUnless_ok] at hbinding
    obtain ⟨_, ⟨hnames, _⟩, _, _, _, _, _, _, b', hb, hpair⟩ := hbinding
    cases hpair
    exact rebind_effect hv hexec hf hnames hb (fun hkind => by cases hkind)
      (putHistory_beside rfl hfile) hput hmove
  · cases hbinding

theorem putCommission_empty {c : RuntimeCommission} (hs : s.commissions.rows = [])
    (h : putCommission contentId c s = .ok u t) :
    t = { s with commissions := t.commissions } ∧ t.commissions.rows ≠ [] := by
  have hget : s.commissions.get? (c.id contentId) = none := by
    unfold Table.get?; rw [hs]; rfl
  unfold putCommission putIn at h; rw [hget] at h; obtain ⟨rfl⟩ := h
  refine ⟨rfl, ?_⟩; rw [Table.insert_rows hget]
  exact List.append_ne_nil_of_right_ne_nil _ (List.cons_ne_nil _ _)

theorem putBaseline_rest {b : Baseline} (h : putBaseline contentId b s = .ok u t) :
    t = { s with baselines := t.baselines } := by
  unfold putBaseline at h; split at h
  · obtain ⟨rfl⟩ := h; rfl
  · cases h

variable {r : CommissionReading} {release : PreparedRelease}

theorem firstCommission_effect {c : RuntimeCommission} {b : Baseline}
    (hv : Valid contentId s) (hs : s.commissions.rows = [])
    (hok : firstCommission contentId h release c b r s = .ok id t) :
    Effect contentId s (.commission h release c b r) t := by
  unfold firstCommission at hok
  simp only [bind_ok, consult_ok, get_ok, require_ok, set_ok, pure_ok] at hok
  obtain ⟨_, _, hput, _, _, ⟨_, rfl⟩, _, _, ⟨rfl, rfl⟩, _, s₁, ⟨_, rfl⟩, _, _, hbase, _, _,
    ⟨_, rfl⟩, e, s₂, ⟨he, rfl⟩, _, _, hevent, initial, _, ⟨_, rfl⟩, first, s₃, ⟨hfirst, rfl⟩, _, _,
    hhistory, _, _, ⟨rfl, rfl⟩, _, s₄, ⟨_, rfl⟩, _, _, rfl, _, rfl⟩ := hok
  obtain ⟨hnone, hunbound⟩ := hv.begun hs
  obtain ⟨hrest₁, hcommissioned⟩ := putCommission_empty hs hput
  have hrest₂ := putBaseline_rest hbase
  have hevents₂ : s₂.runtimeEvents = s.runtimeEvents := by
    rw [hrest₂, hrest₁]; rfl
  have hfields := EventFields.validate_ok he
  have hseq : e.sequence = 1 := by rw [hfields]
  have hrecorded : Recorded contentId s₂ s₃ e := by
    refine putEvent_new ?_ ?_ hevent
    · rw [hevents₂]; exact hv.numbered
    · rw [hevents₂, hnone, hseq]; rfl
  have hbfields := BindingFields.validate_ok hfirst
  have hbindings₃ : s₃.bindings = [] := by
    rw [hrecorded.rest, hrest₂, hrest₁]; exact hunbound
  obtain ⟨hrest₄, hrows⟩ := putHistory_new (b := first) (by rw [hbindings₃]; exact List.not_mem_nil)
    hhistory
  refine .began hs ?_ hseq (by rw [hbfields]) (by rw [hbfields]) ?_ ?_ rfl
  · show s₄.commissions.rows ≠ []; rw [hrest₄, hrecorded.rest, hrest₂]
    exact hcommissioned
  · show s₄.events.rows = _; rw [hrest₄]; rw [hrecorded.rows, hrest₂, hrest₁]
  · show s₄.history.rows = _; rw [hrows, hrecorded.rest, hrest₂, hrest₁]

theorem repeatCommission_ok {c : RuntimeCommission} {b : Baseline}
    {prior : Stored RuntimeCommission}
    (hok : repeatCommission contentId h c b r prior s = .ok id t) : t = s := by
  unfold repeatCommission at hok
  simp only [bind_ok, require_ok, consult_ok, get_ok] at hok
  obtain ⟨_, _, ⟨_, rfl⟩, _, _, ⟨_, rfl⟩, _, s, ⟨rfl, rfl⟩, hok⟩ := hok
  rcases hrows : s.baselines.rows with _ | ⟨row, _ | ⟨_, _⟩⟩
  · rw [hrows] at hok; cases hok
  · rw [hrows] at hok
    simp only [bind_ok, require_ok, consult_ok, pure_ok] at hok
    obtain ⟨_, _, ⟨_, rfl⟩, _, _, ⟨_, rfl⟩, _, rfl⟩ := hok; rfl
  · rw [hrows] at hok; cases hok

theorem commissionRuntime_effect {c : RuntimeCommission} {b : Baseline} (hv : Valid contentId s)
    (hok : commissionRuntime contentId h release c b r s = .ok id t) :
    Effect contentId s (.commission h release c b r) t := by
  unfold commissionRuntime at hok
  simp only [bind_ok, require_ok, consult_ok, get_ok] at hok
  obtain ⟨_, _, ⟨_, rfl⟩, _, _, ⟨_, rfl⟩, _, _, ⟨_, rfl⟩, _, s, ⟨rfl, rfl⟩, hok⟩ := hok
  rcases hrows : s.commissions.rows with _ | ⟨row, _ | ⟨_, _⟩⟩
  · rw [hrows] at hok; exact firstCommission_effect hv hrows hok
  · rw [hrows] at hok; rw [repeatCommission_ok hok]
    exact .beside (Beside.refl _)
  · rw [hrows] at hok; cases hok

/-- **One call.** -/
theorem step_effect (hv : Valid contentId s) (hstep : (authority contentId).step s c t) :
    Effect contentId s c t := by
  rw [show t = after (immediate (c.body contentId)) s from hstep]
  cases hrun : immediate (c.body contentId) s with
  | error e s' =>
    have hsame : after (immediate (c.body contentId)) s = s := by
      unfold after; rw [hrun]; exact immediate_error hrun
    rw [hsame]; exact .beside (Beside.refl s)
  | ok id s' =>
    rw [after_ok hrun]; have hok := immediate_ok.1 hrun
    cases c with
    | commission h prepared c b r => exact commissionRuntime_effect hv hok
    | fence h reason evidenceIds now => exact fenceEntries_effect hv hok
    | release h successor a r => exact transitionRelease_effect hv hok _
    | policy h successor a r => exact transitionEntryPolicy_effect hv hok _
    | resume h a r => exact resumeEntries_effect hv hok
    | file d =>
      change fileDocument contentId d s = _ at hok; unfold fileDocument at hok
      simp only [bind_ok, require_ok, pure_ok] at hok
      obtain ⟨_, _, ⟨hd, rfl⟩, _, _, hput, _, rfl⟩ := hok
      exact .beside (putHistory_beside hd hput)

/-! ## What a call keeps -/

theorem Succeeds.mono (h : ∀ row ∈ s.events.rows, row ∈ t.events.rows) {a : ExecutableBinding}
    (hs : Succeeds s a b) : Succeeds t a b := by
  obtain ⟨row, hrow, hfence⟩ := hs.fenced
  exact ⟨⟨row, h row hrow, hfence⟩, hs.code⟩

theorem Beside.valid (h : Beside contentId s t) (hv : Valid contentId s) : Valid contentId t := by
  have hevents : t.events = s.events := by rw [h.rest]
  have hrun : t.runtimeEvents = s.runtimeEvents := h.runtimeEvents
  refine ⟨?_, ?_, h.filed hv.filedHistory, ?_, ?_, ?_, ?_⟩
  · rw [hrun]; exact hv.numbered
  · rw [hevents]; exact hv.filed
  · rw [h.bindings]; exact hv.chain
  · rw [h.bindings, ← hv.current, h.rest]
  · rw [h.bindings]
    exact hv.succeeds.imp fun _ _ => Succeeds.mono (by rw [hevents]; exact fun _ hr => hr)
  · rw [h.bindings, hrun]; intro hnil; refine hv.begun ?_
    rw [h.rest] at hnil; exact hnil

theorem events_append (h : t.events.rows = s.events.rows ++ [⟨e.id contentId, e⟩]) :
    t.runtimeEvents = s.runtimeEvents ++ [e] := by
  unfold AuthorityStore.runtimeEvents; rw [h, List.map_append]; rfl

theorem numbered_append (hv : Valid contentId s) (hseq : e.sequence = s.runtimeEvents.length + 1)
    (h : t.events.rows = s.events.rows ++ [⟨e.id contentId, e⟩]) :
    t.runtimeEvents.map (·.sequence) = List.range' 1 t.runtimeEvents.length ∧
      ∀ row ∈ t.events.rows, row.id = row.payload.id contentId := by
  constructor
  · rw [events_append h, List.map_append, hv.numbered, List.length_append, List.length_singleton,
      List.range'_1_concat, List.map_singleton, hseq, Nat.add_comm 1]
  · intro row hrow; rw [h] at hrow
    rcases List.mem_append.1 hrow with hold | hnew
    · exact hv.filed row hold
    · rw [List.mem_singleton.1 hnew]

theorem Recorded.valid (h : Recorded contentId s t e)
    (hseq : e.sequence = s.runtimeEvents.length + 1) (hs : s.commissions.rows ≠ [])
    (hv : Valid contentId s) : Valid contentId t := by
  obtain ⟨hnumbered, hfiled⟩ := numbered_append hv hseq h.rows
  have hbindings : t.bindings = s.bindings := by
    rw [h.rest]; rfl
  refine ⟨hnumbered, hfiled, ?_, ?_, ?_, ?_, fun hnil => ?_⟩
  · rw [h.rest]; exact hv.filedHistory
  · rw [hbindings]; exact hv.chain
  · rw [hbindings, ← hv.current, h.rest]
  · rw [hbindings]
    refine hv.succeeds.imp fun _ _ => Succeeds.mono fun row hrow => ?_
    rw [h.rows]; exact List.mem_append_left _ hrow
  · rw [h.rest] at hnil; exact absurd hnil hs

theorem Rebound.valid (h : Rebound contentId s t b) (hv : Valid contentId s)
    (hlast : s.bindings.getLast? = some prior) (hf : currentRuntimeEvent s = .ok f)
    (hfence : f.action = .fenceEntry) (hid : b.fenceId = some (f.id contentId))
    (hseq : b.sequence = prior.sequence + 1) (hprev : b.previousId = some (prior.id contentId))
    (hcode : b.kind = .codeOnly → b.release.config = prior.release.config) : Valid contentId t := by
  have hevents : t.events = s.events := by rw [h.rest]
  have hrun : t.runtimeEvents = s.runtimeEvents := by
    unfold AuthorityStore.runtimeEvents; rw [hevents]
  have hbindings : t.bindings = s.bindings ++ [b] := bindings_append h.rows
  have hkept : ∀ row ∈ s.events.rows, row ∈ t.events.rows := by
    rw [hevents]; exact fun _ hr => hr
  refine ⟨?_, ?_, filed_append h.rows hv.filedHistory, ?_, ?_, ?_, fun hnil => ?_⟩
  · rw [hrun]; exact hv.numbered
  · rw [hevents]; exact hv.filed
  · rw [hbindings]; refine hv.chain.snoc ?_ ?_
    · rw [hseq, hv.chain.last hlast]
    · rw [hprev, hlast]; rfl
  · rw [hbindings, List.getLast?_concat, h.rest]; rfl
  · rw [hbindings, List.isChain_append]
    refine ⟨hv.succeeds.imp fun _ _ => Succeeds.mono hkept, List.isChain_singleton _, ?_⟩
    intro x hx y hy; rw [hlast] at hx; cases hx; cases hy
    obtain ⟨row, hrow, hpay⟩ := List.mem_map.1 (List.mem_of_getLast? ((current_last hv).1 hf))
    refine ⟨⟨row, hkept row hrow, ?_, ?_⟩, hcode⟩
    · rw [hid, hv.filed row hrow, hpay]
    · rw [hpay]; exact hfence
  · rw [h.rest] at hnil; rw [(hv.begun hnil).2] at hlast; cases hlast

theorem effect_valid (hv : Valid contentId s) (h : Effect contentId s c t) : Valid contentId t := by
  cases h with
  | beside hb => exact hb.valid hv
  | @began _ _ _ _ _ _ e first hs ht hseq hfirst hprev hevents hhistory hcurrent =>
    obtain ⟨hnone, hunbound⟩ := hv.begun hs
    have hbindings : t.bindings = [first] := by
      rw [bindings_append hhistory, hunbound]; rfl
    obtain ⟨hnumbered, hfiled⟩ := numbered_append hv (by rw [hseq, hnone]; rfl) hevents
    refine ⟨hnumbered, hfiled, filed_append hhistory hv.filedHistory, ?_, ?_, ?_,
      fun hnil => absurd hnil ht⟩
    · rw [hbindings]; exact Linear.nil.snoc hfirst hprev
    · rw [hbindings, hcurrent]; rfl
    · rw [hbindings]; exact List.isChain_singleton _
  | fenced hs hseq _ hrec => exact hrec.valid hseq hs hv
  | @resumed _ _ _ s₁ _ e f hf _ _ hseq _ _ hbeside hrec =>
    have hevents : s₁.runtimeEvents = s.runtimeEvents := hbeside.runtimeEvents
    refine hrec.valid (by rw [hevents]; exact hseq) ?_ (hbeside.valid hv)
    intro hnil; rw [hbeside.rest] at hnil; have hlast := (current_last hv).1 hf
    rw [(hv.begun hnil).1] at hlast; cases hlast
  | @rebound _ s₁ _ prior b f hlast hf hfence hid hseq hprev hcode hbeside hre =>
    have hv₁ := hbeside.valid hv
    refine hre.valid hv₁ ?_ ?_ hfence hid hseq hprev hcode
    · rw [hbeside.bindings]; exact hlast
    · rw [current_last hv₁, hbeside.runtimeEvents]; exact (current_last hv).1 hf

theorem valid_inductive : (authority contentId).Inductive (Valid contentId) where
  init s h := by
    rw [show s = {} from h]
    refine ⟨rfl, fun _ h => (by cases h), fun _ h => (by cases h), Linear.nil, rfl, .nil, ?_⟩
    exact fun _ => ⟨rfl, rfl⟩
  step _ _ _ hv hstep := effect_valid hv (step_effect hv hstep)

/-! ## The fence -/

variable (contentId) in
/-- Every process is objected to when it asks to enter. -/
def Objected (s : AuthorityStore) : Prop :=
  ∀ h, ∃ o, runtimeObjections contentId h s true = .ok o ∧ o ≠ []

/-- The current event is an entry fence. -/
def Fenced (s : AuthorityStore) : Prop :=
  ∃ f, currentRuntimeEvent s = .ok f ∧ f.action = .fenceEntry

variable (contentId) in
/-- The step is no resumption whose approval names the event in force. -/
def Unlifted (s : AuthorityStore) (c : Call) (_ : AuthorityStore) : Prop :=
  ∀ h a r f, c = .resume h a r → currentRuntimeEvent s = .ok f →
    a.expectedFenceId ≠ some (f.id contentId)

/-- The pointer never stands at another document, so every refusal is a conflict. -/
theorem commissionInSession_error {e : AuthorityError} (hv : Valid contentId s)
    (hc : commissionInSession contentId h s = .error e) : ∃ text, e = .conflict text := by
  unfold commissionInSession at hc; rw [executable_last hv] at hc; split at hc
  · simp only [bind, Except.bind, refuseUnless] at hc; split at hc
    · rename_i hrefused; split at hrefused
      · cases hrefused
      cases hrefused; cases hc; exact ⟨_, rfl⟩
    · cases hc
  · cases hc; exact ⟨_, rfl⟩

theorem Fenced.objected (hv : Valid contentId s) (hf : Fenced s) : Objected contentId s := by
  obtain ⟨f, hcurrent, hfence⟩ := hf; intro h; unfold runtimeObjections
  cases hc : commissionInSession contentId h s with
  | error e =>
    obtain ⟨text, rfl⟩ := commissionInSession_error hv hc
    exact ⟨[text], rfl, List.cons_ne_nil _ _⟩
  | ok c =>
    simp only [hcurrent, hfence]; split
    · exact ⟨_, rfl, List.cons_ne_nil _ _⟩
    · exact ⟨_, rfl, by simp⟩

theorem current_append (ht : Valid contentId t)
    (h : t.events.rows = s.events.rows ++ [⟨e.id contentId, e⟩]) :
    currentRuntimeEvent t = .ok e := by
  rw [current_last ht, events_append h, List.getLast?_concat]

theorem Beside.current (h : Beside contentId s t) :
    currentRuntimeEvent t = currentRuntimeEvent s := by
  unfold currentRuntimeEvent; rw [h.runtimeEvents]

section

variable (hv : Valid contentId s)
include hv

theorem step_fence (hf : currentRuntimeEvent s = .ok f)
    (hfence : f.action = .fenceEntry) (hstep : (authority contentId).step s c t) :
    Fenced t ∨ ∃ h a r e, c = .resume h a r ∧ a.expectedFenceId = some (f.id contentId) ∧
      currentRuntimeEvent t = .ok e ∧ e.action = .resumeEntry ∧ f.id contentId ∈ e.evidenceIds := by
  have heffect := step_effect hv hstep; have ht := effect_valid hv heffect
  cases heffect with
  | beside hb => exact .inl ⟨f, hb.current.trans hf, hfence⟩
  | began hs _ _ _ _ _ _ _ =>
    have hlast := (current_last hv).1 hf; rw [(hv.begun hs).1] at hlast
    cases hlast
  | fenced _ _ haction hrec => exact .inl ⟨_, current_append ht hrec.rows, haction⟩
  | @resumed h a r s₁ _ e g hg _ hnames _ haction hevidence hbeside hrec =>
    rw [hf] at hg; cases hg
    exact .inr ⟨h, a, r, e, rfl, hnames, current_append ht hrec.rows, haction, hevidence⟩
  | @rebound _ s₁ _ _ _ _ _ _ _ _ _ _ _ hbeside hre =>
    have hsame : currentRuntimeEvent t = currentRuntimeEvent s₁ := by
      unfold currentRuntimeEvent AuthorityStore.runtimeEvents; rw [hre.rest]
    exact .inl ⟨f, hsame.trans (hbeside.current.trans hf), hfence⟩

theorem run_fence {cs : List Call} (hf : Fenced s)
    (hrun : ((authority contentId).restrict (Unlifted contentId)).Run s cs t) :
    Objected contentId t := by
  have hkept : Valid contentId t ∧ Fenced t := by
    refine LTS.Run.keeps (P := fun s => Valid contentId s ∧ Fenced s) ?_ hrun ⟨hv, hf⟩
    intro s c t ⟨hv, f, hcurrent, hfence⟩ ⟨hstep, hunlifted⟩
    refine ⟨valid_inductive.step _ _ _ hv hstep, ?_⟩
    rcases step_fence hv hcurrent hfence hstep with hstill | ⟨h, a, r, _, hc, hnames, _⟩
    · exact hstill
    · exact absurd hnames (hunlifted h a r f hc hcurrent)
  exact hkept.2.objected hkept.1

theorem step_prefix (hstep : (authority contentId).step s c t) :
    s.events.rows <+: t.events.rows := by
  cases step_effect hv hstep with
  | beside hb => rw [hb.rest]
  | began _ _ _ _ _ hevents _ _ => exact ⟨_, hevents.symm⟩
  | fenced _ _ _ hrec => exact ⟨_, hrec.rows.symm⟩
  | resumed _ _ _ _ _ _ hbeside hrec =>
    rw [hrec.rows, hbeside.rest]; exact List.prefix_append _ _
  | rebound _ _ _ _ _ _ _ hbeside hre => rw [hre.rest, hbeside.rest]

theorem run_prefix {cs : List Call}
    (hrun : (authority contentId).Run s cs t) : s.events.rows <+: t.events.rows :=
  hrun.rel (R := fun s t => s.events.rows <+: t.events.rows) (fun _ => List.prefix_rfl)
    (fun _ _ _ => List.IsPrefix.trans) valid_inductive.step (fun _ _ _ hv => step_prefix hv) hv

end

theorem stale_refused (hs : Valid contentId s) (ht : Valid contentId t)
    {row new : Stored RuntimeEvent} (hrow : row ∈ s.events.rows)
    (hnew : s.events.rows ++ [new] <+: t.events.rows) {r : ResumeReading}
    (ha : a.expectedFenceId = some row.id) : Raises (resumeEntries contentId h a r) t := by
  cases hrun : resumeEntries contentId h a r t with
  | error e t' => exact ⟨e, t', hrun⟩
  | ok id t' =>
    exfalso
    have hnamed : ∃ f, currentRuntimeEvent t = .ok f ∧ a.expectedFenceId = some (f.id contentId) := by
      unfold resumeEntries resumeEvent at hrun
      simp only [bind_ok, consult_ok, except_bind_ok, refuseUnless_ok] at hrun
      obtain ⟨_, _, ⟨⟨_, _, f, hf, _, _, _, hexact, _⟩, _⟩, _⟩ := hrun
      exact ⟨f, hf, hexact.2.1⟩
    obtain ⟨f, hf, hname⟩ := hnamed; have hlast := (current_last ht).1 hf
    obtain ⟨last, hlastmem, hpay⟩ := List.mem_map.1 (List.mem_of_getLast? hlast)
    -- one id is one row, and the named row is too early to be the last
    have hid : row.id = last.id := by
      rw [ha] at hname; rw [ht.filed last hlastmem, hpay]
      exact Option.some.inj hname
    have hmem : row ∈ t.events.rows := hnew.subset (List.mem_append_left _ hrow)
    have hsame : row = last := Table.eq_of_key hmem hlastmem hid
    have hearly := sequence_le hs.numbered (List.mem_map_of_mem hrow)
    have hlate := last_sequence ht.numbered hlast; have hlen := hnew.length_le
    rw [List.length_append, List.length_singleton] at hlen
    unfold AuthorityStore.runtimeEvents at hearly hlate
    rw [List.length_map] at hearly hlate; rw [hsame, hpay] at hearly; omega

theorem step_bindings (hv : Valid contentId s) (hstep : (authority contentId).step s c t) :
    t.bindings = s.bindings ∨ ∃ b, t.bindings = s.bindings ++ [b] ∧ (s.bindings ≠ [] →
      ∃ f, currentRuntimeEvent s = .ok f ∧ f.action = .fenceEntry ∧
        b.fenceId = some (f.id contentId)) := by
  cases step_effect hv hstep with
  | beside hb => exact .inl hb.bindings
  | began hs _ _ _ _ _ hhistory _ =>
    exact .inr ⟨_, bindings_append hhistory, fun hne => absurd (hv.begun hs).2 hne⟩
  | fenced _ _ _ hrec =>
    left; rw [hrec.rest]; rfl
  | resumed _ _ _ _ _ _ hbeside hrec =>
    left; rw [hrec.rest]; exact hbeside.bindings
  | rebound _ hf hfence hid _ _ _ hbeside hre =>
    right; refine ⟨_, ?_, fun _ => ⟨_, hf, hfence, hid⟩⟩
    rw [bindings_append hre.rows, hbeside.bindings]; rfl

/-- **Entry fences.** In every state reached: events are numbered 1 to n; bindings form one chain
with the pointer at its last, each after the first naming a fence on record, and by the code-only
path with its configuration unchanged; a call adds a later binding only under the fence in force;
a fenced core objects to every entry until a resumption names the event then in force, which is
what the resumption records; and an approval of an event on record resumes nothing once a fence
stands behind it. -/
theorem entry_fence {s : AuthorityStore} (hs : (authority contentId).Reachable s) :
    s.runtimeEvents.map (·.sequence) = List.range' 1 s.runtimeEvents.length ∧
    Linear (·.sequence) (·.previousId) (·.id contentId) s.bindings ∧
    s.current = s.bindings.getLast?.map (·.id contentId) ∧ s.bindings.IsChain (Succeeds s) ∧
    (∀ c t, (authority contentId).step s c t → t.bindings = s.bindings ∨
      ∃ b, t.bindings = s.bindings ++ [b] ∧ (s.bindings ≠ [] →
        ∃ f, currentRuntimeEvent s = .ok f ∧ f.action = .fenceEntry ∧
          b.fenceId = some (f.id contentId))) ∧
    (Fenced s → ∀ cs t, ((authority contentId).restrict (Unlifted contentId)).Run s cs t →
      Objected contentId t) ∧ (∀ f c t, currentRuntimeEvent s = .ok f → f.action = .fenceEntry →
      (authority contentId).step s c t → Fenced t ∨ ∃ h a r e, c = .resume h a r ∧
        a.expectedFenceId = some (f.id contentId) ∧ currentRuntimeEvent t = .ok e ∧
        e.action = .resumeEntry ∧ f.id contentId ∈ e.evidenceIds) ∧
    ∀ row ∈ s.events.rows, ∀ a : Approval, a.expectedFenceId = some row.id →
      ∀ c s₁ f cs t, (authority contentId).step s c s₁ →
        s₁.runtimeEvents = s.runtimeEvents ++ [f] → f.action = .fenceEntry →
        (authority contentId).Run s₁ cs t → ∀ h r, (authority contentId).step t (.resume h a r) t := by
  have hv : Valid contentId s := valid_inductive.reachable hs
  refine ⟨hv.numbered, hv.chain, hv.current, hv.succeeds, fun c t => step_bindings hv,
    fun hf cs t => run_fence hv hf, fun f c t => step_fence hv, ?_⟩
  intro row hrow a ha c s₁ f cs t hstep hfence _ hrun h r
  have hs₁ := valid_inductive.step _ _ _ hv hstep
  have ht : Valid contentId t := hrun.keeps valid_inductive.step hs₁
  obtain ⟨tail, htail⟩ := step_prefix hv hstep
  obtain ⟨new, rfl⟩ : ∃ new, tail = [new] := by
    have hlen : s₁.runtimeEvents.length = s.runtimeEvents.length + 1 := by
      rw [hfence, List.length_append, List.length_singleton]
    unfold AuthorityStore.runtimeEvents at hlen
    rw [List.length_map, List.length_map, ← htail, List.length_append] at hlen
    exact List.length_eq_one_iff.1 (by omega)
  obtain ⟨e, t', hraise⟩ := stale_refused hv ht hrow (htail ▸ run_prefix hs₁ hrun) ha
    (h := h) (r := r)
  show t = after (immediate (resumeEntries contentId h a r)) t
  unfold after immediate; rw [hraise]

/-! ## A core that is fenced twice -/

def shortId : ContentId
  | .commission _ => "commission"
  | .event e => "event " ++ toString e.sequence
  | .release r => r.executable
  | .document (.binding b) => "binding " ++ toString b.sequence
  | .document (.approval a) => "approval " ++ a.approvalReference.getD ""
  | .document _ => "document"
  | .baseline _ => "baseline"
  | .canonical _ => "canonical"
  | .acquisition a => a

def paperConfig : RuntimeConfig where
  storeIdentity := "store"
  entryPolicy := none
  requestControl := none
  initialModelId := "model"
  holdoutSource := "holdout"
  canonicalDatasets := []
  activationPolicy := .reviewEachCandidate

def paperHandle (executable : String) : CoreHandle where
  configId := "config"
  releaseId := "r1"
  accountId := "account"
  owner := "core"
  generation := 1
  brokerPaper := true
  signalOrExplore := false
  storeIdentity := "store"
  storePath := "core.db"
  runtimeReleaseId := executable
  entryPolicy := none
  exitBufferSeconds := 60

def paperCommission : RuntimeCommission where
  releaseId := "r1"
  configId := "config"
  storeIdentity := "store"
  storePath := "core.db"
  accountId := "account"
  endpoint := "paper"
  owner := "core"
  generation := 1
  approvedAt := 0
  approvalReference := "begin"
  initialModelId := "model"
  activationPolicy := .reviewEachCandidate
  legacyOwners := []
  baselineSourceIds := ["acquired"]
  canonicalMetadataId := "canonical"
  generated := Nat.one_pos
  referenced := by decide
  sourced := by decide

def paperBaseline : Baseline where
  source := some "BROKER_PAPER_APPROVED_INITIAL_STATE"
  sourceIds := ["acquired"]
  accountId := "account"
  positions := []
  fencedWriterEvidenceIds := ["writer"]
  unknownOrders := some []
  providerAcquisition := some "acquired"
  provider := some "alpaca"
  endpoint := some "paper"
  capturedAt := some 0
  canonicalMetadata := some ⟨some "holdout", [], ""⟩

def paperRelease (executable : String) : PreparedRelease := ⟨paperConfig, 36, executable⟩

def firstCall : Call :=
  .commission (paperHandle "r1") (paperRelease "r1") paperCommission paperBaseline
    ⟨true, true, .ok ⟨⟩, .ok "activation", 1⟩

def fenceCall (executable : String) : Call :=
  .fence (paperHandle executable) "operator" ["ticket"] 2

def codeApproval : Approval where
  commissionId := some "commission"
  expectedBindingId := some "binding 1"
  expectedFenceId := some "event 2"
  expectedActivationId := some "activation"
  oldReleaseId := some "r1"
  newReleaseId := some "r2"
  approvalReference := some "upgrade"
  oldWriterFenceEvidenceIds := ["stopped"]
  approvedAt := some 3

def upgradeCall : Call :=
  .release (paperHandle "r1") (paperRelease "r2") codeApproval ⟨true, .ok (some "activation"), 4⟩

def ranAfter (cs : List Call) : AuthorityStore :=
  cs.foldl (fun s c => after (immediate (c.body shortId)) s) {}

theorem ranAfter_reachable (cs : List Call) : (authority shortId).Reachable (ranAfter cs) := by
  induction cs using List.reverseRecOn with
  | nil => exact ⟨{}, [], rfl, .nil _⟩
  | append_singleton cs c ih =>
    refine ih.step (l := c) ?_; unfold ranAfter; rw [List.foldl_append]; rfl

/-- Commissioned, fenced, upgraded under the fence, fenced again: the core still objects, and an
approval of the first fence no longer lifts anything. -/
theorem entry_fence_twice :
    ((ranAfter [firstCall, fenceCall "r1", upgradeCall]).bindings.map (·.sequence)) = [1, 2] ∧
    Objected shortId (ranAfter [firstCall, fenceCall "r1", upgradeCall]) ∧
    ∀ a : Approval, a.expectedFenceId = some "event 2" → ∀ h r,
      (authority shortId).step (ranAfter [firstCall, fenceCall "r1", fenceCall "r1"])
        (.resume h a r) (ranAfter [firstCall, fenceCall "r1", fenceCall "r1"]) := by
  obtain ⟨_, _, _, _, _, hobjected, _, hstale⟩ :=
    entry_fence (ranAfter_reachable [firstCall, fenceCall "r1"])
  refine ⟨by decide, ?_, fun a ha h r => ?_⟩
  · refine hobjected ⟨_, rfl, rfl⟩ [upgradeCall] _ (.cons ⟨rfl, ?_⟩ (.nil _))
    intro h a r f hc; cases hc
  · obtain ⟨row, hrow, hid⟩ : ∃ row ∈ (ranAfter [firstCall, fenceCall "r1"]).events.rows,
        row.id = "event 2" := by decide
    exact hstale row hrow a (by rw [hid]; exact ha) (fenceCall "r1") _ _ [] _ rfl rfl rfl (.nil _) h r

end Quantbot.L4.Authority
