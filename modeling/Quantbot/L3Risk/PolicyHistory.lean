import Quantbot.Core.LTS
import Quantbot.L3Risk.PolicyVersions

/-!
# Histories of the veto policy

Any order of the runtime's start, of proposals and rollbacks minted against the head of the
moment, and of records of what was minted, however late or often. The console's routes do
the three in one transaction (`policyApply_run`, `policyRollback_run`).

* `accepted_change_exact`: the versions are `1..n`, each superseding the one before; a stale
  proposal is refused; a rollback minted on the head takes force. A record that completes puts
  its policy in force exactly when that policy is in force already or no stored version has
  the name the change is stored under; a rollback that changes no value is refused exactly
  when its target is the head itself. Where every step meets this, the policy in force is the
  last one accepted.
* `return_by_apply`: applying a change and then applying the old value again completes, stores
  nothing and leaves the change in force; a rollback to the first version after a rollback to
  it changes no value and is not refused.
-/
namespace Quantbot.L3.Policy

open Core

/-- What was minted and for which policy; `restored` is a rollback's target and base number. -/
structure Draft where
  version : PolicyVersion
  proposed : PortfolioVetoPolicy
  restored : Option (PolicyVersion × Nat)

/-- The identity the change is stored under. -/
def Draft.name (digests : Digests) (d : Draft) : Identity :=
  match d.restored with
  | none => d.proposed.identity digests
  | some (target, base) => target.rollbackIdentity digests (base + 1)

/-- The stored rows, what was minted so far, and the last change that completed. -/
structure History where
  rows : List PolicyVersion
  drafts : List Draft
  accepted : Option PortfolioVetoPolicy

def History.empty : History := ⟨[], [], none⟩

/-- The rows read or bootstrapped by a start. -/
def History.started (s : History) (rows : List PolicyVersion) : History :=
  { s with rows := rows, accepted := if s.rows = [] then some shipped else s.accepted }

def History.draft (s : History) (d : Draft) : History := { s with drafts := d :: s.drafts }

/-- A record that completed. -/
def History.recorded (s : History) (d : Draft) (rows : List PolicyVersion) : History :=
  { s with rows := rows, accepted := some d.proposed }

inductive Operation (V : Type)
  | start (order : Iteration) (now : Int) (actor : String)
  | propose (order : Iteration) (proposal : ConfigProposal V) (now : Int)
  | restore (order : Iteration) (target : PolicyVersion) (actor reason : String) (now : Int)
  | record (draft : Draft)

section history

variable {V : Type} (digests : Digests) (coercion : Coercion V)

/-- The recorded head rebuilds to `p`. -/
def InForce (rows : List PolicyVersion) (p : PortfolioVetoPolicy) : Prop :=
  ∃ head, recordedPolicyVersion rows = .ok (some head) ∧ head.policy = some p

/-- One operation; a refused one has no step. -/
inductive Step (s : History) : Operation V → History → Prop
  | start {order : Iteration} {now : Int} {actor : String} {head : PolicyVersion}
      {rows : List PolicyVersion} :
      activePolicyVersion digests order now actor s.rows = .ok (head, rows) →
      Step s (.start order now actor) (s.started rows)
  | propose {order : Iteration} {proposal : ConfigProposal V} {now : Int}
      {head v : PolicyVersion} {current next : PortfolioVetoPolicy} :
      recordedPolicyVersion s.rows = .ok (some head) →
      applyProposal digests coercion order proposal head now = .ok v →
      head.policy = some current → candidate coercion order proposal current = some next →
      Step s (.propose order proposal now) (s.draft ⟨v, next, none⟩)
  | restore {order : Iteration} {target head v : PolicyVersion} {actor reason : String} {now : Int}
      {p : PortfolioVetoPolicy} :
      recordedPolicyVersion s.rows = .ok (some head) → target ∈ s.rows →
      rollbackTo digests order target head actor reason now = .ok v → target.policy = some p →
      Step s (.restore order target actor reason now)
        (s.draft ⟨v, p, some (target, head.version)⟩)
  | record {d : Draft} {stored : Bool} {rows : List PolicyVersion} :
      d ∈ s.drafts → recordPolicyVersion s.rows d.version = .ok (stored, rows) →
      Step s (.record d) (s.recorded d rows)

/-- Every order of operations from an empty store. -/
def history : LTS History (Operation V) where
  init s := s = History.empty
  step s l s' := Step digests coercion s l s'

end history

/-! ## The invariant -/

/-- What holds in every history. -/
structure Inv (digests : Digests) (s : History) : Prop where
  chain : Linear (·.version) (·.supersedes) (·.identity) s.rows
  names : (s.rows.map (·.identity)).Nodup
  readable : ∀ r ∈ s.rows, ∃ p, r.policy = some p
  /-- A rollback's identity carries its own number. -/
  numbered : ∀ r ∈ s.rows, ∀ n digest, r.identity = .rollback n digest → n = r.version
  minted : ∀ d ∈ s.drafts, d.version.policy = some d.proposed ∧
    d.version.identity = d.name digests ∧
    (∀ n digest, d.version.identity = .rollback n digest → n = d.version.version) ∧
    ∃ base ∈ s.rows, d.version.version = base.version + 1 ∧
      d.version.supersedes = some base.identity

section invariant

variable {V : Type} {digests : Digests} {coercion : Coercion V}

variable {s : History}

theorem recorded_eq (h : Inv digests s) : recordedPolicyVersion s.rows = .ok s.rows.getLast? := by
  unfold recordedPolicyVersion policyVersionHead
  rw [latest_linear h.chain fun a => Iff.rfl]
  cases hlast : s.rows.getLast? with
  | none => rfl
  | some head =>
    obtain ⟨p, hp⟩ := h.readable head (List.mem_of_getLast? hlast); dsimp only
    rw [rebuild_ok.2 hp]; rfl

variable {p : PortfolioVetoPolicy}

theorem inForce_iff (h : Inv digests s) :
    InForce s.rows p ↔ ∃ head, s.rows.getLast? = some head ∧ head.policy = some p := by
  unfold InForce; rw [recorded_eq h]; simp

theorem active_empty (order : Iteration) (now : Int) (actor : String) :
    activePolicyVersion digests order now actor [] =
      .ok (initialVersion digests order now actor, [initialVersion digests order now actor]) := by
  rfl

variable {now : Int} {order : Iteration} {rows : List PolicyVersion} {head v : PolicyVersion}
  {actor reason : String}

theorem active_eq (h : Inv digests s)
    (hr : activePolicyVersion digests order now actor s.rows = .ok (head, rows)) :
    (s.rows = [] ∧ head = initialVersion digests order now actor ∧ rows = [head]) ∨
      (s.rows.getLast? = some head ∧ rows = s.rows) := by
  cases hlast : s.rows.getLast? with
  | none =>
    have hnil := List.getLast?_eq_none_iff.1 hlast
    rw [hnil, active_empty] at hr; cases hr; exact .inl ⟨hnil, rfl, rfl⟩
  | some last =>
    unfold activePolicyVersion at hr; rw [recorded_eq h, hlast] at hr; cases hr
    exact .inr ⟨rfl, rfl⟩

variable {d : Draft}

theorem stored_last (h : Inv digests s) (hd : d ∈ s.drafts)
    (hnew : ∀ r ∈ s.rows, r.identity ≠ d.version.identity ∧ r.version ≠ d.version.version) :
    d.version.version = s.rows.length + 1 ∧
      d.version.supersedes = s.rows.getLast?.map (·.identity) := by
  obtain ⟨-, -, -, base, hbase, hversion, hsupersedes⟩ := h.minted d hd
  have hle := h.chain.number_le hbase
  have hlen : s.rows.length ≤ base.version := by
    by_contra hlt
    -- otherwise the number after the base's is taken
    have hi : base.version < s.rows.length := by omega
    have hn : s.rows[base.version].version = base.version + 1 :=
      (h.chain _ _ (List.getElem?_eq_getElem hi)).1
    exact (hnew _ (List.getElem_mem hi)).2 (by omega)
  refine ⟨by omega, ?_⟩; rw [h.chain.eq_last hbase hlen, hsupersedes]; rfl

theorem inv_init : Inv digests History.empty where
  chain := Linear.nil
  names := List.nodup_nil
  readable _ hr := absurd hr List.not_mem_nil
  numbered _ hr := absurd hr List.not_mem_nil
  minted _ hd := absurd hd List.not_mem_nil

theorem Inv.started (h : Inv digests s)
    (hr : activePolicyVersion digests order now actor s.rows = .ok (head, rows)) :
    Inv digests (s.started rows) := by
  rcases active_eq h hr with ⟨hnil, rfl, rfl⟩ | ⟨-, rfl⟩
  · refine ⟨?_, List.nodup_singleton _, ?_, ?_, ?_⟩
    · exact Linear.snoc Linear.nil rfl rfl
    · intro r hr; obtain rfl := List.mem_singleton.1 hr
      exact ⟨shipped, modelValidate_policyBody order shipped⟩
    · intro r hr n digest hid; obtain rfl := List.mem_singleton.1 hr; cases hid
    · intro d hd
      -- nothing was minted on an empty store
      obtain ⟨-, -, -, base, hbase, -⟩ := h.minted d hd; rw [hnil] at hbase
      cases hbase
  · exact ⟨h.chain, h.names, h.readable, h.numbered, h.minted⟩

theorem Inv.draft (h : Inv digests s) (hhead : s.rows.getLast? = some head)
    (hpolicy : d.version.policy = some d.proposed) (hname : d.version.identity = d.name digests)
    (hnumber : ∀ n digest, d.version.identity = .rollback n digest → n = d.version.version)
    (hversion : d.version.version = head.version + 1)
    (hsupersedes : d.version.supersedes = some head.identity) : Inv digests (s.draft d) := by
  refine ⟨h.chain, h.names, h.readable, h.numbered, fun e he => ?_⟩
  rcases List.mem_cons.1 he with rfl | he
  · exact ⟨hpolicy, hname, hnumber, head, List.mem_of_getLast? hhead, hversion, hsupersedes⟩
  · exact h.minted e he

variable {proposal : ConfigProposal V}

theorem Inv.proposed (h : Inv digests s)
    {current next : PortfolioVetoPolicy} (hhead : recordedPolicyVersion s.rows = .ok (some head))
    (hv : applyProposal digests coercion order proposal head now = .ok v)
    (hcurrent : head.policy = some current)
    (hnext : candidate coercion order proposal current = some next) :
    Inv digests (s.draft ⟨v, next, none⟩) := by
  rw [recorded_eq h] at hhead
  obtain ⟨current', next', hc, hn, hpolicy, hidentity, hversion, hsupersedes⟩ :=
    applyProposal_ok hv
  rw [hc] at hcurrent; cases hcurrent; rw [hn] at hnext; cases hnext
  refine h.draft (Except.ok.inj hhead) hpolicy hidentity (fun n digest hid => ?_) hversion
    hsupersedes
  rw [hidentity] at hid; cases hid

variable {target : PolicyVersion}

theorem Inv.restored (h : Inv digests s) (hhead : recordedPolicyVersion s.rows = .ok (some head))
    (hv : rollbackTo digests order target head actor reason now = .ok v)
    (hp : target.policy = some p) : Inv digests (s.draft ⟨v, p, some (target, head.version)⟩) := by
  rw [recorded_eq h] at hhead
  obtain ⟨hbody, hidentity, hversion, hsupersedes⟩ := rollbackTo_ok hv
  refine h.draft (Except.ok.inj hhead) ?_ hidentity (fun n digest hid => ?_) hversion hsupersedes
  · unfold PolicyVersion.policy at hp ⊢; rw [hbody, hp]
  · rw [hidentity] at hid; cases hid; exact hversion.symm

theorem Inv.recorded (h : Inv digests s) (hd : d ∈ s.drafts) {stored : Bool}
    (hr : recordPolicyVersion s.rows d.version = .ok (stored, rows)) :
    Inv digests (s.recorded d rows) := by
  rcases recordPolicyVersion_ok hr with ⟨-, rfl, hnew⟩ | ⟨-, rfl, -⟩
  · obtain ⟨hpolicy, hname, hnumber, -⟩ := h.minted d hd
    obtain ⟨hversion, hsupersedes⟩ := stored_last h hd hnew
    refine ⟨h.chain.snoc hversion hsupersedes, ?_, ?_, ?_, ?_⟩
    · change ((s.rows ++ [d.version]).map (·.identity)).Nodup
      rw [List.map_append, List.nodup_append]
      refine ⟨h.names, List.nodup_singleton _, fun a ha b hb => ?_⟩
      obtain ⟨r, hr, rfl⟩ := List.mem_map.1 ha
      obtain rfl := List.mem_singleton.1 hb; exact (hnew r hr).1
    · intro r hr; rcases List.mem_append.1 hr with hr | hr
      · exact h.readable r hr
      · obtain rfl := List.mem_singleton.1 hr; exact ⟨_, hpolicy⟩
    · intro r hr; rcases List.mem_append.1 hr with hr | hr
      · exact h.numbered r hr
      · obtain rfl := List.mem_singleton.1 hr; exact hnumber
    · intro e he; obtain ⟨h1, h2, h3, base, hbase, h4⟩ := h.minted e he
      exact ⟨h1, h2, h3, base, List.mem_append_left _ hbase, h4⟩
  · exact ⟨h.chain, h.names, h.readable, h.numbered, h.minted⟩

theorem inv_step {s' : History} {l : Operation V} (h : Inv digests s)
    (hst : Step digests coercion s l s') : Inv digests s' := by
  cases hst with
  | start hr => exact h.started hr
  | propose hhead hv hcurrent hnext => exact h.proposed hhead hv hcurrent hnext
  | restore hhead _ hv hp => exact h.restored hhead hv hp
  | record hd hr => exact h.recorded hd hr

theorem inv_reachable (h : (history digests coercion).Reachable s) : Inv digests s := by
  refine LTS.Inductive.reachable (P := Inv digests)
    ⟨fun s hs => ?_, fun s l s' hs hst => inv_step hs hst⟩ h
  rw [show s = History.empty from hs]; exact inv_init

/-! ## Records -/

theorem record_force (h : Inv digests s) (hd : d ∈ s.drafts) {stored : Bool}
    (hr : recordPolicyVersion s.rows d.version = .ok (stored, rows)) : InForce rows d.proposed ↔
      InForce s.rows d.proposed ∨ ∀ r ∈ s.rows, r.identity ≠ d.name digests := by
  obtain ⟨hpolicy, hname, -⟩ := h.minted d hd; have hafter := h.recorded hd hr
  rcases recordPolicyVersion_ok hr with ⟨-, rfl, hnew⟩ | ⟨-, rfl, r, hr, hid, -⟩
  · constructor
    · intro _; exact .inr fun r hr => hname ▸ (hnew r hr).1
    · intro _
      exact (inForce_iff hafter).2 ⟨d.version, List.getLast?_concat, hpolicy⟩
  · constructor
    · exact .inl
    rintro (hforce | hnew)
    · exact hforce
    · exact absurd (hid.trans hname) (hnew r hr)

theorem head_last (h : Inv digests s) {r : PolicyVersion} (hhead : s.rows.getLast? = some head)
    (hr : r ∈ s.rows) : r.supersedes ≠ some head.identity := by
  intro hsup; obtain ⟨i, hi, rfl⟩ := List.getElem_of_mem hr
  have hprev : s.rows[i].supersedes = (s.rows.take i).getLast?.map (·.identity) :=
    (h.chain i _ (List.getElem?_eq_getElem hi)).2
  rw [hprev] at hsup; obtain ⟨p, hp, hpid⟩ := Option.map_eq_some_iff.1 hsup
  have hpi : p.version = i := by
    rw [(h.chain.take i).last hp, List.length_take]; omega
  have hpm := List.mem_of_mem_take (List.mem_of_getLast? hp)
  have heq : p = head :=
    List.inj_on_of_nodup_map h.names hpm (List.mem_of_getLast? hhead) hpid
  have hlast : head.version = s.rows.length := h.chain.last hhead
  rw [heq] at hpi; omega

/-- A rollback minted on the head is stored: its identity carries a number no row has. -/
theorem rollback_stored (h : Inv digests s) (hhead : s.rows.getLast? = some head)
    (hv : rollbackTo digests order target head actor reason now = .ok v) :
    recordPolicyVersion s.rows v = .ok (true, s.rows ++ [v]) := by
  obtain ⟨-, hidentity, hversion, hsupersedes⟩ := rollbackTo_ok hv
  have hlast : head.version = s.rows.length := h.chain.last hhead
  have hfresh : ∀ r ∈ s.rows, r.identity ≠ v.identity ∧ r.version ≠ v.version := by
    intro r hr; have hle : r.version ≤ s.rows.length := h.chain.number_le hr
    refine ⟨fun heq => ?_, by omega⟩
    have := h.numbered r hr _ _ (heq.trans hidentity); omega
  have hnone : s.rows.find? (fun r => decide (r.identity = v.identity)) = none := by
    rw [List.find?_eq_none]; intro r hr; simpa using (hfresh r hr).1
  have hpos := head.positive
  have hins : insertRow s.rows v = .ok (s.rows ++ [v]) := by
    unfold insertRow; rw [if_pos]
    refine ⟨hfresh, fun _ r hr => ?_, fun base hb => ?_, ?_⟩
    · rw [hsupersedes]; exact head_last h hhead hr
    · rw [hsupersedes] at hb; cases hb
      exact ⟨head, List.mem_of_getLast? hhead, rfl⟩
    · rw [hsupersedes, hversion]; constructor
      · intro hone; omega
      · intro hnone; cases hnone
  unfold recordPolicyVersion; rw [hnone, hins]; rfl

/-! ## Every history -/

/-- The steps after which an accepted change is in force. -/
def Meets (digests : Digests) (s : History) : Operation V → History → Prop
  | .record d, _ => InForce s.rows d.proposed ∨ ∀ r ∈ s.rows, r.identity ≠ d.name digests
  | _, _ => True

/-- What a history guarantees, and exactly when. -/
structure Guarantees (digests : Digests) (coercion : Coercion V) (s : History) : Prop where
  numbered : s.rows.map (·.version) = List.range' 1 s.rows.length
  superseding : ∀ i r, s.rows[i]? = some r →
    r.supersedes = (s.rows.take i).getLast?.map (·.identity)
  identities : (s.rows.map (·.identity)).Nodup
  stale : ∀ order proposal head now, recordedPolicyVersion s.rows = .ok (some head) →
    proposal.baseIdentity ≠ head.identity →
    applyProposal digests coercion order proposal head now =
      .error (.proposalRefused (.stale proposal.baseIdentity head.identity))
  /-- Either kind of change, recorded at any later time. -/
  force : ∀ d ∈ s.drafts, ∀ stored rows,
    recordPolicyVersion s.rows d.version = .ok (stored, rows) →
    (InForce rows d.proposed ↔
      InForce s.rows d.proposed ∨ ∀ r ∈ s.rows, r.identity ≠ d.name digests)
  /-- A rollback recorded while the head is the one it was minted on. -/
  rollback : ∀ order target head actor reason now v,
    recordedPolicyVersion s.rows = .ok (some head) → target ∈ s.rows →
    rollbackTo digests order target head actor reason now = .ok v →
    ∃ p, target.policy = some p ∧
      recordPolicyVersion s.rows v = .ok (true, s.rows ++ [v]) ∧ InForce (s.rows ++ [v]) p
  unchanged : ∀ order target head actor reason now,
    recordedPolicyVersion s.rows = .ok (some head) → target ∈ s.rows →
    target.policy = head.policy →
    ((∃ r, rollbackTo digests order target head actor reason now = .error (.proposalRefused r)) ↔
      target.identity = head.identity)

theorem guarantees (h : Inv digests s) : Guarantees digests coercion s where
  numbered := by
    refine List.ext_getElem? fun i => ?_; rw [List.getElem?_map]
    cases hi : s.rows[i]? with
    | none =>
      have hlen := List.getElem?_eq_none_iff.1 hi
      rw [Option.map_none, List.getElem?_eq_none (by rw [List.length_range']; exact hlen)]
    | some r =>
      have hlen := (List.getElem?_eq_some_iff.1 hi).1
      have hn : r.version = i + 1 := (h.chain i r hi).1
      rw [List.getElem?_range' hlen, Option.map_some, hn]; congr 1; omega
  superseding := fun i r hr => (h.chain i r hr).2
  identities := h.names
  stale := fun order proposal head now _ hstale => by
    unfold applyProposal; rw [validateProposal_stale hstale]; rfl
  force := fun d hd stored rows hr => record_force h hd hr
  rollback := fun order target head actor reason now v hhead htarget hv => by
    have hlast := Except.ok.inj ((recorded_eq h).symm.trans hhead)
    have hstored := rollback_stored h hlast hv
    obtain ⟨p, hp⟩ := h.readable target htarget
    let d : Draft := ⟨v, p, some (target, head.version)⟩
    have hmint : Inv digests (s.draft d) := h.restored hhead hv hp
    have hnew : ∀ r ∈ s.rows, r.identity ≠ d.name digests := fun r hr heq => by
      have hnumber := h.numbered r hr _ _ heq
      have hle : r.version ≤ s.rows.length := h.chain.number_le hr
      have hlen : head.version = s.rows.length := h.chain.last hlast; omega
    exact ⟨p, hp, hstored, (record_force hmint List.mem_cons_self hstored).2 (.inr hnew)⟩
  unchanged := fun order target head actor reason now _ _ _ => rollbackTo_refused

/-- Where every step meets the condition, the rule in force is the last change accepted. -/
theorem accepted_inForce
    (h : ((history digests coercion).restrict fun s l s' => Meets digests s l s').Reachable s)
    (hp : s.accepted = some p) : InForce s.rows p := by
  have hboth : Inv digests s ∧ ∀ p, s.accepted = some p → InForce s.rows p := by
    refine LTS.Inductive.reachable
      (P := fun s => Inv digests s ∧ ∀ p, s.accepted = some p → InForce s.rows p) ⟨?_, ?_⟩ h
    · rintro s rfl
      exact ⟨inv_init, fun p hp => absurd hp.symm (Option.some_ne_none p)⟩
    · rintro s l s' ⟨hs, hforce⟩ ⟨hst, hmeets⟩; have hs' := inv_step hs hst
      refine ⟨hs', fun p hp => ?_⟩
      cases hst with
      | start hr =>
        change (if s.rows = [] then some shipped else s.accepted) = some p at hp
        rcases active_eq hs hr with ⟨hnil, rfl, rfl⟩ | ⟨hlast, rfl⟩
        · rw [if_pos hnil] at hp; cases hp
          exact (inForce_iff hs').2 ⟨_, rfl, modelValidate_policyBody _ _⟩
        · rw [if_neg (by rintro hnil; rw [hnil] at hlast; cases hlast)] at hp
          exact hforce p hp
      | propose | restore => exact hforce p hp
      | record hd hr =>
        cases hp; exact (record_force hs hd hr).2 hmeets
  exact hboth.2 p hp

/-- **An accepted change takes force** unless its name is taken: the exact guarantees of every
history, and what the runs keep whose records all meet the condition. -/
theorem accepted_change_exact (digests : Digests) (coercion : Coercion V) (s : History) :
    ((history digests coercion).Reachable s → Guarantees digests coercion s) ∧
    (((history digests coercion).restrict fun s l s' => Meets digests s l s').Reachable s →
      ∀ p, s.accepted = some p → InForce s.rows p) :=
  ⟨fun h => guarantees (inv_reachable h), fun h _ hp => accepted_inForce h hp⟩

/-! ## The console's routes -/

/-- mirrors app.py:757-778 -/
def policyApply (digests : Digests) (coercion : Coercion V) (order : Iteration)
    (proposal : ConfigProposal V) (now : Int) (rows : List PolicyVersion) :
    Except PolicyError (List PolicyVersion) := do
  let (head, rows) ← activePolicyVersion digests order now "project-default" rows
  let successor ← applyProposal digests coercion order proposal head now
  let (_, rows) ← recordPolicyVersion rows successor
  return rows

/-- A target the history does not hold leaves only the bootstrap.
mirrors app.py:780-823 -/
def policyRollback (digests : Digests) (order : Iteration) (targetIdentity : Identity)
    (reason : String) (now : Int) (rows : List PolicyVersion) :
    Except PolicyError (List PolicyVersion) := do
  let (head, rows) ← activePolicyVersion digests order now "project-default" rows
  match rows.find? (fun r => decide (r.identity = targetIdentity)) with
  | none => return rows
  | some target =>
    let minted ← rollbackTo digests order target head "console" reason now
    let (_, rows) ← recordPolicyVersion rows minted
    return rows

theorem start_recorded (h : Inv digests s)
    (hr : activePolicyVersion digests order now actor s.rows = .ok (head, rows)) :
    recordedPolicyVersion rows = .ok (some head) := by
  have hs' := h.started hr
  rcases active_eq h hr with ⟨-, -, rfl⟩ | ⟨hlast, rfl⟩
  · exact recorded_eq hs'
  · rw [recorded_eq h, hlast]

theorem policyApply_run (h : Inv digests s)
    (hr : policyApply digests coercion order proposal now s.rows = .ok rows) :
    ∃ ls s', (history digests coercion).Run s ls s' ∧ s'.rows = rows := by
  obtain ⟨⟨head, rows₁⟩, hstart, hr⟩ := Txn.except_bind_ok.1 hr
  obtain ⟨v, hv, hr⟩ := Txn.except_bind_ok.1 hr
  obtain ⟨⟨stored, rows₂⟩, hrecord, hr⟩ := Txn.except_bind_ok.1 hr
  obtain rfl : rows₂ = rows := Except.ok.inj hr
  obtain ⟨current, next, hcurrent, hnext, -⟩ := applyProposal_ok hv
  have h₁ : Step digests coercion s (.start order now "project-default") (s.started rows₁) :=
    .start hstart
  have h₂ : Step digests coercion (s.started rows₁) (.propose order proposal now)
      ((s.started rows₁).draft ⟨v, next, none⟩) :=
    .propose (start_recorded h hstart) hv hcurrent hnext
  have h₃ : Step digests coercion ((s.started rows₁).draft ⟨v, next, none⟩) (.record _) _ :=
    .record List.mem_cons_self hrecord
  exact ⟨[_, _, _], _, .cons h₁ (.cons h₂ (.cons h₃ (.nil _))), rfl⟩

/-- The route that rolls back is a start, a rollback and a record, or a start alone. -/
theorem policyRollback_run (h : Inv digests s) {target : Identity}
    (hr : policyRollback digests order target reason now s.rows = .ok rows) :
    ∃ ls s', (history digests coercion).Run s ls s' ∧ s'.rows = rows := by
  obtain ⟨⟨head, rows₁⟩, hstart, hr⟩ := Txn.except_bind_ok.1 hr
  dsimp only at hr
  have hst : Step digests coercion s (.start order now "project-default") (s.started rows₁) :=
    .start hstart
  cases hfind : rows₁.find? (fun r => decide (r.identity = target)) with
  | none =>
    rw [hfind] at hr; obtain rfl : rows₁ = rows := Except.ok.inj hr
    exact ⟨[_], _, .cons hst (.nil _), rfl⟩
  | some row =>
    rw [hfind] at hr; obtain ⟨v, hv, hr⟩ := Txn.except_bind_ok.1 hr
    obtain ⟨⟨stored, rows₂⟩, hrecord, hr⟩ := Txn.except_bind_ok.1 hr
    obtain rfl : rows₂ = rows := Except.ok.inj hr
    have hmem : row ∈ rows₁ := List.mem_of_find?_eq_some hfind
    obtain ⟨p, hp⟩ := (h.started hstart).readable row hmem
    have h₂ : Step digests coercion (s.started rows₁) (.restore order row "console" reason now)
        ((s.started rows₁).draft ⟨v, p, some (row, head.version)⟩) :=
      .restore (start_recorded h hstart) hmem hv hp
    have h₃ : Step digests coercion ((s.started rows₁).draft ⟨v, p, some (row, head.version)⟩)
        (.record _) _ := .record List.mem_cons_self hrecord
    exact ⟨[_, _, _], _, .cons hst (.cons h₂ (.cons h₃ (.nil _))), rfl⟩

end invariant

/-! ## Returning to earlier values -/

section returning

/-- The vetoes in the order they are declared. -/
def declared : Iteration where
  list s := [VetoName.netExposure, .dailyLoss, .staleMarketData, .liquidity,
    .exposureConcentration, .correlationConcentration].filter (· ∈ s)
  lists s := by
    ext v
    cases v <;> simp

/-- Hashes that tell the two policies below apart. -/
def shortDigests : Digests where
  policy t := if t.maxDailyLossBps = 500 then "5d00" else "4d00"
  rollback _ version _ := if version = 3 then "r3" else "r4"

/-- Values submitted as numbers. -/
def numbers : Coercion Int := ⟨some, fun _ => none⟩

def first : PolicyVersion := initialVersion shortDigests declared 0 "project-default"

def dailyLoss (n : Int) (base : PolicyVersion) : ConfigProposal Int where
  baseIdentity := base.identity
  updates := [(.field .maxDailyLossBps, n)]
  actor := "console"
  reason := "no reason given"
  mapping := List.nodup_singleton _
  nonempty := List.cons_ne_nil _ _

/-- What an operation minted, or the first version. -/
def mintedOr (r : Except PolicyError PolicyVersion) : PolicyVersion :=
  match r with
  | .ok v => v
  | .error _ => first

/-- The daily loss limit from five percent to four. -/
def tight : PortfolioVetoPolicy where
  thresholds := { shipped.thresholds with maxDailyLossBps := 400 }
  valid := by decide

def tighten : Draft where
  version := mintedOr (applyProposal shortDigests numbers declared (dailyLoss 400 first) first 1)
  proposed := tight
  restored := none

/-- The old limit, applied on top of the tight one. -/
def loosen : Draft where
  version := mintedOr (applyProposal shortDigests numbers declared (dailyLoss 500 tighten.version)
    tighten.version 2)
  proposed := shipped
  restored := none

/-- The first version restored, on top of the tight one. -/
def revert : Draft where
  version := mintedOr (rollbackTo shortDigests declared first tighten.version "console"
    "no reason given" 2)
  proposed := shipped
  restored := some (first, 2)

theorem tighten_body : tighten.version.body = policyBody declared tight := by decide

theorem tighten_policy : tighten.version.policy = some tight := by
  unfold PolicyVersion.policy; rw [tighten_body, modelValidate_policyBody]

theorem first_policy : first.policy = some shipped := modelValidate_policyBody declared shipped

theorem revert_body : revert.version.body = first.body := by decide

theorem first_head : recordedPolicyVersion [first] = .ok (some first) := by decide +kernel

theorem tighten_head :
    recordedPolicyVersion [first, tighten.version] = .ok (some tighten.version) := by
  decide

theorem tighten_stored :
    recordPolicyVersion [first] tighten.version = .ok (true, [first, tighten.version]) := by
  decide +kernel

theorem revert_stored : recordPolicyVersion [first, tighten.version] revert.version =
    .ok (true, [first, tighten.version, revert.version]) := by
  decide +kernel

theorem revert_minted : rollbackTo shortDigests declared first tighten.version "console"
    "no reason given" 2 = .ok revert.version := by
  decide

def tightened : History :=
  ((History.empty.started [first]).draft tighten).recorded tighten [first, tighten.version]

def loosening : History := tightened.draft loosen

def reverted : History :=
  (tightened.draft revert).recorded revert [first, tighten.version, revert.version]

theorem tightened_meets : ((history shortDigests numbers).restrict
    fun s l s' => Meets shortDigests s l s').Reachable tightened := by
  have h₁ : Step shortDigests numbers History.empty (.start declared 0 "project-default")
      (History.empty.started [first]) := .start (active_empty declared 0 "project-default")
  have h₂ : Step shortDigests numbers _ (.propose declared (dailyLoss 400 first) 1)
      ((History.empty.started [first]).draft tighten) :=
    .propose first_head (by decide)
      first_policy (candidate_body (by decide))
  have h₃ : Step shortDigests numbers ((History.empty.started [first]).draft tighten)
      (.record tighten) tightened :=
    .record List.mem_cons_self tighten_stored
  have hname : ∀ r ∈ [first], r.identity ≠ tighten.name shortDigests := by decide
  exact ⟨_, _, rfl, .cons ⟨h₁, trivial⟩ (.cons ⟨h₂, trivial⟩ (.cons ⟨h₃, .inr hname⟩ (.nil _)))⟩

theorem loosening_reachable : (history shortDigests numbers).Reachable loosening := by
  have h : Step shortDigests numbers tightened
      (.propose declared (dailyLoss 500 tighten.version) 2) loosening :=
    .propose tighten_head (by decide)
      tighten_policy (candidate_body (by decide))
  exact tightened_meets.of_restrict.step h

theorem reverted_meets : ((history shortDigests numbers).restrict
    fun s l s' => Meets shortDigests s l s').Reachable reverted := by
  have h₁ : Step shortDigests numbers tightened
      (.restore declared first "console" "no reason given" 2) (tightened.draft revert) :=
    .restore tighten_head List.mem_cons_self revert_minted first_policy
  have h₂ : Step shortDigests numbers (tightened.draft revert) (.record revert) reverted :=
    .record List.mem_cons_self revert_stored
  have hname : ∀ r ∈ [first, tighten.version], r.identity ≠ revert.name shortDigests := by
    decide
  exact (tightened_meets.step ⟨h₁, trivial⟩).step ⟨h₂, .inr hname⟩

theorem accepted_change_exact_reverted :
    Guarantees shortDigests numbers loosening ∧ InForce reverted.rows shipped :=
  ⟨(accepted_change_exact shortDigests numbers loosening).1 loosening_reachable,
    (accepted_change_exact shortDigests numbers reverted).2 reverted_meets shipped rfl⟩

/-- **Counterexample.** The old limit applied again completes and the tight one stays in force;
restoring the first version after it was restored is not refused. -/
theorem return_by_apply :
    (¬ ∀ s, (history shortDigests numbers).Reachable s → ∀ d ∈ s.drafts, ∀ stored rows,
      recordPolicyVersion s.rows d.version = .ok (stored, rows) → InForce rows d.proposed) ∧
    ¬ ∀ s, (history shortDigests numbers).Reachable s →
      ∀ order target head actor reason now, recordedPolicyVersion s.rows = .ok (some head) →
        target ∈ s.rows → target.policy = head.policy →
        ∃ r, rollbackTo shortDigests order target head actor reason now =
          .error (.proposalRefused r) := by
  constructor
  · intro h
    obtain ⟨head, hhead, hpolicy⟩ := h loosening loosening_reachable loosen List.mem_cons_self false
      [first, tighten.version] (by decide)
    cases hhead
    have hlimit := congrArg (·.thresholds.maxDailyLossBps) (Option.some.inj hpolicy)
    revert hlimit; decide
  · intro h
    have hrefused := h reverted reverted_meets.of_restrict declared first revert.version "console"
      "no reason given" 3 (by decide) List.mem_cons_self
      (congrArg modelValidate revert_body.symm)
    have hname := rollbackTo_refused.1 hrefused; revert hname; decide

end returning

end Quantbot.L3.Policy
