import Mathlib.Data.List.Dedup
import Quantbot.Core.LTS
import Quantbot.Core.Sums
import Quantbot.L1Domain.MarketData
import Quantbot.L2Storage.Repository

/-!
# Forward days

`research/promotion.py:197-268` and the ledger reads under it: the deployments, the
qualification days and the fills of a strategy. A history stamps every qualified session
and every fill with the identity that was deployed when it was recorded; the ledger keeps
no such stamp.

* `counted`: the counts as lists over the qualified dates.
* `forwardCounts_own_iff`: the counts of an identity are its own exactly when no session
  and no counted fill of the strategy is another identity's.
-/
namespace Quantbot.L3.Promotion

open Core L1 L2

/-! ## The ledger -/

/-- A row of `qualification_days` (storage/schema.py:283-290). -/
structure QualificationDay where
  strategyId : String
  tradingDate : Int
  qualified : Bool
  detail : String
deriving DecidableEq, Repr

abbrev DeploymentTable := Table StrategyIdentity fun i => (i.strategyId, i.version)
abbrev DayTable := Table QualificationDay fun d => (d.strategyId, d.tradingDate)

structure TradingLedger where
  deployments : DeploymentTable := .empty
  qualificationDays : DayTable := .empty
  store : Store := {}

namespace TradingLedger

/-- mirrors repositories.py:263-289 -/
def saveStrategyDeployment (identity : StrategyIdentity) (l : TradingLedger) :
    Except String TradingLedger :=
  match l.deployments.get? (identity.strategyId, identity.version) with
  | none => .ok { l with deployments := l.deployments.insert identity }
  | some row =>
    if row = identity then .ok l
    else .error ("strategy deployment " ++ identity.strategyId ++ ":" ++ identity.version ++
      " conflicts with stored data")

/-- A date that is observed again stays qualified once it was.
mirrors repositories.py:2132-2176 -/
def recordQualificationDay (day : QualificationDay) (l : TradingLedger) : TradingLedger :=
  match l.qualificationDays.get? (day.strategyId, day.tradingDate) with
  | none => { l with qualificationDays := l.qualificationDays.insert day }
  | some row =>
    if row = day then l
    else
      let observe (row : QualificationDay) : QualificationDay :=
        { row with qualified := row.qualified || day.qualified, detail := day.detail }
      { l with
        qualificationDays :=
          l.qualificationDays.modify (day.strategyId, day.tradingDate) observe fun _ h => h }

/-- mirrors repositories.py:2194-2210 -/
def listQualificationDays (l : TradingLedger) (strategyId : String) (qualified : Option Bool) :
    List QualificationDay :=
  (l.qualificationDays.rows.filter fun d =>
    d.strategyId = strategyId ∧ qualified.all (· = d.qualified)).insertionSort
      fun a b => a.tradingDate ≤ b.tradingDate

/-- The strategy and the signal date a fill is reached through. -/
def attribution (l : TradingLedger) (fill : Fill) : Option (String × Int) := do
  let order ← l.store.brokerOrders.get? fill.brokerOrderId
  let intent ← l.store.intentByClient order.clientOrderId
  pure (intent.strategyId, intent.signalDate)

/-- mirrors repositories.py:2221-2247 -/
def fillsBySignalDate (l : TradingLedger) (strategyId : String) (date : Int) : ℕ :=
  l.store.fills.rows.countP fun f => l.attribution f = some (strategyId, date)

end TradingLedger

/-! ## The observations -/

/-- The role is the one a forward observation must have.
mirrors promotion.py:141-161 -/
structure ForwardObservation where
  strategyId : String
  tradingDate : Int
  trades : ℕ
  strategyVersion : String
  configurationHash : String
deriving DecidableEq, Repr

/-- Every observation carries the identity that was asked for.
mirrors promotion.py:197-240 -/
def observeForwardDays (l : TradingLedger) (strategyId strategyVersion configurationHash : String) :
    List ForwardObservation :=
  match l.deployments.get? (strategyId, strategyVersion) with
  | none => []
  | some deployment =>
    if deployment.configurationHash ≠ configurationHash then []
    else (l.listQualificationDays strategyId (some true)).map fun day =>
      ⟨strategyId, day.tradingDate, l.fillsBySignalDate strategyId day.tradingDate,
        strategyVersion, configurationHash⟩

/-- mirrors promotion.py:243-268 -/
def countForwardDays (observations : List ForwardObservation)
    (strategyVersion configurationHash : String) : ℕ × ℕ :=
  let matching := observations.filter fun o =>
    o.strategyVersion = strategyVersion ∧ o.configurationHash = configurationHash
  ((matching.map ForwardObservation.tradingDate).dedup.length,
    (matching.map ForwardObservation.trades).sum)

/-! ## Histories -/

/-- A ledger with the identity deployed last for each strategy, the qualified sessions and
the fills, each with what was deployed when it was recorded. -/
structure History where
  ledger : TradingLedger := {}
  deployed : String → Option StrategyIdentity := fun _ => none
  sessions : List (String × Int × Option StrategyIdentity) := []
  taken : List (String × (String → Option StrategyIdentity)) := []

inductive Event
  | deploy (identity : StrategyIdentity)
  | session (day : QualificationDay)
  | intent (intent : OrderIntent)
  | order (order : BrokerOrder)
  | transition (intentId : String) (target expected : IntentState)
  | lifecycle (order : BrokerOrder)
  | fill (fill : Fill)

namespace History

/-- A call on the order tables that returns. -/
def onStore {α : Type} (h : History) (call : Repo α) : Option History :=
  match call h.ledger.store with
  | .ok _ store => some { h with ledger := { h.ledger with store := store } }
  | .error _ _ => none

/-- One event; one that raises is none. -/
def apply (h : History) : Event → Option History
  | .deploy identity =>
    match h.ledger.saveStrategyDeployment identity with
    | .error _ => none
    | .ok ledger => some { h with
        ledger := ledger
        deployed := fun s => if s = identity.strategyId then some identity else h.deployed s }
  | .session day => some { h with
      ledger := h.ledger.recordQualificationDay day
      sessions := if day.qualified then
          h.sessions ++ [(day.strategyId, day.tradingDate, h.deployed day.strategyId)]
        else h.sessions }
  | .intent intent => h.onStore (createOrderIntent intent)
  | .order order => h.onStore (saveBrokerOrder order)
  | .transition intentId target expected => h.onStore (transitionOrderIntent intentId target expected)
  | .lifecycle order => h.onStore (updateBrokerOrderLifecycle order)
  | .fill fill =>
    match recordFill fill h.ledger.store with
    | .error _ _ => none
    | .ok isNew store => some { h with
        ledger := { h.ledger with store := store }
        taken := if isNew then h.taken ++ [(fill.fillId, h.deployed)] else h.taken }

end History

/-- The histories of a ledger. -/
def ledgerHistories : LTS History Event where
  init h := h = {}
  step h e h' := h.apply e = some h'

/-! ## What is an identity's own -/

/-- The identity deployed was this one. -/
def isOwn (stamp : Option StrategyIdentity) (version configurationHash : String) : Bool :=
  stamp.any fun i => i.version = version ∧ i.configurationHash = configurationHash

section Own
variable (h : History) (strategyId version configurationHash : String)

/-- The sessions traded under the identity. -/
def ownDates : List Int :=
  ((h.sessions.filter fun x => x.1 = strategyId ∧ isOwn x.2.2 version configurationHash).map
    fun x => x.2.1).dedup

/-- The fill was taken under the identity. -/
def ownFill (fill : Fill) : Bool :=
  h.taken.any fun t => t.1 = fill.fillId ∧ isOwn (t.2 strategyId) version configurationHash

/-- The fills of a signal date that were taken under the identity. -/
def ownFills (date : Int) : ℕ :=
  h.ledger.store.fills.rows.countP fun f =>
    h.ledger.attribution f = some (strategyId, date) ∧
      ownFill h strategyId version configurationHash f

/-- Days and trades of the identity's own. -/
def ownCounts : ℕ × ℕ :=
  let dates := ownDates h strategyId version configurationHash
  (dates.length, (dates.map (ownFills h strategyId version configurationHash)).sum)

/-- Days and trades the two functions report for the identity. -/
def forwardCounts : ℕ × ℕ :=
  countForwardDays (observeForwardDays h.ledger strategyId version configurationHash) version
    configurationHash

/-- The dates the ledger has qualified for the strategy. -/
def qualifiedDates : List Int :=
  (h.ledger.listQualificationDays strategyId (some true)).map QualificationDay.tradingDate

/-- The identity is not deployed, or no qualified session and no fill of one is another
identity's. -/
def NoForeignEvidence : Prop :=
  ∀ d, h.ledger.deployments.get? (strategyId, version) = some d →
    d.configurationHash = configurationHash →
    (∀ date ∈ qualifiedDates h strategyId,
      date ∈ ownDates h strategyId version configurationHash) ∧
    ∀ fill ∈ h.ledger.store.fills.rows, ∀ date ∈ qualifiedDates h strategyId,
      h.ledger.attribution fill = some (strategyId, date) →
      ownFill h strategyId version configurationHash fill = true

end Own

/-! ## The counts as lists -/

section Counts
variable {h : History} {strategyId version configurationHash : String}

theorem mem_qualifiedDates {date : Int} : date ∈ qualifiedDates h strategyId ↔
      ∃ row, h.ledger.qualificationDays.get? (strategyId, date) = some row ∧
        row.qualified = true := by
  unfold qualifiedDates TradingLedger.listQualificationDays; rw [List.mem_map]
  constructor
  · rintro ⟨row, hrow, rfl⟩
    obtain ⟨hmem, hcond⟩ := List.mem_filter.1 ((List.perm_insertionSort _ _).subset hrow)
    obtain ⟨rfl, hq⟩ : row.strategyId = strategyId ∧ row.qualified = true := by simpa using hcond
    exact ⟨row, Table.get?_eq_some.2 ⟨hmem, rfl⟩, hq⟩
  · rintro ⟨row, hrow, hq⟩; obtain ⟨hmem, hkey⟩ := Table.get?_eq_some.1 hrow
    obtain ⟨rfl, rfl⟩ := Prod.mk.inj hkey
    refine ⟨row, (List.perm_insertionSort _ _).mem_iff.2 (List.mem_filter.2 ⟨hmem, ?_⟩), rfl⟩
    simp [hq]

theorem qualifiedDates_nodup : (qualifiedDates h strategyId).Nodup := by
  unfold qualifiedDates TradingLedger.listQualificationDays
  rw [((List.perm_insertionSort _ _).map _).nodup_iff]
  refine List.Nodup.map_on ?_ (List.Nodup.filter _ (List.Nodup.of_map _ h.ledger.qualificationDays.nodup))
  intro a ha b hb hdate; obtain ⟨hma, hca⟩ := List.mem_filter.1 ha
  obtain ⟨hmb, hcb⟩ := List.mem_filter.1 hb
  have hsa : a.strategyId = strategyId := (of_decide_eq_true hca).1
  have hsb : b.strategyId = strategyId := (of_decide_eq_true hcb).1
  exact Table.eq_of_key hma hmb (Prod.ext (hsa.trans hsb.symm) hdate)

theorem forwardCounts_undeployed
    (hnot : ∀ d, h.ledger.deployments.get? (strategyId, version) = some d →
      d.configurationHash ≠ configurationHash) :
    forwardCounts h strategyId version configurationHash = (0, 0) := by
  have hnil : observeForwardDays h.ledger strategyId version configurationHash = [] := by
    unfold observeForwardDays
    cases hd : h.ledger.deployments.get? (strategyId, version) with
    | none => rfl
    | some d => exact if_pos (hnot d hd)
  unfold forwardCounts; rw [hnil]; rfl

/-- **Deployed, an identity is credited with every qualified date of the strategy.** -/
theorem counted {d : StrategyIdentity}
    (hd : h.ledger.deployments.get? (strategyId, version) = some d)
    (hhash : d.configurationHash = configurationHash) :
    forwardCounts h strategyId version configurationHash = ((qualifiedDates h strategyId).length,
        ((qualifiedDates h strategyId).map (h.ledger.fillsBySignalDate strategyId)).sum) := by
  unfold forwardCounts observeForwardDays; simp only [hd]
  rw [if_neg (not_not.2 hhash)]; unfold countForwardDays
  simp only [List.filter_map, List.map_map]
  have hall : ∀ days : List QualificationDay,
      days.filter ((fun o : ForwardObservation => decide (o.strategyVersion = version ∧
        o.configurationHash = configurationHash)) ∘ fun day => (⟨strategyId, day.tradingDate,
          h.ledger.fillsBySignalDate strategyId day.tradingDate, version,
          configurationHash⟩ : ForwardObservation)) = days := by
    intro days; exact List.filter_eq_self.2 fun day _ => by simp
  rw [hall]
  have hdates : (h.ledger.listQualificationDays strategyId (some true)).map
      (ForwardObservation.tradingDate ∘ fun day => (⟨strategyId, day.tradingDate,
        h.ledger.fillsBySignalDate strategyId day.tradingDate, version,
        configurationHash⟩ : ForwardObservation)) = qualifiedDates h strategyId := rfl
  rw [hdates, List.dedup_eq_self.2 qualifiedDates_nodup]; unfold qualifiedDates
  rw [List.map_map]; rfl

end Counts

/-! ## What every history keeps -/

/-- The deployed identities are stored; a qualified session is a qualified row, and the
identity it was traded under is stored. -/
structure Stamped (h : History) : Prop where
  deployed : ∀ s i, h.deployed s = some i → h.ledger.deployments.get? (s, i.version) = some i
  dated : ∀ x ∈ h.sessions, x.2.1 ∈ qualifiedDates h x.1
  owned : ∀ x ∈ h.sessions, ∀ i ∈ x.2.2, h.ledger.deployments.get? (x.1, i.version) = some i

section Step
variable {h h' : History}

theorem Stamped.of_eq (hs : Stamped h) (hdep : h'.deployed = h.deployed)
    (hsessions : h'.sessions = h.sessions) (hrows : h'.ledger.deployments = h.ledger.deployments)
    (hdays : h'.ledger.qualificationDays = h.ledger.qualificationDays) : Stamped h' := by
  refine ⟨?_, ?_, ?_⟩
  · rw [hdep, hrows]; exact hs.deployed
  · rw [hsessions]; intro x hx; have := hs.dated x hx
    rw [mem_qualifiedDates] at this ⊢; rwa [hdays]
  · rw [hsessions, hrows]; exact hs.owned

theorem Stamped.onStore {α : Type} {call : Repo α} (hs : Stamped h)
    (hstep : h.onStore call = some h') : Stamped h' := by
  unfold History.onStore at hstep
  cases hcall : call h.ledger.store with
  | error e s => simp [hcall] at hstep
  | ok a s =>
    simp only [hcall] at hstep; cases hstep; exact hs.of_eq rfl rfl rfl rfl

variable {identity : StrategyIdentity}

theorem saveStrategyDeployment_ok {l l' : TradingLedger}
    (h : l.saveStrategyDeployment identity = .ok l') : l'.qualificationDays = l.qualificationDays ∧
      l'.deployments.get? (identity.strategyId, identity.version) = some identity ∧
      ∀ k row, l.deployments.get? k = some row → l'.deployments.get? k = some row := by
  unfold TradingLedger.saveStrategyDeployment at h
  cases hget : l.deployments.get? (identity.strategyId, identity.version) with
  | none =>
    simp only [hget] at h; cases h
    refine ⟨rfl, by simp [Table.get?_insert hget], ?_⟩; intro k row hrow
    exact Table.get?_kept (fun r hr => Table.mem_insert_of_mem hr) hrow
  | some row =>
    simp only [hget] at h; split at h
    · next heq =>
      cases h; exact ⟨rfl, heq ▸ hget, fun _ _ hrow => hrow⟩
    · simp at h

theorem Stamped.deploy (hs : Stamped h)
    (hstep : h.apply (.deploy identity) = some h') : Stamped h' := by
  unfold History.apply at hstep
  cases hsave : h.ledger.saveStrategyDeployment identity with
  | error e => simp [hsave] at hstep
  | ok l =>
    simp only [hsave] at hstep; cases hstep
    obtain ⟨hdays, hstored, hkept⟩ := saveStrategyDeployment_ok hsave
    refine ⟨?_, ?_, fun x hx i hi => hkept _ _ (hs.owned x hx i hi)⟩
    · intro s i hi; simp only at hi; split at hi
      · next heq =>
        cases hi; rw [heq]; exact hstored
      · exact hkept _ _ (hs.deployed s i hi)
    · intro x hx; have := hs.dated x hx; rw [mem_qualifiedDates] at this ⊢
      rwa [hdays]

/-- A qualified date stays qualified, and a qualified session qualifies its date. -/
theorem recordQualificationDay_get? (day : QualificationDay) (l : TradingLedger) (k : String × Int) :
    (∃ row, (l.recordQualificationDay day).qualificationDays.get? k = some row ∧
        row.qualified = true) ↔
      (∃ row, l.qualificationDays.get? k = some row ∧ row.qualified = true) ∨
        (k = (day.strategyId, day.tradingDate) ∧ day.qualified = true) := by
  unfold TradingLedger.recordQualificationDay
  cases hget : l.qualificationDays.get? (day.strategyId, day.tradingDate) with
  | none =>
    rw [Table.get?_insert hget]
    by_cases hk : (day.strategyId, day.tradingDate) = k
    · subst hk; simp [hget]
    · simp [hk, Ne.symm hk]
  | some row =>
    dsimp only; split
    · next heq =>
      subst heq; constructor
      · exact .inl
      rintro (hrow | ⟨rfl, hq⟩)
      · exact hrow
      · exact ⟨row, hget, hq⟩
    · dsimp only; rw [Table.get?_modify]
      by_cases hk : k = (day.strategyId, day.tradingDate)
      · subst hk; simp [hget]
      · simp [hk]

theorem recordQualificationDay_deployments (day : QualificationDay) (l : TradingLedger) :
    (l.recordQualificationDay day).deployments = l.deployments := by
  unfold TradingLedger.recordQualificationDay; split
  · rfl
  · split <;> rfl

theorem Stamped.session {day : QualificationDay} (hs : Stamped h)
    (hstep : h.apply (.session day) = some h') : Stamped h' := by
  cases hstep; have hrows := recordQualificationDay_deployments day h.ledger
  refine ⟨?_, ?_, ?_⟩
  · intro s i hi; rw [hrows]; exact hs.deployed s i hi
  · intro x hx; rw [mem_qualifiedDates]
    refine (recordQualificationDay_get? day h.ledger _).2 ?_; split at hx
    · next hq =>
      rcases List.mem_append.1 hx with hx | hx
      · exact .inl (mem_qualifiedDates.1 (hs.dated x hx))
      · rw [List.mem_singleton.1 hx]; exact .inr ⟨rfl, hq⟩
    · exact .inl (mem_qualifiedDates.1 (hs.dated x hx))
  · intro x hx i hi; rw [hrows]; split at hx
    · rcases List.mem_append.1 hx with hx | hx
      · exact hs.owned x hx i hi
      · rw [List.mem_singleton.1 hx] at hi ⊢; exact hs.deployed _ i hi
    · exact hs.owned x hx i hi

theorem Stamped.step {e : Event} (hs : Stamped h) (hstep : h.apply e = some h') : Stamped h' := by
  cases e with
  | deploy identity => exact hs.deploy hstep
  | session day => exact hs.session hstep
  | intent _ | order _ | transition _ _ _ | lifecycle _ => exact hs.onStore hstep
  | fill fill =>
    unfold History.apply at hstep
    cases hcall : recordFill fill h.ledger.store with
    | error e s => simp [hcall] at hstep
    | ok isNew s =>
      simp only [hcall] at hstep; cases hstep; exact hs.of_eq rfl rfl rfl rfl

end Step

theorem stamped_reachable {h : History} (hr : ledgerHistories.Reachable h) : Stamped h := by
  have hind : ledgerHistories.Inductive Stamped := by
    refine ⟨?_, fun s e s' hs hstep => hs.step hstep⟩; rintro s rfl
    exact ⟨fun _ _ h => by simp at h, fun x hx => absurd hx List.not_mem_nil,
      fun x hx => absurd hx List.not_mem_nil⟩
  exact hind.reachable hr

/-! ## When the counts are an identity's own -/

section Main
variable {h : History} {strategyId version configurationHash : String}

theorem mem_ownDates {date : Int} : date ∈ ownDates h strategyId version configurationHash ↔
      ∃ x ∈ h.sessions, x.1 = strategyId ∧ x.2.1 = date ∧
        isOwn x.2.2 version configurationHash = true := by
  unfold ownDates; rw [List.mem_dedup, List.mem_map]; constructor
  · rintro ⟨x, hx, rfl⟩; obtain ⟨hmem, hcond⟩ := List.mem_filter.1 hx
    obtain ⟨hs, hown⟩ := of_decide_eq_true hcond; exact ⟨x, hmem, hs, rfl, hown⟩
  · rintro ⟨x, hmem, hs, rfl, hown⟩
    exact ⟨x, List.mem_filter.2 ⟨hmem, decide_eq_true ⟨hs, hown⟩⟩, rfl⟩

theorem ownDates_undeployed (hs : Stamped h)
    (hnot : ∀ d, h.ledger.deployments.get? (strategyId, version) = some d →
      d.configurationHash ≠ configurationHash) :
    ownDates h strategyId version configurationHash = [] := by
  refine List.eq_nil_iff_forall_not_mem.2 fun date hdate => ?_
  obtain ⟨x, hx, rfl, -, hown⟩ := mem_ownDates.1 hdate
  obtain ⟨i, hi, hown⟩ := (Option.any_eq_true _ _).1 hown
  obtain ⟨rfl, hhash⟩ := of_decide_eq_true hown
  exact hnot i (hs.owned x hx i hi) hhash

theorem ownFills_le (date : Int) : ownFills h strategyId version configurationHash date ≤
      h.ledger.fillsBySignalDate strategyId date := by
  exact List.countP_mono_left fun f _ hf => decide_eq_true (of_decide_eq_true hf).1

theorem ownFills_eq_iff (date : Int) : ownFills h strategyId version configurationHash date =
        h.ledger.fillsBySignalDate strategyId date ↔ ∀ fill ∈ h.ledger.store.fills.rows,
        h.ledger.attribution fill = some (strategyId, date) →
        ownFill h strategyId version configurationHash fill = true := by
  unfold ownFills TradingLedger.fillsBySignalDate
  rw [countP_eq_iff fun f _ hf => decide_eq_true (of_decide_eq_true hf).1]
  constructor
  · intro hall fill hfill hattr
    exact (of_decide_eq_true (hall fill hfill (decide_eq_true hattr))).2
  · intro hall fill hfill hattr; have hattr := of_decide_eq_true hattr
    exact decide_eq_true ⟨hattr, hall fill hfill hattr⟩

/-- **An identity is credited with its own evidence and no other's** exactly when it is not
deployed, or every qualified session of the strategy and every fill of one was the
identity's. The counts are then those of a history without the others; where nothing was
traded under the identity, they are zero. -/
theorem forwardCounts_own_iff (hr : ledgerHistories.Reachable h) :
    forwardCounts h strategyId version configurationHash =
        ownCounts h strategyId version configurationHash ↔
      NoForeignEvidence h strategyId version configurationHash := by
  have hs := stamped_reachable hr
  by_cases hdeployed : ∃ d, h.ledger.deployments.get? (strategyId, version) = some d ∧
      d.configurationHash = configurationHash
  · obtain ⟨d, hd, hhash⟩ := hdeployed
    have hsub : ∀ date ∈ ownDates h strategyId version configurationHash,
        date ∈ qualifiedDates h strategyId := by
      intro date hdate; obtain ⟨x, hx, rfl, rfl, -⟩ := mem_ownDates.1 hdate
      exact hs.dated x hx
    have hnodup : (ownDates h strategyId version configurationHash).Nodup := List.nodup_dedup _
    have hle : ∀ date ∈ qualifiedDates h strategyId,
        ownFills h strategyId version configurationHash date ≤
          h.ledger.fillsBySignalDate strategyId date := fun date _ => ownFills_le date
    have hcounted := counted_eq_iff hnodup qualifiedDates_nodup hsub hle
    rw [counted hd hhash]; rw [Prod.mk.injEq]; refine hcounted.trans ?_
    constructor
    · rintro ⟨hdates, hfills⟩ d' - -; refine ⟨hdates, ?_⟩
      intro fill hfill date hdate hattr
      exact (ownFills_eq_iff date).1 (hfills date hdate) fill hfill hattr
    · intro hown; obtain ⟨hdates, hfills⟩ := hown d hd hhash
      refine ⟨hdates, fun date hdate => (ownFills_eq_iff date).2 ?_⟩
      intro fill hfill hattr; exact hfills fill hfill date hdate hattr
  · have hnot : ∀ d, h.ledger.deployments.get? (strategyId, version) = some d →
        d.configurationHash ≠ configurationHash := fun d hd hhash => hdeployed ⟨d, hd, hhash⟩
    refine iff_of_true ?_ fun d hd hhash => absurd hhash (hnot d hd)
    rw [forwardCounts_undeployed hnot]; unfold ownCounts
    rw [ownDates_undeployed hs hnot]; rfl

end Main

/-! ## A material change -/

def momentumIdentity (version configurationHash : String) : StrategyIdentity :=
  ⟨"adaptive-momentum", version, "4f2c1d9", configurationHash, 0⟩

def momentumIntent : OrderIntent where
  intentId := "i1"
  clientOrderId := "c1"
  strategyId := "adaptive-momentum"
  symbol := "SPY"
  signalDate := 20000
  side := .buy
  orderType := .market
  timeInForce := .day
  quantity := 1
  createdAt := 0
  quantity_pos := L1.unit_pos
  prices := ⟨rfl, rfl⟩

def momentumOrder : BrokerOrder where
  brokerOrderId := "b1"
  clientOrderId := "c1"
  symbol := "SPY"
  side := .buy
  orderType := .market
  timeInForce := .day
  quantity := 1
  filledQuantity := 0
  status := "new"
  submittedAt := 0
  quantity_pos := L1.unit_pos
  filled_nonneg := L1.nil_nonneg
  filled_le := L1.unit_nonneg

def momentumFill : Fill where
  fillId := "f1"
  brokerOrderId := "b1"
  symbol := "SPY"
  side := .buy
  quantity := 1
  price := 100
  occurredAt := 0
  quantity_pos := L1.unit_pos
  price_pos := L1.hundred_pos
  fee_nonneg := L1.fee_absent
  fee_valid := L1.fee_unknown

/-- One session and one fill under 1.3.0. -/
def tradedEvents : List Event :=
  [.deploy (momentumIdentity "1.3.0" "cfg-abc"), .intent momentumIntent, .order momentumOrder,
    .fill momentumFill, .session ⟨"adaptive-momentum", 20000, true, ""⟩]

/-- The same order, neither filled nor observed, and the change to 1.4.0. -/
def untradedEvents : List Event :=
  [.deploy (momentumIdentity "1.3.0" "cfg-abc"), .intent momentumIntent, .order momentumOrder,
    .deploy (momentumIdentity "1.4.0" "cfg-def")]

theorem forwardCounts_own_iff_traded :
    ∃ h, forwardCounts h "adaptive-momentum" "1.3.0" "cfg-abc" = (1, 1) ∧
      (forwardCounts h "adaptive-momentum" "1.3.0" "cfg-abc" =
        ownCounts h "adaptive-momentum" "1.3.0" "cfg-abc" ↔
        NoForeignEvidence h "adaptive-momentum" "1.3.0" "cfg-abc") := by
  have hrun : (tradedEvents.foldlM History.apply {}).map
      (fun h => forwardCounts h "adaptive-momentum" "1.3.0" "cfg-abc") = some (1, 1) := by
    decide
  obtain ⟨h, hh, hcounts⟩ := Option.map_eq_some_iff.1 hrun
  exact ⟨h, hcounts, forwardCounts_own_iff
    ⟨{}, _, rfl, LTS.Run.of_foldlM (fun _ _ _ h => h) hh⟩⟩

/-- **Inherited evidence**: after a change from 1.3.0 to 1.4.0 the new identity is credited
with the session and the fill of the old one; without that session it has none. -/
theorem new_identity_inherits : ∃ h h', ledgerHistories.Reachable h ∧ ledgerHistories.Reachable h' ∧
      ownCounts h "adaptive-momentum" "1.4.0" "cfg-def" = (0, 0) ∧
      ownCounts h' "adaptive-momentum" "1.4.0" "cfg-def" = (0, 0) ∧
      forwardCounts h "adaptive-momentum" "1.4.0" "cfg-def" = (1, 1) ∧
      forwardCounts h' "adaptive-momentum" "1.4.0" "cfg-def" = (0, 0) := by
  have hrun : ((tradedEvents ++ [Event.deploy (momentumIdentity "1.4.0" "cfg-def")]).foldlM
      History.apply {}).map (fun h => (ownCounts h "adaptive-momentum" "1.4.0" "cfg-def",
        forwardCounts h "adaptive-momentum" "1.4.0" "cfg-def")) = some ((0, 0), (1, 1)) := by
    decide
  have hrun' : (untradedEvents.foldlM History.apply {}).map
      (fun h => (ownCounts h "adaptive-momentum" "1.4.0" "cfg-def",
        forwardCounts h "adaptive-momentum" "1.4.0" "cfg-def")) = some ((0, 0), (0, 0)) := by
    decide
  obtain ⟨h, hh, hcounts⟩ := Option.map_eq_some_iff.1 hrun
  obtain ⟨h', hh', hcounts'⟩ := Option.map_eq_some_iff.1 hrun'
  obtain ⟨hown, hall⟩ := Prod.mk.inj hcounts
  obtain ⟨hown', hall'⟩ := Prod.mk.inj hcounts'
  exact ⟨h, h', ⟨{}, _, rfl, LTS.Run.of_foldlM (fun _ _ _ h => h) hh⟩,
    ⟨{}, _, rfl, LTS.Run.of_foldlM (fun _ _ _ h => h) hh'⟩, hown, hown', hall, hall'⟩

end Quantbot.L3.Promotion
