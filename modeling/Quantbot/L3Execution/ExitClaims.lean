import Quantbot.L3Execution.SingleSender

/-!
# Exit claims

`_claim_exit` of `execution/coordinator.py` among any number of claimants. An exit
is any intent of a caller-chosen set; it is claimed once it has left
`RISK_APPROVED`, until it is terminal. The claims of a run are transactions of
`claimExit`; every other transaction (fills, acknowledgements, recovery, refusals,
new requests) may do anything a ledger transaction does, except claim an exit.

* `exit_claims`: in every reachable ledger a reducing side has at most one claimed
  exit, and whenever requests contend for a side with none claimed, the oldest of
  them is claimable and no other is.
-/
namespace Quantbot.L3

open Core L1 L2 Txn

/-! ## Contenders -/

/-- Out of `RISK_APPROVED` and not terminal. -/
def Claimed (i : OrderIntent) : Prop := i.state ≠ .riskApproved ∧ i.state ∉ terminalIntentStates
deriving Decidable

/-- The unresolved requests of a side. -/
def contenders (s : Store) (symbol : String) (side : OrderSide) : List OrderIntent :=
  s.unresolvedIntents.filter fun i => decide (i.symbol = symbol ∧ i.side = side)

/-- What prepared requests are ordered by. -/
def priority (i : OrderIntent) : Int ×ₗ String := toLex (i.createdAt, i.intentId)

/-- A claim of the request returns. -/
def Claimable (s : Store) (i : OrderIntent) : Prop := ∃ r s', claimExit i s = .ok r s'

variable {i : OrderIntent} {s s' : Store} {side : OrderSide} {symbol : String}

theorem mem_contenders :
    i ∈ contenders s symbol side ↔ i ∈ s.orderIntents.rows ∧ i.state ∉ terminalIntentStates ∧
      i.symbol = symbol ∧ i.side = side := by
  simp only [contenders, Store.unresolvedIntents, List.mem_filter, decide_eq_true_eq, and_assoc]

theorem competingExit_eq_false {p : OrderIntent} (hsymbol : p.symbol = i.symbol)
    (hside : p.side = i.side) (hid : p.intentId ≠ i.intentId) : competingExit p i = false ↔
      p.state = .riskApproved ∧ (i.state = .riskApproved → priority i ≤ priority p) := by
  have hsame : ¬ (p.symbol ≠ i.symbol ∨ p.side ≠ i.side ∨ p.intentId = i.intentId) := by
    simp [hsymbol, hside, hid]
  unfold competingExit; rw [if_neg hsame]; by_cases hp : p.state = .riskApproved
  · rw [if_pos hp, decide_eq_false_iff_not, not_and, not_lt]
    exact (and_iff_right hp).symm
  · rw [if_neg hp]; exact iff_of_false (by simp) fun h => hp h.1

/-! ## What a claim does -/

/-- A claim that returns met no claimed request of its side, and only its own request
is changed: it was prepared and is claimed now. -/
theorem claimExit_ok {intent r : OrderIntent} (h : claimExit intent s = .ok r s') :
    (∀ p ∈ s.unresolvedIntents, competingExit p intent = false) ∧
    intent.state = .riskApproved ∧ (∀ i, i ≠ intent.intentId →
      s'.orderIntents.get? i = s.orderIntents.get? i) ∧
    s'.orderIntents.get? intent.intentId = some (intent.withState .orderCreated) := by
  unfold claimExit at h; simp only [bind_ok, get_ok, require_ok] at h
  obtain ⟨t, s₁, ⟨rfl, rfl⟩, _, s₂, ⟨hfree, rfl⟩, h⟩ := h
  have hfree : ∀ p ∈ s₂.unresolvedIntents, competingExit p intent = false := by
    simpa using hfree
  refine ⟨hfree, ?_⟩
  cases hrow : s₂.orderIntents.get? intent.intentId with
  | none =>
    rw [hrow] at h; obtain ⟨_, s₃, hcreate, htrans⟩ := bind_ok.1 h
    rcases createOrderIntent_ok (stored_ok.1 hcreate) with ⟨_, hsome, _⟩ | ⟨_, _, hclient, rfl⟩
    · rw [hrow] at hsome; cases hsome
    have hget : ∀ i, (s₂.orderIntents.insert intent).get? i =
        if i = intent.intentId then some intent else s₂.orderIntents.get? i := fun i => by
      rw [UTable.insert_toTable hrow hclient, Table.get?_insert hrow]
      exact if_congr eq_comm rfl rfl
    obtain ⟨row, hstored, hstate, _, _, rfl⟩ := transitionOrderIntent_ok (stored_ok.1 htrans)
    have hrow' : row = intent := by
      rw [hget, if_pos rfl] at hstored; exact (Option.some.inj hstored).symm
    subst hrow'; refine ⟨hstate, fun i hi => ?_, ?_⟩
    · rw [setState_get?, if_neg hi]; rw [hget, if_neg hi]
    · rw [setState_get?, if_pos rfl]; rw [hget, if_pos rfl]; rfl
  | some existing =>
    rw [hrow] at h; simp only [bind_ok, require_ok] at h
    obtain ⟨_, s₃, ⟨rfl, rfl⟩, htrans⟩ := h
    obtain ⟨row, hstored, hstate, _, _, rfl⟩ := transitionOrderIntent_ok (stored_ok.1 htrans)
    rw [hrow] at hstored; cases hstored; refine ⟨hstate, fun i hi => ?_, ?_⟩
    · rw [setState_get?, if_neg hi]
    · rw [setState_get?, if_pos rfl, hrow]; rfl

theorem claimable_iff (hrow : s.orderIntents.get? i.intentId = some i)
    (hstate : i.state = .riskApproved) :
    Claimable s i ↔ ∀ p ∈ s.unresolvedIntents, competingExit p i = false := by
  refine ⟨fun ⟨_, _, h⟩ => (claimExit_ok h).1, fun hfree => ?_⟩
  have hcond : ¬ (s.unresolvedIntents.any fun p => competingExit p i) := by simpa using hfree
  have hallowed : Allowed i.state .orderCreated := by rw [hstate]; decide
  have htrans := transitionOrderIntent_run hrow hallowed; rw [hstate] at htrans
  refine ⟨i.withState .orderCreated, s.setState i.intentId .orderCreated,
    bind_ok.2 ⟨s, s, get_ok.2 ⟨rfl, rfl⟩, bind_ok.2 ⟨⟨⟩, s,
    require_ok.2 ⟨hcond, rfl⟩, ?_⟩⟩⟩
  rw [hrow]
  exact bind_ok.2 ⟨⟨⟩, s, require_ok.2 ⟨rfl, rfl⟩, stored_ok.2 htrans⟩

/-! ## Runs -/

inductive ClaimLabel
  | claim (intent : OrderIntent)
  | write

/-- A claim, committed or rolled back, or any transaction that claims no exit. -/
inductive ClaimStep (isExit : String → Prop) : Store → ClaimLabel → Store → Prop
  | claim (s : Store) (intent : OrderIntent) :
      ClaimStep isExit s (.claim intent) (after (immediate (claimExit intent)) s)
  | write {s s' : Store} (evolves : Evolves s s')
      (claims : ∀ i ∈ s'.orderIntents.rows, isExit i.intentId → Claimed i →
        ∃ j, s.orderIntents.get? i.intentId = some j ∧ Claimed j) :
      ClaimStep isExit s .write s'

/-- Exits are claimed by `claimExit` only; a run starts with none claimed. -/
def exitClaims (isExit : String → Prop) : LTS Store ClaimLabel where
  init s := ∀ i ∈ s.orderIntents.rows, isExit i.intentId → ¬ Claimed i
  step := ClaimStep isExit

/-- A reducing side has at most one claimed exit. -/
def Exclusive (isExit : String → Prop) (s : Store) : Prop :=
  ∀ i ∈ s.orderIntents.rows, ∀ j ∈ s.orderIntents.rows, isExit i.intentId → isExit j.intentId →
    Claimed i → Claimed j → i.symbol = j.symbol → i.side = j.side → i = j

theorem evolved_row (h : Evolves s s') {j : OrderIntent} (hi : i ∈ s'.orderIntents.rows)
    (hj : s.orderIntents.get? i.intentId = some j) : ∃ q, i = j.withState q := by
  obtain ⟨q, hq, _⟩ := h.intents _ _ hj
  have hrow : s'.orderIntents.get? i.intentId = some i := Table.get?_key.2 hi
  rw [hrow] at hq; exact ⟨q, Option.some.inj hq⟩

variable {isExit : String → Prop}

/-- **Write step.** -/
theorem exclusive_write {s s' : Store} (h : Exclusive isExit s) (evolves : Evolves s s')
    (claims : ∀ i ∈ s'.orderIntents.rows, isExit i.intentId → Claimed i →
      ∃ j, s.orderIntents.get? i.intentId = some j ∧ Claimed j) : Exclusive isExit s' := by
  intro i hi j hj hei hej hci hcj hsymbol hside
  obtain ⟨i₀, hi₀, hci₀⟩ := claims i hi hei hci
  obtain ⟨j₀, hj₀, hcj₀⟩ := claims j hj hej hcj
  obtain ⟨hmi, hki⟩ := Table.get?_some hi₀
  obtain ⟨hmj, hkj⟩ := Table.get?_some hj₀
  obtain ⟨q, hq⟩ := evolved_row evolves hi hi₀
  obtain ⟨r, hr⟩ := evolved_row evolves hj hj₀
  have hsame : i₀ = j₀ := by
    refine h i₀ hmi j₀ hmj (hki ▸ hei) (hkj ▸ hej) hci₀ hcj₀ ?_ ?_
    · rw [hq, hr] at hsymbol; exact hsymbol
    · rw [hq, hr] at hside; exact hside
  have hid : i.intentId = j.intentId := by rw [← hki, ← hkj, hsame]
  exact s'.orderIntents.eq_of_key hi hj hid

/-- **Claim step.** A claim that returns met no claimed request of its side. -/
theorem exclusive_claim {intent r : OrderIntent} (h : Exclusive isExit s)
    (hclaim : claimExit intent s = .ok r s') : Exclusive isExit s' := by
  obtain ⟨hfree, hstate, hother, hmine⟩ := claimExit_ok hclaim
  -- a claimed row other than the claimant's is a row of the ledger before, on another side
  have hrow : ∀ i ∈ s'.orderIntents.rows, i.intentId ≠ intent.intentId →
      i ∈ s.orderIntents.rows := by
    intro i hi hid
    have hget : s'.orderIntents.get? i.intentId = some i := Table.get?_key.2 hi
    rw [hother _ hid] at hget; exact (Table.get?_some hget).1
  have hmine' : ∀ i ∈ s'.orderIntents.rows, i.intentId = intent.intentId →
      i = intent.withState .orderCreated := by
    intro i hi hid
    have hget : s'.orderIntents.get? i.intentId = some i := Table.get?_key.2 hi
    rw [hid, hmine] at hget; exact (Option.some.inj hget).symm
  have hclash : ∀ i ∈ s'.orderIntents.rows, i.intentId ≠ intent.intentId → Claimed i →
      ¬ (i.symbol = intent.symbol ∧ i.side = intent.side) := by
    rintro i hi hid ⟨hprepared, hopen⟩ ⟨hsymbol, hside⟩
    have hpending : i ∈ s.unresolvedIntents :=
      List.mem_filter.2 ⟨hrow i hi hid, decide_eq_true hopen⟩
    exact hprepared ((competingExit_eq_false hsymbol hside hid).1 (hfree i hpending)).1
  intro i hi j hj hei hej hci hcj hsymbol hside
  by_cases hid : i.intentId = intent.intentId
  · by_cases hjd : j.intentId = intent.intentId
    · exact s'.orderIntents.eq_of_key hi hj (hid.trans hjd.symm)
    refine absurd ⟨?_, ?_⟩ (hclash j hj hjd hcj)
    · rw [← hsymbol, hmine' i hi hid]; rfl
    · rw [← hside, hmine' i hi hid]; rfl
  · by_cases hjd : j.intentId = intent.intentId
    · refine absurd ⟨?_, ?_⟩ (hclash i hi hid hci)
      · rw [hsymbol, hmine' j hj hjd]; rfl
      · rw [hside, hmine' j hj hjd]; rfl
    · exact h i (hrow i hi hid) j (hrow j hj hjd) hei hej hci hcj hsymbol hside

theorem exclusive_inductive (isExit : String → Prop) :
    (exitClaims isExit).Inductive (Exclusive isExit) where
  init := fun _ hinit i hi _ _ hei _ hci => absurd hci (hinit i hi hei)
  step := by
    intro s l s' h hst
    cases hst with
    | claim intent =>
      unfold Txn.after
      cases hc : immediate (claimExit intent) s with
      | ok r s' => exact exclusive_claim h (immediate_ok.1 hc)
      | error e s' =>
        rw [immediate_error hc]
        exact h
    | write evolves claims => exact exclusive_write h evolves claims

/-! ## Progress -/

theorem priority_injective {j : OrderIntent} (hi : i ∈ s.orderIntents.rows)
    (hj : j ∈ s.orderIntents.rows) (h : priority i = priority j) : i = j := by
  have hid : (ofLex (priority i)).2 = (ofLex (priority j)).2 := by rw [h]
  exact s.orderIntents.eq_of_key hi hj hid

theorem claimable_iff_oldest (hprepared : ∀ p ∈ contenders s symbol side, p.state = .riskApproved)
    (hi : i ∈ contenders s symbol side) :
    Claimable s i ↔ ∀ p ∈ contenders s symbol side, priority i ≤ priority p := by
  obtain ⟨hrow, hopen, hsymbol, hside⟩ := mem_contenders.1 hi
  rw [claimable_iff (Table.get?_key.2 hrow) (hprepared i hi)]; constructor
  · intro hfree p hp
    obtain ⟨hprow, hpopen, hpsymbol, hpside⟩ := mem_contenders.1 hp
    by_cases hid : p.intentId = i.intentId
    · rw [s.orderIntents.eq_of_key hprow hrow hid]
    have hfalse := hfree p (List.mem_filter.2 ⟨hprow, decide_eq_true hpopen⟩)
    exact ((competingExit_eq_false (hpsymbol.trans hsymbol.symm) (hpside.trans hside.symm)
      hid).1 hfalse).2 (hprepared i hi)
  · intro hleast p hp; obtain ⟨hprow, hpopen⟩ := List.mem_filter.1 hp
    by_cases hsame : p.symbol = i.symbol ∧ p.side = i.side ∧ p.intentId ≠ i.intentId
    · obtain ⟨hps, hpd, hid⟩ := hsame
      have hmem : p ∈ contenders s symbol side :=
        mem_contenders.2 ⟨hprow, of_decide_eq_true hpopen, hps.trans hsymbol, hpd.trans hside⟩
      exact (competingExit_eq_false hps hpd hid).2 ⟨hprepared p hmem, fun _ => hleast p hmem⟩
    unfold competingExit; rw [if_pos]; by_cases hps : p.symbol = i.symbol
    · by_cases hpd : p.side = i.side
      · exact .inr (.inr (not_not.1 fun hid => hsame ⟨hps, hpd, hid⟩))
      · exact .inr (.inl hpd)
    · exact .inl hps

theorem exists_oldest {l : List OrderIntent} (h : l ≠ []) :
    ∃ i ∈ l, ∀ p ∈ l, priority i ≤ priority p := by
  induction l with
  | nil => exact absurd rfl h
  | cons a l ih =>
    by_cases hl : l = []
    · exact ⟨a, List.mem_cons_self, by simp [hl]⟩
    obtain ⟨i, hi, hleast⟩ := ih hl
    rcases le_total (priority a) (priority i) with hle | hle
    · refine ⟨a, List.mem_cons_self, fun p hp => ?_⟩
      rcases List.mem_cons.1 hp with rfl | hp
      · exact le_refl _
      · exact hle.trans (hleast p hp)
    · refine ⟨i, List.mem_cons_of_mem a hi, fun p hp => ?_⟩
      rcases List.mem_cons.1 hp with rfl | hp
      · exact hle
      · exact hleast p hp

/-- **Exit claims are exclusive and progress.** In every reachable ledger a reducing
side has at most one claimed exit; and in every ledger where requests contend for a
side and none of them is claimed, one contender is the oldest, and it alone is
claimable. -/
theorem exit_claims (isExit : String → Prop) :
    (∀ s, (exitClaims isExit).Reachable s → Exclusive isExit s) ∧
    (∀ s symbol side, contenders s symbol side ≠ [] →
      (∀ i ∈ contenders s symbol side, i.state = .riskApproved) →
      ∃ w ∈ contenders s symbol side, (∀ i ∈ contenders s symbol side, priority w ≤ priority i) ∧
        ∀ i ∈ contenders s symbol side, Claimable s i ↔ i = w) := by
  refine ⟨fun s hs => (exclusive_inductive isExit).reachable hs, ?_⟩
  intro s symbol side hne hprepared; obtain ⟨w, hw, hleast⟩ := exists_oldest hne
  refine ⟨w, hw, hleast, fun i hi => ?_⟩; rw [claimable_iff_oldest hprepared hi]
  constructor
  · intro hi'
    have heq : priority i = priority w := le_antisymm (hi' w hw) (hleast i hi)
    exact priority_injective (mem_contenders.1 hi).1 (mem_contenders.1 hw).1 heq
  · rintro rfl; exact hleast

/-- Two exits of one position prepared at one time: the lesser id is claimed, and the
other one is then refused. -/
def preparedExit (intentId clientOrderId : String) : OrderIntent :=
  { createdIntent with
    intentId := intentId, clientOrderId := clientOrderId, side := .sell, state := .riskApproved }

def preparedStore : Store :=
  { orderIntents := (UTable.empty.insert (preparedExit "i2" "qb-2")).insert
      (preparedExit "i1" "qb-1") }

theorem exit_claims_prepared : (∃ w ∈ contenders preparedStore "SPY" .sell,
      (∀ i ∈ contenders preparedStore "SPY" .sell, priority w ≤ priority i) ∧
      ∀ i ∈ contenders preparedStore "SPY" .sell, Claimable preparedStore i ↔ i = w) ∧
    Exclusive (fun _ => True)
      (after (immediate (claimExit (preparedExit "i1" "qb-1"))) preparedStore) := by
  obtain ⟨hexclusive, hprogress⟩ := exit_claims fun _ => True
  refine ⟨hprogress preparedStore "SPY" .sell (by decide) (by decide), ?_⟩
  refine hexclusive _ ⟨preparedStore, [.claim (preparedExit "i1" "qb-1")], ?_,
    .cons (.claim preparedStore _) (.nil _)⟩
  intro i hi _ hclaimed
  have hprepared : ∀ i ∈ preparedStore.orderIntents.rows, i.state = .riskApproved := by
    decide
  exact hclaimed.1 (hprepared i hi)

end Quantbot.L3
