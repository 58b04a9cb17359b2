import Quantbot.L4PaperCore.OversoldRuns

/-!
# The exit guard against the guardian

`owned_exit_objections` takes from what a lot bought what its exits have sold and what the
others have left, as far as they are in `pendingExitStates`. A guardian cycle takes what
every other exit has left unless it is definitively unsent or its order is closed.

Results:
* `guard_sums`, `held_sums`: what the two loops add up.
* `guard_suffices_iff`: when the guard alone leaves room for every exit that is open.
* `accepted_oversold`: an accepted exit the guard does not count.
-/
namespace Quantbot.L4

open Core L1 L2 L3 Txn

/-! ## The sums -/

/-- What one exit has sold. -/
def soldBy (s : CoreStore) (link : IntentLink) : ℚ :=
  match s.intentOf link with
  | none => 0
  | some exit => s.filledByClient exit.clientOrderId

/-- What the guard takes for an exit beside its fills. -/
def countedBy (s : CoreStore) (link : IntentLink) : ℚ :=
  match s.intentOf link with
  | none => 0
  | some exit =>
    if exit.state ∈ pendingExitStates then exit.quantity - s.filledByClient exit.clientOrderId
    else 0

/-- The exit may still be filled: it is neither definitively unsent nor closed. -/
def OpenExit (s : CoreStore) (now : Int) (exit : OrderIntent) : Prop :=
  definitivelyUnsent s.toStore exit.intentId = false ∧ s.exitClosed exit.clientOrderId now = false
deriving Decidable

/-- What an open exit may still sell. -/
def openBy (s : CoreStore) (now : Int) (link : IntentLink) : ℚ :=
  match s.intentOf link with
  | none => 0
  | some exit =>
    if OpenExit s now exit then exit.quantity - s.filledByClient exit.clientOrderId else 0

/-- The exits of a lot but one. -/
def CoreStore.otherExits (s : CoreStore) (lot intentId : String) : List IntentLink :=
  (s.linksOf lot .exit).filter fun l => decide (l.intentId ≠ intentId)

def CoreStore.soldOf (s : CoreStore) (lot : String) : ℚ := ((s.linksOf lot .exit).map (soldBy s)).sum

def CoreStore.countedOf (s : CoreStore) (lot intentId : String) : ℚ :=
  ((s.otherExits lot intentId).map (countedBy s)).sum

def CoreStore.openOf (s : CoreStore) (now : Int) (lot intentId : String) : ℚ :=
  ((s.otherExits lot intentId).map (openBy s now)).sum

section Sums

variable {s : CoreStore} {now : Int} {i : String} {link : IntentLink}

theorem intentOf_id {row : OrderIntent} (h : s.intentOf link = some row) :
    row.intentId = link.intentId := (Table.get?_some h).2

theorem ownedAfter_eq {owned after : ℚ} (h : ownedAfter s i owned link = some after) :
    (s.intentOf link).isSome ∧
      after = owned - soldBy s link - if link.intentId ≠ i then countedBy s link else 0 := by
  obtain ⟨exit, hexit, rfl⟩ := Option.map_eq_some_iff.1 h
  refine ⟨by rw [hexit]; rfl, ?_⟩; unfold soldBy countedBy
  rw [hexit, ← intentOf_id hexit]; dsimp only
  by_cases hother : exit.intentId ≠ i
  · by_cases hpending : exit.state ∈ pendingExitStates
    · rw [if_pos ⟨hother, hpending⟩, if_pos hother, if_pos hpending]
    · rw [if_neg fun h => hpending h.2, if_pos hother, if_neg hpending, sub_zero]
  · rw [if_neg fun h => hother h.1, if_neg hother, sub_zero]

theorem sum_filter_others (f : IntentLink → ℚ) (links : List IntentLink) :
    ((links.filter fun l => decide (l.intentId ≠ i)).map f).sum =
      (links.map fun l => if l.intentId ≠ i then f l else 0).sum := by
  induction links with
  | nil => rfl
  | cons l links ih =>
    by_cases h : l.intentId = i
    · simpa [h] using ih
    · simpa [h] using ih

variable {lot : String}

/-- **The guard's loop.** -/
theorem guard_sums {bought owned : ℚ}
    (h : (s.linksOf lot .exit).foldlM (ownedAfter s i) bought = some owned) :
    (∀ l ∈ s.linksOf lot .exit, (s.intentOf l).isSome) ∧
      owned = bought - s.soldOf lot - s.countedOf lot i := by
  unfold CoreStore.soldOf CoreStore.countedOf CoreStore.otherExits
  rw [sum_filter_others]; generalize s.linksOf lot .exit = links at h ⊢
  induction links generalizing bought with
  | nil =>
    cases h; exact ⟨nofun, by simp⟩
  | cons link links ih =>
    obtain ⟨after, hone, hrest⟩ := Option.bind_eq_some_iff.1 h
    obtain ⟨hsome, hafter⟩ := ownedAfter_eq hone
    obtain ⟨hall, howned⟩ := ih hrest; refine ⟨fun l hl => ?_, ?_⟩
    · rcases List.mem_cons.1 hl with rfl | hl
      · exact hsome
      · exact hall l hl
    · simp only [List.map_cons, List.sum_cons]; linarith

theorem guard_sums_exists (bought : ℚ) (h : ∀ l ∈ s.linksOf lot .exit, (s.intentOf l).isSome) :
    (s.linksOf lot .exit).foldlM (ownedAfter s i) bought =
      some (bought - s.soldOf lot - s.countedOf lot i) := by
  obtain ⟨owned, howned⟩ : ∃ owned,
      (s.linksOf lot .exit).foldlM (ownedAfter s i) bought = some owned := by
    generalize s.linksOf lot .exit = links at h ⊢
    induction links generalizing bought with
    | nil => exact ⟨bought, rfl⟩
    | cons link links ih =>
      obtain ⟨exit, hexit⟩ := Option.isSome_iff_exists.1 (h link List.mem_cons_self)
      obtain ⟨owned, howned⟩ := ih _ fun l hl => h l (List.mem_cons_of_mem _ hl)
      refine ⟨owned, ?_⟩; rw [List.foldlM_cons]; unfold ownedAfter at *
      rw [hexit]; exact howned
  rw [howned, (guard_sums howned).2]

theorem heldLink_eq {acc held : ExitsHeld} (h : heldLink s now acc link = some held) :
    held.exited = acc.exited + soldBy s link ∧ held.reserved = acc.reserved + openBy s now link := by
  obtain ⟨exit, hexit, rfl⟩ := Option.map_eq_some_iff.1 h; unfold soldBy openBy
  rw [hexit]; dsimp only
  by_cases hunsent : definitivelyUnsent s.toStore exit.intentId = true
  · -- what was never sent has no order, so nothing is filled
    obtain ⟨row, hrow, hnone, _⟩ := definitivelyUnsent_iff.1 hunsent
    have hsame : row = exit := by
      have hget : s.orderIntents.get? link.intentId = some exit := hexit
      rw [intentOf_id hexit, hget] at hrow; exact (Option.some.inj hrow).symm
    have hzero : s.filledByClient exit.clientOrderId = 0 := by
      unfold CoreStore.filledByClient; rw [← hsame, hnone]
    have hnot : ¬ OpenExit s now exit := fun h => Bool.false_ne_true (h.1.symm.trans hunsent)
    rw [if_pos hunsent, if_neg hnot, hzero, add_zero, add_zero]
    exact ⟨rfl, rfl⟩
  · rw [if_neg hunsent]
    by_cases hclosed : s.exitClosed exit.clientOrderId now = true
    · have hnot : ¬ OpenExit s now exit := fun h => Bool.false_ne_true (h.2.symm.trans hclosed)
      rw [if_neg hnot, add_zero]; exact ⟨rfl, if_pos hclosed⟩
    · have hopen : OpenExit s now exit :=
        ⟨Bool.eq_false_of_not_eq_true hunsent, Bool.eq_false_of_not_eq_true hclosed⟩
      rw [if_pos hopen]; exact ⟨rfl, if_neg hclosed⟩

/-- **The guardian's loop.** -/
theorem held_sums {held : ExitsHeld}
    (h : (s.linksOf lot .exit).foldlM (heldLink s now) {} = some held) :
    held.exited = s.soldOf lot ∧
      held.reserved = ((s.linksOf lot .exit).map (openBy s now)).sum := by
  unfold CoreStore.soldOf
  have hgeneral : ∀ (links : List IntentLink) (acc : ExitsHeld),
      links.foldlM (heldLink s now) acc = some held →
        held.exited = acc.exited + (links.map (soldBy s)).sum ∧
        held.reserved = acc.reserved + (links.map (openBy s now)).sum := by
    intro links
    induction links with
    | nil =>
      intro acc h; cases h; simp
    | cons link links ih =>
      intro acc h; obtain ⟨after, hone, hrest⟩ := Option.bind_eq_some_iff.1 h
      obtain ⟨hexited, hreserved⟩ := heldLink_eq hone
      obtain ⟨hexited', hreserved'⟩ := ih after hrest
      rw [List.map_cons, List.sum_cons, List.map_cons, List.sum_cons]
      constructor
      · linarith
      · linarith
  obtain ⟨hexited, hreserved⟩ := hgeneral _ _ h
  exact ⟨by rw [hexited, zero_add], by rw [hreserved, zero_add]⟩

end Sums

/-! ## When the guard suffices -/

section Guard

variable (plan? : String → Option ProtectionPlan) (s : CoreStore) (now : Int) (i : String)

/-- The lot's entry as the guard finds it for the exit: its link, its plan and its intent. -/
structure OwnedLot (link entry : IntentLink) (plan : ProtectionPlan) (original : OrderIntent) :
    Prop where
  linked : s.linkIn .exit i = some link
  planned : plan? link.protectionId = some plan
  entered : (s.linksOf link.lotId .entry).head? = some entry
  requested : s.intentOf entry = some original
  owner : original.strategyId = plan.owner
  exits : ∀ l ∈ s.linksOf link.lotId .exit, (s.intentOf l).isSome

/-- The guard lets an exit through. -/
def GuardAdmits (intent : OrderIntent) : Prop := Returns (ownedExitObjections plan? intent) s []

/-- Whatever exit under the id the guard lets through, it fits beside everything the lot's
exits have sold and what the other open ones may still sell. -/
def GuardSuffices : Prop :=
  ∀ intent, intent.intentId = i → GuardAdmits plan? s intent →
    ∀ link entry plan original, OwnedLot plan? s i link entry plan original →
      intent.quantity + s.soldOf link.lotId + s.openOf now link.lotId i ≤ boughtBy s entry

/-- The lot is used up by what the guard takes, or the guard takes at least what the other
open exits may still sell. -/
def GuardCounts : Prop :=
  ∀ link entry plan original, OwnedLot plan? s i link entry plan original →
    boughtBy s entry ≤ s.soldOf link.lotId + s.countedOf link.lotId i ∨
      s.openOf now link.lotId i ≤ s.countedOf link.lotId i

variable {plan? s now i} {link : IntentLink} {plan : ProtectionPlan} {intent : OrderIntent}

theorem ownedExitObjections_eq
    (hlink : s.linkIn .exit intent.intentId = some link) (hplan : plan? link.protectionId = some plan) :
    ownedExitObjections plan? intent s = .ok (exitOwnership s intent link.lotId plan.owner) s := by
  refine bind_ok.2 ⟨s, s, get_ok.2 ⟨rfl, rfl⟩, ?_⟩
  rw [hlink]; dsimp only; rw [hplan]; rfl

theorem guardAdmits_iff {link entry : IntentLink}
    {original : OrderIntent} (h : OwnedLot plan? s intent.intentId link entry plan original) :
    GuardAdmits plan? s intent ↔
      (intent.strategyId = plan.owner ∧ intent.side = .sell ∧ original.symbol = intent.symbol) ∧
        intent.quantity + s.soldOf link.lotId + s.countedOf link.lotId intent.intentId ≤
          boughtBy s entry := by
  have hbought : boughtBy s entry = s.filledByClient original.clientOrderId := by
    unfold boughtBy; rw [h.requested]
  have hadmits : GuardAdmits plan? s intent ↔
      exitOwnership s intent link.lotId plan.owner = [] := by
    unfold GuardAdmits Returns; rw [ownedExitObjections_eq h.linked h.planned]
    constructor
    · rintro ⟨s', hs'⟩
      injection hs'
    · exact fun hnil => ⟨s, by rw [hnil]⟩
  rw [hadmits]; unfold exitOwnership; rw [h.entered]
  dsimp only; rw [h.requested]; dsimp only
  rw [guard_sums_exists _ h.exits]; dsimp only; split
  · next hmismatch =>
    refine ⟨fun hnil => (nomatch hnil), ?_⟩
    rintro ⟨⟨hstrategy, hside, hsymbol⟩, _⟩
    rcases hmismatch with hm | hm | hm | hm
    · exact absurd hstrategy hm
    · exact absurd hside hm
    · exact absurd h.owner hm
    · exact absurd hsymbol hm
  · next hmatch =>
    push Not at hmatch
    obtain ⟨hstrategy, hside, _, hsymbol⟩ := hmatch; split
    · next hless =>
      refine ⟨fun hnil => (nomatch hnil), fun hfits => ?_⟩; linarith [hfits.2]
    · next hless =>
      refine ⟨fun _ => ⟨⟨hstrategy, hside, hsymbol⟩, ?_⟩, fun _ => rfl⟩
      linarith

/-- **When the guard suffices.** -/
theorem guard_suffices_iff : GuardSuffices plan? s now i ↔ GuardCounts plan? s now i := by
  constructor
  · intro h link entry plan original hlot; by_contra hno
    push Not at hno
    obtain ⟨hroom, hmissed⟩ := hno
    -- the largest exit the guard lets through
    have hpos : 0 < boughtBy s entry - (s.soldOf link.lotId + s.countedOf link.lotId i) :=
      sub_pos.2 hroom
    let exit : OrderIntent :=
      { original with
        intentId := i
        strategyId := plan.owner
        side := .sell
        quantity := boughtBy s entry - (s.soldOf link.lotId + s.countedOf link.lotId i)
        quantity_pos := hpos }
    have hadmits : GuardAdmits plan? s exit := by
      refine (guardAdmits_iff (show OwnedLot _ _ exit.intentId _ _ _ _ from hlot)).2
        ⟨⟨rfl, rfl, rfl⟩, ?_⟩
      linarith
    have hfits : boughtBy s entry - (s.soldOf link.lotId + s.countedOf link.lotId i) +
        s.soldOf link.lotId + s.openOf now link.lotId i ≤ boughtBy s entry :=
      h exit rfl hadmits link entry plan original hlot
    linarith
  · rintro h intent rfl hadmits link entry plan original hlot
    obtain ⟨_, hfits⟩ := (guardAdmits_iff hlot).1 hadmits
    have hpos := intent.quantity_pos
    rcases h link entry plan original hlot with hused | hcounted
    · linarith
    · linarith

theorem sum_exits (hlinked : s.linkIn .exit i = some link) (f : IntentLink → ℚ) :
    ((s.linksOf link.lotId .exit).map f).sum =
      ((s.otherExits link.lotId i).map f).sum + f link := by
  obtain ⟨hget, hrole⟩ := Option.filter_eq_some_iff.1 hlinked
  obtain ⟨hrow, rfl⟩ := Table.get?_some hget
  have hmem : link ∈ s.linksOf link.lotId .exit := mem_linksOf.2 ⟨hrow, rfl, of_decide_eq_true hrole⟩
  have hothers : s.otherExits link.lotId link.intentId =
      (s.linksOf link.lotId .exit).erase link := by
    rw [(linksOf_nodup s link.lotId .exit).erase_eq_filter]
    refine List.filter_congr fun l hl => ?_
    have hsame : l.intentId = link.intentId ↔ l = link :=
      ⟨Table.eq_of_key (mem_linksOf.1 hl).1 hrow, fun h => h ▸ rfl⟩
    rw [Bool.eq_iff_iff]; simp [hsame]
  rw [hothers, add_comm, ← List.sum_cons, ← List.map_cons]
  exact ((List.perm_cons_erase hmem).map f).sum_eq

/-- **What a guardian cycle finds left**: the exit's own remainder apart, what the property
of the guard asks for. -/
theorem guardian_remaining {r : ExitReading} {held : ExitsHeld}
    (hlinked : s.linkIn .exit i = some link) (hcustody : r.custody = none)
    (hheld : (s.linksOf link.lotId .exit).foldlM (heldLink s r.now) {} = some held) :
    exitRemaining s r held =
      some (r.owned - s.soldOf link.lotId - s.openOf r.now link.lotId i - openBy s r.now link) := by
  obtain ⟨hexited, hreserved⟩ := held_sums hheld
  unfold exitRemaining CoreStore.openOf; rw [hcustody]; dsimp only
  rw [hexited, hreserved, sum_exits hlinked]; congr 1; ring

end Guard

/-- **The guard alone** leaves room for every open exit of the lot in exactly the stores where
it counts what they may still sell. What it should leave is what the guardian's cycle finds
remaining, with the exit's own remainder. -/
theorem exit_guard_exact (plan? : String → Option ProtectionPlan) (s : CoreStore) (now : Int)
    (i : String) : (GuardSuffices plan? s now i ↔ GuardCounts plan? s now i) ∧
    ∀ link r held remaining, s.linkIn .exit i = some link → r.custody = none → r.now = now →
      (s.linksOf link.lotId .exit).foldlM (heldLink s r.now) {} = some held →
      exitRemaining s r held = some remaining → ∀ quantity,
        (quantity + s.soldOf link.lotId + s.openOf now link.lotId i ≤ r.owned ↔
          quantity ≤ remaining + openBy s now link) := by
  refine ⟨guard_suffices_iff, ?_⟩
  rintro link r held remaining hlinked hcustody rfl hheld hremaining quantity
  rw [guardian_remaining hlinked hcustody hheld] at hremaining; cases hremaining
  constructor
  · intro h; linarith
  · intro h; linarith

/-! ## An exit the guard does not count

The lot's first exit, of all it bought, is accepted by the broker; a second is prepared. -/

def acceptedExit : BrokerOrder := { openExit with
  filledQuantity := 0
  status := "accepted"
  filled_nonneg := L1.nil_nonneg
  filled_le := by decide }

def acceptedStore : CoreStore :=
  after (importBrokerEvents labelDigest [exitEvent "o2" 8 (.order acceptedExit)]) sendingExit

def secondExit : OrderIntent :=
  exitIntent labelDigest exitReading ["core-exit-exit:decision:obs"] 10 L1.ten_pos

def doubledStore : CoreStore := after (insertExit labelDigest exitReading secondExit) acceptedStore

def corePlan : String → Option ProtectionPlan := fun _ => some ⟨"decision:obs", "core", 1⟩

theorem secondExit_admitted : GuardAdmits corePlan doubledStore secondExit := by
  unfold GuardAdmits; decide +kernel

theorem doubled_sums : secondExit.quantity + doubledStore.soldOf "decision:obs" +
    doubledStore.openOf 20 "decision:obs" secondExit.intentId = 20 := by decide +kernel

theorem doubled_not_sufficient : ¬ GuardSuffices corePlan doubledStore 20 secondExit.intentId := by
  intro h
  have hlot : OwnedLot corePlan doubledStore secondExit.intentId (exitReading.link secondExit)
      exitReading.entry ⟨"decision:obs", "core", 1⟩ (entryIntent.withState .filled) :=
    ⟨by decide +kernel, rfl, by decide +kernel, by decide +kernel, rfl, by decide +kernel⟩
  have hfits := h secondExit rfl secondExit_admitted _ _ _ _ hlot
  have hsums : secondExit.quantity + doubledStore.soldOf (exitReading.link secondExit).lotId +
      doubledStore.openOf 20 (exitReading.link secondExit).lotId secondExit.intentId = 20 :=
    doubled_sums
  have hbought : boughtBy doubledStore exitReading.entry = 10 := by decide +kernel
  rw [hbought, hsums] at hfits; norm_num at hfits

/-- Both exits are let through, and the lot has bought one of them. -/
theorem accepted_oversold : GuardAdmits corePlan doubledStore secondExit ∧
      doubledStore.bought "decision:obs" = 10 ∧
      secondExit.quantity + doubledStore.soldOf "decision:obs" +
        doubledStore.openOf 20 "decision:obs" secondExit.intentId = 20 ∧
      ¬ GuardSuffices corePlan doubledStore 20 secondExit.intentId :=
  ⟨secondExit_admitted, by decide +kernel, doubled_sums, doubled_not_sufficient⟩

/-- The guardian finds all of the lot held by the two exits. -/
theorem exit_guard_exact_doubled : ¬ GuardCounts corePlan doubledStore 20 secondExit.intentId ∧
      ∃ remaining, ∀ quantity, (quantity + doubledStore.soldOf "decision:obs" +
        doubledStore.openOf 20 "decision:obs" secondExit.intentId ≤ exitReading.owned ↔
          quantity ≤ remaining + openBy doubledStore 20 (exitReading.link secondExit)) := by
  obtain ⟨hiff, hremaining⟩ := exit_guard_exact corePlan doubledStore 20 secondExit.intentId
  have hsome : ((doubledStore.linksOf "decision:obs" .exit).foldlM
      (heldLink doubledStore 20) {}).isSome := by decide +kernel
  obtain ⟨held, hheld⟩ := Option.isSome_iff_exists.1 hsome
  have hlinked : doubledStore.linkIn .exit secondExit.intentId =
      some (exitReading.link secondExit) := by decide +kernel
  refine ⟨fun h => doubled_not_sufficient (hiff.2 h),
    exitReading.owned - held.exited - held.reserved, ?_⟩
  exact hremaining (exitReading.link secondExit) { exitReading with now := 20 } held _ hlinked rfl
    rfl hheld rfl

end Quantbot.L4
