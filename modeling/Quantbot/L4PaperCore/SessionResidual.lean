import Quantbot.Core.ChunkedReads
import Quantbot.Core.Sums
import Quantbot.L4PaperCore.SessionRounding

/-!
# What a session capital proves

* `reconstruct_books`: the expected cash is the opening's, with each amount dated after it, each
  unbroken order in cents and every other fill at its exact value.
* `reconstruct_complete`: what a complete result says of the rows.
* `reconstruct_perm`: neither depends on the order the rows came in.
* `session_capital_exact`: the three, of what is computed.
-/
namespace Quantbot.L4.SessionCapital

open Core L1 Txn

section Cash

variable (opening : SessionOpening) (origin : ReconciliationProof) (watermark : Int)
  (rows : List ActivityRow)

/-- The executions of the rows that count. -/
def sessionExecutions : List Execution := (counted [] rows).filterMap (rowExecution watermark)

/-- The net amounts dated after the opening. -/
def amountsAfter : ℚ := ((counted [] rows).map (amountAfter opening.capturedAt watermark)).sum

/-- What the fills without a usable cumulative quantity pay after the opening. -/
def uncumulatedCash : ℚ :=
  (((counted [] rows).filter fun row => decide (Uncumulated watermark row)).map fun row =>
    (rowFill watermark row).elim 0 (paidAfter opening.capturedAt)).sum

/-- The cash of each order, by its id. -/
def sumOrders (cash : List Execution → ℚ) : ℚ :=
  ((orderIds (sessionExecutions watermark rows)).map fun orderId =>
    cash (ofOrder (sessionExecutions watermark rows) orderId)).sum

/-- The opening's cash, the amounts after it, and every order in cents. -/
def centCash : ℚ :=
  origin.account.cash - sumOrders watermark rows (centNet opening.capturedAt) +
    amountsAfter opening watermark rows

/-- The expected cash: an order with a broken prefix, and a fill without a usable cumulative
quantity, count at their exact values. -/
def bookedCash : ℚ :=
  origin.account.cash - sumOrders watermark rows (orderCash opening.capturedAt) -
    uncumulatedCash opening watermark rows + amountsAfter opening watermark rows

/-- Each symbol's quantity is the opening's and what the fills after it brought. -/
def Conserved (proof : ReconciliationProof) : Prop :=
  ∀ symbol, ((proof.actualQuantities.filter fun p => decide (p.1 = symbol)).map (·.2)).sum =
    (Quantities.ofList origin.actualQuantities).value symbol +
      ((counted [] rows).map (unitsOf opening.capturedAt watermark symbol)).sum

end Cash

variable {opening : SessionOpening} {origin proof : ReconciliationProof} {watermark : Int}
  {rows rows' : List ActivityRow} {capturedAt : Int} {c c' : Reconstruction}

/-! ## The cash -/

theorem sum_cashOf (l : List ActivityRow) : (l.map (cashOf capturedAt watermark)).sum =
      (l.map (amountAfter capturedAt watermark)).sum -
        exactNet capturedAt (l.filterMap (rowExecution watermark)) -
        ((l.filter fun row => decide (Uncumulated watermark row)).map fun row =>
          (rowFill watermark row).elim 0 (paidAfter capturedAt)).sum := by
  induction l with
  | nil => simp [exactNet]
  | cons row l ih =>
    rw [List.map_cons, List.sum_cons, ih, List.map_cons, List.sum_cons]
    cases hexec : rowExecution watermark row with
    | some e =>
      have hfill : rowFill watermark row = some e.fill := by
        unfold rowExecution at hexec
        cases hf : rowFill watermark row with
        | none =>
          rw [hf] at hexec; cases hexec
        | some fill =>
          rw [hf, Option.bind_some, Option.map_eq_some_iff] at hexec
          obtain ⟨_, _, rfl⟩ := hexec; rfl
      have hnot : ¬ Uncumulated watermark row := by
        unfold Uncumulated; rw [hexec]; exact fun hu => Bool.false_ne_true hu.2
      rw [List.filterMap_cons_some hexec, List.filter_cons, if_neg (by simpa using hnot)]
      unfold cashOf exactNet
      rw [hfill, Option.elim_some, List.map_cons, List.sum_cons]; ring
    | none =>
      rw [List.filterMap_cons_none hexec, List.filter_cons]; unfold cashOf
      by_cases hun : Uncumulated watermark row
      · rw [if_pos (decide_eq_true hun), List.map_cons, List.sum_cons]; ring
      have hfill : rowFill watermark row = none := by
        cases hf : rowFill watermark row with
        | none => rfl
        | some fill =>
          refine absurd ?_ hun; unfold Uncumulated; rw [hf, hexec]
          exact ⟨rfl, rfl⟩
      rw [if_neg (by simpa using hun), hfill, Option.elim_none]; ring

theorem sum_exactNet (executions : List Execution) : ((orderIds executions).map fun orderId =>
      exactNet capturedAt (ofOrder executions orderId)).sum = exactNet capturedAt executions := by
  have hnodup : (orderIds executions).Nodup :=
    ((List.perm_insertionSort _ _).nodup_iff).2 (List.nodup_dedup _)
  exact sum_groups hnodup fun e he => mem_orderIds.2 ⟨e, he, rfl⟩

/-! ## The quantities -/

theorem sortedPairs_perm_self (l : List (String × ℚ)) : (sortedPairs l).Perm l :=
  List.perm_insertionSort _ l

theorem sortedPairs_perm {l l' : List (String × ℚ)} (h : l.Perm l') :
    sortedPairs l = sortedPairs l' := by
  have : Std.Total fun a b : String × ℚ => a.1 < b.1 ∨ a.1 = b.1 ∧ a.2 ≤ b.2 :=
    ⟨fun _ _ => lex_total⟩
  have : IsTrans (String × ℚ) fun a b => a.1 < b.1 ∨ a.1 = b.1 ∧ a.2 ≤ b.2 :=
    ⟨fun _ _ _ => lex_trans⟩
  exact insertionSort_congr h fun _ _ _ _ hab hba => Prod.ext_iff.2 (lex_antisymm hab hba)

theorem sum_nonzero (q : Quantities) (symbol : String) :
    ((q.nonzero.rows.filter fun p => decide (p.1 = symbol)).map (·.2)).sum = q.value symbol := by
  have hall : ∀ l : List (String × ℚ),
      (((l.filter fun p => decide (p.2 ≠ 0)).filter fun p => decide (p.1 = symbol)).map
        (·.2)).sum = ((l.filter fun p => decide (p.1 = symbol)).map (·.2)).sum := by
    intro l
    induction l with
    | nil => rfl
    | cons p l ih =>
      by_cases hzero : p.2 = 0
      · rw [List.filter_cons, if_neg (by simpa using hzero), ih, List.filter_cons]
        split
        · rw [List.map_cons, List.sum_cons, hzero, zero_add]
        · rfl
      · rw [List.filter_cons, if_pos (by simpa using hzero), List.filter_cons, List.filter_cons]
        split
        · rw [List.map_cons, List.sum_cons, ih, List.map_cons, List.sum_cons]
        · exact ih
  unfold Quantities.nonzero Quantities.value Table.get?
  rw [hall, filter_key q.nodup]
  cases q.rows.find? fun p => decide (p.1 = symbol) with
  | none => rfl
  | some p => exact add_zero p.2

theorem nonzero_perm {q q' : Quantities} (h : ∀ symbol, q.value symbol = q'.value symbol) :
    q.nonzero.rows.Perm q'.nonzero.rows := by
  have hmem : ∀ (q : Quantities) (p : String × ℚ),
      p ∈ q.nonzero.rows ↔ p.2 ≠ 0 ∧ q.value p.1 = p.2 := by
    intro q p; unfold Quantities.nonzero Quantities.value
    rw [List.mem_filter, decide_eq_true_eq]; constructor
    · rintro ⟨hp, hne⟩; rw [Table.get?_key.2 hp]; exact ⟨hne, rfl⟩
    · rintro ⟨hne, hvalue⟩; refine ⟨?_, hne⟩
      cases hget : q.get? p.1 with
      | none =>
        rw [hget] at hvalue; exact absurd hvalue.symm hne
      | some p' =>
        rw [hget] at hvalue; obtain ⟨hin, hkey⟩ := Table.get?_some hget
        rwa [← Prod.ext hkey hvalue]
  have hnodup : ∀ q : Quantities, q.nonzero.rows.Nodup := fun q => q.nonzero.nodup.of_map
  refine (List.perm_ext_iff_of_nodup (hnodup q) (hnodup q')).2 fun p => ?_
  rw [hmem, hmem, h]

/-! ## The reconstruction -/

/-- The tally a reconstruction starts from. -/
def startOf (origin : ReconciliationProof) : Tally where
  expectedCash := origin.account.cash
  quantities := .ofList origin.actualQuantities

theorem reconstruct_read {t : Tally} (ht : rows.foldlM
      (readRow .exact opening.capturedAt opening.sessionDate watermark) (startOf origin) = .ok t) :
    reconstruct .exact opening origin proof watermark rows =
      (settleOrders .exact opening.capturedAt (sessionExecutions watermark rows)
        ⟨t.expectedCash, t.valid, t.roundingObjections, []⟩).map (evidenceOf .exact proof t) := by
  have hexe : t.executions = sessionExecutions watermark rows := (readRows_books ht).1.executions
  rw [← hexe]; unfold reconstruct
  have hstart : rows.foldlM (readRow .exact opening.capturedAt opening.sessionDate watermark)
      { expectedCash := origin.account.cash
        quantities := .ofList origin.actualQuantities } = .ok t := ht
  rw [hstart]; rfl

section

variable (h : reconstruct .exact opening origin proof watermark rows = .ok c)
include h

theorem reconstruct_ok :
    ∃ t s, rows.foldlM (readRow .exact opening.capturedAt opening.sessionDate watermark)
        (startOf origin) = .ok t ∧
      settleOrders .exact opening.capturedAt (sessionExecutions watermark rows)
        ⟨t.expectedCash, t.valid, t.roundingObjections, []⟩ = .ok s ∧
      c = evidenceOf .exact proof t s := by
  cases ht : rows.foldlM (readRow .exact opening.capturedAt opening.sessionDate watermark)
    (startOf origin) with
  | error e =>
    obtain ⟨t, hread, _⟩ := except_bind_ok.1 h; cases ht.symm.trans hread
  | ok t =>
    rw [reconstruct_read ht, except_map_ok] at h; obtain ⟨s, hs, hc⟩ := h
    exact ⟨t, s, rfl, hs, hc.symm⟩

/-- **The expected cash**, with every fill that is not rounded at its exact value. -/
theorem reconstruct_books : c.expectedCash = bookedCash opening origin watermark rows := by
  obtain ⟨t, s, ht, hs, rfl⟩ := reconstruct_ok h
  obtain ⟨hcash, _⟩ := settleOrders_ok hs; show s.expectedCash = _
  rw [hcash, (readRows_books ht).1.cash]
  show origin.account.cash + ((counted [] rows).map _).sum + _ = _
  rw [sum_cashOf]
  have horders : ∀ f : List Execution → ℚ,
      ((orderIds (sessionExecutions watermark rows)).map fun orderId =>
        exactNet opening.capturedAt (ofOrder (sessionExecutions watermark rows) orderId) -
          f (ofOrder (sessionExecutions watermark rows) orderId)).sum =
      exactNet opening.capturedAt (sessionExecutions watermark rows) -
        sumOrders watermark rows f := by
    intro f; unfold sumOrders; rw [← sum_exactNet]
    generalize orderIds (sessionExecutions watermark rows) = ids
    induction ids with
    | nil => exact (sub_self _).symm
    | cons orderId ids ih =>
      rw [List.map_cons, List.sum_cons, ih, List.map_cons, List.sum_cons, List.map_cons,
        List.sum_cons]
      ring
  rw [horders]; unfold bookedCash amountsAfter uncumulatedCash sessionExecutions
  ring

/-- **What a complete result says.** -/
theorem reconstruct_complete : c.complete = true ↔ Distinct rows ∧
      (∀ row ∈ rows, Sound opening.capturedAt opening.sessionDate watermark row) ∧
      (∀ orderId ∈ orderIds (sessionExecutions watermark rows),
        UnbrokenPrefix (ofOrder (sessionExecutions watermark rows) orderId) ∧
          ¬ CentTie opening.capturedAt (ofOrder (sessionExecutions watermark rows) orderId)) ∧
      c.quantitiesMatch = true ∧ |proof.account.cash - c.expectedCash| ≤ 1 / 100 := by
  obtain ⟨t, s, ht, hs, rfl⟩ := reconstruct_ok h
  obtain ⟨_, hvalid, _⟩ := readRows_books ht
  obtain ⟨_, hsettled⟩ := settleOrders_ok hs; unfold evidenceOf
  rw [Bool.and_eq_true, Bool.and_eq_true, hsettled, hvalid, decide_eq_true_eq, decide_eq_true_eq]
  show (((true = true ∧ (counted [] rows).length = rows.length ∧
    ∀ row ∈ counted [] rows, _) ∧ _) ∧ _) ∧ |proof.account.cash - s.expectedCash| ≤ 1 / 100 ↔ _
  rw [counted_length_iff]; constructor
  · rintro ⟨⟨⟨⟨_, hdistinct, hsound⟩, horders⟩, hmatch⟩, hresidual⟩
    rw [counted_eq_self (counted_length_iff.2 hdistinct)] at hsound
    exact ⟨hdistinct, hsound, horders, hmatch, hresidual⟩
  · rintro ⟨hdistinct, hsound, horders, hmatch, hresidual⟩
    rw [counted_eq_self (counted_length_iff.2 hdistinct)]
    exact ⟨⟨⟨⟨rfl, hdistinct, hsound⟩, horders⟩, hmatch⟩, hresidual⟩

theorem reconstruct_conserved
    (hmatch : c.quantitiesMatch = true) : Conserved opening origin watermark rows proof := by
  obtain ⟨t, s, ht, _, rfl⟩ := reconstruct_ok h
  have hsorted : sortedPairs t.quantities.nonzero.rows = sortedPairs proof.actualQuantities :=
    of_decide_eq_true hmatch
  have hperm : t.quantities.nonzero.rows.Perm proof.actualQuantities :=
    (sortedPairs_perm_self _).symm.trans (hsorted ▸ sortedPairs_perm_self _)
  intro symbol
  rw [← ((hperm.filter _).map _).sum_eq, sum_nonzero, (readRows_books ht).1.quantities]
  rfl

end

theorem bookedCash_complete (hdistinct : Distinct rows)
    (hsound : ∀ row ∈ rows, Sound opening.capturedAt opening.sessionDate watermark row)
    (horders : ∀ orderId ∈ orderIds (sessionExecutions watermark rows),
      UnbrokenPrefix (ofOrder (sessionExecutions watermark rows) orderId)) :
    bookedCash opening origin watermark rows = centCash opening origin watermark rows := by
  have hloose : uncumulatedCash opening watermark rows = 0 := by
    unfold uncumulatedCash
    rw [counted_eq_self (counted_length_iff.2 hdistinct), List.filter_eq_nil_iff.2]
    · rfl
    intro row hrow hun
    have hun' : Uncumulated watermark row := of_decide_eq_true hun
    have hrow' := hsound row hrow; unfold Sound at hrow'; split at hrow'
    · exact absurd hun'.2 (by
        rw [Option.isNone_iff_eq_none]; exact Option.isSome_iff_ne_none.1 hrow')
    rename_i hkind
    have hnone : rowFill watermark row = none := by
      unfold rowFill; rw [if_neg hkind]
    have hsome := hun'.1; rw [hnone] at hsome; cases hsome
  have hcents : sumOrders watermark rows (orderCash opening.capturedAt) =
      sumOrders watermark rows (centNet opening.capturedAt) := by
    refine congrArg List.sum (List.map_congr_left fun orderId hid => ?_)
    unfold orderCash; rw [if_pos (horders orderId hid)]
  unfold bookedCash centCash; rw [hloose, hcents, sub_zero]

/-- **The order of the rows does not matter**, where an identity has one row. -/
theorem reconstruct_perm (hp : rows.Perm rows') (hone : OneRowEach rows) :
    (reconstruct .exact opening origin proof watermark rows').toOption =
      (reconstruct .exact opening origin proof watermark rows).toOption := by
  have hcounted := counted_perm hp hone
  by_cases hread : ∀ row ∈ counted [] rows, Readable opening.capturedAt watermark row
  · have hread' : ∀ row ∈ counted [] rows', Readable opening.capturedAt watermark row :=
      fun row hrow => hread row (hcounted.mem_iff.2 hrow)
    obtain ⟨t, ht⟩ : ∃ t, rows.foldlM
        (readRow .exact opening.capturedAt opening.sessionDate watermark) (startOf origin) =
          .ok t := readRows_total hread
    obtain ⟨t', ht'⟩ : ∃ t', rows'.foldlM
        (readRow .exact opening.capturedAt opening.sessionDate watermark) (startOf origin) =
          .ok t' := readRows_total hread'
    obtain ⟨hbooks, hvalid, _⟩ := readRows_books ht
    obtain ⟨hbooks', hvalid', _⟩ := readRows_books ht'
    have hcash : t'.expectedCash = t.expectedCash := by
      rw [hbooks'.cash, hbooks.cash]
      exact congrArg _ (hcounted.map _).sum_eq.symm
    have hverdict : t'.valid = t.valid := by
      rw [Bool.eq_iff_iff, hvalid', hvalid]
      refine and_congr_right' (and_congr ?_ ?_)
      · rw [← hp.length_eq]; exact (hcounted.length_eq ▸ Iff.rfl)
      · exact ⟨fun hs row hrow => hs row (hcounted.mem_iff.1 hrow),
          fun hs row hrow => hs row (hcounted.mem_iff.2 hrow)⟩
    have hobjections : t'.roundingObjections = t.roundingObjections := by
      rw [hbooks'.objections, hbooks.objections]
      exact congrArg (fun n => _ ++ List.replicate n _) (hcounted.countP_eq _).symm
    have hexternal : t.external.Perm t'.external := by
      rw [hbooks'.external, hbooks.external]
      exact (hcounted.filterMap _).append_left _
    have hquantities : sortedPairs t'.quantities.nonzero.rows =
        sortedPairs t.quantities.nonzero.rows := by
      refine sortedPairs_perm (nonzero_perm fun symbol => ?_)
      rw [hbooks'.quantities, hbooks.quantities]
      exact congrArg _ (hcounted.map _).sum_eq.symm
    have hevidence : ∀ s, evidenceOf .exact proof t' s = evidenceOf .exact proof t s := by
      intro s; unfold evidenceOf
      have hsorted : t'.external.insertionSort (· ≤ ·) = t.external.insertionSort (· ≤ ·) :=
        insertionSort_congr hexternal.symm fun _ _ _ _ => le_antisymm
      rw [hquantities, hsorted, hcash]
    have hexecutions : (sessionExecutions watermark rows').Perm
        (sessionExecutions watermark rows) := (hcounted.filterMap _).symm
    rw [reconstruct_read ht, reconstruct_read ht', hcash, hverdict, hobjections,
      settleOrders_perm hexecutions, funext hevidence]
  · -- a row that cannot be read ends both reads
    have hfails : ∀ {l : List ActivityRow}, (counted [] rows).Perm (counted [] l) →
        (reconstruct .exact opening origin proof watermark l).toOption = none := by
      intro l hl
      cases hc : reconstruct .exact opening origin proof watermark l with
      | error e => rfl
      | ok c =>
        obtain ⟨t, _, ht, _⟩ := reconstruct_ok hc
        exact absurd (fun row hrow => (readRows_books ht).2.2 row (hl.mem_iff.1 hrow)) hread
    rw [hfails hcounted, hfails (List.Perm.refl _)]

/-- **Session capital, as it is computed**, of amounts that 27 digits hold. Where an identity has
one row the result does not depend on the order of the rows, and the verdict never does. The
expected cash is the opening's less each order in cents, an order with a broken prefix and a
fill without a usable cumulative quantity at their exact values, plus the amounts after it. A
complete result has every row distinct and sound, every order unbroken, in cents and off the
ties, quantities conserved and a residual of at most a cent. -/
theorem session_capital_exact {k : ℕ} (h : Fitting k origin proof rows) :
    (∀ rows', rows.Perm rows' → OneRowEach rows →
      (reconstruct .decimal opening origin proof watermark rows').toOption =
        (reconstruct .decimal opening origin proof watermark rows).toOption) ∧
    (∀ rows' c c', rows.Perm rows' →
      reconstruct .decimal opening origin proof watermark rows = .ok c →
      reconstruct .decimal opening origin proof watermark rows' = .ok c' →
      c'.complete = c.complete) ∧
    ∀ c, reconstruct .decimal opening origin proof watermark rows = .ok c →
      c.expectedCash = bookedCash opening origin watermark rows ∧ (c.complete = true →
        c.expectedCash = centCash opening origin watermark rows ∧ Distinct rows ∧
        (∀ row ∈ rows, Sound opening.capturedAt opening.sessionDate watermark row) ∧
        (∀ orderId ∈ orderIds (sessionExecutions watermark rows),
          UnbrokenPrefix (ofOrder (sessionExecutions watermark rows) orderId) ∧
            ¬ CentTie opening.capturedAt (ofOrder (sessionExecutions watermark rows) orderId)) ∧
        Conserved opening origin watermark rows proof ∧
        |proof.account.cash - c.expectedCash| ≤ 1 / 100) := by
  have hexact : ∀ {rows' : List ActivityRow}, rows.Perm rows' →
      reconstruct .decimal opening origin proof watermark rows' =
        reconstruct .exact opening origin proof watermark rows' :=
    fun hp => reconstruct_exact watermark (h.perm hp)
  refine ⟨fun rows' hp hone => ?_, fun rows' c c' hp hc hc' => ?_, fun c hc => ?_⟩
  · rw [hexact hp, hexact (List.Perm.refl rows)]; exact reconstruct_perm hp hone
  · rw [hexact (List.Perm.refl rows)] at hc; rw [hexact hp] at hc'
    by_cases hdistinct : Distinct rows
    · have heq : (reconstruct .exact opening origin proof watermark rows').toOption =
          (reconstruct .exact opening origin proof watermark rows).toOption :=
        reconstruct_perm hp hdistinct.oneRowEach
      rw [hc, hc'] at heq; rw [Option.some.inj heq]
    · have hnot : ¬ c.complete = true := fun hv => hdistinct ((reconstruct_complete hc).1 hv).1
      have hnot' : ¬ c'.complete = true := fun hv =>
        hdistinct (((reconstruct_complete hc').1 hv).1.perm hp.symm)
      rw [Bool.eq_false_of_not_eq_true hnot, Bool.eq_false_of_not_eq_true hnot']
  · rw [hexact (List.Perm.refl rows)] at hc; have hbooks := reconstruct_books hc
    refine ⟨hbooks, fun hcomplete => ?_⟩
    obtain ⟨hdistinct, hsound, horders, hmatch, hresidual⟩ := (reconstruct_complete hc).1 hcomplete
    refine ⟨?_, hdistinct, hsound, horders, reconstruct_conserved hc hmatch, hresidual⟩
    rw [hbooks]
    exact bookedCash_complete hdistinct hsound fun orderId hid => (horders orderId hid).1

/-! ## A session -/

def sessionProof (cash : ℚ) (hcash : 0 ≤ cash) (quantities : List (String × ℚ)) :
    ReconciliationProof where
  recordedAt := 100
  releaseId := "rel"
  evidenceLane := .brokerPaper
  account :=
    { accountId := "PA1", cash, buyingPower := 0, equity := 1000, currency := "USD"
      cash_nonneg := hcash, buyingPower_nonneg := L1.nil_nonneg, equity_nonneg := L1.thousand_nonneg }
  baselineId := "baseline"
  generation := 1
  fillIds := []
  expectedQuantities := quantities
  actualQuantities := quantities
  positions := []
  expectedCash := none
  acquisitionId := "acquisition"
  complete := true
  generation_pos := Nat.one_pos

def sessionOpening : SessionOpening where
  recordedAt := 100
  evidenceLane := .brokerPaper
  releaseId := "rel"
  accountId := "PA1"
  storeIdentity := "store"
  configId := "config"
  policyId := "policy"
  sessionDate := 20000
  sessionOpen := 90
  capturedAt := 100
  equity := 1000
  proofId := "proof"
  timeEvidenceId := "time"
  sourceStoreIdentity := "store"
  sourceReleaseId := "rel"
  equity_pos := by decide

def journalRow (id : String) (amount : ℚ) : ActivityRow where
  id := .text id
  activityType := .text "JNLC"
  netAmount := .finite amount
  createdAt := .aware 200

def buyRow (id : String) (price cumulative : ℚ) : ActivityRow where
  id := .text id
  activityType := .text "FILL"
  orderId := .text "order"
  symbol := .text "SPY"
  side := .text "buy"
  qty := .finite 1
  price := .finite price
  cumQty := .finite cumulative
  transactionTime := .aware 200

def opened : ReconciliationProof := sessionProof 1000 L1.thousand_nonneg []

/-- A journal of 20 dollars and a fill of one share at 10.001. -/
def sessionRows : List ActivityRow := [journalRow "a" 20, buyRow "b" (10001 / 1000) 1]

def closed : ReconciliationProof := sessionProof 1010 (by decide) [("SPY", 1)]

theorem sessionRows_fitting : Fitting 3 opened closed sessionRows where
  places := by omega
  opening := ⟨1000000, by decide +kernel⟩
  observed := ⟨1010000, by decide +kernel⟩
  held _ hp := nomatch hp
  filled row hrow f hf := by
    have hfills : ∀ row ∈ sessionRows, (fillFromPayload row).all fun f =>
        decide (f.quantity = 1 ∧ f.price = 10001 / 1000) := by decide +kernel
    have hrow' := hfills row hrow
    rw [hf, Option.all_some, decide_eq_true_eq] at hrow'
    rw [hrow'.1, hrow'.2]
    exact ⟨⟨1000, by decide +kernel⟩, ⟨10001, by decide +kernel⟩⟩
  amounts row hrow x hx := by
    have hamounts : ∀ row ∈ sessionRows, row.netAmount = .finite 20 ∨
        row.netAmount = .unreadable := by decide +kernel
    rcases hamounts row hrow with h | h
    · rw [h] at hx
      obtain rfl := Number.finite.inj hx
      exact ⟨20000, by decide +kernel⟩
    · rw [h] at hx
      cases hx
  small := by decide +kernel

theorem session_capital_exact_session :
    ∃ c, reconstruct .decimal sessionOpening opened closed 1000 sessionRows = .ok c ∧
      c.complete = true ∧ c.expectedCash = centCash sessionOpening opened 1000 sessionRows ∧
      c.expectedCash = 1010 := by
  have hrun : (reconstruct .decimal sessionOpening opened closed 1000
      sessionRows).toOption.any fun c => decide (c.complete = true ∧ c.expectedCash = 1010) := by
    decide +kernel
  cases hc : reconstruct .decimal sessionOpening opened closed 1000 sessionRows with
  | error e =>
    rw [hc] at hrun; cases hrun
  | ok c =>
    rw [hc] at hrun; obtain ⟨hcomplete, hcash⟩ := of_decide_eq_true hrun
    have hall := (session_capital_exact sessionRows_fitting).2.2 c hc
    exact ⟨c, rfl, hcomplete, (hall.2 hcomplete).1, hcash⟩

/-- What the rows expect, in the order they came in. -/
def expected (proof : ReconciliationProof) (rows : List ActivityRow) : Option (ℚ × Bool) :=
  (reconstruct .decimal sessionOpening opened proof 1000 rows).toOption.map fun c =>
    (c.expectedCash, c.complete)

/-- Of two rows of one identity the first counts; an order that lacks an execution is not put in
cents; and past 28 digits even the verdict depends on the order. -/
theorem session_capital_ordered :
    (expected opened [journalRow "a" 10, journalRow "a" 20] = some (1010, false) ∧
      expected opened [journalRow "a" 20, journalRow "a" 10] = some (1020, false)) ∧
    (expected opened [buyRow "b" (10001 / 1000) 2] = some (989999 / 1000, false) ∧
      centCash sessionOpening opened 1000 [buyRow "b" (10001 / 1000) 2] = 990) ∧
    (expected (sessionProof 1001 (by decide) [])
        [journalRow "a" (10 ^ 28), journalRow "b" (-10 ^ 28), journalRow "c" 1] =
          some (1001, true) ∧ expected (sessionProof 1001 (by decide) [])
        [journalRow "a" (10 ^ 28), journalRow "c" 1, journalRow "b" (-10 ^ 28)] =
          some (1000, false)) := by
  decide +kernel

end Quantbot.L4.SessionCapital
