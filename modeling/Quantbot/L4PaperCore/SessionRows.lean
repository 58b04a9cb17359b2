import Quantbot.L4PaperCore.SessionCapital

/-!
# What the rows of a session come to

With exact arithmetic, reading the rows adds up what each row counts for: an amount of cash,
units of a symbol, an execution, a flow. Only the first row of an identity counts
(`counted`), so the sums do not depend on the order of rows with distinct identities
(`counted_perm`), and the read fails exactly where one of the counted rows is unreadable
(`readRows_readable`).

* `readRows_books`: the sums.
* `readRows_valid`: the read is valid when every row counts and is sound.
-/
namespace Quantbot.L4.SessionCapital

open Core L1 Txn

/-! ## The counted rows -/

/-- The first row of each identity not seen before. -/
def counted : List String → List ActivityRow → List ActivityRow
  | _, [] => []
  | seen, row :: rows =>
    if row.id.str = "" ∨ row.id.str ∈ seen then counted seen rows
    else row :: counted (row.id.str :: seen) rows

variable {rows : List ActivityRow} {seen : List String} {row : ActivityRow}

theorem mem_counted (h : row ∈ counted seen rows) :
    row ∈ rows ∧ row.id.str ≠ "" ∧ row.id.str ∉ seen := by
  induction rows generalizing seen with
  | nil => cases h
  | cons first rows ih =>
    unfold counted at h; split at h
    · obtain ⟨hrow, hid⟩ := ih h; exact ⟨List.mem_cons_of_mem _ hrow, hid⟩
    rename_i hnew; rcases List.mem_cons.1 h with rfl | h
    · exact ⟨List.mem_cons_self, fun he => hnew (.inl he), fun hm => hnew (.inr hm)⟩
    · obtain ⟨hrow, hne, hseen⟩ := ih h
      exact ⟨List.mem_cons_of_mem _ hrow, hne, fun hm => hseen (List.mem_cons_of_mem _ hm)⟩

theorem counted_nodup (seen : List String) (rows : List ActivityRow) :
    ((counted seen rows).map (·.id.str)).Nodup := by
  induction rows generalizing seen with
  | nil => exact List.nodup_nil
  | cons first rows ih =>
    unfold counted; split
    · exact ih seen
    rw [List.map_cons, List.nodup_cons]; refine ⟨fun hmem => ?_, ih _⟩
    obtain ⟨row, hrow, hid⟩ := List.mem_map.1 hmem
    have hid' : row.id.str = first.id.str := hid
    exact (mem_counted hrow).2.2 (hid' ▸ List.mem_cons_self)

theorem counted_of_mem (h : row ∈ rows) (hne : row.id.str ≠ "")
    (hseen : row.id.str ∉ seen) : ∃ first ∈ counted seen rows, first.id.str = row.id.str := by
  induction rows generalizing seen with
  | nil => cases h
  | cons head rows ih =>
    unfold counted; split
    · rename_i hold; rcases List.mem_cons.1 h with rfl | h
      · exact absurd hold (not_or.2 ⟨hne, hseen⟩)
      · exact ih h hseen
    by_cases hhead : head.id.str = row.id.str
    · exact ⟨head, List.mem_cons_self, hhead⟩
    rcases List.mem_cons.1 h with rfl | h
    · exact absurd rfl hhead
    have hseen' : row.id.str ∉ head.id.str :: seen := fun hm =>
      (List.mem_cons.1 hm).elim (fun he => hhead he.symm) hseen
    obtain ⟨first, hfirst, hid⟩ := ih h hseen'
    exact ⟨first, List.mem_cons_of_mem _ hfirst, hid⟩

/-- Rows of one identity are the same row. -/
def OneRowEach (rows : List ActivityRow) : Prop :=
  ∀ a ∈ rows, ∀ b ∈ rows, a.id.str ≠ "" → a.id.str = b.id.str → a = b

/-- No identity is empty or repeated. -/
def Distinct (rows : List ActivityRow) : Prop :=
  (∀ row ∈ rows, row.id.str ≠ "") ∧ (rows.map (·.id.str)).Nodup

theorem Distinct.oneRowEach (h : Distinct rows) : OneRowEach rows :=
  fun _ ha _ hb _ hid => List.inj_on_of_nodup_map h.2 ha hb hid

variable {rows' : List ActivityRow}

theorem Distinct.perm (h : Distinct rows) (hp : rows.Perm rows') : Distinct rows' :=
  ⟨fun row hrow => h.1 row (hp.mem_iff.2 hrow), ((hp.map _).nodup_iff).1 h.2⟩

/-- Which rows count does not depend on the order, where an identity has one row. -/
theorem counted_perm (hp : rows.Perm rows') (hone : OneRowEach rows) :
    (counted [] rows).Perm (counted [] rows') := by
  have hmem : ∀ {l : List ActivityRow}, OneRowEach l → ∀ row,
      row ∈ counted [] l ↔ row ∈ l ∧ row.id.str ≠ "" := by
    intro l hl row
    refine ⟨fun h => ⟨(mem_counted h).1, (mem_counted h).2.1⟩, fun ⟨h, hne⟩ => ?_⟩
    obtain ⟨first, hfirst, hid⟩ := counted_of_mem h hne List.not_mem_nil
    obtain ⟨hin, hne', _⟩ := mem_counted hfirst
    rw [← hl first hin row h hne' hid]; exact hfirst
  have hone' : OneRowEach rows' := fun a ha b hb =>
    hone a (hp.mem_iff.2 ha) b (hp.mem_iff.2 hb)
  refine (List.perm_ext_iff_of_nodup (counted_nodup _ _).of_map (counted_nodup _ _).of_map).2 ?_
  intro row; rw [hmem hone, hmem hone', hp.mem_iff]

theorem counted_length_le (seen : List String) (rows : List ActivityRow) :
    (counted seen rows).length ≤ rows.length := by
  induction rows generalizing seen with
  | nil => exact Nat.le_refl _
  | cons first rows ih =>
    unfold counted; split
    · exact (ih seen).trans (Nat.le_succ _)
    · exact Nat.succ_le_succ (ih _)

theorem counted_eq_self (h : (counted seen rows).length = rows.length) :
    counted seen rows = rows := by
  induction rows generalizing seen with
  | nil => rfl
  | cons first rows ih =>
    unfold counted at h ⊢; split at h
    · rw [List.length_cons] at h; have hle := counted_length_le seen rows; omega
    · rename_i hnew; rw [if_neg hnew, ih (Nat.succ.inj h)]

theorem counted_length_iff : (counted [] rows).length = rows.length ↔ Distinct rows := by
  constructor
  · intro h; have hself := counted_eq_self h
    have hnodup := counted_nodup [] rows; rw [hself] at hnodup
    refine ⟨fun row hrow => ?_, hnodup⟩; rw [← hself] at hrow
    exact (mem_counted hrow).2.1
  · intro h
    have hmem : ∀ row, row ∈ counted [] rows ↔ row ∈ rows := by
      intro row; refine ⟨fun hrow => (mem_counted hrow).1, fun hrow => ?_⟩
      obtain ⟨first, hfirst, hid⟩ := counted_of_mem hrow (h.1 row hrow) List.not_mem_nil
      rwa [← h.oneRowEach first (mem_counted hfirst).1 row hrow (mem_counted hfirst).2.1 hid]
    exact ((List.perm_ext_iff_of_nodup (counted_nodup _ _).of_map h.2.of_map).2 hmem).length_eq

/-! ## What a row counts for -/

section Rows

variable (capturedAt sessionDate watermark : Int)

/-- The fill of a row, where it is not later than the read. -/
def rowFill (row : ActivityRow) : Option Fill :=
  if row.isFill then (fillFromPayload row).filter fun f => decide (f.occurredAt ≤ watermark)
  else none

/-- Its execution, where the row reports a cumulative quantity of at least its own. -/
def rowExecution (row : ActivityRow) : Option Execution :=
  (rowFill watermark row).bind fun fill =>
    (row.cumQty.finite?.filter fun cumulative => decide (fill.quantity ≤ cumulative)).map
      fun cumulative => ⟨fill, cumulative⟩

/-- The cash a fill pays; what it brings is negative. -/
def signedValue (fill : Fill) : ℚ := sign fill.side * fill.quantity * fill.price

/-- The cash a fill pays after the opening was captured. -/
def paidAfter (fill : Fill) : ℚ := if fill.occurredAt ≤ capturedAt then 0 else signedValue fill

/-- The net amount of a row that is no fill, where it is dated after the opening. -/
def amountAfter (row : ActivityRow) : ℚ :=
  if row.isFill then 0
  else
    match row.rawTime with
    | .aware time =>
      if capturedAt < time ∧ time ≤ watermark then row.netAmount.finite?.getD 0 else 0
    | _ => 0

def cashOf (row : ActivityRow) : ℚ :=
  amountAfter capturedAt watermark row - (rowFill watermark row).elim 0 (paidAfter capturedAt)

/-- The units of a symbol a fill brings after the opening was captured. -/
def unitsAfter (symbol : String) (fill : Fill) : ℚ :=
  if fill.occurredAt ≤ capturedAt then 0
  else if fill.symbol = symbol then sign fill.side * fill.quantity else 0

def unitsOf (symbol : String) (row : ActivityRow) : ℚ :=
  (rowFill watermark row).elim 0 (unitsAfter capturedAt symbol)

/-- The flow a row is noted as. -/
def rowFlow (row : ActivityRow) : Option String :=
  if row.isFill ∨ row.isFee then none
  else
    match row.rawTime with
    | .naive date => if date = sessionDate then some row.id.str else none
    | .aware time =>
      if capturedAt < time ∧ time ≤ watermark ∧ row.netAmount.finite?.isSome then some row.id.str
      else none
    | _ => none

/-- A fill without a usable cumulative quantity. -/
def Uncumulated (row : ActivityRow) : Prop :=
  (rowFill watermark row).isSome ∧ (rowExecution watermark row).isNone
deriving Decidable

/-- A row that is not later than the read, dated and complete: a fill with its cumulative
quantity; else an instant, with an amount where it is after the opening, or the date of another
day. -/
def Sound (row : ActivityRow) : Prop :=
  if row.isFill then (rowExecution watermark row).isSome = true
  else
    match row.rawTime with
    | .naive date => date ≠ sessionDate
    | .aware time => time ≤ capturedAt ∨ time ≤ watermark ∧ row.netAmount.finite?.isSome
    | _ => False

/-- A row that does not end the read. -/
def Readable (row : ActivityRow) : Prop :=
  if row.isFill then (fillFromPayload row).isSome = true
  else
    match row.rawTime with
    | .unreadable => False
    | .aware time => time ≤ capturedAt ∨ watermark < time ∨ row.netAmount ≠ .unreadable
    | _ => True

end Rows

/-! ## Reading a row -/

section Reading

variable (capturedAt sessionDate watermark : Int)

/-- What reading rows that count adds to the tally. -/
structure Books (t : Tally) (rows : List ActivityRow) (t' : Tally) : Prop where
  cash : t'.expectedCash = t.expectedCash + (rows.map (cashOf capturedAt watermark)).sum
  quantities : ∀ symbol, t'.quantities.value symbol =
    t.quantities.value symbol + (rows.map (unitsOf capturedAt watermark symbol)).sum
  external : t'.external =
    t.external ++ rows.filterMap (rowFlow capturedAt sessionDate watermark)
  executions : t'.executions = t.executions ++ rows.filterMap (rowExecution watermark)
  objections : t'.roundingObjections = t.roundingObjections ++
    List.replicate (rows.countP fun row => decide (Uncumulated watermark row))
      .cumulativeUnavailable

/-- What the reading of one row that counts does. -/
structure BooksRow (t : Tally) (row : ActivityRow) (t' : Tally) : Prop
    extends Books capturedAt sessionDate watermark t [row] t' where
  seen : t'.seen = t.seen
  valid : t'.valid = true ↔ t.valid = true ∧ Sound capturedAt sessionDate watermark row
  readable : Readable capturedAt watermark row

variable {capturedAt sessionDate watermark}
variable {t t₁ t' : Tally} {row : ActivityRow} {rows rows' : List ActivityRow}

theorem Books.refl (t : Tally) : Books capturedAt sessionDate watermark t [] t :=
  ⟨(add_zero _).symm, fun _ => (add_zero _).symm, (List.append_nil _).symm,
    (List.append_nil _).symm, (List.append_nil _).symm⟩

theorem Books.trans (h : Books capturedAt sessionDate watermark t rows t₁)
    (h' : Books capturedAt sessionDate watermark t₁ rows' t') :
    Books capturedAt sessionDate watermark t (rows ++ rows') t' where
  cash := by rw [h'.cash, h.cash, List.map_append, List.sum_append, add_assoc]
  quantities symbol := by
    rw [h'.quantities, h.quantities, List.map_append, List.sum_append, add_assoc]
  external := by rw [h'.external, h.external, List.filterMap_append, List.append_assoc]
  executions := by rw [h'.executions, h.executions, List.filterMap_append, List.append_assoc]
  objections := by
    rw [h'.objections, h.objections, List.countP_append, List.append_assoc,
      List.replicate_append_replicate]

theorem value_addQuantity (q : Quantities) (symbol s : String) (x : ℚ) :
    (addQuantity .exact q symbol x).value s = q.value s + if symbol = s then x else 0 := by
  unfold addQuantity Quantities.value; rw [Table.get?_upsert]; split
  · rename_i heq; subst heq; rfl
  · rw [add_zero]

/-- A fill without effects on the cash: it changes no field the other half reads. -/
theorem noteExecution_eq {fill : Fill} (hfill : rowFill watermark row = some fill) :
    noteExecution t fill row.cumQty =
      match rowExecution watermark row with
      | some e => { t with executions := t.executions ++ [e] }
      | none =>
        { t with
          valid := false
          roundingObjections := t.roundingObjections ++ [.cumulativeUnavailable] } := by
  unfold rowExecution noteExecution
  rw [hfill, Option.bind_some]
  cases row.cumQty with
  | unreadable => rfl
  | special => rfl
  | finite cumulative =>
    unfold Number.finite?
    dsimp only
    rw [Option.filter_some]
    by_cases hlt : cumulative < fill.quantity
    · rw [if_pos hlt, if_neg (by simpa using hlt)]
      rfl
    · rw [if_neg hlt, if_pos (by simpa using hlt)]
      rfl

theorem rowFill_eq {fill : Fill} (hkind : row.isFill = true)
    (hread : fillFromPayload row = some fill) :
    rowFill watermark row = if watermark < fill.occurredAt then none else some fill := by
  unfold rowFill; rw [if_pos hkind, hread, Option.filter_some]
  by_cases hlate : watermark < fill.occurredAt
  · rw [if_pos hlate, if_neg (by simpa using hlate)]
  · rw [if_neg hlate, if_pos (by simpa using hlate)]

variable (capturedAt) in
theorem bookFill_books (t : Tally) (fill : Fill) :
    (bookFill .exact capturedAt t fill).expectedCash = t.expectedCash - paidAfter capturedAt fill ∧
    (∀ s, (bookFill .exact capturedAt t fill).quantities.value s =
      t.quantities.value s + unitsAfter capturedAt s fill) ∧
    (bookFill .exact capturedAt t fill).external = t.external ∧
    (bookFill .exact capturedAt t fill).executions = t.executions ∧
    (bookFill .exact capturedAt t fill).roundingObjections = t.roundingObjections ∧
    (bookFill .exact capturedAt t fill).valid = t.valid ∧
    (bookFill .exact capturedAt t fill).seen = t.seen := by
  unfold bookFill paidAfter unitsAfter; split
  · exact ⟨(sub_zero _).symm, fun _ => (add_zero _).symm, rfl, rfl, rfl, rfl, rfl⟩
  · exact ⟨rfl, fun s => value_addQuantity .., rfl, rfl, rfl, rfl, rfl⟩

theorem Books.of_row (hcash : t'.expectedCash = t.expectedCash + cashOf capturedAt watermark row)
    (hunits : ∀ s, t'.quantities.value s =
      t.quantities.value s + unitsOf capturedAt watermark s row)
    (hflow : t'.external = t.external ++ (rowFlow capturedAt sessionDate watermark row).toList)
    (hexecution : t'.executions = t.executions ++ (rowExecution watermark row).toList)
    (hobjection : t'.roundingObjections = t.roundingObjections ++
      if Uncumulated watermark row then [.cumulativeUnavailable] else []) :
    Books capturedAt sessionDate watermark t [row] t' where
  cash := by rw [hcash, List.map_singleton, List.sum_singleton]
  quantities s := by rw [hunits, List.map_singleton, List.sum_singleton]
  external := by
    rw [hflow]
    cases hrow : rowFlow capturedAt sessionDate watermark row with
    | none => rw [List.filterMap_cons_none hrow]; rfl
    | some flow => rw [List.filterMap_cons_some hrow]; rfl
  executions := by
    rw [hexecution]
    cases hrow : rowExecution watermark row with
    | none => rw [List.filterMap_cons_none hrow]; rfl
    | some e => rw [List.filterMap_cons_some hrow]; rfl
  objections := by
    rw [hobjection, List.countP_singleton]
    by_cases hrow : Uncumulated watermark row
    · rw [if_pos hrow, if_pos (decide_eq_true hrow)]
      rfl
    · rw [if_neg hrow, if_neg (by simpa using hrow)]
      rfl

theorem readFill_books (hkind : row.isFill = true)
    (h : readFill .exact capturedAt watermark t row = .ok t') :
    BooksRow capturedAt sessionDate watermark t row t' := by
  unfold readFill at h
  cases hread : fillFromPayload row with
  | none =>
    rw [hread] at h; cases h
  | some fill =>
    rw [hread] at h; dsimp only at h
    have hreadable : Readable capturedAt watermark row := by
      unfold Readable; rw [if_pos hkind, hread]; rfl
    have hamount : amountAfter capturedAt watermark row = 0 := by
      unfold amountAfter; rw [if_pos hkind]
    have hflow : rowFlow capturedAt sessionDate watermark row = none := by
      unfold rowFlow; rw [if_pos (.inl hkind)]
    have hsound : Sound capturedAt sessionDate watermark row ↔
        (rowExecution watermark row).isSome = true := by
      unfold Sound; rw [if_pos hkind]
    have hfill : rowFill watermark row = _ := rowFill_eq hkind hread; split at h
    · -- a fill after the read is left out
      rename_i hlate; cases h; rw [if_pos hlate] at hfill
      have hexec : rowExecution watermark row = none := by
        unfold rowExecution; rw [hfill]; rfl
      refine ⟨.of_row ?_ (fun s => ?_) ?_ ?_ ?_, rfl, ?_, hreadable⟩
      · unfold cashOf; rw [hamount, hfill, Option.elim_none, sub_zero, add_zero]
      · unfold unitsOf; rw [hfill, Option.elim_none, add_zero]
      · rw [hflow]; exact (List.append_nil _).symm
      · rw [hexec]; exact (List.append_nil _).symm
      · have hnot : ¬ Uncumulated watermark row := by
          unfold Uncumulated; rw [hfill]
          exact fun hu => Bool.false_ne_true hu.1
        rw [if_neg hnot]; exact (List.append_nil _).symm
      · rw [hsound, hexec]
        exact iff_of_false Bool.false_ne_true fun hs => Bool.false_ne_true hs.2
    · rename_i hlate; cases h; rw [if_neg hlate] at hfill
      obtain ⟨hcash, hunits, hext, hexe, hobj, hvalid, hseen⟩ :=
        bookFill_books capturedAt (noteExecution t fill row.cumQty) fill
      have hcash' : cashOf capturedAt watermark row = -paidAfter capturedAt fill := by
        unfold cashOf; rw [hamount, hfill, Option.elim_some, zero_sub]
      have hunits' : ∀ s, unitsOf capturedAt watermark s row = unitsAfter capturedAt s fill := by
        intro s; unfold unitsOf; rw [hfill, Option.elim_some]
      have hnote := noteExecution_eq (t := t) hfill
      cases hexec : rowExecution watermark row with
      | none =>
        rw [hexec] at hnote
        rw [hnote] at hcash hunits hext hexe hobj hvalid hseen ⊢
        have hun : Uncumulated watermark row := by
          unfold Uncumulated; rw [hfill, hexec]; exact ⟨rfl, rfl⟩
        refine ⟨.of_row ?_ (fun s => ?_) ?_ ?_ ?_, hseen, ?_, hreadable⟩
        · rw [hcash', ← sub_eq_add_neg]; exact hcash
        · rw [hunits']; exact hunits s
        · rw [hflow]; exact hext.trans (List.append_nil _).symm
        · rw [hexec]; exact hexe.trans (List.append_nil _).symm
        · rw [if_pos hun]; exact hobj
        · rw [hsound, hexec]
          exact iff_of_false (fun hv => Bool.false_ne_true (hvalid.symm.trans hv))
            fun hs => Bool.false_ne_true hs.2
      | some e =>
        rw [hexec] at hnote
        rw [hnote] at hcash hunits hext hexe hobj hvalid hseen ⊢
        have hun : ¬ Uncumulated watermark row := by
          unfold Uncumulated; rw [hexec]
          exact fun hu => Bool.false_ne_true hu.2
        refine ⟨.of_row ?_ (fun s => ?_) ?_ ?_ ?_, hseen, ?_, hreadable⟩
        · rw [hcash', ← sub_eq_add_neg]; exact hcash
        · rw [hunits']; exact hunits s
        · rw [hflow]; exact hext.trans (List.append_nil _).symm
        · rw [hexec]; exact hexe
        · rw [if_neg hun]; exact hobj.trans (List.append_nil _).symm
        · rw [hsound, hexec]
          exact ⟨fun hv => ⟨hvalid.symm.trans hv, rfl⟩, fun hs => hvalid.trans hs.1⟩

theorem Books.of_other (hkind : row.isFill = false) {cash : ℚ} {flow : Option String}
    (hamount : amountAfter capturedAt watermark row = cash)
    (hrow : rowFlow capturedAt sessionDate watermark row = flow)
    (hcash : t'.expectedCash = t.expectedCash + cash) (hquantities : t'.quantities = t.quantities)
    (hexternal : t'.external = t.external ++ flow.toList)
    (hexecutions : t'.executions = t.executions)
    (hobjections : t'.roundingObjections = t.roundingObjections) :
    Books capturedAt sessionDate watermark t [row] t' := by
  have hfill : rowFill watermark row = none := by
    unfold rowFill; rw [hkind]; rfl
  have hexec : rowExecution watermark row = none := by
    unfold rowExecution; rw [hfill]; rfl
  refine .of_row ?_ (fun s => ?_) ?_ ?_ ?_
  · unfold cashOf; rw [hamount, hfill, Option.elim_none, sub_zero]; exact hcash
  · unfold unitsOf; rw [hfill, Option.elim_none, add_zero, hquantities]
  · rw [hrow]; exact hexternal
  · rw [hexec]; exact hexecutions.trans (List.append_nil _).symm
  · have hnot : ¬ Uncumulated watermark row := by
      unfold Uncumulated; rw [hfill]; exact fun hu => Bool.false_ne_true hu.1
    rw [if_neg hnot]; exact hobjections.trans (List.append_nil _).symm

theorem readOther_books (hkind : row.isFill = false)
    (h : readOther .exact capturedAt sessionDate watermark t row = .ok t') :
    BooksRow capturedAt sessionDate watermark t row t' := by
  unfold readOther at h
  -- a row that is only refused leaves everything but the verdict as it was
  have hrefused : amountAfter capturedAt watermark row = 0 →
      rowFlow capturedAt sessionDate watermark row = none →
      ¬ Sound capturedAt sessionDate watermark row → Readable capturedAt watermark row →
      { t with valid := false } = t' → BooksRow capturedAt sessionDate watermark t row t' := by
    rintro hamount hflow hsound hreadable rfl
    exact ⟨.of_other hkind hamount hflow (add_zero _).symm rfl (List.append_nil _).symm rfl rfl,
      rfl, iff_of_false Bool.false_ne_true fun hs => hsound hs.2, hreadable⟩
  have hpassed : amountAfter capturedAt watermark row = 0 →
      rowFlow capturedAt sessionDate watermark row = none →
      Sound capturedAt sessionDate watermark row → Readable capturedAt watermark row →
      t = t' → BooksRow capturedAt sessionDate watermark t row t' := by
    rintro hamount hflow hsound hreadable rfl
    exact ⟨.of_other hkind hamount hflow (add_zero _).symm rfl (List.append_nil _).symm rfl rfl,
      rfl, (and_iff_left hsound).symm, hreadable⟩
  cases hm : row.rawTime with
  | empty | untext =>
    rw [hm] at h
    exact hrefused (by simp [amountAfter, hkind, hm]) (by simp [rowFlow, hkind, hm])
      (by simp [Sound, hkind, hm]) (by simp [Readable, hkind, hm]) (Except.ok.inj h)
  | unreadable =>
    rw [hm] at h; cases h
  | naive date =>
    rw [hm] at h; dsimp only at h; split at h
    · rename_i hday
      exact hpassed (by simp [amountAfter, hkind, hm]) (by simp [rowFlow, hkind, hm, hday])
        (by simpa [Sound, hkind, hm] using hday) (by simp [Readable, hkind, hm]) (Except.ok.inj h)
    rename_i hday; obtain rfl := Except.ok.inj h
    have hsound : ¬ Sound capturedAt sessionDate watermark row := by
      simp [Sound, hkind, hm, hday]
    have hflow : rowFlow capturedAt sessionDate watermark row =
        if row.isFee then none else some row.id.str := by
      by_cases hfee : row.isFee = true
      · simp [rowFlow, hfee]
      · simp [rowFlow, hkind, hm, hday, hfee]
    refine ⟨.of_other hkind (by simp [amountAfter, hkind, hm]) hflow (add_zero _).symm rfl ?_
      rfl rfl, rfl, iff_of_false Bool.false_ne_true fun hs => hsound hs.2,
      by simp [Readable, hkind, hm]⟩
    split
    · exact (List.append_nil _).symm
    · rfl
  | aware time =>
    rw [hm] at h; dsimp only at h; split at h
    · rename_i hbefore
      have hno : ¬ (capturedAt < time ∧ time ≤ watermark) := by omega
      have hno' : ¬ (capturedAt < time ∧ time ≤ watermark ∧
          row.netAmount.finite?.isSome = true) := fun hc => hno ⟨hc.1, hc.2.1⟩
      exact hpassed (by simp [amountAfter, hkind, hm, hno]) (by simp [rowFlow, hkind, hm, hno'])
        (by simp [Sound, hkind, hm, hbefore]) (by simp [Readable, hkind, hm, hbefore])
        (Except.ok.inj h)
    split at h
    · rename_i hbefore hlate
      have hno : ¬ (capturedAt < time ∧ time ≤ watermark) := by omega
      have hno' : ¬ (capturedAt < time ∧ time ≤ watermark ∧
          row.netAmount.finite?.isSome = true) := fun hc => hno ⟨hc.1, hc.2.1⟩
      exact hrefused (by simp [amountAfter, hkind, hm, hno]) (by simp [rowFlow, hkind, hm, hno'])
        (by simp [Sound, hkind, hm]; omega) (by simp [Readable, hkind, hm, hlate])
        (Except.ok.inj h)
    · rename_i hbefore hlate
      have hin : capturedAt < time ∧ time ≤ watermark := by omega
      cases hn : row.netAmount with
      | unreadable =>
        rw [hn] at h; cases h
      | special =>
        rw [hn] at h
        exact hrefused (by simp [amountAfter, hkind, hm, hn, Number.finite?])
          (by simp [rowFlow, hkind, hm, hn, Number.finite?])
          (by simp [Sound, hkind, hm, hn, Number.finite?]; omega)
          (by simp [Readable, hkind, hm, hn]) (Except.ok.inj h)
      | finite amount =>
        rw [hn] at h; obtain rfl := Except.ok.inj h
        have hflow : rowFlow capturedAt sessionDate watermark row =
            if row.isFee then none else some row.id.str := by
          by_cases hfee : row.isFee = true
          · simp [rowFlow, hfee]
          · simp [rowFlow, hkind, hm, hn, hin, hfee, Number.finite?]
        refine ⟨.of_other hkind (by simp [amountAfter, hkind, hm, hn, hin, Number.finite?])
          hflow rfl rfl ?_ rfl rfl, rfl, ?_, by simp [Readable, hkind, hm, hn]⟩
        · show (if row.isFee then t.external else t.external ++ [row.id.str]) = _
          split
          · exact (List.append_nil _).symm
          · rfl
        · exact (and_iff_left (by simp [Sound, hkind, hm, hn, hin, Number.finite?])).symm

theorem readRow_total (hreadable : Readable capturedAt watermark row) :
    ∃ t', readRow .exact capturedAt sessionDate watermark t row = .ok t' := by
  unfold readRow; split
  · exact ⟨_, rfl⟩
  dsimp only; by_cases hkind : row.isFill = true
  · rw [if_pos hkind]; unfold Readable at hreadable
    rw [if_pos hkind] at hreadable
    obtain ⟨fill, hfill⟩ := Option.isSome_iff_exists.1 hreadable
    unfold readFill; rw [hfill]; dsimp only; split
    · exact ⟨_, rfl⟩
    · exact ⟨_, rfl⟩
  · rw [if_neg hkind]; unfold Readable at hreadable
    rw [if_neg hkind] at hreadable; unfold readOther
    cases hm : row.rawTime with
    | empty | untext => exact ⟨_, rfl⟩
    | unreadable =>
      rw [hm] at hreadable; exact hreadable.elim
    | naive date =>
      dsimp only; split
      · exact ⟨_, rfl⟩
      · exact ⟨_, rfl⟩
    | aware time =>
      rw [hm] at hreadable; dsimp only at hreadable ⊢; split
      · exact ⟨_, rfl⟩
      split
      · exact ⟨_, rfl⟩
      cases hn : row.netAmount with
      | unreadable =>
        rw [hn] at hreadable
        exact (hreadable.elim (fun h => by omega)
          fun h => h.elim (fun h => by omega) fun h => absurd rfl h)
      | special | finite _ => exact ⟨_, rfl⟩

theorem readRow_books (hnew : ¬ (row.id.str = "" ∨ row.id.str ∈ t.seen))
    (h : readRow .exact capturedAt sessionDate watermark t row = .ok t') :
    BooksRow capturedAt sessionDate watermark { t with seen := row.id.str :: t.seen } row t' := by
  unfold readRow at h; rw [if_neg hnew] at h; split at h
  · rename_i hkind; exact readFill_books hkind h
  · rename_i hkind; exact readOther_books (Bool.eq_false_of_not_eq_true hkind) h

/-! ## Reading the rows -/

/-- **What the rows come to**, of the rows that count, and when the read is valid. -/
theorem readRows_books
    (h : rows.foldlM (readRow .exact capturedAt sessionDate watermark) t = .ok t') :
    Books capturedAt sessionDate watermark t (counted t.seen rows) t' ∧
      (t'.valid = true ↔ t.valid = true ∧ (counted t.seen rows).length = rows.length ∧
        ∀ row ∈ counted t.seen rows, Sound capturedAt sessionDate watermark row) ∧
      ∀ row ∈ counted t.seen rows, Readable capturedAt watermark row := by
  induction rows generalizing t with
  | nil =>
    obtain rfl := Except.ok.inj h
    exact ⟨.refl t, ⟨fun hv => ⟨hv, rfl, fun _ hr => nomatch hr⟩, fun hv => hv.1⟩,
      fun _ hr => nomatch hr⟩
  | cons row rows ih =>
    obtain ⟨t₁, hrow, h⟩ := except_bind_ok.1 h
    obtain ⟨hbooks, hvalid, hread⟩ := ih h; unfold counted; split
    · -- a repeated row only spoils the verdict
      rename_i hold; unfold readRow at hrow; rw [if_pos hold] at hrow
      cases hrow
      refine ⟨⟨hbooks.cash, hbooks.quantities, hbooks.external, hbooks.executions,
        hbooks.objections⟩, ?_, hread⟩
      refine iff_of_false (fun hv => Bool.false_ne_true (hvalid.1 hv).1) fun hv => ?_
      have hle := counted_length_le t.seen rows; have heq := hv.2.1
      rw [List.length_cons] at heq; omega
    · rename_i hnew; have hone := readRow_books hnew hrow
      rw [hone.seen] at hbooks hvalid hread; refine ⟨?_, ?_, ?_⟩
      · exact (Books.trans (t := t) ⟨hone.cash, hone.quantities, hone.external, hone.executions,
          hone.objections⟩ hbooks)
      · rw [hvalid, hone.valid, List.length_cons, List.length_cons, Nat.succ_inj,
          List.forall_mem_cons]
        tauto
      · exact List.forall_mem_cons.2 ⟨hone.readable, hread⟩

theorem readRows_total (h : ∀ row ∈ counted t.seen rows, Readable capturedAt watermark row) :
    ∃ t', rows.foldlM (readRow .exact capturedAt sessionDate watermark) t = .ok t' := by
  induction rows generalizing t with
  | nil => exact ⟨t, rfl⟩
  | cons row rows ih =>
    unfold counted at h; split at h
    · rename_i hold; obtain ⟨t', ht'⟩ := ih (t := { t with valid := false }) h
      refine ⟨t', ?_⟩; rw [List.foldlM_cons]; unfold readRow
      rw [if_pos hold]; exact ht'
    · rename_i hnew; obtain ⟨hrow, hrest⟩ := List.forall_mem_cons.1 h
      obtain ⟨t₁, ht₁⟩ : ∃ t₁, readRow .exact capturedAt sessionDate watermark t row = .ok t₁ :=
        readRow_total hrow
      have hseen : t₁.seen = row.id.str :: t.seen := (readRow_books hnew ht₁).seen
      rw [← hseen] at hrest; obtain ⟨t', ht'⟩ := ih hrest; refine ⟨t', ?_⟩
      rw [List.foldlM_cons, ht₁]; exact ht'

end Reading

end Quantbot.L4.SessionCapital
