import Quantbot.L5Operations.AlertDeliveries

/-!
# Alert delivery is exactly once

`alerts_exactly_once`: in every run whose bindings all meet `OwnSource`, in every reachable
state, the classified events are the first events of the source after the baseline, in
order; the queued ones have one delivery each; a delivery is posted at most once, always
with the text it was queued with; and its row holds the URL of a comment with that text.

`ingest` compares the stored source with its own path in one statement and inserts its own
in the next, and `INSERT OR IGNORE` says nothing when a row is there. `OwnSource` asks that
the insert finds no source or the call's own. `foreign_source_ingested` is a run in which
it does not: the call for `b.db` passes the comparison, another one binds the queue to
`a.db`, and event 5 of `b.db` is classified, which moves the cursor past events of `a.db`
that nobody ever classifies. `initialize_source` makes the same comparison inside its write
transaction.

The proof follows positions in the source: a process that read its cursor knows a position
at most the number of events classified so far, and inserts only where the two are equal,
because `event_id` is a primary key.
-/
set_option linter.unusedSectionVars false
namespace Quantbot.L5.AlertDispatch

open Core

variable {W : Type} [DecidableEq W] {F : EnvelopeFormat W}

/-! ## Ascending ids -/

/-- `MAX` over a base and some ids. -/
def highest (base : Nat) (ids : List Nat) : Nat := ids.foldl max base

variable {base j p : Nat} {ids : List Nat}

theorem highest_max (base : Nat) (ids : List Nat) : highest base ids ∈ base :: ids ∧
    ∀ x ∈ base :: ids, x ≤ highest base ids := List.max?_eq_some_iff.1 rfl

theorem highest_lt_iff {n : Nat} : highest base ids < n ↔ base < n ∧ ∀ x ∈ ids, x < n := by
  obtain ⟨hmem, hle⟩ := highest_max base ids
  have hall : highest base ids < n ↔ ∀ x ∈ base :: ids, x < n :=
    ⟨fun h x hx => (hle x hx).trans_lt h, fun h => h _ hmem⟩
  rw [hall, List.forall_mem_cons]

/-- The rows above the highest of the first `j` are the rest. -/
theorem filter_highest {rows : List SourceRow} (hasc : (rows.map (·.id)).Pairwise (· < ·))
    (hbase : ∀ row ∈ rows, base < row.id) :
    rows.filter (fun row => highest base ((rows.take j).map (·.id)) < row.id) = rows.drop j := by
  have hcross : ∀ x ∈ rows.take j, ∀ y ∈ rows.drop j, x.id < y.id := by
    have hpair : (rows.take j ++ rows.drop j).Pairwise (fun a b => a.id < b.id) := by
      rw [List.take_append_drop]; exact List.pairwise_map.1 hasc
    exact (List.pairwise_append.1 hpair).2.2
  set top := highest base ((rows.take j).map (·.id)) with htop
  calc rows.filter (fun row => top < row.id)
      = (rows.take j).filter (fun row => top < row.id)
          ++ (rows.drop j).filter (fun row => top < row.id) := by
        rw [← List.filter_append, List.take_append_drop]
    _ = [] ++ rows.drop j := by
        congr 1
        · rw [List.filter_eq_nil_iff]; intro x hx
          have hle : x.id ≤ top :=
            (highest_max _ _).2 _ (List.mem_cons_of_mem _ (List.mem_map_of_mem hx))
          simp only [decide_eq_true_eq]; omega
        · rw [List.filter_eq_self]; intro y hy; simp only [decide_eq_true_eq]
          rw [htop, highest_lt_iff]
          refine ⟨hbase y (List.mem_of_mem_drop hy), ?_⟩; intro n hn
          obtain ⟨x, hx, rfl⟩ := List.mem_map.1 hn; exact hcross x hx y hy
    _ = rows.drop j := List.nil_append _

/-! ## What the source's rows became -/

/-- The event id the commission started after. -/
def baseline : List Ingested → Nat
  | ⟨n, .baseline⟩ :: _ => n
  | _ => 0

/-- The classified events. -/
def classified (rows : List Ingested) : List Ingested := rows.filter fun row => row.status ≠ .baseline

/-- The events after the baseline. -/
def todo (rows : List Ingested) (events : List SourceRow) : List SourceRow :=
  events.filter fun row => baseline rows < row.id

variable {row : Ingested} {rows : List Ingested}

theorem baseline_push (h : row.status ≠ .baseline) : baseline (rows ++ [row]) = baseline rows := by
  cases rows with
  | nil =>
    obtain ⟨n, status⟩ := row
    cases status with
    | baseline => exact absurd rfl h
    | _ => rfl
  | cons first rest =>
    obtain ⟨n, status⟩ := first; cases status <;> rfl

theorem classified_push (h : row.status ≠ .baseline) :
    classified (rows ++ [row]) = classified rows ++ [row] := by
  simp [classified, List.filter_append, h]

theorem baseline_baselineRows (n : Nat) : baseline (baselineRows n) = n := by
  unfold baselineRows; split
  · rename_i hn; exact hn.symm
  · rfl

theorem classified_baselineRows (n : Nat) : classified (baselineRows n) = [] := by
  unfold baselineRows; split <;> rfl

variable {q : DeliveryQueue W}

/-- `cursor` is the highest of the baseline and the classified events. -/
theorem cursor_eq (h : q.ingested = baselineRows (baseline q.ingested) ++ classified q.ingested) :
    q.cursor = highest (baseline q.ingested) ((classified q.ingested).map (·.eventId)) := by
  unfold DeliveryQueue.cursor; generalize baseline q.ingested = base at h ⊢
  generalize classified q.ingested = done at h ⊢; rw [h]
  unfold baselineRows highest; split
  · rename_i hbase; rw [hbase, List.nil_append]
  · simp

/-- What a process under way knows of its source: its position is one the classified
events have reached. -/
def Knows (source : Option String) (rows : List Ingested) (events : String → List SourceRow) :
    Phase W → Prop
  | .bound path _ => source = some path
  | .positioned path cursor _ => source = some path ∧ ∃ j, j ≤ (classified rows).length ∧
      cursor = highest (baseline rows) (((classified rows).take j).map (·.eventId))
  | .classifying path todoRows _ => source = some path ∧ ∃ j, j ≤ (classified rows).length ∧
      todoRows <+: (todo rows (events path)).drop j
  | .commissioning path cursor _ _ => cursor = 0 ∨ cursor ∈ (events path).map (·.id)
  | _ => True

/-- What the runs keep of the classification. -/
structure Followed (F : EnvelopeFormat W) (s : System W) : Prop where
  ascending : ∀ path, ((s.sources path).events.map (·.id)).Pairwise (· < ·)
  positive : ∀ path, ∀ row ∈ (s.sources path).events, 0 < row.id
  unbound : s.queue.source = none → s.queue.ingested = [] ∧ s.raised = []
  split : s.queue.ingested =
    baselineRows (baseline s.queue.ingested) ++ classified s.queue.ingested
  base : ∀ path, s.queue.source = some path → baseline s.queue.ingested = 0 ∨
    baseline s.queue.ingested ∈ (s.sources path).events.map (·.id)
  order : ∀ path, s.queue.source = some path → (classified s.queue.ingested).map (·.eventId) <+:
    (todo s.queue.ingested (s.sources path).events).map (·.id)
  statuses : ∀ path, s.queue.source = some path → ∀ row ∈ classified s.queue.ingested,
    ∃ e ∈ (s.sources path).events, e.id = row.eventId ∧
      ∃ i now, row.status = (classify F e.document i now).1
  raisedIds : s.raised.map Prod.fst =
    ((classified s.queue.ingested).filter fun row => row.status = .queued).map (·.eventId)
  raisedOnce : (s.raised.map Prod.snd).Nodup
  raisedRows : ∀ path, s.queue.source = some path → ∀ x ∈ s.raised,
    ∃ d ∈ s.queue.deliveries, d.id = x.2 ∧ ∃ e ∈ (s.sources path).events, e.id = x.1 ∧
      ∃ event i now, e.document = some event ∧ event.wanted = true ∧
        encodeEvent F event i now = some d.wire
  raisedHere : ∀ x ∈ s.raised, x.2 ∈ s.queue.deliveries.map (·.id)
  knows : ∀ p, Knows s.queue.source s.queue.ingested (fun path => (s.sources path).events)
    (s.phase p)

/-! ### Steps that classify nothing -/

/-- The source, what was classified and the events are as before; a process that moves
knows what its phase says. -/
structure Steady (s s' : System W) : Prop where
  ingested : s'.queue.ingested = s.queue.ingested
  source : s'.queue.source = s.queue.source
  events : ∀ path, (s'.sources path).events = (s.sources path).events
  raised : s'.raised = s.raised
  rows : ∀ d ∈ s.queue.deliveries, ∃ d' ∈ s'.queue.deliveries, d'.id = d.id ∧ d'.wire = d.wire
  phases : ∀ r, s'.phase r = s.phase r ∨
    Knows s.queue.source s.queue.ingested (fun path => (s.sources path).events) (s'.phase r)

variable {s : System W} {s' : System W}

theorem Steady.followed (h : Steady s s') (hs : Followed F s) : Followed F s' := by
  constructor
  · intro path; rw [h.events path]; exact hs.ascending path
  · intro path; rw [h.events path]; exact hs.positive path
  · rw [h.source, h.ingested, h.raised]; exact hs.unbound
  · rw [h.ingested]; exact hs.split
  · intro path; rw [h.source, h.ingested, h.events path]; exact hs.base path
  · intro path; rw [h.source, h.ingested, h.events path]; exact hs.order path
  · intro path; rw [h.source, h.ingested, h.events path]; exact hs.statuses path
  · rw [h.raised, h.ingested]; exact hs.raisedIds
  · rw [h.raised]; exact hs.raisedOnce
  · intro path; rw [h.source, h.raised, h.events path]; intro hsource x hx
    obtain ⟨d, hd, hid, e, he, hex, event, i, now, hdoc, hwanted, henc⟩ :=
      hs.raisedRows path hsource x hx
    obtain ⟨d', hd', hid', hwire'⟩ := h.rows d hd
    exact ⟨d', hd', hid'.trans hid, e, he, hex, event, i, now, hdoc, hwanted, hwire' ▸ henc⟩
  · rw [h.raised]; intro x hx
    obtain ⟨d, hd, hid⟩ := List.mem_map.1 (hs.raisedHere x hx)
    obtain ⟨d', hd', hid', -⟩ := h.rows d hd
    exact List.mem_map.2 ⟨d', hd', hid'.trans hid⟩
  · intro p
    have hev : (fun path => (s'.sources path).events) = fun path => (s.sources path).events :=
      funext h.events
    rw [h.source, h.ingested, hev]; rcases h.phases p with hp | hp
    · rw [hp]; exact hs.knows p
    · exact hp

variable {k : Phase W}

theorem goto_steady (s : System W) (p : Nat)
    (hk : Knows s.queue.source s.queue.ingested (fun path => (s.sources path).events) k) :
    Steady s (s.goto p k) := by
  refine ⟨rfl, rfl, fun _ => rfl, rfl, fun d hd => ⟨d, hd, rfl, rfl⟩, ?_⟩
  intro r
  rcases goto_phase (s := s) (p := p) (r := r) (k := k) rfl with ⟨-, hr⟩ | ⟨-, hr⟩
  · rw [hr]; exact .inr hk
  · exact .inl hr.symm

theorem goto_followed (hs : Followed F s)
    (hk : Knows s.queue.source s.queue.ingested (fun path => (s.sources path).events) k) :
    Followed F (s.goto p k) :=
  (goto_steady s p hk).followed hs

theorem leave_steady (s : System W) (p : Nat) : Steady s (s.leave p) := by
  have h := goto_steady s p (k := .idle) trivial
  exact ⟨h.ingested, h.source, h.events, h.raised, h.rows, h.phases⟩

theorem leave_followed (hs : Followed F s) (p : Nat) : Followed F (s.leave p) :=
  (leave_steady s p).followed hs

section Writes

variable {s : System W} (p : Nat) (next : Phase W)

theorem writes_busy (h : s.lock.isSome) (transaction : Option (DeliveryQueue W)) :
    s.writes p transaction next = s.leave p := by
  rw [System.writes.eq_def, if_pos h]

theorem writes_failed : s.writes p none next = s.leave p := by
  rw [System.writes.eq_def]; split <;> rfl

theorem writes_done (h : ¬ s.lock.isSome) (q : DeliveryQueue W) :
    s.writes p (some q) next = { s.goto p next with queue := q } := by
  rw [System.writes.eq_def, if_neg h]

end Writes

theorem writes_steady {s : System W} {p : Nat} {transaction : Option (DeliveryQueue W)}
    {next : Phase W}
    (hnext : Knows s.queue.source s.queue.ingested (fun path => (s.sources path).events) next)
    (hsame : ∀ q, transaction = some q → q.ingested = s.queue.ingested ∧
      q.source = s.queue.source ∧ ∀ d ∈ s.queue.deliveries, d ∈ q.deliveries) :
    Steady s (s.writes p transaction next) := by
  unfold System.writes; split
  · exact leave_steady s p
  split
  · exact leave_steady s p
  rename_i q; obtain ⟨hi, hsource, hrows⟩ := hsame q rfl
  have h := goto_steady s p hnext
  exact ⟨hi, hsource, h.events, h.raised, fun d hd => ⟨d, hrows d hd, rfl, rfl⟩, h.phases⟩

/-! ### Steps of the source -/

theorem todo_append {events extra : List SourceRow} :
    todo rows (events ++ extra) = todo rows events ++ todo rows extra :=
  List.filter_append ..

variable {events : String → List SourceRow} {source : Option String}

theorem knows_append {events' : String → List SourceRow}
    (h : ∀ path, events path <+: events' path) (hk : Knows source rows events k) :
    Knows source rows events' k := by
  cases k with
  | classifying path todoRows now =>
    obtain ⟨hsource, j, hj, hrows⟩ := hk; obtain ⟨extra, hextra⟩ := h path
    refine ⟨hsource, j, hj, hrows.trans ?_⟩
    rw [← hextra, todo_append, List.drop_append]; exact List.prefix_append ..
  | commissioning path cursor alerts now =>
    rcases hk with hk | hk
    · exact .inl hk
    · exact .inr (List.map_subset _ (h path).subset hk)
  | _ => exact hk

variable {path : String}

theorem append_followed (hs : Followed F s) {row : SourceRow}
    (hafter : ∀ e ∈ (s.sources path).events, e.id < row.id) (hpos : 0 < row.id) :
    Followed F (s.setSource path
      { s.sources path with events := (s.sources path).events ++ [row] }) := by
  set s' := s.setSource path { s.sources path with events := (s.sources path).events ++ [row] }
    with hs'
  have hat : (s'.sources path).events = (s.sources path).events ++ [row] := by
    simp [hs', System.setSource]
  have helse : ∀ r, r ≠ path → (s'.sources r).events = (s.sources r).events := by
    intro r hr; simp [hs', System.setSource, hr]
  have hgrown : ∀ r, (s.sources r).events <+: (s'.sources r).events := by
    intro r; by_cases hr : r = path
    · rw [hr, hat]; exact List.prefix_append ..
    · rw [helse r hr]
  constructor
  · intro r; by_cases hr : r = path
    · rw [hr, hat, List.map_append, List.pairwise_append]
      refine ⟨hs.ascending path, by simp, ?_⟩; intro a ha b hb
      obtain ⟨e, he, rfl⟩ := List.mem_map.1 ha
      have hb' : b = row.id := by simpa using hb
      rw [hb']; exact hafter e he
    · rw [helse r hr]; exact hs.ascending r
  · intro r e he; by_cases hr : r = path
    · rw [hr, hat] at he; rcases List.mem_append.1 he with he | he
      · exact hs.positive path e he
      · rw [List.mem_singleton.1 he]; exact hpos
    · rw [helse r hr] at he; exact hs.positive r e he
  · exact hs.unbound
  · exact hs.split
  · intro r hr; rcases hs.base r hr with h | h
    · exact .inl h
    · exact .inr (List.map_subset _ (hgrown r).subset h)
  · intro r hr; obtain ⟨extra, hextra⟩ := hgrown r
    refine (hs.order r hr).trans ?_; rw [← hextra, todo_append, List.map_append]
    exact List.prefix_append ..
  · intro r hr x hx; obtain ⟨e, he, hex⟩ := hs.statuses r hr x hx
    exact ⟨e, (hgrown r).subset he, hex⟩
  · exact hs.raisedIds
  · exact hs.raisedOnce
  · intro r hr x hx; obtain ⟨d, hd, hid, e, he, hex⟩ := hs.raisedRows r hr x hx
    exact ⟨d, hd, hid, e, (hgrown r).subset he, hex⟩
  · exact hs.raisedHere
  · intro p; exact knows_append hgrown (hs.knows p)

/-! ### Steps that bind the source -/

theorem knows_unbound (h : Knows none rows events k) (source : Option String)
    (rows' : List Ingested) : Knows source rows' events k := by
  cases k with
  | bound path now => cases h
  | positioned _ _ _ | classifying _ _ _ => cases h.1
  | _ => exact h

theorem bound_followed (hs : Followed F s) (hnone : s.queue.source = none) (cursor : Nat)
    (hsource : q.source = some path) (hingested : q.ingested = baselineRows cursor)
    (hcursor : cursor = 0 ∨ cursor ∈ (s.sources path).events.map (·.id))
    (hk : Knows (some path) (baselineRows cursor) (fun r => (s.sources r).events) k) :
    Followed F { s.goto p k with queue := q } := by
  obtain ⟨hempty, hraised⟩ := hs.unbound hnone
  have hb : baseline q.ingested = cursor := by
    rw [hingested]; exact baseline_baselineRows cursor
  have hc : classified q.ingested = [] := by
    rw [hingested]; exact classified_baselineRows cursor
  constructor
  · exact hs.ascending
  · exact hs.positive
  · intro h; cases hsource.symm.trans h
  · show q.ingested = _; rw [hb, hc, List.append_nil]; exact hingested
  · intro r hr; cases hsource.symm.trans hr; rw [hb]; exact hcursor
  · intro r hr; rw [hc]; exact List.nil_prefix
  · intro r hr x hx; rw [hc] at hx; cases hx
  · show s.raised.map _ = ((classified q.ingested).filter _).map _
    rw [hc, hraised]; rfl
  · exact hs.raisedOnce
  · intro r hr x hx; change x ∈ s.raised at hx; rw [hraised] at hx; cases hx
  · intro x hx; change x ∈ s.raised at hx; rw [hraised] at hx; cases hx
  · intro r; rw [hsource, hingested]
    rcases goto_phase (s := s) (p := p) (r := r) (k := k) rfl with ⟨-, hr⟩ | ⟨-, hr⟩
    · rw [hr]; exact hk
    · rw [← hr]; have hold := hs.knows r; rw [hnone] at hold
      exact knows_unbound hold _ _

/-! ### The classification of one event -/

theorem rowsAfter_prefix (hs : Followed F s) (hsource : s.queue.source = some path)
    (hj : j ≤ (classified s.queue.ingested).length) :
    s.rowsAfter path (highest (baseline s.queue.ingested)
        (((classified s.queue.ingested).take j).map (·.eventId))) <+:
      (todo s.queue.ingested (s.sources path).events).drop j := by
  set events := (s.sources path).events with hevents
  set base := baseline s.queue.ingested with hbase
  set done := classified s.queue.ingested with hdone
  set rest := todo s.queue.ingested events with hrest
  have hids : (done.take j).map (·.eventId) = (rest.take j).map (·.id) := by
    have htake := List.prefix_iff_eq_take.1 (hs.order path hsource)
    rw [List.map_take, List.map_take, htake, List.take_take, List.length_map, Nat.min_eq_left hj]
  have hasc : (rest.map (·.id)).Pairwise (· < ·) :=
    (hs.ascending path).sublist (List.Sublist.map _ List.filter_sublist)
  have habove : ∀ row ∈ rest, base < row.id := by
    intro row hrow; simpa using (List.mem_filter.1 hrow).2
  have hfilter : events.filter (fun row => highest base ((rest.take j).map (·.id)) < row.id)
      = rest.drop j := by
    rw [← filter_highest hasc habove, hrest, todo, List.filter_filter]
    refine List.filter_congr ?_; intro row _
    rw [← hbase, eq_comm, Bool.and_eq_left_iff_imp]; intro h
    simp only [decide_eq_true_eq] at h ⊢; exact (highest_lt_iff.1 h).1
  unfold System.rowsAfter; rw [hids, ← hevents, hfilter]
  exact List.take_prefix ..

/-- A process inserts its next row only where it has reached the last classified one. -/
theorem next_position (hs : Followed F s) {row : SourceRow} {rows : List SourceRow}
    (hsource : s.queue.source = some path) (hj : j ≤ (classified s.queue.ingested).length)
    (hrows : (row :: rows) <+: (todo s.queue.ingested (s.sources path).events).drop j)
    (hnew : row.id ∉ s.queue.ingested.map (·.eventId)) :
    j = (classified s.queue.ingested).length := by
  by_contra hne; have hlt : j < (classified s.queue.ingested).length := by omega
  have hget : (todo s.queue.ingested (s.sources path).events)[j]? = some row := by
    obtain ⟨t, ht⟩ := hrows
    have h0 : ((todo s.queue.ingested (s.sources path).events).drop j)[0]?
        = (todo s.queue.ingested (s.sources path).events)[j + 0]? := List.getElem?_drop
    rw [← ht] at h0; simpa using h0.symm
  have hmem : row.id ∈ (classified s.queue.ingested).map (·.eventId) := by
    rw [List.prefix_iff_eq_take.1 (hs.order path hsource)]
    refine List.mem_of_getElem? (i := j) ?_
    rw [List.getElem?_take_of_lt (by simpa using hlt), List.getElem?_map, hget]
    rfl
  refine hnew ?_; rw [hs.split, List.map_append]
  exact List.mem_append_right _ hmem

theorem knows_push (hrow : row.status ≠ .baseline)
    (hk : Knows source rows events k) : Knows source (rows ++ [row]) events k := by
  cases k with
  | positioned path cursor now =>
    obtain ⟨hsource, j, hj, hcursor⟩ := hk; refine ⟨hsource, j, ?_, ?_⟩
    · rw [classified_push hrow, List.length_append]; omega
    · rw [classified_push hrow, List.take_append_of_le_length hj, baseline_push hrow]
      exact hcursor
  | classifying path todoRows now =>
    obtain ⟨hsource, j, hj, hrows⟩ := hk; refine ⟨hsource, j, ?_, ?_⟩
    · rw [classified_push hrow, List.length_append]; omega
    · unfold todo at hrows ⊢; rw [baseline_push hrow]; exact hrows
  | _ => exact hk

variable {now : Int}

theorem classified_followed {s : System W} (hs : Followed F s) {p : Nat} {path : String}
    {row : SourceRow} {rest : List SourceRow} {now : Int} {i : Uuid} {q : DeliveryQueue W}
    {status : Status} {delivery : Option (Uuid × W)}
    (hp : s.phase p = .classifying path (row :: rest) now)
    (hc : classify F row.document i now = (status, delivery))
    (hnew : row.id ∉ s.queue.ingested.map (·.eventId))
    (hfresh : ∀ j wire, delivery = some (j, wire) → (s.queue.find j).isSome = false)
    (hq : q = { s.queue with
      ingested := s.queue.ingested ++ [⟨row.id, status⟩]
      deliveries := s.queue.deliveries ++ (delivery.map fun x => ⟨x.1, x.2, none⟩).toList }) :
    Followed F { s.goto p (.classifying path rest now) with
      queue := q
      raised := s.raised ++ (delivery.map fun x => (row.id, x.1)).toList } := by
  have hknows := hs.knows p
  rw [hp] at hknows
  obtain ⟨hsource, j, hj, hrows⟩ := hknows
  have hjlen := next_position hs hsource hj hrows hnew
  obtain ⟨hstatus, hqueued, hdelivery⟩ := classify_cases hc
  obtain ⟨tail, htail⟩ := hrows
  set ingested := s.queue.ingested with hing
  set events := (s.sources path).events with hevents
  have hrow : (⟨row.id, status⟩ : Ingested).status ≠ .baseline := hstatus
  have hqi : q.ingested = ingested ++ [⟨row.id, status⟩] := by rw [hq]
  have hqs : q.source = s.queue.source := by rw [hq]
  have hqd : q.deliveries = s.queue.deliveries
      ++ (delivery.map fun x => (⟨x.1, x.2, none⟩ : Delivery W)).toList := by rw [hq]
  have hmem : row ∈ events := by
    have hdrop : row ∈ (todo ingested events).drop j := by
      rw [← htail]
      exact List.mem_cons_self
    exact List.mem_of_mem_filter (List.mem_of_mem_drop hdrop)
  have htodo : todo (ingested ++ [⟨row.id, status⟩]) events = todo ingested events := by
    unfold todo
    rw [baseline_push hrow]
  constructor
  · exact hs.ascending
  · exact hs.positive
  · intro h
    rw [show q.source = none from h] at hqs
    rw [hsource] at hqs
    cases hqs
  · show q.ingested = baselineRows (baseline q.ingested) ++ classified q.ingested
    rw [hqi, baseline_push hrow, classified_push hrow, ← List.append_assoc, ← hs.split]
  · intro r hr
    rw [hqi, baseline_push hrow]
    exact hs.base r (hqs ▸ hr)
  · intro r hr
    have hr' : path = r := Option.some.inj (hsource.symm.trans (hqs ▸ hr))
    subst hr'
    show (classified q.ingested).map _ <+: (todo q.ingested events).map _
    rw [hqi, classified_push hrow, htodo, List.map_append]
    -- the row stands right after the classified ones
    have hdone : (classified ingested).map (·.eventId) = ((todo ingested events).take j).map (·.id) := by
      rw [List.prefix_iff_eq_take.1 (hs.order path hsource), List.length_map, ← hjlen,
        List.map_take]
    rw [hdone]
    refine ⟨(rest ++ tail).map (·.id), ?_⟩
    calc ((todo ingested events).take j).map (·.id) ++ [row.id] ++ (rest ++ tail).map (·.id)
        = ((todo ingested events).take j).map (·.id) ++ (row :: rest ++ tail).map (·.id) := by simp
      _ = ((todo ingested events).take j ++ (todo ingested events).drop j).map (·.id) := by
          rw [htail, List.map_append]
      _ = (todo ingested events).map (·.id) := by rw [List.take_append_drop]
  · intro r hr x hx
    have hr' : path = r := Option.some.inj (hsource.symm.trans (hqs ▸ hr))
    subst hr'
    rw [hqi, classified_push hrow] at hx
    rcases List.mem_append.1 hx with hx | hx
    · exact hs.statuses path hsource x hx
    · rw [List.mem_singleton.1 hx]
      exact ⟨row, hmem, rfl, i, now, by rw [hc]⟩
  · show (s.raised ++ _).map Prod.fst = ((classified q.ingested).filter _).map _
    rw [hqi, classified_push hrow, List.filter_append, List.map_append, List.map_append,
      hs.raisedIds]
    congr 1
    cases delivery with
    | none =>
      have hne : status ≠ .queued := by
        intro h
        have hsome := hqueued.1 h
        simp at hsome
      simp [hne]
    | some x =>
      have heq : status = .queued := hqueued.2 rfl
      simp [heq]
  · show ((s.raised ++ _).map Prod.snd).Nodup
    cases hd : delivery with
    | none => simpa using hs.raisedOnce
    | some x =>
      rw [List.map_append, List.nodup_append]
      refine ⟨hs.raisedOnce, by simp, ?_⟩
      intro a ha b hb hab
      have hb' : b = x.1 := by simpa using hb
      obtain ⟨y, hy, rfl⟩ := List.mem_map.1 ha
      have hhere := find_isSome_iff.2 (hs.raisedHere y hy)
      rw [hab, hb', hfresh x.1 x.2 hd] at hhere
      cases hhere
  · intro r hr x hx
    have hr' : path = r := Option.some.inj (hsource.symm.trans (hqs ▸ hr))
    subst hr'
    rcases List.mem_append.1 hx with hx | hx
    · obtain ⟨d, hd, hrest⟩ := hs.raisedRows path hsource x hx
      exact ⟨d, hqd ▸ List.mem_append_left _ hd, hrest⟩
    cases hd : delivery with
    | none => simp [hd] at hx
    | some y =>
      obtain ⟨event, hdoc, hwanted, henc, -⟩ := hdelivery y.1 y.2 hd
      have hx' : x = (row.id, y.1) := by simpa [hd] using hx
      rw [hx']
      refine ⟨⟨y.1, y.2, none⟩, ?_, rfl, row, hmem, rfl, event, i, now, hdoc, hwanted, henc⟩
      rw [hqd, hd]
      simp
  · intro x hx
    rw [hqd, List.map_append]
    rcases List.mem_append.1 hx with hx | hx
    · exact List.mem_append_left _ (hs.raisedHere x hx)
    cases hd : delivery with
    | none => simp [hd] at hx
    | some y =>
      have hx' : x = (row.id, y.1) := by simpa [hd] using hx
      simp [hx']
  · intro r
    rw [hqs, hqi]
    rcases goto_phase (s := s) (p := p) (r := r) (k := .classifying path rest now) rfl with
      ⟨-, hr⟩ | ⟨-, hr⟩
    · rw [hr]
      refine ⟨hsource, j + 1, ?_, ?_⟩
      · rw [classified_push hrow, List.length_append, ← hjlen]
        exact Nat.le_refl _
      · show rest <+: (todo (ingested ++ [⟨row.id, status⟩]) events).drop (j + 1)
        rw [htodo, ← List.tail_drop, ← htail]
        exact List.prefix_append ..
    · rw [← hr]
      exact knows_push hrow (hs.knows r)

/-! ## Runs -/

/-- A binding finds no source or the call's own, unless the lock ends the call. -/
def ownSource (s : System W) : Label W → Bool
  | .bind p =>
    match s.phase p with
    | .ingesting path _ => s.lock.isSome || s.queue.source.all (· = path)
    | _ => true
  | _ => true

def OwnSource (s : System W) (l : Label W) (_ : System W) : Prop := ownSource s l = true

theorem bind_followed (hs : Followed F s)
    (hown : s.lock.isSome ∨ s.queue.source = none ∨ s.queue.source = some path) :
    Followed F (s.writes p (some (s.bindSource path)) (.bound path now)) := by
  by_cases hlock : s.lock.isSome
  · rw [writes_busy _ _ hlock]; exact leave_followed hs p
  rw [writes_done _ _ hlock]; rcases hown.resolve_left hlock with hnone | hsome
  · refine bound_followed hs hnone 0 ?_ ?_ (.inl rfl) rfl
    · simp [System.bindSource, hnone]
    · exact (hs.unbound hnone).1
  have hsame : s.bindSource path = s.queue := by
    unfold System.bindSource; rw [hsome, Option.getD_some, ← hsome]
  rw [hsame]; exact (goto_steady s p (k := .bound path now) hsome).followed hs

theorem classify_followed (hs : Followed F s) {i : Uuid} : Followed F (s.classifyRow F p i) := by
  unfold System.classifyRow; split
  · rename_i path row rest now hp; by_cases hlock : s.lock.isSome
    · rw [writes_busy _ _ hlock]
      obtain ⟨r, hr⟩ := Option.isSome_iff_exists.1 hlock; rw [hr]
      exact leave_followed hs p
    have hfree : s.lock = none := by simpa using hlock
    cases hq : s.queue.ingestRow F row i now with
    | none =>
      rw [writes_failed, hfree]; exact leave_followed hs p
    | some q =>
      obtain ⟨status, delivery, hc, hnew, hfresh, hq'⟩ := ingestRow_some hq
      have hnext := classified_followed hs hp hc hnew hfresh hq'
      rw [writes_done _ _ hlock, hfree, hc]
      cases delivery with
      | none =>
        have hraised : s.raised ++ ((none : Option (Uuid × W)).map fun x => (row.id, x.1)).toList
            = s.raised := List.append_nil _
        rw [hraised] at hnext; exact hnext
      | some x => exact hnext
  · exact leave_followed hs p

theorem commission_followed (hs : Followed F s) {cursor : Nat}
    {alerts : List (Option SourceEvent)} (ids : List Uuid)
    (hp : s.phase p = .commissioning path cursor alerts now) :
    Followed F (s.writes p (s.queue.commission F path cursor (alerts.zip ids) now) .idle) := by
  by_cases hlock : s.lock.isSome
  · rw [writes_busy _ _ hlock]; exact leave_followed hs p
  cases hq : s.queue.commission F path cursor (alerts.zip ids) now with
  | none =>
    rw [writes_failed]; exact leave_followed hs p
  | some q =>
    rw [writes_done _ _ hlock]
    obtain ⟨-, hnone, hsource, hingested⟩ := commission_some hq
    rw [(hs.unbound hnone).1, List.nil_append] at hingested
    have hknows := hs.knows p; rw [hp] at hknows
    exact bound_followed hs hnone cursor hsource hingested hknows trivial

theorem fires_followed {l : Label W} (hs : Followed F s)
    (h : fires F s l = some s') (hown : OwnSource s l s') : Followed F s' := by
  cases l with
  | append path row =>
    simp only [fires] at h; split at h
    · rename_i hafter; split at h
      · rename_i hpos; cases h; exact append_followed hs hafter hpos
      · cases h
    · cases h
  | alerts path alerts =>
    cases h
    refine Steady.followed (s := s) ⟨rfl, rfl, ?_, rfl, fun d hd => ⟨d, hd, rfl, rfl⟩, fun _ => .inl rfl⟩ hs
    intro r
    show ((if r = path then _ else s.sources r : Source)).events = (s.sources r).events
    split
    · rename_i hr; rw [hr]
    · rfl
  | comment c =>
    cases h
    exact Steady.followed (s := s) ⟨rfl, rfl, fun _ => rfl, rfl, fun d hd => ⟨d, hd, rfl, rfl⟩,
      fun _ => .inl rfl⟩ hs
  | enqueue p source i now =>
    simp only [fires] at h; split at h
    · cases h; unfold System.enqueue; split
      · exact hs
      split
      · exact hs
      split
      · exact hs
      · exact goto_followed hs trivial
    · cases h
  | insert p =>
    simp only [fires] at h; split at h
    · rename_i i wire hp; cases h
      refine Steady.followed (writes_steady trivial ?_) hs; intro q hq; cases hq
      unfold DeliveryQueue.insertOrIgnore; split
      · exact ⟨rfl, rfl, fun _ hd => hd⟩
      · exact ⟨rfl, rfl, fun _ hd => List.mem_append_left _ hd⟩
    · cases h
  | confirmCanary i =>
    simp only [fires] at h; split at h
    · cases h
    cases h; obtain ⟨hd, hi, hsource⟩ := confirmCanary_same (F := F) s.queue i
    refine Steady.followed (s := s) ⟨hi, hsource, fun _ => rfl, rfl, ?_, fun _ => .inl rfl⟩ hs
    exact fun d hm => ⟨d, hd ▸ hm, rfl, rfl⟩
  | ingest p path now =>
    simp only [fires] at h; split at h
    · cases h; unfold System.ingest; split
      · exact hs
      split
      · exact hs
      · exact goto_followed hs trivial
    · cases h
  | bind p =>
    simp only [fires] at h; split at h
    · rename_i path now hp; cases h; refine bind_followed hs ?_
      simp only [OwnSource, ownSource, hp, Bool.or_eq_true] at hown
      rcases hown with hlock | hown
      · exact .inl hlock
      right
      cases hsource : s.queue.source with
      | none => exact .inl rfl
      | some r =>
        rw [hsource] at hown; exact .inr (congrArg some (by simpa using hown))
    · cases h
  | position p =>
    simp only [fires] at h; split at h
    · rename_i path now hp; cases h; have hknows := hs.knows p
      rw [hp] at hknows; refine (goto_steady s p ?_).followed hs
      refine ⟨hknows, (classified s.queue.ingested).length, Nat.le_refl _, ?_⟩
      rw [List.take_length]; exact cursor_eq hs.split
    · cases h
  | readRows p =>
    simp only [fires] at h; split at h
    · rename_i path cursor now hp; cases h; have hknows := hs.knows p
      rw [hp] at hknows; obtain ⟨hsource, j, hj, rfl⟩ := hknows
      exact (goto_steady s p (k := .classifying path _ now)
        ⟨hsource, j, hj, rowsAfter_prefix hs hsource hj⟩).followed hs
    · cases h
  | classify p i =>
    simp only [fires] at h; split at h
    · cases h; exact classify_followed hs
    · cases h
  | initializeSource p path now =>
    simp only [fires] at h; split at h
    · cases h; unfold System.initializeSource; split
      · exact hs
      split
      · exact hs
      · exact (goto_steady s p (k := .commissioning path _ _ now) 
          (List.mem_cons.1 (highest_max 0 _).1)).followed hs
    · cases h
  | commission p ids =>
    simp only [fires] at h; split at h
    · rename_i hp; split at h
      · cases h; exact commission_followed hs ids hp
      · cases h
    · cases h
  | dispatch p =>
    simp only [fires] at h; split at h
    · cases h; unfold System.dispatch; split
      · exact hs
      split
      · exact hs
      split
      · exact hs
      rename_i row _ _
      have hg := goto_steady s p (k := .locked row.id row.wire) trivial
      exact Steady.followed (s := s) ⟨hg.ingested, hg.source, hg.events, hg.raised, hg.rows,
        hg.phases⟩ hs
    · cases h
  | find p answered =>
    simp only [fires] at h; split at h
    · cases h; unfold System.find; split
      · exact leave_followed hs p
      split
      · exact goto_followed hs trivial
      · exact goto_followed hs trivial
      · exact leave_followed hs p
    · cases h
  | post p outcome =>
    simp only [fires] at h; split at h
    · cases h
      cases outcome with
      | lost => exact leave_followed hs p
      | created url reply =>
        unfold System.post; simp only; split
        · have hl := leave_steady s p
          exact Steady.followed (s := s) ⟨hl.ingested, hl.source, hl.events, hl.raised, hl.rows,
            hl.phases⟩ hs
        · rename_i i wire _ _ url' _
          have hg := goto_steady s p (k := .addressed i wire url') trivial
          exact Steady.followed (s := s) ⟨hg.ingested, hg.source, hg.events, hg.raised, hg.rows,
            hg.phases⟩ hs
    · cases h
  | sent p =>
    simp only [fires] at h; split at h
    · rename_i i wire url hp; cases h; have hl := leave_steady s p
      unfold System.sent; split
      · refine Steady.followed (s := s) ⟨rfl, rfl, fun _ => rfl, rfl, ?_, hl.phases⟩ hs
        intro d hd; obtain ⟨d', hd', hid, hwire, -⟩ := mem_setUrl i url hd
        exact ⟨d', hd', hid, hwire⟩
      · exact hl.followed hs
    · cases h
  | crash p =>
    cases h; exact leave_followed hs p

theorem fresh_followed (h : Fresh s) : Followed F s := by
  obtain ⟨hq, -, hidle, -, hraised, hevents⟩ := h; constructor
  · exact fun path => (hevents path).1
  · exact fun path => (hevents path).2
  all_goals simp [hq, hraised, hidle, baseline, classified, baselineRows, Knows]

theorem followed_reachable (h : ((alertRuns F).restrict OwnSource).Reachable s) : Followed F s :=
  have hind : ((alertRuns F).restrict OwnSource).Inductive (Followed F) :=
    ⟨fun _ => fresh_followed, fun _ _ _ hs hst => fires_followed hs hst.1 hst.2⟩
  hind.reachable h

/-- Exactly once: of the source's events after the baseline the first ones are classified,
in order, each as the code classifies it; a queued event has one delivery with its text; a
delivery is posted at most once, with its own text; a stored URL is that of a comment with
exactly that text. -/
structure ExactlyOnce (F : EnvelopeFormat W) (s : System W) : Prop where
  ordered : ∀ path, s.queue.source = some path →
    (classified s.queue.ingested).map (·.eventId) <+:
      (todo s.queue.ingested (s.sources path).events).map (·.id)
  ascending : ∀ path, ((s.sources path).events.map (·.id)).Pairwise (· < ·)
  statuses : ∀ path, s.queue.source = some path → ∀ row ∈ classified s.queue.ingested,
    ∃ e ∈ (s.sources path).events, e.id = row.eventId ∧
      ∃ i now, row.status = (classify F e.document i now).1
  unbound : s.queue.source = none → s.queue.ingested = []
  raisedIds : s.raised.map Prod.fst =
    ((classified s.queue.ingested).filter fun row => row.status = .queued).map (·.eventId)
  raisedOnce : (s.raised.map Prod.snd).Nodup
  raisedRows : ∀ path, s.queue.source = some path → ∀ x ∈ s.raised,
    ∃ d ∈ s.queue.deliveries, d.id = x.2 ∧ ∃ e ∈ (s.sources path).events, e.id = x.1 ∧
      ∃ event i now, e.document = some event ∧ event.wanted = true ∧
        encodeEvent F event i now = some d.wire
  ids : (s.queue.deliveries.map (·.id)).Nodup
  postedOnce : (s.posts.map Prod.fst).Nodup
  postedText : ∀ x ∈ s.posts, ∃ d ∈ s.queue.deliveries, d.id = x.1 ∧ d.wire = x.2
  sentWith : ∀ d ∈ s.queue.deliveries, ∀ url, d.url = some url →
    ∃ c ∈ s.comments, c.htmlUrl = url ∧ c.body = d.wire

/-- **Exactly once**: in every run whose bindings meet `OwnSource`, every reachable state is
as `ExactlyOnce` says, and every further run keeps the deliveries with their texts and
URLs, the posts and the classified events. -/
theorem alerts_exactly_once {s : System W} (h : ((alertRuns F).restrict OwnSource).Reachable s) :
    ExactlyOnce F s ∧ ∀ ls s', ((alertRuns F).restrict OwnSource).Run s ls s' → Kept s s' := by
  have hf := followed_reachable h; have hd := delivered_reachable h.of_restrict
  refine ⟨?_, fun ls s' hr => kept_run hd hr.of_restrict⟩
  exact {
    ordered := hf.order
    ascending := hf.ascending
    statuses := hf.statuses
    unbound := fun hnone => (hf.unbound hnone).1
    raisedIds := hf.raisedIds
    raisedOnce := hf.raisedOnce
    raisedRows := hf.raisedRows
    ids := hd.ids
    postedOnce := hd.once
    postedText := hd.postedRow
    sentWith := hd.sentWith }

/-! ### Two runs -/

/-- Envelopes as texts, `none` for any other text; two codes of the catalogue and one
timestamp. -/
def plainFormat : EnvelopeFormat (Option Envelope) where
  catalog code :=
    if code = "DELIVERY_CANARY" then some ⟨"delivery", "SYNTHETIC_TEST", "Confirm"⟩
    else if code = "LEARNER_NO_PROGRESS" then some ⟨"forecast", "UNEXPLAINED_STALL", "Inspect"⟩
    else none
  timestamp text := if text = "2026-10-01T14:00:00+00:00" then some 0 else none
  dumps := some
  loads := id
  length _ := 400
  loads_dumps _ := rfl

def canaryEvent : SourceEvent :=
  ⟨some "DELIVERY_CANARY", some "CANARY", some "INFO", some "2026-10-01T14:00:00+00:00", none, none⟩

def stalledEvent : SourceEvent :=
  ⟨some "LEARNER_NO_PROGRESS", some "OPENED", some "CRITICAL", some "2026-10-01T14:00:00+00:00",
    none, none⟩

/-- Two alert databases: `a.db` with the events 1 and 2, `b.db` with the event 5. -/
def twoDatabases (path : String) : Source :=
  if path = "a.db" then ⟨[⟨1, some stalledEvent⟩, ⟨2, some stalledEvent⟩], []⟩
  else if path = "b.db" then ⟨[⟨5, some stalledEvent⟩], []⟩
  else ⟨[], []⟩

def twoSources : System (Option Envelope) where
  sources := twoDatabases

theorem twoSources_fresh : Fresh twoSources := by
  refine ⟨rfl, rfl, fun _ => rfl, rfl, rfl, ?_⟩; intro path
  show ((twoDatabases path).events.map (·.id)).Pairwise (· < ·) ∧
    ∀ row ∈ (twoDatabases path).events, 0 < row.id
  unfold twoDatabases; split
  · decide
  split
  · decide
  · decide

/-- The canary is queued, posted and confirmed. -/
def canaryLabels : List (Label (Option Envelope)) :=
  [.enqueue 0 canaryEvent ⟨7, 4⟩ 0, .insert 0, .dispatch 0, .find 0 true,
   .post 0 (.created "https://github.com/jfhutchi/project_elrond/pull/255#issuecomment-1" (some 0)),
   .sent 0, .confirmCanary ⟨7, 4⟩]

/-- One call for `a.db` that is killed after its first event, then another one. -/
def ownLabels : List (Label (Option Envelope)) :=
  [.ingest 1 "a.db" 0, .bind 1, .position 1, .readRows 1, .classify 1 ⟨8, 4⟩, .crash 1,
   .ingest 2 "a.db" 0, .bind 2, .position 2, .readRows 2, .classify 2 ⟨9, 4⟩]

theorem alerts_exactly_once_own :
    ∃ s, s.queue.ingested = [⟨1, .queued⟩, ⟨2, .queued⟩] ∧ ExactlyOnce plainFormat s := by
  have hrun : (((canaryLabels ++ ownLabels).foldlM
      (fun s l => if ownSource s l then fires plainFormat s l else none) twoSources).map
      fun s => s.queue.ingested) = some [⟨1, .queued⟩, ⟨2, .queued⟩] := by
    decide +kernel
  obtain ⟨s, hs, hi⟩ := Option.map_eq_some_iff.1 hrun
  have hr : ((alertRuns plainFormat).restrict OwnSource).Run twoSources (canaryLabels ++ ownLabels) s := by
    refine LTS.Run.of_foldlM ?_ hs; intro s l s' h; split at h
    · rename_i hown; exact ⟨h, hown⟩
    · cases h
  exact ⟨s, hi, (alerts_exactly_once ⟨twoSources, _, twoSources_fresh, hr⟩).1⟩

/-- The call for `b.db` passes the comparison before the queue is bound to `a.db`. -/
def racedLabels : List (Label (Option Envelope)) :=
  [.ingest 1 "b.db" 0, .ingest 2 "a.db" 0, .bind 2, .bind 1, .position 1, .readRows 1,
   .classify 1 ⟨8, 4⟩]

/-- **A foreign source**: the queue is bound to `a.db`, and the only classified event is
event 5 of `b.db`. -/
theorem foreign_source_ingested :
    ∃ s, (alertRuns plainFormat).Reachable s ∧ s.queue.source = some "a.db" ∧
      ¬ ExactlyOnce plainFormat s := by
  have hrun : (((canaryLabels ++ racedLabels).foldlM (fires plainFormat) twoSources).map
      fun s => (s.queue.source, (classified s.queue.ingested).map (·.eventId),
        (todo s.queue.ingested (s.sources "a.db").events).map (·.id)))
      = some (some "a.db", [5], [1, 2]) := by
    decide
  obtain ⟨s, hs, hproj⟩ := Option.map_eq_some_iff.1 hrun
  simp only [Prod.mk.injEq] at hproj; obtain ⟨hsource, hdone, htodo⟩ := hproj
  refine ⟨s, ⟨twoSources, _, twoSources_fresh, LTS.Run.of_foldlM (fun _ _ _ h => h) hs⟩,
    hsource, ?_⟩
  intro hexact; have hinit := hexact.ordered "a.db" hsource
  rw [hdone, htodo] at hinit; revert hinit; decide

end Quantbot.L5.AlertDispatch
