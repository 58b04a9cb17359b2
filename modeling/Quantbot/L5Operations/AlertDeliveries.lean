import Quantbot.L5Operations.AlertDispatch
import Mathlib.Data.List.Nodup
import Mathlib.Data.List.Infix

/-!
# Alert deliveries over every interleaving

`delivered_reachable`, for every run of the processes of `Quantbot.L5.AlertDispatch`, with
crashes at any statement and any behaviour of the server: a delivery is posted at most once,
with the text of its row, and its row holds the URL of a comment with exactly that text.

The write lock is held from the read of the pending row to the `UPDATE`, so two dispatchers
never stand between `find` and `post` together. A dispatcher that dies after the server made
its comment leaves the row pending and the comment visible: the next `find` scans every
comment or refuses (`scanPages_absent`), and a comment made for a delivery names it.
-/
set_option linter.unusedSectionVars false
namespace Quantbot.L5.AlertDispatch

open Core

variable {W : Type} {F : EnvelopeFormat W}

/-! ## The queue's operations on the deliveries -/

variable {q q' : DeliveryQueue W} {i : Uuid}

theorem find_isSome_iff : (q.find i).isSome = true ↔ i ∈ q.deliveries.map (·.id) := by
  simp [DeliveryQueue.find, List.find?_isSome]

/-- The deliveries of a queue stay, and new rows come after them: unsent, under new ids,
each named by its text. What was classified and a bound source stay too. -/
structure QueueGrows (F : EnvelopeFormat W) (q q' : DeliveryQueue W) : Prop where
  rows : ∃ new, q'.deliveries = q.deliveries ++ new ∧ ∀ d ∈ new, d.url = none ∧
    ∀ e, parseComment F d.wire = some e → e.deliveryId = d.id
  ids : (q.deliveries.map (·.id)).Nodup → (q'.deliveries.map (·.id)).Nodup
  ingested : q.ingested <+: q'.ingested
  source : ∀ path, q.source = some path → q'.source = some path

theorem QueueGrows.of_same (h : q'.deliveries = q.deliveries) (hi : q.ingested <+: q'.ingested)
    (hsource : ∀ path, q.source = some path → q'.source = some path) : QueueGrows F q q' :=
  ⟨⟨[], by simp [h], by simp⟩, by rw [h]; exact id, hi, hsource⟩

theorem QueueGrows.refl (q : DeliveryQueue W) : QueueGrows F q q :=
  .of_same rfl (List.prefix_refl _) fun _ h => h

theorem QueueGrows.trans {a b c : DeliveryQueue W} (hab : QueueGrows F a b)
    (hbc : QueueGrows F b c) : QueueGrows F a c := by
  obtain ⟨xs, hxs, hx⟩ := hab.rows; obtain ⟨ys, hys, hy⟩ := hbc.rows
  refine ⟨⟨xs ++ ys, by rw [hys, hxs, List.append_assoc], ?_⟩, fun h => hbc.ids (hab.ids h),
    hab.ingested.trans hbc.ingested, fun path h => hbc.source path (hab.source path h)⟩
  intro d hd; rcases List.mem_append.1 hd with hd | hd
  · exact hx d hd
  · exact hy d hd

variable {d : Delivery W}

theorem QueueGrows.mem (h : QueueGrows F q q') (hd : d ∈ q.deliveries) : d ∈ q'.deliveries := by
  obtain ⟨new, hnew, -⟩ := h.rows; rw [hnew]; exact List.mem_append_left _ hd

variable {wire : W}

theorem grows_push (hfresh : (q.find i).isSome = false)
    (hnamed : ∀ e, parseComment F wire = some e → e.deliveryId = i) :
    QueueGrows F q { q with deliveries := q.deliveries ++ [⟨i, wire, none⟩] } := by
  have hi : i ∉ q.deliveries.map (·.id) := by
    rw [← find_isSome_iff, hfresh]; simp
  refine ⟨⟨[⟨i, wire, none⟩], rfl, ?_⟩, ?_, List.prefix_refl _, fun _ h => h⟩
  · intro d hd; rw [List.mem_singleton.1 hd]; exact ⟨rfl, hnamed⟩
  · intro h; rw [List.map_append, List.nodup_append]; refine ⟨h, by simp, ?_⟩
    intro a ha b hb hab; have hb' : b = i := by simpa using hb
    exact hi (hb' ▸ hab ▸ ha)

theorem insertOrIgnore_grows (hnamed : ∀ e, parseComment F wire = some e → e.deliveryId = i) :
    QueueGrows F q (q.insertOrIgnore i wire) := by
  unfold DeliveryQueue.insertOrIgnore; split
  · exact .refl q
  · rename_i h; exact grows_push (by simpa using h) hnamed

theorem insertDelivery_some (h : q.insertDelivery i wire = some q') :
    (q.find i).isSome = false ∧
      q' = { q with deliveries := q.deliveries ++ [⟨i, wire, none⟩] } := by
  unfold DeliveryQueue.insertDelivery at h; split at h
  · cases h
  · rename_i hf; exact ⟨by simpa using hf, (Option.some.inj h).symm⟩

theorem insertIngested_some {n : Nat} {status : Status} (h : q.insertIngested n status = some q') :
    n ∉ q.ingested.map (·.eventId) ∧
      q' = { q with ingested := q.ingested ++ [⟨n, status⟩] } := by
  unfold DeliveryQueue.insertIngested at h; split at h
  · cases h
  · rename_i hn; exact ⟨hn, (Option.some.inj h).symm⟩

variable {now : Int}

/-- What an event is classified as: a queued one has an encoded text and the id in it. -/
theorem classify_cases {document : Option SourceEvent} {status : Status} {row : Option (Uuid × W)}
    (h : classify F document i now = (status, row)) :
    status ≠ .baseline ∧ (status = .queued ↔ row.isSome = true) ∧
      ∀ j wire, row = some (j, wire) → ∃ event, document = some event ∧ event.wanted = true ∧
        encodeEvent F event i now = some wire ∧
        ∀ e, parseComment F wire = some e → e.deliveryId = j := by
  unfold classify at h
  cases document with
  | none => cases h; simp
  | some event =>
    by_cases hw : event.wanted
    · simp only [hw, if_true] at h
      cases he : encodeEvent F event i now with
      | none => simp only [he] at h; cases h; simp
      | some wire =>
        simp only [he] at h
        cases hp : parseComment F wire with
        | none => simp only [hp] at h; cases h; simp
        | some envelope =>
          simp only [hp] at h; cases h; refine ⟨by simp, by simp, ?_⟩
          intro j wire' hrow; cases hrow; refine ⟨event, rfl, hw, he, ?_⟩
          intro e hpe; rw [hp] at hpe; rw [Option.some.inj hpe]
    · simp only [hw] at h; cases h; simp

/-- The write transaction of one event: one row of `ingested` under a new id, and for a
queued event one delivery under a new id. -/
theorem ingestRow_some {row : SourceRow} (h : q.ingestRow F row i now = some q') :
    ∃ status delivery, classify F row.document i now = (status, delivery) ∧
      row.id ∉ q.ingested.map (·.eventId) ∧
      (∀ j wire, delivery = some (j, wire) → (q.find j).isSome = false) ∧
      q' = { q with
        ingested := q.ingested ++ [⟨row.id, status⟩]
        deliveries := q.deliveries ++ (delivery.map fun x => ⟨x.1, x.2, none⟩).toList } := by
  unfold DeliveryQueue.ingestRow at h
  rcases hc : classify F row.document i now with ⟨status, _ | ⟨j, wire⟩⟩
  · rw [hc] at h
    obtain ⟨hn, rfl⟩ := insertIngested_some h
    exact ⟨status, none, rfl, hn, by simp, by simp⟩
  rw [hc] at h
  obtain ⟨q₁, h₁, h₂⟩ := Option.bind_eq_some_iff.1 h
  obtain ⟨hf, rfl⟩ := insertDelivery_some h₁
  obtain ⟨hn, rfl⟩ := insertIngested_some h₂
  refine ⟨status, some (j, wire), rfl, hn, ?_, rfl⟩
  intro j' wire' hj
  cases hj
  exact hf

theorem ingestRow_grows {row : SourceRow} (h : q.ingestRow F row i now = some q') :
    QueueGrows F q q' := by
  obtain ⟨status, delivery, hc, -, hfresh, rfl⟩ := ingestRow_some h
  cases delivery with
  | none => exact .of_same (by simp) (List.prefix_append ..) fun _ h => h
  | some x =>
    obtain ⟨event, -, -, -, hnamed⟩ := (classify_cases hc).2.2 x.1 x.2 rfl
    exact (grows_push (hfresh x.1 x.2 rfl) hnamed).trans
      (.of_same rfl (List.prefix_append ..) fun _ h => h)

theorem commissionAlert_some {alert : Option SourceEvent × Uuid}
    (h : commissionAlert F now q alert = some q') :
    QueueGrows F q q' ∧ q'.ingested = q.ingested ∧ q'.source = q.source := by
  unfold commissionAlert at h; split at h
  · cases h
  split at h
  · obtain ⟨wire, -, h⟩ := Option.bind_eq_some_iff.1 h
    obtain ⟨envelope, hp, h⟩ := Option.bind_eq_some_iff.1 h
    obtain ⟨hf, rfl⟩ := insertDelivery_some h
    refine ⟨grows_push hf ?_, rfl, rfl⟩; intro e he; rw [hp] at he
    rw [Option.some.inj he]
  · cases h; exact ⟨.refl _, rfl, rfl⟩

variable {alerts : List (Option SourceEvent × Uuid)}

theorem commissionAlerts_some (h : alerts.foldlM (commissionAlert F now) q = some q') :
    QueueGrows F q q' ∧ q'.ingested = q.ingested ∧ q'.source = q.source := by
  induction alerts generalizing q with
  | nil =>
    cases h; exact ⟨.refl _, rfl, rfl⟩
  | cons alert rest ih =>
    obtain ⟨q₁, h₁, h₂⟩ := Option.bind_eq_some_iff.1 h
    obtain ⟨hg, hi, hs⟩ := commissionAlert_some h₁
    obtain ⟨hg', hi', hs'⟩ := ih h₂
    exact ⟨hg.trans hg', hi'.trans hi, hs'.trans hs⟩

/-- The row that stands for the history before the commission. -/
def baselineRows (base : Nat) : List Ingested := if base = 0 then [] else [⟨base, .baseline⟩]

theorem commission_some {path : String} {cursor : Nat}
    (h : q.commission F path cursor alerts now = some q') :
    QueueGrows F q q' ∧ q.source = none ∧ q'.source = some path ∧
      q'.ingested = q.ingested ++ baselineRows cursor := by
  unfold DeliveryQueue.commission at h; split at h
  · cases h
  rename_i hsource; obtain ⟨q₁, h₁, h₂⟩ := Option.bind_eq_some_iff.1 h
  obtain ⟨hg, hi, -⟩ := commissionAlerts_some h₁
  have hnone : q.source = none := by simpa using hsource
  unfold baselineRows; split at h₂
  · rename_i hcursor; cases h₂
    refine ⟨⟨hg.rows, hg.ids, hg.ingested, ?_⟩, hnone, rfl, by simp [hcursor, hi]⟩
    intro r hr; cases hnone.symm.trans hr
  · rename_i hcursor; obtain ⟨-, rfl⟩ := insertIngested_some h₂
    refine ⟨⟨hg.rows, hg.ids, hg.ingested.trans (List.prefix_append ..), ?_⟩, hnone, rfl,
      by simp [hcursor, hi]⟩
    intro r hr; cases hnone.symm.trans hr

theorem confirmCanary_same (q : DeliveryQueue W) (i : Uuid) :
    (q.confirmCanary F i).deliveries = q.deliveries ∧
      (q.confirmCanary F i).ingested = q.ingested ∧ (q.confirmCanary F i).source = q.source := by
  unfold DeliveryQueue.confirmCanary; split
  · exact ⟨rfl, rfl, rfl⟩
  split
  · exact ⟨rfl, rfl, rfl⟩
  · exact ⟨rfl, rfl, rfl⟩

/-! ## What `find` and a reply say -/

variable [DecidableEq W]

variable {page : List (Comment W)} {url : String}

theorem scanPage_url (h : scanPage F i wire page = some (.url url)) :
    ∃ c ∈ page, c.htmlUrl = url ∧ c.body = wire := by
  induction page with
  | nil => cases h
  | cons c rest ih =>
    unfold scanPage at h; split at h
    · split at h
      · rename_i hbody; cases h; exact ⟨c, List.mem_cons_self, rfl, hbody⟩
      · cases h
    · obtain ⟨c', hc', hx⟩ := ih h; exact ⟨c', List.mem_cons_of_mem _ hc', hx⟩

theorem scanPage_none (h : scanPage F i wire page = none) :
    ∀ c ∈ page, ∀ e, acceptComment F c = some e → e.deliveryId ≠ i := by
  induction page with
  | nil => simp
  | cons c rest ih =>
    unfold scanPage at h; split at h
    · split at h <;> cases h
    rename_i hmiss; intro c' hc' e he; rcases List.mem_cons.1 hc' with rfl | hc'
    · simpa [he] using hmiss
    · exact ih h c' hc' e he

theorem scanPage_absent : scanPage F i wire page ≠ some .absent := by
  induction page with
  | nil => simp [scanPage]
  | cons c rest ih =>
    unfold scanPage; split
    · split <;> simp
    · exact ih

variable {comments : List (Comment W)}

theorem scanPages_url {pages : Nat} (h : scanPages F i wire pages comments = .url url) :
    ∃ c ∈ comments, c.htmlUrl = url ∧ c.body = wire := by
  induction pages generalizing comments with
  | zero => cases h
  | succ pages ih =>
    unfold scanPages at h; split at h
    · rename_i found hfound
      obtain ⟨c, hc, hx⟩ := scanPage_url (hfound.trans (congrArg some h))
      exact ⟨c, List.mem_of_mem_take hc, hx⟩
    · split at h
      · cases h
      · obtain ⟨c, hc, hx⟩ := ih h; exact ⟨c, List.mem_of_mem_drop hc, hx⟩

/-- `find` answers none only after it has seen every comment, none of which names the
delivery. -/
theorem scanPages_absent {pages : Nat} (h : scanPages F i wire pages comments = .absent) :
    ∀ c ∈ comments, ∀ e, acceptComment F c = some e → e.deliveryId ≠ i := by
  induction pages generalizing comments with
  | zero => cases h
  | succ pages ih =>
    unfold scanPages at h; split at h
    · rename_i found hfound
      exact absurd (hfound.trans (congrArg some h)) scanPage_absent
    rename_i hnone; intro c hc; rw [← List.take_append_drop 100 comments] at hc
    split at h
    · rename_i hshort
      have hdrop : comments.drop 100 = [] := by
        rw [List.length_take] at hshort; exact List.drop_eq_nil_of_le (by omega)
      rw [hdrop, List.append_nil] at hc; exact scanPage_none hnone c hc
    · rcases List.mem_append.1 hc with hc | hc
      · exact scanPage_none hnone c hc
      · exact ih h c hc

theorem postReply_some {reply : Comment W} (h : postReply F wire reply = some url) :
    reply.htmlUrl = url ∧ reply.body = wire := by
  unfold postReply at h; split at h
  · rename_i hr; exact ⟨Option.some.inj h, hr.2⟩
  · cases h

/-! ## Deliveries over runs -/

/-- The process holds the lock for this delivery. -/
def Phase.sends : Phase W → Uuid → W → Prop
  | .locked i wire, j, w => i = j ∧ wire = w
  | .unfound i wire, j, w => i = j ∧ wire = w
  | .addressed i wire _, j, w => i = j ∧ wire = w
  | _, _, _ => False

/-- What every interleaving keeps of the deliveries, with what the processes under way know. -/
structure Delivered (F : EnvelopeFormat W) (s : System W) : Prop where
  ids : (s.queue.deliveries.map (·.id)).Nodup
  named : ∀ d ∈ s.queue.deliveries, ∀ e, parseComment F d.wire = some e → e.deliveryId = d.id
  sentWith : ∀ d ∈ s.queue.deliveries, ∀ url, d.url = some url →
    ∃ c ∈ s.comments, c.htmlUrl = url ∧ c.body = d.wire
  once : (s.posts.map Prod.fst).Nodup
  postedRow : ∀ x ∈ s.posts, ∃ d ∈ s.queue.deliveries, d.id = x.1 ∧ d.wire = x.2
  postedComment : ∀ x ∈ s.posts, ∃ c ∈ s.comments, ∃ e,
    acceptComment F c = some e ∧ e.deliveryId = x.1
  waiting : ∀ p i wire, s.phase p = .enqueueing i wire →
    ∀ e, parseComment F wire = some e → e.deliveryId = i
  holder : ∀ p i wire, (s.phase p).sends i wire → s.lock = some p ∧
    (∃ d ∈ s.queue.deliveries, d.id = i ∧ d.wire = wire ∧ d.url = none) ∧
    ∃ e, parseComment F wire = some e
  unposted : ∀ p i wire, s.phase p = .unfound i wire → i ∉ s.posts.map Prod.fst
  addressed : ∀ p i wire url, s.phase p = .addressed i wire url →
    ∃ c ∈ s.comments, c.htmlUrl = url ∧ c.body = wire

/-- A phase that says nothing about a delivery. -/
def Phase.neutral : Phase W → Prop
  | .enqueueing .. | .locked .. | .unfound .. | .addressed .. => False
  | _ => True

theorem neutral_sends {ph : Phase W} (h : ph.neutral) (i : Uuid) (wire : W) : ¬ ph.sends i wire := by
  cases ph <;> simp_all [Phase.neutral, Phase.sends]

variable {p : Nat} {k : Phase W} {s s' : System W}

theorem goto_phase {r : Nat} {x : Phase W} (h : (s.goto p k).phase r = x) :
    (r = p ∧ x = k) ∨ (r ≠ p ∧ s.phase r = x) := by
  unfold System.goto at h; simp only at h; split at h
  · rename_i hr; exact .inl ⟨hr, h.symm⟩
  · rename_i hr; exact .inr ⟨hr, h⟩

/-- A step that posts nothing and stores no URL: rows and comments are added, and a process
that moves says nothing about a delivery afterwards, or is about to insert a named one. -/
structure Calm (F : EnvelopeFormat W) (s s' : System W) : Prop where
  grows : QueueGrows F s.queue s'.queue
  comments : ∀ c ∈ s.comments, c ∈ s'.comments
  posts : s'.posts = s.posts
  phases : ∀ r, s'.phase r = s.phase r ∨ (s'.phase r).neutral ∨
    ∃ i wire, s'.phase r = .enqueueing i wire ∧
      ∀ e, parseComment F wire = some e → e.deliveryId = i
  lock : ∀ r i wire, (s'.phase r).sends i wire → s.lock = some r → s'.lock = some r

theorem Calm.delivered (h : Calm F s s') (hs : Delivered F s) : Delivered F s' := by
  obtain ⟨new, hnew, hrows⟩ := h.grows.rows
  -- a process that still knows a delivery knew it before
  have hkept : ∀ r i wire, (s'.phase r).sends i wire → s'.phase r = s.phase r := by
    intro r i wire hsend; rcases h.phases r with hr | hr | ⟨j, w, hr, -⟩
    · exact hr
    · exact absurd hsend (neutral_sends hr i wire)
    · rw [hr] at hsend; exact hsend.elim
  constructor
  · exact h.grows.ids hs.ids
  · intro d hd; rw [hnew] at hd; rcases List.mem_append.1 hd with hd | hd
    · exact hs.named d hd
    · exact (hrows d hd).2
  · intro d hd url hurl; rw [hnew] at hd
    rcases List.mem_append.1 hd with hd | hd
    · obtain ⟨c, hc, hx⟩ := hs.sentWith d hd url hurl
      exact ⟨c, h.comments c hc, hx⟩
    · rw [(hrows d hd).1] at hurl; cases hurl
  · rw [h.posts]; exact hs.once
  · intro x hx; rw [h.posts] at hx; obtain ⟨d, hd, hid⟩ := hs.postedRow x hx
    exact ⟨d, h.grows.mem hd, hid⟩
  · intro x hx; rw [h.posts] at hx; obtain ⟨c, hc, he⟩ := hs.postedComment x hx
    exact ⟨c, h.comments c hc, he⟩
  · intro r i wire hr
    rcases h.phases r with hsame | hneutral | ⟨j, w, hj, hnamed⟩
    · exact hs.waiting r i wire (hsame ▸ hr)
    · rw [hr] at hneutral; exact hneutral.elim
    · rw [hj] at hr; cases hr; exact hnamed
  · intro r i wire hsend; have hsame := hkept r i wire hsend
    obtain ⟨hlock, ⟨d, hd, hrow⟩, hp⟩ := hs.holder r i wire (hsame ▸ hsend)
    exact ⟨h.lock r i wire hsend hlock, ⟨d, h.grows.mem hd, hrow⟩, hp⟩
  · intro r i wire hr; rw [h.posts]
    have hsame := hkept r i wire (by rw [hr]; exact ⟨rfl, rfl⟩)
    exact hs.unposted r i wire (hsame ▸ hr)
  · intro r i wire url hr
    have hsame := hkept r i wire (by rw [hr]; exact ⟨rfl, rfl⟩)
    obtain ⟨c, hc, hx⟩ := hs.addressed r i wire url (hsame ▸ hr)
    exact ⟨c, h.comments c hc, hx⟩

theorem Calm.refl (s : System W) : Calm F s s :=
  ⟨.refl _, fun _ hc => hc, rfl, fun _ => .inl rfl, fun _ _ _ _ hl => hl⟩

theorem goto_calm (s : System W) (p : Nat) {ph : Phase W} (hph : ph.neutral) :
    Calm F s (s.goto p ph) := by
  refine ⟨.refl _, fun _ hc => hc, rfl, ?_, fun _ _ _ _ hl => hl⟩; intro r
  rcases goto_phase (s := s) (p := p) (r := r) (k := ph) rfl with ⟨-, hr⟩ | ⟨-, hr⟩
  · rw [hr]; exact .inr (.inl hph)
  · exact .inl hr.symm

theorem leave_calm (s : System W) (p : Nat) : Calm F s (s.leave p) := by
  have hidle : (Phase.idle : Phase W).neutral := trivial
  refine ⟨.refl _, fun _ hc => hc, rfl, (goto_calm (F := F) s p hidle).phases, ?_⟩
  intro r i wire hsend hl
  rcases goto_phase (s := s) (p := p) (r := r) (k := .idle) rfl with ⟨-, hr⟩ | ⟨hne, -⟩
  · exact absurd (hr ▸ hsend : Phase.sends Phase.idle i wire) (by simp [Phase.sends])
  show (if s.lock = some p then none else s.lock) = some r; rw [hl, if_neg]
  intro hp; exact hne (Option.some.inj hp)

/-- A write transaction outside `dispatch_one`, busy, failed or committed. -/
theorem writes_calm {transaction : Option (DeliveryQueue W)} {next : Phase W}
    (hnext : next.neutral) (hgrows : ∀ q, transaction = some q → QueueGrows F s.queue q) :
    Calm F s (s.writes p transaction next) := by
  unfold System.writes; split
  · exact leave_calm s p
  split
  · exact leave_calm s p
  rename_i q; have hg : Calm F s (s.goto p next) := goto_calm s p hnext
  exact ⟨hgrows q rfl, hg.comments, hg.posts, hg.phases, hg.lock⟩

theorem enqueue_calm (s : System W) (p : Nat) (source : SourceEvent) (i : Uuid) (now : Int) :
    Calm F s (s.enqueue F p source i now) := by
  unfold System.enqueue; split
  · exact .refl s
  split
  · exact .refl s
  rename_i wire hencode; split
  · exact .refl s
  refine ⟨.refl _, fun _ hc => hc, rfl, ?_, fun _ _ _ _ hl => hl⟩; intro r
  rcases goto_phase (s := s) (p := p) (r := r) (k := .enqueueing i wire) rfl with
    ⟨-, hr⟩ | ⟨-, hr⟩
  · rw [hr]
    exact .inr (.inr ⟨i, wire, rfl, fun e he => parseComment_encodeEvent F hencode he⟩)
  · exact .inl hr.symm

theorem classifyRow_calm (s : System W) (p : Nat) (i : Uuid) : Calm F s (s.classifyRow F p i) := by
  unfold System.classifyRow; split
  · rename_i path row rest now hphase
    have hw : Calm F s (s.writes p (s.queue.ingestRow F row i now) (.classifying path rest now)) :=
      writes_calm trivial fun q hq => ingestRow_grows hq
    split
    · exact ⟨hw.grows, hw.comments, hw.posts, hw.phases, hw.lock⟩
    · exact hw
  · exact leave_calm s p

/-- The labels of `dispatch_one`. -/
def Label.sends : Label W → Prop
  | .dispatch _ | .find .. | .post .. | .sent _ => True
  | _ => False

variable {l : Label W}

theorem fires_calm (h : fires F s l = some s') (hl : ¬ l.sends) (hs : Delivered F s) :
    Calm F s s' := by
  cases l with
  | append path row =>
    simp only [fires] at h; split at h
    · split at h
      · cases h
        exact ⟨.refl _, fun _ hc => hc, rfl, fun _ => .inl rfl, fun _ _ _ _ hl => hl⟩
      · cases h
    · cases h
  | alerts path alerts =>
    cases h
    exact ⟨.refl _, fun _ hc => hc, rfl, fun _ => .inl rfl, fun _ _ _ _ hl => hl⟩
  | comment c =>
    cases h
    exact ⟨.refl _, fun _ hc => List.mem_append_left _ hc, rfl, fun _ => .inl rfl,
      fun _ _ _ _ hl => hl⟩
  | enqueue p source i now =>
    simp only [fires] at h; split at h
    · cases h; exact enqueue_calm s p source i now
    · cases h
  | insert p =>
    simp only [fires] at h; split at h
    · rename_i i wire hphase; cases h; refine writes_calm trivial ?_
      intro q hq; cases hq
      exact insertOrIgnore_grows (hs.waiting p i wire hphase)
    · cases h
  | confirmCanary i =>
    simp only [fires] at h; split at h
    · cases h
    cases h; obtain ⟨hd, hi, hsource⟩ := confirmCanary_same (F := F) s.queue i
    refine ⟨.of_same hd (by rw [hi]) ?_, fun _ hc => hc, rfl, fun _ => .inl rfl,
      fun _ _ _ _ hl => hl⟩
    intro path hpath; exact hsource.trans hpath
  | ingest p path now =>
    simp only [fires] at h; split at h
    · cases h; unfold System.ingest; split
      · exact .refl s
      split
      · exact .refl s
      · exact goto_calm s p trivial
    · cases h
  | bind p =>
    simp only [fires] at h; split at h
    · cases h; refine writes_calm trivial ?_; intro q hq
      cases hq; refine .of_same rfl (List.prefix_refl _) ?_; intro r hr
      show some (s.queue.source.getD _) = some r; rw [hr]; rfl
    · cases h
  | position p | readRows p =>
    simp only [fires] at h; split at h
    · cases h; exact goto_calm s p trivial
    · cases h
  | classify p i =>
    simp only [fires] at h; split at h
    · cases h; exact classifyRow_calm s p i
    · cases h
  | initializeSource p path now =>
    simp only [fires] at h; split at h
    · cases h; unfold System.initializeSource; split
      · exact .refl s
      split
      · exact .refl s
      · exact goto_calm s p trivial
    · cases h
  | commission p ids =>
    simp only [fires] at h; split at h
    · split at h
      · cases h; exact writes_calm trivial fun q hq => (commission_some hq).1
      · cases h
    · cases h
  | dispatch _ | find _ _ | post _ _ | sent _ => exact absurd trivial hl
  | crash p =>
    cases h; exact leave_calm s p

theorem dispatch_delivered (hs : Delivered F s) (p : Nat) : Delivered F (s.dispatch F p) := by
  unfold System.dispatch; split
  · exact hs
  rename_i hfree; split
  · exact hs
  rename_i row hpending; split
  · exact hs
  rename_i hparse
  have hrow : row ∈ s.queue.deliveries := List.mem_of_find?_eq_some hpending
  have hurl : row.url = none := by simpa using List.find?_some hpending
  have hlock : s.lock = none := by simpa using hfree
  have hnone : ∀ r i wire, ¬ (s.phase r).sends i wire := by
    intro r i wire hr; have := (hs.holder r i wire hr).1; rw [hlock] at this
    cases this
  refine { hs with waiting := ?_, holder := ?_, unposted := ?_, addressed := ?_ }
  · intro r i wire hr; rcases goto_phase hr with ⟨-, hx⟩ | ⟨-, hr⟩
    · cases hx
    · exact hs.waiting r i wire hr
  · intro r i wire hr
    rcases goto_phase (s := s) (p := p) (r := r) (k := .locked row.id row.wire) rfl with
      ⟨rfl, hx⟩ | ⟨-, hx⟩
    · have hsend : (Phase.locked row.id row.wire).sends i wire := hx ▸ hr
      obtain ⟨rfl, rfl⟩ := hsend
      exact ⟨rfl, ⟨row, hrow, rfl, rfl, hurl⟩, Option.ne_none_iff_exists'.1 (by simpa using hparse)⟩
    · exact absurd (hx ▸ hr) (hnone r i wire)
  · intro r i wire hr; rcases goto_phase hr with ⟨-, hx⟩ | ⟨-, hr⟩
    · cases hx
    · exact hs.unposted r i wire hr
  · intro r i wire url hr; rcases goto_phase hr with ⟨-, hx⟩ | ⟨-, hr⟩
    · cases hx
    · exact hs.addressed r i wire url hr

theorem goto_delivered {s : System W} (hs : Delivered F s) {p : Nat} {i : Uuid} {wire : W}
    {k : Phase W} (hp : (s.phase p).sends i wire) (hk : ∀ j w, k.sends j w → i = j ∧ wire = w)
    (hwait : ∀ j w, k ≠ .enqueueing j w)
    (hunposted : ∀ j w, k = .unfound j w → j ∉ s.posts.map Prod.fst)
    (haddressed : ∀ j w url, k = .addressed j w url →
      ∃ c ∈ s.comments, c.htmlUrl = url ∧ c.body = w) : Delivered F (s.goto p k) := by
  refine { hs with waiting := ?_, holder := ?_, unposted := ?_, addressed := ?_ }
  · intro r j w hr; rcases goto_phase hr with ⟨-, hx⟩ | ⟨-, hr⟩
    · exact absurd hx.symm (hwait j w)
    · exact hs.waiting r j w hr
  · intro r j w hr
    rcases goto_phase (s := s) (p := p) (r := r) (k := k) rfl with ⟨rfl, hx⟩ | ⟨-, hx⟩
    · obtain ⟨rfl, rfl⟩ := hk j w (hx ▸ hr); exact hs.holder r i wire hp
    · exact hs.holder r j w (hx ▸ hr)
  · intro r j w hr; rcases goto_phase hr with ⟨-, hx⟩ | ⟨-, hr⟩
    · exact hunposted j w hx.symm
    · exact hs.unposted r j w hr
  · intro r j w url hr; rcases goto_phase hr with ⟨-, hx⟩ | ⟨-, hr⟩
    · exact haddressed j w url hx.symm
    · exact hs.addressed r j w url hr

theorem find_delivered (hs : Delivered F s) (hp : s.phase p = .locked i wire) (answered : Bool) :
    Delivered F (s.find F p i wire answered) := by
  have hsend : (s.phase p).sends i wire := by
    rw [hp]; exact ⟨rfl, rfl⟩
  unfold System.find; split
  · exact (leave_calm s p).delivered hs
  split
  · rename_i url hfound
    refine goto_delivered hs hsend (fun _ _ h => h) (by simp) (by simp) ?_
    intro j w u hk; cases hk; exact scanPages_url hfound
  · rename_i habsent
    refine goto_delivered hs hsend (fun _ _ h => h) (by simp) ?_ (by simp)
    -- a post for this delivery would have left a comment that `find` sees
    intro j w hk hposted; cases hk
    obtain ⟨x, hx, hxi⟩ := List.mem_map.1 hposted
    obtain ⟨c, hc, e, hac, he⟩ := hs.postedComment x hx
    exact scanPages_absent habsent c hc e hac (he.trans hxi)
  · exact (leave_calm s p).delivered hs

/-- The server's comment for the pending delivery, after which the process is in phase `k`. -/
theorem posted_delivered {s : System W} (hs : Delivered F s) {p : Nat} {i : Uuid} {wire : W}
    (hp : s.phase p = .unfound i wire) (url : String) {k : Phase W} {lock : Option Nat}
    (hk : ∀ j w, k.sends j w → i = j ∧ wire = w ∧ lock = some p)
    (hwait : ∀ j w, k ≠ .enqueueing j w) (hunfound : ∀ j w, k ≠ .unfound j w)
    (haddressed : ∀ j w u, k = .addressed j w u →
      ∃ c ∈ s.comments ++ [⟨wire, "jfhutchi", "User", url⟩], c.htmlUrl = u ∧ c.body = w) :
    Delivered F { s.goto p k with
      comments := s.comments ++ [⟨wire, "jfhutchi", "User", url⟩]
      posts := s.posts ++ [(i, wire)]
      lock := lock } := by
  have hsend : (s.phase p).sends i wire := by
    rw [hp]
    exact ⟨rfl, rfl⟩
  obtain ⟨hlock, ⟨d, hd, hid, hwire, hurl⟩, e, hparse⟩ := hs.holder p i wire hsend
  have hfresh := hs.unposted p i wire hp
  have hnamed : e.deliveryId = i := hid ▸ hs.named d hd e (hwire ▸ hparse)
  -- nobody else holds the lock
  have hothers : ∀ r j w, r ≠ p → ¬ (s.phase r).sends j w := by
    intro r j w hne hr
    have hr' := (hs.holder r j w hr).1
    rw [hlock] at hr'
    exact hne (Option.some.inj hr').symm
  constructor
  · exact hs.ids
  · exact hs.named
  · intro x hx u hu
    obtain ⟨c, hc, hxc⟩ := hs.sentWith x hx u hu
    exact ⟨c, List.mem_append_left _ hc, hxc⟩
  · show ((s.posts ++ [(i, wire)]).map Prod.fst).Nodup
    rw [List.map_append, List.nodup_append]
    refine ⟨hs.once, by simp, ?_⟩
    intro a ha b hb hab
    have hb' : b = i := by simpa using hb
    exact hfresh (hb' ▸ hab ▸ ha)
  · intro x hx
    rcases List.mem_append.1 hx with hx | hx
    · exact hs.postedRow x hx
    · rw [List.mem_singleton.1 hx]
      exact ⟨d, hd, hid, hwire⟩
  · intro x hx
    rcases List.mem_append.1 hx with hx | hx
    · obtain ⟨c, hc, he⟩ := hs.postedComment x hx
      exact ⟨c, List.mem_append_left _ hc, he⟩
    · rw [List.mem_singleton.1 hx]
      exact ⟨_, List.mem_append_right _ (List.mem_singleton.2 rfl), e,
        by simp [acceptComment, hparse], hnamed⟩
  · intro r j w hr
    rcases goto_phase (s := s) (p := p) (r := r) (k := k) hr with ⟨-, hx⟩ | ⟨-, hr⟩
    · exact absurd hx.symm (hwait j w)
    · exact hs.waiting r j w hr
  · intro r j w hr
    rcases goto_phase (s := s) (p := p) (r := r) (k := k) rfl with ⟨rfl, hx⟩ | ⟨hne, hx⟩
    · obtain ⟨rfl, rfl, hl⟩ := hk j w (hx ▸ hr)
      exact ⟨hl, ⟨d, hd, hid, hwire, hurl⟩, e, hparse⟩
    · exact absurd (hx ▸ hr) (hothers r j w hne)
  · intro r j w hr
    rcases goto_phase (s := s) (p := p) (r := r) (k := k) hr with ⟨-, hx⟩ | ⟨hne, hr⟩
    · exact absurd hx.symm (hunfound j w)
    · exact absurd (by rw [hr]; exact ⟨rfl, rfl⟩) (hothers r j w hne)
  · intro r j w u hr
    rcases goto_phase (s := s) (p := p) (r := r) (k := k) hr with ⟨-, hx⟩ | ⟨hne, hr⟩
    · exact haddressed j w u hx.symm
    · exact absurd (by rw [hr]; exact ⟨rfl, rfl⟩) (hothers r j w hne)

theorem post_delivered (hs : Delivered F s) (hp : s.phase p = .unfound i wire)
    (outcome : PostOutcome) : Delivered F (s.post F p i wire outcome) := by
  have hlock : s.lock = some p := (hs.holder p i wire (by rw [hp]; exact ⟨rfl, rfl⟩)).1
  cases outcome with
  | lost => exact (leave_calm s p).delivered hs
  | created url reply =>
    unfold System.post; simp only; split
    · exact posted_delivered hs hp url (fun _ _ h => h.elim) (by simp) (by simp) (by simp)
    rename_i url' hreply
    refine posted_delivered hs hp url (fun _ _ h => ⟨h.1, h.2, hlock⟩) (by simp) (by simp) ?_
    intro j w u hk; cases hk
    obtain ⟨c, hc, hpost⟩ := Option.bind_eq_some_iff.1 hreply
    obtain ⟨n, -, hn⟩ := Option.bind_eq_some_iff.1 hc
    exact ⟨c, List.mem_of_getElem? hn, postReply_some hpost⟩

theorem setUrl_mem (h : d ∈ (q.setUrl i url).deliveries) :
    ∃ d' ∈ q.deliveries, d'.id = d.id ∧ d'.wire = d.wire ∧
      ((d'.id = i ∧ d.url = some url) ∨ (d'.id ≠ i ∧ d = d')) := by
  obtain ⟨d', hd', hx⟩ := List.mem_map.1 h; split at hx
  · rename_i hi
    exact ⟨d', hd', by rw [← hx], by rw [← hx], .inl ⟨hi, by rw [← hx]⟩⟩
  · rename_i hi; exact ⟨d', hd', by rw [hx], by rw [hx], .inr ⟨hi, hx.symm⟩⟩

theorem setUrl_ids (q : DeliveryQueue W) (i : Uuid) (url : String) :
    (q.setUrl i url).deliveries.map (·.id) = q.deliveries.map (·.id) := by
  simp only [DeliveryQueue.setUrl, List.map_map]; refine List.map_congr_left ?_
  intro d _; simp only [Function.comp_apply]; split <;> rfl

theorem mem_setUrl (i : Uuid) (url : String) (h : d ∈ q.deliveries) :
    ∃ d' ∈ (q.setUrl i url).deliveries, d'.id = d.id ∧ d'.wire = d.wire ∧ (d.id ≠ i → d' = d) := by
  refine ⟨_, List.mem_map_of_mem h, ?_⟩; split
  · rename_i hi; exact ⟨rfl, rfl, fun hne => absurd hi hne⟩
  · exact ⟨rfl, rfl, fun _ => rfl⟩

theorem eq_of_id (hids : (q.deliveries.map (·.id)).Nodup) {a b : Delivery W}
    (ha : a ∈ q.deliveries) (hb : b ∈ q.deliveries) (h : a.id = b.id) : a = b :=
  List.inj_on_of_nodup_map hids ha hb h

theorem sent_delivered (hs : Delivered F s) (hp : s.phase p = .addressed i wire url) :
    Delivered F (s.sent p i url) := by
  have hsend : (s.phase p).sends i wire := by
    rw [hp]; exact ⟨rfl, rfl⟩
  obtain ⟨hlock, ⟨row, hrow, hid, hwire, hurl⟩, -⟩ := hs.holder p i wire hsend
  have hleft : Delivered F (s.leave p) := (leave_calm s p).delivered hs
  unfold System.sent; split
  · constructor
    · show ((s.queue.setUrl i url).deliveries.map (·.id)).Nodup; rw [setUrl_ids]
      exact hs.ids
    · intro d hd; obtain ⟨d', hd', hi, hw, -⟩ := setUrl_mem hd; rw [← hi, ← hw]
      exact hs.named d' hd'
    · intro d hd u hu
      obtain ⟨d', hd', -, hw, ⟨hi, hset⟩ | ⟨-, rfl⟩⟩ := setUrl_mem hd
      · have hu' : url = u := Option.some.inj (hset.symm.trans hu)
        have hsame : d' = row := eq_of_id hs.ids hd' hrow (hi.trans hid.symm)
        obtain ⟨c, hc, hcu, hcb⟩ := hs.addressed p i wire url hp
        exact ⟨c, hc, hcu.trans hu', by rw [hcb, ← hw, hsame, hwire]⟩
      · exact hs.sentWith d hd' u hu
    · exact hs.once
    · intro x hx; obtain ⟨d, hd, hdi, hdw⟩ := hs.postedRow x hx
      obtain ⟨d', hd', hi, hw, -⟩ := mem_setUrl i url hd
      exact ⟨d', hd', hi.trans hdi, hw.trans hdw⟩
    · exact hs.postedComment
    · exact hleft.waiting
    · intro r j w hr
      -- the lock was this process's: no other one knows a delivery
      obtain ⟨hl, -⟩ := hleft.holder r j w hr; exfalso; revert hl
      show (if s.lock = some p then none else s.lock) = some r → False
      rw [if_pos hlock]; simp
    · exact hleft.unposted
    · exact hleft.addressed
  · exact hleft

theorem fires_delivered (hs : Delivered F s) (h : fires F s l = some s') : Delivered F s' := by
  by_cases hl : l.sends
  · cases l with
    | dispatch p =>
      simp only [fires] at h; split at h
      · cases h; exact dispatch_delivered hs p
      · cases h
    | find p answered =>
      simp only [fires] at h; split at h
      · rename_i hp; cases h; exact find_delivered hs hp answered
      · cases h
    | post p outcome =>
      simp only [fires] at h; split at h
      · rename_i hp; cases h; exact post_delivered hs hp outcome
      · cases h
    | sent p =>
      simp only [fires] at h; split at h
      · rename_i hp; cases h; exact sent_delivered hs hp
      · cases h
    | _ => exact hl.elim
  · exact (fires_calm h hl hs).delivered hs

theorem fresh_delivered (h : Fresh s) : Delivered F s := by
  obtain ⟨hq, hlock, hidle, hposts, -, -⟩ := h
  constructor <;> simp [hq, hposts, hidle, Phase.sends]

/-- **Delivery**: a delivery is posted at most once, with its own text, and its row holds
the URL of a comment with exactly that text. -/
theorem delivered_reachable (h : (alertRuns F).Reachable s) : Delivered F s :=
  LTS.Inductive.reachable (P := Delivered F)
    ⟨fun _ => fresh_delivered, fun _ _ _ hs hst => fires_delivered hs hst⟩ h

/-! ## What a run keeps -/

/-- Deliveries keep their id and their text, a stored URL stays, posts, classified events
and a bound source stay. -/
structure Kept (s s' : System W) : Prop where
  deliveries : ∀ d ∈ s.queue.deliveries, ∃ d' ∈ s'.queue.deliveries,
    d'.id = d.id ∧ d'.wire = d.wire ∧ (d.url ≠ none → d'.url = d.url)
  posts : s.posts <+: s'.posts
  ingested : s.queue.ingested <+: s'.queue.ingested
  source : ∀ path, s.queue.source = some path → s'.queue.source = some path

theorem Kept.trans {a b c : System W} (hab : Kept a b) (hbc : Kept b c) : Kept a c := by
  refine ⟨?_, hab.posts.trans hbc.posts, hab.ingested.trans hbc.ingested,
    fun path h => hbc.source path (hab.source path h)⟩
  intro d hd; obtain ⟨d₁, hd₁, hid, hwire, hurl⟩ := hab.deliveries d hd
  obtain ⟨d₂, hd₂, hid', hwire', hurl'⟩ := hbc.deliveries d₁ hd₁
  refine ⟨d₂, hd₂, hid'.trans hid, hwire'.trans hwire, ?_⟩; intro h
  have h₁ := hurl h; exact (hurl' (h₁ ▸ h)).trans h₁

theorem Kept.of_queue (hq : s'.queue = s.queue) (hp : s.posts <+: s'.posts) : Kept s s' := by
  refine ⟨?_, hp, by rw [hq], by rw [hq]; exact fun _ h => h⟩; rw [hq]
  exact fun d hd => ⟨d, hd, rfl, rfl, fun _ => rfl⟩

theorem Calm.kept (h : Calm F s s') : Kept s s' := by
  refine ⟨?_, by rw [h.posts], h.grows.ingested, h.grows.source⟩
  exact fun d hd => ⟨d, h.grows.mem hd, rfl, rfl, fun _ => rfl⟩

theorem dispatch_queue (s : System W) (p : Nat) :
    (s.dispatch F p).queue = s.queue ∧ (s.dispatch F p).posts = s.posts := by
  unfold System.dispatch; split
  · exact ⟨rfl, rfl⟩
  split
  · exact ⟨rfl, rfl⟩
  · split <;> exact ⟨rfl, rfl⟩

theorem find_queue (s : System W) (p : Nat) (i : Uuid) (wire : W) (answered : Bool) :
    (s.find F p i wire answered).queue = s.queue ∧
      (s.find F p i wire answered).posts = s.posts := by
  unfold System.find; split
  · exact ⟨rfl, rfl⟩
  · split <;> exact ⟨rfl, rfl⟩

theorem post_queue (s : System W) (p : Nat) (i : Uuid) (wire : W) (outcome : PostOutcome) :
    (s.post F p i wire outcome).queue = s.queue ∧
      s.posts <+: (s.post F p i wire outcome).posts := by
  cases outcome with
  | lost => exact ⟨rfl, List.prefix_refl _⟩
  | created url reply =>
    unfold System.post; simp only; split <;> exact ⟨rfl, List.prefix_append ..⟩

theorem sent_kept (hs : Delivered F s) (hp : s.phase p = .addressed i wire url) :
    Kept s (s.sent p i url) := by
  obtain ⟨-, ⟨row, hrow, hid, -, hurl⟩, -⟩ :=
    hs.holder p i wire (by rw [hp]; exact ⟨rfl, rfl⟩)
  unfold System.sent; split
  · refine ⟨?_, List.prefix_refl _, List.prefix_refl _, fun _ h => h⟩
    intro d hd; obtain ⟨d', hd', hid', hwire', hother⟩ := mem_setUrl i url hd
    refine ⟨d', hd', hid', hwire', ?_⟩; intro hset; by_cases hdi : d.id = i
    · have hsame : d = row := eq_of_id hs.ids hd hrow (hdi.trans hid.symm)
      exact absurd (hsame ▸ hurl) hset
    · rw [hother hdi]
  · exact .of_queue rfl (List.prefix_refl _)

theorem fires_kept (hs : Delivered F s) (h : fires F s l = some s') : Kept s s' := by
  by_cases hl : l.sends
  · cases l with
    | dispatch p =>
      simp only [fires] at h; split at h
      · cases h; obtain ⟨hq, hposts⟩ := dispatch_queue (F := F) s p
        exact .of_queue hq (by rw [hposts])
      · cases h
    | find p answered =>
      simp only [fires] at h; split at h
      · rename_i i wire hp; cases h
        obtain ⟨hq, hposts⟩ := find_queue (F := F) s p i wire answered
        exact .of_queue hq (by rw [hposts])
      · cases h
    | post p outcome =>
      simp only [fires] at h; split at h
      · rename_i i wire hp; cases h
        obtain ⟨hq, hposts⟩ := post_queue (F := F) s p i wire outcome
        exact .of_queue hq hposts
      · cases h
    | sent p =>
      simp only [fires] at h; split at h
      · rename_i hp; cases h; exact sent_kept hs hp
      · cases h
    | _ => exact hl.elim
  · exact (fires_calm h hl hs).kept

theorem kept_run {ls : List (Label W)} (hs : Delivered F s) (hr : (alertRuns F).Run s ls s') :
    Kept s s' :=
  LTS.Run.rel (P := Delivered F) (R := Kept) (fun _ => .of_queue rfl (List.prefix_refl _))
    (fun _ _ _ h h' => h.trans h') (fun _ _ _ hs hst => fires_delivered hs hst)
    (fun _ _ _ hs hst => fires_kept hs hst) hr hs

end Quantbot.L5.AlertDispatch
