import Quantbot.Core.Windows
import Quantbot.L4PaperCore.CapitalFlows
import Mathlib.Data.Int.ConditionallyCompleteOrder

/-!
# Windows of account activity

The activity documents behind a cursor form a chain. Each queries from two days
before the watermark of the one before it (or from the start of coverage) to at most
six hours behind that watermark, and no further than the clock it read. So the
windows leave no gap whatever the clock does, and the watermark follows the clock:
it goes back where the clock did, by two days at most.

* `activity_coverage`: coverage, watermark and validity over every run.
* `watermark_decreases`: a run whose clock steps back.
-/
namespace Quantbot.L4

open Core L1 L2 Txn

/-! ## Pages -/

/-- A walk that reached a short page: full pages of objects under distinct tokens,
then one short page. -/
inductive WalkComplete : List String → List ActivityReply → List Activity → List Activity → Prop
  | last {tokens : List String} {rows items : List Activity} {rest : List ActivityReply} :
      items.length < 100 →
      WalkComplete tokens (.page (items.map some) :: rest) rows (rows ++ items)
  | full {tokens : List String} {rows items out : List Activity} {rest : List ActivityReply}
      {token : String} : items.length = 100 →
      ((rows ++ items).getLast?.bind Activity.pageToken) = some token → token ∉ tokens →
      WalkComplete (token :: tokens) rest (rows ++ items) out →
      WalkComplete tokens (.page (items.map some) :: rest) rows out

theorem objects_of_page {items : List (Option Activity)} (h : none ∉ items) :
    items = (items.filterMap id).map some := by
  induction items with
  | nil => rfl
  | cons x items ih =>
    cases x with
    | none => exact absurd List.mem_cons_self h
    | some a =>
      rw [List.filterMap_cons_some (by rfl), List.map_cons,
        ← ih fun hn => h (List.mem_cons_of_mem _ hn)]

variable {rows : List Activity}

theorem walkPages_ok {replies : List ActivityReply} {tokens : List String} {out : List Activity}
    (h : walkPages replies tokens rows = .ok out) : WalkComplete tokens replies rows out := by
  induction replies generalizing tokens rows with
  | nil => cases h
  | cons reply rest ih =>
    cases reply with
    | failed => cases h
    | page items =>
      unfold walkPages at h; split at h
      · cases h
      next hbound =>
      split at h
      · cases h
      next hobjects =>
      have hitems := objects_of_page hobjects
      have hlength : items.length = (items.filterMap id).length := by
        conv_lhs => rw [hitems]
        exact List.length_map _
      rw [hitems]; split at h
      · cases h; exact .last (hlength ▸ by assumption)
      split at h
      · cases h
      next token htoken =>
      split at h
      · cases h
      · next hnew => exact .full (by omega) htoken hnew (ih h)

/-- The rows' ids and kinds are text, no id is empty or twice; a row with a zone ends
by the limit, and one without is no fill. -/
structure RowsValid (rows : List Activity) (limit : Int) : Prop where
  ids : ∀ r ∈ rows, ∃ i, r.id = some i ∧ i ≠ ""
  distinct : (rows.map (·.id)).Nodup
  kinds : ∀ r ∈ rows, r.activityType ≠ none
  stamps : ∀ r ∈ rows, (r.stamp = .naive ∧ r.activityType ≠ some "FILL") ∨
    ∃ t ≤ limit, r.stamp = .aware t

theorem stampFlags_seen (limit : Int) (f : ActivityFlags) (identity kind : String) (x : Stamp) :
    (stampFlags limit f identity kind x).seen = f.seen := by
  unfold stampFlags ActivityFlags.invalid
  repeat' split
  all_goals rfl

variable {f : ActivityFlags} {captured limit : Int}

theorem stampFlags_valid {identity kind : String} {x : Stamp}
    (h : (stampFlags limit f identity kind x).valid = true) :
    f.valid = true ∧ ((x = .naive ∧ kind ≠ "FILL") ∨ ∃ t ≤ limit, x = .aware t) := by
  unfold stampFlags ActivityFlags.invalid at h; split at h
  · cases h
  · split at h
    · next hfee =>
      refine ⟨h, .inl ⟨rfl, fun hfill => ?_⟩⟩; rw [hfill] at hfee; revert hfee
      decide
    · split at h
      · cases h
      · next hfill => exact ⟨h, .inl ⟨rfl, hfill⟩⟩
  · split at h
    · cases h
    · next t ht => exact ⟨h, .inr ⟨t, not_lt.1 ht, rfl⟩⟩

theorem rowFlags_valid {row : Activity} (h : (rowFlags limit f row).valid = true) :
    f.valid = true ∧ ∃ identity kind, row.id = some identity ∧ row.activityType = some kind ∧
      identity ≠ "" ∧ identity ∉ f.seen ∧ (rowFlags limit f row).seen = identity :: f.seen ∧
      ((row.stamp = .naive ∧ kind ≠ "FILL") ∨ ∃ t ≤ limit, row.stamp = .aware t) := by
  unfold rowFlags at h ⊢; split at h
  · next identity kind hid hkind =>
    split at h
    · cases h
    next hnew =>
    obtain ⟨hempty, hseen⟩ := not_or.1 hnew
    obtain ⟨hvalid, hstamp⟩ := stampFlags_valid h
    refine ⟨hvalid, identity, kind, hid, hkind, hempty, hseen, ?_, hstamp⟩
    rw [if_neg hnew, stampFlags_seen]
  · cases h

theorem rows_valid (h : (rows.foldl (rowFlags limit) f).valid = true) :
    f.valid = true ∧ RowsValid rows limit ∧ ∀ r ∈ rows, ∀ i ∈ r.id, i ∉ f.seen := by
  induction rows generalizing f with
  | nil => exact ⟨h, ⟨by simp, by simp, by simp, by simp⟩, by simp⟩
  | cons row rows ih =>
    obtain ⟨hnext, hrows, hfresh⟩ := ih h
    obtain ⟨hvalid, identity, kind, hid, hkind, hempty, hseen, hnew, hstamp⟩ :=
      rowFlags_valid hnext
    rw [hnew] at hfresh; refine ⟨hvalid, ⟨?_, ?_, ?_, ?_⟩, ?_⟩
    · exact List.forall_mem_cons.2 ⟨⟨identity, hid, hempty⟩, hrows.ids⟩
    · rw [List.map_cons, List.nodup_cons]
      refine ⟨fun hmem => ?_, hrows.distinct⟩
      obtain ⟨r, hr, hsame⟩ := List.mem_map.1 hmem
      exact hfresh r hr identity (hsame.trans hid) List.mem_cons_self
    · exact List.forall_mem_cons.2 ⟨by rw [hkind]; exact Option.some_ne_none _, hrows.kinds⟩
    · refine List.forall_mem_cons.2 ⟨?_, hrows.stamps⟩; rw [hkind]
      exact hstamp.imp (fun ⟨h, hfill⟩ => ⟨h, fun hk => hfill (Option.some.inj hk)⟩) id
    · refine List.forall_mem_cons.2 ⟨fun i hi => ?_, fun r hr i hi hmem =>
        hfresh r hr i hi (List.mem_cons_of_mem _ hmem)⟩
      rw [hid] at hi; cases hi; exact hseen

theorem activityFlags_valid (h : (activityFlags rows limit).valid = true) : RowsValid rows limit :=
  (rows_valid h).2.1

/-! ## Chains -/

/-- The activity documents from the first one to `id`, each the previous of the next. -/
inductive ActivityChain (s : CapitalStore) : String → List ContinuousActivityCoverage → Prop
  | root {id : String} {c : ContinuousActivityCoverage} :
      s.coverages.get? id = some ⟨id, c⟩ → c.previousId = none → ActivityChain s id [c]
  | next {id previous : String} {c : ContinuousActivityCoverage}
      {chain : List ContinuousActivityCoverage} :
      s.coverages.get? id = some ⟨id, c⟩ → c.previousId = some previous →
      ActivityChain s previous chain → ActivityChain s id (chain ++ [c])

variable {s s' : CapitalStore} {chain : List ContinuousActivityCoverage}

theorem ActivityChain.retained {id : String} (h : ActivityChain s id chain) (hret : Retained s s') :
    ActivityChain s' id chain := by
  induction h with
  | root hc hp => exact .root (hret.coverage? hc) hp
  | next hc hp _ ih => exact .next (hret.coverage? hc) hp ih

theorem ActivityChain.last {id : String} (h : ActivityChain s id chain) :
    ∃ c ∈ chain, s.coverages.get? id = some ⟨id, c⟩ := by
  cases h with
  | root hc _ => exact ⟨_, List.mem_singleton_self _, hc⟩
  | next hc _ _ => exact ⟨_, List.mem_append_right _ (List.mem_singleton_self _), hc⟩

/-- What one document queried. -/
def ContinuousActivityCoverage.window (c : ContinuousActivityCoverage) : Int × Int :=
  (c.queryStart, c.activityWatermark)

/-- One coverage, complete, and without a gap up to every watermark it has had. -/
structure CoverageSound (scope : String) (start : Int) (bootstrap : String)
    (chain : List ContinuousActivityCoverage) : Prop where
  same : ∀ c ∈ chain, c.coverageStart = start ∧ c.bootstrapOpeningId = bootstrap ∧
    c.scopeId = scope ∧ c.protocolComplete = true
  covered : ∀ c ∈ chain, Set.Icc start c.activityWatermark ⊆
    Covered (chain.map (·.window))

variable {scope bootstrap : String}

theorem CoverageSound.root {start : Int}
    {c : ContinuousActivityCoverage} (hstart : c.coverageStart = start)
    (hbootstrap : c.bootstrapOpeningId = bootstrap) (hscope : c.scopeId = scope)
    (hcomplete : c.protocolComplete = true) (hquery : c.queryStart = start) :
    CoverageSound scope start bootstrap [c] := by
  refine ⟨fun d hd => ?_, fun d hd x hx => ?_⟩
  · rw [List.mem_singleton] at hd; subst hd
    exact ⟨hstart, hbootstrap, hscope, hcomplete⟩
  · rw [List.mem_singleton] at hd; subst hd
    refine ⟨d.window, List.mem_map_of_mem (List.mem_singleton_self _), ?_⟩
    show d.queryStart ≤ x ∧ x ≤ d.activityWatermark; rw [hquery]; exact hx

/-- **Window step.** A window that starts within two days before a watermark, or where
coverage does, leaves no gap. -/
theorem CoverageSound.next {start : Int}
    {p c : ContinuousActivityCoverage} (h : CoverageSound scope start bootstrap chain)
    (hp : p ∈ chain) (hstart : c.coverageStart = start)
    (hbootstrap : c.bootstrapOpeningId = bootstrap) (hscope : c.scopeId = scope)
    (hcomplete : c.protocolComplete = true)
    (hquery : c.queryStart = max start (p.activityWatermark - twoDays)) :
    CoverageSound scope start bootstrap (chain ++ [c]) := by
  refine ⟨?_, ?_⟩
  · rw [List.forall_mem_append]
    exact ⟨h.same, List.forall_mem_singleton.2 ⟨hstart, hbootstrap, hscope, hcomplete⟩⟩
  · rw [List.forall_mem_append, List.map_append, List.map_singleton]
    refine ⟨fun d hd x hx => mem_covered_concat.2 (.inl (h.covered d hd hx)),
      List.forall_mem_singleton.2 ?_⟩
    refine covered_concat (h.covered p hp) ?_
    have htwo : 0 ≤ twoDays := by decide
    omega

/-- What a capture in flight has read: its window follows the document of its cursor. -/
structure PlanSound (v : CapitalViews) (s : CapitalStore) (plan : CapturePlan) : Prop where
  fresh : plan.cursor = none → plan.previousId = none ∧ plan.queryStart = plan.coverageStart ∧
    plan.limit = min plan.now (plan.coverageStart + sixHours)
  behind : ∀ id, plan.cursor = some id → ∃ c, s.coverages.get? id = some ⟨id, c⟩ ∧
    plan.previousId = some id ∧ c.coverageStart = plan.coverageStart ∧
    c.bootstrapOpeningId = plan.bootstrapId ∧
    plan.queryStart = max plan.coverageStart (c.activityWatermark - twoDays) ∧
    plan.limit = min plan.now (c.activityWatermark + sixHours)

variable {v : CapitalViews} {plan : CapturePlan}

theorem PlanSound.retained (h : PlanSound v s plan) (hret : Retained s s') :
    PlanSound v s' plan := by
  refine ⟨h.fresh, fun id hid => ?_⟩; obtain ⟨c, hc, hrest⟩ := h.behind id hid
  exact ⟨c, hret.coverage? hc, hrest⟩

/-- The chain behind the cursor, and the captures in flight. -/
structure CoverageInv (v : CapitalViews) (w : CapitalWorld) : Prop where
  chain : ∀ id, w.store.cursor v = some id → ∃ chain start bootstrap,
    ActivityChain w.store id chain ∧ CoverageSound (w.store.scope v) start bootstrap chain
  plans : ∀ plan ∈ w.pending, PlanSound v w.store plan

variable {proof : ReconciliationProof}

theorem beginCapture_plan {now : Int} (h : beginCapture v s proof now = .ok (.fetch plan)) :
    ∃ policyId bootstrapId coverageStart,
      plan = planWindow policyId proof (trustedOpening v s now none) (s.cursor v)
        ((s.cursor v).bind s.coverages.get?) bootstrapId coverageStart now ∧
      lineage (s.newestAnchors v).head? ((s.cursor v).bind s.coverages.get?)
        (trustedOpening v s now none) = some (bootstrapId, coverageStart) ∧
      (∀ a ∈ (s.newestAnchors v).head?, AnchorVerified v s a.payload now) ∧
      ∀ p ∈ (s.cursor v).bind s.coverages.get?,
        ¬ LineageInvalid v s bootstrapId coverageStart p.payload := by
  unfold beginCapture at h; split at h
  · cases h
  next policy _ =>
  split at h
  · cases h
  split at h
  · cases h
  split at h
  · cases h
  split at h
  · cases h
  unfold planCapture at h; dsimp only at h; split at h
  · cases h
  next hverified =>
  split at h
  · cases h
  split at h
  · cases h
  next bootstrapId coverageStart hlineage =>
  split at h
  · cases h
  next hvalid =>
  cases h; refine ⟨policy.id, bootstrapId, coverageStart, rfl, hlineage, ?_, ?_⟩
  · intro a ha; by_contra hne; exact hverified ⟨a, ha, hne⟩
  · exact fun p hp hne => hvalid ⟨p, hp, hne⟩

theorem planWindow_sound {now : Int} (h : beginCapture v s proof now = .ok (.fetch plan))
    (hdoc : ∀ id, s.cursor v = some id → ∃ c, s.coverages.get? id = some ⟨id, c⟩) :
    PlanSound v s plan := by
  obtain ⟨policyId, bootstrapId, coverageStart, rfl, _, _, hvalid⟩ := beginCapture_plan h
  refine ⟨fun hnone => ?_, fun id hid => ?_⟩
  · have hnone : s.cursor v = none := hnone; rw [hnone]
    have htwo : 0 ≤ twoDays := by decide
    refine ⟨rfl, ?_, rfl⟩
    show max coverageStart (coverageStart - twoDays) = coverageStart; omega
  · have hid : s.cursor v = some id := hid; obtain ⟨c, hc⟩ := hdoc id hid
    have hprevious : (s.cursor v).bind s.coverages.get? = some ⟨id, c⟩ := by
      rw [hid]; exact hc
    have hlineage := hvalid ⟨id, c⟩ hprevious; unfold LineageInvalid at hlineage
    simp only [not_or, not_not] at hlineage
    obtain ⟨_, hbootstrap, hstart, _⟩ := hlineage; rw [hprevious]
    exact ⟨c, hc, rfl, hstart, hbootstrap, rfl, rfl⟩

/-! ## The cursor -/

variable {r : Option (Filed AccountRiskAnchor) × List String} {reasons : List String}

theorem Anchoring.cursors {sourceId : String}
    (h : Anchoring v plan sourceId captured reasons s r s') : s'.cursors = s.cursors := by
  cases h <;> rfl

theorem cursor_congr (hret : Retained s s') (h : s'.cursors = s.cursors) :
    s'.cursor v = s.cursor v := by
  unfold CapitalStore.cursor; rw [h, hret.scope v]

variable {source : ContinuousActivityCoverage}

theorem Noted.cursors (h : Noted v source s s') : s'.cursors = s.cursors := by
  obtain ⟨_, _, rfl⟩ := h.rest; rfl

theorem CursorMoved.coverages (h : CursorMoved v plan source s s') :
    s'.coverages = s.coverages := by
  obtain ⟨_, rfl⟩ := h.rest; rfl

theorem Anchoring.coverages {sourceId : String}
    (h : Anchoring v plan sourceId captured reasons s r s') : s'.coverages = s.coverages := by
  cases h <;> rfl

variable {r : Except String String}

/-- A valid write where the capture read the cursor moves it to its own document. -/
theorem Finishing.moved (h : Finishing v plan source captured s r s')
    (hread : s.cursor v = plan.cursor) (hcomplete : source.protocolComplete = true) :
    s'.cursor v = some (v.coverageId source) ∧
      s'.coverages.get? (v.coverageId source) = some ⟨v.coverageId source, source⟩ := by
  have hret := h.retained
  cases h with
  | flows hcursor _ _ | behind hcursor _ => exact absurd hread hcursor
  | receipt hcursor hnoted hmoved hanchor hreceipt hput hs' =>
    rename_i s₁ s₂ s₃ anchor reasons receipt receipts
    have hcursors : s'.cursors = s₂.cursors := by
      rw [hs']; exact hanchor.cursors
    have hcoverages : s'.coverages = s₁.coverages := by
      rw [hs']; exact hanchor.coverages.trans hmoved.coverages
    have hold : s₁.cursor v = plan.cursor :=
      (cursor_congr hnoted.retained hnoted.cursors).trans hread
    have hscope : s'.scope v = s₂.scope v :=
      (hret.scope v).trans ((hmoved.retained.scope v).trans (hnoted.retained.scope v)).symm
    refine ⟨?_, hcoverages ▸ hnoted.filed⟩; rw [← hmoved.moved hcomplete hold]
    unfold CapitalStore.cursor; rw [hcursors, hscope]

/-- A write leaves the cursor, or moves it to its own valid document from where the
capture read it. -/
theorem Finishing.cursor (h : Finishing v plan source captured s r s') : s'.cursor v = s.cursor v ∨
      (source.protocolComplete = true ∧ s.cursor v = plan.cursor ∧
        s'.cursor v = some (v.coverageId source) ∧
        s'.coverages.get? (v.coverageId source) = some ⟨v.coverageId source, source⟩) := by
  have hret := h.retained; have hmoved := h.moved
  cases h with
  | flows _ _ hnoted => exact .inl (cursor_congr hret hnoted.cursors)
  | behind _ _ => exact .inl rfl
  | receipt hcursor hnoted hkept hanchor _ _ hs' =>
    cases hcomplete : source.protocolComplete with
    | true => exact .inr ⟨rfl, hcursor, hmoved hcursor hcomplete⟩
    | false =>
      left; refine cursor_congr hret ?_; rw [hs']
      exact (hanchor.cursors.trans (hkept.kept hcomplete)).trans hnoted.cursors

theorem coverageInv_finish {pending : List CapturePlan} (hinv : CoverageInv v ⟨s, pending⟩)
    (hplan : plan ∈ pending)
    (h : Finishing v plan (coverageOf v s plan rows captured) captured s r s') :
    ∀ id, s'.cursor v = some id → ∃ chain start bootstrap,
      ActivityChain s' id chain ∧ CoverageSound (s'.scope v) start bootstrap chain := by
  have hret := h.retained; intro id hid; rw [hret.scope v]
  rcases h.cursor with hsame | ⟨hcomplete, hcursor, hnew, hfiled⟩
  · obtain ⟨chain, start, bootstrap, hchain, hsound⟩ := hinv.chain id (hsame ▸ hid)
    exact ⟨chain, start, bootstrap, hchain.retained hret, hsound⟩
  rw [hnew] at hid; cases hid; have hsound := hinv.plans plan hplan
  cases hread : plan.cursor with
  | none =>
    obtain ⟨hprevious, hquery, _⟩ := hsound.fresh hread
    exact ⟨_, plan.coverageStart, plan.bootstrapId, .root hfiled hprevious,
      .root rfl rfl rfl hcomplete hquery⟩
  | some id =>
    obtain ⟨c, hc, hprevious, hstart, hbootstrap, hquery, _⟩ := hsound.behind id hread
    obtain ⟨chain, start, bootstrap, hchain, hcov⟩ := hinv.chain id (hcursor.trans hread)
    obtain ⟨c', hmem, hc'⟩ := hchain.last
    have hsame : some (Filed.mk id c) = some ⟨id, c'⟩ := hc.symm.trans hc'
    cases hsame; obtain ⟨hs, hb, _, _⟩ := hcov.same c hmem
    refine ⟨_, start, bootstrap, .next hfiled hprevious (hchain.retained hret),
      hcov.next hmem ?_ ?_ rfl hcomplete ?_⟩
    · exact hstart.symm.trans hs
    · exact hbootstrap.symm.trans hb
    · show plan.queryStart = _; rw [hquery, ← hstart, hs]

theorem coverageInv_step {w w' : CapitalWorld} {l : CapitalLabel} (hinv : CoverageInv v w)
    (h : (capturing v).step w l w') : CoverageInv v w' := by
  have hret := capturing_retained h
  cases h with
  | begin proof now =>
    refine ⟨hinv.chain, fun plan hplan => ?_⟩; unfold begunPending at hplan
    split at hplan
    · next p hbegin =>
      rcases List.mem_cons.1 hplan with rfl | hold
      · refine planWindow_sound hbegin fun id hid => ?_
        obtain ⟨_, _, _, hchain, _⟩ := hinv.chain id hid
        obtain ⟨c, _, hc⟩ := hchain.last; exact ⟨c, hc⟩
      · exact hinv.plans plan hold
    · exact hinv.plans plan hplan
  | abandon plan => exact ⟨hinv.chain, fun p hp => hinv.plans p (List.mem_of_mem_erase hp)⟩
  | other hother =>
    refine ⟨fun id hid => ?_, fun plan hplan => (hinv.plans plan hplan).retained hret⟩
    obtain ⟨chain, start, bootstrap, hchain, hsound⟩ :=
      hinv.chain id (cursor_congr hret hother.cursors ▸ hid)
    exact ⟨chain, start, bootstrap, hchain.retained hret, hret.scope v ▸ hsound⟩
  | finish replies captured hmem =>
    rename_i plan
    refine ⟨?_, fun p hp => (hinv.plans p (List.mem_of_mem_erase hp)).retained hret⟩
    rcases completeCapture_after v plan replies captured w.store with
      hsame | ⟨_, _, _, _, hcases⟩
    · show ∀ id, (after (completeCapture v plan replies captured) w.store).cursor v = _ → _
      rw [hsame]; exact hinv.chain
    · exact coverageInv_finish hinv hmem hcases

theorem coverageInv_inductive (v : CapitalViews) : (capturing v).Inductive (CoverageInv v) where
  init := by
    intro w ⟨hpending, _, _, _, _, _, _, hcursors⟩
    refine ⟨fun id hid => ?_, ?_⟩
    · unfold CapitalStore.cursor at hid; rw [hcursors] at hid; cases hid
    · rw [hpending]; exact fun plan hplan => by cases hplan
  step _ _ _ := coverageInv_step

/-- What a step that moves the cursor was. -/
structure CursorAdvance (v : CapitalViews) (w : CapitalWorld) (l : CapitalLabel) (w' : CapitalWorld)
    (plan : CapturePlan) (c : ContinuousActivityCoverage) : Prop where
  label : ∃ replies captured, l = .finish plan replies captured ∧
    WalkComplete [] replies [] c.rows
  valid : RowsValid c.rows c.activityWatermark
  filed : ∃ id, w'.store.cursor v = some id ∧ w'.store.coverages.get? id = some ⟨id, c⟩
  previous : c.previousId = w.store.cursor v
  watermark : ∀ id p, w.store.cursor v = some id → w.store.coverages.get? id = some ⟨id, p⟩ →
    c.activityWatermark = min plan.now (p.activityWatermark + sixHours) ∧
    (c.activityWatermark < p.activityWatermark ↔ plan.now < p.activityWatermark) ∧
    p.activityWatermark - twoDays ≤ c.activityWatermark

theorem cursorAdvance {w w' : CapitalWorld} {l : CapitalLabel} (hinv : CoverageInv v w)
    (h : (capturing v).step w l w') (hmoved : w'.store.cursor v ≠ w.store.cursor v) :
    ∃ plan c, CursorAdvance v w l w' plan c := by
  have hret := capturing_retained h
  cases h with
  | begin _ _ | abandon _ => exact absurd rfl hmoved
  | other hother => exact absurd (cursor_congr hret hother.cursors) hmoved
  | finish replies captured hmem =>
    rename_i plan
    rcases completeCapture_after v plan replies captured w.store with
      hsame | ⟨rows, r, hrows, _, hcases⟩
    · exact absurd (congrArg (CapitalStore.cursor v) hsame) hmoved
    rcases hcases.cursor with hsame | ⟨hcomplete, hcursor, hnew, hfiled⟩
    · exact absurd hsame hmoved
    have hsound := hinv.plans plan hmem
    unfold captureRows getPerformanceActivities at hrows; split at hrows
    · cases hrows
    next hinterval =>
    refine ⟨plan, coverageOf v w.store plan rows captured,
      ⟨replies, captured, rfl, walkPages_ok hrows⟩, activityFlags_valid hcomplete,
      ⟨_, hnew, hfiled⟩, ?_, fun id p hid hp => ?_⟩
    · show plan.previousId = _; rw [hcursor]
      cases hread : plan.cursor with
      | none => exact (hsound.fresh hread).1
      | some id =>
        obtain ⟨_, _, hprevious, _⟩ := hsound.behind id hread; exact hprevious
    · obtain ⟨c, hc, _, _, _, hquery, hlimit⟩ := hsound.behind id (hcursor ▸ hid)
      have hsame : some (Filed.mk id c) = some ⟨id, p⟩ := hc.symm.trans hp
      cases hsame; show plan.limit = _ ∧ (plan.limit < _ ↔ _) ∧ _ ≤ plan.limit
      have hsix : 0 < sixHours := by decide
      refine ⟨hlimit, ?_, ?_⟩ <;> omega

/-- **Activity coverage.** Over every run: the documents behind the cursor share one
start of coverage, are complete, and their windows cover everything from that start up
to every watermark they have had; and a step moves the cursor only at the end of a
capture whose walk was complete and whose rows are valid, to a document that names the
cursor it moved from. Its watermark is the clock of the capture, or six hours past the
watermark before it where that is earlier: it decreases exactly where that clock reads
before the previous watermark, and never by more than two days. -/
theorem activity_coverage (v : CapitalViews) (w : CapitalWorld) (h : (capturing v).Reachable w) :
    (∀ id, w.store.cursor v = some id → ∃ chain start, ActivityChain w.store id chain ∧
      (∀ c ∈ chain, c.coverageStart = start ∧ c.protocolComplete = true) ∧
      ∀ c ∈ chain, Set.Icc start c.activityWatermark ⊆ Covered (chain.map (·.window))) ∧
    ∀ l w', (capturing v).step w l w' → w'.store.cursor v ≠ w.store.cursor v →
      ∃ plan c, CursorAdvance v w l w' plan c := by
  have hinv := (coverageInv_inductive v).reachable h
  refine ⟨fun id hid => ?_, fun l w' hst hmoved => cursorAdvance hinv hst hmoved⟩
  obtain ⟨chain, start, _, hchain, hsound⟩ := hinv.chain id hid
  exact ⟨chain, start, hchain, fun c hc => ⟨(hsound.same c hc).1, (hsound.same c hc).2.2.2⟩,
    hsound.covered⟩

/-! ## A clock that steps back -/

/-- The first capture, ten seconds into the session. -/
def earlyPlan : CapturePlan :=
  planWindow "policy" firstProof (trustedOpening capitalViews openedCapital (firstOpen + 10 * second) none)
    none none "opening 1" firstOpen (firstOpen + 10 * second)

def tenthSecond : CapitalStore :=
  after (completeCapture capitalViews earlyPlan [.page []] (firstOpen + 11 * second)) openedCapital

/-- A proof taken after the clock went back. -/
def steppedProof : ReconciliationProof :=
  paperProof 2 Nat.two_pos (firstOpen + 4 * second) (paperAccount 1000 L1.thousand_nonneg) true

def steppedStore : CapitalStore :=
  { tenthSecond with
    documents := tenthSecond.documents.insert ⟨"proof 2", .proof steppedProof⟩
    certifications := tenthSecond.certifications.insert ⟨2, "proof 2"⟩
    funds := tenthSecond.funds.insert ⟨steppedProof.acquisitionId,
      fundsReceipt steppedProof.recordedAt steppedProof.account⟩ }

/-- Its capture, with the clock at five seconds. -/
def steppedPlan : CapturePlan :=
  planWindow "policy" steppedProof
    (trustedOpening capitalViews steppedStore (firstOpen + 5 * second) none)
    (steppedStore.cursor capitalViews)
    ((steppedStore.cursor capitalViews).bind steppedStore.coverages.get?) "opening 1" firstOpen
    (firstOpen + 5 * second)

theorem tenthSecond_reachable : (capturing capitalViews).Reachable ⟨tenthSecond, []⟩ := by
  refine ⟨⟨openedCapital, []⟩, [.begin firstProof (firstOpen + 10 * second),
    .finish earlyPlan [.page []] (firstOpen + 11 * second)], openedCapital_init, ?_⟩
  have hbegin : beginCapture capitalViews openedCapital firstProof (firstOpen + 10 * second) =
      .ok (.fetch earlyPlan) := by decide
  have hpending : begunPending capitalViews ⟨openedCapital, []⟩ firstProof
      (firstOpen + 10 * second) = [earlyPlan] := by
    unfold begunPending; rw [hbegin]
  have hone := CapitalStep.begin (v := capitalViews) ⟨openedCapital, []⟩ firstProof
    (firstOpen + 10 * second)
  have htwo := CapitalStep.finish (v := capitalViews) ⟨openedCapital, [earlyPlan]⟩ [.page []]
    (firstOpen + 11 * second) (List.mem_singleton_self earlyPlan)
  exact .cons hone (.cons htwo (.nil _))

theorem steppedStore_reachable :
    (capturing capitalViews).Reachable ⟨steppedStore, [steppedPlan]⟩ := by
  have hother : (capturing capitalViews).step ⟨tenthSecond, []⟩ .other ⟨steppedStore, []⟩ :=
    .other ⟨rfl, rfl, rfl, rfl, rfl, rfl, rfl, rfl, rfl, rfl, fun _ h => h⟩
  have hbegin : beginCapture capitalViews steppedStore steppedProof (firstOpen + 5 * second) =
      .ok (.fetch steppedPlan) := by decide
  have hpending : begunPending capitalViews ⟨steppedStore, []⟩ steppedProof
      (firstOpen + 5 * second) = [steppedPlan] := by
    unfold begunPending; rw [hbegin]
  have hplanned := CapitalStep.begin (v := capitalViews) ⟨steppedStore, []⟩ steppedProof
    (firstOpen + 5 * second)
  exact (tenthSecond_reachable.step hother).step hplanned

/-- The chain of the first capture. -/
theorem activity_coverage_first :
    ∃ chain start, ActivityChain tenthSecond "activity 52211000000" chain ∧
      ∀ c ∈ chain, Set.Icc start c.activityWatermark ⊆ Covered (chain.map (·.window)) := by
  have hcursor : tenthSecond.cursor capitalViews = some "activity 52211000000" := by
    decide
  obtain ⟨chain, start, hchain, _, hcovered⟩ :=
    (activity_coverage capitalViews _ tenthSecond_reachable).1 _ hcursor
  exact ⟨chain, start, hchain, hcovered⟩

/-- The second capture's watermark is before the first one's. -/
theorem watermark_decreases :
    ∃ w l w' p c, (capturing capitalViews).Reachable w ∧ (capturing capitalViews).step w l w' ∧
      (w.store.cursor capitalViews).bind w.store.coverages.get? = some p ∧
      (w'.store.cursor capitalViews).bind w'.store.coverages.get? = some c ∧
      c.payload.previousId = some p.id ∧
      c.payload.activityWatermark < p.payload.activityWatermark := by
  have hst := CapitalStep.finish (v := capitalViews) ⟨steppedStore, [steppedPlan]⟩ [.page []]
    (firstOpen + 6 * second) (List.mem_singleton_self steppedPlan)
  have hp : ∃ p, (steppedStore.cursor capitalViews).bind steppedStore.coverages.get? = some p ∧
      p.id = "activity 52211000000" ∧ p.payload.activityWatermark = firstOpen + 10 * second := by
    decide
  have hc : ∃ c, ((after (completeCapture capitalViews steppedPlan [.page []]
        (firstOpen + 6 * second)) steppedStore).cursor capitalViews).bind
        (after (completeCapture capitalViews steppedPlan [.page []]
        (firstOpen + 6 * second)) steppedStore).coverages.get? = some c ∧
      c.payload.previousId = some "activity 52211000000" ∧
      c.payload.activityWatermark = firstOpen + 5 * second := by
    decide
  obtain ⟨p, hp, hid, hfirst⟩ := hp; obtain ⟨c, hc, hprevious, hsecond⟩ := hc
  refine ⟨_, _, _, p, c, steppedStore_reachable, hst, hp, hc, ?_, ?_⟩
  · rw [hprevious, hid]
  · rw [hfirst, hsecond]; decide

end Quantbot.L4
