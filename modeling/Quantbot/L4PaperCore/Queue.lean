import Quantbot.L2Storage.Evolution
import Quantbot.L4PaperCore.Work

/-!
# The work queue's invariant

What any transaction of any role does to the evidence and to the work queue.
Evidence only grows (`Grows`): documents, links and fills are never deleted,
intents and orders keep their client ids, and the receipt pointer never moves
back. Over that, `LotQueue` relates one lot's work row, watermark, notifications
and acknowledgements, and `Keeps` is the preorder a transaction respects when it
grows the evidence and keeps `LotQueue` of every lot.

Each piece of a transaction is shown to move along `Keeps` once; whole
transactions follow by the rules of `Txn.Moves`.
-/
namespace Quantbot.L4

open Core L1 L2 Txn

/-! ## Growth of the ledger -/

/-- Intents and orders keep their client ids, fills stay. -/
structure LedgerGrows (s s' : Store) : Prop where
  intents : ∀ i ∈ s.orderIntents.rows, ∃ i' ∈ s'.orderIntents.rows,
    i'.intentId = i.intentId ∧ i'.clientOrderId = i.clientOrderId
  orders : ∀ o ∈ s.brokerOrders.rows, ∃ o' ∈ s'.brokerOrders.rows,
    o'.brokerOrderId = o.brokerOrderId ∧ o'.clientOrderId = o.clientOrderId
  fills : ∀ f ∈ s.fills.rows, f ∈ s'.fills.rows

theorem LedgerGrows.rfl' (s : Store) : LedgerGrows s s :=
  ⟨fun i hi => ⟨i, hi, rfl, rfl⟩, fun o ho => ⟨o, ho, rfl, rfl⟩, fun _ hf => hf⟩

theorem LedgerGrows.trans' {a b c : Store} (h : LedgerGrows a b) (h' : LedgerGrows b c) :
    LedgerGrows a c := by
  refine ⟨fun i hi => ?_, fun o ho => ?_, fun f hf => h'.fills f (h.fills f hf)⟩
  · obtain ⟨i₁, hi₁, e₁, c₁⟩ := h.intents i hi
    obtain ⟨i₂, hi₂, e₂, c₂⟩ := h'.intents i₁ hi₁
    exact ⟨i₂, hi₂, e₂.trans e₁, c₂.trans c₁⟩
  · obtain ⟨o₁, ho₁, e₁, c₁⟩ := h.orders o ho
    obtain ⟨o₂, ho₂, e₂, c₂⟩ := h'.orders o₁ ho₁
    exact ⟨o₂, ho₂, e₂.trans e₁, c₂.trans c₁⟩

theorem grows_of_evolves {s s' : Store} (h : Evolves s s') : LedgerGrows s s' := by
  refine ⟨fun i hi => ?_, fun o ho => ?_, h.fills⟩
  · obtain ⟨q, hq, _⟩ := h.intents i.intentId i (Table.get?_key.2 hi)
    exact ⟨_, (Table.get?_some hq).1, rfl, rfl⟩
  · obtain ⟨o', ho', hsame⟩ := h.orders o.brokerOrderId o (Table.get?_key.2 ho)
    exact ⟨o', (Table.get?_some ho').1, (Table.get?_some ho').2, hsame.1.symm⟩

/-! ## Growth of the evidence -/

structure Grows (s s' : CoreStore) : Prop where
  config : s'.config = s.config
  ledger : LedgerGrows s.toStore s'.toStore
  links : ∀ l ∈ s.links.rows, l ∈ s'.links.rows
  documents : ∀ r ∈ s.documents.rows, r ∈ s'.documents.rows
  receipt : ∀ r, s.currentReceipt = some r →
    ∃ r', s'.currentReceipt = some r' ∧ r.recordedAt ≤ r'.recordedAt

theorem Grows.rfl' (s : CoreStore) : Grows s s :=
  ⟨rfl, .rfl' _, fun _ h => h, fun _ h => h, fun r h => ⟨r, h, le_refl _⟩⟩

theorem Grows.trans' {a b c : CoreStore} (h : Grows a b) (h' : Grows b c) : Grows a c := by
  refine ⟨h'.config.trans h.config, h.ledger.trans' h'.ledger,
    fun l hl => h'.links l (h.links l hl), fun r hr => h'.documents r (h.documents r hr), ?_⟩
  intro r hr; obtain ⟨r₁, h₁, l₁⟩ := h.receipt r hr
  obtain ⟨r₂, h₂, l₂⟩ := h'.receipt r₁ h₁; exact ⟨r₂, h₂, by omega⟩

namespace CoreStore

theorem mem_clientsOf {s : CoreStore} {lot c : String} :
    c ∈ s.clientsOf lot ↔ ∃ l ∈ s.links.rows, ∃ i ∈ s.orderIntents.rows,
      i.intentId = l.intentId ∧ l.lotId = lot ∧ i.clientOrderId = c := by
  simp only [clientsOf, linkedIntents, intentOf, List.mem_map, List.mem_filter, List.mem_filterMap,
    Option.map_eq_some_iff, decide_eq_true_eq]
  constructor
  · rintro ⟨p, ⟨⟨l, hl, i, hi, rfl⟩, hlot⟩, hc⟩
    obtain ⟨hm, hk⟩ := Table.get?_some hi; exact ⟨l, hl, i, hm, hk, hlot, hc⟩
  · rintro ⟨l, hl, i, hi, hk, hlot, hc⟩
    exact ⟨(l, i), ⟨⟨l, hl, i, Table.get?_eq_some.2 ⟨hi, hk⟩, rfl⟩, hlot⟩, hc⟩

theorem mem_ownedFills {s : CoreStore} {lot f : String} :
    f ∈ s.ownedFills lot ↔ ∃ fill ∈ s.fills.rows, ∃ o ∈ s.brokerOrders.rows,
      o.brokerOrderId = fill.brokerOrderId ∧ o.clientOrderId ∈ s.clientsOf lot ∧
        fill.fillId = f := by
  simp only [ownedFills, List.mem_map, List.mem_filter]; constructor
  · rintro ⟨fill, ⟨hf, ho⟩, hk⟩; split at ho
    · next o hget =>
      obtain ⟨hm, hid⟩ := Table.get?_some hget
      exact ⟨fill, hf, o, hm, hid, by simpa using ho, hk⟩
    · cases ho
  · rintro ⟨fill, hf, o, ho, hid, hc, hk⟩; refine ⟨fill, ⟨hf, ?_⟩, hk⟩
    have hget : s.brokerOrders.get? fill.brokerOrderId = some o := Table.get?_eq_some.2 ⟨ho, hid⟩
    rw [hget]; simpa using hc

end CoreStore

section Evidence

variable {s s' : CoreStore} {lot : String}

theorem Grows.documentsOf {α : Type} {project : Document → Option α} (h : Grows s s')
    {p : String × α} (hp : p ∈ s.documentsOf project) : p ∈ s'.documentsOf project := by
  obtain ⟨d, hd, hx⟩ := CoreStore.mem_documentsOf.1 hp
  exact CoreStore.mem_documentsOf.2 ⟨d, h.documents _ hd, hx⟩

theorem Grows.clientsOf (h : Grows s s') {c : String} (hc : c ∈ s.clientsOf lot) :
    c ∈ s'.clientsOf lot := by
  obtain ⟨l, hl, i, hi, hid, hlot, rfl⟩ := CoreStore.mem_clientsOf.1 hc
  obtain ⟨i', hi', hid', hc'⟩ := h.ledger.intents i hi
  exact CoreStore.mem_clientsOf.2 ⟨l, h.links l hl, i', hi', hid'.trans hid, hlot, hc'⟩

theorem Grows.ownedFills (h : Grows s s') {f : String} (hf : f ∈ s.ownedFills lot) :
    f ∈ s'.ownedFills lot := by
  obtain ⟨fill, hfill, o, ho, hid, hc, rfl⟩ := CoreStore.mem_ownedFills.1 hf
  obtain ⟨o', ho', hid', hc'⟩ := h.ledger.orders o ho
  exact CoreStore.mem_ownedFills.2 ⟨fill, h.ledger.fills fill hfill, o', ho', hid'.trans hid,
    hc' ▸ h.clientsOf hc, rfl⟩

theorem Grows.evidence (h : Grows s s') {t : Int} (ht : t ∈ s.evidenceTimes lot) :
    ∃ t' ∈ s'.evidenceTimes lot, t ≤ t' := by
  simp only [CoreStore.evidenceTimes, List.mem_append, CoreStore.sourceTimes, CoreStore.costTimes,
    CoreStore.proofTimes, List.mem_map, List.mem_filter, decide_eq_true_eq, Option.mem_toList,
    Option.map_eq_some_iff] at ht ⊢
  rcases ht with (((⟨p, ⟨hp, hc⟩, rfl⟩ | ⟨p, ⟨hp, hf⟩, rfl⟩) | ⟨p, ⟨hp, ha⟩, rfl⟩) |
    ⟨r, hr, rfl⟩) | ⟨d, hd, rfl⟩
  · exact ⟨_, .inl (.inl (.inl (.inl ⟨p, ⟨h.documentsOf hp, h.clientsOf hc⟩, rfl⟩))), le_refl _⟩
  · exact ⟨_, .inl (.inl (.inl (.inr ⟨p, ⟨h.documentsOf hp, h.ownedFills hf⟩, rfl⟩))), le_refl _⟩
  · refine ⟨_, .inl (.inl (.inr ⟨p, ⟨h.documentsOf hp, ha.trans ?_⟩, rfl⟩)), le_refl _⟩
    rw [h.config]
  · obtain ⟨r', hr', hle⟩ := h.receipt r hr
    exact ⟨_, .inl (.inr ⟨r', hr', rfl⟩), hle⟩
  · refine ⟨_, .inr ⟨d, ?_, rfl⟩, le_refl _⟩
    exact CoreStore.decision?_eq_some.2 (h.documents _ (CoreStore.decision?_eq_some.1 hd))

end Evidence

/-! ## The queue of one lot -/

/-- Ghost: a run acknowledged a version of a lot under its cutoff. -/
structure Ack where
  lotId : String
  version : Nat
  cutoff : Int
deriving DecidableEq, Repr

/-- The times a notification stands for: its source time, or, where that is absent,
the evidence on record when it was made. -/
def Notification.times (n : Notification) : List Int :=
  match n.availableAt with
  | some t => [t]
  | none => n.evidence

/-- `t` is no later than the time `m` holds. -/
def Within (t : Int) (m : Option Int) : Prop := ∃ a, m = some a ∧ t ≤ a

variable {t : Int}

theorem Within.mono {m m' : Option Int} (h : Within t m) (hm : ∀ a, m = some a → Within a m') :
    Within t m' := by
  obtain ⟨a, ha, hle⟩ := h; obtain ⟨b, hb, hle'⟩ := hm a ha
  exact ⟨b, hb, by omega⟩

theorem within_max {l : List Int} (h : t ∈ l) : Within t l.max? := by
  cases hm : l.max? with
  | none =>
    rw [List.max?_eq_none_iff] at hm; subst hm; cases h
  | some a => exact ⟨a, rfl, (List.max?_eq_some_iff.1 hm).2 t h⟩

/-- One lot: its work row, watermark, notifications, the evidence on record and its
acknowledgements. -/
structure LotQueue (work : Option WorkRow) (mark : Option Watermark) (notes : List Notification)
    (evidence : List Int) (acks : List Ack) : Prop where
  /-- A notified lot has a work row and a watermark that holds every source time. -/
  recorded : ∀ n ∈ notes, work.isSome ∧ ∃ m, mark = some m ∧
    ∀ t, n.availableAt = some t → Within t m.availableAt
  /-- A known watermark also holds the evidence behind every absent time. -/
  known : ∀ w m, work = some w → mark = some m → m.reference = .known w.version →
    ∀ n ∈ notes, n.availableAt = none → ∀ t ∈ n.evidence, Within t m.availableAt
  /-- The evidence behind a notification is still on record. -/
  onRecord : ∀ n ∈ notes, ∀ t ∈ n.evidence, ∃ t' ∈ evidence, t ≤ t'
  /-- An acknowledgement of the current version covers every notification. -/
  acked : ∀ a ∈ acks, ∃ w, work = some w ∧ a.version ≤ w.version ∧
    (a.version = w.version → ∀ n ∈ notes, ∀ t ∈ n.times, t ≤ a.cutoff)
  /-- A processed version that is current was acknowledged, or nothing was notified. -/
  processed : ∀ w, work = some w → w.processedVersion ≤ w.version ∧
    (w.processedVersion = w.version → notes = [] ∨ ∃ a ∈ acks, a.version = w.version)

namespace LotQueue

variable {work : Option WorkRow} {mark : Option Watermark} {notes : List Notification}
  {evidence evidence' : List Int} {acks : List Ack}

theorem grow (h : LotQueue work mark notes evidence acks)
    (he : ∀ t ∈ evidence, ∃ t' ∈ evidence', t ≤ t') : LotQueue work mark notes evidence' acks := by
  refine ⟨h.recorded, h.known, ?_, h.acked, h.processed⟩; intro n hn t ht
  obtain ⟨t₁, h₁, l₁⟩ := h.onRecord n hn t ht; obtain ⟨t₂, h₂, l₂⟩ := he t₁ h₁
  exact ⟨t₂, h₂, by omega⟩

variable {initialClaim : Bool} {lot : String} {availableAt : Option Int} {m : Watermark}

theorem nextWatermark_holds {t : Int} (hm : mark = some m) (ht : Within t m.availableAt) :
    Within t (nextWatermark work mark availableAt initialClaim lot).availableAt := by
  obtain ⟨a, ha, hle⟩ := ht
  have hmem : a ∈ availableAt.toList ++ (mark.bind (·.availableAt)).toList := by
    simp [hm, ha]
  obtain ⟨b, hb, hle'⟩ := within_max hmem; exact ⟨b, hb, by omega⟩

theorem nextWatermark_given {t : Int} :
    Within t (nextWatermark work mark (some t) initialClaim lot).availableAt := by
  have hmem : t ∈ (some t).toList ++ (mark.bind (·.availableAt)).toList := by simp
  exact within_max hmem

/-- The new watermark is known only when this call gave a time and the old watermark
was known for the old version (or there was no work yet). -/
theorem nextWatermark_known {v : Nat}
    (h : (nextWatermark work mark availableAt initialClaim lot).reference = .known v) :
    availableAt.isSome ∧ (work = none ∨
      ∃ w m, work = some w ∧ mark = some m ∧ m.reference = .known w.version) := by
  unfold nextWatermark at h; split at h
  · next hk =>
    refine ⟨hk.1, ?_⟩; have hk := hk.2
    cases work with
    | none => exact .inl rfl
    | some w =>
      have hm : mark.map (·.reference) = some (.known w.version) := of_decide_eq_true hk
      obtain ⟨m, hm, href⟩ := Option.map_eq_some_iff.1 hm
      exact .inr ⟨w, m, rfl, hm, href⟩
  · cases h

section

variable (h : LotQueue work mark notes evidence acks)
include h

/-- **One notification.** A `dirty` call keeps the lot's queue. -/
theorem dirty (availableAt : Option Int) (initialClaim : Bool) (lot : String) :
    LotQueue (some (nextWork work lot)) (some (nextWatermark work mark availableAt initialClaim lot))
      (notes ++ [⟨lot, availableAt, evidence⟩]) evidence acks where
  recorded := by
    intro n hn; refine ⟨rfl, _, rfl, ?_⟩; intro t ht
    rcases List.mem_append.1 hn with hn | hn
    · obtain ⟨_, m, hm, hold⟩ := h.recorded n hn
      exact nextWatermark_holds hm (hold t ht)
    · rw [List.mem_singleton] at hn; subst hn; subst ht
      exact nextWatermark_given
  known := by
    intro w m hw hm href n hn hnone t ht; cases hw; cases hm
    obtain ⟨hgiven, hprev⟩ := nextWatermark_known href
    rcases List.mem_append.1 hn with hn | hn
    · obtain ⟨hwork, _, _, _⟩ := h.recorded n hn
      rcases hprev with hnone' | ⟨w, m, hw, hm, href'⟩
      · rw [hnone'] at hwork; cases hwork
      · exact nextWatermark_holds hm (h.known w m hw hm href' n hn hnone t ht)
    · -- the new notification has a time
      rw [List.mem_singleton] at hn; subst hn; simp only at hnone
      rw [hnone] at hgiven; cases hgiven
  onRecord := by
    intro n hn t ht; rcases List.mem_append.1 hn with hn | hn
    · exact h.onRecord n hn t ht
    rw [List.mem_singleton] at hn; subst hn; exact ⟨t, ht, le_refl t⟩
  acked := by
    -- every acknowledgement is now of an older version
    intro a ha; obtain ⟨w, hw, hle, _⟩ := h.acked a ha; refine ⟨_, rfl, ?_, ?_⟩
    · rw [nextWork_version, hw]; show a.version ≤ w.version + 1; omega
    · intro heq; rw [nextWork_version, hw] at heq
      have heq : a.version = w.version + 1 := heq; omega
  processed := by
    intro w hw; cases hw
    cases work with
    | none => exact ⟨Nat.zero_le 1, fun h0 => absurd h0 (by show (0 : Nat) ≠ 1; omega)⟩
    | some w =>
      have hle := (h.processed w rfl).1; refine ⟨?_, ?_⟩
      · show w.processedVersion ≤ w.version + 1; omega
      · intro heq; have heq : w.processedVersion = w.version + 1 := heq; omega

theorem covered {w : WorkRow} {a cutoff : Int} (hw : work = some w) (hm : mark = some m)
    (href : m.reference = .known w.version) (ha : m.availableAt = some a) (hle : a ≤ cutoff) :
    ∀ n ∈ notes, ∀ t ∈ n.times, t ≤ cutoff := by
  intro n hn t ht
  have hwithin : Within t m.availableAt := by
    unfold Notification.times at ht; split at ht
    · next t' hat =>
      rw [List.mem_singleton] at ht; subst ht
      obtain ⟨_, m', hm', hold⟩ := h.recorded n hn; rw [hm] at hm'; cases hm'
      exact hold t hat
    · next hnone => exact h.known w m hw hm href n hn hnone t ht
  obtain ⟨b, hb, hlb⟩ := hwithin; rw [ha] at hb; cases hb; omega

/-- A watermark moved to a time that bounds the evidence and the old watermark is known. -/
theorem settle {m' : Watermark} {latest : Int}
    (hm' : m'.availableAt = some latest) (hev : ∀ t ∈ evidence, t ≤ latest)
    (hold : ∀ m a, mark = some m → m.availableAt = some a → a ≤ latest) :
    LotQueue work (some m') notes evidence acks where
  recorded := by
    intro n hn; obtain ⟨hwork, m, hm, hat⟩ := h.recorded n hn
    refine ⟨hwork, m', rfl, fun t ht => (hat t ht).mono fun a ha => ?_⟩
    exact ⟨latest, hm', hold m a hm ha⟩
  known := by
    intro w m hw hm _ n hn _ t ht; cases hm
    obtain ⟨t', ht', hle⟩ := h.onRecord n hn t ht; have := hev t' ht'
    exact ⟨latest, hm', by omega⟩
  onRecord := h.onRecord
  acked := h.acked
  processed := h.processed

theorem attempted (t : Option Int) :
    LotQueue (work.map ({ · with attemptedAt := t })) mark notes evidence acks := by
  cases work with
  | none => exact h
  | some w =>
    refine ⟨h.recorded, ?_, h.onRecord, ?_, ?_⟩
    · intro w' m hw hm; cases hw; exact h.known w m rfl hm
    · intro a ha; obtain ⟨w', hw, hle, hcov⟩ := h.acked a ha; cases hw
      exact ⟨_, rfl, hle, hcov⟩
    · intro w' hw; cases hw; exact h.processed w rfl

end

theorem acknowledge {w : WorkRow} (h : LotQueue (some w) mark notes evidence acks) {a : Ack}
    (ha : a.version = w.version) (hcov : ∀ n ∈ notes, ∀ t ∈ n.times, t ≤ a.cutoff) :
    LotQueue (some { w with processedVersion := w.version }) mark notes evidence
      (acks ++ [a]) where
  recorded := h.recorded
  known := by
    intro w' m hw hm
    cases hw
    exact h.known w m rfl hm
  onRecord := h.onRecord
  acked := by
    intro b hb
    rcases List.mem_append.1 hb with hb | hb
    · obtain ⟨w', hw, hle, hold⟩ := h.acked b hb
      cases hw
      exact ⟨_, rfl, hle, hold⟩
    · rw [List.mem_singleton] at hb
      subst hb
      exact ⟨_, rfl, ha.le, fun _ => hcov⟩
  processed := by
    intro w' hw
    cases hw
    exact ⟨le_refl _, fun _ => .inr ⟨a, by simp, ha⟩⟩

end LotQueue

/-! ## The whole queue -/

def CoreStore.notesOf (s : CoreStore) (lot : String) : List Notification :=
  s.journal.filter fun n => decide (n.lotId = lot)

def acksOf (acks : List Ack) (lot : String) : List Ack :=
  acks.filter fun a => decide (a.lotId = lot)

/-- `LotQueue` of every lot. -/
def QueueSound (acks : List Ack) (s : CoreStore) : Prop :=
  ∀ lot, LotQueue (s.work.get? lot) (s.notifications.get? lot) (s.notesOf lot)
    (s.evidenceTimes lot) (acksOf acks lot)

/-- Evidence grows and the queue stays sound, whatever was acknowledged so far. -/
def Keeps (s s' : CoreStore) : Prop := Grows s s' ∧ ∀ acks, QueueSound acks s → QueueSound acks s'

instance : IsPreorder CoreStore Keeps where
  refl s := ⟨.rfl' s, fun _ h => h⟩
  trans _ _ _ h h' := ⟨h.1.trans' h'.1, fun acks hs => h'.2 acks (h.2 acks hs)⟩

variable {s s' : CoreStore}

theorem Keeps.of_queue (hg : Grows s s') (hw : s'.work = s.work)
    (hn : s'.notifications = s.notifications) (hj : s'.journal = s.journal) : Keeps s s' := by
  refine ⟨hg, fun acks h lot => ?_⟩
  have hnotes : s'.notesOf lot = s.notesOf lot := by rw [CoreStore.notesOf, hj]; rfl
  rw [hw, hn, hnotes]; exact (h lot).grow fun t ht => hg.evidence ht

theorem ledger_keeps {t : Store} (h : Evolves s.toStore t) : Keeps s { s with toStore := t } :=
  .of_queue ⟨rfl, grows_of_evolves h, fun _ h => h, fun _ h => h, fun r h => ⟨r, h, le_refl _⟩⟩
    rfl rfl rfl

theorem onLedger_keeps {α : Type} {x : Repo α} (h : Moves Evolves x) :
    Moves Keeps (onLedger x) := h.zoom fun _ _ => ledger_keeps

/-! ## Dirty -/

theorem dirtyLot_grows (availableAt : Option Int) (initialClaim : Bool) (s : CoreStore)
    (lot : String) : Grows s (dirtyLot availableAt initialClaim s lot) :=
  ⟨rfl, .rfl' _, fun _ h => h, fun _ h => h, fun r h => ⟨r, h, le_refl _⟩⟩

theorem dirtyLot_keeps (availableAt : Option Int) (initialClaim : Bool) (s : CoreStore)
    (lot : String) : Keeps s (dirtyLot availableAt initialClaim s lot) := by
  refine ⟨dirtyLot_grows availableAt initialClaim s lot, fun acks h other => ?_⟩
  have hev : (dirtyLot availableAt initialClaim s lot).evidenceTimes other =
      s.evidenceTimes other := rfl
  have hwork := Table.get?_upsert s.work (nextWork (s.work.get? lot) lot) other
  have hmark := Table.get?_upsert s.notifications
    (nextWatermark (s.work.get? lot) (s.notifications.get? lot) availableAt initialClaim lot) other
  have hkey : (nextWork (s.work.get? lot) lot).lotId = lot := by
    cases hw : s.work.get? lot with
    | none => rfl
    | some w => exact (Table.get?_some hw).2
  rw [hkey] at hwork; change _ = if lot = other then _ else _ at hmark
  by_cases hlot : lot = other
  · subst hlot; rw [if_pos rfl] at hwork hmark
    have hnotes : (dirtyLot availableAt initialClaim s lot).notesOf lot =
        s.notesOf lot ++ [⟨lot, availableAt, s.evidenceTimes lot⟩] := by
      simp [CoreStore.notesOf, dirtyLot]
    rw [hev, hnotes]
    show LotQueue ((s.work.upsert _).get? lot) ((s.notifications.upsert _).get? lot) _ _ _
    rw [hwork, hmark]; exact (h lot).dirty availableAt initialClaim lot
  · rw [if_neg hlot] at hwork hmark
    have hnotes : (dirtyLot availableAt initialClaim s lot).notesOf other = s.notesOf other := by
      simp [CoreStore.notesOf, dirtyLot, hlot]
    rw [hev, hnotes]
    show LotQueue ((s.work.upsert _).get? other) ((s.notifications.upsert _).get? other) _ _ _
    rw [hwork, hmark]; exact h other

/-- What one lot of a `dirty` call moves along, the call moves along. -/
theorem dirty_moves {R : CoreStore → CoreStore → Prop} [IsPreorder CoreStore R] {t : Option Int}
    {b : Bool} (hone : ∀ s lot, R s (dirtyLot t b s lot)) (lots : List String) :
    Moves R (dirty lots t b) := fun s u s' h => by
  rw [dirty, modify_ok] at h
  subst h
  generalize lots.dedup.insertionSort (· ≤ ·) = l
  induction l generalizing s with
  | nil => exact refl_of R s
  | cons lot l ih => exact trans_of R (hone s lot) (ih _)

theorem dirty_keeps (lots : List String) (availableAt : Option Int) (initialClaim : Bool) :
    Moves Keeps (dirty lots availableAt initialClaim) :=
  dirty_moves (dirtyLot_keeps availableAt initialClaim) lots

/-! ## Documents -/

variable {d : Document} {identity lot : String}

theorem insertDocument_ok {b : Bool} (h : insertDocument identity d s = .ok b s') :
    (b = false ∧ ⟨identity, d⟩ ∈ s.documents.rows ∧ s' = s) ∨
    (b = true ∧ s.documents.get? (d.kind, identity) = none ∧
      s' = { s with documents := s.documents.insert ⟨identity, d⟩ }) := by
  unfold insertDocument at h; split at h
  · next existing hget =>
    split at h
    · next heq =>
      cases h; obtain ⟨hm, hk⟩ := Table.get?_some hget
      have hid : existing.id = identity := congrArg Prod.snd hk
      obtain ⟨i, p⟩ := existing; subst heq hid; exact .inl ⟨rfl, hm, rfl⟩
    · cases h
  · next hnone => cases h; exact .inr ⟨rfl, hnone, rfl⟩

theorem insertDocument_keeps (identity : String) (d : Document) :
    Moves Keeps (insertDocument identity d) := fun s b s' h => by
  rcases insertDocument_ok h with ⟨_, _, rfl⟩ | ⟨_, hnone, rfl⟩
  · exact refl_of Keeps _
  have hkey : DocRow.key ⟨identity, d⟩ = (d.kind, identity) := rfl
  have hdocs : ∀ r ∈ s.documents.rows, r ∈ (s.documents.insert ⟨identity, d⟩).rows :=
    fun r hr => (Table.mem_insert (hkey ▸ hnone)).2 (.inl hr)
  refine .of_queue ⟨rfl, .rfl' _, fun _ h => h, hdocs, ?_⟩ rfl rfl rfl
  intro r hr
  obtain ⟨id, hid, hrec⟩ := Option.bind_eq_some_iff.1 hr
  refine ⟨r, Option.bind_eq_some_iff.2 ⟨id, hid, ?_⟩, le_refl _⟩
  exact CoreStore.receipt?_eq_some.2 (hdocs _ (CoreStore.receipt?_eq_some.1 hrec))

variable {u : PUnit}

theorem publishReceipt_keeps {r : GuardianReceipt} (hr : s.receipt? identity = some r)
    (h : publishReceipt identity r s = .ok u s') : Keeps s s' := by
  unfold publishReceipt at h; split at h
  · next hnone =>
    cases h
    refine .of_queue ⟨rfl, .rfl' _, fun _ h => h, fun _ h => h, ?_⟩ rfl rfl rfl
    intro old hold; rw [CoreStore.currentReceipt, hnone] at hold; cases hold
  · next previous hprev =>
    split at h
    · cases h
    next old hold =>
    split at h
    · next hle =>
      cases h
      refine .of_queue ⟨rfl, .rfl' _, fun _ h => h, fun _ h => h, ?_⟩ rfl rfl rfl
      intro old' hold'
      rw [CoreStore.currentReceipt, hprev, Option.bind_some, hold] at hold'
      cases hold'; exact ⟨r, hr, hle⟩
    · cases h; exact refl_of Keeps _

theorem notifyDocument_keeps (hd : ⟨identity, d⟩ ∈ s.documents.rows)
    (h : notifyDocument identity d s = .ok u s') : Keeps s s' := by
  have hread : ∀ (lots : CoreStore → List String) (t : Option Int),
      Moves Keeps (do let s ← get; dirty (lots s) t false : CoreTxn PUnit) :=
    fun lots t => Moves.get.bind fun s => dirty_keeps (lots s) t false
  cases d with
  | receipt r =>
    unfold notifyDocument at h; rw [bind_ok] at h; obtain ⟨_, s₁, h₁, h₂⟩ := h
    exact trans_of Keeps (publishReceipt_keeps (CoreStore.receipt?_eq_some.2 hd) h₁)
      (hread _ _ _ _ _ h₂)
  | proof _ | cost _ | source _ => exact hread _ _ _ _ _ h
  | cashActivity _ | decision _ | acquisition _ | revision _ =>
    obtain ⟨_, rfl⟩ := pure_ok.1 h; exact refl_of Keeps _

theorem put_keeps (identity : String) (d : Document) : Moves Keeps (put identity d) :=
  fun s u s' h => by
    unfold put at h
    rw [bind_ok] at h
    obtain ⟨b, s₁, h₁, h₂⟩ := h
    refine trans_of Keeps (insertDocument_keeps identity d _ _ _ h₁) ?_
    rcases insertDocument_ok h₁ with ⟨rfl, _, _⟩ | ⟨rfl, hnone, rfl⟩
    · obtain ⟨_, rfl⟩ := pure_ok.1 h₂
      exact refl_of Keeps _
    · exact notifyDocument_keeps ((Table.mem_insert hnone).2 (.inr rfl)) h₂

/-! ## What a notification touches -/

/-- The stores differ in the queue and the receipt pointer only. -/
def Notified (s s' : CoreStore) : Prop := ∃ work marks journal current,
  s' = { s with
    work := work, notifications := marks, journal := journal, guardianCurrent := current }

theorem Notified.rfl' (s : CoreStore) : Notified s s :=
  ⟨s.work, s.notifications, s.journal, s.guardianCurrent, rfl⟩

instance : IsPreorder CoreStore Notified where
  refl := Notified.rfl'
  trans := by
    rintro a b c ⟨w, m, j, g, rfl⟩ ⟨w', m', j', g', rfl⟩
    exact ⟨w', m', j', g', rfl⟩

theorem dirty_notified (lots : List String) (availableAt : Option Int) (initialClaim : Bool) :
    Moves Notified (dirty lots availableAt initialClaim) :=
  dirty_moves (fun _ _ => ⟨_, _, _, _, rfl⟩) lots

theorem publishReceipt_notified (identity : String) (r : GuardianReceipt) :
    Moves Notified (publishReceipt identity r) := fun s u s' h => by
  unfold publishReceipt at h
  repeat' split at h
  all_goals first
    | (cases h; exact ⟨_, _, _, _, rfl⟩)
    | cases h

theorem notifyDocument_notified (identity : String) (d : Document) :
    Moves Notified (notifyDocument identity d) := by
  cases d with
  | receipt r =>
    exact (publishReceipt_notified identity r).bind fun _ => Moves.get.bind fun _ =>
      dirty_notified _ _ _
  | proof _ | cost _ | source _ => exact Moves.get.bind fun _ => dirty_notified _ _ _
  | cashActivity _ | decision _ | acquisition _ | revision _ => exact Moves.pure _

theorem revokedProof_notified (proofId : String) (availableAt : Option Int) :
    Moves Notified (revokedProof proofId availableAt) :=
  Moves.get.bind fun _ => (dirty_notified _ _ _).bind fun _ => Moves.get.bind fun _ =>
    dirty_notified _ _ _

theorem put_stores (h : put identity d s = .ok u s') :
    (⟨identity, d⟩ ∈ s.documents.rows ∧ s' = s) ∨
    (s.documents.get? (d.kind, identity) = none ∧
      Notified { s with documents := s.documents.insert ⟨identity, d⟩ } s') := by
  unfold put at h; rw [bind_ok] at h; obtain ⟨b, s₁, h₁, h₂⟩ := h
  rcases insertDocument_ok h₁ with ⟨rfl, hmem, rfl⟩ | ⟨rfl, hnone, rfl⟩
  · obtain ⟨_, rfl⟩ := pure_ok.1 h₂; exact .inl ⟨hmem, rfl⟩
  · exact .inr ⟨hnone, notifyDocument_notified identity d _ _ _ h₂⟩

theorem revokedProof_keeps (proofId : String) (availableAt : Option Int) :
    Moves Keeps (revokedProof proofId availableAt) :=
  Moves.get.bind fun _ => (dirty_keeps _ _ _).bind fun _ => Moves.get.bind fun _ =>
    dirty_keeps _ _ _

/-! ## Coverage -/

theorem newest_second {l : List Int} (h : t ∈ l) : ∃ c ∈ (l.max?.map nextSecond).toList, t ≤ c := by
  obtain ⟨a, ha, hle⟩ := within_max h; have := le_nextSecond a
  exact ⟨nextSecond a, by simp [ha], by omega⟩

theorem evidence_within_cold (ht : t ∈ s.evidenceTimes lot) : Within t (coldTimes s lot).max? := by
  have hmem : ∃ c ∈ coldTimes s lot, t ≤ c := by
    unfold coldTimes
    simp only [CoreStore.evidenceTimes, List.mem_append] at ht ⊢
    rcases ht with (((ht | ht) | ht) | ht) | ht
    · obtain ⟨c, hc, hle⟩ := newest_second ht
      exact ⟨c, .inl (.inl (.inl (.inl (.inl hc)))), hle⟩
    · obtain ⟨c, hc, hle⟩ := newest_second ht
      exact ⟨c, .inl (.inl (.inl (.inl (.inr hc)))), hle⟩
    · obtain ⟨c, hc, hle⟩ := newest_second ht
      exact ⟨c, .inl (.inl (.inl (.inr hc))), hle⟩
    · obtain ⟨r, hr, rfl⟩ := Option.map_eq_some_iff.1 (Option.mem_toList.1 ht)
      exact ⟨_, .inl (.inl (.inr (Option.mem_toList.2 (Option.map_eq_some_iff.2 ⟨r, hr, rfl⟩)))),
        le_nextSecond _⟩
    · exact ⟨t, .inl (.inr ht), le_refl t⟩
  obtain ⟨c, hc, hle⟩ := hmem; obtain ⟨a, ha, hca⟩ := within_max hc
  exact ⟨a, ha, by omega⟩

theorem mark_within_cold {m : Watermark} {a : Int} (hm : s.notifications.get? lot = some m)
    (ha : m.availableAt = some a) : Within a (coldTimes s lot).max? := by
  refine within_max ?_; exact List.mem_append_right _ (by simp [hm, ha])

theorem settle_keeps (version : Nat) {latest : Int}
    (hlatest : (coldTimes s lot).max? = some latest) :
    Keeps s { s with notifications := s.notifications.upsert ⟨lot, .known version, some latest⟩ } := by
  refine ⟨⟨rfl, .rfl' _, fun _ h => h, fun _ h => h, fun r h => ⟨r, h, le_refl _⟩⟩,
    fun acks h other => ?_⟩
  have hmark := Table.get?_upsert s.notifications ⟨lot, .known version, some latest⟩ other
  have hwithin : ∀ t, Within t (coldTimes s lot).max? → t ≤ latest := by
    intro t ht; obtain ⟨a, ha, hle⟩ := ht; rw [hlatest] at ha
    cases ha; exact hle
  by_cases hlot : lot = other
  · subst hlot; rw [if_pos rfl] at hmark; rw [hmark]
    exact (h lot).settle rfl (fun t ht => hwithin t (evidence_within_cold ht))
      fun m a hm ha => hwithin a (mark_within_cold hm ha)
  · rw [if_neg hlot] at hmark; rw [hmark]; exact h other

/-- **Coverage.** The queue is kept; when the answer is yes, every notification of the
lot so far is within the cutoff. -/
theorem coveredVersion_ok {version : Nat} {cutoff : Int} {b : Bool} {w : WorkRow}
    (hw : s.work.get? lot = some w) (hv : w.version = version)
    (h : coveredVersion lot version cutoff s = .ok b s') :
    Keeps s s' ∧ s'.work = s.work ∧ ∀ acks, QueueSound acks s → b = true →
      ∀ n ∈ s'.notesOf lot, ∀ t ∈ n.times, t ≤ cutoff := by
  unfold coveredVersion at h; simp only at h; split at h
  · next href =>
    cases h; obtain ⟨m, hm, href⟩ := Option.map_eq_some_iff.1 href
    refine ⟨refl_of Keeps _, rfl, fun acks hq hb => ?_⟩; rw [hm] at hb
    cases ha : m.availableAt with
    | none => simp [ha] at hb
    | some a =>
      have hle : a ≤ cutoff := by simpa [ha] using hb
      exact (hq lot).covered hw hm (hv ▸ href) ha hle
  · split at h
    · cases h; exact ⟨refl_of Keeps _, rfl, fun _ _ hb => by cases hb⟩
    next latest hlatest =>
    cases h; have hk := settle_keeps version hlatest
    refine ⟨hk, rfl, fun acks hq hb => ?_⟩
    have hmark := Table.get?_upsert s.notifications ⟨lot, .known version, some latest⟩ lot
    rw [if_pos rfl] at hmark
    exact (hk.2 acks hq lot).covered hw hmark (by rw [hv]) rfl (of_decide_eq_true hb)

end Quantbot.L4
