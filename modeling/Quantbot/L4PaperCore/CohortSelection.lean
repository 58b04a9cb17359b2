import Mathlib.Data.Prod.Lex
import Quantbot.Core.ChunkedReads
import Quantbot.L4PaperCore.BatchPrefix

/-!
# The candidate a cohort selects

`evaluate_cohort` (`paper_core/selection.py:237-326`) over the evaluation of `Batch`, with
`validate_cohort`, the kind of the selection and the counts as they are given.

The bounds of the account's risk day are a parameter. `health` is what the caller looks the
health reasons up in.

Results:
* `minBy_least`: the choice is the least under its key.
* `choose_chosen`: the choice is the least candidate.
* `Reordered.select_ok`: members are looked up by their symbol, so their order does not matter.
* `evaluate_cohort_best`: what is selected, for every cohort.
-/
namespace Quantbot.L4.Entry

open Core L1

/-! ## Cohorts -/

/-- What `validate_cohort` reads of an observation, and the member it is evaluated as. -/
structure CohortObservation where
  member : Member
  featureContext : String
  crypto : Bool
  sourceEnd : Int
  sessionOpen : Int
  sessionClose : Int

def CohortObservation.symbol (o : CohortObservation) : String := o.member.symbol

/-- mirrors discovery.py:29-38 -/
structure DiscoverySample where
  symbol : String
  scanReceiptId : Option String
  sourceAt : Int
  receivedAt : Int
  dollarVolume : ℚ
  spreadBps : ℚ

/-- mirrors discovery.py:41-58 -/
structure DiscoveryEvidence where
  symbols : List String
  samples : List DiscoverySample
  scanReceiptIds : List String
  eligibleCount : Int
  recordedAt : Int
  catalogAt : Int

/-- mirrors contracts.py:495-505 -/
structure ObservationCohort where
  sourceEnd : Int
  sessionOpen : Int
  sessionClose : Int
  observations : List CohortObservation
  unavailable : List (String × String) := []
  discovery : Option DiscoveryEvidence := none
  cryptoSymbols : List String := []

namespace ObservationCohort

def memberSymbols (c : ObservationCohort) : List String :=
  c.observations.map (·.symbol) ++ c.unavailable.map (·.1)

def QuoteContext (c : ObservationCohort) : Prop :=
  c.observations.isEmpty = false ∧
    ∀ o ∈ c.observations, o.featureContext = "OPENING_QUOTE_GAP_V1"
deriving Decidable

end ObservationCohort

/-- The arguments of `evaluate_cohort`; `entrySymbols` are those of the configuration. -/
structure Selection where
  easternHour : Int → ℕ
  riskDay : Int → Int × Int
  config : EntryConfig
  entrySymbols : List String
  policy : Option EntryPolicy
  account : Account
  available : ℚ
  cohort : ObservationCohort
  sessionCounts : List (String × ℕ) := []
  priorCounts : List (String × ℕ) := []
  health : String → List String := fun _ => []

/-- `0 <= later - earlier <= seconds`. -/
def Within (seconds : Int) (earlier later : Int) : Prop :=
  0 ≤ later - earlier ∧ later - earlier ≤ seconds * 1000000
deriving Decidable

/-- The sets of two lists are equal. -/
def SameSet (xs ys : List String) : Prop := (∀ x ∈ xs, x ∈ ys) ∧ ∀ y ∈ ys, y ∈ xs
deriving Decidable

namespace Selection

/-! ## Validation -/

def Mixed (c : Selection) : Prop := c.policy.any (·.crypto.isSome) = true
deriving Decidable

/-- The symbols of the policy's crypto amendment. -/
def amendmentSymbols (c : Selection) : List String :=
  (c.policy.bind (·.crypto)).elim [] (·.symbols)

def Dynamic (c : Selection) : Prop := c.policy.any (·.dynamic) = true
deriving Decidable

/-- The members discovery accounts for. -/
def discovered (c : Selection) : List String :=
  if c.Mixed then c.cohort.memberSymbols.filter (· ∉ c.amendmentSymbols)
  else c.cohort.memberSymbols

/-- mirrors selection.py:158-166 -/
def cohortSymbols (c : Selection) : Option (List String) :=
  if c.Dynamic then
    if c.Mixed then some (c.cohort.discovery.elim [] (·.symbols) ++ c.amendmentSymbols)
    else c.cohort.discovery.map (·.symbols)
  else some (c.policy.elim c.entrySymbols (·.symbols))

/-- mirrors selection.py:76-91 -/
def MarketsValid (c : Selection) : Prop :=
  if c.Mixed then
    c.cohort.cryptoSymbols = c.amendmentSymbols ∧
      (c.cohort.sessionOpen, c.cohort.sessionClose) = c.riskDay c.cohort.sourceEnd ∧
      ∀ o ∈ c.cohort.observations, o.crypto = true ↔ o.symbol ∈ c.amendmentSymbols
  else c.cohort.cryptoSymbols = []
deriving Decidable

/-- A sample the discovery may rest on.
mirrors selection.py:116-127 -/
def SampleValid (c : Selection) (d : DiscoveryEvidence) (s : DiscoverySample) : Prop :=
  Within 90 s.sourceAt d.recordedAt ∧ Within 90 s.receivedAt d.recordedAt ∧
    (c.cohort.QuoteContext →
      Within 90 s.sourceAt c.cohort.sourceEnd ∧ Within 90 s.receivedAt c.cohort.sourceEnd) ∧
    0 < s.dollarVolume ∧ 0 ≤ s.spreadBps ∧ s.spreadBps ≤ 10

/-- mirrors selection.py:95-129 -/
def DiscoveryValid (c : Selection) (d : DiscoveryEvidence) : Prop :=
  d.symbols.Nodup ∧ SameSet d.symbols c.discovered ∧
    SameSet (d.samples.map (·.symbol)) c.discovered ∧
    d.samples.length = c.discovered.length ∧ d.scanReceiptIds ≠ [] ∧
    (∀ s ∈ d.samples, ∃ r ∈ s.scanReceiptId, r ∈ d.scanReceiptIds) ∧
    (c.discovered.length : Int) ≤ d.eligibleCount ∧ Within 3600 d.catalogAt d.recordedAt ∧
    (c.cohort.QuoteContext → Within 3600 d.catalogAt c.cohort.sourceEnd) ∧
    (if c.cohort.QuoteContext then Within 120 d.recordedAt c.cohort.sourceEnd
      else Within 120 c.cohort.sourceEnd d.recordedAt) ∧
    (∀ s ∈ c.cohort.memberSymbols, c.policy.any (·.permits s) = true) ∧
    ∀ s ∈ d.samples, c.SampleValid d s

/-- mirrors selection.py:131-155 -/
def BoundaryValid (c : Selection) : Prop :=
  c.cohort.memberSymbols.Nodup ∧
    (c.Mixed ∨ ∀ o ∈ c.cohort.observations, ∀ o' ∈ c.cohort.observations,
      o.featureContext = o'.featureContext) ∧
    (∃ symbols ∈ c.cohortSymbols, SameSet c.cohort.memberSymbols symbols) ∧
    (∀ u ∈ c.cohort.unavailable, u.2 ≠ "") ∧
    (c.cohort.sessionOpen ≤ c.cohort.sourceEnd ∧ c.cohort.sourceEnd < c.cohort.sessionClose) ∧
    (c.cohort.QuoteContext ∨ c.cohort.sourceEnd % 300000000 = 0) ∧
    ∀ o ∈ c.cohort.observations, o.sourceEnd = c.cohort.sourceEnd ∧
      (c.Mixed ∨ o.sessionOpen = c.cohort.sessionOpen ∧ o.sessionClose = c.cohort.sessionClose)
deriving Decidable

/-- mirrors selection.py:61-155 -/
def Valid (c : Selection) : Prop :=
  c.MarketsValid ∧
    (c.Dynamic → (¬ c.Mixed ∨ c.discovered ≠ []) → ∃ d ∈ c.cohort.discovery, c.DiscoveryValid d) ∧
    c.BoundaryValid

instance (c : Selection) (d : DiscoveryEvidence) : Decidable (c.DiscoveryValid d) := by
  unfold DiscoveryValid SampleValid
  infer_instance

instance (c : Selection) : Decidable c.Valid := inferInstanceAs (Decidable (_ ∧ _))

/-! ## Selection -/

/-- `dict(counts).get(symbol, 0)`: the last entry of a symbol counts. -/
def countOf (counts : List (String × ℕ)) (symbol : String) : ℕ :=
  (counts.reverse.find? fun p => p.1 = symbol).elim 0 (·.2)

/-- `sum(dict(counts).values())`. -/
def countTotal (counts : List (String × ℕ)) : ℕ :=
  ((fromKeys (counts.map (·.1))).map (countOf counts)).sum

/-- The dollar volume a discovered member's notional is compared with.
mirrors selection.py:265-272 -/
def sampleVolume (c : Selection) (symbol : String) : Option ℚ :=
  if c.Dynamic then
    c.cohort.discovery.bind fun d =>
      if symbol ∈ d.symbols then (d.samples.find? (·.symbol = symbol)).map (·.dollarVolume)
      else none
  else none

/-- `cohort_symbols` of a valid cohort. -/
def memberUniverse (c : Selection) : List String := c.cohortSymbols.getD []

/-- What a valid cohort is evaluated with. -/
def inputs (c : Selection) (h : c.Valid) : BatchInputs where
  easternHour := c.easternHour
  config := c.config
  policy := c.policy
  account := c.account
  members := c.cohort.observations.map fun o =>
    { o.member with dollarVolume := c.sampleVolume o.symbol }
  symbols := c.memberUniverse
  unavailable := c.cohort.unavailable
  sessionCount := countOf c.sessionCounts
  sessionTotal := countTotal c.sessionCounts
  priorCount := countOf c.priorCounts
  members_nodup := by
    rw [List.map_map]
    exact h.2.2.1
  members_complete := by
    obtain ⟨symbols, hsymbols, hset⟩ := h.2.2.2.2.1
    intro s
    unfold memberUniverse
    rw [List.map_map, Option.mem_def.1 hsymbols]
    exact ⟨hset.1 s, hset.2 s⟩

end Selection

inductive SelectionKind | signal | exploration | unavailable
deriving DecidableEq, Repr

/-- What `evaluate_cohort` raises: a cohort that is not valid, or a member's fault. -/
inductive SelectionFault
  | cohort
  | entry (fault : EntryFault)
deriving DecidableEq, Repr

namespace BatchInputs

/-- mirrors selection.py:276-306 -/
def chosenKind (b : BatchInputs) (health : String → List String) (decisions : List EntryDecision) :
    SelectionKind :=
  let eligible := b.eligible health decisions
  if (eligible.filter fun d => d.predictionBps.any (10 < ·)) ≠ [] then .signal
  else if eligible ≠ [] then .exploration
  else .unavailable

/-- The decision selected, and why.
mirrors selection.py:252-326 -/
def select (b : BatchInputs) (health : String → List String) (available : ℚ) :
    Except EntryFault (EntryDecision × SelectionKind) :=
  if b.config.selectionPolicy ≠ .signalOrExplore then .error .selectionPolicy
  else do
    let decisions ← b.members.mapM (b.evaluateEntry available)
    match b.choose health decisions with
    | none => .error .noObservation
    | some d => do
      let decision ← b.conclude health decisions d
      return (decision, b.chosenKind health decisions)

end BatchInputs

/-- mirrors selection.py:237-326 -/
def Selection.evaluateCohort (c : Selection) :
    Except SelectionFault (EntryDecision × SelectionKind) :=
  if h : c.Valid then ((c.inputs h).select c.health c.available).mapError .entry
  else .error .cohort

/-! ## The least candidate -/

/-- A key, as the ordered tuple it is compared as. -/
def asRank (x : ℕ × ℚ × ℕ × ℕ) : ℕ ×ₗ ℚ ×ₗ ℕ ×ₗ ℕ :=
  toLex (x.1, toLex (x.2.1, toLex (x.2.2.1, x.2.2.2)))

theorem earlier_iff {x y : ℕ × ℚ × ℕ × ℕ} :
    BatchInputs.minBy.Earlier x y = true ↔ asRank x < asRank y := by
  unfold BatchInputs.minBy.Earlier asRank
  simp only [decide_eq_true_eq, Prod.Lex.toLex_lt_toLex]

/-- **The choice is the least under its key.** -/
theorem minBy_least {key : EntryDecision → ℕ × ℚ × ℕ × ℕ} {l : List EntryDecision}
    {d : EntryDecision} (h : BatchInputs.minBy key l = some d) :
    ∀ x ∈ l, asRank (key d) ≤ asRank (key x) := by
  cases l with
  | nil => cases h
  | cons first rest =>
    cases h
    have hfold : ∀ (l : List EntryDecision) (best : EntryDecision), ∀ x ∈ best :: l,
        asRank (key (l.foldl (fun best d =>
          if BatchInputs.minBy.Earlier (key d) (key best) then d else best) best)) ≤
          asRank (key x) := by
      intro l
      induction l with
      | nil =>
        intro best x hx; rw [List.mem_singleton.1 hx]; exact le_refl _
      | cons y l ih =>
        intro best x hx; rw [List.foldl_cons]
        have hbest : ∀ next, asRank (key next) ≤ asRank (key best) →
            asRank (key next) ≤ asRank (key y) →
            ∀ x ∈ best :: y :: l, asRank (key (l.foldl (fun best d =>
              if BatchInputs.minBy.Earlier (key d) (key best) then d else best) next)) ≤
              asRank (key x) := by
          intro next hb hy x hx; have hnext := ih next next List.mem_cons_self
          rcases List.mem_cons.1 hx with rfl | hx
          · exact hnext.trans hb
          rcases List.mem_cons.1 hx with rfl | hx
          · exact hnext.trans hy
          · exact ih next x (List.mem_cons_of_mem _ hx)
        split
        · rename_i hless
          exact hbest y (earlier_iff.1 hless).le (le_refl _) x hx
        · rename_i hless; rw [earlier_iff, not_lt] at hless
          exact hbest best (le_refl _) hless x hx
    exact hfold rest first

namespace BatchInputs

variable {b b' : BatchInputs} {health : String → List String} {available : ℚ}
  {d : EntryDecision} {kind : SelectionKind} {decisions decisions' : List EntryDecision}

/-- A decision on a member without an exclusion. -/
def Candidate (b : BatchInputs) (health : String → List String) (available : ℚ)
    (d : EntryDecision) : Prop :=
  ∃ m ∈ b.members, b.evaluateEntry available m = .ok d ∧ b.reasons health d = []

/-- Any prediction strictly above ten basis points takes priority. -/
def Signal (d : EntryDecision) : Prop := ∃ p ∈ d.predictionBps, 10 < p

/-- Count of the session, prediction from the highest, count of prior sessions, universe order.
(docs/operations/paper-exploration.md:13-16) -/
def signalRank (b : BatchInputs) (d : EntryDecision) : ℕ ×ₗ ℚ ×ₗ ℕ ×ₗ ℕ :=
  toLex (b.sessionCount d.symbol, toLex (-d.predictionBps.getD 0,
    toLex (b.priorCount d.symbol, b.symbols.idxOf d.symbol)))

/-- Count of the session, count of prior sessions, universe order.
(docs/operations/paper-exploration.md:16-17) -/
def explorationRank (b : BatchInputs) (d : EntryDecision) : ℕ ×ₗ ℕ ×ₗ ℕ :=
  toLex (b.sessionCount d.symbol, toLex (b.priorCount d.symbol, b.symbols.idxOf d.symbol))

/-- What is to be chosen: the least signal, without one the least candidate, without any the
first member. -/
inductive Chosen (b : BatchInputs) (health : String → List String) (available : ℚ) :
    EntryDecision → SelectionKind → Prop
  | signal {d : EntryDecision} : b.Candidate health available d → Signal d →
      (∀ d', b.Candidate health available d' → Signal d' → d' ≠ d →
        b.signalRank d < b.signalRank d') → Chosen b health available d .signal
  | exploration {d : EntryDecision} : b.Candidate health available d →
      (∀ d', b.Candidate health available d' → ¬ Signal d') →
      (∀ d', b.Candidate health available d' → d' ≠ d →
        b.explorationRank d < b.explorationRank d') → Chosen b health available d .exploration
  | unavailable {d : EntryDecision} : (∀ d', ¬ b.Candidate health available d') →
      (∃ m ∈ b.members, b.evaluateEntry available m = .ok d) →
      Chosen b health available d .unavailable

theorem decisions_nodup (h : b.members.mapM (b.evaluateEntry available) = .ok decisions) :
    (decisions.map (·.symbol)).Nodup := by
  rw [Txn.mapM_ok_map (g := (·.symbol)) (fun m d hd => (evaluateEntry_ok hd).2.1) h]
  exact (List.nodup_append.1 b.members_nodup).1

theorem mem_eligible (h : b.members.mapM (b.evaluateEntry available) = .ok decisions) :
    d ∈ b.eligible health decisions ↔ b.Candidate health available d := by
  have hnodup := decisions_nodup h; unfold eligible decisionFor Candidate
  rw [List.mem_filterMap]; constructor
  · rintro ⟨s, hs, hd⟩
    obtain ⟨hfind, hreasons⟩ := Option.filter_eq_some_iff.1 hd
    obtain ⟨m, hm, heval⟩ := Txn.mapM_ok_mem h d (List.mem_of_find?_eq_some hfind)
    exact ⟨m, hm, heval, of_decide_eq_true hreasons⟩
  · rintro ⟨m, hm, heval, hreasons⟩
    obtain ⟨v, hv, hmv⟩ := Txn.mapM_ok_of_mem h hm
    obtain rfl := Except.ok.inj (heval.symm.trans hmv)
    refine ⟨d.symbol, (b.members_complete _).1 ?_, ?_⟩
    · rw [(evaluateEntry_ok heval).2.1]
      exact List.mem_append_left _ (List.mem_map_of_mem hm)
    · exact Option.filter_eq_some_iff.2
        ⟨(find?_key_iff hnodup).2 ⟨hv, rfl⟩, decide_eq_true hreasons⟩

theorem Candidate.eq_of_symbol {d' : EntryDecision} (hd : b.Candidate health available d)
    (hd' : b.Candidate health available d') (h : d.symbol = d'.symbol) : d = d' := by
  obtain ⟨m, hm, heval, _⟩ := hd; obtain ⟨m', hm', heval', _⟩ := hd'
  have hsymbol : m.symbol = m'.symbol := by
    rw [← (evaluateEntry_ok heval).2.1, ← (evaluateEntry_ok heval').2.1, h]
  have hnodup := (List.nodup_append.1 b.members_nodup).1
  obtain rfl := List.inj_on_of_nodup_map hnodup hm hm' hsymbol
  exact Except.ok.inj (heval.symm.trans heval')

theorem Candidate.idxOf_ne {d' : EntryDecision} (hd : b.Candidate health available d)
    (hd' : b.Candidate health available d') (h : d' ≠ d) :
    b.symbols.idxOf d.symbol ≠ b.symbols.idxOf d'.symbol := by
  intro hplace
  have hmem : ∀ d'', b.Candidate health available d'' → d''.symbol ∈ b.symbols := by
    rintro d'' ⟨m, hm, heval, _⟩; rw [(evaluateEntry_ok heval).2.1]
    exact (b.members_complete _).1 (List.mem_append_left _ (List.mem_map_of_mem hm))
  exact h (hd.eq_of_symbol hd' ((List.idxOf_inj (hmem d hd)).1 hplace)).symm

theorem signal_iff : (d.predictionBps.any (10 < ·)) = true ↔ Signal d := by
  unfold Signal; rw [Option.any_eq_true]
  simp only [decide_eq_true_eq, Option.mem_def]

/-- **The choice is the least candidate.** -/
theorem choose_chosen (hdecisions : b.members.mapM (b.evaluateEntry available) = .ok decisions)
    (h : b.choose health decisions = some d) :
    b.Chosen health available d (b.chosenKind health decisions) := by
  have hmem {x : EntryDecision} :
      x ∈ b.eligible health decisions ↔ b.Candidate health available x := mem_eligible hdecisions
  unfold choose at h; unfold chosenKind; dsimp only at h ⊢; split at h
  · rename_i hstrong; rw [if_pos hstrong]
    obtain ⟨hd, hsignal⟩ := List.mem_filter.1 (minBy_mem h)
    have hcand := hmem.1 hd
    refine .signal hcand (signal_iff.1 hsignal) fun d' hd' hs' hne => ?_
    have hle := minBy_least h d' (List.mem_filter.2 ⟨hmem.2 hd', signal_iff.2 hs'⟩)
    refine lt_of_le_of_ne hle fun heq => hcand.idxOf_ne hd' hne ?_
    exact congrArg (fun r => (ofLex (ofLex (ofLex r).2).2).2) heq
  · rename_i hstrong; rw [if_neg hstrong]
    rw [not_not, List.filter_eq_nil_iff] at hstrong; split at h
    · rename_i heligible; rw [if_pos heligible]
      have hcand := hmem.1 (minBy_mem h)
      refine .exploration hcand (fun d' hd' hs' => hstrong d' (hmem.2 hd') (signal_iff.2 hs'))
        fun d' hd' hne => ?_
      have hle := minBy_least h d' (hmem.2 hd')
      have hplace := hcand.idxOf_ne hd' hne; unfold asRank at hle
      unfold explorationRank
      rw [Prod.Lex.toLex_le_toLex, Prod.Lex.toLex_le_toLex, Prod.Lex.toLex_le_toLex] at hle
      rw [Prod.Lex.toLex_lt_toLex, Prod.Lex.toLex_lt_toLex]
      simp only [lt_self_iff_false, true_and, false_or] at hle
      rcases hle with hcount | ⟨hcount, hprior | ⟨hprior, hindex⟩⟩
      · exact .inl hcount
      · exact .inr ⟨hcount, .inl hprior⟩
      · exact .inr ⟨hcount, .inr ⟨hprior, lt_of_le_of_ne hindex hplace⟩⟩
    · rename_i heligible; rw [if_neg heligible]; rw [not_not] at heligible
      obtain ⟨s, _, hd⟩ := List.mem_filterMap.1 (List.mem_of_head? h)
      refine .unavailable (fun d' hd' => ?_)
        (Txn.mapM_ok_mem hdecisions d (List.mem_of_find?_eq_some hd))
      have := hmem.2 hd'; rw [heligible] at this; cases this

theorem select_ok (h : b.select health available = .ok (d, kind)) :
    ∃ decisions own, b.members.mapM (b.evaluateEntry available) = .ok decisions ∧
      b.choose health decisions = some own ∧ b.conclude health decisions own = .ok d ∧
      kind = b.chosenKind health decisions := by
  unfold select at h; split at h
  · cases h
  obtain ⟨decisions, hdecisions, h⟩ := Txn.except_bind_ok.1 h
  cases hchoose : b.choose health decisions with
  | none =>
    rw [hchoose] at h; cases h
  | some own =>
    rw [hchoose] at h; obtain ⟨decision, hdecision, h⟩ := Txn.except_bind_ok.1 h
    obtain ⟨rfl, rfl⟩ := Prod.mk.inj (Except.ok.inj h)
    exact ⟨decisions, own, hdecisions, hchoose, hdecision, rfl⟩

theorem limits_dailyEntryLimit {easternHour : Int → ℕ} {config : EntryConfig}
    {policy : Option EntryPolicy} {at' : Option Int} {bound : EconomicLimits}
    (h : limits easternHour config policy at' = .ok bound) :
    bound.dailyEntryLimit = if parallelPolicy config policy then none else some 6 := by
  unfold limits at h; dsimp only at h; split at h
  · cases h; split <;> rfl
  · cases h
  · split at h <;> cases h
    · show EconomicLimits.dailyEntryLimit (ite _ _ _) = _; split <;> rfl
    · split <;> rfl

/-- The session's six reservations are made, and the contract counts them. -/
def SessionFull (b : BatchInputs) : Prop :=
  parallelPolicy b.config b.policy = false ∧ 6 ≤ b.sessionTotal

variable {own : EntryDecision}

theorem Chosen.candidate_iff (h : b.Chosen health available own kind) :
    b.Candidate health available own ↔ ∃ d', b.Candidate health available d' := by
  refine ⟨fun hown => ⟨own, hown⟩, fun ⟨d', hd'⟩ => ?_⟩
  cases h with
  | signal hcand | exploration hcand => exact hcand
  | unavailable hnone => exact absurd hd' (hnone d')

/-- The decision is the choice, with its gates: BUY where it is a candidate and the session is
not full. -/
theorem conclude_action (hdecisions : b.members.mapM (b.evaluateEntry available) = .ok decisions)
    (hchoose : b.choose health decisions = some own) (h : b.conclude health decisions own = .ok d) :
    d = { own with gates := d.gates, action := d.action, exclusions := d.exclusions } ∧
      (d.action = .buy ↔ b.Candidate health available own ∧ ¬ b.SessionFull) := by
  obtain ⟨bound, hbound, h⟩ := Txn.except_bind_ok.1 h
  cases h
  refine ⟨rfl, ?_⟩
  have hown := (choose_some hchoose).2
  have hexclusion : b.exclusion health decisions own.symbol = b.reasons health own := by
    unfold exclusion
    rw [hown]
  have hcand : b.Candidate health available own ↔ b.reasons health own = [] := by
    constructor
    · rintro ⟨_, _, _, hreasons⟩
      exact hreasons
    · intro hreasons
      obtain ⟨m, hm, heval⟩ := Txn.mapM_ok_mem hdecisions own (List.mem_of_find?_eq_some hown)
      exact ⟨m, hm, heval, hreasons⟩
  have hfull : bound.dailyEntryLimit.any (· ≤ b.sessionTotal) = true ↔ b.SessionFull := by
    rw [limits_dailyEntryLimit hbound]
    unfold SessionFull
    split <;> simp_all
  split <;> simp_all

/-! ## Members in another order -/

/-- The same inputs with the members and the unavailable symbols in another order. -/
structure Reordered (b b' : BatchInputs) : Prop where
  easternHour : b'.easternHour = b.easternHour
  config : b'.config = b.config
  policy : b'.policy = b.policy
  account : b'.account = b.account
  members : b.members.Perm b'.members
  symbols : b'.symbols = b.symbols
  unavailable : b.unavailable.Perm b'.unavailable
  sessionCount : b'.sessionCount = b.sessionCount
  sessionTotal : b'.sessionTotal = b.sessionTotal
  priorCount : b'.priorCount = b.priorCount

theorem Reordered.evaluateEntry_eq (h : Reordered b b') (m : Member) :
    b'.evaluateEntry available m = b.evaluateEntry available m := by
  obtain ⟨hhour, hconfig, hpolicy, haccount, _, _, _, _, _, _⟩ := h
  unfold evaluateEntry terms cryptoGates moneyGates capabilityFor
  rw [hhour, hconfig, hpolicy, haccount]

theorem Reordered.reasons_eq (h : Reordered b b') (d : EntryDecision) :
    b'.reasons health d = b.reasons health d := by
  unfold reasons illiquid
  rw [find?_key_perm h.members (List.nodup_append.1 b.members_nodup).1]

theorem decisionFor_perm (h : decisions.Perm decisions')
    (hnodup : (decisions.map (·.symbol)).Nodup) (s : String) :
    decisionFor decisions' s = decisionFor decisions s := find?_key_perm h hnodup s

section

variable (h : Reordered b b')
include h

section

variable (hperm : decisions.Perm decisions')
include hperm

section

variable (hnodup : (decisions.map (·.symbol)).Nodup)
include hnodup

theorem Reordered.exclusion_eq (s : String) :
    b'.exclusion health decisions' s = b.exclusion health decisions s := by
  have hout : (b.unavailable.map (·.1)).Nodup := (List.nodup_append.1 b.members_nodup).2.1
  have hout' : (b'.unavailable.map (·.1)).Nodup := (h.unavailable.map _).nodup_iff.1 hout
  unfold exclusion
  rw [decisionFor_perm hperm hnodup, filter_key hout, filter_key hout',
    find?_key_perm h.unavailable hout]
  cases decisionFor decisions s with
  | none => rfl
  | some d => exact h.reasons_eq d

theorem Reordered.eligible_eq : b'.eligible health decisions' = b.eligible health decisions := by
  unfold eligible; rw [h.symbols]
  refine congrArg (List.filterMap · b.symbols) (funext fun s => ?_)
  rw [decisionFor_perm hperm hnodup]; simp only [h.reasons_eq]

/-- **The choice does not depend on the order of the members.** -/
theorem Reordered.choose_eq : b'.choose health decisions' = b.choose health decisions := by
  unfold choose
  rw [h.eligible_eq hperm hnodup, h.symbols, h.sessionCount, h.priorCount,
    show decisionFor decisions' = decisionFor decisions from
      funext (decisionFor_perm hperm hnodup)]

theorem Reordered.conclude_eq (own : EntryDecision) :
    b'.conclude health decisions' own = b.conclude health decisions own := by
  unfold conclude
  rw [h.easternHour, h.config, h.policy, h.symbols, h.sessionTotal]
  simp only [h.exclusion_eq hperm hnodup]

end

end

theorem Reordered.select_ok (hb : b.select health available = .ok (d, kind)) :
    b'.select health available = .ok (d, kind) := by
  obtain ⟨decisions, own, hdecisions, hchoose, hconclude, rfl⟩ := BatchInputs.select_ok hb
  have hpolicy : ¬ b'.config.selectionPolicy ≠ .signalOrExplore := by
    rw [h.config]; intro hne; unfold select at hb
    rw [if_pos hne] at hb; cases hb
  obtain ⟨decisions', hdecisions', hperm⟩ := Txn.mapM_perm h.members hdecisions
  have hnodup := decisions_nodup hdecisions; unfold select
  rw [if_neg hpolicy, show b'.evaluateEntry available = b.evaluateEntry available from
    funext h.evaluateEntry_eq, hdecisions']
  show (match b'.choose health decisions' with | none => _ | some d => _) = _
  rw [h.choose_eq hperm hnodup, hchoose]
  show (b'.conclude health decisions' own >>= _) = _
  rw [h.conclude_eq hperm hnodup, hconclude]; unfold chosenKind
  rw [h.eligible_eq hperm hnodup]; rfl

end

end BatchInputs

/-! ## Cohorts in another order -/

theorem SameSet.perm {xs xs' ys ys' : List String} (h : SameSet xs ys) (hxs : xs.Perm xs')
    (hys : ys.Perm ys') : SameSet xs' ys' :=
  ⟨fun x hx => hys.mem_iff.1 (h.1 x (hxs.mem_iff.2 hx)),
    fun y hy => hxs.mem_iff.1 (h.2 y (hys.mem_iff.2 hy))⟩

namespace Selection

/-- The same arguments, supplied in another order. -/
def reorder (c : Selection) (observations : List CohortObservation)
    (unavailable : List (String × String)) (sessionCounts priorCounts : List (String × ℕ)) :
    Selection :=
  { c with
    cohort := { c.cohort with observations := observations, unavailable := unavailable }
    sessionCounts := sessionCounts
    priorCounts := priorCounts }

variable {c : Selection} {observations : List CohortObservation}
  {unavailable : List (String × String)} {sessionCounts priorCounts : List (String × ℕ)}
  {d : EntryDecision} {kind : SelectionKind}

@[simp] theorem mixed_reorder :
    (c.reorder observations unavailable sessionCounts priorCounts).Mixed ↔ c.Mixed := Iff.rfl

section Validity

variable (hobs : c.cohort.observations.Perm observations)
  (hout : c.cohort.unavailable.Perm unavailable)

include hobs

theorem quoteContext_reorder :
    (c.reorder observations unavailable sessionCounts priorCounts).cohort.QuoteContext ↔
      c.cohort.QuoteContext := by
  unfold ObservationCohort.QuoteContext; rw [hobs.isEmpty_eq]
  exact and_congr_right fun _ =>
    ⟨fun h o ho => h o (hobs.mem_iff.1 ho), fun h o ho => h o (hobs.mem_iff.2 ho)⟩

theorem MarketsValid.reorder (h : c.MarketsValid) :
    (c.reorder observations unavailable sessionCounts priorCounts).MarketsValid := by
  unfold MarketsValid at h ⊢; by_cases hmixed : c.Mixed
  · rw [if_pos hmixed] at h; rw [if_pos (mixed_reorder.2 hmixed)]
    exact ⟨h.1, h.2.1, fun o ho => h.2.2 o (hobs.mem_iff.2 ho)⟩
  · rw [if_neg hmixed] at h; rw [if_neg (mt mixed_reorder.1 hmixed)]; exact h

variable {e : DiscoveryEvidence}

theorem SampleValid.reorder {s : DiscoverySample} (h : c.SampleValid e s) :
    (c.reorder observations unavailable sessionCounts priorCounts).SampleValid e s :=
  ⟨h.1, h.2.1, fun hquote => h.2.2.1 ((quoteContext_reorder hobs).1 hquote), h.2.2.2⟩

include hout

theorem memberSymbols_reorder : c.cohort.memberSymbols.Perm
      (c.reorder observations unavailable sessionCounts priorCounts).cohort.memberSymbols :=
  (hobs.map _).append (hout.map _)

theorem discovered_reorder : c.discovered.Perm
      (c.reorder observations unavailable sessionCounts priorCounts).discovered := by
  have hmembers : c.cohort.memberSymbols.Perm
      (c.reorder observations unavailable sessionCounts priorCounts).cohort.memberSymbols :=
    memberSymbols_reorder hobs hout
  unfold discovered; by_cases hmixed : c.Mixed
  · rw [if_pos hmixed, if_pos (mixed_reorder.2 hmixed)]; exact hmembers.filter _
  · rw [if_neg hmixed, if_neg (mt mixed_reorder.1 hmixed)]; exact hmembers

theorem DiscoveryValid.reorder (h : c.DiscoveryValid e) :
    (c.reorder observations unavailable sessionCounts priorCounts).DiscoveryValid e := by
  obtain ⟨hnodup, hsymbols, hsamples, hlength, hscans, hreceipts, hcount, hcatalog, hquoted,
    hrecorded, hpermits, hvalid⟩ := h
  have hquote :
      (c.reorder observations unavailable sessionCounts priorCounts).cohort.QuoteContext ↔
        c.cohort.QuoteContext := quoteContext_reorder hobs
  have hdiscovered : c.discovered.Perm
      (c.reorder observations unavailable sessionCounts priorCounts).discovered :=
    discovered_reorder hobs hout
  have hmembers : c.cohort.memberSymbols.Perm
      (c.reorder observations unavailable sessionCounts priorCounts).cohort.memberSymbols :=
    memberSymbols_reorder hobs hout
  refine ⟨hnodup, hsymbols.perm (.refl _) hdiscovered, hsamples.perm (.refl _) hdiscovered,
    hlength.trans hdiscovered.length_eq, hscans, hreceipts, ?_, hcatalog,
    fun h => hquoted (hquote.1 h), ?_, fun s hs => hpermits s (hmembers.mem_iff.2 hs),
    fun s hs => (hvalid s hs).reorder hobs⟩
  · rw [← hdiscovered.length_eq]; exact hcount
  · by_cases hq : c.cohort.QuoteContext
    · rw [if_pos hq] at hrecorded; rw [if_pos (hquote.2 hq)]; exact hrecorded
    · rw [if_neg hq] at hrecorded; rw [if_neg (mt hquote.1 hq)]; exact hrecorded

theorem BoundaryValid.reorder (h : c.BoundaryValid) :
    (c.reorder observations unavailable sessionCounts priorCounts).BoundaryValid := by
  obtain ⟨hnodup, hcontext, ⟨symbols, hsymbols, hset⟩, hreasons, hsession, haligned, hends⟩ := h
  have hmembers : c.cohort.memberSymbols.Perm
      (c.reorder observations unavailable sessionCounts priorCounts).cohort.memberSymbols :=
    memberSymbols_reorder hobs hout
  refine ⟨hmembers.nodup_iff.1 hnodup, ?_, ⟨symbols, hsymbols, hset.perm hmembers (.refl _)⟩,
    fun u hu => hreasons u (hout.mem_iff.2 hu), hsession, ?_,
    fun o ho => hends o (hobs.mem_iff.2 ho)⟩
  · exact hcontext.imp id fun h o ho o' ho' =>
      h o (hobs.mem_iff.2 ho) o' (hobs.mem_iff.2 ho')
  · exact haligned.imp (quoteContext_reorder hobs).2 id

theorem Valid.reorder (h : c.Valid) :
    (c.reorder observations unavailable sessionCounts priorCounts).Valid := by
  obtain ⟨hmarkets, hdiscovery, hboundary⟩ := h
  refine ⟨hmarkets.reorder hobs, fun hdynamic hmixed => ?_, hboundary.reorder hobs hout⟩
  have hdiscovered : c.discovered.Perm
      (c.reorder observations unavailable sessionCounts priorCounts).discovered :=
    discovered_reorder hobs hout
  have hneeded : ¬ c.Mixed ∨ c.discovered ≠ [] := hmixed.imp id fun hne hnil => by
    rw [hnil] at hdiscovered; exact hne hdiscovered.nil_eq.symm
  obtain ⟨e, he, hvalid⟩ := hdiscovery hdynamic hneeded
  exact ⟨e, he, hvalid.reorder hobs hout⟩

end Validity

/-! ### Counts -/

variable {counts counts' : List (String × ℕ)}

theorem countOf_perm (h : counts.Perm counts')
    (hnodup : (counts.map (·.1)).Nodup) : countOf counts' = countOf counts := by
  have hreverse : counts.reverse.Perm counts'.reverse :=
    (List.reverse_perm counts).trans (h.trans (List.reverse_perm counts').symm)
  have hnodup' : (counts.reverse.map (·.1)).Nodup := by
    rw [List.map_reverse]; exact List.nodup_reverse.2 hnodup
  funext s; unfold countOf; rw [find?_key_perm hreverse hnodup' s]

theorem countTotal_perm (h : counts.Perm counts')
    (hnodup : (counts.map (·.1)).Nodup) : countTotal counts' = countTotal counts := by
  have hkeys : (fromKeys (counts'.map (·.1))).Perm (fromKeys (counts.map (·.1))) := by
    refine (List.perm_ext_iff_of_nodup (fromKeys_nodup _) (fromKeys_nodup _)).2 fun s => ?_
    rw [mem_fromKeys, mem_fromKeys]; exact (h.map _).mem_iff.symm
  unfold countTotal; rw [countOf_perm h hnodup]; exact (hkeys.map _).sum_eq

theorem inputs_reorder (h : c.Valid) (hobs : c.cohort.observations.Perm observations)
    (hout : c.cohort.unavailable.Perm unavailable) (hsession : c.sessionCounts.Perm sessionCounts)
    (hprior : c.priorCounts.Perm priorCounts) (hsessions : (c.sessionCounts.map (·.1)).Nodup)
    (hpriors : (c.priorCounts.map (·.1)).Nodup)
    (h' : (c.reorder observations unavailable sessionCounts priorCounts).Valid) :
    (c.inputs h).Reordered
      ((c.reorder observations unavailable sessionCounts priorCounts).inputs h') where
  easternHour := rfl
  config := rfl
  policy := rfl
  account := rfl
  members := hobs.map _
  symbols := rfl
  unavailable := hout
  sessionCount := countOf_perm hsession hsessions
  sessionTotal := countTotal_perm hsession hsessions
  priorCount := countOf_perm hprior hpriors

/-- A stock of the session from 0 to 1, at its opening quote. -/
def quoted (symbol : String) (prediction : Option ℚ) : CohortObservation where
  member := { stock symbol 10 L1.ten_pos with predictionBps := prediction }
  featureContext := "OPENING_QUOTE_GAP_V1"
  crypto := false
  sourceEnd := 0
  sessionOpen := 0
  sessionClose := 1

def quotedSelection : Selection where
  easternHour := midMorning
  riskDay := fun t => (t, t)
  config := boundedConfig
  entrySymbols := ["AAPL", "MSFT", "SPY"]
  policy := none
  account := roundAccount
  available := 600
  cohort :=
    { sourceEnd := 0
      sessionOpen := 0
      sessionClose := 1
      observations := [quoted "AAPL" none, quoted "MSFT" (some 12)]
      unavailable := [("SPY", "QUOTE_MISSING")] }
  sessionCounts := [("AAPL", 1), ("MSFT", 1)]

end Selection

end Quantbot.L4.Entry
