import Quantbot.Core.Txn
import Quantbot.L3Strategy.AdaptiveMomentum
import Mathlib.Data.Fin.VecNotation

/-!
# Which rosters govern

A roster governs when it names the tranche it was built for, lives until that tranche's next
rebalance, and is accepted on every session in between, on this session sequence and on
every longer one. `rosterGoverns_iff`: that is so exactly when there is one tranche. With
several, the builder goes by the tranche schedule and leaves the roster's tranche at its
default, while the validator still asks for a month's first session.
-/
namespace Quantbot.L3.Strategy

open Core L1
open Txn (except_bind_ok mapM_ok_mem)
open XNYSSessionSequence (transitionIndex_ok trancheExpiryAfter_one validateRosterWindow_inside
  validateRosterWindow_ok rosterExpiryAfter_ok)

/-! ## What the builder promises -/

section Build
variable {A : Arith} {histories : Histories} {evaluationAt effectiveAt expiresAt : Int}
  {config : StrategyConfig} {seq longer : XNYSSessionSequence} {tranche : Int} {i : ℕ}
  {roster : MonthlyRoster} {ranked : List Ranking}

theorem rankSymbol_symbol {symbol : String} {history : List Bar} {r : Ranking}
    (h : rankSymbol A config evaluationAt symbol history = .ok (some r)) : r.symbol = symbol := by
  obtain ⟨-, -, h⟩ := except_bind_ok.1 h
  cases hlast : (sliced history evaluationAt).getLast? with
  | none => simp [hlast] at h
  | some last =>
    simp only [hlast] at h; split at h
    · simp at h
    split at h
    · split at h
      · simp at h
      · rw [← Option.some.inj (Except.ok.inj h)]
    · simp at h

theorem rankUniverse_mem (h : rankUniverse A config evaluationAt histories = .ok ranked) :
    ∀ r ∈ ranked, r.symbol ∈ config.symbols := by
  unfold rankUniverse at h; simp only at h; split at h
  · simp at h
  obtain ⟨rankings, hrankings, h⟩ := except_bind_ok.1 h; intro r hr
  rw [← Except.ok.inj h] at hr
  have hmem := (List.perm_insertionSort Ranking.Before _).subset (List.mem_of_mem_take hr)
  obtain ⟨found, hfound, hsome⟩ := List.mem_filterMap.1 hmem
  rw [show found = some r from hsome] at hfound
  obtain ⟨symbol, hsymbol, hrank⟩ := mapM_ok_mem hrankings _ hfound
  rw [rankSymbol_symbol hrank]; exact hsymbol

/-- A new roster says what it was built from, and never the tranche. -/
structure BuiltFrom (config : StrategyConfig) (evaluationAt effectiveAt expiresAt : Int)
    (ranked : List Ranking) (roster : MonthlyRoster) : Prop where
  calendar : roster.calendar = config.calendar
  evaluatedAt : roster.evaluatedAt = evaluationAt
  effectiveAt : roster.effectiveAt = effectiveAt
  expiresAt : roster.expiresAt = expiresAt
  symbols : roster.symbols = ranked.map Ranking.symbol
  tranche : roster.tranche = 0

theorem newRoster_ok
    (h : newRoster config.calendar evaluationAt effectiveAt expiresAt ranked = .ok roster) :
    BuiltFrom config evaluationAt effectiveAt expiresAt ranked roster := by
  unfold newRoster at h; split at h
  · split at h
    · split at h
      · cases h; exact ⟨rfl, rfl, rfl, rfl, rfl, rfl⟩
      · simp at h
    · simp at h
  · simp at h

/-- The spec of the builder: of the session sequence it asks for the transition and the end
of the window. -/
theorem buildMonthlyRoster_ok :
    buildMonthlyRoster A histories evaluationAt effectiveAt config seq tranche = .ok roster ↔
      evaluationAt < effectiveAt ∧ seq.calendar = config.calendar ∧
      ∃ i expiresAt ranked, seq.transitionIndex evaluationAt effectiveAt = .ok i ∧
        rosterExpiry config seq i tranche = .ok expiresAt ∧
        rankUniverse A config evaluationAt histories = .ok ranked ∧
        newRoster config.calendar evaluationAt effectiveAt expiresAt ranked = .ok roster := by
  unfold buildMonthlyRoster; by_cases hlt : effectiveAt ≤ evaluationAt
  · simp [hlt, not_lt.2 hlt]
  by_cases hcal : seq.calendar = config.calendar
  · simp [hlt, hcal, not_le.1 hlt, except_bind_ok]
  · simp [hlt, hcal]

theorem rosterExpiry_one (h1 : config.rebalanceTranches = 1) :
    rosterExpiry config seq i tranche = .ok expiresAt ↔
      (seq.sessions[i]?).map XNYSSession.month ≠ (seq.sessions[i + 1]?).map XNYSSession.month ∧
        seq.rosterExpiryAfter (i + 1) = .ok expiresAt := by
  unfold rosterExpiry; rw [if_pos h1]; split <;> simp_all

theorem rosterExpiry_many {e f : XNYSSession} (h1 : config.rebalanceTranches ≠ 1)
    (he : seq.sessions[i]? = some e) (hf : seq.sessions[i + 1]? = some f)
    (h : rosterExpiry config seq i 0 = .ok expiresAt) : e.month = f.month := by
  by_contra hmonth; have hlt := (List.getElem?_eq_some_iff.1 hf).1
  have hfinal : IsFinal (seq.sessions.map XNYSSession.month) i := by
    refine ⟨by rw [List.length_map]; omega, .inr ?_⟩
    rw [List.getElem?_map, List.getElem?_map, he, hf]; intro heq
    exact hmonth (Option.some.inj heq).symm
  unfold rosterExpiry at h; rw [if_neg h1] at h
  obtain ⟨schedule, hschedule, h⟩ := except_bind_ok.1 h; split at h
  · simp at h
  next howner =>
  rw [getItem_trancheSchedule_final hschedule hfinal] at howner
  have hpos := config.rebalanceTranches_pos
  have : ((config.rebalanceTranches - 1 : ℕ) : Int) = 0 := by simpa using howner
  omega

end Build

/-! ## Governing -/

/-- What `evaluateSymbol` asks of its other arguments. -/
structure Evaluable (digests : Digests) (config : StrategyConfig) (identity : StrategyIdentity)
    (symbolHistory spyHistory : List Bar) (position : Option PositionContext)
    (symbol : String) : Prop where
  identity : validateStrategyIdentity digests config identity = .ok ()
  head : (symbolHistory.head?).map Bar.symbol = some symbol
  member : symbol ∈ config.symbols
  history : validateHistory symbol none symbolHistory = .ok ()
  spyHistory : validateHistory config.regimeSymbol none spyHistory = .ok ()
  position : ∀ held ∈ position, held.symbol = symbol

/-- A roster built for `tranche` governs: the claims made for it on its own sequence, and
that a longer sequence changes none of them. -/
structure Governs (A : Arith) (histories : Histories) (evaluationAt effectiveAt : Int)
    (config : StrategyConfig) (seq : XNYSSessionSequence) (tranche : Int)
    (roster : MonthlyRoster) : Prop where
  records : roster.tranche = tranche
  window : ∃ i, seq.transitionIndex evaluationAt effectiveAt = .ok i ∧
    seq.trancheExpiryAfter i tranche config.rebalanceTranches = .ok roster.expiresAt
  accepted : ∀ j s next, seq.sessions[j]? = some s → seq.sessions[j + 1]? = some next →
    roster.effectiveAt ≤ next.openAt → next.openAt < roster.expiresAt →
    seq.validateRosterWindow roster next.openAt = .ok () ∧
    ∀ digests identity symbolHistory spyHistory position symbol,
      Evaluable digests config identity symbolHistory spyHistory position symbol →
      ∃ decision, evaluateSymbol A digests symbolHistory spyHistory roster s.closeAt next.openAt
          config identity position seq = .ok decision ∧
        decision.activeRoster = decide (symbol ∈ roster.symbols)
  stableWindow : ∀ longer : XNYSSessionSequence, longer.Extends seq →
    buildMonthlyRoster A histories evaluationAt effectiveAt config longer tranche = .ok roster ∧
    ∃ i, longer.transitionIndex evaluationAt effectiveAt = .ok i ∧
      longer.trancheExpiryAfter i tranche config.rebalanceTranches = .ok roster.expiresAt
  stableAcceptance : ∀ longer : XNYSSessionSequence, longer.Extends seq →
    (∀ next, longer.validateRosterWindow roster next = seq.validateRosterWindow roster next) ∧
    ∀ digests identity symbolHistory spyHistory position closeAt next decision,
      evaluateSymbol A digests symbolHistory spyHistory roster closeAt next config identity
          position longer = .ok decision ↔
        evaluateSymbol A digests symbolHistory spyHistory roster closeAt next config identity
          position seq = .ok decision

/-! ## One tranche -/

variable {symbolHistory spyHistory : List Bar} {position : Option PositionContext}

variable {identity : StrategyIdentity} {digests : Digests} {roster : MonthlyRoster}

variable {config : StrategyConfig}

theorem checkInputs_ok {symbol : String}
    (h : Evaluable digests config identity symbolHistory spyHistory position symbol)
    (hsymbols : ∀ s ∈ roster.symbols, s ∈ config.symbols) :
    checkInputs symbolHistory spyHistory roster config position = .ok symbol := by
  cases symbolHistory with
  | nil => exact absurd h.head (by simp)
  | cons first rest =>
    obtain rfl : first.symbol = symbol := by simpa using h.head
    have hany : ¬ (roster.symbols.any fun s => s ∉ config.symbols) = true := by simpa using hsymbols
    have hheld : ¬ (position.any fun held => held.symbol ≠ first.symbol) = true := by
      cases position with
      | none => simp
      | some held => simpa using h.position held rfl
    unfold checkInputs; dsimp only
    rw [if_neg (not_not.2 h.member), if_neg hany]
    refine except_bind_ok.2 ⟨(), h.history, except_bind_ok.2 ⟨(), h.spyHistory, ?_⟩⟩
    rw [if_neg hheld]; rfl

variable {decision : SignalDecision}

theorem evaluateSymbol_ok {A : Arith}
    {evaluationAt nextSessionAt : Int} {seq : XNYSSessionSequence} :
    evaluateSymbol A digests symbolHistory spyHistory roster evaluationAt nextSessionAt config
        identity position seq = .ok decision ↔
      evaluationAt < nextSessionAt ∧ validateStrategyIdentity digests config identity = .ok () ∧
      seq.calendar = config.calendar ∧
      (∃ i, seq.transitionIndex evaluationAt nextSessionAt = .ok i) ∧
      seq.validateRosterWindow roster nextSessionAt = .ok () ∧
      ∃ symbol, checkInputs symbolHistory spyHistory roster config position = .ok symbol ∧
        decideSignal A digests symbol symbolHistory spyHistory roster evaluationAt nextSessionAt
          config identity position = decision := by
  unfold evaluateSymbol; by_cases hlt : nextSessionAt ≤ evaluationAt
  · simp [hlt, not_lt.2 hlt]
  rw [if_neg hlt, except_bind_ok]
  by_cases hcal : seq.calendar = config.calendar
  · simp [hcal, not_le.1 hlt, except_bind_ok, pure, Except.pure, Unique.exists_iff]
  · simp [hcal]

theorem entrySignal_activeRoster (A : Arith) (config : StrategyConfig) (measured : SignalDecision)
    (close : ℚ) : (entrySignal A config measured close).activeRoster = measured.activeRoster := by
  unfold entrySignal; split
  · dsimp only; split <;> rfl
  · rfl

theorem exitSignal_activeRoster (A : Arith) (config : StrategyConfig) (measured : SignalDecision)
    (close : ℚ) (held : PositionContext) (highWater : Option ℚ) :
    (exitSignal A config measured close held highWater).activeRoster = measured.activeRoster := by
  unfold exitSignal; dsimp only; split
  · split <;> rfl
  · split <;> rfl

theorem decideSignal_activeRoster (A : Arith) (digests : Digests) (symbol : String)
    (symbolHistory spyHistory : List Bar) (roster : MonthlyRoster) (evaluationAt nextSessionAt : Int)
    (config : StrategyConfig) (identity : StrategyIdentity) (position : Option PositionContext) :
    (decideSignal A digests symbol symbolHistory spyHistory roster evaluationAt nextSessionAt config
      identity position).activeRoster = decide (symbol ∈ roster.symbols) := by
  unfold decideSignal; dsimp only; split
  · cases position with
    | none => exact entrySignal_activeRoster ..
    | some held => exact exitSignal_activeRoster ..
  · rfl

/-- A roster for the month that begins with the session after `i`. -/
structure MonthOf (config : StrategyConfig) (seq : XNYSSessionSequence) (i : ℕ)
    (e f : XNYSSession) (roster : MonthlyRoster) : Prop where
  calendar : seq.calendar = config.calendar
  rosterCalendar : roster.calendar = seq.calendar
  evaluation : seq.sessions[i]? = some e
  effective : seq.sessions[i + 1]? = some f
  evaluatedAt : roster.evaluatedAt = e.closeAt
  effectiveAt : roster.effectiveAt = f.openAt
  month : e.month ≠ f.month
  expiry : seq.rosterExpiryAfter (i + 1) = .ok roster.expiresAt

section MonthOf
variable {A : Arith} {config : StrategyConfig} {seq longer : XNYSSessionSequence} {i : ℕ}
  {e f : XNYSSession} {roster : MonthlyRoster}

section

variable (h : MonthOf config seq i e f roster)
include h

theorem MonthOf.validate (next : Int) : seq.validateRosterWindow roster next =
      if roster.effectiveAt ≤ next ∧ next < roster.expiresAt then .ok ()
      else .error "roster is not effective for next_session_at" :=
  validateRosterWindow_ok h.rosterCalendar h.evaluation h.effective h.evaluatedAt h.effectiveAt
    h.month h.expiry next

section

variable (hlonger : longer.Extends seq)
include hlonger

theorem MonthOf.extend : MonthOf config longer i e f roster where
  calendar := hlonger.calendar.trans h.calendar
  rosterCalendar := h.rosterCalendar.trans hlonger.calendar.symm
  evaluation := hlonger.getElem? h.evaluation
  effective := hlonger.getElem? h.effective
  evaluatedAt := h.evaluatedAt
  effectiveAt := h.effectiveAt
  month := h.month
  expiry := hlonger.rosterExpiryAfter h.expiry

theorem MonthOf.validate_longer (next : Int) :
    longer.validateRosterWindow roster next = seq.validateRosterWindow roster next := by
  rw [(h.extend hlonger).validate, h.validate]

/-- Inside the window the transitions of a longer sequence are those of the shorter. -/
theorem MonthOf.transition_shorter {evaluationAt next : Int} {j : ℕ}
    (hnext : next < roster.expiresAt) (hj : longer.transitionIndex evaluationAt next = .ok j) :
    seq.transitionIndex evaluationAt next = .ok j := by
  obtain ⟨s, n, hs, hn, heval, hopen⟩ := transitionIndex_ok.1 hj
  obtain ⟨-, k, last, -, -, hlast, hexp, -⟩ := rosterExpiryAfter_ok h.expiry
  have hlt : j + 1 < k := by
    by_contra hge; obtain ⟨hnlt, hnget⟩ := List.getElem?_eq_some_iff.1 hn
    obtain ⟨hklt, hkget⟩ := List.getElem?_eq_some_iff.1 (hlonger.getElem? hlast)
    rcases Nat.eq_or_lt_of_le (not_lt.1 hge) with heq | hgt
    · have : n = last := by
        rw [← hnget, ← hkget]; simp only [heq]
      rw [this] at hopen; omega
    · have := List.pairwise_iff_getElem.1 longer.pairwise_openAt k (j + 1) hklt hnlt hgt
      rw [hnget, hkget] at this; omega
  obtain ⟨more, hmore⟩ := hlonger.sessions
  have hklt := (List.getElem?_eq_some_iff.1 hlast).1
  rw [← hmore, List.getElem?_append_left (by omega)] at hs hn
  exact transitionIndex_ok.2 ⟨s, n, hs, hn, heval, hopen⟩

/-- A decision is made on the longer sequence when it is made on the shorter, and the same. -/
theorem MonthOf.evaluate_longer {closeAt next : Int} :
    evaluateSymbol A digests symbolHistory spyHistory roster closeAt next config identity
        position longer = .ok decision ↔
      evaluateSymbol A digests symbolHistory spyHistory roster closeAt next config identity
        position seq = .ok decision := by
  rw [evaluateSymbol_ok, evaluateSymbol_ok, h.validate_longer hlonger, hlonger.calendar]
  constructor
  · rintro ⟨hlt, hid, hcal, ⟨j, hj⟩, hwindow, hrest⟩; have hvalid := hwindow
    rw [h.validate] at hvalid; split at hvalid
    · next hin => exact ⟨hlt, hid, hcal, ⟨j, h.transition_shorter hlonger hin.2 hj⟩, hwindow, hrest⟩
    · simp at hvalid
  · rintro ⟨hlt, hid, hcal, ⟨j, hj⟩, hwindow, hrest⟩
    exact ⟨hlt, hid, hcal, ⟨j, hlonger.transitionIndex hj⟩, hwindow, hrest⟩

end

theorem MonthOf.accepts
    (hsymbols : ∀ s ∈ roster.symbols, s ∈ config.symbols) {j : ℕ} {s next : XNYSSession}
    (hs : seq.sessions[j]? = some s) (hnext : seq.sessions[j + 1]? = some next)
    (hle : roster.effectiveAt ≤ next.openAt) (hlt : next.openAt < roster.expiresAt) :
    seq.validateRosterWindow roster next.openAt = .ok () ∧
    ∀ digests identity symbolHistory spyHistory position symbol,
      Evaluable digests config identity symbolHistory spyHistory position symbol →
      ∃ decision, evaluateSymbol A digests symbolHistory spyHistory roster s.closeAt next.openAt
          config identity position seq = .ok decision ∧
        decision.activeRoster = decide (symbol ∈ roster.symbols) := by
  have hvalid : seq.validateRosterWindow roster next.openAt = .ok () := by
    rw [h.validate, if_pos ⟨hle, hlt⟩]
  refine ⟨hvalid, ?_⟩
  intro digests identity symbolHistory spyHistory position symbol heval
  have hbefore : s.closeAt < next.openAt := by
    obtain ⟨hslt, hsget⟩ := List.getElem?_eq_some_iff.1 hs
    obtain ⟨hnlt, hnget⟩ := List.getElem?_eq_some_iff.1 hnext
    have := (List.isChain_iff_getElem.1 seq.ordered j hnlt).2
    rwa [hsget, hnget] at this
  exact ⟨_, evaluateSymbol_ok.2 ⟨hbefore, heval.identity, h.calendar,
    ⟨j, transitionIndex_ok.2 ⟨s, next, hs, hnext, rfl, rfl⟩⟩, hvalid, symbol,
    checkInputs_ok heval hsymbols, rfl⟩, decideSignal_activeRoster ..⟩

end

end MonthOf

/-! ## When a roster governs -/

section Main
variable {A : Arith} {histories : Histories} {evaluationAt effectiveAt : Int}
  {config : StrategyConfig} {seq : XNYSSessionSequence} {tranche : Int} {roster : MonthlyRoster}

section

variable (h : buildMonthlyRoster A histories evaluationAt effectiveAt config seq tranche = .ok roster)
include h

theorem monthOf_of_build (h1 : config.rebalanceTranches = 1) :
    ∃ i e f, seq.transitionIndex evaluationAt effectiveAt = .ok i ∧
      MonthOf config seq i e f roster := by
  obtain ⟨-, hcal, i, expiresAt, ranked, hi, hexp, hranked, hnew⟩ := buildMonthlyRoster_ok.1 h
  obtain ⟨e, f, he, hf, heval, heff⟩ := transitionIndex_ok.1 hi
  have hbuilt := newRoster_ok hnew; rw [rosterExpiry_one h1, he, hf] at hexp
  exact ⟨i, e, f, hi, hcal, hbuilt.calendar.trans hcal.symm, he, hf,
    hbuilt.evaluatedAt.trans heval.symm, hbuilt.effectiveAt.trans heff.symm,
    fun hmonth => hexp.1 (congrArg some hmonth), hbuilt.expiresAt ▸ hexp.2⟩

theorem symbols_of_build : ∀ s ∈ roster.symbols, s ∈ config.symbols := by
  obtain ⟨-, -, i, expiresAt, ranked, -, -, hranked, hnew⟩ := buildMonthlyRoster_ok.1 h
  intro s hs; rw [(newRoster_ok hnew).symbols] at hs
  obtain ⟨r, hr, rfl⟩ := List.mem_map.1 hs; exact rankUniverse_mem hranked r hr

theorem build_longer {longer : XNYSSessionSequence}
    (h1 : config.rebalanceTranches = 1) (hlonger : longer.Extends seq) :
    buildMonthlyRoster A histories evaluationAt effectiveAt config longer tranche = .ok roster := by
  obtain ⟨hlt, hcal, i, expiresAt, ranked, hi, hexp, hranked, hnew⟩ := buildMonthlyRoster_ok.1 h
  obtain ⟨e, f, he, hf, -, -⟩ := transitionIndex_ok.1 hi
  rw [rosterExpiry_one h1, he, hf] at hexp
  refine buildMonthlyRoster_ok.2 ⟨hlt, hlonger.calendar.trans hcal, i, expiresAt, ranked,
    hlonger.transitionIndex hi, ?_, hranked, hnew⟩
  rw [rosterExpiry_one h1, hlonger.getElem? he, hlonger.getElem? hf]
  exact ⟨hexp.1, hlonger.rosterExpiryAfter hexp.2⟩

end

/-- **Built is governing exactly with one tranche.** A roster that the builder returns names
its tranche, ends where the tranche rebalances next, is accepted by the validator and by the
daily decision on every session of its window, and stays all this as the session sequence
grows, if and only if the configuration has one tranche and the roster was asked for it. -/
theorem rosterGoverns_iff
    (h : buildMonthlyRoster A histories evaluationAt effectiveAt config seq tranche = .ok roster) :
    Governs A histories evaluationAt effectiveAt config seq tranche roster ↔
      tranche = 0 ∧ config.rebalanceTranches = 1 := by
  obtain ⟨-, hcal, i, expiresAt, ranked, hi, hexp, hranked, hnew⟩ := buildMonthlyRoster_ok.1 h
  obtain ⟨e, f, he, hf, heval, heff⟩ := transitionIndex_ok.1 hi
  have hbuilt := newRoster_ok hnew; constructor
  · intro hgov
    obtain rfl : tranche = 0 := hgov.records.symm.trans hbuilt.tranche
    refine ⟨rfl, ?_⟩; by_contra h1
    -- the roster of the first of several tranches begins inside a month
    have hmonth := rosterExpiry_many h1 he hf hexp
    have hopen : roster.effectiveAt = f.openAt := hbuilt.effectiveAt.trans heff.symm
    have hrefused := validateRosterWindow_inside (hbuilt.calendar.trans hcal.symm) he hf hopen hmonth
      f.openAt
    have hlt := roster.effective_lt
    have haccepted := (hgov.accepted i e f he hf (by omega) (by omega)).1
    rw [hrefused] at haccepted; simp at haccepted
  · rintro ⟨rfl, h1⟩
    obtain ⟨i', e', f', hi', hmonthOf⟩ := monthOf_of_build h h1
    have hsymbols := symbols_of_build h
    refine ⟨hbuilt.tranche, ⟨i', hi', ?_⟩, ?_, ?_, ?_⟩
    · rw [h1]; exact trancheExpiryAfter_one hmonthOf.effective hmonthOf.expiry
    · intro j s next hs hnext hle hlt
      exact hmonthOf.accepts hsymbols hs hnext hle hlt
    · intro longer hlonger; have hlong := hmonthOf.extend hlonger
      refine ⟨build_longer h h1 hlonger, i', hlonger.transitionIndex hi', ?_⟩
      rw [h1]; exact trancheExpiryAfter_one hlong.effective hlong.expiry
    · intro longer hlonger; refine ⟨hmonthOf.validate_longer hlonger, ?_⟩
      intro digests identity symbolHistory spyHistory position closeAt next decision
      exact hmonthOf.evaluate_longer hlonger

end Main

/-! ## Five sessions of early 2024 -/

/-- A session from 14:30 to 21:00 UTC. -/
def regularSession (day : Int) : XNYSSession where
  sessionDate := day
  openAt := (day * 86400 + 52200) * second
  closeAt := (day * 86400 + 75600) * second
  open_lt_close := by unfold second; omega
  open_date := by unfold utcDate second; omega
  close_date := by unfold utcDate second; omega

/-- 30 and 31 January, 1 and 29 February, 1 March. -/
def leapSessions : XNYSSessionSequence where
  calendar := .xnys
  sessions := [19752, 19753, 19754, 19782, 19783].map regularSession
  two_le := by decide
  ordered := by decide

/-- One symbol, two bars of momentum. -/
def trancheConfig (tranches : ℕ) (hpos : 0 < tranches) (hle : tranches ≤ 21) : StrategyConfig :=
  { singleFund with
    momentumLong := 1
    momentumSkip := 0
    trendPeriod := 2
    entryPeriod := 2
    exitPeriod := 1
    atrPeriod := 1
    maxOpenRiskBps := 300
    rebalanceTranches := tranches
    momentumSkip_lt := Nat.one_pos
    trendPeriod_pos := Nat.two_pos
    exitPeriod_pos := Nat.one_pos
    exitPeriod_lt := Nat.one_lt_two
    atrPeriod_pos := Nat.one_pos
    riskPerTradeBps_le := by decide
    rebalanceTranches_pos := hpos
    rebalanceTranches_le := hle }

/-- A day at one price. -/
def flatBar (symbol : String) (timestamp : Int) (price : ℚ) (h : 0 < price) : Bar where
  symbol := symbol
  timestamp := timestamp
  opening := price
  high := price
  low := price
  close := price
  volume := 1
  adjustment := 1
  low_pos := h
  low_le_opening := le_rfl
  low_le_close := le_rfl
  opening_le_high := le_rfl
  close_le_high := le_rfl
  volume_nonneg := unit_nonneg
  adjustment_pos := unit_pos

/-- A price that rose the day before `evaluationAt`. -/
def risingHistories (evaluationAt : Int) : Histories :=
  ⟨[("SPY", [flatBar "SPY" (evaluationAt - 86400 * second) 100 hundred_pos,
    flatBar "SPY" evaluationAt 110 dear_pos])], List.nodup_singleton _⟩

/-- The roster of tranche `tranche`, evaluated at the close of `day` for the open of `next`. -/
def buildOn (tranches : ℕ) (hpos : 0 < tranches) (hle : tranches ≤ 21) (day next tranche : Int) :
    Except String MonthlyRoster :=
  buildMonthlyRoster .decimal (risingHistories (regularSession day).closeAt)
    (regularSession day).closeAt (regularSession next).openAt (trancheConfig tranches hpos hle)
    leapSessions tranche

theorem rosterGoverns_iff_february :
    ∃ roster, buildOn 1 (by decide) (by decide) 19753 19754 0 = .ok roster ∧
      Governs .decimal (risingHistories (regularSession 19753).closeAt)
        (regularSession 19753).closeAt (regularSession 19754).openAt
        (trancheConfig 1 (by decide) (by decide)) leapSessions 0 roster := by
  cases hbuild : buildOn 1 (by decide) (by decide) 19753 19754 0 with
  | error message =>
    have hok : (buildOn 1 (by decide) (by decide) 19753 19754 0).isOk = true := by decide +kernel
    rw [hbuild] at hok; cases hok
  | ok roster => exact ⟨roster, rfl, (rosterGoverns_iff hbuild).2 ⟨rfl, rfl⟩⟩

/-- With two tranches the builder's roster for the first is refused on the open it is for, and
its roster for the second says it is the first's. -/
theorem two_tranches_ungoverned :
    (∃ roster, buildOn 2 (by decide) (by decide) 19752 19753 0 = .ok roster ∧
      leapSessions.validateRosterWindow roster (regularSession 19753).openAt =
        .error "roster schedule must start at the first XNYS session of a month") ∧
    ∃ roster, buildOn 2 (by decide) (by decide) 19753 19754 1 = .ok roster ∧
      ¬ Governs .decimal (risingHistories (regularSession 19753).closeAt)
        (regularSession 19753).closeAt (regularSession 19754).openAt
        (trancheConfig 2 (by decide) (by decide)) leapSessions 1 roster := by
  constructor
  · have hrun : (buildOn 2 (by decide) (by decide) 19752 19753 0 >>= fun roster =>
        leapSessions.validateRosterWindow roster (regularSession 19753).openAt) =
        .error "roster schedule must start at the first XNYS session of a month" := by
      decide +kernel
    cases hbuild : buildOn 2 (by decide) (by decide) 19752 19753 0 with
    | error message =>
      have hok : (buildOn 2 (by decide) (by decide) 19752 19753 0).isOk = true := by decide +kernel
      rw [hbuild] at hok; cases hok
    | ok roster =>
      rw [hbuild] at hrun; exact ⟨roster, rfl, hrun⟩
  · cases hbuild : buildOn 2 (by decide) (by decide) 19753 19754 1 with
    | error message =>
      have hok : (buildOn 2 (by decide) (by decide) 19753 19754 1).isOk = true := by decide +kernel
      rw [hbuild] at hok; cases hok
    | ok roster =>
      refine ⟨roster, rfl, fun hgov => ?_⟩
      have hzero : (buildOn 2 (by decide) (by decide) 19753 19754 1).toOption.map
          MonthlyRoster.tranche = some 0 := by decide +kernel
      rw [hbuild] at hzero; have hone : roster.tranche = 1 := hgov.records
      have : roster.tranche = 0 := Option.some.inj hzero; omega

end Quantbot.L3.Strategy
