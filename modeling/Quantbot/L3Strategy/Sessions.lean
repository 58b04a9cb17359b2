import Quantbot.L1Domain.StrategyConfig
import Quantbot.L3Strategy.Tranches

/-!
# Session sequences and the windows of rosters

`strategy/adaptive_momentum.py:39-190`. A `XNYSSessionSequence` carries what its validator
checks, a `MonthlyRoster` what its own does.

* `openAt_inj`: an open names its session.
* `rosterExpiryAfter_ok`: the month boundary, as an index.
* `trancheExpiryAfter_one`: with one tranche the two rules for the end of a window agree.
* `validateRosterWindow_ok`: what a window that begins a month is accepted for.
-/
namespace Quantbot.L3.Strategy

open Core L1

/-! ## Model -/

/-- mirrors adaptive_momentum.py:53-66 -/
structure XNYSSession where
  sessionDate : Int
  openAt : Int
  closeAt : Int
  open_lt_close : openAt < closeAt
  open_date : utcDate openAt = sessionDate
  close_date : utcDate closeAt = sessionDate
deriving DecidableEq

/-- `session_date.strftime("%Y-%m")`. -/
def XNYSSession.month (s : XNYSSession) : Int × Int := yearMonth s.sessionDate

/-- What the validator asks of two neighbours. -/
def XNYSSession.Before (previous current : XNYSSession) : Prop :=
  previous.sessionDate < current.sessionDate ∧ previous.closeAt < current.openAt
deriving Decidable

/-- mirrors adaptive_momentum.py:69-84 -/
structure XNYSSessionSequence where
  calendar : TradingCalendar
  sessions : List XNYSSession
  two_le : 2 ≤ sessions.length
  ordered : sessions.IsChain XNYSSession.Before

/-- mirrors adaptive_momentum.py:39-50 -/
structure Ranking where
  symbol : String
  momentum : ℚ
  close : ℚ
  sma200 : ℚ
deriving DecidableEq, Repr

/-- mirrors adaptive_momentum.py:159-190 -/
structure MonthlyRoster where
  calendar : TradingCalendar
  evaluatedAt : Int
  effectiveAt : Int
  expiresAt : Int
  symbols : List String
  rankings : List Ranking
  tranche : Int := 0
  trancheCount : ℕ := 1
  symbols_nodup : symbols.Nodup
  evaluated_lt : evaluatedAt < effectiveAt
  effective_lt : effectiveAt < expiresAt

namespace XNYSSessionSequence

/-- mirrors adaptive_momentum.py:86-94 -/
def transitionIndex (seq : XNYSSessionSequence) (evaluationAt nextSessionAt : Int) :
    Except String ℕ :=
  match seq.sessions.dropLast.findIdx? fun s => s.closeAt = evaluationAt with
  | none => .error "evaluation_at must be an XNYS session close"
  | some index =>
    if (seq.sessions[index + 1]?).map XNYSSession.openAt ≠ some nextSessionAt then
      .error "next_session_at must be the immediate next XNYS session"
    else .ok index

/-- mirrors adaptive_momentum.py:96-104 -/
def trancheScheduleMap (seq : XNYSSessionSequence) (tranches : ℕ) :
    Except String (List (ℕ × ℕ)) :=
  trancheSchedule (seq.sessions.map XNYSSession.month) tranches

/-- mirrors adaptive_momentum.py:106-119 -/
def trancheExpiryAfter (seq : XNYSSessionSequence) (evaluationIndex : ℕ) (tranche : Int)
    (tranches : ℕ) : Except String Int := do
  let schedule ← seq.trancheScheduleMap tranches
  match nextRebalanceIndex schedule evaluationIndex tranche with
  | none => .error "session sequence must extend past this tranche's next rebalance"
  | some next =>
    match seq.sessions[next + 1]? with
    | none => .error "session sequence must extend past this tranche's next rebalance"
    | some session => .ok session.openAt

/-- mirrors adaptive_momentum.py:121-127 -/
def rosterExpiryAfter (seq : XNYSSessionSequence) (effectiveIndex : ℕ) : Except String Int :=
  match seq.sessions[effectiveIndex]? with
  | none => .error "tuple index out of range"
  | some effective =>
    match (seq.sessions.drop (effectiveIndex + 1)).find? fun s => s.month ≠ effective.month with
    | none => .error "session sequence must include the first session after effective month"
    | some session => .ok session.openAt

/-- mirrors adaptive_momentum.py:129-156 -/
def validateRosterWindow (seq : XNYSSessionSequence) (roster : MonthlyRoster)
    (nextSessionAt : Int) : Except String Unit :=
  if roster.calendar ≠ seq.calendar then
    .error "roster schedule calendar does not match session sequence"
  else
    match seq.sessions.findIdx? fun s => s.openAt = roster.effectiveAt with
    | none | some 0 => .error "roster schedule is not represented by the session sequence"
    | some (prior + 1) =>
      match seq.sessions[prior]?, seq.sessions[prior + 1]? with
      | some priorSession, some effectiveSession =>
        if priorSession.month = effectiveSession.month ∨
            priorSession.closeAt ≠ roster.evaluatedAt then
          .error "roster schedule must start at the first XNYS session of a month"
        else do
          let expiresAt ← seq.rosterExpiryAfter (prior + 1)
          if roster.expiresAt ≠ expiresAt then
            throw "roster schedule expires_at does not match the XNYS month boundary"
          else if ¬ (roster.effectiveAt ≤ nextSessionAt ∧ nextSessionAt < roster.expiresAt) then
            throw "roster is not effective for next_session_at"
          else pure ()
      | _, _ => .error "tuple index out of range"

/-! ## Order of the sessions -/

theorem pairwise_openAt (seq : XNYSSessionSequence) :
    seq.sessions.Pairwise fun a b => a.openAt < b.openAt := by
  have hchain : seq.sessions.IsChain fun a b => a.openAt < b.openAt :=
    seq.ordered.imp fun {a b} h => lt_trans a.open_lt_close h.2
  exact List.isChain_iff_pairwise.1 hchain

theorem pairwise_closeAt (seq : XNYSSessionSequence) :
    seq.sessions.Pairwise fun a b => a.closeAt < b.closeAt := by
  have hchain : seq.sessions.IsChain fun a b => a.closeAt < b.closeAt :=
    seq.ordered.imp fun {a b} h => lt_trans h.2 b.open_lt_close
  exact List.isChain_iff_pairwise.1 hchain

variable {i : ℕ} {l : List XNYSSession}

theorem index_of_key {key : XNYSSession → Int}
    (h : l.Pairwise fun a b => key a < key b) {j : ℕ} {a b : XNYSSession} (hi : l[i]? = some a)
    (hj : l[j]? = some b) (hkey : key a = key b) : i = j := by
  obtain ⟨hilt, rfl⟩ := List.getElem?_eq_some_iff.1 hi
  obtain ⟨hjlt, rfl⟩ := List.getElem?_eq_some_iff.1 hj
  rcases Nat.lt_trichotomy i j with hlt | heq | hlt
  · have := List.pairwise_iff_getElem.1 h i j hilt hjlt hlt; omega
  · exact heq
  · have := List.pairwise_iff_getElem.1 h j i hjlt hilt hlt; omega

theorem findIdx?_of_key (key : XNYSSession → Int)
    (h : l.Pairwise fun a b => key a < key b) {a : XNYSSession} (hi : l[i]? = some a) :
    (l.findIdx? fun s => key s = key a) = some i := by
  cases hfind : l.findIdx? fun s => key s = key a with
  | none =>
    have hnot := List.findIdx?_eq_none_iff.1 hfind a (List.mem_of_getElem? hi)
    simp at hnot
  | some j =>
    obtain ⟨hlt, hkey, -⟩ := List.findIdx?_eq_some_iff_getElem.1 hfind
    have hj : l[j]? = some l[j] := List.getElem?_eq_getElem hlt
    rw [index_of_key h hj hi (by simpa using hkey)]

variable {seq : XNYSSessionSequence} {evaluationAt nextSessionAt : Int}

theorem transitionIndex_ok : seq.transitionIndex evaluationAt nextSessionAt = .ok i ↔
      ∃ e f, seq.sessions[i]? = some e ∧ seq.sessions[i + 1]? = some f ∧
        e.closeAt = evaluationAt ∧ f.openAt = nextSessionAt := by
  unfold transitionIndex; constructor
  · intro h
    cases hfind : seq.sessions.dropLast.findIdx? fun s => s.closeAt = evaluationAt with
    | none => simp [hfind] at h
    | some index =>
      simp only [hfind] at h; split at h
      · simp at h
      next hnext =>
      cases h
      obtain ⟨hlt, hclose, -⟩ := List.findIdx?_eq_some_iff_getElem.1 hfind
      obtain ⟨f, hf, hopen⟩ := Option.map_eq_some_iff.1 (not_not.1 hnext)
      exact ⟨_, f, List.getElem?_eq_getElem _, hf, by simpa using hclose, hopen⟩
  · rintro ⟨e, f, he, hf, rfl, rfl⟩
    obtain ⟨hflt, -⟩ := List.getElem?_eq_some_iff.1 hf
    have hdrop : seq.sessions.dropLast[i]? = some e := by
      rw [List.getElem?_dropLast, if_pos (by omega)]; exact he
    have hpair := seq.pairwise_closeAt.sublist (List.dropLast_sublist _)
    rw [findIdx?_of_key XNYSSession.closeAt hpair hdrop]; simp [hf]

/-! ## The two rules for the end of a window -/

/-- The end of the month of the session at `i`, as an index. -/
theorem rosterExpiryAfter_ok {t : Int} (h : seq.rosterExpiryAfter i = .ok t) :
    ∃ e k s, seq.sessions[i]? = some e ∧ i < k ∧ seq.sessions[k]? = some s ∧ s.openAt = t ∧
      s.month ≠ e.month ∧
      ∀ j, i ≤ j → j < k → (seq.sessions.map XNYSSession.month)[j]? = some e.month := by
  unfold rosterExpiryAfter at h
  cases he : seq.sessions[i]? with
  | none => simp [he] at h
  | some e =>
    simp only [he] at h
    cases hfind : (seq.sessions.drop (i + 1)).find? fun s => s.month ≠ e.month with
    | none => exact absurd h (by rw [hfind]; simp)
    | some s =>
      simp only [hfind] at h
      obtain ⟨hmonth, before, later, hsplit, hbefore⟩ := List.find?_eq_some_iff_append.1 hfind
      have hat : ∀ j, seq.sessions[i + 1 + j]? = (before ++ s :: later)[j]? := by
        intro j; rw [← hsplit, List.getElem?_drop]
      refine ⟨e, i + 1 + before.length, s, rfl, by omega, ?_, Except.ok.inj h,
        by simpa using hmonth, ?_⟩
      · rw [hat]; simp
      · intro j hij hjk; rw [List.getElem?_map]
        rcases Nat.eq_or_lt_of_le hij with rfl | hlt
        · rw [he]; rfl
        have hj := hat (j - (i + 1))
        rw [show i + 1 + (j - (i + 1)) = j by omega,
          List.getElem?_append_left (by omega)] at hj
        rw [hj, List.getElem?_eq_getElem (by omega)]
        have := hbefore _ (List.getElem_mem (show j - (i + 1) < before.length by omega))
        simpa using this

/-- **With one tranche both rules end the window at the same open.** -/
theorem trancheExpiryAfter_one {f : XNYSSession} {t : Int} (hf : seq.sessions[i + 1]? = some f)
    (h : seq.rosterExpiryAfter (i + 1) = .ok t) : seq.trancheExpiryAfter i 0 1 = .ok t := by
  obtain ⟨f', k, s, hf', hk, hs, hopen, hmonth, hsame⟩ := rosterExpiryAfter_ok h
  rw [hf] at hf'; cases hf'; have hklt := (List.getElem?_eq_some_iff.1 hs).1
  have hne : seq.sessions.map XNYSSession.month ≠ [] :=
    List.ne_nil_of_length_pos (by rw [List.length_map]; omega)
  have hlast : (seq.sessions.map XNYSSession.month)[k - 1]? = some f.month :=
    hsame (k - 1) (by omega) (by omega)
  have hfinal : IsFinal (seq.sessions.map XNYSSession.month) (k - 1) := by
    refine ⟨by rw [List.length_map]; omega, .inr ?_⟩
    rw [hlast, Nat.sub_add_cancel (by omega), List.getElem?_map, hs]; intro heq
    exact hmonth (Option.some.inj heq)
  unfold trancheExpiryAfter trancheScheduleMap
  cases hschedule : trancheSchedule (seq.sessions.map XNYSSession.month) 1 with
  | error message => simp [trancheSchedule] at hschedule
  | ok schedule =>
    have hnext := nextRebalanceIndex_one hne hschedule (show i < k - 1 by omega) hfinal
      fun j hj hjk => (hsame j (by omega) (by omega)).trans hlast.symm
    show (match nextRebalanceIndex schedule i 0 with
      | none => _
      | some next => _) = _
    rw [hnext]; dsimp only; rw [Nat.sub_add_cancel (by omega), hs]
    exact congrArg Except.ok hopen

/-! ## What a window is accepted for -/

section Window
variable {seq : XNYSSessionSequence} {roster : MonthlyRoster} {i : ℕ} {e f : XNYSSession}

theorem validateRosterWindow_inside (hcal : roster.calendar = seq.calendar)
    (he : seq.sessions[i]? = some e) (hf : seq.sessions[i + 1]? = some f)
    (heff : roster.effectiveAt = f.openAt) (hmonth : e.month = f.month) (next : Int) :
    seq.validateRosterWindow roster next =
      .error "roster schedule must start at the first XNYS session of a month" := by
  unfold validateRosterWindow
  rw [if_neg (not_not.2 hcal), heff, findIdx?_of_key XNYSSession.openAt seq.pairwise_openAt hf]
  simp only [he, hf]; rw [if_pos (.inl hmonth)]

/-- **A window from a month's first open to its boundary is accepted for the opens in it and
no others.** -/
theorem validateRosterWindow_ok (hcal : roster.calendar = seq.calendar)
    (he : seq.sessions[i]? = some e) (hf : seq.sessions[i + 1]? = some f)
    (heval : roster.evaluatedAt = e.closeAt) (heff : roster.effectiveAt = f.openAt)
    (hmonth : e.month ≠ f.month) (hexp : seq.rosterExpiryAfter (i + 1) = .ok roster.expiresAt)
    (next : Int) : seq.validateRosterWindow roster next =
      if roster.effectiveAt ≤ next ∧ next < roster.expiresAt then .ok ()
      else .error "roster is not effective for next_session_at" := by
  unfold validateRosterWindow
  rw [if_neg (not_not.2 hcal), heff, findIdx?_of_key XNYSSession.openAt seq.pairwise_openAt hf]
  simp only [he, hf]
  rw [if_neg (by rintro (h | h); exacts [hmonth h, h heval.symm]), hexp]
  show (if roster.expiresAt ≠ roster.expiresAt then _ else _) = _
  rw [if_neg (not_not.2 rfl), ite_not]; rfl

end Window

/-! ## Longer sequences -/

/-- `longer` goes on where `seq` ends. -/
structure Extends (longer seq : XNYSSessionSequence) : Prop where
  calendar : longer.calendar = seq.calendar
  sessions : seq.sessions <+: longer.sessions

section Extends
variable {longer seq : XNYSSessionSequence}

variable {i : ℕ}

theorem Extends.getElem? (h : longer.Extends seq) {s : XNYSSession}
    (hi : seq.sessions[i]? = some s) : longer.sessions[i]? = some s := by
  obtain ⟨more, hmore⟩ := h.sessions
  rw [← hmore, List.getElem?_append_left (List.getElem?_eq_some_iff.1 hi).1]
  exact hi

theorem Extends.transitionIndex (h : longer.Extends seq)
    (hi : seq.transitionIndex evaluationAt nextSessionAt = .ok i) :
    longer.transitionIndex evaluationAt nextSessionAt = .ok i := by
  obtain ⟨e, f, he, hf, heval, hnext⟩ := transitionIndex_ok.1 hi
  exact transitionIndex_ok.2 ⟨e, f, h.getElem? he, h.getElem? hf, heval, hnext⟩

theorem Extends.rosterExpiryAfter (h : longer.Extends seq) {t : Int}
    (hi : seq.rosterExpiryAfter i = .ok t) : longer.rosterExpiryAfter i = .ok t := by
  unfold XNYSSessionSequence.rosterExpiryAfter at hi ⊢
  cases he : seq.sessions[i]? with
  | none => simp [he] at hi
  | some e =>
    have hlt := (List.getElem?_eq_some_iff.1 he).1; simp only [he] at hi
    simp only [h.getElem? he]; obtain ⟨more, hmore⟩ := h.sessions
    rw [← hmore, List.drop_append_of_le_length (by omega), List.find?_append]
    cases hfind : (seq.sessions.drop (i + 1)).find? fun s => s.month ≠ e.month with
    | none => exact absurd hi (by rw [hfind]; simp)
    | some s =>
      simp only [hfind] at hi; exact hi

end Extends
end XNYSSessionSequence
end Quantbot.L3.Strategy
