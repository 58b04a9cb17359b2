import Quantbot.L4PaperCore.FeeRuns

/-!
# The identity of a fee activity

`retain_fee_activity` (`paper_core/crypto_costs.py:154-194`) over any sequence of transactions
that make any number of calls each, from any store, for any accounts. `content_id` stays an
arbitrary function: an activity that shares its key with another one is compared with it.

Results:
* `Named.identified`: what one call keeps of every retained activity.
* `fee_identity`: the digest stays, a symbol is found once, a replay writes nothing.
-/
namespace Quantbot.L4.Fees

open Core Txn L1 L2

variable {contentId : FeeContentId}

/-! ## Calls -/

/-- The call with the account it is given.
mirrors crypto_costs.py:154-194 -/
def retainFeeActivityOf (contentId : FeeContentId) (account : String)
    (evidence : CryptoFeeActivity) (receivedAt : Int) : FeeTxn CryptoFeeActivity := do
  let s ← get
  let key := contentId (.feeCursor account evidence.activityId)
  let stored : SourceCursor := ⟨key, receivedAt, contentId (.document (.fee evidence))⟩
  match s.core.sourceCursors.get? key with
  | some cursor =>
    match (s.document? cursor.eventId).bind FeeDocument.fee? with
    | none => throw .noResult
    | some old =>
      require (old.rawDigest = evidence.rawDigest ∧
        ¬ (old.symbol.isSome ∧ evidence.symbol.isSome ∧ old.symbol ≠ evidence.symbol))
        (.store (.stateConflict "FEE_ACTIVITY_CONFLICT"))
      if old.symbol.isSome ∨ evidence.symbol = none then pure old
      else do
        moveFeeCursor stored
        putFee contentId (.fee evidence)
        pure evidence
  | none =>
    moveFeeCursor stored
    putFee contentId (.fee evidence)
    pure evidence

structure FeeCall where
  account : String
  evidence : CryptoFeeActivity
  receivedAt : Int

def FeeCall.run (contentId : FeeContentId) (c : FeeCall) : FeeTxn PUnit := do
  let _ ← retainFeeActivityOf contentId c.account c.evidence c.receivedAt
  pure ⟨⟩

/-- The cursor a call that stores its evidence leaves. -/
def FeeCall.cursor (contentId : FeeContentId) (c : FeeCall) : SourceCursor :=
  ⟨contentId (.feeCursor c.account c.evidence.activityId), c.receivedAt,
    contentId (.document (.fee c.evidence))⟩

/-- The calls of one transaction, in order. -/
def retainAll (contentId : FeeContentId) (calls : List FeeCall) : FeeTxn PUnit :=
  calls.forM (FeeCall.run contentId)

/-- Transactions of calls, one after the other; one that raises writes nothing. -/
def feeCalls (contentId : FeeContentId) : LTS FeeStore (List FeeCall) where
  init _ := True
  step s calls s' := s' = after (immediate (retainAll contentId calls)) s

/-- The activity stored for an account. -/
def FeeStore.retained? (contentId : FeeContentId) (s : FeeStore) (account activityId : String) :
    Option CryptoFeeActivity :=
  (s.core.sourceCursors.get? (contentId (.feeCursor account activityId))).bind fun c =>
    (s.document? c.eventId).bind FeeDocument.fee?

/-! ## What a call keeps -/

/-- A later reading of an activity: the raw row is the same, a symbol that is known stays. -/
structure Reread (f f' : CryptoFeeActivity) : Prop where
  digest : f'.rawDigest = f.rawDigest
  symbol : f.symbol.isSome = true → f'.symbol = f.symbol

theorem Reread.refl (f : CryptoFeeActivity) : Reread f f := ⟨rfl, fun _ => rfl⟩

variable {f : CryptoFeeActivity}

theorem Reread.trans {f' f'' : CryptoFeeActivity} (h : Reread f f') (h' : Reread f' f'') :
    Reread f f'' := by
  refine ⟨h'.digest.trans h.digest, fun hsome => ?_⟩
  have hsymbol := h.symbol hsome
  rw [h'.symbol (by rw [hsymbol]; exact hsome), hsymbol]

theorem Reread.unknown {f' : CryptoFeeActivity} (h : Reread f f') (hne : f'.symbol ≠ f.symbol) :
    f.symbol = none ∧ f'.symbol.isSome = true := by
  cases hf : f.symbol with
  | some symbol => exact absurd (h.symbol (by rw [hf]; rfl)) hne
  | none =>
    rw [hf] at hne; exact ⟨rfl, Option.isSome_iff_ne_none.2 hne⟩

/-- Every activity that is retained stays so. -/
def Identified (contentId : FeeContentId) (s s' : FeeStore) : Prop :=
  ∀ account id f, s.retained? contentId account id = some f →
    ∃ f', s'.retained? contentId account id = some f' ∧ Reread f f'

instance : IsPreorder FeeStore (Identified contentId) where
  refl _ _ _ f hf := ⟨f, hf, .refl f⟩
  trans _ _ _ h h' account id f hf := by
    obtain ⟨f', hf', hread⟩ := h account id f hf
    obtain ⟨f'', hf'', hread'⟩ := h' account id f' hf'
    exact ⟨f'', hf'', hread.trans hread'⟩

/-- The evidence is that of the activity stored under its key. -/
def Known (contentId : FeeContentId) (s : FeeStore) (c : FeeCall) : Prop :=
  ∃ f, s.retained? contentId c.account c.evidence.activityId = some f ∧ Reread c.evidence f

variable {c : FeeCall} {s s' : FeeStore}

theorem Known.kept (h : Known contentId s c) (hs : Identified contentId s s') :
    Known contentId s' c := by
  obtain ⟨f, hf, hread⟩ := h; obtain ⟨f', hf', hread'⟩ := hs _ _ f hf
  exact ⟨f', hf', hread.trans hread'⟩

theorem retained?_some {account id : String} : s.retained? contentId account id = some f ↔
      ∃ c, s.core.sourceCursors.get? (contentId (.feeCursor account id)) = some c ∧
        s.document? c.eventId = some (.fee f) := by
  unfold FeeStore.retained?; rw [Option.bind_eq_some_iff]
  refine exists_congr fun c => and_congr_right fun _ => ?_
  rw [Option.bind_eq_some_iff]; constructor
  · rintro ⟨d, hd, hfee⟩; rw [fee?_some.1 hfee] at hd; exact hd
  · intro hd; exact ⟨_, hd, rfl⟩

/-- Evidence is stored under its key, and what was stored there is read again in it. -/
structure Named (contentId : FeeContentId) (c : FeeCall) (s s' : FeeStore) : Prop where
  documents : ∀ r ∈ s.acquisitions.rows, r ∈ s'.acquisitions.rows
  stored : s'.document? (contentId (.document (.fee c.evidence))) = some (.fee c.evidence)
  cursors : s'.core.sourceCursors = s.core.sourceCursors.upsert (c.cursor contentId)
  same : ∀ f, s.retained? contentId c.account c.evidence.activityId = some f → Reread f c.evidence

theorem named_of_store {c : FeeCall} {s s' : FeeStore} {f : CryptoFeeActivity}
    (h : (do
      moveFeeCursor (c.cursor contentId)
      putFee contentId (.fee c.evidence)
      pure c.evidence : FeeTxn _) s = .ok f s')
    (hsame : ∀ f, s.retained? contentId c.account c.evidence.activityId = some f →
      Reread f c.evidence) : Named contentId c s s' := by
  rw [bind_ok] at h; obtain ⟨_, s₁, hmove, h⟩ := h
  rw [moveFeeCursor, modify_ok] at hmove; rw [bind_ok] at h
  obtain ⟨_, s₂, hput, h⟩ := h; obtain ⟨rfl, rfl⟩ := pure_ok.1 h
  have haside : Aside contentId (fun _ => True) s₁ s₂ :=
    putFee_aside (fun _ _ => trivial) _ _ _ hput
  refine ⟨fun r hr => haside.noted.documents r ?_, putFee_stored hput, ?_, hsame⟩
  · rw [hmove]; exact hr
  · rw [putFee_core hput, hmove]

/-- A call that returns stores the evidence, or finds it known and writes nothing. -/
theorem retainFeeActivityOf_ok
    (h : retainFeeActivityOf contentId c.account c.evidence c.receivedAt s = .ok f s') :
    Named contentId c s s' ∨ s' = s ∧ Known contentId s c := by
  unfold retainFeeActivityOf at h; rw [bind_ok] at h
  obtain ⟨_, s₀, hget, h⟩ := h; obtain ⟨rfl, rfl⟩ := get_ok.1 hget
  cases hc : s₀.core.sourceCursors.get?
      (contentId (.feeCursor c.account c.evidence.activityId)) with
  | none =>
    simp only [hc] at h; refine .inl (named_of_store h fun f hf => ?_)
    obtain ⟨cursor, hcursor, _⟩ := retained?_some.1 hf
    cases hc.symm.trans hcursor
  | some cursor =>
    simp only [hc] at h
    cases hold : (s₀.document? cursor.eventId).bind FeeDocument.fee? with
    | none => simp only [hold, throw_ok] at h
    | some old =>
      simp only [hold] at h
      have hretained : s₀.retained? contentId c.account c.evidence.activityId = some old := by
        unfold FeeStore.retained?; rw [hc, Option.bind_some, hold]
      rw [bind_ok] at h; obtain ⟨_, s₁, hrequire, h⟩ := h
      obtain ⟨⟨hdigest, hsymbol⟩, rfl⟩ := require_ok.1 hrequire; split at h
      · rename_i hkept; obtain ⟨_, rfl⟩ := pure_ok.1 h
        refine .inr ⟨rfl, old, hretained, hdigest, fun hsome => ?_⟩
        by_contra hne; rcases hkept with hkept | hkept
        · exact hsymbol ⟨hkept, hsome, hne⟩
        · rw [hkept] at hsome; cases hsome
      · rename_i hunread; refine .inl (named_of_store h fun f hf => ?_)
        cases hretained.symm.trans hf
        exact ⟨hdigest.symm, fun hsome => absurd (.inl hsome) hunread⟩

/-- **One call.** Another key is read as before, its own as the evidence. -/
theorem Named.identified (h : Named contentId c s s') : Identified contentId s s' := by
  intro account id f hf
  obtain ⟨cursor, hcursor, hdocument⟩ := retained?_some.1 hf
  by_cases hkey : contentId (.feeCursor c.account c.evidence.activityId) =
      contentId (.feeCursor account id)
  · refine ⟨c.evidence, retained?_some.2 ⟨c.cursor contentId, ?_, h.stored⟩, h.same f ?_⟩
    · rw [h.cursors, Table.get?_upsert, if_pos]; exact hkey
    · exact retained?_some.2 ⟨cursor, by rw [hkey]; exact hcursor, hdocument⟩
  · refine ⟨f, retained?_some.2 ⟨cursor, ?_, document?_kept h.documents hdocument⟩, .refl f⟩
    rw [h.cursors, Table.get?_upsert, if_neg]
    · exact hcursor
    · exact hkey

theorem Named.known (h : Named contentId c s s') : Known contentId s' c := by
  refine ⟨c.evidence, retained?_some.2 ⟨c.cursor contentId, ?_, h.stored⟩, .refl _⟩
  rw [h.cursors, Table.get?_upsert, if_pos]; rfl

theorem FeeCall.run_ok {u : PUnit} (h : c.run contentId s = .ok u s') :
    Identified contentId s s' ∧ Known contentId s' c := by
  unfold FeeCall.run at h; rw [bind_ok] at h; obtain ⟨f, s₁, hretain, h⟩ := h
  obtain ⟨_, rfl⟩ := pure_ok.1 h
  rcases retainFeeActivityOf_ok hretain with hnamed | ⟨rfl, hknown⟩
  · exact ⟨hnamed.identified, hnamed.known⟩
  · exact ⟨refl_of (Identified contentId) _, hknown⟩

/-! ## Transactions and runs -/

theorem retainAll_cons (c : FeeCall) (calls : List FeeCall) :
    retainAll contentId (c :: calls) = (do c.run contentId; retainAll contentId calls) := rfl

theorem retainAll_identified (calls : List FeeCall) :
    Moves (Identified contentId) (retainAll contentId calls) :=
  .forM (R := Identified contentId) (fun _ _ _ _ h => (FeeCall.run_ok h).1) calls

theorem retainAll_known {calls : List FeeCall} {u : PUnit}
    (h : retainAll contentId calls s = .ok u s') (hc : c ∈ calls) : Known contentId s' c := by
  induction calls generalizing s with
  | nil => cases hc
  | cons first calls ih =>
    rw [retainAll_cons, bind_ok] at h; obtain ⟨_, s₁, hfirst, hrest⟩ := h
    rcases List.mem_cons.1 hc with rfl | hc
    · exact (FeeCall.run_ok hfirst).2.kept (retainAll_identified calls _ _ _ hrest)
    · exact ih hrest hc

theorem Known.replay (h : Known contentId s c) (t : Int) :
    ∃ f, retainFeeActivityOf contentId c.account c.evidence t s = .ok f s := by
  obtain ⟨f, hf, hread⟩ := h
  obtain ⟨cursor, hcursor, hdocument⟩ := retained?_some.1 hf; refine ⟨f, ?_⟩
  unfold retainFeeActivityOf; rw [bind_ok]; refine ⟨s, s, rfl, ?_⟩
  simp only [hcursor, hdocument, Option.bind_some, FeeDocument.fee?]
  rw [bind_ok]; refine ⟨⟨⟩, s, require_ok.2 ⟨⟨hread.digest, ?_⟩, rfl⟩, ?_⟩
  · rintro ⟨_, hsome, hne⟩; exact hne (hread.symbol hsome)
  · rw [if_pos]
    · rfl
    cases hsymbol : c.evidence.symbol with
    | none => exact .inr rfl
    | some symbol =>
      rw [hread.symbol (by rw [hsymbol]; rfl), hsymbol]; exact .inl rfl

theorem feeCalls_identified {ls : List (List FeeCall)} (h : (feeCalls contentId).Run s ls s') :
    Identified contentId s s' := by
  refine h.rel (P := fun _ => True) (refl_of (Identified contentId))
    (fun _ _ _ => trans_of (Identified contentId))
    (fun _ _ _ _ _ => trivial) (fun s calls s' _ hstep => ?_) trivial
  obtain rfl : s' = _ := hstep; exact (retainAll_identified calls).after s

/-- **An activity keeps its identity.** In every run, from any store: the raw digest of an
activity that is retained is the same in every later store, and a symbol that differs in a later
one was unknown before, is known there and is the same ever after. A call of a transaction that
committed can be made again in every later store, and writes nothing there. -/
theorem fee_identity {s s' s'' : FeeStore} {ls ls' : List (List FeeCall)}
    (h : (feeCalls contentId).Run s ls s') (h' : (feeCalls contentId).Run s' ls' s'') :
    (∀ account id f, s.retained? contentId account id = some f →
      ∃ f' f'', s'.retained? contentId account id = some f' ∧
        s''.retained? contentId account id = some f'' ∧
        f'.rawDigest = f.rawDigest ∧ f''.rawDigest = f.rawDigest ∧ (f'.symbol ≠ f.symbol →
          f.symbol = none ∧ f'.symbol.isSome = true ∧ f''.symbol = f'.symbol)) ∧
    (∀ calls u, retainAll contentId calls s = .ok u s' → ∀ c ∈ calls, ∀ t,
      ∃ f, retainFeeActivityOf contentId c.account c.evidence t s'' = .ok f s'') := by
  have hlater := feeCalls_identified h'
  refine ⟨fun account id f hf => ?_, fun calls u hrun c hc t => ?_⟩
  · obtain ⟨f', hf', hread⟩ := feeCalls_identified h account id f hf
    obtain ⟨f'', hf'', hread'⟩ := hlater account id f' hf'
    refine ⟨f', f'', hf', hf'', hread.digest, hread'.digest.trans hread.digest, fun hne => ?_⟩
    obtain ⟨hnone, hsome⟩ := hread.unknown hne
    exact ⟨hnone, hsome, hread'.symbol hsome⟩
  · exact ((retainAll_known hrun hc).kept hlater).replay t

/-! ## A symbol found later -/

/-- An id for each reading of an activity. -/
def readingLabel : FeeContentId
  | .document (.fee f) => "fee:" ++ f.activityId ++ "@" ++ f.symbol.getD ""
  | content => feeLabel content

/-- A fee row read before the broker's asset list names its pair, or after. -/
def coinCall (symbol : Option String) (t : Int) : FeeCall where
  account := "PA1"
  receivedAt := t
  evidence :=
    { activityId := "A1"
      activityType := "CFEE"
      rawSymbol := some "BTCUSD"
      symbol := symbol
      assetCurrency := symbol.map baseAsset
      quantityDelta := some (-1 / 100)
      netCash := 0
      reportedPrice := none
      rawDate := none
      timePrecision := .timestamp
      effectiveAt := some 4
      postedAt := none
      status := some "executed"
      fillId := none
      orderId := none
      sourceDocumentId := "s1"
      rawDigest := "raw:A1" }

def unnamedStore : FeeStore :=
  after (immediate (retainAll readingLabel [coinCall none 5])) coinStore

def namedStore : FeeStore :=
  after (immediate (retainAll readingLabel [coinCall (some "BTC/USD") 6])) unnamedStore

theorem fee_identity_named :
    (∃ f, unnamedStore.retained? readingLabel "PA1" "A1" = some f ∧ f.symbol = none) ∧
    (∃ f, namedStore.retained? readingLabel "PA1" "A1" = some f ∧
      f.symbol = some "BTC/USD" ∧ f.rawDigest = "raw:A1") ∧
    ∃ f, retainFeeActivityOf readingLabel "PA1" (coinCall none 5).evidence 7 namedStore =
      .ok f namedStore := by
  have hfirst : (feeCalls readingLabel).Run coinStore [[coinCall none 5]] unnamedStore :=
    .cons rfl (.nil _)
  have hsecond : (feeCalls readingLabel).Run unnamedStore [[coinCall (some "BTC/USD") 6]]
      namedStore := .cons rfl (.nil _)
  have hran : retainAll readingLabel [coinCall none 5] coinStore = .ok ⟨⟩ unnamedStore := by
    obtain ⟨s', hs'⟩ : Returns (retainAll readingLabel [coinCall none 5]) coinStore ⟨⟩ := by
      decide
    rw [unnamedStore, after_ok (immediate_ok.2 hs'), hs']
  refine ⟨⟨(coinCall none 5).evidence, by decide +kernel, rfl⟩, ?_, ?_⟩
  · obtain ⟨f', _, hf', _, hdigest, _⟩ :=
      (fee_identity hsecond (.nil _)).1 "PA1" "A1" (coinCall none 5).evidence (by decide +kernel)
    refine ⟨f', hf', ?_, hdigest⟩
    have hnow : namedStore.retained? readingLabel "PA1" "A1" =
        some (coinCall (some "BTC/USD") 6).evidence := by decide +kernel
    cases hnow.symm.trans hf'; rfl
  · exact (fee_identity hfirst hsecond).2 _ _ hran _ List.mem_cons_self 7

end Quantbot.L4.Fees
