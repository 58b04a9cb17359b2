import Quantbot.L4PaperCore.FeeVerifier

/-!
# The pages of a fee query

`acquire_order_fee_sources` (`paper_core/crypto_fee_allocation.py:229-331`) asks for at most four
pages of an order's activities; `_query_valid` reads the pages again where they are used.

The broker is an arbitrary sequence of replies, an item that is no object being `none`; a
request that raises names its error. The order asked about is an input.

Results:
* `walk_valid`: pages of a walk that ended well pass the reader's checks.
* `pagesValid_chain`: what pages that pass are.
* `fee_query_agree`: both, for whole sources.
-/
namespace Quantbot.L4.Fees

open Core L1

variable {contentId : FeeContentId}

/-! ## The walk -/

/-- A reply to a page request. -/
inductive FeeReply
  | failed (error : String)
  | page (items : List (Option RawActivity))

/-- Pages fetched, whether the last was short, and why not. -/
structure FeeWalk where
  pages : List OrderFeeQueryPage
  complete : Bool
  objections : List String

def unavailable (error : String) : String := "CRYPTO_FEE_QUERY_UNAVAILABLE:" ++ error

/-- The ids of a page join those seen; a page of another order or with an id twice is refused.
mirrors crypto_fee_allocation.py:303-309 -/
def seenAfter (orderId : String) : List String → List RawActivity → Option (List String)
  | seen, [] => some seen
  | seen, raw :: rest =>
    match raw.textId with
    | none => none
    | some id =>
      if id ∈ seen then none
      else if raw.orderId.any (· ≠ orderId) then none
      else seenAfter orderId (id :: seen) rest

/-- The rounds of the loop that are left, the first reply being the next.
mirrors crypto_fee_allocation.py:290-317 -/
def walkFeePages (orderId : String) : ℕ → (ℕ → FeeReply) → Option String → List String →
    List OrderFeeQueryPage → FeeWalk
  | 0, _, _, _, pages => ⟨pages, false, ["CRYPTO_FEE_QUERY_PAGE_LIMIT"]⟩
  | n + 1, replies, token, seen, pages =>
    match replies 0 with
    | .failed error => ⟨pages, false, [unavailable error]⟩
    | .page items =>
      if 100 < items.length ∨ none ∈ items then ⟨pages, false, [unavailable "BrokerProtocolError"]⟩
      else
        let rows := items.filterMap id
        match seenAfter orderId seen rows with
        | none => ⟨pages ++ [⟨token, rows⟩], false, [unavailable "BrokerProtocolError"]⟩
        | some seen =>
          if items.length < 100 then ⟨pages ++ [⟨token, rows⟩], true, []⟩
          else walkFeePages orderId n (fun i => replies (i + 1))
            (rows.getLast?.bind RawActivity.textId) seen (pages ++ [⟨token, rows⟩])

/-- The source for one order.
mirrors crypto_fee_allocation.py:286-331 -/
def acquireOrderFeeSource (contentId : FeeContentId) (s : FeeStore) (now : Int)
    (basis : OwnedFeeBasis) (observedActivityIds : List String)
    (symbolAliases : List (String × String)) (replies : ℕ → FeeReply) : OrderFeeQueryEvidence :=
  let walk := walkFeePages basis.orderId 4 replies none [] []
  { recordedAt := now
    binding := s.binding
    basis := basis
    requestOrderId := basis.orderId
    pages := walk.pages
    protocolComplete := walk.complete
    objections := walk.objections
    observedActivityIds := observedActivityIds
    symbolAliases := symbolAliases
    rawDigest := contentId (.pages walk.pages) }

/-! ## What the walk fetches passes -/

variable {orderId : String} {rows : List RawActivity}

theorem rowsValid_iff_seenAfter {seen : List String} :
    rowsValid orderId seen rows = true ↔ (seenAfter orderId seen rows).isSome := by
  induction rows generalizing seen with
  | nil => exact ⟨fun _ => rfl, fun _ => rfl⟩
  | cons raw rows ih =>
    unfold rowsValid seenAfter
    cases raw.textId with
    | none => simp
    | some id =>
      by_cases hseen : id ∈ seen
      · simp [hseen]
      cases horder : raw.orderId with
      | none => simp [hseen, ih]
      | some o =>
        by_cases ho : o = orderId
        · simp [hseen, ho, ih]
        · simp [hseen, ho]

variable {seen seen' : List String}

theorem mem_seenAfter (h : seenAfter orderId seen rows = some seen') {id : String} :
    id ∈ seen' ↔ id ∈ rows.filterMap RawActivity.textId ++ seen := by
  induction rows generalizing seen with
  | nil =>
    cases h; exact Iff.rfl
  | cons raw rows ih =>
    unfold seenAfter at h
    cases hid : raw.textId with
    | none =>
      simp only [hid] at h; cases h
    | some first =>
      simp only [hid] at h; split at h
      · cases h
      split at h
      · cases h
      rw [ih h, List.filterMap_cons_some hid]
      simp only [List.mem_append, List.mem_cons]; tauto

theorem rowsValid_congr
    (h : ∀ id, id ∈ seen ↔ id ∈ seen') : rowsValid orderId seen rows = rowsValid orderId seen' rows := by
  induction rows generalizing seen seen' with
  | nil => rfl
  | cons raw rows ih =>
    unfold rowsValid
    cases raw.textId with
    | none => rfl
    | some id =>
      have hcons : ∀ x, x ∈ id :: seen ↔ x ∈ id :: seen' := by
        intro x; rw [List.mem_cons, List.mem_cons, h x]
      simp only [h id, ih hcons]

theorem pagesValid_congr {token : Option String}
    {pages : List OrderFeeQueryPage} (h : ∀ id, id ∈ seen ↔ id ∈ seen') :
    pagesValid orderId token seen pages = pagesValid orderId token seen' pages := by
  induction pages generalizing token seen seen' with
  | nil => rfl
  | cons page pages ih =>
    unfold pagesValid
    have hrest : ∀ id, id ∈ page.rows.filterMap RawActivity.textId ++ seen ↔
        id ∈ page.rows.filterMap RawActivity.textId ++ seen' := by
      intro id; rw [List.mem_append, List.mem_append, h id]
    rw [rowsValid_congr h, ih hrest]

theorem filterMap_id_length {items : List (Option RawActivity)} (h : none ∉ items) :
    (items.filterMap id).length = items.length := by
  induction items with
  | nil => rfl
  | cons item items ih =>
    cases item with
    | none => exact absurd List.mem_cons_self h
    | some raw =>
      have hrest := ih fun hmem => h (List.mem_cons_of_mem _ hmem)
      exact congrArg (· + 1) hrest

/-- A walk that ends well adds pages that pass, one at least and one for each round at most. -/
theorem walk_valid {n : ℕ} {replies : ℕ → FeeReply} {token : Option String}
    {seen : List String} {pages : List OrderFeeQueryPage}
    (h : (walkFeePages orderId n replies token seen pages).complete = true) :
    ∃ fetched, (walkFeePages orderId n replies token seen pages).pages = pages ++ fetched ∧
      fetched ≠ [] ∧ fetched.length ≤ n ∧ pagesValid orderId token seen fetched = true ∧
      (walkFeePages orderId n replies token seen pages).objections = [] := by
  induction n generalizing replies token seen pages with
  | zero => cases h
  | succ n ih =>
    unfold walkFeePages at h ⊢
    cases hreply : replies 0 with
    | failed error =>
      simp only [hreply] at h; cases h
    | page items =>
      simp only [hreply] at h ⊢; split at h
      · cases h
      rename_i hgood; rw [not_or, not_lt] at hgood
      rw [if_neg (not_or.2 ⟨not_lt.2 hgood.1, hgood.2⟩)]
      have hlength := filterMap_id_length hgood.2
      cases hseen : seenAfter orderId seen (items.filterMap id) with
      | none =>
        simp only [hseen] at h; cases h
      | some seen' =>
        simp only [hseen] at h ⊢
        have hrows : rowsValid orderId seen (items.filterMap id) = true :=
          rowsValid_iff_seenAfter.2 (by rw [hseen]; rfl)
        split at h
        · rename_i hshort; rw [if_pos hshort]
          refine ⟨[⟨token, items.filterMap id⟩], rfl, List.cons_ne_nil _ _, ?_, ?_, rfl⟩
          · exact Nat.succ_le_succ (Nat.zero_le n)
          unfold pagesValid
          simp only [hlength, hrows, hgood.1, hshort, pagesValid, decide_true, if_true,
            Bool.and_self]
        · rename_i hfull; rw [if_neg hfull]
          obtain ⟨fetched, hpages, hne, hcount, hvalid, hnone⟩ := ih h
          refine ⟨⟨token, items.filterMap id⟩ :: fetched, ?_, List.cons_ne_nil _ _,
            Nat.succ_le_succ hcount, ?_, hnone⟩
          · rw [hpages, List.append_assoc]; rfl
          · have hexact : items.length = 100 := by omega
            rw [pagesValid_congr fun _ => mem_seenAfter hseen] at hvalid
            unfold pagesValid
            simp only [hlength, hexact, hrows, hvalid, if_neg hne, le_refl, decide_true,
              Bool.and_self]

/-! ## What passes is a chain -/

/-- The token a page is asked for with, after the pages before it. -/
def tokenAfter (token : Option String) (before : List OrderFeeQueryPage) : Option String :=
  match before.getLast? with
  | none => token
  | some page => page.rows.getLast?.bind RawActivity.textId

theorem pagesValid_page {token : Option String} {seen : List String}
    {before after : List OrderFeeQueryPage} {page : OrderFeeQueryPage}
    (h : pagesValid orderId token seen (before ++ page :: after) = true) :
    page.pageToken = tokenAfter token before ∧ page.rows.length ≤ 100 ∧
      (after ≠ [] → page.rows.length = 100) ∧ (after = [] → page.rows.length < 100) ∧
      ∃ seen', rowsValid orderId seen' page.rows = true := by
  induction before generalizing token seen with
  | nil =>
    rw [List.nil_append] at h; unfold pagesValid at h
    simp only [Bool.and_eq_true, decide_eq_true_eq] at h
    obtain ⟨⟨⟨⟨htoken, hcap⟩, hfull⟩, hrows⟩, _⟩ := h
    refine ⟨htoken, hcap, fun hne => ?_, fun hnil => ?_, seen, hrows⟩
    · rw [if_neg hne] at hfull; exact of_decide_eq_true hfull
    · rw [if_pos hnil] at hfull; exact of_decide_eq_true hfull
  | cons first before ih =>
    rw [List.cons_append] at h; unfold pagesValid at h
    rw [Bool.and_eq_true] at h; obtain ⟨htoken, hrest⟩ := ih h.2
    refine ⟨htoken.trans ?_, hrest⟩
    cases before with
    | nil => rfl
    | cons second before =>
      unfold tokenAfter
      rw [List.getLast?_cons_cons, List.getLast?_eq_some_getLast (List.cons_ne_nil _ _)]

theorem rowsValid_order {seen : List String}
    (h : rowsValid orderId seen rows = true) : ∀ raw ∈ rows, ∀ o ∈ raw.orderId, o = orderId := by
  induction rows generalizing seen with
  | nil => exact fun raw hraw => absurd hraw List.not_mem_nil
  | cons first rows ih =>
    unfold rowsValid at h
    cases hid : first.textId with
    | none =>
      simp only [hid] at h; cases h
    | some id =>
      simp only [hid, Bool.and_eq_true] at h; obtain ⟨⟨_, horder⟩, hrest⟩ := h
      intro raw hraw; rcases List.mem_cons.1 hraw with rfl | hraw
      · intro o ho; rw [ho] at horder; simpa using horder
      · exact ih hrest raw hraw

/-- Pages in a chain: each token is the last id of the page before, the pages before the last
are full and the last is short, no id repeats, and no row is another order's. -/
structure Chain (orderId : String) (pages : List OrderFeeQueryPage) : Prop where
  nonempty : pages ≠ []
  capped : pages.length ≤ 4
  first : ∀ page rest, pages = page :: rest → page.pageToken = none
  linked : ∀ before page next after, pages = before ++ page :: next :: after →
    ∃ raw id, page.rows.getLast? = some raw ∧ raw.textId = some id ∧ next.pageToken = some id
  full : ∀ before page after, pages = before ++ page :: after → after ≠ [] → page.rows.length = 100
  short : ∀ before page, pages = before ++ [page] → page.rows.length < 100
  ids : ∀ raw ∈ pages.flatMap (·.rows), ∃ id, raw.textId = some id
  distinct : ((pages.flatMap (·.rows)).map RawActivity.textId).Nodup
  own : ∀ raw ∈ pages.flatMap (·.rows), ∀ o ∈ raw.orderId, o = orderId

theorem pagesValid_chain {pages : List OrderFeeQueryPage} (hne : pages ≠ [])
    (hcap : pages.length ≤ 4) (h : pagesValid orderId none [] pages = true) :
    Chain orderId pages := by
  obtain ⟨hnodup, hids⟩ := pagesValid_ids h
  have hfull : ∀ before page after, pages = before ++ page :: after → after ≠ [] →
      page.rows.length = 100 := by
    intro before page after hpages hafter; rw [hpages] at h
    obtain ⟨_, _, hlength, _⟩ := pagesValid_page h; exact hlength hafter
  refine ⟨hne, hcap, ?_, ?_, hfull, ?_, fun raw hraw => ?_, hnodup, fun raw hraw => ?_⟩
  · rintro page rest rfl
    obtain ⟨htoken, _⟩ := @pagesValid_page orderId none [] [] rest page h
    exact htoken
  · intro before page next after hpages
    have hlength := hfull before page (next :: after) hpages (List.cons_ne_nil _ _)
    obtain ⟨raw, hraw⟩ : ∃ raw, page.rows.getLast? = some raw := by
      cases hlast : page.rows.getLast? with
      | some raw => exact ⟨raw, rfl⟩
      | none =>
        rw [List.getLast?_eq_none_iff.1 hlast] at hlength; cases hlength
    have hmem : raw ∈ pages.flatMap (·.rows) := by
      rw [List.mem_flatMap]
      exact ⟨page, by rw [hpages]; exact List.mem_append_right _ List.mem_cons_self,
        List.mem_of_getLast? hraw⟩
    obtain ⟨id, hid, _⟩ := hids raw hmem; refine ⟨raw, id, hraw, hid, ?_⟩
    have hsplit : pages = (before ++ [page]) ++ next :: after := by
      rw [hpages, List.append_assoc]; rfl
    rw [hsplit] at h; obtain ⟨htoken, _⟩ := pagesValid_page h; rw [htoken]
    unfold tokenAfter; rw [List.getLast?_concat]
    simp only [hraw, Option.bind_some, hid]
  · intro before page hpages; rw [hpages] at h
    obtain ⟨_, _, _, hlength, _⟩ := pagesValid_page h; exact hlength rfl
  · obtain ⟨id, hid, _⟩ := hids raw hraw; exact ⟨id, hid⟩
  · obtain ⟨page, hpage, hin⟩ := List.mem_flatMap.1 hraw
    obtain ⟨before, after, hpages⟩ := List.append_of_mem hpage; rw [hpages] at h
    obtain ⟨_, _, _, _, seen, hrows⟩ := pagesValid_page h
    exact rowsValid_order hrows raw hin

/-! ## Producer and validator -/

/-- The clauses of `_query_valid` about the pages.
mirrors crypto_fee_allocation.py:350-386 -/
def pagingValid (source : OrderFeeQueryEvidence) : Bool :=
  decide (source.protocolComplete = true ∧ source.objections = [] ∧ source.pages ≠ [] ∧
    source.pages.length ≤ 4 ∧ source.requestOrderId = source.basis.orderId) &&
  pagesValid source.requestOrderId none [] source.pages

/-- The other clauses: the digest, the binding and the symbols' aliases. -/
def bindingValid (contentId : FeeContentId) (s : FeeStore) (source : OrderFeeQueryEvidence) : Bool :=
  decide (source.rawDigest = contentId (.pages source.pages) ∧
    source.binding.accountId = s.account ∧ source.binding.storeIdentity = s.storeIdentity ∧
    source.binding.configId = s.configId ∧ source.binding.releaseId = s.core.config.releaseId ∧
    source.binding.evidenceLane = s.core.config.evidenceLane) &&
  (source.symbolAliases.all fun p => (p.1 = p.2 ∨
    p.1 = String.ofList (p.2.toList.filter (· ≠ '/'))) ∧ endsWithUsd p.2)

theorem queryValid_iff {s : FeeStore} {source : OrderFeeQueryEvidence} :
    queryValid contentId s source = true ↔
      pagingValid source = true ∧ bindingValid contentId s source = true := by
  unfold queryValid pagingValid bindingValid
  simp only [Bool.and_eq_true, decide_eq_true_eq]; tauto

/-- **Producer and validator agree**: a source marked complete without objections passes the
paging clauses (and all of them in the store it was made in, its aliases apart), and a source
that passes is a chain of pages. -/
theorem fee_query_agree (s : FeeStore) :
    (∀ now basis observed aliases replies,
      let source := acquireOrderFeeSource contentId s now basis observed aliases replies
      source.protocolComplete = true → source.objections = [] →
        pagingValid source = true ∧
        ((aliases.all fun p => (p.1 = p.2 ∨ p.1 = String.ofList (p.2.toList.filter (· ≠ '/'))) ∧
          endsWithUsd p.2) = true → queryValid contentId s source = true)) ∧
    ∀ source, queryValid contentId s source = true →
      source.protocolComplete = true ∧ source.objections = [] ∧
        Chain source.basis.orderId source.pages := by
  constructor
  · intro now basis observed aliases replies source hcomplete _
    obtain ⟨fetched, hpages, hne, hcount, hvalid, hnone⟩ :=
      @walk_valid basis.orderId 4 replies none [] [] hcomplete
    have hfetched : source.pages = fetched := hpages
    have hpaging : pagingValid source = true := by
      unfold pagingValid
      rw [hfetched, show source.requestOrderId = basis.orderId from rfl, hvalid, Bool.and_true]
      exact decide_eq_true ⟨hcomplete, hnone, hne, hcount, rfl⟩
    refine ⟨hpaging, fun haliases => queryValid_iff.2 ⟨hpaging, ?_⟩⟩
    unfold bindingValid
    rw [show source.symbolAliases = aliases from rfl, haliases, Bool.and_true]
    exact decide_eq_true ⟨rfl, rfl, rfl, rfl, rfl, rfl⟩
  · intro source h
    obtain ⟨hpaging, _⟩ := queryValid_iff.1 h
    unfold pagingValid at hpaging
    rw [Bool.and_eq_true, decide_eq_true_eq] at hpaging
    obtain ⟨⟨hcomplete, hnone, hne, hcap, horder⟩, hvalid⟩ := hpaging
    exact ⟨hcomplete, hnone, horder ▸ pagesValid_chain hne hcap hvalid⟩

end Quantbot.L4.Fees
