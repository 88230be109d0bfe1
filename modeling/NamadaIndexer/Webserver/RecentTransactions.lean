import Mathlib.Data.List.Sort
import NamadaIndexer.Foundation.Json
import NamadaIndexer.Webserver.Gas

/-! The most recent transactions, filtered by kinds and tokens: once by the query for the wrapper
transactions, and once more in memory by the handler. -/
namespace NamadaIndexer.Webserver
open NamadaIndexer.Foundation NamadaIndexer.Shared NamadaIndexer.Transactions

/-- How the stored data is read as JSON, and how the database prints a JSON value. -/
structure JsonFormat where
  /-- `serde_json::from_str`, and the cast to `jsonb` -/
  fromStr : String → Option Json
  /-- the text of a `jsonb` value that is no string -/
  render : Json → String

def ITEM_PER_PAGE : UInt64 := 30

/-- `TransactionMostRecentQueryParams`. The kinds of the handler and of the database are the same
ones. -/
structure TransactionMostRecentQueryParams where
  offset : Option UInt64
  size : Option UInt64
  kind : List TransactionKindDb
  token : List String
  deriving DecidableEq, Repr

def regularKinds : List TransactionKindDb :=
  [.transparentTransfer,.shieldedTransfer,.shieldingTransfer,.unshieldingTransfer,.mixedTransfer]

def ibcKinds : List TransactionKindDb :=
  [.ibcTransparentTransfer,.ibcShieldingTransfer,.ibcUnshieldingTransfer]

section
variable (format : JsonFormat) (db : Db) (kinds : List TransactionKindDb) (tokens : List String)

/-- `find_inners_by_wrapper_tx` -/
def findInnersByWrapperTx (wrapperId : String) : List InnerTransactionDb :=
  db.innerTransactions.rows.filter fun inner => inner.wrapperId = wrapperId

/-- The data of an inner transaction. The data that is stored is always JSON. -/
def jsonOf (inner : InnerTransactionDb) : Option Json := inner.data.bind format.fromStr

/-- `COALESCE(inner_transactions.data::jsonb #>> .., '')` -/
def coalescedText (inner : InnerTransactionDb) (path : List String) : String :=
  ((jsonOf format inner).bind fun json => json.pathText format.render path).getD ""

def sourcesToken (inner : InnerTransactionDb) : String :=
  coalescedText format inner ["sources","0","token"]

def targetsToken (inner : InnerTransactionDb) : String :=
  coalescedText format inner ["targets","0","token"]

def ibcAccount (inner : InnerTransactionDb) : String :=
  coalescedText format inner ["0","Ibc","address","Account"]

def regularFilter (inner : InnerTransactionDb) : Bool :=
  regularKinds.contains inner.kind &&
    (tokens.contains (sourcesToken format inner) || tokens.contains (targetsToken format inner))

def ibcFilter (inner : InnerTransactionDb) : Bool :=
  ibcKinds.contains inner.kind && tokens.contains (ibcAccount format inner)

/-- The conditions of `find_recent_matching_wrappers` on one wrapper. -/
def matchingWrapper (wrapper : WrapperTransactionDb) : Bool :=
  (kinds.isEmpty ||
    (findInnersByWrapperTx db wrapper.id).any fun inner => kinds.contains inner.kind) &&
  (tokens.isEmpty ||
    (findInnersByWrapperTx db wrapper.id).any fun inner =>
      regularFilter format tokens inner || ibcFilter format tokens inner)

/-- One order of the stored wrappers, by descending height. -/
structure MostRecentFirst (listed : List WrapperTransactionDb) : Prop where
  perm : listed.Perm db.wrapperTransactions.rows
  sorted : listed.Pairwise fun a b => b.blockHeight ≤ a.blockHeight

/-- `OFFSET` and `LIMIT`. A negative number is an error. -/
def page {α : Type*} (rows : List α) (offset : Int64) (size : Int32) : Option (List α) :=
  if 0 ≤ offset ∧ 0 ≤ size then some ((rows.drop offset.toInt.toNat).take size.toInt.toNat)
  else none

/-- `find_most_recent_transactions` -/
def findMostRecentTransactions (listed : List WrapperTransactionDb) (offset : Int64)
    (size : Int32) : Option (List WrapperTransactionDb) :=
  page listed offset size

/-- `find_recent_matching_wrappers` -/
def findRecentMatchingWrappers (listed : List WrapperTransactionDb) (offset : Int64)
    (size : Int32) : Option (List WrapperTransactionDb) :=
  page (listed.filter (matchingWrapper format db kinds tokens)) offset size

/-- `str::eq_ignore_ascii_case` -/
def eqIgnoreAsciiCase (a b : String) : Bool :=
  a.toList.map Char.toLower == b.toList.map Char.toLower

def tokenMatches (candidate : String) : Bool :=
  tokens.any fun filterToken => eqIgnoreAsciiCase candidate filterToken

/-- The account of an IBC token. -/
def accountOf (item : Json) : Option String :=
  ((item.get? "Ibc").bind fun ibcObj => (ibcObj.get? "address").bind fun address =>
    address.get? "Account").bind Json.asStr

/-- The token of a source. -/
def tokenOf (src : Json) : Option String := (src.get? "token").bind Json.asStr

/-- `filter_inner_tx_by_tokens` -/
def filterInnerTxByTokens (inner : InnerTransactionDb) : Bool :=
  if tokens.isEmpty then true
  else
    match jsonOf format inner with
    | none => false
    | some json =>
      if ibcKinds.contains inner.kind then
        match json.asArray with
        | some items => items.any fun item => (accountOf item).any (tokenMatches tokens)
        | none => false
      else
        match (json.get? "sources").bind Json.asArray with
        | some sources => sources.any fun src => (tokenOf src).any (tokenMatches tokens)
        | none => false

/-- The inner transactions that the handler keeps. -/
def retained (inners : List InnerTransactionDb) : List InnerTransactionDb :=
  let inners := if kinds.isEmpty then inners
    else inners.filter fun inner => kinds.contains inner.kind
  if tokens.isEmpty then inners else inners.filter (filterInnerTxByTokens format tokens)

/-- What the handler makes of one wrapper. -/
def handled (sdk : Sdk) (tx : WrapperTransactionDb) :
    Option (WrapperTransactionDb × List InnerTransactionDb) :=
  let inners := findInnersByWrapperTx db (sdk.toLowercase tx.id)
  if !kinds.isEmpty || !tokens.isEmpty then
    let inners := retained format kinds tokens inners
    if inners.isEmpty then none else some (tx,inners)
  else some (tx,inners)

/-- The handler `get_most_recent_transactions`, for one order of the wrappers, up to the form of
the response. -/
def getMostRecentTransactions (sdk : Sdk) (listed : List WrapperTransactionDb)
    (query : TransactionMostRecentQueryParams) :
    Option (List (WrapperTransactionDb × List InnerTransactionDb)) := do
  let offset := (query.offset.getD 0).toInt64
  let size := asI32 (query.size.getD ITEM_PER_PAGE)
  let filtersPresent := !query.kind.isEmpty || !query.token.isEmpty
  let wrappers ←
    if !filtersPresent then findMostRecentTransactions listed offset size
    else findRecentMatchingWrappers format db query.kind query.token listed offset size
  return wrappers.filterMap (handled format db query.kind query.token sdk)

/-- The inner transaction passes both filters of the handler. -/
def passesFilter (inner : InnerTransactionDb) : Bool :=
  (kinds.isEmpty || kinds.contains inner.kind) && filterInnerTxByTokens format tokens inner

/-- There is no filter, or one of the inner transactions passes. -/
def shown (wrapper : WrapperTransactionDb) : Bool :=
  (kinds.isEmpty && tokens.isEmpty) ||
    (findInnersByWrapperTx db wrapper.id).any (passesFilter format kinds tokens)

/-- The query and the handler agree: a wrapper is selected if it is to be shown, a page is full
with such wrappers when there are enough of them, and none is dropped from it. -/
structure FiltersAgree (sdk : Sdk) : Prop where
  selected_iff : ∀ wrapper ∈ db.wrapperTransactions.rows,
    matchingWrapper format db kinds tokens wrapper = true ↔ shown format db kinds tokens wrapper = true
  full : ∀ listed, MostRecentFirst db listed → ∀ offset size entries,
    getMostRecentTransactions format db sdk listed ⟨offset,size,kinds,tokens⟩ = some entries →
    (size.getD ITEM_PER_PAGE).toNat ≤
      ((listed.filter (shown format db kinds tokens)).drop (offset.getD 0).toNat).length →
    entries.map Prod.fst = ((listed.filter (shown format db kinds tokens)).drop
      (offset.getD 0).toNat).take (size.getD ITEM_PER_PAGE).toNat
  nothing_dropped : ∀ listed, MostRecentFirst db listed → ∀ offset size entries,
    getMostRecentTransactions format db sdk listed ⟨offset,size,kinds,tokens⟩ = some entries →
    findRecentMatchingWrappers format db kinds tokens listed (offset.getD 0).toInt64
      (asI32 (size.getD ITEM_PER_PAGE)) = some (entries.map Prod.fst)

/-- What the query compares with the tokens: for a transfer the token of its first source and of
its first target, for an IBC transfer the account of its first entry. -/
def leadingTokens (inner : InnerTransactionDb) : List String :=
  if regularKinds.contains inner.kind then [sourcesToken format inner,targetsToken format inner]
  else if ibcKinds.contains inner.kind then [ibcAccount format inner]
  else []

/-- What the handler compares with them: the tokens of all sources, or all accounts. -/
def allTokens (inner : InnerTransactionDb) : List String :=
  if ibcKinds.contains inner.kind then
    (((jsonOf format inner).bind Json.asArray).getD []).filterMap accountOf
  else
    (((jsonOf format inner).bind fun json => (json.get? "sources").bind Json.asArray).getD
      []).filterMap tokenOf

/-- The kind is among the requested ones, if there are any. -/
def Requested (inner : InnerTransactionDb) : Prop := kinds = [] ∨ inner.kind ∈ kinds

instance (inner : InnerTransactionDb) : Decidable (Requested kinds inner) :=
  inferInstanceAs (Decidable (_ ∨ _))

/-- The stored transactions on which the two filters come to the same. Where a filter on tokens is
given, each wrapper must have a leading token of the filter in some transaction if it has a token
of it, up to case, in a requested one, and conversely if there are requested ones at all. And the
wrappers that are to be shown must be countable in 32 bits. -/
structure NothingApart : Prop where
  found : tokens ≠ [] → ∀ wrapper ∈ db.wrapperTransactions.rows,
    ∀ inner ∈ findInnersByWrapperTx db wrapper.id, Requested kinds inner →
    (∃ token ∈ allTokens format inner, ∃ wanted ∈ tokens, eqIgnoreAsciiCase token wanted = true) →
    ∃ other ∈ findInnersByWrapperTx db wrapper.id, ∃ token ∈ leadingTokens format other,
      token ∈ tokens
  kept : tokens ≠ [] → ∀ wrapper ∈ db.wrapperTransactions.rows,
    ∀ inner ∈ findInnersByWrapperTx db wrapper.id, Requested kinds inner →
    ∀ other ∈ findInnersByWrapperTx db wrapper.id,
    (∃ token ∈ leadingTokens format other, token ∈ tokens) →
    ∃ third ∈ findInnersByWrapperTx db wrapper.id, Requested kinds third ∧
      ∃ token ∈ allTokens format third, ∃ wanted ∈ tokens, eqIgnoreAsciiCase token wanted = true
  countable : (db.wrapperTransactions.rows.filter (shown format db kinds tokens)).length < 2^32

end

section
variable {sdk : Sdk} {format : JsonFormat} {db : Db} {kinds : List TransactionKindDb}
  {tokens : List String} {inner : InnerTransactionDb} {wrapper : WrapperTransactionDb}
  {listed : List WrapperTransactionDb}

lemma tokenMatches_eq_true {token : String} :
    tokenMatches tokens token = true ↔ ∃ wanted ∈ tokens, eqIgnoreAsciiCase token wanted = true := by
  rw [tokenMatches,List.any_eq_true]

/-- The conditions of the query on the tokens of one inner transaction. -/
lemma sqlFilter_eq_true :
    (regularFilter format tokens inner || ibcFilter format tokens inner) = true ↔
      ∃ token ∈ leadingTokens format inner, token ∈ tokens := by
  unfold regularFilter ibcFilter leadingTokens
  by_cases hregular : inner.kind ∈ regularKinds
  · have hibc : inner.kind ∉ ibcKinds := by
      revert hregular
      cases inner.kind <;> decide
    simp [hregular,hibc]
  · by_cases hibc : inner.kind ∈ ibcKinds
    · simp [hregular,hibc]
    · simp [hregular,hibc]

/-- The condition of the handler on the tokens of one inner transaction. -/
lemma filterInnerTxByTokens_eq_true (htokens : tokens ≠ []) :
    filterInnerTxByTokens format tokens inner = true ↔
      ∃ token ∈ allTokens format inner, ∃ wanted ∈ tokens, eqIgnoreAsciiCase token wanted = true := by
  have hany : ∀ (items : List Json) (field : Json → Option String),
      (items.any fun item => (field item).any (tokenMatches tokens)) = true ↔
        ∃ token ∈ items.filterMap field, ∃ wanted ∈ tokens,
          eqIgnoreAsciiCase token wanted = true := by
    intro items field
    simp only [List.any_eq_true,Option.any_eq_true,tokenMatches_eq_true,List.mem_filterMap]
    constructor
    · rintro ⟨item,hitem,token,htoken,hwanted⟩
      exact ⟨token,⟨item,hitem,htoken⟩,hwanted⟩
    · rintro ⟨token,⟨item,hitem,htoken⟩,hwanted⟩
      exact ⟨item,hitem,token,htoken,hwanted⟩
  have hempty : tokens.isEmpty = false := List.isEmpty_eq_false_iff.mpr htokens
  unfold filterInnerTxByTokens allTokens
  rw [hempty,if_neg Bool.false_ne_true]
  cases jsonOf format inner with
  | none => simp
  | some json =>
    dsimp only [Option.bind_some]
    split
    · cases json.asArray with
      | none => simp
      | some items => exact hany items accountOf
    · cases (json.get? "sources").bind Json.asArray with
      | none => simp
      | some sources => exact hany sources tokenOf

lemma requested_iff : (kinds.isEmpty || kinds.contains inner.kind) = true ↔ Requested kinds inner := by
  rw [Requested,Bool.or_eq_true,List.isEmpty_iff,List.contains_iff_mem]

lemma matchingWrapper_eq_true :
    matchingWrapper format db kinds tokens wrapper = true ↔
      (kinds = [] ∨ ∃ inner ∈ findInnersByWrapperTx db wrapper.id, inner.kind ∈ kinds) ∧
      (tokens = [] ∨ ∃ inner ∈ findInnersByWrapperTx db wrapper.id,
        ∃ token ∈ leadingTokens format inner, token ∈ tokens) := by
  simp only [matchingWrapper,Bool.and_eq_true,Bool.or_eq_true (List.isEmpty _),List.isEmpty_iff,
    List.any_eq_true,List.contains_iff_mem,sqlFilter_eq_true]

lemma passesFilter_eq_true :
    passesFilter format kinds tokens inner = true ↔ Requested kinds inner ∧
      (tokens = [] ∨ ∃ token ∈ allTokens format inner, ∃ wanted ∈ tokens,
        eqIgnoreAsciiCase token wanted = true) := by
  rw [passesFilter,Bool.and_eq_true,requested_iff]
  by_cases htokens : tokens = []
  · simp [htokens,filterInnerTxByTokens]
  · rw [filterInnerTxByTokens_eq_true htokens,or_iff_right htokens]

lemma shown_eq_true :
    shown format db kinds tokens wrapper = true ↔ (kinds = [] ∧ tokens = []) ∨
      ∃ inner ∈ findInnersByWrapperTx db wrapper.id, passesFilter format kinds tokens inner = true := by
  rw [shown,Bool.or_eq_true,Bool.and_eq_true,List.isEmpty_iff,List.isEmpty_iff,List.any_eq_true]

/-- Without a filter on tokens the two sides agree. -/
lemma matching_iff_shown_of_nil :
    matchingWrapper format db kinds [] wrapper = true ↔ shown format db kinds [] wrapper = true := by
  rw [matchingWrapper_eq_true,shown_eq_true]
  simp only [passesFilter_eq_true,true_or,and_true]
  by_cases hkinds : kinds = []
  · simp [hkinds]
  · simp [hkinds,Requested]

/-- With one they agree on a wrapper exactly if it is found and kept. -/
lemma matching_iff_shown (htokens : tokens ≠ []) :
    (matchingWrapper format db kinds tokens wrapper = true ↔
      shown format db kinds tokens wrapper = true) ↔
    (∀ inner ∈ findInnersByWrapperTx db wrapper.id, Requested kinds inner →
      (∃ token ∈ allTokens format inner, ∃ wanted ∈ tokens, eqIgnoreAsciiCase token wanted = true) →
      ∃ other ∈ findInnersByWrapperTx db wrapper.id, ∃ token ∈ leadingTokens format other,
        token ∈ tokens) ∧
    ∀ inner ∈ findInnersByWrapperTx db wrapper.id, Requested kinds inner →
      ∀ other ∈ findInnersByWrapperTx db wrapper.id,
      (∃ token ∈ leadingTokens format other, token ∈ tokens) →
      ∃ third ∈ findInnersByWrapperTx db wrapper.id, Requested kinds third ∧
        ∃ token ∈ allTokens format third, ∃ wanted ∈ tokens,
          eqIgnoreAsciiCase token wanted = true := by
  rw [matchingWrapper_eq_true,shown_eq_true]
  simp only [passesFilter_eq_true,htokens,false_or,and_false]
  constructor
  · intro h
    constructor
    · intro inner hinner hrequested hmoves
      exact (h.mpr ⟨inner,hinner,hrequested,hmoves⟩).2
    · intro inner hinner hrequested other hother hleads
      refine h.mp ⟨?_,other,hother,hleads⟩
      exact hrequested.imp_right fun hkind => ⟨inner,hinner,hkind⟩
  · rintro ⟨hfound,hkept⟩
    constructor
    · rintro ⟨hkinds,other,hother,hleads⟩
      rcases hkinds with hkinds | ⟨inner,hinner,hkind⟩
      · exact hkept other hother (.inl hkinds) other hother hleads
      · exact hkept inner hinner (.inr hkind) other hother hleads
    · rintro ⟨inner,hinner,hrequested,hmoves⟩
      refine ⟨hrequested.imp_right fun hkind => ⟨inner,hinner,hkind⟩,?_⟩
      exact hfound inner hinner hrequested hmoves

lemma retained_eq (inners : List InnerTransactionDb) :
    retained format kinds tokens inners = inners.filter (passesFilter format kinds tokens) := by
  have hpasses : passesFilter format kinds tokens = fun inner =>
      (kinds.isEmpty || kinds.contains inner.kind) && filterInnerTxByTokens format tokens inner := rfl
  rw [hpasses]
  unfold retained
  dsimp only
  cases kinds with
  | nil =>
    cases tokens with
    | nil => simp [filterInnerTxByTokens]
    | cons token tokens => simp
  | cons kind kinds =>
    cases tokens with
    | nil => simp [filterInnerTxByTokens]
    | cons token tokens => simp [List.filter_filter,Bool.and_comm]

lemma mem_of_mem_page {α : Type*} {rows found : List α} {offset : Int64} {size : Int32}
    (h : page rows offset size = some found) {a : α} (ha : a ∈ found) : a ∈ rows := by
  unfold page at h
  split at h
  · cases h
    exact List.mem_of_mem_drop (List.mem_of_mem_take ha)
  · contradiction

lemma filterMap_eq_map_filter {α β : Type*} {f : α → Option β} {p : α → Bool} {g : α → β}
    {l : List α} (h : ∀ a ∈ l, f a = if p a = true then some (g a) else none) :
    l.filterMap f = (l.filter p).map g := by
  induction l with
  | nil => rfl
  | cons a l ih =>
    rw [List.filterMap_cons,h a List.mem_cons_self,ih fun a ha => h a (List.mem_cons_of_mem _ ha),
      List.filter_cons]
    cases p a <;> rfl

lemma handled_eq (hid : sdk.toLowercase wrapper.id = wrapper.id) :
    handled format db kinds tokens sdk wrapper = if shown format db kinds tokens wrapper = true then
      some (wrapper,(findInnersByWrapperTx db wrapper.id).filter (passesFilter format kinds tokens))
    else none := by
  unfold handled
  dsimp only
  rw [hid,retained_eq]
  have hempty : ((findInnersByWrapperTx db wrapper.id).filter
      (passesFilter format kinds tokens)).isEmpty =
        !(findInnersByWrapperTx db wrapper.id).any (passesFilter format kinds tokens) := by
    rw [Bool.eq_iff_iff,List.isEmpty_iff,List.filter_eq_nil_iff,Bool.not_eq_true',List.any_eq_false]
  rw [hempty,shown]
  by_cases hfilters : kinds.isEmpty = true ∧ tokens.isEmpty = true
  · obtain ⟨hkinds,htokens⟩ := hfilters
    have hpasses : ∀ inner ∈ findInnersByWrapperTx db wrapper.id,
        passesFilter format kinds tokens inner = true := by
      intro inner _
      rw [passesFilter,hkinds,filterInnerTxByTokens,htokens]
      rfl
    rw [hkinds,htokens,List.filter_eq_self.mpr hpasses]
    rfl
  · have hpresent : (!kinds.isEmpty || !tokens.isEmpty) = true := by
      rw [Bool.or_eq_true,Bool.not_eq_true',Bool.not_eq_true']
      by_contra hnot
      simp only [not_or,Bool.not_eq_false] at hnot
      exact hfilters hnot
    have habsent : (kinds.isEmpty && tokens.isEmpty) = false := by
      rwa [Bool.and_eq_false_eq_eq_false_or_eq_false,←Bool.not_eq_true',←Bool.not_eq_true' tokens.isEmpty,
        ←Bool.or_eq_true]
    rw [if_pos hpresent,habsent,Bool.false_or]
    cases (findInnersByWrapperTx db wrapper.id).any (passesFilter format kinds tokens) <;> rfl

/-- Without filters the query selects every wrapper. -/
lemma findMostRecentTransactions_eq (listed : List WrapperTransactionDb) (offset : Int64)
    (size : Int32) :
    findMostRecentTransactions listed offset size =
      findRecentMatchingWrappers format db [] [] listed offset size := by
  have hall : listed.filter (matchingWrapper format db [] []) = listed :=
    List.filter_eq_self.mpr fun wrapper _ => rfl
  rw [findRecentMatchingWrappers,hall]
  rfl

/-- The answer of the handler, from the answer of the query. -/
lemma getMostRecentTransactions_eq
    (hids : ∀ wrapper ∈ db.wrapperTransactions.rows, sdk.toLowercase wrapper.id = wrapper.id)
    (hlisted : MostRecentFirst db listed) (offset size : Option UInt64) :
    getMostRecentTransactions format db sdk listed ⟨offset,size,kinds,tokens⟩ =
      (findRecentMatchingWrappers format db kinds tokens listed (offset.getD 0).toInt64
        (asI32 (size.getD ITEM_PER_PAGE))).map fun wrappers =>
          (wrappers.filter (shown format db kinds tokens)).map fun wrapper =>
            (wrapper,(findInnersByWrapperTx db wrapper.id).filter
              (passesFilter format kinds tokens)) := by
  unfold getMostRecentTransactions
  dsimp only
  have hanswer : (do
      let wrappers ← findRecentMatchingWrappers format db kinds tokens listed
        (offset.getD 0).toInt64 (asI32 (size.getD ITEM_PER_PAGE))
      return wrappers.filterMap (handled format db kinds tokens sdk)) =
      (findRecentMatchingWrappers format db kinds tokens listed (offset.getD 0).toInt64
        (asI32 (size.getD ITEM_PER_PAGE))).map fun wrappers =>
          (wrappers.filter (shown format db kinds tokens)).map fun wrapper =>
            (wrapper,(findInnersByWrapperTx db wrapper.id).filter
              (passesFilter format kinds tokens)) := by
    cases hfound : findRecentMatchingWrappers format db kinds tokens listed
        (offset.getD 0).toInt64 (asI32 (size.getD ITEM_PER_PAGE)) with
    | none => rfl
    | some wrappers =>
      refine congrArg some (filterMap_eq_map_filter fun wrapper hwrapper => ?_)
      have hlist := List.mem_of_mem_filter (mem_of_mem_page hfound hwrapper)
      exact handled_eq (hids wrapper (hlisted.perm.mem_iff.mp hlist))
  split
  · rename_i habsent
    have hnil : kinds = [] ∧ tokens = [] := by simpa using habsent
    obtain ⟨rfl,rfl⟩ := hnil
    exact (congrArg (fun answer => answer >>= fun wrappers => pure (wrappers.filterMap
      (handled format db [] [] sdk))) (findMostRecentTransactions_eq listed _ _)).trans hanswer
  · exact hanswer

/-- An offset that is no error is read as it is. -/
lemma toInt_toInt64 {offset : UInt64} (h : 0 ≤ offset.toInt64) :
    offset.toInt64.toInt.toNat = offset.toNat := by
  have hbits : offset.toInt64.toInt = offset.toBitVec.toInt := rfl
  have hnat : offset.toBitVec.toNat = offset.toNat := rfl
  have hlt := offset.toNat_lt
  rw [Int64.le_iff_toInt_le,hbits,BitVec.toInt_eq_toNat_cond,hnat] at h
  rw [hbits,BitVec.toInt_eq_toNat_cond,hnat]
  have hzero : (0 : Int64).toInt = 0 := rfl
  rw [hzero] at h
  split at h <;> split <;> omega

/-- The same for a size of 32 bits. -/
lemma toInt_asI32 {size : UInt64} (h : 0 ≤ asI32 size) (hsize : size.toNat < 2^32) :
    (asI32 size).toInt.toNat = size.toNat := by
  have hbits : (asI32 size).toInt = size.toUInt32.toBitVec.toInt := rfl
  have hnat : size.toUInt32.toBitVec.toNat = size.toNat := by
    change size.toNat % 2^32 = size.toNat
    omega
  rw [Int32.le_iff_toInt_le,hbits,BitVec.toInt_eq_toNat_cond,hnat] at h
  rw [hbits,BitVec.toInt_eq_toNat_cond,hnat]
  have hzero : (0 : Int32).toInt = 0 := rfl
  rw [hzero] at h
  split at h <;> split <;> omega

/-- The wrappers have an order by descending height. -/
lemma exists_mostRecentFirst (db : Db) : ∃ listed, MostRecentFirst db listed := by
  let descending (a b : WrapperTransactionDb) : Bool := b.blockHeight ≤ a.blockHeight
  refine ⟨db.wrapperTransactions.rows.mergeSort descending,List.mergeSort_perm _ _,?_⟩
  have htrans : ∀ a b c, descending a b → descending b c → descending a c := by
    intro a b c hab hbc
    simp only [descending,decide_eq_true_eq,Int32.le_iff_toInt_le] at hab hbc ⊢
    omega
  have htotal : ∀ a b, descending a b || descending b a := by
    intro a b
    simp only [descending,Bool.or_eq_true,decide_eq_true_eq,Int32.le_iff_toInt_le]
    omega
  have hsorted := List.pairwise_mergeSort htrans htotal db.wrapperTransactions.rows
  exact hsorted.imp fun h => of_decide_eq_true h

lemma length_filter_shown (hlisted : MostRecentFirst db listed) :
    (listed.filter (shown format db kinds tokens)).length =
      (db.wrapperTransactions.rows.filter (shown format db kinds tokens)).length :=
  (hlisted.perm.filter _).length_eq

lemma filter_matching_eq (hsame : ∀ wrapper ∈ db.wrapperTransactions.rows,
      matchingWrapper format db kinds tokens wrapper = true ↔
        shown format db kinds tokens wrapper = true) (hlisted : MostRecentFirst db listed) :
    listed.filter (matchingWrapper format db kinds tokens) =
      listed.filter (shown format db kinds tokens) := by
  refine List.filter_congr fun wrapper hwrapper => ?_
  rw [Bool.eq_iff_iff]
  exact hsame wrapper (hlisted.perm.mem_iff.mp hwrapper)

/-- Where the query selects what the handler shows, the handler drops nothing. -/
lemma findRecent_eq_entries (hids : ∀ wrapper ∈ db.wrapperTransactions.rows,
      sdk.toLowercase wrapper.id = wrapper.id)
    (hsame : ∀ wrapper ∈ db.wrapperTransactions.rows,
      matchingWrapper format db kinds tokens wrapper = true ↔
        shown format db kinds tokens wrapper = true) (hlisted : MostRecentFirst db listed)
    {offset size : Option UInt64}
    {entries : List (WrapperTransactionDb × List InnerTransactionDb)}
    (hentries : getMostRecentTransactions format db sdk listed ⟨offset,size,kinds,tokens⟩ =
      some entries) :
    findRecentMatchingWrappers format db kinds tokens listed (offset.getD 0).toInt64
      (asI32 (size.getD ITEM_PER_PAGE)) = some (entries.map Prod.fst) := by
  rw [getMostRecentTransactions_eq hids hlisted] at hentries
  obtain ⟨wrappers,hwrappers,rfl⟩ := Option.map_eq_some_iff.mp hentries
  have hshown : wrappers.filter (shown format db kinds tokens) = wrappers := by
    refine List.filter_eq_self.mpr fun wrapper hwrapper => ?_
    have hmem := mem_of_mem_page hwrappers hwrapper
    rw [filter_matching_eq hsame hlisted] at hmem
    exact (List.mem_filter.mp hmem).2
  rw [hwrappers,hshown,List.map_map]
  exact congrArg some (List.map_id wrappers).symm

/-- A page of 2^32 wrappers is cut to none. -/
lemma getMostRecentTransactions_of_two_pow (hids : ∀ wrapper ∈ db.wrapperTransactions.rows,
      sdk.toLowercase wrapper.id = wrapper.id) (hlisted : MostRecentFirst db listed) :
    getMostRecentTransactions format db sdk listed ⟨none,some 4294967296,kinds,tokens⟩ = some [] := by
  rw [getMostRecentTransactions_eq hids hlisted]
  rfl

/-- The wrappers that the query selects are those that the handler shows, if the tokens that
they compare do not tell them apart. -/
lemma forall_matching_iff_shown :
    (∀ wrapper ∈ db.wrapperTransactions.rows,
      matchingWrapper format db kinds tokens wrapper = true ↔
        shown format db kinds tokens wrapper = true) ↔
      (tokens ≠ [] → ∀ wrapper ∈ db.wrapperTransactions.rows,
        ∀ inner ∈ findInnersByWrapperTx db wrapper.id, Requested kinds inner →
        (∃ token ∈ allTokens format inner, ∃ wanted ∈ tokens,
          eqIgnoreAsciiCase token wanted = true) →
        ∃ other ∈ findInnersByWrapperTx db wrapper.id, ∃ token ∈ leadingTokens format other,
          token ∈ tokens) ∧
      (tokens ≠ [] → ∀ wrapper ∈ db.wrapperTransactions.rows,
        ∀ inner ∈ findInnersByWrapperTx db wrapper.id, Requested kinds inner →
        ∀ other ∈ findInnersByWrapperTx db wrapper.id,
        (∃ token ∈ leadingTokens format other, token ∈ tokens) →
        ∃ third ∈ findInnersByWrapperTx db wrapper.id, Requested kinds third ∧
          ∃ token ∈ allTokens format third, ∃ wanted ∈ tokens,
            eqIgnoreAsciiCase token wanted = true) := by
  by_cases htokens : tokens = []
  · subst htokens
    simp only [ne_eq,not_true_eq_false,false_implies,and_self,iff_true]
    exact fun wrapper _ => matching_iff_shown_of_nil
  · simp only [ne_eq,htokens,not_false_eq_true,true_implies,matching_iff_shown htokens,
      forall_and]

end

/-- The data of a transfer of two tokens. -/
def twoTokensData : String :=
  "\x7b\"sources\":[\x7b\"owner\":\"a\",\"token\":\"nam\"\x7d," ++
    "\x7b\"owner\":\"a\",\"token\":\"btc\"\x7d]," ++
    "\"targets\":[\x7b\"owner\":\"b\",\"token\":\"nam\"\x7d," ++
    "\x7b\"owner\":\"b\",\"token\":\"btc\"\x7d]\x7d"

/-- That text is the only one that is read. -/
def twoTokensFormat : JsonFormat where
  fromStr text :=
    let legs (owner : String) : Json :=
      .array (["nam","btc"].map fun token =>
        .object [("owner",.string owner),("token",.string token)])
    if text = twoTokensData then some (.object [("sources",legs "a"),("targets",legs "b")]) else none
  render _ := ""

def twoTokensDb : Db :=
  { Db.empty [] with
    wrapperTransactions := ⟨[⟨"wrapper","","","0",none,none,none,7,.applied,false⟩],by decide⟩
    innerTransactions := ⟨[⟨"inner","wrapper",.transparentTransfer,some twoTokensData,none,
      .applied⟩],by decide⟩ }

end NamadaIndexer.Webserver
