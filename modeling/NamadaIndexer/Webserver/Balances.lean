import NamadaIndexer.Chain.Additions
import NamadaIndexer.Foundation.Queries

/-! The balances of an address, and the supplies of tokens. -/
namespace NamadaIndexer.Webserver
open NamadaIndexer.Foundation NamadaIndexer.Foundation.Runs NamadaIndexer.Shared
open NamadaIndexer.Chain (BalanceDb ChainDb Context IbcTokenDb LatestBalance TokenDb TokenSuppliesDb
  balancesOf pairOf suppliesOf tokensOf)
open NamadaIndexer.Pos (StakingDb Transaction)

/-- The entity `Balance` -/
structure AccountBalance where
  owner : Id
  token : Token
  amount : Amount
  deriving DecidableEq, Repr

/-- `get_address_balances` of the repository -/
def findAddressBalances (db : ChainDb) (address : String) : List BalanceDb :=
  db.balances.filter fun balance => balance.owner = address

/-- `get_all_token`, and `find_tokens` of the repository -/
def getAllToken (db : ChainDb) : List (TokenDb × Option IbcTokenDb) :=
  leftJoin (fun token ibcToken => token.address = ibcToken.address) db.tokens.rows db.ibcTokens.rows

def tokenFromDb (row : TokenDb × Option IbcTokenDb) : Token :=
  match row.2 with
  | some ibcToken => .ibc ⟨.account ibcToken.address,some (.ibcTrace ibcToken.ibcTrace)⟩
  | none => .native (.account row.1.address)

/-- `find_tokens` -/
def findTokens (db : ChainDb) : List Token := (getAllToken db).map tokenFromDb

/-- `get_address_balances`. The tokens are read after the balances. -/
def getAddressBalances (db dbThen : ChainDb) (address : String) : List AccountBalance :=
  let balances := findAddressBalances db address
  (getAllToken dbThen).map fun row =>
    ⟨.account address,tokenFromDb row,
      ((balances.find? fun balance => balance.token = row.1.address).map (·.rawAmount)).getD 0⟩

/-- `get_token_supply` of the repository -/
def findTokenSupply (db : ChainDb) (address : String) (epoch : Option Int32) :
    Option TokenSuppliesDb :=
  let epoch := epoch.getD ((db.crawlerState.map (·.lastProcessedEpoch)).getD 0)
  db.tokenSupplies.find? (address,epoch)

def nativeTokenAddress : String := "tnam1q9gr66cvu4hrzm0sd5kmlnjje82gs3xlfg3v6nu7"

/-- The addresses whose balances do not circulate. -/
def excludedAddresses : List String :=
  ["tnam1qxdzup2hcvhswcgw5kerd5lfkf04t64y3scgqm5v",
    "tnam1qxt7uxhj9r00mfm4u870e7ghz6j20jrdz58gm5kj",
    "tnam1qyez9fd9nkaxfj4u2f2k0vavr8mm69azcgds45rr",
    "tnam1qqp69rzwsgnqdm0d4qfhw4qa4s6v3tlzm5069f4j",
    "tnam1qrucghh3hw2zq8xtqzdj44nh5nrmnkn0usqng8yq"]

/-- The balance of the native token of one excluded address. -/
def lockedAmount (db : ChainDb) (address : String) : Amount :=
  (((findAddressBalances db address).find? fun balance => balance.token = nativeTokenAddress).map
    (·.rawAmount)).getD 0

/-- `get_circulating_supply`. The balances are read one after the other. -/
def getCirculatingSupply (db : ChainDb) (dbThen : String → ChainDb) (epoch : Option Int32) :
    Except String String := do
  let totalSupply ← match findTokenSupply db nativeTokenAddress epoch with
    | some supply => .ok supply
    | none => .error "Native token supply not found"
  let totalLockedAmount := excludedAddresses.foldl
    (fun total address => total + (lockedAmount (dbThen address) address).val) 0
  let effectiveSupplyAmount ← match totalSupply.effective with
    | some effective => .ok effective
    | none => .error "Effective supply not found for native token"
  return toString ((effectiveSupplyAmount.val : ℤ) - (totalLockedAmount : ℕ))

/-- The entity `TokenSupply` -/
structure TokenSupply where
  address : Id
  totalSupply : UInt64
  effectiveSupply : Option UInt64
  deriving DecidableEq, Repr

/-- `to_u64` -/
def toU64 (amount : Amount) : Panicking UInt64 :=
  Panicking.expect "Should fit in u64"
    (if amount.val < 2^64 then some (UInt64.ofNat amount.val) else none)

/-- `get_token_supply` -/
def getTokenSupply (db : ChainDb) (address : String) (epoch : Option Int32) :
    Panicking (Option TokenSupply) :=
  match findTokenSupply db address epoch with
  | none => return none
  | some supply => do
    let totalSupply ← toU64 supply.total
    match supply.effective with
    | none => return some ⟨.account supply.address,totalSupply,none⟩
    | some effective => return some ⟨.account supply.address,totalSupply,some (← toU64 effective)⟩

/-- A token as it is shown. What was stored first for its address decides. -/
def shownToken (ctx : Context) (tokens : List Token) (address : String) : Token :=
  match (tokens.filterMap (IbcTokenDb.fromToken ctx)).find? fun row => row.address = address with
  | some ibcToken => .ibc ⟨.account address,some (.ibcTrace ibcToken.ibcTrace)⟩
  | none => .native (.account address)

section
variable {ctx : Context} {inserted : List Balance} {db : ChainDb}

/-- The view is searched for an owner first and then for a token. -/
lemma latestBalance_of_find? (h : Chain.Inserting ctx inserted db) (owner token : String) :
    LatestBalance ctx inserted (owner,token)
      ((((findAddressBalances db owner).find? fun balance => balance.token = token).map
        (·.rawAmount)).getD 0) := by
  cases hfind : (findAddressBalances db owner).find? fun balance => balance.token = token with
  | some row =>
    have htoken : row.token = token := by simpa using List.find?_some hfind
    obtain ⟨hmem,howner⟩ := List.mem_filter.mp (List.mem_of_find?_eq_some hfind)
    obtain ⟨b,hfirst,hrow,hgreatest⟩ := (Chain.mem_balances_iff h).mp hmem
    have hpair : pairOf ctx b = (owner,token) := by
      rw [←of_decide_eq_true howner,←htoken,←hrow]
      rfl
    exact .inl ⟨b,hfirst,hpair,congrArg BalanceDb.rawAmount hrow,
      fun other hother hsame => hgreatest other hother (hsame.trans hpair.symm)⟩
  | none =>
    refine .inr ⟨fun b hb hpair => ?_,rfl⟩
    obtain ⟨greatest,hgreatest,hsame⟩ := exists_mem_latest (pairOf ctx)
      (fun c => c.height.toInt32.toInt) hb
    obtain ⟨hmem,hle⟩ := mem_latest.mp hgreatest
    obtain ⟨c,hfirst,htriple⟩ := exists_isFirst (Chain.tripleOf ctx) hmem
    obtain ⟨hc,hheight⟩ := Prod.mk.inj htriple
    have hrow : .ofBalance ctx c ∈ db.balances := by
      refine (Chain.mem_balances_iff h).mpr ⟨c,hfirst,rfl,fun other hother hother' => ?_⟩
      rw [hheight]
      exact hle other hother (hother'.trans hc)
    obtain ⟨howner,htoken⟩ := Prod.mk.inj ((hc.trans hsame).trans hpair)
    have hnone := List.find?_eq_none.mp hfind (.ofBalance ctx c)
      (List.mem_filter.mpr ⟨hrow,decide_eq_true howner⟩)
    exact hnone (decide_eq_true htoken)

lemma getAllToken_eq (db : ChainDb) :
    getAllToken db = db.tokens.rows.map fun token => (token,db.ibcTokens.find? token.address) := by
  have hsame : ∀ token : TokenDb, (fun ibcToken : IbcTokenDb =>
      decide (token.address = ibcToken.address)) =
      fun ibcToken => decide (ibcToken.address = token.address) :=
    fun token => funext fun ibcToken => decide_eq_decide.mpr eq_comm
  rw [getAllToken,leftJoin_eq_map]
  · simp only [hsame,Table.find?]
  · intro token _
    rw [hsame]
    exact Table.length_filter_key_le db.ibcTokens.unique token.address

lemma tokenFromDb_find? {transactions : List Transaction} {db : StakingDb}
    (hrun : execute (Transaction.step ctx) .empty transactions = some db) (token : TokenDb) :
    tokenFromDb (token,db.chain.ibcTokens.find? token.address) =
      shownToken ctx (transactions.flatMap (tokensOf ctx)) token.address := by
  rw [Chain.find?_ibcTokens hrun,tokenFromDb,shownToken]
  cases hfind : ((transactions.flatMap (tokensOf ctx)).filterMap (IbcTokenDb.fromToken ctx)).find?
      fun row => row.address = token.address with
  | none => rfl
  | some ibcToken =>
    have haddress : ibcToken.address = token.address := by simpa using List.find?_some hfind
    dsimp only
    rw [haddress]

lemma address_shownToken (tokens : List Token) (address : String) :
    (shownToken ctx tokens address).address = .account address := by
  unfold shownToken
  split <;> rfl

/-- Every token that was ever registered is listed once, as what was stored first for its address. -/
lemma findTokens_eq {transactions : List Transaction} {db : StakingDb}
    (hrun : execute (Transaction.step ctx) .empty transactions = some db) :
    findTokens db.chain =
      db.chain.tokens.keys.map (shownToken ctx (transactions.flatMap (tokensOf ctx))) := by
  rw [findTokens,getAllToken_eq,Table.keys,List.map_map,List.map_map]
  exact List.map_congr_left fun token _ => tokenFromDb_find? hrun token

/-- The tokens of the balances are those that are listed. -/
lemma tokens_getAddressBalances (db dbThen : ChainDb) (address : String) :
    (getAddressBalances db dbThen address).map AccountBalance.token = findTokens dbThen := by
  rw [getAddressBalances,findTokens,List.map_map]
  rfl

/-- Whatever the crawlers have committed, and whatever they go on to commit before the tokens are
read, every token that was ever registered is shown once, as what was stored first for its address,
with the balance that was stored first for its greatest height. -/
theorem address_balances_shown (ctx : Context) (transactions meanwhile : List Transaction)
    (db dbThen : StakingDb)
    (hrun : execute (Transaction.step ctx) .empty transactions = some db)
    (hthen : execute (Transaction.step ctx) db meanwhile = some dbThen) (address : String) :
    ((getAddressBalances db.chain dbThen.chain address).map fun entry => entry.token.address).Nodup ∧
    (∀ id, id ∈ (getAddressBalances db.chain dbThen.chain address).map
        (fun entry => entry.token.address) ↔
      ∃ token ∈ (transactions ++ meanwhile).flatMap (tokensOf ctx),
        id = .account (token.address.toString ctx.sdk)) ∧
    ∀ entry ∈ getAddressBalances db.chain dbThen.chain address,
      entry.owner = .account address ∧ ∃ token,
        entry.token = shownToken ctx ((transactions ++ meanwhile).flatMap (tokensOf ctx)) token ∧
        LatestBalance ctx (transactions.flatMap balancesOf) (address,token) entry.amount := by
  have hall : execute (Transaction.step ctx) .empty (transactions ++ meanwhile) = some dbThen :=
    execute_append_eq_some.mpr ⟨db,hrun,hthen⟩
  have haddresses : (getAddressBalances db.chain dbThen.chain address).map
      (fun entry => entry.token.address) = dbThen.chain.tokens.keys.map Id.account := by
    have htokens := congrArg (List.map Token.address)
      ((tokens_getAddressBalances db.chain dbThen.chain address).trans (findTokens_eq hall))
    rw [List.map_map,List.map_map] at htokens
    exact htokens.trans (List.map_congr_left fun token _ => address_shownToken _ _)
  refine ⟨?_,fun id => ?_,fun entry hentry => ?_⟩
  · rw [haddresses]
    exact dbThen.chain.tokens.unique.map fun _ _ => Id.account.inj
  · rw [haddresses,List.mem_map]
    constructor
    · rintro ⟨text,htext,rfl⟩
      obtain ⟨token,htoken,rfl⟩ := (Chain.mem_keys_tokens hall).mp htext
      exact ⟨token,htoken,rfl⟩
    · rintro ⟨token,htoken,rfl⟩
      exact ⟨_,(Chain.mem_keys_tokens hall).mpr ⟨token,htoken,rfl⟩,rfl⟩
  · rw [getAddressBalances,getAllToken_eq,List.map_map] at hentry
    obtain ⟨token,-,rfl⟩ := List.mem_map.mp hentry
    exact ⟨rfl,token.address,tokenFromDb_find? hall token,
      latestBalance_of_find? (Chain.inserting_of_execute hrun) _ _⟩

/-- An initial query that finds balances of alice and of an excluded address. -/
def supplyData : Chain.InitialData where
  current := ⟨7,7,⟨[],[]⟩,.established "nam",1,Chain.Votes.voteBlock []⟩
  tokens := [.native (.account nativeTokenAddress)]
  rateLimits := []
  tokenSupplies := [⟨nativeTokenAddress,1,1000,some 800⟩]
  balances := [⟨.account "alice",.native (.account nativeTokenAddress),5,7⟩,
    ⟨.account "tnam1qrucghh3hw2zq8xtqzdj44nh5nrmnkn0usqng8yq",
      .native (.account nativeTokenAddress),300,7⟩]
  validatorSet := []
  redelegations := []
  bonds := []
  unbonds := []
  proposals := []
  votes := []
  maspRates := []

theorem address_balances_shown_of_alice :
    ∃ db, execute (Transaction.step (Chain.sampleContext bondTx)) .empty [.initialQuery supplyData] =
        some db ∧
      ∀ entry ∈ getAddressBalances db.chain db.chain "alice", ∃ token,
        LatestBalance (Chain.sampleContext bondTx) supplyData.balances ("alice",token)
          entry.amount := by
  have hdefined : (execute (Transaction.step (Chain.sampleContext bondTx)) .empty
      [.initialQuery supplyData]).isSome := by decide +kernel
  obtain ⟨db,hrun⟩ := Option.isSome_iff_exists.mp hdefined
  obtain ⟨-,-,hentries⟩ := address_balances_shown (Chain.sampleContext bondTx)
    [.initialQuery supplyData] [] db db hrun rfl "alice"
  refine ⟨db,hrun,fun entry hentry => ?_⟩
  obtain ⟨-,token,-,hlatest⟩ := hentries entry hentry
  exact ⟨token,hlatest⟩

/-- The epoch that is asked for, or the last one that the chain crawler has processed. -/
def epochAsked (transactions : List Transaction) (epoch : Option Int32) : Int32 :=
  epoch.getD ((((transactions.filterMap Chain.stateOf).getLast?).map fun state =>
    state.lastProcessedEpoch.toInt32).getD 0)

/-- The supply that was stored first for a token and an epoch. -/
def firstSupply (transactions : List Transaction) (address : String) (epoch : Int32) :
    Option TokenSuppliesDb :=
  ((transactions.flatMap suppliesOf).map TokenSuppliesDb.ofSupply).find? fun row =>
    row.key = (address,epoch)

lemma findTokenSupply_eq {transactions : List Transaction} {db : StakingDb}
    (hrun : execute (Transaction.step ctx) .empty transactions = some db) (address : String)
    (epoch : Option Int32) :
    findTokenSupply db.chain address epoch =
      firstSupply transactions address (epochAsked transactions epoch) := by
  rw [findTokenSupply,Chain.crawlerState_of_execute hrun,Option.map_map]
  exact Chain.find?_tokenSupplies hrun _

lemma returns_toU64_iff {amount : Amount} : (toU64 amount).Returns ↔ amount.val < 2^64 := by
  unfold toU64
  split
  · rename_i hfits
    exact iff_of_true (Panicking.returns_returns _) hfits
  · rename_i hlarge
    exact iff_of_false (Panicking.not_returns_panics _) hlarge

/-- A request for a supply panics where the supply that was stored first does not fit. -/
theorem returns_getTokenSupply_iff {transactions : List Transaction} {db : StakingDb}
    (hrun : execute (Transaction.step ctx) .empty transactions = some db) (address : String)
    (epoch : Option Int32) :
    (getTokenSupply db.chain address epoch).Returns ↔
      ∀ supply, firstSupply transactions address (epochAsked transactions epoch) = some supply →
        supply.total.val < 2^64 ∧ ∀ effective ∈ supply.effective, effective.val < 2^64 := by
  rw [getTokenSupply,findTokenSupply_eq hrun]
  cases firstSupply transactions address (epochAsked transactions epoch) with
  | none => simp
  | some supply =>
    obtain ⟨text,epoch,total,effective⟩ := supply
    cases effective with
    | none =>
      constructor
      · intro h
        obtain ⟨_,htotal,-⟩ := Panicking.returns_bind_iff.mp h
        exact fun _ hsame => Option.some.inj hsame ▸
          ⟨returns_toU64_iff.mp ⟨_,htotal⟩,fun _ hnone => by contradiction⟩
      · intro h
        obtain ⟨_,htotal⟩ := returns_toU64_iff.mpr (h _ rfl).1
        exact Panicking.returns_bind_iff.mpr ⟨_,htotal,Panicking.returns_returns _⟩
    | some effective =>
      constructor
      · intro h
        obtain ⟨_,htotal,h⟩ := Panicking.returns_bind_iff.mp h
        obtain ⟨_,heffective,-⟩ := Panicking.returns_bind_iff.mp h
        exact fun _ hsame => Option.some.inj hsame ▸
          ⟨returns_toU64_iff.mp ⟨_,htotal⟩,fun _ heq =>
            Option.some.inj heq ▸ returns_toU64_iff.mp ⟨_,heffective⟩⟩
      · intro h
        obtain ⟨_,htotal⟩ := returns_toU64_iff.mpr (h _ rfl).1
        obtain ⟨_,heffective⟩ := returns_toU64_iff.mpr ((h _ rfl).2 effective rfl)
        exact Panicking.returns_bind_iff.mpr ⟨_,htotal,
          Panicking.returns_bind_iff.mpr ⟨_,heffective,Panicking.returns_returns _⟩⟩

end

end NamadaIndexer.Webserver
