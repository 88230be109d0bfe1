import NamadaIndexer.Chain.Balances
import NamadaIndexer.Pos.Staking

/-! The tables of the chain crawler in which a row stays as it was stored first: tokens, supplies,
limits and balances. -/
namespace NamadaIndexer.Chain
open NamadaIndexer.Foundation NamadaIndexer.Foundation.Runs NamadaIndexer.Shared
open NamadaIndexer.Pos (StakingDb Transaction)
open NamadaIndexer.Transactions (References)

section
variable (ctx : Context)

/-- The tokens that a transaction inserts. -/
def tokensOf : Transaction → List Token
  | .initialQuery data => data.tokens
  | .block gathered _ => gathered.current.ibcTokens ctx
  | _ => []

end

def suppliesOf : Transaction → List TokenSupply
  | .initialQuery data => data.tokenSupplies
  | .block gathered _ => gathered.tokenSupplies
  | _ => []

def limitsOf : Transaction → List IbcRateLimit
  | .initialQuery data => data.rateLimits
  | .block gathered _ => gathered.rateLimits
  | _ => []

def balancesOf : Transaction → List Balance
  | .initialQuery data => data.balances
  | .block gathered _ => gathered.balances
  | _ => []

/-- The state that a transaction of the chain crawler sets. Blocks that are processed again leave it
alone. -/
def stateOf : Transaction → Option ChainCrawlerState
  | .initialQuery data => some data.crawlerState
  | .block gathered shouldUpdateCrawlerState =>
    if shouldUpdateCrawlerState then some gathered.crawlerState else none
  | _ => none

/-- What a transaction adds to the tables. -/
structure Adds (ctx : Context) (transaction : Transaction) (db db' : ChainDb) : Prop where
  tokens : db'.tokens =
    db.tokens.insertOrIgnore ((tokensOf ctx transaction).map (TokenDb.ofToken ctx))
  ibcTokens : db'.ibcTokens =
    db.ibcTokens.insertOrIgnore ((tokensOf ctx transaction).filterMap (IbcTokenDb.fromToken ctx))
  supplies_checked : ∀ row ∈ (suppliesOf transaction).map TokenSuppliesDb.ofSupply,
    checkEffectiveForTokenType db'.tokens row
  supplies_references : References db.tokenSupplies
    ((suppliesOf transaction).map TokenSuppliesDb.ofSupply) TokenSuppliesDb.address db'.tokens.keys
  tokenSupplies : db'.tokenSupplies =
    db.tokenSupplies.insertOrIgnore ((suppliesOf transaction).map TokenSuppliesDb.ofSupply)
  ibcRateLimits : db'.ibcRateLimits =
    db.ibcRateLimits.insertOrIgnore ((limitsOf transaction).map IbcRateLimitsDb.ofLimit)
  token_references : References db.balanceChanges
    ((balancesOf transaction).map (BalanceChangesDb.fromBalance ctx)) BalanceChangesDb.token
    db'.tokens.keys
  height_references : References db.balanceChanges
    ((balancesOf transaction).map (BalanceChangesDb.fromBalance ctx)) BalanceChangesDb.height
    db'.blocks.keys
  balanceChanges : db'.balanceChanges =
    db.balanceChanges.insertOrIgnore
      ((balancesOf transaction).map (BalanceChangesDb.fromBalance ctx))
  crawlerState : db'.crawlerState = ((stateOf transaction).map .ofState).or db.crawlerState

section
variable {ctx : Context} {transaction : Transaction}

lemma adds_of_commitInitial {data : InitialData} {db db' : ChainDb}
    (h : commitInitial ctx data db = some db') : Adds ctx (.initialQuery data) db db' := by
  have hc := committed_of_commitInitial h
  exact ⟨hc.tokens,hc.ibcTokens,hc.supplies_checked,hc.supplies_references,hc.tokenSupplies,
    hc.ibcRateLimits,hc.token_references,hc.height_references,hc.balanceChanges,hc.crawlerState⟩

lemma adds_nothing {db db' : ChainDb} (htokens : tokensOf ctx transaction = [])
    (hsupplies : suppliesOf transaction = []) (hlimits : limitsOf transaction = [])
    (hbalances : balancesOf transaction = []) (hstate : stateOf transaction = none)
    (hsame : db'.tokens = db.tokens ∧ db'.ibcTokens = db.ibcTokens ∧
      db'.tokenSupplies = db.tokenSupplies ∧ db'.ibcRateLimits = db.ibcRateLimits ∧
      db'.balanceChanges = db.balanceChanges ∧ db'.crawlerState = db.crawlerState) :
    Adds ctx transaction db db' := by
  obtain ⟨h₁,h₂,h₃,h₄,h₅,h₆⟩ := hsame
  constructor <;> simp [htokens,hsupplies,hlimits,hbalances,hstate,h₁,h₂,h₃,h₄,h₅,h₆,References]

/-- What every transaction adds to the tables. -/
theorem adds_of_step {db db' : StakingDb} (h : transaction.step ctx db = some db') :
    Adds ctx transaction db.chain db'.chain := by
  cases transaction with
  | initialQuery data =>
    obtain ⟨chain,hchain,rfl⟩ := Option.map_eq_some_iff.mp h
    exact adds_of_commitInitial hchain
  | block gathered shouldUpdateCrawlerState =>
    obtain ⟨chain,hchain,rfl⟩ := Option.map_eq_some_iff.mp h
    have hc := committed_of_commit hchain
    exact ⟨hc.tokens,hc.ibcTokens,hc.supplies_checked,hc.supplies_references,hc.tokenSupplies,
      hc.ibcRateLimits,hc.token_references,hc.height_references,hc.balanceChanges,
      by rw [hc.crawlerState]; cases shouldUpdateCrawlerState <;> rfl⟩
  | reindexBonds client done =>
    obtain rfl := Option.some.inj h
    obtain ⟨bonds,unbonds,hsame⟩ := Pos.reindexBonds_frame client done db.chain
    refine adds_nothing rfl rfl rfl rfl rfl ?_
    dsimp only
    rw [hsame]
    exact ⟨rfl,rfl,rfl,rfl,rfl,rfl⟩
  | validatorSet validatorsSet epochToProcess =>
    obtain ⟨chain,hchain,rfl⟩ := Pos.commit_eq_some.mp h
    obtain ⟨_,-,_,-,rfl⟩ := Pos.upsertValidators_eq_some.mp hchain
    exact adds_nothing rfl rfl rfl rfl rfl ⟨rfl,rfl,rfl,rfl,rfl,rfl⟩
  | rewards nonZeroRewards epochToProcess =>
    obtain ⟨chain,hchain,rfl⟩ := Rewards.commit_eq_some.mp h
    obtain ⟨-,-,_,-,rfl⟩ := Rewards.upsertRewards_eq_some.mp hchain
    exact adds_nothing rfl rfl rfl rfl rfl ⟨rfl,rfl,rfl,rfl,rfl,rfl⟩

/-- The balances of a transaction are inserted by one call. -/
lemma inserting_step {inserted : List Balance} {db db' : StakingDb}
    (h : Inserting ctx inserted db.chain) (hstep : transaction.step ctx db = some db') :
    Inserting ctx (inserted ++ balancesOf transaction) db'.chain := by
  have hadds := adds_of_step hstep
  have hbefore : Inserting ctx inserted { db'.chain with balanceChanges := db.chain.balanceChanges } :=
    .other h rfl
  refine .call hbefore (insertBalances_eq_some.mpr
    ⟨hadds.token_references,hadds.height_references,?_⟩)
  dsimp only
  rw [←hadds.balanceChanges]

/-- The balance that was stored first for the greatest height of an owner and a token, and zero for
those without one. -/
def LatestBalance (ctx : Context) (inserted : List Balance) (pair : String × String)
    (amount : Amount) : Prop :=
  (∃ b, IsFirst (tripleOf ctx) inserted b ∧ pairOf ctx b = pair ∧ b.amount = amount ∧
    ∀ other ∈ inserted, pairOf ctx other = pair →
      other.height.toInt32.toInt ≤ b.height.toInt32.toInt) ∨
  (∀ b ∈ inserted, pairOf ctx b ≠ pair) ∧ amount = 0

theorem inserting_of_execute {transactions : List Transaction} {db : StakingDb}
    (hrun : execute (Transaction.step ctx) .empty transactions = some db) :
    Inserting ctx (transactions.flatMap balancesOf) db.chain := by
  induction transactions using List.reverseRecOn generalizing db with
  | nil =>
    cases hrun
    exact .start rfl
  | append_singleton transactions transaction ih =>
    obtain ⟨before,hbefore,hlast⟩ := execute_append_eq_some.mp hrun
    obtain ⟨after,hafter,hend⟩ := execute_cons_eq_some.mp hlast
    cases hend
    rw [List.flatMap_append,List.flatMap_singleton]
    exact inserting_step (ih hbefore) hafter

/-- Every supply is one of a stored token, and that of a native token has an effective amount. -/
def SuppliesChecked (db : ChainDb) : Prop :=
  ∀ row ∈ db.tokenSupplies.rows,
    row.address ∈ db.tokens.keys ∧ checkEffectiveForTokenType db.tokens row

lemma suppliesChecked_step {db db' : StakingDb} (h : SuppliesChecked db.chain)
    (hstep : transaction.step ctx db = some db') : SuppliesChecked db'.chain := by
  have hadds := adds_of_step hstep
  intro row hrow
  rw [hadds.tokenSupplies,Table.insertOrIgnore_rows] at hrow
  rcases List.mem_append.mp hrow with hold | hnew
  · obtain ⟨haddress,hchecked⟩ := h row hold
    rw [hadds.tokens]
    refine ⟨Table.mem_keys_insertOrIgnore.mpr (.inl haddress),?_⟩
    rintro ⟨token,htoken,hsame,hnative⟩
    exact hchecked ⟨token,Table.mem_of_mem_insertOrIgnore htoken (hsame ▸ haddress),hsame,hnative⟩
  · have hmem := Table.mem_of_mem_fresh hnew
    exact ⟨(hadds.supplies_references row hmem).resolve_left (Table.fresh_key_not_mem hnew),
      hadds.supplies_checked row hmem⟩

theorem suppliesChecked_of_execute {transactions : List Transaction} {db : StakingDb}
    (hrun : execute (Transaction.step ctx) .empty transactions = some db) :
    SuppliesChecked db.chain :=
  execute_preserves (fun db : StakingDb => SuppliesChecked db.chain)
    (fun _ _ _ => suppliesChecked_step) (by simp [SuppliesChecked,StakingDb.empty,ChainDb.empty]) hrun

/-- The state of the chain crawler is the last one that was set. -/
theorem crawlerState_of_execute {transactions : List Transaction} {db : StakingDb}
    (hrun : execute (Transaction.step ctx) .empty transactions = some db) :
    db.chain.crawlerState = ((transactions.filterMap stateOf).getLast?).map .ofState := by
  induction transactions using List.reverseRecOn generalizing db with
  | nil =>
    cases hrun
    rfl
  | append_singleton transactions transaction ih =>
    obtain ⟨before,hbefore,hlast⟩ := execute_append_eq_some.mp hrun
    obtain ⟨after,hafter,hend⟩ := execute_cons_eq_some.mp hlast
    cases hend
    rw [(adds_of_step hafter).crawlerState,ih hbefore,List.filterMap_append]
    cases hstate : stateOf transaction with
    | none => simp [hstate]
    | some state => simp [hstate]

lemma address_ofToken (token : Token) :
    (TokenDb.ofToken ctx token).address = token.address.toString ctx.sdk := by
  cases token <;> rfl

section
variable {transactions : List Transaction} {db : StakingDb}
  (hrun : execute (Transaction.step ctx) .empty transactions = some db)
include hrun

theorem tokens_eq : db.chain.tokens = Table.empty.insertOrIgnore
    ((transactions.flatMap (tokensOf ctx)).map (TokenDb.ofToken ctx)) := by
  rw [List.map_flatMap]
  exact Table.insertOrIgnore_execute (fun db : StakingDb => db.chain.tokens) hrun
    fun _ _ _ hstep => (adds_of_step hstep).tokens

theorem mem_keys_tokens {address : String} : address ∈ db.chain.tokens.keys ↔
    ∃ token ∈ transactions.flatMap (tokensOf ctx), token.address.toString ctx.sdk = address := by
  rw [tokens_eq hrun,Table.mem_keys_insertOrIgnore,List.map_map]
  simp [address_ofToken]

theorem find?_ibcTokens (address : String) : db.chain.ibcTokens.find? address =
    ((transactions.flatMap (tokensOf ctx)).filterMap (IbcTokenDb.fromToken ctx)).find?
      fun row => row.address = address := by
  have h := Table.insertOrIgnore_execute (fun db : StakingDb => db.chain.ibcTokens) hrun
    fun _ _ _ hstep => (adds_of_step hstep).ibcTokens
  rw [h,List.filterMap_flatMap]
  exact Table.find?_insertOrIgnore_empty _ address

theorem find?_tokenSupplies (key : String × Int32) : db.chain.tokenSupplies.find? key =
    ((transactions.flatMap suppliesOf).map TokenSuppliesDb.ofSupply).find?
      fun row => row.key = key := by
  have h := Table.insertOrIgnore_execute (fun db : StakingDb => db.chain.tokenSupplies) hrun
    fun _ _ _ hstep => (adds_of_step hstep).tokenSupplies
  rw [h,List.map_flatMap]
  exact Table.find?_insertOrIgnore_empty _ key

theorem ibcRateLimits_eq : db.chain.ibcRateLimits = Table.empty.insertOrIgnore
    ((transactions.flatMap limitsOf).map IbcRateLimitsDb.ofLimit) := by
  rw [List.map_flatMap]
  exact Table.insertOrIgnore_execute (fun db : StakingDb => db.chain.ibcRateLimits) hrun
    fun _ _ _ hstep => (adds_of_step hstep).ibcRateLimits

end

end

end NamadaIndexer.Chain
