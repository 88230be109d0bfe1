import NamadaIndexer.Shared.NativeTokens
import NamadaIndexer.Chain.Completeness

/-! The tokens that the rows of a block refer to. The token table starts with the native token
and the tokens that the node has traces of; a block adds the tokens of its IBC transfers. -/
namespace NamadaIndexer.Chain
open NamadaIndexer.Foundation NamadaIndexer.Shared NamadaIndexer.Governance
open NamadaIndexer.Transactions (References)

/-- The tokens that a transaction moves without adding them: those of an ordinary transfer, or
that of a refund. -/
def movedTokensOf (sdk : Sdk) (nativeToken : Id) (tx : InnerTransaction) : List String :=
  match tx.kind with
  | .transparentTransfer (some data) | .shieldingTransfer (some data)
  | .unshieldingTransfer (some data) | .mixedTransfer (some data) =>
    data.accounts.map (ChainAddress.token sdk)
  | .ibcMsg (some msg) =>
    match (ibcAckToBalanceInfo sdk msg nativeToken).run with
    | .returns (.ok (some change)) => [change.token.address.toString sdk]
    | _ => []
  | _ => []

/-- The tokens that a block moves without adding them, those that pay for gas among them. -/
def Current.movedTokens (ctx : Context) (current : Current) : List String :=
  current.block.wrapperTxs.map (fun wrapperTx => wrapperTx.fee.gasToken.toString ctx.sdk) ++
    current.block.successfulInnerTxs.flatMap (movedTokensOf ctx.sdk (current.nativeId ctx))

/-- A successful IBC transfer of the block carries the token. -/
def CarriesToken (sdk : Sdk) (block : Block) (text : String) : Prop :=
  ∃ tx ∈ block.successfulInnerTxs, ∃ transfer token, tx.kind.transfer = some transfer ∧
    transfer.headline = some (.ibc token) ∧ token.address.toString sdk = text

/-- Every token that the block moves is in the table or is carried by an IBC transfer of it. -/
def MovesKnown (ctx : Context) (current : Current) (db : ChainDb) : Prop :=
  ∀ text ∈ current.movedTokens ctx, text ∈ db.tokens.keys ∨
    CarriesToken ctx.sdk current.block text

/-- The rows of a block refer to tokens in the table. -/
structure TokensKnown (ctx : Context) (gathered : Gathered) (db : ChainDb) : Prop where
  balances : ∀ balance ∈ gathered.balances,
    balance.token.address.toString ctx.sdk ∈ db.tokens.keys
  supplies : ∀ supply ∈ gathered.tokenSupplies, supply.address ∈ db.tokens.keys
  balance_references : References db.balanceChanges
    (gathered.balances.map (BalanceChangesDb.fromBalance ctx)) BalanceChangesDb.token db.tokens.keys
  supply_references : References db.tokenSupplies
    (gathered.tokenSupplies.map TokenSuppliesDb.ofSupply) TokenSuppliesDb.address db.tokens.keys

section
variable {sdk : Sdk} {nativeToken : Id} {ibcTokens : List Token} {tx : InnerTransaction}
  {own : List BalanceChange} {text : String}

lemma movedTokensOf_of_transfer {transfer : TransferView} (hkind : tx.kind.transfer = some transfer)
    (hheadline : transfer.headline = none) :
    movedTokensOf sdk nativeToken tx = transfer.data.accounts.map (ChainAddress.token sdk) := by
  unfold movedTokensOf
  generalize tx.kind = kind at hkind ⊢
  cases kind with
  | transparentTransfer data | shieldingTransfer data | unshieldingTransfer data
  | mixedTransfer data =>
    cases data with
    | none => contradiction
    | some data =>
      obtain rfl := Option.some.inj hkind
      rfl
  | ibcSendTrasparentTransfer token data | ibcRecvTrasparentTransfer token data
  | ibcShieldingTransfer token data | ibcUnshieldingTransfer token data =>
    obtain rfl := Option.some.inj hkind
    contradiction
  | _ => contradiction

/-- An IBC transfer adds the token that it carries. -/
lemma ibcTokenOf_eq_some {token : IbcToken} :
    Block.ibcTokenOf tx = some token ↔
      ∃ transfer, tx.kind.transfer = some transfer ∧ transfer.headline = some (.ibc token) := by
  unfold Block.ibcTokenOf
  generalize tx.kind = kind
  constructor
  · intro h
    split at h
    all_goals first
      | obtain rfl := Option.some.inj h
        exact ⟨_,rfl,rfl⟩
      | contradiction
  · rintro ⟨transfer,hkind,hheadline⟩
    cases kind with
    | transparentTransfer data | shieldingTransfer data | unshieldingTransfer data
    | mixedTransfer data =>
      obtain ⟨data,-,rfl⟩ := Option.map_eq_some_iff.mp hkind
      contradiction
    | ibcSendTrasparentTransfer other data | ibcRecvTrasparentTransfer other data
    | ibcShieldingTransfer other data | ibcUnshieldingTransfer other data =>
      obtain rfl := Option.some.inj hkind
      obtain rfl := Option.some.inj hheadline
      rfl
    | _ => contradiction

lemma tokensAgree_of_headline_none {transfer : TransferView} (h : transfer.headline = none) :
    transfer.TokensAgree sdk := by
  intro token htoken
  rw [h] at htoken
  contradiction

/-- The changes of an ordinary transfer show the tokens of its accounts. -/
lemma exists_account_of_mem_changes (hsdk : sdk.Lawful) {transfer : TransferView}
    (hheadline : transfer.headline = none) {change : BalanceChange}
    (h : change ∈ transfer.changes sdk nativeToken) :
    ∃ account ∈ transfer.data.accounts,
      account.token sdk = change.token.address.toString sdk := by
  have hagree : transfer.TokensAgree sdk := tokensAgree_of_headline_none hheadline
  unfold TransferView.changes at h
  dsimp only at h
  split at h
  · obtain ⟨base,hbase,hwith⟩ := List.mem_flatMap.mp h
    obtain ⟨account,haccount,rfl⟩ := List.mem_map.mp hbase
    refine ⟨account,haccount,?_⟩
    rw [toString_withMasp hsdk _ hwith,toString_change hsdk hagree haccount]
  · obtain ⟨account,haccount,rfl⟩ := List.mem_map.mp h
    exact ⟨account,haccount,(toString_change hsdk hagree haccount).symm⟩

/-- Where the token of a change comes from, outside transfers. -/
lemma token_of_process_of_not_transfer (hkind : tx.kind.transfer = none)
    (h : Block.processInnerTxForBalance sdk nativeToken ibcTokens tx = .returns own)
    {change : BalanceChange} (hchange : change ∈ own) :
    change.token.address.toString sdk ∈ movedTokensOf sdk nativeToken tx ∨
      change.token = .native nativeToken ∨ change.token ∈ ibcTokens := by
  unfold Block.processInnerTxForBalance at h
  unfold movedTokensOf
  generalize tx.kind = kind at hkind h ⊢
  cases kind with
  | ibcMsg msg =>
    cases msg with
    | none =>
      obtain rfl := Panicking.returns.inj h
      contradiction
    | some msg =>
      obtain ⟨result,hresult,rfl⟩ := Panicking.map_eq_returns.mp h
      split at hchange
      · obtain rfl := List.mem_singleton.mp hchange
        dsimp only
        rw [hresult]
        exact .inl (List.mem_singleton_self _)
      · contradiction
  | shieldedTransfer data =>
    obtain rfl := Panicking.returns.inj h
    obtain ⟨token,htoken,rfl⟩ := List.mem_map.mp hchange
    exact .inr (.inr htoken)
  | bond data | withdraw data | claimRewards data | initProposal data =>
    cases data with
    | none =>
      obtain rfl := Panicking.returns.inj h
      contradiction
    | some data =>
      obtain rfl := Panicking.returns.inj h
      obtain rfl := List.mem_singleton.mp hchange
      exact .inr (.inl rfl)
  | transparentTransfer data | shieldingTransfer data | unshieldingTransfer data
  | mixedTransfer data =>
    cases data with
    | none =>
      obtain rfl := Panicking.returns.inj h
      contradiction
    | some data => contradiction
  | ibcSendTrasparentTransfer token data | ibcRecvTrasparentTransfer token data
  | ibcShieldingTransfer token data | ibcUnshieldingTransfer token data => contradiction
  | _ =>
    obtain rfl := Panicking.returns.inj h
    contradiction

/-- Where the token of a change of a transaction comes from. -/
lemma token_of_process (hsdk : sdk.Lawful) (hnative : tx.kind.NativeIs nativeToken)
    (h : Block.processInnerTxForBalance sdk nativeToken ibcTokens tx = .returns own)
    {change : BalanceChange} (hchange : change ∈ own) :
    change.token.address.toString sdk ∈ movedTokensOf sdk nativeToken tx ∨
      change.token.address.toString sdk = nativeToken.toString sdk ∨ change.token ∈ ibcTokens ∨
      ∃ transfer token, tx.kind.transfer = some transfer ∧
        transfer.headline = some (.ibc token) ∧
        token.address.toString sdk = change.token.address.toString sdk := by
  cases hkind : tx.kind.transfer with
  | some transfer =>
    rw [process_eq_of_transfer hkind] at h
    obtain rfl := Panicking.returns.inj h
    cases hheadline : transfer.headline with
    | none =>
      obtain ⟨account,haccount,htoken⟩ := exists_account_of_mem_changes hsdk hheadline hchange
      rw [movedTokensOf_of_transfer hkind hheadline,←htoken]
      exact .inl (List.mem_map_of_mem haccount)
    | some token =>
      have htext := toString_of_mem_changes hsdk hheadline hchange
      cases token with
      | ibc token =>
        exact .inr (.inr (.inr ⟨transfer,token,rfl,hheadline,htext.symm⟩))
      | native token =>
        obtain rfl := hnative transfer _ hkind hheadline token rfl
        exact .inr (.inl htext)
  | none =>
    rcases token_of_process_of_not_transfer hkind h hchange with hmoved | htoken | hadded
    · exact .inl hmoved
    · rw [htoken]
      exact .inr (.inl rfl)
    · exact .inr (.inr (.inl hadded))

/-- A token that a transaction moves is the token of one of its changes. -/
lemma exists_change_of_moved (hsdk : sdk.Lawful)
    (h : Block.processInnerTxForBalance sdk nativeToken ibcTokens tx = .returns own)
    (htext : text ∈ movedTokensOf sdk nativeToken tx) :
    ∃ change ∈ own, change.token.address.toString sdk = text := by
  cases hkind : tx.kind.transfer with
  | some transfer =>
    rw [process_eq_of_transfer hkind] at h
    obtain rfl := Panicking.returns.inj h
    cases hheadline : transfer.headline with
    | none =>
      have hagree : transfer.TokensAgree sdk := tokensAgree_of_headline_none hheadline
      rw [movedTokensOf_of_transfer hkind hheadline] at htext
      obtain ⟨account,haccount,rfl⟩ := List.mem_map.mp htext
      exact ⟨_,change_mem_changes haccount,toString_change hsdk hagree haccount⟩
    | some token =>
      unfold movedTokensOf at htext
      generalize tx.kind = kind at hkind htext
      cases kind with
      | transparentTransfer data | shieldingTransfer data | unshieldingTransfer data
      | mixedTransfer data =>
        obtain ⟨data,-,rfl⟩ := Option.map_eq_some_iff.mp hkind
        contradiction
      | ibcMsg => contradiction
      | _ => exact (List.not_mem_nil htext).elim
  | none =>
    unfold Block.processInnerTxForBalance at h
    unfold movedTokensOf at htext
    generalize tx.kind = kind at hkind h htext
    cases kind with
    | ibcMsg msg =>
      cases msg with
      | none => exact (List.not_mem_nil htext).elim
      | some msg =>
        obtain ⟨result,hresult,rfl⟩ := Panicking.map_eq_returns.mp h
        dsimp only at htext
        rw [hresult] at htext
        split at htext
        · rename_i change hchange
          obtain rfl := Panicking.returns.inj hchange
          exact ⟨change,List.mem_singleton_self _,(List.mem_singleton.mp htext).symm⟩
        · exact (List.not_mem_nil htext).elim
    | transparentTransfer data | shieldingTransfer data | unshieldingTransfer data
    | mixedTransfer data =>
      cases data with
      | none => exact (List.not_mem_nil htext).elim
      | some data => contradiction
    | _ => exact (List.not_mem_nil htext).elim

end

section
variable {ctx : Context} {client : Client} {checksums : Checksums} {blockHeight : BlockHeight}
  {current : Current} {gathered : Gathered} {db db' : ChainDb} {text : String}

lemma mem_changesInOrder {sdk : Sdk} {block : Block} {nativeToken : Id} {ibcTokens : List Token}
    {addresses : List BalanceChange}
    (h : changesInOrder sdk block nativeToken ibcTokens = .returns addresses)
    {change : BalanceChange} :
    change ∈ addresses ↔ ∃ entry ∈ block.transactions,
      change ∈ Block.gasChanges block nativeToken entry.1 ∨
      ∃ tx ∈ entry.2, tx.wasSuccessful entry.1 = true ∧ ∃ own,
        Block.processInnerTxForBalance sdk nativeToken ibcTokens tx = .returns own ∧
        change ∈ own := by
  have hset : block.addressesWithBalanceChange sdk nativeToken ibcTokens =
      .returns addresses.toFinset := by
    rw [addressesWithBalanceChange_eq,h]
    rfl
  rw [←List.mem_toFinset]
  exact mem_addresses hset

lemma returns_process_of_changesInOrder {sdk : Sdk} {block : Block} {nativeToken : Id}
    {ibcTokens : List Token} {addresses : List BalanceChange}
    (h : changesInOrder sdk block nativeToken ibcTokens = .returns addresses)
    {wrapperTx : WrapperTransaction} {innerTxs : List InnerTransaction}
    (hentry : (wrapperTx,innerTxs) ∈ block.transactions) {tx : InnerTransaction}
    (htx : tx ∈ innerTxs) (hsuccess : tx.wasSuccessful wrapperTx = true) :
    (Block.processInnerTxForBalance sdk nativeToken ibcTokens tx).Returns := by
  obtain ⟨lists,hlists,-⟩ := Panicking.map_eq_returns.mp h
  obtain ⟨list,hlist⟩ := Panicking.returns_mapM_iff.mp ⟨lists,hlists⟩ _ hentry
  obtain ⟨changes,hchanges,-⟩ := Panicking.bind_eq_returns.mp hlist
  exact Panicking.returns_mapM_iff.mp ⟨changes,hchanges⟩ tx (List.mem_filter.mpr ⟨htx,hsuccess⟩)

/-- The tokens that a block adds are those that its IBC transfers carry. -/
lemma exists_mem_ibcTokens :
    (∃ token ∈ current.ibcTokens ctx, token.address.toString ctx.sdk = text) ↔
      CarriesToken ctx.sdk current.block text := by
  simp only [Current.ibcTokens,List.mem_map,ctx.order.mem_visit,List.mem_filterMap,
    ibcTokenOf_eq_some]
  constructor
  · rintro ⟨_,⟨token,⟨tx,htx,transfer,hkind,hheadline⟩,rfl⟩,htext⟩
    exact ⟨tx,htx,transfer,token,hkind,hheadline,htext⟩
  · rintro ⟨tx,htx,transfer,token,hkind,hheadline,htext⟩
    exact ⟨.ibc token,⟨token,⟨tx,htx,transfer,hkind,hheadline⟩,rfl⟩,htext⟩

lemma address_of_gasChanges {block : Block} {nativeToken : Id} {wrapperTx : WrapperTransaction}
    {change : BalanceChange} (h : change ∈ Block.gasChanges block nativeToken wrapperTx) :
    change.token.address = wrapperTx.fee.gasToken := by
  unfold Block.gasChanges at h
  rcases List.mem_cons.mp h with rfl | h
  · rfl
  · split at h
    · split at h
      · obtain rfl := List.mem_singleton.mp h
        rfl
      · contradiction
    · contradiction

lemma mem_movedTokens :
    text ∈ current.movedTokens ctx ↔
      (∃ wrapperTx ∈ current.block.wrapperTxs, wrapperTx.fee.gasToken.toString ctx.sdk = text) ∨
      ∃ tx ∈ current.block.successfulInnerTxs,
        text ∈ movedTokensOf ctx.sdk (current.nativeId ctx) tx := by
  rw [Current.movedTokens,List.mem_append,List.mem_map,List.mem_flatMap]

/-- The tokens in the table after `insert_tokens`. -/
lemma mem_keys_insertTokens (h : insertTokens ctx (current.ibcTokens ctx) db = some db') :
    text ∈ db'.tokens.keys ↔ text ∈ db.tokens.keys ∨ CarriesToken ctx.sdk current.block text := by
  obtain ⟨-,-,rfl⟩ := insertTokens_eq_some.mp h
  rw [Table.mem_keys_insertOrIgnore,List.map_map,List.mem_map,←exists_mem_ibcTokens]
  have haddress : ∀ token,
      (TokenDb.ofToken ctx token).address = token.address.toString ctx.sdk := by
    intro token
    cases token <;> rfl
  simp only [Function.comp_apply,haddress]

lemma nativeIs_of_readBlock
    (h : (readBlock ctx client checksums blockHeight).run = .returns (.ok current)) :
    ∀ tx ∈ current.block.successfulInnerTxs, tx.kind.NativeIs (current.nativeId ctx) := by
  have hreads := reads_of_readBlock h
  have hblock := hreads.block
  unfold getBlock at hblock
  obtain ⟨blockResults,-,hblock⟩ := Panicking.run_bind_eq_ok.mp hblock
  obtain ⟨proposer,-,hblock⟩ := Panicking.run_bind_eq_ok.mp hblock
  intro tx htx
  obtain ⟨wrapperTx,innerTxs,hentry,hmem,-⟩ :=
    (Block.mem_successfulInnerTxs current.block).mp htx
  have hinner : tx ∈ current.block.innerTxs := List.mem_flatMap.mpr ⟨_,hentry,hmem⟩
  rw [Current.nativeId,hreads.nativeToken]
  exact nativeIs_of_ofResponse (run_mayPanic_eq_ok.mp hblock) tx hinner

/-- The supplies of a block are those of the tokens of its changes. -/
lemma addresses_of_queryTokenSupplies {tokens : List Token} {epoch : Epoch}
    {supplies : List TokenSupply} (h : queryTokenSupplies ctx client tokens epoch = some supplies) :
    (∃ supply ∈ supplies, supply.address = text) ↔
      ∃ token ∈ tokens, token.address.toString ctx.sdk = text := by
  have haddresses : supplies.map TokenSupply.address =
      (ctx.order.visit tokens).map fun token => token.address.toString ctx.sdk := by
    apply map_of_mapM h
    intro token htoken supply hsupply
    obtain ⟨address,-,hsupply⟩ := Option.bind_eq_some_iff.mp hsupply
    obtain ⟨total,-,hsupply⟩ := Option.bind_eq_some_iff.mp hsupply
    cases token with
    | ibc token =>
      obtain rfl := Option.some.inj hsupply
      rfl
    | native token =>
      obtain ⟨effective,-,hsupply⟩ := Option.bind_eq_some_iff.mp hsupply
      obtain rfl := Option.some.inj hsupply
      rfl
  rw [←List.mem_map,haddresses,List.mem_map]
  simp only [ctx.order.mem_visit]

/-- The changes of the transactions of a block show the tokens that it moves, the native token
and the tokens that it adds. -/
lemma text_of_changesInOrder (hsdk : ctx.sdk.Lawful)
    (hread : (readBlock ctx client checksums blockHeight).run = .returns (.ok current))
    {addresses : List BalanceChange}
    (h : changesInOrder ctx.sdk current.block (current.nativeId ctx) (current.ibcTokens ctx) =
      .returns addresses) {change : BalanceChange} (hchange : change ∈ addresses) :
    change.token.address.toString ctx.sdk ∈ current.movedTokens ctx ∨
      change.token.address.toString ctx.sdk = (current.nativeId ctx).toString ctx.sdk ∨
      CarriesToken ctx.sdk current.block (change.token.address.toString ctx.sdk) := by
  obtain ⟨entry,hentry,hgas | ⟨tx,htx,hsuccess,own,hown,hmem⟩⟩ := (mem_changesInOrder h).mp hchange
  · refine .inl (mem_movedTokens.mpr (.inl ⟨entry.1,List.mem_map_of_mem hentry,?_⟩))
    rw [address_of_gasChanges hgas]
  · have hsuccessful : tx ∈ current.block.successfulInnerTxs :=
      (Block.mem_successfulInnerTxs current.block).mpr ⟨entry.1,entry.2,hentry,htx,hsuccess⟩
    rcases token_of_process hsdk (nativeIs_of_readBlock hread tx hsuccessful) hown hmem with
      hmoved | hnative | hadded | hcarried
    · exact .inl (mem_movedTokens.mpr (.inr ⟨tx,hsuccessful,hmoved⟩))
    · exact .inr (.inl hnative)
    · exact .inr (.inr (exists_mem_ibcTokens.mp ⟨change.token,hadded,rfl⟩))
    · exact .inr (.inr ⟨tx,hsuccessful,hcarried⟩)

/-- The other pairs that may change with a block are in the native token. -/
lemma token_of_changed {node : Node} {addresses : List BalanceChange}
    (h : changesInOrder ctx.sdk current.block (current.nativeId ctx) (current.ibcTokens ctx) =
      .returns addresses) {change : BalanceChange} (hchanged : Changed ctx node current db change) :
    change ∈ addresses ∨ change.token = .native (current.nativeId ctx) := by
  cases hchanged with
  | transaction hblock hmem =>
    obtain rfl := Panicking.returns.inj (h.symm.trans hblock)
    exact .inl hmem
  | proposer hmem =>
    obtain ⟨address,-,rfl⟩ := Option.map_eq_some_iff.mp (Option.mem_toList.mp hmem)
    exact .inr rfl
  | recipient hepoch hmem =>
    obtain ⟨row,-,rfl⟩ := List.mem_map.mp hmem
    exact .inr rfl
  | validator hepoch hmem => exact .inr rfl
  | native hmem =>
    obtain ⟨address,-,rfl⟩ := List.mem_map.mp hmem
    exact .inr rfl

/-- Every token that a block moves is the token of a change of it. -/
lemma exists_change_of_movedTokens (hsdk : ctx.sdk.Lawful) {addresses : List BalanceChange}
    (h : changesInOrder ctx.sdk current.block (current.nativeId ctx) (current.ibcTokens ctx) =
      .returns addresses) (htext : text ∈ current.movedTokens ctx) :
    ∃ change ∈ addresses, change.token.address.toString ctx.sdk = text := by
  rcases mem_movedTokens.mp htext with ⟨wrapperTx,hwrapper,rfl⟩ | ⟨tx,htx,hmoved⟩
  · obtain ⟨entry,hentry,rfl⟩ := List.mem_map.mp hwrapper
    refine ⟨⟨entry.1.fee.gasPayer,.native entry.1.fee.gasToken⟩,?_,rfl⟩
    exact (mem_changesInOrder h).mpr ⟨entry,hentry,.inl List.mem_cons_self⟩
  · obtain ⟨wrapperTx,innerTxs,hentry,hmem,hsuccess⟩ :=
      (Block.mem_successfulInnerTxs current.block).mp htx
    obtain ⟨own,hown⟩ := returns_process_of_changesInOrder h hentry hmem hsuccess
    obtain ⟨change,hchange,hshows⟩ := exists_change_of_moved hsdk hown hmoved
    refine ⟨change,(mem_changesInOrder h).mpr ⟨_,hentry,.inr ⟨tx,hmem,hsuccess,own,hown,hchange⟩⟩,
      hshows⟩

/-- A call keeps the tokens of the table. -/
lemma mem_keys_step {pass : Pass} (hstep : pass.step ctx db = some db')
    (htext : text ∈ db.tokens.keys) : text ∈ db'.tokens.keys := by
  cases pass with
  | initialQuery client checksums =>
    obtain ⟨data,-,-,-,hcommit⟩ := tryInitialQuery_eq_ok (resultOf_eq_some.mp hstep)
    rw [(committed_of_commitInitial hcommit).tokens,Table.mem_keys_insertOrIgnore]
    exact .inl htext
  | block client checksums blockHeight shouldUpdateCrawlerState =>
    obtain ⟨gathered,-,-,hcommit⟩ := crawlingFn_eq_ok (resultOf_eq_some.mp hstep)
    rw [(committed_of_commit hcommit).tokens,Table.mem_keys_insertOrIgnore]
    exact .inl htext

/-- The initial query stores the native token. -/
lemma native_mem_keys_initialQuery
    (h : (tryInitialQuery ctx client checksums db).run = .returns (.ok db')) :
    (Id.ofAddress ctx.sdk client.node.nativeToken).toString ctx.sdk ∈ db'.tokens.keys := by
  obtain ⟨data,-,htokens,-,hcommit⟩ := tryInitialQuery_eq_ok h
  obtain ⟨ibcTokens,-,htokens⟩ := Option.bind_eq_some_iff.mp htokens
  obtain ⟨native,hnative,htokens⟩ := Option.bind_eq_some_iff.mp htokens
  obtain ⟨-,rfl⟩ := ask_eq_some.mp hnative
  have hmem : Token.native (.ofAddress ctx.sdk client.node.nativeToken) ∈ data.tokens := by
    rw [←Option.some.inj htokens]
    exact List.mem_append_right _ (List.mem_singleton_self _)
  rw [(committed_of_commitInitial hcommit).tokens,Table.mem_keys_insertOrIgnore,List.map_map]
  exact .inr (List.mem_map_of_mem hmem)

/-- Rows whose references are all there. -/
lemma references_of_forall {ρ κ ι : Type*} {key : ρ → κ} [DecidableEq κ] {table : Table key}
    {rows : List ρ} {reference : ρ → ι} {targets : List ι}
    (h : ∀ row ∈ rows, reference row ∈ targets) : References table rows reference targets :=
  fun row hrow => .inr (h row hrow)

/-- The token rows of a block are known if the table has the native token and the block moves
known tokens only. -/
lemma tokensKnown_iff (hsdk : ctx.sdk.Lawful)
    (hread : (readBlock ctx client checksums blockHeight).run = .returns (.ok gathered.current))
    (hgathers : Gathers ctx client db gathered)
    (hinsert : insertTokens ctx (gathered.current.ibcTokens ctx) db = some db')
    (hnative : (gathered.current.nativeId ctx).toString ctx.sdk ∈ db.tokens.keys) :
    TokensKnown ctx gathered db' ↔ MovesKnown ctx gathered.current db := by
  obtain ⟨addresses,haddresses,hsupplies,-⟩ := hgathers.changes
  have hsupply : ∀ text, (∃ supply ∈ gathered.tokenSupplies, supply.address = text) ↔
      ∃ change ∈ addresses, change.token.address.toString ctx.sdk = text := by
    intro text
    rw [addresses_of_queryTokenSupplies hsupplies]
    simp
  constructor
  · intro hknown text htext
    obtain ⟨change,hchange,hshows⟩ := exists_change_of_movedTokens hsdk haddresses htext
    obtain ⟨supply,hmem,haddress⟩ := (hsupply text).mpr ⟨change,hchange,hshows⟩
    rw [←mem_keys_insertTokens hinsert,←haddress]
    exact hknown.supplies supply hmem
  · intro hmoves
    have hchanges : ∀ change ∈ addresses,
        change.token.address.toString ctx.sdk ∈ db'.tokens.keys := by
      intro change hchange
      rw [mem_keys_insertTokens hinsert]
      rcases text_of_changesInOrder hsdk hread haddresses hchange with hmoved | hsame | hadded
      · exact hmoves _ hmoved
      · exact .inl (hsame ▸ hnative)
      · exact .inr hadded
    have hbalances : ∀ balance ∈ gathered.balances,
        balance.token.address.toString ctx.sdk ∈ db'.tokens.keys := by
      intro balance hbalance
      obtain ⟨change,hchanged,hquery⟩ := (mem_balances hgathers).mp hbalance
      obtain ⟨-,-,htoken,-⟩ := queryBalanceOf_eq_some hquery
      rw [htoken]
      rcases token_of_changed haddresses hchanged with hmem | hsame
      · exact hchanges change hmem
      · rw [hsame,mem_keys_insertTokens hinsert]
        exact .inl hnative
    have hknown : ∀ supply ∈ gathered.tokenSupplies, supply.address ∈ db'.tokens.keys := by
      intro supply hmem
      obtain ⟨change,hchange,hshows⟩ := (hsupply _).mp ⟨supply,hmem,rfl⟩
      rw [←hshows]
      exact hchanges change hchange
    refine ⟨hbalances,hknown,references_of_forall ?_,references_of_forall ?_⟩
    · intro row hrow
      obtain ⟨balance,hbalance,rfl⟩ := List.mem_map.mp hrow
      exact hbalances balance hbalance
    · intro row hrow
      obtain ⟨supply,hmem,rfl⟩ := List.mem_map.mp hrow
      exact hknown supply hmem

end

/-- In every run that starts with the initial query, the rows of the next block refer to known
tokens, once `insert_tokens` has run, if and only if the block moves known tokens only. -/
theorem tokens_known_iff (ctx : Context) (hsdk : ctx.sdk.Lawful) (db : ChainDb) (first : Client)
    (firstChecksums : Checksums) (blocks : List Pass) (db₁ : ChainDb)
    (hrun : Runs.execute (Pass.step ctx) db (.initialQuery first firstChecksums :: blocks) =
      some db₁) (client : Client) (hnative : client.node.nativeToken = first.node.nativeToken)
    (checksums : Checksums) (blockHeight : BlockHeight) (current : Current)
    (hread : (readBlock ctx client checksums blockHeight).run = .returns (.ok current))
    (gathered : Gathered) (hgather : (gather ctx client current db₁).run = .returns (.ok gathered))
    (db₂ : ChainDb) (hinsert : insertTokens ctx (current.ibcTokens ctx) db₁ = some db₂) :
    TokensKnown ctx gathered db₂ ↔ MovesKnown ctx current db₁ := by
  obtain ⟨rfl,hgathers⟩ := gathers_of_gather hgather
  obtain ⟨db₀,hfirst,hblocks⟩ := Runs.execute_cons_eq_some.mp hrun
  have hstart : (Id.ofAddress ctx.sdk first.node.nativeToken).toString ctx.sdk ∈
      db₀.tokens.keys := native_mem_keys_initialQuery (resultOf_eq_some.mp hfirst)
  have hkept : (Id.ofAddress ctx.sdk first.node.nativeToken).toString ctx.sdk ∈
      db₁.tokens.keys := by
    refine Runs.execute_invariant
      (fun db => (Id.ofAddress ctx.sdk first.node.nativeToken).toString ctx.sdk ∈ db.tokens.keys)
      ?_ hstart (Runs.along_of_forall (p := fun _ => True) fun _ _ => trivial) hblocks
    exact fun _ _ _ hmem _ hstep => mem_keys_step hstep hmem
  refine tokensKnown_iff hsdk hread hgathers hinsert ?_
  rw [Current.nativeId,(reads_of_readBlock hread).nativeToken,hnative]
  exact hkept

/-- The crawler starts with block 5. -/
def firstPass (checksums : Checksums) : Pass :=
  .initialQuery ⟨sampleNode 5 4 fun _ => 1,fun _ => false⟩ checksums

/-- The node at the next block. -/
def nextClient : Client := ⟨sampleNode 6 4 fun _ => 1,fun _ => false⟩

/-- A bond, with its gas paid in the native token. -/
theorem tokens_known_bond :
    ∃ db₁ current gathered db₂, Runs.execute (Pass.step (sampleContext bondTx)) .empty
        [firstPass bondChecksums] = some db₁ ∧
      (readBlock (sampleContext bondTx) nextClient bondChecksums 6).run =
        .returns (.ok current) ∧
      (gather (sampleContext bondTx) nextClient current db₁).run = .returns (.ok gathered) ∧
      insertTokens (sampleContext bondTx) (current.ibcTokens (sampleContext bondTx)) db₁ =
        some db₂ ∧
      TokensKnown (sampleContext bondTx) gathered db₂ := by
  have hrun : ((Runs.execute (Pass.step (sampleContext bondTx)) .empty
      [firstPass bondChecksums]).bind fun db₁ =>
        (resultOf (readBlock (sampleContext bondTx) nextClient bondChecksums 6)).bind fun current =>
          (resultOf (gather (sampleContext bondTx) nextClient current db₁)).bind fun _ =>
            (insertTokens (sampleContext bondTx) (current.ibcTokens (sampleContext bondTx))
              db₁).map fun _ => decide (∀ text ∈ current.movedTokens (sampleContext bondTx),
                text ∈ db₁.tokens.keys)) = some true := by
    decide +kernel
  obtain ⟨db₁,hfirst,hrun⟩ := Option.bind_eq_some_iff.mp hrun
  obtain ⟨current,hcurrent,hrun⟩ := Option.bind_eq_some_iff.mp hrun
  obtain ⟨gathered,hgathered,hrun⟩ := Option.bind_eq_some_iff.mp hrun
  obtain ⟨db₂,hinsert,hmoved⟩ := Option.map_eq_some_iff.mp hrun
  have hread := resultOf_eq_some.mp hcurrent
  have hgather := resultOf_eq_some.mp hgathered
  refine ⟨db₁,current,gathered,db₂,hfirst,hread,hgather,hinsert,?_⟩
  apply (tokens_known_iff (sampleContext bondTx) (lawful_sampleContext bondTx) .empty
    ⟨sampleNode 5 4 fun _ => 1,fun _ => false⟩ bondChecksums [] db₁ hfirst nextClient rfl
    bondChecksums 6 current hread gathered hgather db₂ hinsert).mpr
  intro text htext
  exact .inl (of_decide_eq_true hmoved text htext)

/-- A transfer of a token that exists since the genesis of the chain. -/
def genesisTransfer : Transfer where
  sources := [(⟨.implicit "payer",.established "btc"⟩,⟨5,0⟩)]
  targets := [(⟨.implicit "friend",.established "btc"⟩,⟨5,0⟩)]
  shieldedSectionHash := none

def genesisContext : Context :=
  { sampleContext bondTx with
    sdk := { (sampleContext bondTx).sdk with
      transferTryFromSlice := fun _ => some genesisTransfer } }

/-- The checksums under which the code of the transfer is known. -/
def transferChecksums : Checksums := ⟨[("tx_transfer","a")],[]⟩

/-- The block with the transfer is rejected for the token. -/
theorem genesis_token_unknown :
    ∃ db₁ current gathered db₂, Runs.execute (Pass.step genesisContext) .empty
        [firstPass transferChecksums] = some db₁ ∧
      (readBlock genesisContext nextClient transferChecksums 6).run = .returns (.ok current) ∧
      (gather genesisContext nextClient current db₁).run = .returns (.ok gathered) ∧
      insertTokens genesisContext (current.ibcTokens genesisContext) db₁ = some db₂ ∧
      ¬ TokensKnown genesisContext gathered db₂ ∧
      commit genesisContext true gathered db₁ = none := by
  have hrun : ((Runs.execute (Pass.step genesisContext) .empty
      [firstPass transferChecksums]).bind fun db₁ =>
        (resultOf (readBlock genesisContext nextClient transferChecksums 6)).bind fun current =>
          (resultOf (gather genesisContext nextClient current db₁)).bind fun gathered =>
            (insertTokens genesisContext (current.ibcTokens genesisContext) db₁).map fun db₂ =>
              (decide (∀ supply ∈ gathered.tokenSupplies, supply.address ∈ db₂.tokens.keys),
                (commit genesisContext true gathered db₁).isNone)) = some (false,true) := by
    decide +kernel
  obtain ⟨db₁,hfirst,hrun⟩ := Option.bind_eq_some_iff.mp hrun
  obtain ⟨current,hcurrent,hrun⟩ := Option.bind_eq_some_iff.mp hrun
  obtain ⟨gathered,hgathered,hrun⟩ := Option.bind_eq_some_iff.mp hrun
  obtain ⟨db₂,hinsert,hrun⟩ := Option.map_eq_some_iff.mp hrun
  obtain ⟨hsupplies,hnone⟩ := Prod.mk.inj hrun
  refine ⟨db₁,current,gathered,db₂,hfirst,resultOf_eq_some.mp hcurrent,
    resultOf_eq_some.mp hgathered,hinsert,?_,Option.isNone_iff_eq_none.mp hnone⟩
  intro hknown
  exact of_decide_eq_false hsupplies hknown.supplies

end NamadaIndexer.Chain
