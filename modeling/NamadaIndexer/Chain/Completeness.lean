import Mathlib.Data.List.ReduceOption
import NamadaIndexer.Chain.Bonds

/-! A block under failing queries. The balances, the bonds and the unbonds of a pair are left
out when the query for the pair fails, and the block is committed without them. -/
namespace NamadaIndexer.Chain
open NamadaIndexer.Foundation NamadaIndexer.Shared NamadaIndexer.Governance

/-- The pairs of an owner and a token that may change with a block. -/
inductive Changed (ctx : Context) (node : Node) (current : Current) (db : ChainDb) :
    BalanceChange → Prop
  | transaction {addresses : List BalanceChange} {change : BalanceChange}
    (hblock : changesInOrder ctx.sdk current.block (current.nativeId ctx) (current.ibcTokens ctx) =
      .returns addresses) (hmem : change ∈ addresses) : Changed ctx node current db change
  | proposer {change : BalanceChange} (hmem : change ∈ proposerChanges ctx current) :
    Changed ctx node current db change
  | recipient {change : BalanceChange} (hepoch : current.newEpoch = true)
    (hmem : change ∈ getPgfReceipientsBalanceChanges (current.nativeId ctx) db) :
    Changed ctx node current db change
  | validator {address : Address} (hepoch : current.newEpoch = true)
    (hmem : address ∈ node.consensusValidators
      (if current.epoch = 0 then 0 else current.epoch - 1)) :
    Changed ctx node current db ⟨.ofAddress ctx.sdk address,.native (current.nativeId ctx)⟩
  | native {change : BalanceChange}
    (hmem : change ∈ queryNativeAddressesBalanceChange ctx (.native (current.nativeId ctx))) :
    Changed ctx node current db change

/-- The pairs that an unbond is about. -/
def Unbonds (block : Block) (source validator : Address) : Prop :=
  ∃ tx ∈ block.successfulInnerTxs, ∃ data : Unbond, tx.kind = .unbond (some data) ∧
    source = data.source.getD data.validator ∧ validator = data.validator

/-- The pairs that a withdrawal is about. -/
def Withdraws (block : Block) (source validator : Address) : Prop :=
  ∃ tx ∈ block.successfulInnerTxs, ∃ data : Withdraw, tx.kind = .withdraw (some data) ∧
    source = data.source.getD data.validator ∧ validator = data.validator

/-- The unbonds of a pair that can be withdrawn from an epoch on have this amount together. -/
def Node.UnbondAt (node : Node) (source validator : Address) (epoch : ℤ) (amount : ℕ) : Prop :=
  Grouped (fun unbond : UInt64 × UInt64 × Amount => (unbond.2.1.toNat : ℤ))
    (fun unbond => unbond.2.2.val) (node.unbondWithSlashing source validator) epoch amount

def ChainDb.HasUnbond (db : ChainDb) (address validator : String) (epoch : ℤ) (amount : ℕ) :
    Prop :=
  ∃ row ∈ db.unbonds.rows, row.address = address ∧ row.validator = validator ∧
    row.withdrawEpoch.toInt = epoch ∧ row.rawAmount.val = amount

/-- A balance of the pair is there, as of the height. -/
def ChainDb.HasBalance (sdk : Sdk) (db : ChainDb) (change : BalanceChange) (height : BlockHeight) :
    Prop :=
  (change.address.toString sdk,change.token.address.toString sdk,height.toInt32) ∈
    db.balanceChanges.keys

/-- The database has everything that the block calls for. -/
structure IndexedWhole (ctx : Context) (node : Node) (current : Current) (db db' : ChainDb) :
    Prop where
  balances : ∀ change, Changed ctx node current db change →
    (∃ owner, ctx.sdk.decode (change.address.toString ctx.sdk) = some owner) →
      db'.HasBalance ctx.sdk change current.blockHeight
  bonds : ∀ source validator, Touches current.block source validator →
    BondsFollow ctx node db' source validator
  unbonds : ∀ source validator, Unbonds current.block source validator → ∀ epoch amount,
    node.UnbondAt source validator epoch amount →
      db'.HasUnbond (ctx.sdk.encode source) (ctx.sdk.encode validator) epoch amount

/-- The query for the balance of a pair does not fail. -/
def BalanceAnswered (sdk : Sdk) (client : Client) (height : BlockHeight) (change : BalanceChange) :
    Prop :=
  ∃ owner token, sdk.decode (change.address.toString sdk) = some owner ∧
    change.token.address.toAddress sdk = .returns token ∧
    client.fails (.balance token owner height) = false

def UnbondsAnswered (client : Client) (source validator : Address) : Prop :=
  client.fails (.unbondWithSlashing source validator) = false

/-- The withdrawals of the block remove the unbonds of a source and a validator, also when each
of the two comes from a withdrawal of its own. -/
def RemovedByWithdraws (current : Current) (source validator : Address) (epoch : ℤ) : Prop :=
  (∃ other, Withdraws current.block source other) ∧
    (∃ other, Withdraws current.block other validator) ∧ epoch ≤ current.epoch.toInt32.toInt

/-- What a failed query leaves out is there already, and what is stored fits and stays. -/
structure NothingMissed (ctx : Context) (client : Client) (current : Current) (db : ChainDb) :
    Prop where
  balances : ∀ change, Changed ctx client.node current db change →
    (∃ owner, ctx.sdk.decode (change.address.toString ctx.sdk) = some owner) →
      db.HasBalance ctx.sdk change current.blockHeight ∨
      ∃ other, Changed ctx client.node current db other ∧
        other.address.toString ctx.sdk = change.address.toString ctx.sdk ∧
        other.token.address.toString ctx.sdk = change.token.address.toString ctx.sdk ∧
        BalanceAnswered ctx.sdk client current.blockHeight other
  bonds : ∀ source validator, Touches current.block source validator →
    (Answered client source validator ∧
      ∀ bond ∈ client.node.bondsOf source validator, bond.start.toNat < 2^31) ∨
    (¬ Answered client source validator ∧ BondsFollow ctx client.node db source validator)
  unbonds : ∀ source validator, Unbonds current.block source validator → ∀ epoch amount,
    client.node.UnbondAt source validator epoch amount →
      epoch < 2^31 ∧ ¬ RemovedByWithdraws current source validator epoch ∧
      (UnbondsAnswered client source validator ∨
        db.HasUnbond (ctx.sdk.encode source) (ctx.sdk.encode validator) epoch amount)

section
variable {ctx : Context} {client : Client} {db db' : ChainDb} {gathered : Gathered}
  {shouldUpdateCrawlerState : Bool}

/-- The gathered changes are the pairs that may change with the block. -/
lemma mem_changes (h : Gathers ctx client db gathered) {change : BalanceChange} :
    change ∈ gathered.changes ↔ Changed ctx client.node gathered.current db change := by
  obtain ⟨addresses,hblock,-,hchanges⟩ := h.changes
  unfold allBalanceChanges at hchanges
  obtain ⟨validators,hvalidators,hchanges⟩ := Panicking.run_bind_eq_ok.mp hchanges
  obtain ⟨recipients,hrecipients,hchanges⟩ := Panicking.run_bind_eq_ok.mp hchanges
  rw [run_orError_eq_ok] at hvalidators hrecipients
  rw [←Panicking.run_pure_eq_ok.mp hchanges]
  simp only [List.mem_append]
  have hvalidator : change ∈ validators ↔ gathered.current.newEpoch = true ∧
      ∃ address ∈ client.node.consensusValidators
          (if gathered.current.epoch = 0 then 0 else gathered.current.epoch - 1),
        ⟨.ofAddress ctx.sdk address,.native (gathered.current.nativeId ctx)⟩ = change := by
    unfold validatorChanges at hvalidators
    split at hvalidators
    · rename_i hepoch
      obtain ⟨answer,hanswer,rfl⟩ := Option.map_eq_some_iff.mp hvalidators
      obtain ⟨-,rfl⟩ := ask_eq_some.mp hanswer
      rw [List.mem_map]
      exact ⟨fun h => ⟨hepoch,h⟩,And.right⟩
    · rename_i hepoch
      obtain rfl := Option.some.inj hvalidators
      exact ⟨fun h => by contradiction,fun h => (hepoch h.1).elim⟩
  have hrecipient : change ∈ recipients ↔ gathered.current.newEpoch = true ∧
      change ∈ getPgfReceipientsBalanceChanges (gathered.current.nativeId ctx) db := by
    unfold pgfChanges at hrecipients
    split at hrecipients
    · rename_i hepoch
      obtain ⟨-,rfl⟩ := ask_eq_some.mp hrecipients
      exact ⟨fun h => ⟨hepoch,h⟩,And.right⟩
    · rename_i hepoch
      obtain rfl := Option.some.inj hrecipients
      exact ⟨fun h => by contradiction,fun h => (hepoch h.1).elim⟩
  rw [hvalidator,hrecipient]
  constructor
  · rintro ((((hmem | hmem) | ⟨hepoch,hmem⟩) | ⟨hepoch,address,hmem,rfl⟩) | hmem)
    · exact .transaction hblock hmem
    · exact .proposer hmem
    · exact .recipient hepoch hmem
    · exact .validator hepoch hmem
    · exact .native hmem
  · intro hchanged
    cases hchanged with
    | @transaction addresses' _ hblock' hmem =>
      obtain rfl := Panicking.returns.inj (hblock.symm.trans hblock')
      exact .inl (.inl (.inl (.inl hmem)))
    | proposer hmem => exact .inl (.inl (.inl (.inr hmem)))
    | recipient hepoch hmem => exact .inl (.inl (.inr ⟨hepoch,hmem⟩))
    | validator hepoch hmem => exact .inl (.inr ⟨hepoch,_,hmem,rfl⟩)
    | native hmem => exact .inr hmem

/-- A balance is gathered for the pairs whose query is answered. -/
lemma mem_balances (h : Gathers ctx client db gathered) {balance : Balance} :
    balance ∈ gathered.balances ↔ ∃ change, Changed ctx client.node gathered.current db change ∧
      queryBalanceOf ctx client gathered.current.blockHeight change = .returns (some balance) := by
  obtain ⟨lists,hlists,hbalances⟩ := Panicking.map_eq_returns.mp h.balances
  rw [←hbalances,List.reduceOption_mem_iff,Panicking.mem_of_mapM_returns hlists]
  simp only [ctx.order.mem_visit,mem_changes h]

lemma queryBalanceOf_eq_some {height : BlockHeight} {change : BalanceChange} {balance : Balance}
    (h : queryBalanceOf ctx client height change = .returns (some balance)) :
    BalanceAnswered ctx.sdk client height change ∧ balance.owner = change.address ∧
      balance.token = change.token ∧ balance.height = height := by
  unfold queryBalanceOf at h
  split at h
  · cases h
  · rename_i owner howner
    obtain ⟨token,htoken,h⟩ := Panicking.bind_eq_returns.mp h
    have hsome := Panicking.returns.inj h
    obtain ⟨amount,hamount,rfl⟩ := Option.map_eq_some_iff.mp hsome
    obtain ⟨hanswered,-⟩ := ask_eq_some.mp hamount
    exact ⟨⟨owner,token,howner,htoken,hanswered⟩,rfl,rfl,rfl⟩

lemma exists_balance_of_answered {height : BlockHeight} {change : BalanceChange}
    (h : BalanceAnswered ctx.sdk client height change) : ∃ balance,
      queryBalanceOf ctx client height change = .returns (some balance) ∧
        balance.owner = change.address ∧ balance.token = change.token ∧
        balance.height = height := by
  obtain ⟨owner,token,howner,htoken,hanswered⟩ := h
  refine ⟨⟨change.address,change.token,client.node.balance token owner height,height⟩,?_,rfl,rfl,
    rfl⟩
  unfold queryBalanceOf
  rw [howner]
  dsimp only
  rw [htoken,Panicking.returns_bind,Client.ask,hanswered]
  rfl

/-- The balance rows after the block. -/
lemma hasBalance_committed (h : Gathers ctx client db gathered)
    (hcommitted : Committed ctx shouldUpdateCrawlerState gathered db db')
    {change : BalanceChange} :
    db'.HasBalance ctx.sdk change gathered.current.blockHeight ↔
      db.HasBalance ctx.sdk change gathered.current.blockHeight ∨
      ∃ other, Changed ctx client.node gathered.current db other ∧
        other.address.toString ctx.sdk = change.address.toString ctx.sdk ∧
        other.token.address.toString ctx.sdk = change.token.address.toString ctx.sdk ∧
        BalanceAnswered ctx.sdk client gathered.current.blockHeight other := by
  unfold ChainDb.HasBalance
  rw [hcommitted.balanceChanges,Table.mem_keys_insertOrIgnore,List.map_map,List.mem_map]
  refine or_congr_right ?_
  simp only [Function.comp_apply,BalanceChangesDb.key,BalanceChangesDb.fromBalance,Prod.mk.injEq]
  constructor
  · rintro ⟨balance,hbalance,howner,htoken,-⟩
    obtain ⟨other,hchanged,hquery⟩ := (mem_balances h).mp hbalance
    obtain ⟨hanswered,hsameOwner,hsameToken,-⟩ := queryBalanceOf_eq_some hquery
    exact ⟨other,hchanged,hsameOwner ▸ howner,hsameToken ▸ htoken,hanswered⟩
  · rintro ⟨other,hchanged,howner,htoken,hanswered⟩
    obtain ⟨balance,hquery,hsameOwner,hsameToken,hheight⟩ := exists_balance_of_answered hanswered
    refine ⟨balance,(mem_balances h).mpr ⟨other,hchanged,hquery⟩,?_,?_,?_⟩
    · rw [hsameOwner,howner]
    · rw [hsameToken,htoken]
    · rw [hheight]

/-- Bonds that the rows of a pair follow start at epochs that fit the column. -/
lemma start_lt_of_bondsFollow {node : Node} {source validator : Address}
    (h : BondsFollow ctx node db source validator) :
    ∀ bond ∈ node.bondsOf source validator, bond.start.toNat < 2^31 := by
  intro bond hbond
  obtain ⟨amount,hbondAt⟩ : ∃ amount, node.BondAt source validator bond.start.toNat amount :=
    Grouped.exists_iff.mpr ⟨bond,hbond,rfl⟩
  obtain ⟨row,-,-,-,hstart,-⟩ := (h _ _).mpr hbondAt
  have hbound := row.start.toInt_lt
  omega

lemma bondsFollow_congr {node : Node} {source validator : Address}
    (h : ∀ row, row.address = ctx.sdk.encode source → row.validator = ctx.sdk.encode validator →
      (row ∈ db'.bonds.rows ↔ row ∈ db.bonds.rows)) :
    BondsFollow ctx node db' source validator ↔ BondsFollow ctx node db source validator := by
  have hsame : ∀ start amount,
      db'.HasBond (ctx.sdk.encode source) (ctx.sdk.encode validator) start amount ↔
        db.HasBond (ctx.sdk.encode source) (ctx.sdk.encode validator) start amount := by
    intro start amount
    constructor
    · rintro ⟨row,hrow,haddress,hvalidator,hrest⟩
      exact ⟨row,(h row haddress hvalidator).mp hrow,haddress,hvalidator,hrest⟩
    · rintro ⟨row,hrow,haddress,hvalidator,hrest⟩
      exact ⟨row,(h row haddress hvalidator).mpr hrow,haddress,hvalidator,hrest⟩
  exact forall₂_congr fun start amount => by rw [hsame start amount]

/-- The bonds after the block: an answered pair follows the node if its epochs fit, another pair
if it did before. -/
lemma bondsFollow_iff (hsdk : ctx.sdk.Lawful) (hdecodes : ctx.sdk.DecodesEncoded)
    (hanswers : client.node.AnswersPairs) (h : Gathers ctx client db gathered)
    (hcommitted : Committed ctx shouldUpdateCrawlerState gathered db db') :
    (∀ source validator, Touches gathered.current.block source validator →
      BondsFollow ctx client.node db' source validator) ↔
    ∀ source validator, Touches gathered.current.block source validator →
      (Answered client source validator ∧
        ∀ bond ∈ client.node.bondsOf source validator, bond.start.toNat < 2^31) ∨
      (¬ Answered client source validator ∧ BondsFollow ctx client.node db source validator) := by
  have hother : StartsFit client gathered.current.block → ∀ source validator,
      ¬ Answered client source validator →
        (BondsFollow ctx client.node db' source validator ↔
          BondsFollow ctx client.node db source validator) := by
    intro hstarts source validator hnot
    apply bondsFollow_congr
    intro row haddress hvalidator
    apply mem_bonds_of_other hsdk hdecodes hanswers h hstarts hcommitted
    rintro ⟨source',validator',-,hanswered,haddress',hvalidator'⟩
    obtain rfl := hdecodes.encode_injective (haddress.symm.trans haddress')
    obtain rfl := hdecodes.encode_injective (hvalidator.symm.trans hvalidator')
    exact hnot hanswered
  constructor
  · intro hfollow source validator htouched
    have hstarts : StartsFit client gathered.current.block :=
      fun source validator htouched _ => start_lt_of_bondsFollow (hfollow source validator htouched)
    by_cases hanswered : Answered client source validator
    · exact .inl ⟨hanswered,hstarts source validator htouched hanswered⟩
    · exact .inr ⟨hanswered,
        (hother hstarts source validator hanswered).mp (hfollow source validator htouched)⟩
  · intro hcondition source validator htouched
    have hstarts : StartsFit client gathered.current.block := by
      intro source validator htouched hanswered
      rcases hcondition source validator htouched with ⟨-,hfits⟩ | ⟨hnot,-⟩
      · exact hfits
      · exact (hnot hanswered).elim
    rcases hcondition source validator htouched with ⟨hanswered,-⟩ | ⟨hnot,hfollow⟩
    · exact bondsFollow_of_answered hsdk hdecodes hanswers h hstarts hcommitted htouched hanswered
    · exact (hother hstarts source validator hnot).mpr hfollow

section
variable {sdk : Sdk} {block : Block} {pair : UnbondAddresses} {source validator : Address}

lemma mem_unbondAddresses :
    pair ∈ block.successfulInnerTxs.filterMap (Block.unbondAddressesOf sdk) ↔
      ∃ source validator, Unbonds block source validator ∧
        pair = ⟨.ofAddress sdk source,.ofAddress sdk validator⟩ := by
  rw [List.mem_filterMap]
  constructor
  · rintro ⟨tx,htx,hpair⟩
    unfold Block.unbondAddressesOf at hpair
    split at hpair
    · rename_i data hkind
      exact ⟨_,_,⟨tx,htx,data,hkind,rfl,rfl⟩,(Option.some.inj hpair).symm⟩
    · contradiction
  · rintro ⟨_,_,⟨tx,htx,data,hkind,rfl,rfl⟩,rfl⟩
    refine ⟨tx,htx,?_⟩
    rw [Block.unbondAddressesOf,hkind]

lemma mem_withdrawAddresses :
    pair ∈ block.successfulInnerTxs.filterMap (Block.withdrawAddressesOf sdk) ↔
      ∃ source validator, Withdraws block source validator ∧
        pair = ⟨.ofAddress sdk source,.ofAddress sdk validator⟩ := by
  rw [List.mem_filterMap]
  constructor
  · rintro ⟨tx,htx,hpair⟩
    unfold Block.withdrawAddressesOf at hpair
    split at hpair
    · rename_i data hkind
      exact ⟨_,_,⟨tx,htx,data,hkind,rfl,rfl⟩,(Option.some.inj hpair).symm⟩
    · contradiction
  · rintro ⟨_,_,⟨tx,htx,data,hkind,rfl,rfl⟩,rfl⟩
    refine ⟨tx,htx,?_⟩
    rw [Block.withdrawAddressesOf,hkind]

end

section
variable {source validator : Address}

/-- What the withdrawals of the block remove among the rows of a pair. -/
lemma withdrawn_iff (hsdk : ctx.sdk.Lawful) (hdecodes : ctx.sdk.DecodesEncoded) {row : UnbondDb}
    (haddress : row.address = ctx.sdk.encode source)
    (hvalidator : row.validator = ctx.sdk.encode validator) :
    withdrawn ctx gathered.current.epoch (gathered.withdrawAddresses ctx) row = true ↔
      RemovedByWithdraws gathered.current source validator row.withdrawEpoch.toInt := by
  have hmem : ∀ pair : UnbondAddresses, pair ∈ gathered.withdrawAddresses ctx ↔
      ∃ source validator, Withdraws gathered.current.block source validator ∧
        pair = ⟨.ofAddress ctx.sdk source,.ofAddress ctx.sdk validator⟩ := by
    intro pair
    rw [Gathered.withdrawAddresses,ctx.order.mem_visit,mem_withdrawAddresses]
  have hsource : row.address ∈ (gathered.withdrawAddresses ctx).map
      (fun unbond => unbond.source.toString ctx.sdk) ↔
        ∃ other, Withdraws gathered.current.block source other := by
    rw [List.mem_map]
    constructor
    · rintro ⟨pair,hpair,hsame⟩
      obtain ⟨source',other,hwithdraws,rfl⟩ := (hmem pair).mp hpair
      rw [Id.toString_ofAddress hsdk,haddress] at hsame
      obtain rfl := hdecodes.encode_injective hsame
      exact ⟨other,hwithdraws⟩
    · rintro ⟨other,hwithdraws⟩
      exact ⟨_,(hmem _).mpr ⟨source,other,hwithdraws,rfl⟩,
        (Id.toString_ofAddress hsdk source).trans haddress.symm⟩
  have htarget : row.validator ∈ (gathered.withdrawAddresses ctx).map
      (fun unbond => unbond.validator.toString ctx.sdk) ↔
        ∃ other, Withdraws gathered.current.block other validator := by
    rw [List.mem_map]
    constructor
    · rintro ⟨pair,hpair,hsame⟩
      obtain ⟨other,validator',hwithdraws,rfl⟩ := (hmem pair).mp hpair
      rw [Id.toString_ofAddress hsdk,hvalidator] at hsame
      obtain rfl := hdecodes.encode_injective hsame
      exact ⟨other,hwithdraws⟩
    · rintro ⟨other,hwithdraws⟩
      exact ⟨_,(hmem _).mpr ⟨other,validator,hwithdraws,rfl⟩,
        (Id.toString_ofAddress hsdk validator).trans hvalidator.symm⟩
  rw [withdrawn,Bool.and_eq_true,Bool.and_eq_true,decide_eq_true_iff,decide_eq_true_iff,
    decide_eq_true_iff,hsource,htarget,Int32.le_iff_toInt_le,RemovedByWithdraws,and_assoc]

/-- The table that the unbonds of a pair are summed up in. -/
def SlashedInto (ctx : Context) (client : Client) (source validator : Address)
    (table : Table unbondKey) : Prop :=
  (slashedUnbonds ctx source validator (client.node.unbondWithSlashing source validator)).foldlM
    (Table.put addUnbond) .empty = some table

lemma queryUnbondsOf_pair (hsdk : ctx.sdk.Lawful) (hdecodes : ctx.sdk.DecodesEncoded)
    {unbonds : List Pos.Unbond}
    (h : queryUnbondsOf ctx client ⟨.ofAddress ctx.sdk source,.ofAddress ctx.sdk validator⟩ =
      .returns unbonds) :
    (¬ UnbondsAnswered client source validator → unbonds = []) ∧
    (UnbondsAnswered client source validator → ∃ table, SlashedInto ctx client source validator table ∧
      unbonds = ctx.order.visit table.rows) := by
  rw [queryUnbondsOf,Id.toString_ofAddress hsdk,Id.toString_ofAddress hsdk,hdecodes,hdecodes,
    Panicking.expect_some,Panicking.expect_some,Panicking.returns_bind,Panicking.returns_bind] at h
  unfold UnbondsAnswered
  unfold Client.ask at h
  cases hfails : client.fails (.unbondWithSlashing source validator) with
  | true =>
    rw [hfails,if_pos rfl] at h
    exact ⟨fun _ => (Panicking.returns.inj h).symm,fun hanswered => by contradiction⟩
  | false =>
    rw [hfails,if_neg (by decide)] at h
    obtain ⟨table,htable,hvisit⟩ := Panicking.bind_eq_returns.mp h
    refine ⟨fun hnot => (hnot rfl).elim,fun _ => ⟨table,?_,(Panicking.returns.inj hvisit).symm⟩⟩
    exact Panicking.expect_eq_returns.mp htable

/-- The rows of that table are the unbonds of the pair, by the epoch as it is stored. -/
lemma mem_slashedInto {table : Table unbondKey} (h : SlashedInto ctx client source validator table) :
    (∀ unbond ∈ table.rows, unbond.source = .ofAddress ctx.sdk source ∧
      unbond.target = .ofAddress ctx.sdk validator) ∧
    ∀ withdrawAt amount, (∃ unbond ∈ table.rows, unbond.withdrawAt = withdrawAt ∧
        unbond.amount.val = amount) ↔
      Grouped (fun entry : UInt64 × UInt64 × Amount => entry.2.1.toUInt32)
        (fun entry => entry.2.2.val) (client.node.unbondWithSlashing source validator) withdrawAt
        amount := by
  have hentries : ∀ unbond ∈ table.rows, unbond.source = .ofAddress ctx.sdk source ∧
      unbond.target = .ofAddress ctx.sdk validator := by
    intro unbond hunbond
    have hkey := (Table.mem_keys_foldlM_put h).mp (Table.key_mem_keys hunbond)
    rw [Table.empty_keys,slashedUnbonds,List.map_map,List.mem_map] at hkey
    rcases hkey with hkey | ⟨entry,hentry,hsame⟩
    · contradiction
    · simp only [Function.comp_apply,unbondKey,Prod.mk.injEq] at hsame
      exact ⟨hsame.1.symm,hsame.2.1.symm⟩
  refine ⟨hentries,fun withdrawAt amount => ?_⟩
  have hgrouped := @Table.grouped_iff_of_foldlM_put _ _ _ _ _ _ addUnbond table
    (fun unbond => unbond.amount.val) ?_ _ h
    (.ofAddress ctx.sdk source,.ofAddress ctx.sdk validator,withdrawAt) amount
  · rw [slashedUnbonds,Grouped.map_entries] at hgrouped
    refine Iff.trans ?_ (hgrouped.trans (Grouped.congr_key fun entry _ => by simp [unbondKey]))
    constructor
    · rintro ⟨unbond,hunbond,rfl,hamount⟩
      obtain ⟨hsource,hvalidator⟩ := hentries unbond hunbond
      exact ⟨unbond,hunbond,by rw [unbondKey,hsource,hvalidator],hamount⟩
    · rintro ⟨unbond,hunbond,hkey,hamount⟩
      simp only [unbondKey,Prod.mk.injEq] at hkey
      exact ⟨unbond,hunbond,hkey.2.2,hamount⟩
  · intro old new row hsame hrun
    obtain ⟨sum,hsum,rfl⟩ := Option.map_eq_some_iff.mp hrun
    exact val_checkedAdd hsum

lemma fromUnbond_of_mem (hsdk : ctx.sdk.Lawful) {table : Table unbondKey}
    (h : SlashedInto ctx client source validator table) {unbond : Pos.Unbond}
    (hunbond : unbond ∈ table.rows) :
    UnbondDb.fromUnbond ctx unbond = ⟨ctx.sdk.encode source,ctx.sdk.encode validator,unbond.amount,
      unbond.withdrawAt.toInt32⟩ := by
  obtain ⟨hsource,hvalidator⟩ := (mem_slashedInto h).1 unbond hunbond
  rw [UnbondDb.fromUnbond,hsource,hvalidator,Id.toString_ofAddress hsdk,Id.toString_ofAddress hsdk]

lemma exists_pairUnbonds (hsdk : ctx.sdk.Lawful) (hdecodes : ctx.sdk.DecodesEncoded)
    (h : Gathers ctx client db gathered) :
    ∃ unbondsOf : UnbondAddresses → List Pos.Unbond,
      gathered.unbonds = (ctx.order.visit (gathered.current.block.successfulInnerTxs.filterMap
        (Block.unbondAddressesOf ctx.sdk))).flatMap unbondsOf ∧
      ∀ source validator, Unbonds gathered.current.block source validator →
        (¬ UnbondsAnswered client source validator →
          unbondsOf ⟨.ofAddress ctx.sdk source,.ofAddress ctx.sdk validator⟩ = []) ∧
        (UnbondsAnswered client source validator → ∃ table,
          SlashedInto ctx client source validator table ∧
            unbondsOf ⟨.ofAddress ctx.sdk source,.ofAddress ctx.sdk validator⟩ =
              ctx.order.visit table.rows) := by
  obtain ⟨lists,hlists,hunbonds⟩ := Panicking.map_eq_returns.mp h.unbonds
  obtain ⟨unbondsOf,hof,rfl⟩ := Panicking.exists_map_of_mapM_returns hlists
  refine ⟨unbondsOf,hunbonds.symm,?_⟩
  intro source validator hpair
  apply queryUnbondsOf_pair hsdk hdecodes
  apply hof
  rw [ctx.order.mem_visit,mem_unbondAddresses]
  exact ⟨source,validator,hpair,rfl⟩

/-- The unbonds of the answered pairs are inserted. -/
lemma mem_unbondRows (hsdk : ctx.sdk.Lawful) (hdecodes : ctx.sdk.DecodesEncoded)
    (h : Gathers ctx client db gathered) {row : UnbondDb} :
    row ∈ gathered.unbonds.map (UnbondDb.fromUnbond ctx) ↔ ∃ source validator,
      Unbonds gathered.current.block source validator ∧ UnbondsAnswered client source validator ∧
        ∃ table, SlashedInto ctx client source validator table ∧ ∃ unbond ∈ table.rows,
          row = ⟨ctx.sdk.encode source,ctx.sdk.encode validator,unbond.amount,
            unbond.withdrawAt.toInt32⟩ := by
  obtain ⟨unbondsOf,hunbonds,hpairs⟩ := exists_pairUnbonds hsdk hdecodes h
  rw [hunbonds,List.mem_map]
  simp only [List.mem_flatMap,ctx.order.mem_visit,mem_unbondAddresses]
  constructor
  · rintro ⟨unbond,⟨_,⟨source,validator,hpair,rfl⟩,hunbond⟩,rfl⟩
    obtain ⟨hnone,hsome⟩ := hpairs source validator hpair
    by_cases hanswered : UnbondsAnswered client source validator
    · obtain ⟨table,htable,hof⟩ := hsome hanswered
      rw [hof,ctx.order.mem_visit] at hunbond
      exact ⟨source,validator,hpair,hanswered,table,htable,unbond,hunbond,
        fromUnbond_of_mem hsdk htable hunbond⟩
    · rw [hnone hanswered] at hunbond
      contradiction
  · rintro ⟨source,validator,hpair,hanswered,table,htable,unbond,hunbond,rfl⟩
    obtain ⟨table',htable',hof⟩ := (hpairs source validator hpair).2 hanswered
    obtain rfl : table = table' := Option.some.inj (htable.symm.trans htable')
    refine ⟨unbond,⟨_,⟨source,validator,hpair,rfl⟩,?_⟩,fromUnbond_of_mem hsdk htable hunbond⟩
    rw [hof,ctx.order.mem_visit]
    exact hunbond

/-- Amounts are summed up under the epoch as it is stored, so no key is inserted twice. -/
lemma nodup_unbonds (hsdk : ctx.sdk.Lawful) (hdecodes : ctx.sdk.DecodesEncoded)
    (h : Gathers ctx client db gathered) :
    ((gathered.unbonds.map (UnbondDb.fromUnbond ctx)).map UnbondDb.key).Nodup := by
  obtain ⟨unbondsOf,hunbonds,hpairs⟩ := exists_pairUnbonds hsdk hdecodes h
  rw [hunbonds,List.map_flatMap,List.map_flatMap]
  refine @nodup_flatMap_of_labels _ _ _ (fun pair => (pair.source.toString ctx.sdk,
    pair.validator.toString ctx.sdk)) (fun key : String × String × Int32 => (key.1,key.2.1)) _ _ ?_ ?_
  · refine ctx.order.nodup_visit.map_on ?_
    intro pair hpair pair' hpair' hsame
    obtain ⟨source,validator,-,rfl⟩ := mem_unbondAddresses.mp (ctx.order.mem_visit.mp hpair)
    obtain ⟨source',validator',-,rfl⟩ := mem_unbondAddresses.mp (ctx.order.mem_visit.mp hpair')
    simp only [Id.toString_ofAddress hsdk,Prod.mk.injEq] at hsame
    rw [hdecodes.encode_injective hsame.1,hdecodes.encode_injective hsame.2]
  · intro pair hpair
    obtain ⟨source,validator,hunbond,rfl⟩ := mem_unbondAddresses.mp (ctx.order.mem_visit.mp hpair)
    obtain ⟨hnone,hsome⟩ := hpairs source validator hunbond
    by_cases hanswered : UnbondsAnswered client source validator
    · obtain ⟨table,htable,hof⟩ := hsome hanswered
      rw [hof,List.map_map]
      constructor
      · refine ctx.order.nodup_visit.map_on ?_
        intro unbond hmem unbond' hmem' hsame
        rw [ctx.order.mem_visit] at hmem hmem'
        rw [Function.comp_apply,Function.comp_apply,fromUnbond_of_mem hsdk htable hmem,
          fromUnbond_of_mem hsdk htable hmem'] at hsame
        simp only [UnbondDb.key,Prod.mk.injEq,true_and] at hsame
        have hepoch : unbond.withdrawAt = unbond'.withdrawAt := toInt32_inj.mp hsame
        obtain ⟨hsource,hvalidator⟩ := (mem_slashedInto htable).1 unbond hmem
        obtain ⟨hsource',hvalidator'⟩ := (mem_slashedInto htable).1 unbond' hmem'
        apply Table.eq_of_key_eq hmem hmem'
        rw [unbondKey,unbondKey,hsource,hsource',hvalidator,hvalidator',hepoch]
      · intro key hkey
        obtain ⟨unbond,hmem,rfl⟩ := List.mem_map.mp hkey
        rw [ctx.order.mem_visit] at hmem
        simp only [Function.comp_apply,fromUnbond_of_mem hsdk htable hmem,UnbondDb.key,
          Id.toString_ofAddress hsdk]
    · rw [hnone hanswered]
      exact ⟨List.nodup_nil,by simp⟩

/-- The unbonds after the block. -/
lemma mem_unbonds_committed (hsdk : ctx.sdk.Lawful) (hdecodes : ctx.sdk.DecodesEncoded)
    (h : Gathers ctx client db gathered)
    (hcommitted : Committed ctx shouldUpdateCrawlerState gathered db db') {row : UnbondDb} :
    row ∈ db'.unbonds.rows ↔
      (row ∈ gathered.unbonds.map (UnbondDb.fromUnbond ctx) ∨ row ∈ db.unbonds.rows ∧
        row.key ∉ (gathered.unbonds.map (UnbondDb.fromUnbond ctx)).map UnbondDb.key) ∧
      ¬ withdrawn ctx gathered.current.epoch (gathered.withdrawAddresses ctx) row = true := by
  obtain ⟨rows,hput,hrows⟩ := hcommitted.unbonds
  rw [←Table.mem_foldlM_put_of_replaces setUnbondAmount_replaces (nodup_unbonds hsdk hdecodes h) hput,hrows]
  simp [deleteRows]

/-- An inserted row of the pair comes from the answer for the pair. -/
lemma unbondsAnswered_of_inserted (hsdk : ctx.sdk.Lawful) (hdecodes : ctx.sdk.DecodesEncoded)
    (h : Gathers ctx client db gathered) {row : UnbondDb}
    (haddress : row.address = ctx.sdk.encode source)
    (hvalidator : row.validator = ctx.sdk.encode validator)
    (hkey : row.key ∈ (gathered.unbonds.map (UnbondDb.fromUnbond ctx)).map UnbondDb.key) :
    UnbondsAnswered client source validator := by
  obtain ⟨new,hnew,hsame⟩ := List.mem_map.mp hkey
  obtain ⟨source',validator',-,hanswered,-,-,unbond,-,rfl⟩ :=
    (mem_unbondRows hsdk hdecodes h).mp hnew
  simp only [UnbondDb.key,Prod.mk.injEq] at hsame
  obtain rfl := hdecodes.encode_injective (hsame.1.trans haddress)
  obtain rfl := hdecodes.encode_injective (hsame.2.1.trans hvalidator)
  exact hanswered

/-- An answered pair has its unbonds stored where all of them fit and they stay. -/
lemma hasUnbond_of_answered (hsdk : ctx.sdk.Lawful) (hdecodes : ctx.sdk.DecodesEncoded)
    (h : Gathers ctx client db gathered)
    (hcommitted : Committed ctx shouldUpdateCrawlerState gathered db db')
    (hunbonds : Unbonds gathered.current.block source validator)
    (hanswered : UnbondsAnswered client source validator)
    (hfits : ∀ epoch amount, client.node.UnbondAt source validator epoch amount → epoch < 2^31)
    {epoch : ℤ} {amount : ℕ} (hunbondAt : client.node.UnbondAt source validator epoch amount)
    (hstays : ¬ RemovedByWithdraws gathered.current source validator epoch) :
    db'.HasUnbond (ctx.sdk.encode source) (ctx.sdk.encode validator) epoch amount := by
  obtain ⟨unbondsOf,-,hpairs⟩ := exists_pairUnbonds hsdk hdecodes h
  obtain ⟨table,htable,-⟩ := (hpairs source validator hunbonds).2 hanswered
  -- every epoch of the answer fits, so no two of them are stored as one
  have hstored : ∀ entry ∈ client.node.unbondWithSlashing source validator,
      entry.2.1.toUInt32.toInt32.toInt = (entry.2.1.toNat : ℤ) := by
    intro entry hentry
    obtain ⟨total,htotal⟩ : ∃ total,
        client.node.UnbondAt source validator entry.2.1.toNat total :=
      Grouped.exists_iff.mpr ⟨entry,hentry,rfl⟩
    have hlt := hfits _ _ htotal
    apply toInt_asI32_iff.mpr
    omega
  obtain ⟨entry,hentry,rfl⟩ := hunbondAt.occurs
  have hgrouped : Grouped (fun entry : UInt64 × UInt64 × Amount => entry.2.1.toUInt32)
      (fun entry => entry.2.2.val) (client.node.unbondWithSlashing source validator)
      entry.2.1.toUInt32 amount := by
    refine (Grouped.congr_key ?_).mp hunbondAt
    intro other hother
    rw [←hstored other hother,←hstored entry hentry,Int32.toInt_inj,toInt32_inj]
  obtain ⟨unbond,hunbond,hepoch,hamount⟩ := ((mem_slashedInto htable).2 _ _).mpr hgrouped
  have hrow := (mem_unbondRows hsdk hdecodes h).mpr
    ⟨source,validator,hunbonds,hanswered,table,htable,unbond,hunbond,rfl⟩
  have htoInt : unbond.withdrawAt.toInt32.toInt = (entry.2.1.toNat : ℤ) := by
    rw [hepoch,hstored entry hentry]
  refine ⟨_,(mem_unbonds_committed hsdk hdecodes h hcommitted).mpr ⟨.inl hrow,?_⟩,rfl,rfl,
    htoInt,hamount⟩
  rw [withdrawn_iff hsdk hdecodes rfl rfl,htoInt]
  exact hstays

/-- The unbonds of a pair are refreshed exactly if they fit, stay, and were answered or there
before. -/
lemma unbonds_iff (hsdk : ctx.sdk.Lawful) (hdecodes : ctx.sdk.DecodesEncoded)
    (h : Gathers ctx client db gathered)
    (hcommitted : Committed ctx shouldUpdateCrawlerState gathered db db')
    (hunbonds : Unbonds gathered.current.block source validator) :
    (∀ epoch amount, client.node.UnbondAt source validator epoch amount →
      db'.HasUnbond (ctx.sdk.encode source) (ctx.sdk.encode validator) epoch amount) ↔
    ∀ epoch amount, client.node.UnbondAt source validator epoch amount →
      epoch < 2^31 ∧ ¬ RemovedByWithdraws gathered.current source validator epoch ∧
      (UnbondsAnswered client source validator ∨
        db.HasUnbond (ctx.sdk.encode source) (ctx.sdk.encode validator) epoch amount) := by
  constructor
  · intro hall epoch amount hunbondAt
    obtain ⟨row,hrow,haddress,hvalidator,rfl,hamount⟩ := hall epoch amount hunbondAt
    obtain ⟨hfrom,hstays⟩ := (mem_unbonds_committed hsdk hdecodes h hcommitted).mp hrow
    rw [withdrawn_iff hsdk hdecodes haddress hvalidator] at hstays
    refine ⟨row.withdrawEpoch.toInt_lt,hstays,?_⟩
    rcases hfrom with hnew | ⟨hold,-⟩
    · exact .inl (unbondsAnswered_of_inserted hsdk hdecodes h haddress hvalidator
        (List.mem_map_of_mem hnew))
    · exact .inr ⟨row,hold,haddress,hvalidator,rfl,hamount⟩
  · intro hcondition epoch amount hunbondAt
    obtain ⟨-,hstays,hfrom⟩ := hcondition epoch amount hunbondAt
    by_cases hanswered : UnbondsAnswered client source validator
    · exact hasUnbond_of_answered hsdk hdecodes h hcommitted hunbonds hanswered
        (fun epoch amount hunbondAt => (hcondition epoch amount hunbondAt).1) hunbondAt hstays
    · obtain ⟨row,hrow,haddress,hvalidator,rfl,hamount⟩ := hfrom.resolve_left hanswered
      refine ⟨row,(mem_unbonds_committed hsdk hdecodes h hcommitted).mpr ⟨.inr ⟨hrow,?_⟩,?_⟩,
        haddress,hvalidator,rfl,hamount⟩
      · intro hkey
        exact hanswered (unbondsAnswered_of_inserted hsdk hdecodes h haddress hvalidator hkey)
      · rw [withdrawn_iff hsdk hdecodes haddress hvalidator]
        exact hstays

end
end

/-- A committed block is indexed whole exactly if nothing is missed: a pair whose query failed
has its rows already, and what is answered fits and is not removed again by the withdrawals of
the block. -/
theorem indexed_whole_iff (ctx : Context) (client : Client) (checksums : Checksums)
    (blockHeight : BlockHeight) (shouldUpdateCrawlerState : Bool) (db db' : ChainDb)
    {current : Current} (hsdk : ctx.sdk.Lawful) (hdecodes : ctx.sdk.DecodesEncoded)
    (hanswers : client.node.AnswersPairs)
    (hread : (readBlock ctx client checksums blockHeight).run = .returns (.ok current))
    (hrun : (crawlingFn ctx client checksums blockHeight shouldUpdateCrawlerState db).run =
      .returns (.ok db')) :
    IndexedWhole ctx client.node current db db' ↔ NothingMissed ctx client current db := by
  obtain ⟨gathered,rfl,hgathers,hcommit⟩ := crawlingFn_eq_ok_of_read hread hrun
  have hcommitted := committed_of_commit hcommit
  have hbonds := bondsFollow_iff hsdk hdecodes hanswers hgathers hcommitted
  constructor
  · intro hwhole
    refine ⟨?_,hbonds.mp hwhole.bonds,?_⟩
    · intro change hchanged howner
      exact (hasBalance_committed hgathers hcommitted).mp (hwhole.balances change hchanged howner)
    · intro source validator hpair
      exact (unbonds_iff hsdk hdecodes hgathers hcommitted hpair).mp
        (hwhole.unbonds source validator hpair)
  · intro hnothing
    refine ⟨?_,hbonds.mpr hnothing.bonds,?_⟩
    · intro change hchanged howner
      exact (hasBalance_committed hgathers hcommitted).mpr
        (hnothing.balances change hchanged howner)
    · intro source validator hpair
      exact (unbonds_iff hsdk hdecodes hgathers hcommitted hpair).mpr
        (hnothing.unbonds source validator hpair)

/-- The node of the sample, which does not answer for the balance of the MASP. -/
def silentAboutMasp : Client where
  node := sampleNode 8 5 fun _ => 1
  fails query := match query with
    | .balance _ owner _ => owner == MASP_ADDRESS
    | _ => false

/-- A database that has this balance already, as of block 7. -/
def maspBalanceDb : ChainDb :=
  { sampleDb with balanceChanges := ⟨[⟨"tnam1pmasp","tnam1qnam",100,7⟩],by decide⟩ }

/-- In the block with the bond every balance besides that one is asked for. -/
lemma read_silentAboutMasp :
    ∃ current, (readBlock (sampleContext bondTx) silentAboutMasp bondChecksums 7).run =
        .returns (.ok current) ∧
      (∀ tx ∈ current.block.successfulInnerTxs, ∃ data, tx.kind = .bond data) ∧
      current.blockHeight = 7 ∧
      ∀ change, Changed (sampleContext bondTx) silentAboutMasp.node current maspBalanceDb change →
        change.token = .native (.account "tnam1qnam") ∧
        (change.address.toString (sampleContext bondTx).sdk = "tnam1pmasp" ∨
          (sampleContext bondTx).sdk.decode (change.address.toString (sampleContext bondTx).sdk) ≠
            some MASP_ADDRESS) := by
  have hread : ∃ current,
      (readBlock (sampleContext bondTx) silentAboutMasp bondChecksums 7).run =
        .returns (.ok current) ∧
      (∀ tx ∈ current.block.successfulInnerTxs, ∃ data, tx.kind = .bond data) ∧
      current.blockHeight = 7 ∧ current.newEpoch = false ∧
      current.nativeId (sampleContext bondTx) = .account "tnam1qnam" ∧
      changesInOrder (sampleContext bondTx).sdk current.block
        (current.nativeId (sampleContext bondTx)) (current.ibcTokens (sampleContext bondTx)) =
          .returns [⟨.account "tnam1zpayer",.native (.account "tnam1qnam")⟩,
            ⟨.account "tnam1zpayer",.native (.account "tnam1qnam")⟩] ∧
      proposerChanges (sampleContext bondTx) current =
        [⟨.account "tnam1qvalidator",.native (.account "tnam1qnam")⟩] := by
    refine ⟨_,rfl,?_,rfl,rfl,rfl,by decide +kernel,by decide +kernel⟩
    intro tx htx
    obtain rfl := List.mem_singleton.mp htx
    exact ⟨_,rfl⟩
  obtain ⟨current,hread,hkinds,hheight,hepoch,hnative,haddresses,hproposer⟩ := hread
  refine ⟨current,hread,hkinds,hheight,fun change hchanged => ?_⟩
  cases hchanged with
  | transaction hblock hmem =>
    obtain rfl := Panicking.returns.inj (haddresses.symm.trans hblock)
    obtain rfl : change = _ := by simpa using hmem
    exact ⟨rfl,.inr (by decide)⟩
  | proposer hmem =>
    rw [hproposer] at hmem
    obtain rfl := List.mem_singleton.mp hmem
    exact ⟨rfl,.inr (by decide)⟩
  | recipient hnew => exact absurd (hepoch.symm.trans hnew) (by decide)
  | validator hnew => exact absurd (hepoch.symm.trans hnew) (by decide)
  | native hmem =>
    rw [hnative] at hmem
    revert change
    decide

/-- The block with the bond misses nothing, although the balance of the MASP is not answered. -/
theorem indexed_whole_bond :
    ∃ current db', (readBlock (sampleContext bondTx) silentAboutMasp bondChecksums 7).run =
        .returns (.ok current) ∧
      (crawlingFn (sampleContext bondTx) silentAboutMasp bondChecksums 7 true maspBalanceDb).run =
        .returns (.ok db') ∧
      Touches current.block (.implicit "payer") (.established "validator") ∧
      IndexedWhole (sampleContext bondTx) silentAboutMasp.node current maspBalanceDb db' := by
  have hrun : (resultOf (crawlingFn (sampleContext bondTx) silentAboutMasp bondChecksums 7 true
      maspBalanceDb)).isSome := by
    decide +kernel
  obtain ⟨db',hresult⟩ := Option.isSome_iff_exists.mp hrun
  obtain ⟨current,hread,hkinds,hheight,hchanges⟩ := read_silentAboutMasp
  have hdb := resultOf_eq_some.mp hresult
  have htouches : ∃ current, (readBlock (sampleContext bondTx) silentAboutMasp bondChecksums 7).run =
      .returns (.ok current) ∧
      Touches current.block (.implicit "payer") (.established "validator") :=
    ⟨_,rfl,⟨_,.head _,rfl,rfl⟩⟩
  obtain ⟨same,hsame,htouches⟩ := htouches
  obtain rfl := Except.ok.inj (Panicking.returns.inj (hread.symm.trans hsame))
  refine ⟨current,db',hread,hdb,htouches,(indexed_whole_iff (sampleContext bondTx) silentAboutMasp
    bondChecksums 7 true maspBalanceDb db' (lawful_sampleContext bondTx)
    (decodesEncoded_sampleContext bondTx) (answersPairs_sampleNode 8 5 fun _ => 1) hread
    hdb).mpr ⟨?_,?_,?_⟩⟩
  · rintro change hchanged ⟨owner,howner⟩
    obtain ⟨htoken,hmasp | hother⟩ := hchanges change hchanged
    · -- what is not answered is there already
      refine .inl ?_
      rw [ChainDb.HasBalance,hmasp,htoken,hheight]
      decide
    · refine .inr ⟨change,hchanged,rfl,rfl,owner,.established "nam",howner,?_,?_⟩
      · rw [htoken]
        decide
      · rw [howner] at hother
        exact beq_eq_false_iff_ne.mpr fun hsame => hother (congrArg some hsame)
  · intro source validator _
    refine .inl ⟨rfl,fun bond hbond => ?_⟩
    obtain rfl := List.mem_singleton.mp hbond
    decide
  · rintro source validator ⟨tx,htx,data,hkind,-⟩
    obtain ⟨other,hother⟩ := hkinds tx htx
    exact absurd (hother.symm.trans hkind) (by simp)

/-- The node of the sample, which does not answer for the bonds of any pair. -/
def silentAboutBonds : Client where
  node := sampleNode 8 5 fun _ => 1
  fails query := match query with
    | .bondsAndUnbonds _ _ => true
    | _ => false

/-- The block with the bond is committed without it. -/
theorem bond_missed :
    ∃ current db', (readBlock (sampleContext bondTx) silentAboutBonds bondChecksums 7).run =
        .returns (.ok current) ∧
      (crawlingFn (sampleContext bondTx) silentAboutBonds bondChecksums 7 true sampleDb).run =
        .returns (.ok db') ∧
      ¬ IndexedWhole (sampleContext bondTx) silentAboutBonds.node current sampleDb db' := by
  have hrun : (resultOf (crawlingFn (sampleContext bondTx) silentAboutBonds bondChecksums 7 true
      sampleDb)).map (fun db => db.bonds.rows) = some [] := by
    decide +kernel
  have hcurrent : ∃ current,
      (readBlock (sampleContext bondTx) silentAboutBonds bondChecksums 7).run =
        .returns (.ok current) ∧
      Touches current.block (.implicit "payer") (.established "validator") :=
    ⟨_,rfl,⟨_,.head _,rfl,rfl⟩⟩
  obtain ⟨db',hresult,hbonds⟩ := Option.map_eq_some_iff.mp hrun
  obtain ⟨current,hread,htouches⟩ := hcurrent
  refine ⟨current,db',hread,resultOf_eq_some.mp hresult,?_⟩
  intro hwhole
  have hbondAt : silentAboutBonds.node.BondAt (.implicit "payer") (.established "validator") 5 10 :=
    ⟨⟨⟨5,10⟩,.head _,by decide⟩,by decide⟩
  obtain ⟨row,hrow,-⟩ := (hwhole.bonds _ _ htouches 5 10).mpr hbondAt
  rw [hbonds] at hrow
  exact List.not_mem_nil hrow

end NamadaIndexer.Chain
