import Mathlib.Data.List.Find
import NamadaIndexer.Shared.Deserialize

/-! The code hashes under which a crawler knows the kinds of transactions. They are queried
from the node when the crawler starts and at the first block of what the node takes for the
current epoch. -/
namespace NamadaIndexer.Shared
open NamadaIndexer.Foundation

/-- `BiMap::insert`: pairs with the same left or the same right value give way. -/
def insertPair {α β : Type*} [DecidableEq α] [DecidableEq β] (pairs : List (α × β)) (left : α)
    (right : β) : List (α × β) :=
  pairs.filter (fun pair => pair.1 ≠ left ∧ pair.2 ≠ right) ++ [(left,right)]

/-- If the left values determine the right ones, a right value belongs to the last left value
that was inserted with it. -/
theorem find?_foldl_insertPair {α β : Type*} [DecidableEq α] [DecidableEq β]
    (entries : List (α × β)) (hdetermine : ∀ e ∈ entries, ∀ f ∈ entries, e.1 = f.1 → e.2 = f.2)
    (right : β) :
    (entries.foldl (fun pairs e => insertPair pairs e.1 e.2) []).find? (fun e => e.2 = right) =
      entries.reverse.find? fun e => e.2 = right := by
  have hsub : ∀ entries : List (α × β), ∀ e ∈ entries.foldl (fun pairs e =>
      insertPair pairs e.1 e.2) [], e ∈ entries := by
    intro entries
    induction entries using List.reverseRecOn with
    | nil => exact fun _ he => he
    | append_singleton entries last ih =>
      intro e he
      rw [List.foldl_concat,insertPair,List.mem_append,List.mem_filter] at he
      rw [List.mem_append]
      exact he.imp (fun he => ih e he.1) id
  induction entries using List.reverseRecOn with
  | nil => rfl
  | append_singleton entries last ih =>
    have hfirst := ih fun e he f hf =>
      hdetermine e (List.mem_append_left _ he) f (List.mem_append_left _ hf)
    rw [List.foldl_concat,insertPair,List.find?_append,List.reverse_append,List.reverse_singleton,
      List.singleton_append]
    by_cases hlast : last.2 = right
    · have hnone : ((entries.foldl (fun pairs e => insertPair pairs e.1 e.2) []).filter
          fun pair => pair.1 ≠ last.1 ∧ pair.2 ≠ last.2).find? (fun e => e.2 = right) = none := by
        rw [List.find?_eq_none]
        intro e he hright
        have hne := (of_decide_eq_true (List.mem_filter.mp he).2).2
        exact hne ((of_decide_eq_true hright).trans hlast.symm)
      rw [hnone,Option.none_or]
      subst hlast
      simp
    · -- a pair that gives way has another right value
      have hkeep : ((entries.foldl (fun pairs e => insertPair pairs e.1 e.2) []).filter
          fun pair => pair.1 ≠ last.1 ∧ pair.2 ≠ last.2).find? (fun e => e.2 = right) =
          (entries.foldl (fun pairs e => insertPair pairs e.1 e.2) []).find?
            fun e => e.2 = right := by
        rw [List.find?_filter]
        apply List.find?_congr
        intro e he
        by_cases hright : e.2 = right
        · have hleft : e.1 ≠ last.1 := fun heq => hlast
            ((hdetermine e (List.mem_append_left _ (hsub entries e he)) last
              (List.mem_append_right _ (List.mem_singleton_self _)) heq).symm.trans hright)
          have hne : ¬ right = last.2 := fun h => hlast h.symm
          simp [hleft,hright,hne]
        · simp [hright]
      rw [hkeep,hfirst]
      simp [hlast]

/-- `str::strip_suffix` -/
def stripSuffix (text suffix : String) : Option String :=
  if suffix.toList <:+ text.toList then
    some (String.ofList (text.toList.take (text.length-suffix.length)))
  else none

namespace Checksums

/-- `Checksums::code_paths` -/
def codePaths : List String :=
  ["tx_ibc.wasm","tx_reveal_pk.wasm","tx_transfer.wasm","tx_bond.wasm","tx_redelegate.wasm",
    "tx_unbond.wasm","tx_withdraw.wasm","tx_claim_rewards.wasm","tx_vote_proposal.wasm",
    "tx_init_proposal.wasm","tx_change_validator_metadata.wasm",
    "tx_change_validator_commission.wasm","tx_ibc.wasm","tx_become_validator.wasm",
    "tx_init_account.wasm","tx_unjail_validator.wasm","tx_deactivate_validator.wasm",
    "tx_reactivate_validator.wasm","tx_update_account.wasm","tx_bridge_pool.wasm",
    "tx_change_consensus_key.wasm","tx_resign_steward.wasm","tx_update_steward_commission.wasm"]

/-- Historical transactions. A hash that the source inserts again has the same name there. -/
def historical : List (String × String) :=
  [("tx_transfer","6d753db0390e7cec16729fc405bfe41384c93bd79f42b8b8be41b22edbbf1b7c"),
    ("tx_ibc","cecb1f1b75cd649915423c5e68be20c5232f94ab57a11a908dc66751bbdc4f72"),
    ("tx_claim_rewards","b6a1f7e069360650d2c6a1bdd2e5f4e18bb748d35dad02c31c027673fa042d8c"),
    ("tx_claim_rewards","b74104949ac0c35ee922fdc3f3db454627742e2483d79550c12fcf31755c6d01"),
    ("tx_transfer","ef687f96ec919f5da2e90f125a2800f198a06bcd609a37e5a9ec90d442e32239"),
    ("tx_withdraw","8a9df03a1a8f5e9e606e14a97fdfb2097dba062da1b3b2158bbfa7deabeeadfb"),
    ("vp_implicit","fb4462b86ff8969826fb66dfa0397cd795df9de9769f7a414d368200a8342951"),
    ("vp_user","abb163de1f532c740ee6bb69ccc69a5a55505b5c92979d1f256527833b8dfeca"),
    ("tx_ibc","7b0d43f4a277aadd02562d811c755e09d7f191c601ca3bffb89a7f8b599dab1e"),
    ("tx_claim_rewards","e62fbbbb5de5ddb822439795234bac61e2cdbd70b5cb5015caca17ad210b7f96"),
    ("tx_transfer","9a950b45d233c8f6fabfa5c473800c182f7666fe0c35c1a612f66a5f094758fe"),
    ("tx_withdraw","a8686ae87aa940e3c45adb79cb5e1daa71033d41fe85f6b32713ae3cef21ff25"),
    ("tx_ibc","bd1b4230890ff8ece2733de7e770f4a8573a9541813186e5cb718bcc05c2056d")]

/-- `Checksums::default` -/
def default : Checksums := ⟨[],historical⟩

/-- `Checksums::add` -/
def add (checksums : Checksums) (key value : String) : Panicking Checksums := do
  let key ← .expect "called `Option::unwrap()` on a `None` value" (stripSuffix key ".wasm")
  return { checksums with current := insertPair checksums.current key value }

end Checksums

/-- The present state of the node. -/
structure Head where
  firstBlockInEpoch : BlockHeight
  /-- `query_tx_code_hash` -/
  txCodeHash : String → Option String

section
variable (sdk : Sdk)

/-- One pass of the loop of `query_checksums`. -/
def addCodePath (head : Head) (checksums : Checksums) (codePath : String) :
    Panicking Checksums := do
  let code ← .expect (codePath ++ " must be defined in namada storage.") (head.txCodeHash codePath)
  checksums.add codePath (sdk.toLowercase code)

/-- `query_checksums` -/
def queryChecksums (head : Head) : Panicking Checksums :=
  Checksums.codePaths.foldlM (addCodePath sdk head) .default

/-- What a pass over a block does to the checksums before it decodes the block. -/
def refreshChecksums (checksums : Checksums) (blockHeight : BlockHeight) (head : Head) :
    Panicking Checksums :=
  if head.firstBlockInEpoch = blockHeight then queryChecksums sdk head else .returns checksums

/-- A crawler from its start to some moment: the head it started at, and the passes since
then, with the block each was about and the head it found. -/
structure Session where
  start : Head
  passes : List (BlockHeight × Head)

/-- The checksums the crawler holds at that moment. -/
def Session.checksums (session : Session) : Panicking Checksums := do
  session.passes.foldlM (fun checksums pass => refreshChecksums sdk checksums pass.1 pass.2)
    (← queryChecksums sdk session.start)

/-- The head from which the crawler took its checksums. -/
def Session.queried (session : Session) : Head :=
  ((session.passes.reverse.find? fun pass => pass.2.firstBlockInEpoch = pass.1).map Prod.snd).getD
    session.start

/-- The name under which a head knows a code hash, the historical names included. -/
def Head.nameOf (head : Head) (id : String) : Option String :=
  ((Checksums.codePaths.reverse.find? fun codePath =>
      (head.txCodeHash codePath).map sdk.toLowercase = some id).bind
    fun codePath => stripSuffix codePath ".wasm").or
    ((Checksums.historical.find? fun entry => entry.2 == id).map Prod.fst)

end

section
variable {sdk : Sdk}

lemma stripSuffix_inj : ∀ p ∈ Checksums.codePaths, ∀ q ∈ Checksums.codePaths,
    stripSuffix p ".wasm" = stripSuffix q ".wasm" → p = q := by
  decide +kernel

/-- The name and the hash that belong to a code path, where both are there. -/
def Head.entry (sdk : Sdk) (head : Head) (codePath : String) : String × String :=
  ((stripSuffix codePath ".wasm").getD "",((head.txCodeHash codePath).map sdk.toLowercase).getD "")

/-- What a run of the loop leaves behind: every path had a name and a hash, and these were
inserted in the order of the paths. -/
lemma foldlM_addCodePath {head : Head} {paths : List String} {checksums result : Checksums}
    (h : paths.foldlM (addCodePath sdk head) checksums = .returns result) :
    (∀ p ∈ paths, stripSuffix p ".wasm" = some (head.entry sdk p).1 ∧
      (head.txCodeHash p).map sdk.toLowercase = some (head.entry sdk p).2) ∧
    result.current =
      (paths.map (head.entry sdk)).foldl (fun pairs e => insertPair pairs e.1 e.2)
        checksums.current ∧
    result.fallback = checksums.fallback := by
  induction paths generalizing checksums with
  | nil => cases h; exact ⟨by simp,rfl,rfl⟩
  | cons p paths ih =>
    rw [List.foldlM_cons] at h
    obtain ⟨next,hnext,hrest⟩ := Panicking.bind_eq_returns.mp h
    obtain ⟨code,hcode,hadd⟩ := Panicking.bind_eq_returns.mp hnext
    obtain ⟨name,hname,hadd⟩ := Panicking.bind_eq_returns.mp hadd
    obtain ⟨hall,hcurrent,hfallback⟩ := ih hrest
    have hc : head.txCodeHash p = some code := Panicking.expect_eq_returns.mp hcode
    have hn : stripSuffix p ".wasm" = some name := Panicking.expect_eq_returns.mp hname
    have hentry : head.entry sdk p = (name,sdk.toLowercase code) := by
      rw [Head.entry,hc,hn]
      rfl
    cases hadd
    refine ⟨?_,?_,hfallback⟩
    · rw [List.forall_mem_cons,hentry,hc]
      exact ⟨⟨hn,rfl⟩,hall⟩
    · rw [hcurrent,List.map_cons,List.foldl_cons,hentry]

/-- The checksums that are queried from a head know a hash under the name the head has for it. -/
theorem getNameById_of_queryChecksums {head : Head} {checksums : Checksums}
    (h : queryChecksums sdk head = .returns checksums) (id : String) :
    checksums.getNameById id = head.nameOf sdk id := by
  obtain ⟨hall,hcurrent,hfallback⟩ := foldlM_addCodePath h
  have hdetermine : ∀ e ∈ Checksums.codePaths.map (head.entry sdk),
      ∀ f ∈ Checksums.codePaths.map (head.entry sdk), e.1 = f.1 → e.2 = f.2 := by
    intro e he f hf hleft
    obtain ⟨p,hp,rfl⟩ := List.mem_map.mp he
    obtain ⟨q,hq,rfl⟩ := List.mem_map.mp hf
    have hstrip : stripSuffix p ".wasm" = stripSuffix q ".wasm" := by
      rw [(hall p hp).1,(hall q hq).1,hleft]
    rw [stripSuffix_inj p hp q hq hstrip]
  have hsame : ∀ p ∈ Checksums.codePaths.reverse,
      ((fun e : String × String => decide (e.2 = id)) ∘ head.entry sdk) p =
        decide ((head.txCodeHash p).map sdk.toLowercase = some id) := by
    intro p hp
    rw [(hall p (List.mem_reverse.mp hp)).2]
    simp
  have hfind : checksums.current.find? (fun e => e.2 = id) =
      (Checksums.codePaths.reverse.find? fun p =>
        (head.txCodeHash p).map sdk.toLowercase = some id).map (head.entry sdk) := by
    rw [hcurrent]
    refine (find?_foldl_insertPair _ hdetermine id).trans ?_
    rw [←List.map_reverse,List.find?_map,List.find?_congr hsame]
  have hname : (Option.map (head.entry sdk) (Checksums.codePaths.reverse.find? fun p =>
      (head.txCodeHash p).map sdk.toLowercase = some id)).map Prod.fst =
      (Checksums.codePaths.reverse.find? fun p =>
        (head.txCodeHash p).map sdk.toLowercase = some id).bind
        fun codePath => stripSuffix codePath ".wasm" := by
    cases hp : Checksums.codePaths.reverse.find? fun p =>
        (head.txCodeHash p).map sdk.toLowercase = some id with
    | none => rfl
    | some p =>
      exact (hall p (List.mem_reverse.mp (List.mem_of_find?_eq_some hp))).1.symm
  rw [Checksums.getNameById,Head.nameOf,hfallback,←hname,←hfind]
  rfl

/-- Each refresh replaces the checksums as a whole, so they are those of one head. -/
theorem queryChecksums_queried {session : Session} {checksums : Checksums}
    (h : session.checksums sdk = .returns checksums) :
    queryChecksums sdk session.queried = .returns checksums := by
  obtain ⟨start,passes⟩ := session
  rw [Session.checksums,Panicking.bind_eq_returns] at h
  obtain ⟨first,hfirst,h⟩ := h
  induction passes using List.reverseRecOn generalizing checksums with
  | nil => cases h; exact hfirst
  | append_singleton passes last ih =>
    rw [List.foldlM_append] at h
    obtain ⟨previous,hprevious,hlast⟩ := Panicking.bind_eq_returns.mp h
    rw [List.foldlM_cons] at hlast
    obtain ⟨final,hfinal,hnil⟩ := Panicking.bind_eq_returns.mp hlast
    cases hnil
    rw [refreshChecksums] at hfinal
    rw [Session.queried]
    dsimp only
    rw [List.reverse_append,List.reverse_singleton,List.singleton_append]
    split at hfinal
    · rename_i hnew
      rw [List.find?_cons_of_pos (by simpa using hnew)]
      exact hfinal
    · rename_i hnew
      rw [List.find?_cons_of_neg (by simpa using hnew)]
      cases hfinal
      exact ih hfirst hprevious

/-- The name of the code that a kind was read from. -/
def TransactionKind.codeName : TransactionKind → Option String
  | .transparentTransfer _ | .shieldedTransfer _ | .shieldingTransfer _ | .unshieldingTransfer _
  | .mixedTransfer _ => some "tx_transfer"
  | .ibcMsg _ | .ibcRecvTrasparentTransfer _ _ | .ibcSendTrasparentTransfer _ _
  | .ibcShieldingTransfer _ _ | .ibcUnshieldingTransfer _ _ => some "tx_ibc"
  | .bond _ => some "tx_bond"
  | .redelegation _ => some "tx_redelegate"
  | .unbond _ => some "tx_unbond"
  | .withdraw _ => some "tx_withdraw"
  | .claimRewards _ => some "tx_claim_rewards"
  | .proposalVote _ => some "tx_vote_proposal"
  | .initProposal _ => some "tx_init_proposal"
  | .initAccount _ => some "tx_init_account"
  | .metadataChange _ => some "tx_change_validator_metadata"
  | .commissionChange _ => some "tx_change_validator_commission"
  | .revealPk _ => some "tx_reveal_pk"
  | .becomeValidator _ => some "tx_become_validator"
  | .reactivateValidator _ => some "tx_reactivate_validator"
  | .deactivateValidator _ => some "tx_deactivate_validator"
  | .unjailValidator _ => some "tx_unjail_validator"
  | .changeConsensusKey _ => some "tx_change_consensus_key"
  | .unknown data => data.bind UnknownTransaction.name

/-- Only the data of IBC transactions can stop the reading. -/
def codeNameOfReading : Panicking TransactionKind → Option String
  | .returns kind => kind.codeName
  | .panics _ => some "tx_ibc"

lemma codeName_transferToTxKind (data : Transfer) :
    (transferToTxKind data).codeName = some "tx_transfer" := by
  rw [transferToTxKind]
  split
  · rfl
  · dsimp only
    split <;> rfl

lemma codeName_transferToIbcTxKind {ibcData : IbcMessage} {nativeToken : Address}
    {kind : TransactionKind}
    (h : (transferToIbcTxKind sdk ibcData nativeToken).run = .returns (.ok kind)) :
    kind.codeName = some "tx_ibc" := by
  unfold transferToIbcTxKind at h
  split at h
  · split at h
    · obtain ⟨⟨transferData,tokenId⟩,-,h⟩ := Panicking.run_bind_eq_ok.mp h
      cases h
      split <;> rfl
    · split at h
      · contradiction
      · cases h
        rfl
  · cases h
    rfl
  · obtain ⟨⟨transferData,tokenId⟩,-,h⟩ := Panicking.run_bind_eq_ok.mp h
    cases h
    split <;> rfl
  · contradiction

/-- Whatever kind the data is read as, the name of the code can be told from it. -/
theorem codeNameOfReading_ofData (id txKindName : String) (data : Bytes) (nativeToken : Address) :
    codeNameOfReading (TransactionKind.ofData sdk id txKindName data nativeToken) =
      some txKindName := by
  unfold TransactionKind.ofData
  split
  · cases sdk.transferTryFromSlice data with
    | none => rfl
    | some transfer => exact codeName_transferToTxKind transfer
  all_goals try rfl
  cases sdk.decodeMessage data with
  | none => rfl
  | some ibcData =>
    dsimp only
    cases hrun : (transferToIbcTxKind sdk ibcData nativeToken).run with
    | panics message => rfl
    | returns result =>
      cases result with
      | ok kind => exact codeName_transferToIbcTxKind hrun
      | error e => rfl

lemma codeNameOfReading_txKind {decoding : Decoding} {tx : Tx} {commitment : TxCommitments} :
    codeNameOfReading (txKind sdk decoding tx commitment) =
      (txCodeId sdk tx commitment).bind decoding.checksums.getNameById := by
  unfold txKind
  dsimp only
  cases txCodeId sdk tx commitment with
  | none => rfl
  | some id =>
    dsimp only [Option.bind_some]
    cases decoding.checksums.getNameById id with
    | none => rfl
    | some name => exact codeNameOfReading_ofData id name _ _

/-- Two readings of an inner transaction agree exactly when both know its code under the same
name. -/
theorem txKind_eq_iff (decoding : Decoding) (checksums checksums' : Checksums) (tx : Tx)
    (commitment : TxCommitments) :
    txKind sdk { decoding with checksums } tx commitment =
        txKind sdk { decoding with checksums := checksums' } tx commitment ↔
      ∀ id, txCodeId sdk tx commitment = some id →
        checksums.getNameById id = checksums'.getNameById id := by
  constructor
  · intro h id hid
    have hname := congrArg codeNameOfReading h
    rw [codeNameOfReading_txKind,codeNameOfReading_txKind,hid] at hname
    exact hname
  · intro h
    unfold txKind
    dsimp only
    cases hid : txCodeId sdk tx commitment with
    | none => rfl
    | some id =>
      dsimp only
      rw [h id hid]

/-- The inner transactions that the bytes of a block hold. -/
def innerTxsOf (sdk : Sdk) (response : BlockResponse) : List (Tx × TxCommitments) :=
  response.data.flatMap fun rawTxBytes =>
    match sdk.txTryFrom rawTxBytes with
    | .ok tx =>
      match tx.header.txType with
      | .wrapper _ => tx.header.batch.map fun commitment => (tx,commitment)
      | .raw | .protocol => []
    | .error _ => []

lemma mem_innerTxsOf {response : BlockResponse} {rawTxBytes : Bytes} {tx : Tx}
    {wrapper : WrapperTx} {commitment : TxCommitments} (hraw : rawTxBytes ∈ response.data)
    (htx : sdk.txTryFrom rawTxBytes = .ok tx) (htype : tx.header.txType = .wrapper wrapper)
    (hcommitment : commitment ∈ tx.header.batch) :
    (tx,commitment) ∈ innerTxsOf sdk response := by
  apply List.mem_flatMap.mpr
  refine ⟨rawTxBytes,hraw,?_⟩
  rw [htx]
  dsimp only
  rw [htype]
  exact List.mem_map_of_mem hcommitment

/-- The checksums enter the decoding of a wrapper through the kinds of its inner transactions
only. -/
lemma deserialize_congr {decoding : Decoding} {checksums checksums' : Checksums}
    {rawTxBytes : Bytes} {index : ℕ} {blockHeight : BlockHeight}
    (h : ∀ tx, sdk.txTryFrom rawTxBytes = .ok tx → ∀ wrapper, tx.header.txType = .wrapper wrapper →
      ∀ commitment ∈ tx.header.batch, txKind sdk { decoding with checksums } tx commitment =
        txKind sdk { decoding with checksums := checksums' } tx commitment) :
    Transaction.deserialize sdk { decoding with checksums } rawTxBytes index blockHeight =
      Transaction.deserialize sdk { decoding with checksums := checksums' } rawTxBytes index
        blockHeight := by
  unfold Transaction.deserialize
  refine Fallible.except_bind_congr fun tx htx => ?_
  cases htype : tx.header.txType with
  | raw => rfl
  | protocol => rfl
  | wrapper wrapper =>
    have hinner : tx.header.batch.zipIdx.mapM
        (innerTransaction sdk { decoding with checksums } tx index blockHeight) =
        tx.header.batch.zipIdx.mapM
          (innerTransaction sdk { decoding with checksums := checksums' } tx index blockHeight) := by
      apply Panicking.mapM_congr
      intro entry hentry
      have hcommitment : entry.1 ∈ tx.header.batch :=
        List.fst_mem_of_mem_zipIdx hentry
      unfold innerTransaction
      dsimp only
      rw [h tx htx wrapper htype entry.1 hcommitment]
      rfl
    dsimp only
    rw [hinner]
    rfl

/-- A crawler gives the inner transactions of a block the same kinds at two moments exactly
when the two heads from which it took its checksums know the codes of these transactions under
the same names, the historical names included. Then it also reads the same block. -/
theorem kinds_agree_iff (sdk : Sdk) (decoding : Decoding) (response : BlockResponse)
    (session session' : Session) (checksums checksums' : Checksums)
    (h : session.checksums sdk = .returns checksums)
    (h' : session'.checksums sdk = .returns checksums') :
    ((∀ inner ∈ innerTxsOf sdk response,
        txKind sdk { decoding with checksums } inner.1 inner.2 =
          txKind sdk { decoding with checksums := checksums' } inner.1 inner.2) ↔
      ∀ inner ∈ innerTxsOf sdk response, ∀ id, txCodeId sdk inner.1 inner.2 = some id →
        session.queried.nameOf sdk id = session'.queried.nameOf sdk id) ∧
    ((∀ inner ∈ innerTxsOf sdk response, ∀ id, txCodeId sdk inner.1 inner.2 = some id →
        session.queried.nameOf sdk id = session'.queried.nameOf sdk id) →
      ∀ proposerAddressNamada epoch blockHeight,
        Block.ofResponse sdk { decoding with checksums } response proposerAddressNamada epoch
            blockHeight =
          Block.ofResponse sdk { decoding with checksums := checksums' } response
            proposerAddressNamada epoch blockHeight) := by
  have hnames : ∀ id, checksums.getNameById id = session.queried.nameOf sdk id :=
    getNameById_of_queryChecksums (queryChecksums_queried h)
  have hnames' : ∀ id, checksums'.getNameById id = session'.queried.nameOf sdk id :=
    getNameById_of_queryChecksums (queryChecksums_queried h')
  have hkinds : ∀ inner : Tx × TxCommitments,
      txKind sdk { decoding with checksums } inner.1 inner.2 =
          txKind sdk { decoding with checksums := checksums' } inner.1 inner.2 ↔
        ∀ id, txCodeId sdk inner.1 inner.2 = some id →
          session.queried.nameOf sdk id = session'.queried.nameOf sdk id := by
    intro inner
    rw [txKind_eq_iff]
    simp only [hnames,hnames']
  refine ⟨forall₂_congr fun inner _ => hkinds inner,?_⟩
  intro hagree proposerAddressNamada epoch blockHeight
  have hdata : response.data.zipIdx.mapM (fun entry =>
        (Transaction.deserialize sdk { decoding with checksums } entry.1 entry.2
          blockHeight).run) =
      response.data.zipIdx.mapM fun entry =>
        (Transaction.deserialize sdk { decoding with checksums := checksums' } entry.1 entry.2
          blockHeight).run := by
    apply Panicking.mapM_congr
    intro entry hentry
    refine congrArg ExceptT.run (deserialize_congr fun tx htx wrapper htype commitment hmem => ?_)
    have hraw : entry.1 ∈ response.data := List.fst_mem_of_mem_zipIdx hentry
    have hinner := mem_innerTxsOf hraw htx htype hmem
    exact (hkinds (tx,commitment)).mpr (hagree (tx,commitment) hinner)
  unfold Block.ofResponse
  exact congrArg (· >>= _) hdata

end

/-- A bond of ten tokens, whose code has the hash `a`. -/
def bondTx : Tx where
  header := ⟨.wrapper ⟨⟨1,6⟩,.established "nam",.implicit "payer",100⟩,
    [⟨⟨"code"⟩,⟨"data"⟩,⟨"memo"⟩⟩],false⟩
  sections := [.code ⟨"code"⟩ (.id [0]),.data ⟨"data"⟩ [1]]

/-- The functions of other packages on the block with that bond. -/
def bondSdk : Sdk :=
  { Sdk.sample with
    txTryFrom := fun _ => .ok bondTx
    getSection := fun tx hash => tx.sections.find? fun s => s == .code hash (.id [0])
    codeHash := fun _ => [0]
    data := fun _ _ => some [1]
    bondTryFromSlice := fun _ => some ⟨.established "validator",10,some (.implicit "payer")⟩ }

def bondResponse : BlockResponse := ⟨⟨"hash"⟩,7,"proposer",0,⟨"app"⟩,[[0]]⟩

def bondDecoding : Decoding := ⟨fun _ => none,⟨[],[]⟩,⟨[]⟩,.established "nam"⟩

/-- A head whose code for bonds has the given hash. -/
def headWithBondCode (firstBlockInEpoch : BlockHeight) (hash : String) : Head :=
  ⟨firstBlockInEpoch,fun codePath => some (if codePath = "tx_bond.wasm" then hash else codePath)⟩

/-- Block 7, read when it was new. -/
def readWhenNew : Session := ⟨headWithBondCode 5 "a",[(7,headWithBondCode 5 "a")]⟩

/-- The same block, read after a restart some epochs later. -/
def readAfterRestart : Session := ⟨headWithBondCode 40 "a",[(6,headWithBondCode 40 "a")]⟩

theorem bond_known_after_restart :
    ∃ checksums checksums', readWhenNew.checksums bondSdk = .returns checksums ∧
      readAfterRestart.checksums bondSdk = .returns checksums' ∧
      ∀ inner ∈ innerTxsOf bondSdk bondResponse,
        txKind bondSdk { bondDecoding with checksums } inner.1 inner.2 =
          txKind bondSdk { bondDecoding with checksums := checksums' } inner.1 inner.2 := by
  refine ⟨_,_,rfl,rfl,?_⟩
  apply (kinds_agree_iff bondSdk bondDecoding bondResponse readWhenNew readAfterRestart _ _ rfl
    rfl).1.mpr
  intro inner hinner id hid
  rfl

/-- The same block, read after an upgrade of the code for bonds. -/
def readAfterUpgrade : Session := ⟨headWithBondCode 900 "b",[(7,headWithBondCode 900 "b")]⟩

theorem bond_unknown_after_upgrade :
    ∃ checksums checksums', readWhenNew.checksums bondSdk = .returns checksums ∧
      readAfterUpgrade.checksums bondSdk = .returns checksums' ∧
      ∃ inner ∈ innerTxsOf bondSdk bondResponse,
        txKind bondSdk { bondDecoding with checksums } inner.1 inner.2 ≠
          txKind bondSdk { bondDecoding with checksums := checksums' } inner.1 inner.2 := by
  refine ⟨_,_,rfl,rfl,(bondTx,⟨⟨"code"⟩,⟨"data"⟩,⟨"memo"⟩⟩),List.mem_singleton_self _,?_⟩
  intro h
  rw [txKind_eq_iff] at h
  have hname := h "a" rfl
  revert hname
  decide +kernel

end NamadaIndexer.Shared
