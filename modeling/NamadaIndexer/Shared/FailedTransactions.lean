import Mathlib.Data.Finset.Lattice.Lemmas
import NamadaIndexer.Foundation.Iteration
import NamadaIndexer.Shared.Extractors

/-! Failed transactions leave no trace: what the chain crawler derives from a block is a
function of the block without its failed inner transactions. -/
namespace NamadaIndexer.Shared
open NamadaIndexer.Foundation

/-- The inner transactions of two runs: one transaction if it succeeds in both, and otherwise
two that may differ in kind, data and extra sections. -/
structure InnerTransaction.SameUpToFailed (wrapperTx : WrapperTransaction)
    (tx tx' : InnerTransaction) : Prop where
  frame : { tx with kind := tx'.kind, data := tx'.data, extraSections := tx'.extraSections } = tx'
  successful : tx.wasSuccessful wrapperTx = true → tx'.wasSuccessful wrapperTx = true → tx = tx'

/-- Two blocks that are equal but for the contents of failed inner transactions. -/
structure Block.SameUpToFailed (block block' : Block) : Prop where
  hash : block.hash = block'.hash
  header : block.header = block'.header
  epoch : block.epoch = block'.epoch
  transactions : List.Forall₂ (fun entry entry' => entry.1 = entry'.1 ∧
    List.Forall₂ (InnerTransaction.SameUpToFailed entry.1) entry.2 entry'.2)
    block.transactions block'.transactions

/-- A wrapper with its successful inner transactions. -/
def successfulBatch (entry : WrapperTransaction × List InnerTransaction) :
    WrapperTransaction × List InnerTransaction :=
  (entry.1,entry.2.filter fun innerTx => innerTx.wasSuccessful entry.1)

/-- The block with the successful inner transactions only. -/
def Block.withoutFailed (block : Block) : Block :=
  { block with transactions := block.transactions.map successfulBatch }

/-- Kind, data and extra sections have no part in the success of a transaction. -/
lemma InnerTransaction.SameUpToFailed.wasSuccessful_eq {wrapperTx : WrapperTransaction}
    {tx tx' : InnerTransaction} (h : tx.SameUpToFailed wrapperTx tx') :
    tx.wasSuccessful wrapperTx = tx'.wasSuccessful wrapperTx := by
  rw [←h.frame]
  rfl

lemma filter_successful_eq {wrapperTx : WrapperTransaction} {txs txs' : List InnerTransaction}
    (h : List.Forall₂ (InnerTransaction.SameUpToFailed wrapperTx) txs txs') :
    (txs.filter fun tx => tx.wasSuccessful wrapperTx) =
      txs'.filter fun tx => tx.wasSuccessful wrapperTx := by
  induction h with
  | nil => rfl
  | @cons tx tx' txs txs' htx htxs ih =>
    have hsuccess := htx.wasSuccessful_eq
    rw [List.filter_cons,List.filter_cons,←hsuccess,ih]
    by_cases hs : tx.wasSuccessful wrapperTx = true
    · have hsame : tx = tx' := htx.successful hs (hsuccess ▸ hs)
      rw [if_pos hs,if_pos hs,hsame]
    · rw [if_neg hs,if_neg hs]

lemma map_successfulBatch_eq {entries entries' : List (WrapperTransaction × List InnerTransaction)}
    (h : List.Forall₂ (fun entry entry' => entry.1 = entry'.1 ∧
      List.Forall₂ (InnerTransaction.SameUpToFailed entry.1) entry.2 entry'.2) entries entries') :
    entries.map successfulBatch = entries'.map successfulBatch := by
  induction h with
  | nil => rfl
  | @cons entry entry' _ _ hentry _ ih =>
    have hbatch : successfulBatch entry = successfulBatch entry' := by
      rw [successfulBatch,successfulBatch,filter_successful_eq hentry.2,hentry.1]
    rw [List.map_cons,List.map_cons,hbatch,ih]

lemma Block.SameUpToFailed.withoutFailed_eq {block block' : Block}
    (h : block.SameUpToFailed block') : block.withoutFailed = block'.withoutFailed := by
  rw [Block.withoutFailed,Block.withoutFailed,map_successfulBatch_eq h.transactions,h.hash,h.header,
    h.epoch]

section
variable {sdk : Sdk} {format : ProposalFormat} {nativeToken : Id} (block : Block)

@[simp] lemma Block.successfulInnerTxs_withoutFailed :
    block.withoutFailed.successfulInnerTxs = block.successfulInnerTxs := by
  simp only [Block.successfulInnerTxs,Block.withoutFailed,successfulBatch,List.flatMap_map,
    List.filter_filter,Bool.and_self]

/-- A batch contributes the changes of its successful transactions. -/
lemma Block.changesOf_successfulBatch (ibcTokens : List Token)
    (entry : WrapperTransaction × List InnerTransaction) :
    Block.changesOf sdk block.withoutFailed nativeToken ibcTokens (successfulBatch entry) =
      Block.changesOf sdk block nativeToken ibcTokens entry := by
  simp only [Block.changesOf,successfulBatch,List.filter_filter,Bool.and_self,Block.gasChanges,
    Block.withoutFailed]
  rfl

lemma Block.addresses_withoutFailed (ibcTokens : List Token) :
    block.withoutFailed.addressesWithBalanceChange sdk nativeToken ibcTokens =
      block.addressesWithBalanceChange sdk nativeToken ibcTokens := by
  have hbatches : block.withoutFailed.transactions.mapM
      (Block.changesOf sdk block.withoutFailed nativeToken ibcTokens) =
      block.transactions.mapM (Block.changesOf sdk block nativeToken ibcTokens) := by
    change (block.transactions.map successfulBatch).mapM _ = _
    rw [List.mapM_map]
    congr 1
    funext entry
    exact Block.changesOf_successfulBatch block ibcTokens entry
  rw [Block.addressesWithBalanceChange,hbatches,Block.addressesWithBalanceChange]

/-- Every extractor reads the block without its failed transactions. -/
lemma Block.extract_withoutFailed (tokens : List IbcToken) (nextProposalId : UInt64) :
    block.withoutFailed.extract sdk format nativeToken tokens nextProposalId =
      block.extract sdk format nativeToken tokens nextProposalId := by
  simp only [Block.extract,Block.addresses_withoutFailed,
    Block.validatorMetadata,Block.ibcTokens,Block.governanceProposal,Block.governanceVotes,
    Block.votesInOrder,Block.newValidators,Block.updateValidatorsState,Block.bondAddresses,
    Block.unbondAddresses,Block.withdrawAddresses,Block.revealedPks,Block.posRewards,
    Block.successfulInnerTxs_withoutFailed]

/-- Loops whose passes return the same sets return the same set. -/
lemma toFinset_flatten_mapM_congr {γ α : Type} [DecidableEq α] {f g : γ → Panicking (List α)}
    {l : List γ} (h : ∀ c ∈ l, List.toFinset <$> f c = List.toFinset <$> g c) :
    (fun lists => lists.flatten.toFinset) <$> l.mapM f =
      (fun lists => lists.flatten.toFinset) <$> l.mapM g := by
  induction l with
  | nil => rfl
  | cons c l ih =>
    have hc := h c List.mem_cons_self
    have hl := ih fun d hd => h d (List.mem_cons_of_mem _ hd)
    rw [List.mapM_cons,List.mapM_cons]
    cases hf : f c with
    | panics message =>
      cases hg : g c with
      | panics message' => simpa [hf,hg] using hc
      | returns bs => simp [hf,hg] at hc
    | returns as =>
      cases hg : g c with
      | panics message' => simp [hf,hg] at hc
      | returns bs =>
        have habs : as.toFinset = bs.toFinset := by simpa [hf,hg] using hc
        cases hlf : l.mapM f with
        | panics message =>
          cases hlg : l.mapM g with
          | panics message' => simpa [hlf,hlg] using hl
          | returns rests => simp [hlf,hlg] at hl
        | returns lists =>
          cases hlg : l.mapM g with
          | panics message' => simp [hlf,hlg] at hl
          | returns lists' =>
            have hrest : lists.flatten.toFinset = lists'.flatten.toFinset := by
              simpa [hlf,hlg] using hl
            simp [List.toFinset_append,habs,hrest]

/-- The order of the tokens has no influence on the set of one transaction. -/
lemma Block.processInnerTxForBalance_perm {tokens tokens' : List Token} (h : tokens.Perm tokens')
    (tx : InnerTransaction) :
    List.toFinset <$> Block.processInnerTxForBalance sdk nativeToken tokens tx =
      List.toFinset <$> Block.processInnerTxForBalance sdk nativeToken tokens' tx := by
  unfold Block.processInnerTxForBalance
  generalize tx.kind = kind
  cases kind with
  | shieldedTransfer data =>
    simp only [Panicking.map_returns]
    exact congrArg Panicking.returns (List.toFinset_eq_of_perm _ _ (h.map _))
  | transparentTransfer data | shieldingTransfer data | unshieldingTransfer data
  | mixedTransfer data | ibcMsg data | bond data | withdraw data | claimRewards data
  | initProposal data => cases data <;> rfl
  | _ => rfl

lemma Block.addresses_perm {tokens tokens' : List Token} (h : tokens.Perm tokens') :
    block.addressesWithBalanceChange sdk nativeToken tokens =
      block.addressesWithBalanceChange sdk nativeToken tokens' := by
  apply toFinset_flatten_mapM_congr
  rintro ⟨wrapperTx,innerTxs⟩ -
  have hinner := toFinset_flatten_mapM_congr
    (l := innerTxs.filter fun tx => tx.wasSuccessful wrapperTx)
    (f := Block.processInnerTxForBalance sdk nativeToken tokens)
    fun tx _ => Block.processInnerTxForBalance_perm h tx
  have hchanges : ∀ ibcTokens : List Token,
      List.toFinset <$> Block.changesOf sdk block nativeToken ibcTokens (wrapperTx,innerTxs) =
      (fun set => set ∪ (Block.gasChanges block nativeToken wrapperTx).toFinset) <$>
        ((fun lists => lists.flatten.toFinset) <$>
          (innerTxs.filter fun tx => tx.wasSuccessful wrapperTx).mapM
            (Block.processInnerTxForBalance sdk nativeToken ibcTokens)) := by
    intro ibcTokens
    rw [Block.changesOf]
    cases (innerTxs.filter fun tx => tx.wasSuccessful wrapperTx).mapM
        (Block.processInnerTxForBalance sdk nativeToken ibcTokens) with
    | panics message => rfl
    | returns lists => simp
  rw [hchanges,hchanges,hinner]

/-- Everything the chain crawler derives from a block is the same for two blocks that differ in
the contents of failed inner transactions only, whatever the order in which the extracted
tokens are visited. -/
theorem failed_transactions_leave_no_trace (sdk : Sdk) (format : ProposalFormat) (nativeToken : Id)
    (nextProposalId : UInt64) {block block' : Block} (h : block.SameUpToFailed block')
    {tokens tokens' : List IbcToken} (htokens : Enumerates tokens block.ibcTokens)
    (htokens' : Enumerates tokens' block'.ibcTokens) :
    block.extract sdk format nativeToken tokens nextProposalId =
      block'.extract sdk format nativeToken tokens' nextProposalId := by
  have hset : block.ibcTokens = block'.ibcTokens := by
    rw [Block.ibcTokens,←Block.successfulInnerTxs_withoutFailed,h.withoutFailed_eq,
      Block.successfulInnerTxs_withoutFailed,Block.ibcTokens]
  have hperm : tokens.Perm tokens' := by
    apply htokens.perm
    rw [hset]
    exact htokens'
  calc block.extract sdk format nativeToken tokens nextProposalId
      = block.withoutFailed.extract sdk format nativeToken tokens nextProposalId :=
        (Block.extract_withoutFailed block tokens nextProposalId).symm
    _ = block'.withoutFailed.extract sdk format nativeToken tokens nextProposalId := by
        rw [h.withoutFailed_eq]
    _ = block'.extract sdk format nativeToken tokens nextProposalId :=
        Block.extract_withoutFailed block' tokens nextProposalId
    _ = block'.extract sdk format nativeToken tokens' nextProposalId := by
        rw [Block.extract,Block.extract,Block.addresses_perm block' (hperm.map Token.ibc)]

end

/-- A block that sends OSMO over a channel, next to a rejected transaction. -/
def sendingBlock (rejected : TransactionKind) (data : Option String) : Block where
  hash := .hash ""
  header := ⟨7,"",none,0,.hash ""⟩
  transactions :=
    [(⟨.hash "",0,⟨"",none,"",.account "tnam1zalice",.account "tnam1qnam",none⟩,false,7,.applied,0,0⟩,
      [⟨.hash "1",0,.hash "",.ibcSendTrasparentTransfer (.ibc ⟨.account "tnam1ptosmo",none⟩)
          ⟨[],[],none⟩,none,none,[],0,.applied⟩,
        ⟨.hash "2",1,.hash "",rejected,none,data,[],0,.rejected⟩])]
  epoch := 1

/-- A rejected vote and a rejected bond leave the same behind: nothing. -/
theorem failed_transactions_leave_no_trace_sample :
    (sendingBlock (.proposalVote (some ⟨3,.yay,.implicit "alice"⟩)) (some "vote")).extract Sdk.sample
        ProposalFormat.sample (.account "tnam1qnam") [⟨.account "tnam1ptosmo",none⟩] 4 =
      (sendingBlock (.bond (some ⟨.established "val",5,none⟩)) none).extract Sdk.sample
        ProposalFormat.sample (.account "tnam1qnam") [⟨.account "tnam1ptosmo",none⟩] 4 := by
  apply failed_transactions_leave_no_trace
  · refine ⟨rfl,rfl,rfl,.cons ⟨rfl,.cons ⟨rfl,fun _ _ => rfl⟩ (.cons ⟨rfl,?_⟩ .nil)⟩ .nil⟩
    intro hsuccess
    exact absurd hsuccess (by decide)
  · exact ⟨by decide,fun _ => List.mem_toFinset.symm⟩
  · exact ⟨by decide,fun _ => List.mem_toFinset.symm⟩

end NamadaIndexer.Shared
