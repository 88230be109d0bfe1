import NamadaIndexer.Shared.Checksums
import NamadaIndexer.Shared.Block

/-! The search for the MASP reference of an inner transaction. It stops at the first MASP event
of the block, whichever transaction that event belongs to. -/
namespace NamadaIndexer.Shared
open NamadaIndexer.Foundation

/-- A search whose passes may answer "stop, with nothing" agrees with the search for the first
value exactly when there is no value at all, or the first pass that stops has one. -/
lemma join_findSome?_eq_iff {α β : Type*} {f : α → Option (Option β)} {l : List α} :
    (l.findSome? f).join = l.findSome? (fun a => (f a).join) ↔
      (∀ a ∈ l, (f a).join = none) ∨
        ∃ a, l.find? (fun a => (f a).isSome) = some a ∧ (f a).join.isSome := by
  induction l with
  | nil => simp
  | cons a l ih =>
    rw [List.findSome?_cons,List.findSome?_cons,List.find?_cons,List.forall_mem_cons]
    cases ha : f a with
    | none => simpa using ih
    | some answer =>
      cases answer with
      | some b => simp [ha]
      | none =>
        -- the search stops here without a value
        have hnone : (none = l.findSome? fun a => (f a).join) ↔ ∀ a ∈ l, (f a).join = none := by
          rw [eq_comm,List.findSome?_eq_none_iff]
        simpa [ha] using hnone

namespace BlockResult
variable (results : BlockResult) (indexedTx : IndexedTx)

/-- A MASP event with attributes, for whichever transaction. -/
def isMaspEvent (event : Event) : Bool :=
  (event.kind == .maspFeePayment || event.kind == .maspTransfer) && event.attributes.isSome

/-- The reference that an event holds for a transaction, with its fee-payment flag. -/
def refFor (event : Event) : Option (MaspRef × Bool) :=
  match event.kind,event.attributes with
  | .maspFeePayment,some (.maspFeePayment data) =>
    if data.indexedTx = indexedTx then some (data.data,true) else none
  | .maspTransfer,some (.maspTransfer data) =>
    if data.indexedTx = indexedTx then some (data.data,false) else none
  | _,_ => none

/-- The reference of the first event of the transaction itself. -/
def ownRef : Option (MaspRef × Bool) := results.endEvents.findSome? (refFor indexedTx)

/-- The block holds no reference for the transaction, or its first MASP event is one of the
transaction. -/
def OwnRefFirst : Prop :=
  (∀ event ∈ results.endEvents, refFor indexedTx event = none) ∨
    ∃ event, results.endEvents.find? isMaspEvent = some event ∧ (refFor indexedTx event).isSome

variable {indexedTx}

lemma join_maspRefOf (event : Event) : (maspRefOf indexedTx event).join = refFor indexedTx event := by
  obtain ⟨kind,innerTxHash,attributes⟩ := event
  cases attributes with
  | none => cases kind <;> rfl
  | some attributes => cases kind <;> cases attributes <;> rfl

variable (indexedTx) in
lemma isSome_maspRefOf (event : Event) : (maspRefOf indexedTx event).isSome = isMaspEvent event := by
  obtain ⟨kind,innerTxHash,attributes⟩ := event
  cases attributes with
  | none => cases kind <;> rfl
  | some attributes => cases kind <;> rfl

/-- `masp_ref` finds the transaction's own reference exactly when the first MASP event is one of
the transaction, or no event is. -/
lemma maspRef_eq_ownRef_iff :
    results.maspRef indexedTx = results.ownRef indexedTx ↔ results.OwnRefFirst indexedTx := by
  have h := join_findSome?_eq_iff (f := maspRefOf indexedTx) (l := results.endEvents)
  simp only [join_maspRefOf,isSome_maspRefOf] at h
  exact h

/-- Where the search misses the own reference, it returns nothing. -/
lemma maspRef_eq_none (h : ¬ results.OwnRefFirst indexedTx) :
    results.maspRef indexedTx = none := by
  rw [maspRef,Option.join_eq_none_iff]
  cases hfound : results.endEvents.findSome? (maspRefOf indexedTx) with
  | none => exact .inl rfl
  | some answer =>
    right
    cases answer with
    | none => rfl
    | some ref =>
      refine absurd (.inr ?_) h
      obtain ⟨before,event,after,hevents,hevent,hbefore⟩ := List.findSome?_eq_some_iff.mp hfound
      refine ⟨event,?_,?_⟩
      · rw [List.find?_eq_some_iff_append,←isSome_maspRefOf indexedTx,hevent]
        refine ⟨rfl,before,after,hevents,fun other hother => ?_⟩
        rw [←isSome_maspRefOf indexedTx,hbefore other hother]
        rfl
      · rw [←join_maspRefOf,hevent]
        rfl

end BlockResult

section
variable (sdk : Sdk) (decoding : Decoding)

/-- The place of an inner transaction in the chain. -/
def indexedTxOf (blockHeight : BlockHeight) (index batchIndex : ℕ) : IndexedTx :=
  ⟨blockHeight.toUInt64,UInt32.ofNat index,some (UInt32.ofNat batchIndex)⟩

/-- The number of notes and the fee-payment flag that the transaction's own reference gives. -/
def ownBundle (tx : Tx) (indexedTx : IndexedTx) : Panicking (ℕ × Bool) :=
  match decoding.blockResults.ownRef indexedTx with
  | some (maspRef,isMaspFeePayment) =>
    (fun bundle => (bundle.notes,isMaspFeePayment)) <$> extractMaspTransaction sdk tx maspRef
  | none => .returns (0,false)

/-- How a transaction of a decoded block was made: from the bytes at its index, by one pass for
each inner transaction. A pass gives the inner transaction and its fee-payment flag, and the
wrapper keeps the last flagged one. -/
structure MadeBy (response : BlockResponse) (entry : WrapperTransaction × List InnerTransaction)
    (tx : Tx) (passes : List (InnerTransaction × Bool)) : Prop where
  raw : ∃ rawTxBytes, response.data[entry.1.index]? = some rawTxBytes ∧
    sdk.txTryFrom rawTxBytes = .ok tx
  innerTxs : entry.2 = passes.map Prod.fst
  indices : ∀ batchIndex < tx.header.batch.length, ∃ pass ∈ passes, pass.1.index = batchIndex
  feePayment : entry.1.fee.maspFeePayment = maspFeePayment passes

variable {sdk decoding}

/-- What a pass gives is what the search of the block's events gave. -/
lemma maspBundle_of_innerTransaction {tx : Tx} {index : ℕ} {blockHeight : BlockHeight}
    {entry : TxCommitments × ℕ} {pass : InnerTransaction × Bool}
    (h : innerTransaction sdk decoding tx index blockHeight entry = .returns pass) :
    pass.1.index = entry.2 ∧
      maspBundle sdk decoding tx (indexedTxOf blockHeight index entry.2) =
        .returns (pass.1.notes,pass.2) := by
  unfold innerTransaction at h
  obtain ⟨kind,-,h⟩ := Panicking.bind_eq_returns.mp h
  obtain ⟨blockIndex,hindex,h⟩ := Panicking.bind_eq_returns.mp h
  obtain ⟨bundle,hbundle,h⟩ := Panicking.bind_eq_returns.mp h
  obtain rfl := Panicking.returns.inj h
  have hblockIndex : UInt32.ofNat index = blockIndex := by
    unfold txIndexMustFromUsize at hindex
    split at hindex
    · exact Panicking.returns.inj hindex
    · cases hindex
  subst hblockIndex
  exact ⟨rfl,hbundle⟩

lemma maspBundle_eq_ownBundle_iff {tx : Tx} {indexedTx : IndexedTx} {bundle : ℕ × Bool}
    (h : maspBundle sdk decoding tx indexedTx = .returns bundle) :
    ownBundle sdk decoding tx indexedTx = .returns bundle ↔
      decoding.blockResults.OwnRefFirst indexedTx ∨
        ownBundle sdk decoding tx indexedTx = .returns (0,false) := by
  by_cases hfirst : decoding.blockResults.OwnRefFirst indexedTx
  · have hown := (BlockResult.maspRef_eq_ownRef_iff decoding.blockResults).mpr hfirst
    rw [ownBundle,←hown]
    exact iff_of_true h (.inl hfirst)
  · rw [maspBundle,BlockResult.maspRef_eq_none _ hfirst] at h
    obtain rfl : (0,false) = bundle := Panicking.returns.inj h
    exact ⟨.inr,fun hor => hor.resolve_left hfirst⟩

/-- The passes behind a decoded transaction. -/
lemma exists_passes_of_deserialize {rawTxBytes : Bytes} {index : ℕ} {blockHeight : BlockHeight}
    {entry : WrapperTransaction × List InnerTransaction}
    (h : (Transaction.deserialize sdk decoding rawTxBytes index blockHeight).run =
      .returns (.ok entry)) :
    ∃ tx passes, sdk.txTryFrom rawTxBytes = .ok tx ∧ entry.1.index = index ∧
      entry.2 = passes.map Prod.fst ∧ entry.1.fee.maspFeePayment = maspFeePayment passes ∧
      tx.header.batch.zipIdx.mapM (innerTransaction sdk decoding tx index blockHeight) =
        .returns passes := by
  unfold Transaction.deserialize at h
  obtain ⟨tx,htx,h⟩ := Panicking.run_bind_eq_ok.mp h
  split at h
  · obtain ⟨passes,hpasses,h⟩ := Panicking.run_bind_eq_ok.mp h
    obtain ⟨gas,-,h⟩ := Panicking.run_bind_eq_ok.mp h
    obtain rfl := Panicking.run_pure_eq_ok.mp h
    have hread : sdk.txTryFrom rawTxBytes = .ok tx := by
      cases hread : sdk.txTryFrom rawTxBytes with
      | error e => rw [hread] at htx; cases htx
      | ok other => rw [hread] at htx; cases htx; rfl
    exact ⟨tx,passes,hread,rfl,rfl,rfl,Panicking.run_lift_eq_ok.mp hpasses⟩
  · cases h
  · cases h

end

/-- `masp_ref` returns the reference and the flag of the first event of the transaction exactly
when the first MASP event of the block is one of the transaction, or no event is. In a decoded
block, an inner transaction has its own number of notes and its own flag under the same
condition, or when these are zero and `false` anyway. -/
theorem masp_refs_found_iff (sdk : Sdk) (decoding : Decoding) (response : BlockResponse)
    (proposerAddressNamada : Option Id) (epoch : Epoch) (blockHeight : BlockHeight) (block : Block)
    (h : Block.ofResponse sdk decoding response proposerAddressNamada epoch blockHeight =
      .returns block) :
    (∀ indexedTx, decoding.blockResults.maspRef indexedTx =
        decoding.blockResults.ownRef indexedTx ↔ decoding.blockResults.OwnRefFirst indexedTx) ∧
      ∀ entry ∈ block.transactions, ∃ tx passes, MadeBy sdk response entry tx passes ∧
        ∀ pass ∈ passes,
          ownBundle sdk decoding tx (indexedTxOf blockHeight entry.1.index pass.1.index) =
              .returns (pass.1.notes,pass.2) ↔
            decoding.blockResults.OwnRefFirst
                (indexedTxOf blockHeight entry.1.index pass.1.index) ∨
              ownBundle sdk decoding tx (indexedTxOf blockHeight entry.1.index pass.1.index) =
                .returns (0,false) := by
  refine ⟨fun indexedTx => decoding.blockResults.maspRef_eq_ownRef_iff,fun entry hentry => ?_⟩
  unfold Block.ofResponse at h
  obtain ⟨results,hresults,h⟩ := Panicking.bind_eq_returns.mp h
  obtain rfl := Panicking.returns.inj h
  obtain ⟨result,hresult,hok⟩ := List.mem_filterMap.mp hentry
  obtain ⟨⟨rawTxBytes,index⟩,hraw,hrun⟩ := (Panicking.mem_of_mapM_returns hresults).mp hresult
  cases result with
  | error e => contradiction
  | ok other =>
    obtain rfl := Option.some.inj hok
    obtain ⟨tx,passes,htx,rfl,hinner,hfee,hpasses⟩ := exists_passes_of_deserialize hrun
    refine ⟨tx,passes,⟨⟨rawTxBytes,?_,htx⟩,hinner,?_,hfee⟩,fun pass hpass => ?_⟩
    · exact List.mem_zipIdx_iff_getElem?.mp hraw
    · intro batchIndex hlt
      have hmem : (tx.header.batch[batchIndex],batchIndex) ∈ tx.header.batch.zipIdx :=
        List.mem_zipIdx_iff_getElem?.mpr (List.getElem?_eq_getElem hlt)
      obtain ⟨pass,hpass⟩ := Panicking.returns_mapM_iff.mp ⟨passes,hpasses⟩ _ hmem
      exact ⟨pass,(Panicking.mem_of_mapM_returns hpasses).mpr ⟨_,hmem,hpass⟩,
        (maspBundle_of_innerTransaction hpass).1⟩
    · obtain ⟨commitment,-,hmade⟩ := (Panicking.mem_of_mapM_returns hpasses).mp hpass
      obtain ⟨hindex,hbundle⟩ := maspBundle_of_innerTransaction hmade
      rw [hindex]
      exact maspBundle_eq_ownBundle_iff hbundle

/-- A batch of two shielded transfers. -/
def twoTransfersTx : Tx where
  header := ⟨.wrapper ⟨⟨1,6⟩,.established "nam",.implicit "payer",100⟩,
    [⟨⟨"first"⟩,⟨"data"⟩,⟨"memo"⟩⟩,⟨⟨"second"⟩,⟨"data"⟩,⟨"memo"⟩⟩],false⟩
  sections := [.maspTx ⟨"a"⟩ ⟨some ⟨1,2,0⟩⟩,.maspTx ⟨"b"⟩ ⟨some ⟨2,3,0⟩⟩]

def twoTransfersSdk : Sdk :=
  { Sdk.sample with
    txTryFrom := fun _ => .ok twoTransfersTx
    getMaspSection := fun _ id => some (if id.text = "a" then ⟨some ⟨1,2,0⟩⟩ else ⟨some ⟨2,3,0⟩⟩) }

/-- One MASP event for each of the two. -/
def twoTransfersDecoding : Decoding :=
  { bondDecoding with
    blockResults := ⟨[
      ⟨.maspTransfer,none,some (.maspTransfer ⟨⟨7,0,some 0⟩,.maspSection ⟨"a"⟩⟩)⟩,
      ⟨.maspTransfer,none,some (.maspTransfer ⟨⟨7,0,some 1⟩,.maspSection ⟨"b"⟩⟩)⟩]⟩ }

theorem masp_refs_found_two_transfers :
    ∃ block, Block.ofResponse twoTransfersSdk twoTransfersDecoding bondResponse none 1 7 =
        .returns block ∧
      ∀ entry ∈ block.transactions, ∃ tx passes, MadeBy twoTransfersSdk bondResponse entry tx passes ∧
        ∀ pass ∈ passes,
          ownBundle twoTransfersSdk twoTransfersDecoding tx
                (indexedTxOf 7 entry.1.index pass.1.index) = .returns (pass.1.notes,pass.2) ↔
            twoTransfersDecoding.blockResults.OwnRefFirst
                (indexedTxOf 7 entry.1.index pass.1.index) ∨
              ownBundle twoTransfersSdk twoTransfersDecoding tx
                (indexedTxOf 7 entry.1.index pass.1.index) = .returns (0,false) :=
  ⟨_,rfl,(masp_refs_found_iff twoTransfersSdk twoTransfersDecoding bondResponse none 1 7 _ rfl).2⟩

/-- The second transfer has five notes and is given none. -/
theorem second_transfer_has_no_notes :
    twoTransfersDecoding.blockResults.maspRef ⟨7,0,some 1⟩ = none ∧
      twoTransfersDecoding.blockResults.ownRef ⟨7,0,some 1⟩ = some (.maspSection ⟨"b"⟩,false) ∧
      ownBundle twoTransfersSdk twoTransfersDecoding twoTransfersTx ⟨7,0,some 1⟩ =
        .returns (5,false) ∧
      (fun block => block.innerTxs.map InnerTransaction.notes) <$>
          Block.ofResponse twoTransfersSdk twoTransfersDecoding bondResponse none 1 7 =
        .returns [3,0] :=
  ⟨rfl,rfl,rfl,rfl⟩

end NamadaIndexer.Shared
