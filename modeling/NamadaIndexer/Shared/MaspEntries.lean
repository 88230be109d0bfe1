import Mathlib.Data.List.Perm.Subperm
import NamadaIndexer.Shared.BalanceChanges

/-! The MASP entries of transfers: what a transfer puts into the pool and takes out of it,
and what is emitted for it. -/
namespace NamadaIndexer.Shared
open NamadaIndexer.Foundation

section
variable (sdk : Sdk) (block : Block) (tx : InnerTransaction)

/-- The entry of one account of a transfer, with its own token and amount. -/
def ownEntry (direction : MaspEntryDirection) (entry : Account × DenominatedAmount) : MaspEntry where
  tokenAddress := sdk.encode entry.1.token
  timestamp := block.header.timestamp
  rawAmount := entry.2.amount
  direction
  innerTxId := tx.txId

def maspOwned (entry : Account × DenominatedAmount) : Bool := entry.1.owner == MASP_ADDRESS

/-- One entry for each account of the MASP: out for a source, in for a target. -/
def maspOwnedEntries (transfer : Transfer) : List MaspEntry :=
  (transfer.sources.filter maspOwned).map (ownEntry sdk block tx .out) ++
    (transfer.targets.filter maspOwned).map (ownEntry sdk block tx .in)

/-- The leg of an IBC transfer belongs to the MASP. -/
def ibcMaspOwned (entry : ChainAddress × DenominatedAmount) : Bool :=
  entry.1.owner sdk == sdk.encode MASP_ADDRESS

/-- The same for the legs of an IBC transfer. -/
def ibcMaspOwnedEntries (data : TransferData) : List MaspEntry :=
  (data.sources.filter (ibcMaspOwned sdk)).map (Block.maspEntry sdk block tx .out) ++
    (data.targets.filter (ibcMaspOwned sdk)).map (Block.maspEntry sdk block tx .in)

/-- The transfer of an IBC transaction that moves value in or out of the MASP. -/
def TransactionKind.ibcMaspTransfer : TransactionKind → Option TransferData
  | .ibcShieldingTransfer _ data | .ibcUnshieldingTransfer _ data => some data
  | _ => none

/-- The legs of an IBC transaction that stand for the MASP. -/
def TransactionKind.maspLegs : TransactionKind → AccountsMap
  | .ibcShieldingTransfer _ data => data.targets
  | .ibcUnshieldingTransfer _ data => data.sources
  | _ => []

/-- What one transaction of the block contributes. -/
def Block.entriesOf (wrapperTx : WrapperTransaction) : List MaspEntry :=
  ({ block with transactions := [(wrapperTx,[tx])] }).maspEntries sdk

/-- The entries of a block are right: they are those of its transactions, a failed one has
none, a transfer has those of the MASP's accounts, and an IBC transfer no others. -/
structure Block.MaspEntriesRight : Prop where
  together : block.maspEntries sdk = block.transactions.flatMap fun (wrapperTx,innerTxs) =>
    innerTxs.flatMap fun tx => block.entriesOf sdk tx wrapperTx
  failed : ∀ entry ∈ block.transactions, ∀ tx ∈ entry.2, tx.wasSuccessful entry.1 = false →
    block.entriesOf sdk tx entry.1 = []
  transfer : ∀ entry ∈ block.transactions, ∀ tx ∈ entry.2, tx.wasSuccessful entry.1 = true →
    ∀ transfer, tx.kind = transferToTxKind transfer →
      (∃ account ∈ transfer.sources ++ transfer.targets, account.1.owner ≠ MASP_ADDRESS) →
        block.entriesOf sdk tx entry.1 = maspOwnedEntries sdk block tx transfer
  ibc : ∀ entry ∈ block.transactions, ∀ tx ∈ entry.2, tx.wasSuccessful entry.1 = true →
    ∀ data, tx.kind.ibcMaspTransfer = some data →
      (block.entriesOf sdk tx entry.1).Subperm (ibcMaspOwnedEntries sdk block tx data)

end

section
variable {sdk : Sdk} {block : Block} {tx : InnerTransaction}

lemma maspOwners_eq (side : List (Account × DenominatedAmount)) :
    maspOwners side = (side.all maspOwned,side.any maspOwned) := by
  have hfold : ∀ all any : Bool,
      side.foldl (fun flags entry => (flags.1 && maspOwned entry,flags.2 || maspOwned entry))
        (all,any) = (all && side.all maspOwned,any || side.any maspOwned) := by
    induction side with
    | nil => simp
    | cons entry side ih =>
      intro all any
      rw [List.foldl_cons,ih,List.all_cons,List.any_cons,Bool.and_assoc,Bool.or_assoc]
  have h := hfold true false
  rw [Bool.true_and,Bool.false_or] at h
  exact h

/-- What the class of a transfer says about the owners of its two sides. -/
lemma transferToTxKind_cases (transfer : Transfer) :
    (transferToTxKind transfer = .shieldedTransfer (some (.ofTransfer transfer)) ∧
      (∀ entry ∈ transfer.sources,maspOwned entry = true) ∧
      ∀ entry ∈ transfer.targets,maspOwned entry = true) ∨
    (transferToTxKind transfer = .unshieldingTransfer (some (.ofTransfer transfer)) ∧
      (∀ entry ∈ transfer.sources,maspOwned entry = true) ∧
      ∀ entry ∈ transfer.targets,maspOwned entry = false) ∨
    (transferToTxKind transfer = .shieldingTransfer (some (.ofTransfer transfer)) ∧
      (∀ entry ∈ transfer.sources,maspOwned entry = false) ∧
      ∀ entry ∈ transfer.targets,maspOwned entry = true) ∨
    (transferToTxKind transfer = .transparentTransfer (some (.ofTransfer transfer)) ∧
      (∀ entry ∈ transfer.sources,maspOwned entry = false) ∧
      ∀ entry ∈ transfer.targets,maspOwned entry = false) ∨
    transferToTxKind transfer = .mixedTransfer (some (.ofTransfer transfer)) := by
  have hall : ∀ {side : List (Account × DenominatedAmount)}, side.all maspOwned = true →
      ∀ entry ∈ side,maspOwned entry = true := fun h => List.all_eq_true.mp h
  have hany : ∀ {side : List (Account × DenominatedAmount)}, side.any maspOwned = false →
      ∀ entry ∈ side,maspOwned entry = false := by
    intro side h entry hentry
    have hnone := List.any_eq_false.mp h entry hentry
    simpa using hnone
  unfold transferToTxKind
  simp only [maspOwners_eq]
  split
  · rename_i hempty
    obtain ⟨⟨-,hsources⟩,htargets⟩ : (_ ∧ transfer.sources = []) ∧ transfer.targets = [] := by
      simpa using hempty
    left
    rw [hsources,htargets]
    simp
  · split
    · rename_i hsources htargets _
      exact .inl ⟨rfl,hall hsources,hall htargets⟩
    · rename_i hsources htargets _ _
      exact .inr (.inl ⟨rfl,hall hsources,hany htargets⟩)
    · rename_i hsources htargets _ _
      exact .inr (.inr (.inl ⟨rfl,hany hsources,hall htargets⟩))
    · rename_i hsources htargets _
      exact .inr (.inr (.inr (.inl ⟨rfl,hany hsources,hany htargets⟩)))
    · exact .inr (.inr (.inr (.inr rfl)))

lemma map_maspEntry_ofAccounts (direction : MaspEntryDirection)
    (side : List (Account × DenominatedAmount)) :
    (AccountsMap.ofAccounts side).map (Block.maspEntry sdk block tx direction) =
      side.map (ownEntry sdk block tx direction) := by
  rw [AccountsMap.ofAccounts,List.map_map]
  rfl

lemma map_maspEntry_filter (hsdk : sdk.DecodesEncoded) (direction : MaspEntryDirection)
    (side : List (Account × DenominatedAmount)) :
    ((AccountsMap.ofAccounts side).filter fun entry =>
        entry.1.owner sdk == sdk.encode MASP_ADDRESS).map (Block.maspEntry sdk block tx direction) =
      (side.filter maspOwned).map (ownEntry sdk block tx direction) := by
  rw [AccountsMap.ofAccounts,List.filter_map,List.map_map,List.filter_congr (q := maspOwned)]
  · rfl
  · intro entry _
    have hiff : sdk.encode entry.1.owner = sdk.encode MASP_ADDRESS ↔ entry.1.owner = MASP_ADDRESS :=
      ⟨hsdk.encode_injective,congrArg sdk.encode⟩
    rw [Bool.eq_iff_iff]
    simpa [maspOwned,ChainAddress.owner] using hiff

/-- A transfer with an account outside the MASP has an entry for each account of the MASP. -/
lemma maspEntriesOf_transfer (hsdk : sdk.DecodesEncoded) {transfer : Transfer}
    (hkind : tx.kind = transferToTxKind transfer)
    (houtside : ∃ account ∈ transfer.sources ++ transfer.targets, account.1.owner ≠ MASP_ADDRESS) :
    Block.maspEntriesOf sdk block tx = maspOwnedEntries sdk block tx transfer := by
  have hall : ∀ {side : List (Account × DenominatedAmount)},
      (∀ entry ∈ side,maspOwned entry = true) → side.filter maspOwned = side :=
    fun h => List.filter_eq_self.mpr h
  have hnone : ∀ {side : List (Account × DenominatedAmount)},
      (∀ entry ∈ side,maspOwned entry = false) → side.filter maspOwned = [] := by
    intro side h
    exact List.filter_eq_nil_iff.mpr fun entry hentry => by simp [h entry hentry]
  unfold Block.maspEntriesOf maspOwnedEntries
  rw [hkind]
  obtain ⟨hclass,hsources,htargets⟩ | ⟨hclass,hsources,htargets⟩ | ⟨hclass,hsources,htargets⟩ |
    ⟨hclass,hsources,htargets⟩ | hclass := transferToTxKind_cases transfer
  · obtain ⟨account,haccount,hother⟩ := houtside
    have howned : maspOwned account = true := by
      rcases List.mem_append.mp haccount with h | h
      · exact hsources account h
      · exact htargets account h
    exact absurd (by simpa [maspOwned] using howned) hother
  · rw [hclass,hall hsources,hnone htargets,List.map_nil,List.append_nil]
    exact map_maspEntry_ofAccounts .out transfer.sources
  · rw [hclass,hnone hsources,hall htargets,List.map_nil,List.nil_append]
    exact map_maspEntry_ofAccounts .in transfer.targets
  · rw [hclass,hnone hsources,hnone htargets]
    rfl
  · rw [hclass,←map_maspEntry_filter hsdk,←map_maspEntry_filter hsdk]
    rfl

lemma entriesOf_of_successful {wrapperTx : WrapperTransaction}
    (h : tx.wasSuccessful wrapperTx = true) :
    block.entriesOf sdk tx wrapperTx = Block.maspEntriesOf sdk block tx := by
  have hlist : ({ block with transactions := [(wrapperTx,[tx])] } : Block).successfulInnerTxs =
      [tx] := by
    simp [Block.successfulInnerTxs,h]
  rw [Block.entriesOf,Block.maspEntries,hlist,List.flatMap_singleton]
  rfl

lemma entriesOf_of_failed {wrapperTx : WrapperTransaction}
    (h : tx.wasSuccessful wrapperTx = false) : block.entriesOf sdk tx wrapperTx = [] := by
  have hlist : ({ block with transactions := [(wrapperTx,[tx])] } : Block).successfulInnerTxs =
      [] := by
    simp [Block.successfulInnerTxs,h]
  rw [Block.entriesOf,Block.maspEntries,hlist,List.flatMap_nil]

/-- The entries of a block are those of its transactions. -/
lemma maspEntries_eq_flatMap : block.maspEntries sdk =
    block.transactions.flatMap fun (wrapperTx,innerTxs) =>
      innerTxs.flatMap fun tx => block.entriesOf sdk tx wrapperTx := by
  rw [Block.maspEntries,Block.successfulInnerTxs,List.flatMap_assoc]
  congr 1
  funext entry
  obtain ⟨wrapperTx,innerTxs⟩ := entry
  dsimp only
  induction innerTxs with
  | nil => rfl
  | cons tx innerTxs ih =>
    rw [List.filter_cons,List.flatMap_cons,←ih]
    cases hs : tx.wasSuccessful wrapperTx with
    | true => rw [if_pos rfl,List.flatMap_cons,entriesOf_of_successful hs]
    | false =>
      rw [entriesOf_of_failed hs,List.nil_append]
      simp

/-- Entries of one direction only have room next to entries of the other direction if none of
them is filtered out. -/
lemma subperm_append_filter_iff {α : Type*} {p : α → Bool} {legs : List α} {f : α → MaspEntry}
    {others all : List MaspEntry} {direction : MaspEntryDirection}
    (hlegs : ∀ leg ∈ legs, (f leg).direction = direction)
    (hothers : ∀ other ∈ others, other.direction ≠ direction)
    (hall : all.Perm (others ++ (legs.filter p).map f)) :
    (legs.map f).Subperm all ↔ ∀ leg ∈ legs, p leg = true := by
  rw [hall.subperm_left]
  constructor
  · intro hsub
    have hkeep : ∀ {kept : List α}, (∀ leg ∈ kept, leg ∈ legs) →
        ((kept.map f).filter fun entry => entry.direction == direction) = kept.map f := by
      intro kept hkept
      rw [List.filter_eq_self,List.forall_mem_map]
      intro leg hleg
      exact beq_iff_eq.mpr (hlegs leg (hkept leg hleg))
    have hdrop : (others.filter fun entry => entry.direction == direction) = [] := by
      rw [List.filter_eq_nil_iff]
      intro other hother
      simpa using hothers other hother
    have hlength := (hsub.filter fun entry => entry.direction == direction).length_le
    rw [List.filter_append,hdrop,List.nil_append,hkeep fun _ h => h,
      hkeep fun leg h => (List.mem_filter.mp h).1,List.length_map,List.length_map] at hlength
    exact List.length_filter_eq_length_iff.mp
      (Nat.le_antisymm (List.length_filter_le p legs) hlength)
  · intro h
    rw [List.filter_eq_self.mpr h]
    exact (List.sublist_append_right others (legs.map f)).subperm

/-- An IBC transaction has entries of MASP accounts only if all legs that stand for the MASP
belong to it. -/
lemma maspEntriesOf_subperm_iff {data : TransferData} (hkind : tx.kind.ibcMaspTransfer = some data) :
    (Block.maspEntriesOf sdk block tx).Subperm (ibcMaspOwnedEntries sdk block tx data) ↔
      ∀ leg ∈ tx.kind.maspLegs, leg.1.owner sdk = sdk.encode MASP_ADDRESS := by
  have howned : ∀ {legs : AccountsMap}, (∀ leg ∈ legs, ibcMaspOwned sdk leg = true) ↔
      ∀ leg ∈ legs, leg.1.owner sdk = sdk.encode MASP_ADDRESS := by
    intro legs
    simp [ibcMaspOwned]
  unfold Block.maspEntriesOf ibcMaspOwnedEntries TransactionKind.maspLegs
  generalize tx.kind = kind at hkind ⊢
  cases kind with
  | ibcShieldingTransfer token data' =>
    obtain rfl := Option.some.inj hkind
    have hout : ∀ other ∈ (data'.sources.filter (ibcMaspOwned sdk)).map
        (Block.maspEntry sdk block tx .out), other.direction ≠ .in := by
      rw [List.forall_mem_map]
      intro leg _ h
      contradiction
    rw [←howned]
    exact subperm_append_filter_iff (fun _ _ => rfl) hout (.refl _)
  | ibcUnshieldingTransfer token data' =>
    obtain rfl := Option.some.inj hkind
    have hin : ∀ other ∈ (data'.targets.filter (ibcMaspOwned sdk)).map
        (Block.maspEntry sdk block tx .in), other.direction ≠ .out := by
      rw [List.forall_mem_map]
      intro leg _ h
      contradiction
    rw [←howned]
    exact subperm_append_filter_iff (fun _ _ => rfl) hin List.perm_append_comm
  | _ => contradiction

end

/-- The MASP entries of a block are right if and only if no account outside the MASP stands on
the MASP's side of a successful IBC shielding or unshielding transfer. -/
theorem masp_entries_right_iff {sdk : Sdk} (hsdk : sdk.DecodesEncoded) (block : Block) :
    block.MaspEntriesRight sdk ↔ ∀ tx ∈ block.successfulInnerTxs, ∀ leg ∈ tx.kind.maspLegs,
      leg.1.owner sdk = sdk.encode MASP_ADDRESS := by
  constructor
  · intro h tx htx leg hleg
    obtain ⟨wrapperTx,innerTxs,hentry,hinner,hsuccess⟩ := block.mem_successfulInnerTxs.mp htx
    cases hkind : tx.kind.ibcMaspTransfer with
    | none =>
      have hnil : tx.kind.maspLegs = [] := by
        unfold TransactionKind.maspLegs
        generalize tx.kind = kind at hkind ⊢
        cases kind with
        | ibcShieldingTransfer token data | ibcUnshieldingTransfer token data => contradiction
        | _ => rfl
      rw [hnil] at hleg
      contradiction
    | some data =>
      have hsub := h.ibc _ hentry tx hinner hsuccess data hkind
      rw [entriesOf_of_successful hsuccess] at hsub
      exact (maspEntriesOf_subperm_iff hkind).mp hsub leg hleg
  · intro h
    constructor
    · exact maspEntries_eq_flatMap
    · intro entry _ tx _ hfailed
      exact entriesOf_of_failed hfailed
    · intro entry _ tx _ hsuccess transfer hkind houtside
      rw [entriesOf_of_successful hsuccess]
      exact maspEntriesOf_transfer hsdk hkind houtside
    · intro entry hentry tx htx hsuccess data hkind
      rw [entriesOf_of_successful hsuccess]
      apply (maspEntriesOf_subperm_iff hkind).mpr
      exact h tx (block.mem_successfulInnerTxs.mpr ⟨entry.1,entry.2,hentry,htx,hsuccess⟩)

/-- The entries of an unshielding transfer that pays its relayer out of the MASP are right. -/
theorem masp_entries_right_of_unshieldingMessage :
    ∃ token data, (transferToIbcTxKind Sdk.sample unshieldingMessage (.established "nam")).run =
        .returns (.ok (.ibcUnshieldingTransfer token data)) ∧
      (lonelyBlock { sentOsmo with kind := .ibcUnshieldingTransfer token data
        }).MaspEntriesRight Sdk.sample := by
  refine ⟨_,_,rfl,(masp_entries_right_iff sample_decodesEncoded _).mpr ?_⟩
  decide

/-- The message of an unshielding transfer whose relayer is paid by a transparent account. -/
def paidMessage : IbcMessage :=
  .transfer
    { portIdOnA := "transfer"
      chanIdOnA := "channel-0"
      packetData := ⟨⟨[],"tnam1qnam"⟩,100,"tnam1pmasp","osmo1bob",""⟩
      timeoutHeightOnB := "0-0"
      timeoutTimestampOnB := "0" }
    (some
      { sources := [(⟨MASP_ADDRESS,.established "nam"⟩,⟨100,6⟩),
          (⟨.implicit "payer",.established "nam"⟩,⟨5,6⟩)]
        targets := [(⟨IBC,.established "nam"⟩,⟨100,6⟩),
          (⟨.implicit "relayer",.established "nam"⟩,⟨5,6⟩)]
        shieldedSectionHash := some ⟨"masp"⟩ })

/-- The payer's leg counts as an outflow of the MASP. -/
theorem payer_leaves_masp_entry :
    ∃ token data, (transferToIbcTxKind Sdk.sample paidMessage (.established "nam")).run =
        .returns (.ok (.ibcUnshieldingTransfer token data)) ∧
      ¬ (lonelyBlock { sentOsmo with kind := .ibcUnshieldingTransfer token data
        }).MaspEntriesRight Sdk.sample := by
  refine ⟨_,_,rfl,?_⟩
  intro h
  have hsub := h.ibc _ (List.mem_singleton_self _) _ (List.mem_singleton_self _) (by decide) _ rfl
  exact absurd hsub.length_le (by decide)

end NamadaIndexer.Shared
