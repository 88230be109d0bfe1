import Mathlib.Algebra.BigOperators.Group.List.Basic
import NamadaIndexer.Shared.IbcTokens

/-! The legs of an IBC transfer that carries a transfer of its own. The packet's sender is put
beside the sources of that transfer, or over one of them. -/
namespace NamadaIndexer.Shared
open NamadaIndexer.Foundation

section
variable {M : Type*} [AddCancelCommMonoid M] (value : DenominatedAmount → M)

/-- What the legs of a token are worth together. -/
def AccountsMap.total (token : Address) (map : AccountsMap) : M :=
  (map.map fun leg => if leg.1.tokenAddress = token then value leg.2 else 0).sum

/-- The token of a sent packet. -/
def SentToken (sdk : Sdk) (nativeToken : Address) (packetData : FtPacketData) (token : Address) :
    Prop :=
  if mentionsNative sdk nativeToken packetData.denom then token = nativeToken
  else sdk.convertToAddress packetData.denom.toString = some token

def SentAmount (sdk : Sdk) (packetData : FtPacketData) (amount : DenominatedAmount) : Prop :=
  (sdk.amountTryFrom packetData.amount).map (⟨·,0⟩) = some amount

/-- The account that the sender of a packet is, in the packet's token. -/
def IsSender (sdk : Sdk) (nativeToken : Address) (packetData : FtPacketData) (account : Account) :
    Prop :=
  sdk.isPfmMemo packetData.memo = false ∧ startsWithTnam1 packetData.sender = true ∧
    sdk.decode packetData.sender = some account.owner ∧
    SentToken sdk nativeToken packetData account.token

instance (sdk : Sdk) (nativeToken : Address) (packetData : FtPacketData) (token : Address) :
    Decidable (SentToken sdk nativeToken packetData token) :=
  inferInstanceAs (Decidable (ite _ _ _))

instance (sdk : Sdk) (nativeToken : Address) (packetData : FtPacketData) (account : Account) :
    Decidable (IsSender sdk nativeToken packetData account) :=
  inferInstanceAs (Decidable (_ ∧ _ ∧ _ ∧ _))

/-- The recorded transfer of a packet keeps the amounts of the transfer that it carries. -/
structure KeepsAmounts (sdk : Sdk) (nativeToken : Address) (packetData : FtPacketData)
    (transfer : Transfer) (data : TransferData) : Prop where
  sources : ∀ leg ∈ transfer.sources, leg.1.owner ≠ IBC →
    (ChainAddress.chainAccount leg.1,leg.2) ∈ data.sources
  targets : ∀ leg ∈ transfer.targets, leg.1.owner ≠ IBC →
    (ChainAddress.chainAccount leg.1,leg.2) ∈ data.targets
  without_ibc : ∀ leg ∈ data.sources ++ data.targets, ∀ token,
    leg.1 ≠ .chainAccount ⟨IBC,token⟩
  receiver : ∃ token amount, SentToken sdk nativeToken packetData token ∧
    SentAmount sdk packetData amount ∧
    (ChainAddress.externalAccount packetData.receiver token,amount) ∈ data.targets
  balanced : ∀ token,
    (AccountsMap.ofAccounts transfer.sources).total value token =
      (AccountsMap.ofAccounts transfer.targets).total value token →
    data.sources.total value token = data.targets.total value token

/-- The sender of the packet has no source of another amount and is not the IBC address, and
what it has as a source and what the IBC address has as a source is what the IBC address has
as a target, in every token that balances. -/
structure SenderFits (sdk : Sdk) (nativeToken : Address) (packetData : FtPacketData)
    (transfer : Transfer) : Prop where
  amount : ∀ leg ∈ transfer.sources, leg.1.owner ≠ IBC →
    IsSender sdk nativeToken packetData leg.1 → SentAmount sdk packetData leg.2
  not_ibc : ∀ account, IsSender sdk nativeToken packetData account → account.owner ≠ IBC
  replaced : ∀ token,
    (AccountsMap.ofAccounts transfer.sources).total value token =
      (AccountsMap.ofAccounts transfer.targets).total value token →
    (AccountsMap.ofAccounts (transfer.sources.filter fun leg => leg.1.owner = IBC)).total
        value token +
      (AccountsMap.ofAccounts (transfer.sources.filter fun leg =>
        leg.1.owner ≠ IBC ∧ IsSender sdk nativeToken packetData leg.1)).total value token =
    (AccountsMap.ofAccounts (transfer.targets.filter fun leg => leg.1.owner = IBC)).total
      value token

end

section
variable {M : Type*} [AddCancelCommMonoid M] {value : DenominatedAmount → M}

/-- A selection and the rest of a list add up to the list. -/
lemma sum_filter_add_sum_filter_not {α : Type*} (p : α → Bool) (f : α → M) (l : List α) :
    ((l.filter p).map f).sum + ((l.filter fun a => !p a).map f).sum = (l.map f).sum := by
  rw [←List.sum_append,←List.map_append]
  exact ((List.filter_append_perm p l).map f).sum_eq

namespace AccountsMap
variable {sdk : Sdk}

theorem total_ofAccounts (token : Address) (side : List (Account × DenominatedAmount)) :
    total value token (ofAccounts side) =
      (side.map fun leg => if leg.1.token = token then value leg.2 else 0).sum := by
  rw [total,ofAccounts,List.map_map]
  rfl

variable (value) in
/-- A selection of the legs of a transfer and the rest of them. -/
theorem total_ofAccounts_filter (token : Address)
    (p : Account × DenominatedAmount → Bool) (side : List (Account × DenominatedAmount)) :
    total value token (ofAccounts (side.filter p)) +
        total value token (ofAccounts (side.filter fun leg => !p leg)) =
      total value token (ofAccounts side) := by
  rw [total_ofAccounts,total_ofAccounts,total_ofAccounts]
  exact sum_filter_add_sum_filter_not p _ side

theorem mem_insert {map : AccountsMap} {key : ChainAddress} {amount : DenominatedAmount}
    {leg : ChainAddress × DenominatedAmount} :
    leg ∈ map.insert sdk key amount ↔ leg = (key,amount) ∨ leg ∈ map ∧ leg.1 ≠ key := by
  unfold insert
  rw [List.mem_append,List.mem_cons,List.mem_filter,List.mem_filter]
  cases ChainAddress.lt sdk leg.1 key <;> simp [or_comm]

/-- An inserted leg takes the place of the legs of its account. -/
theorem total_insert (token : Address) (map : AccountsMap) (key : ChainAddress)
    (amount : DenominatedAmount) :
    total value token (map.insert sdk key amount) =
      (if key.tokenAddress = token then value amount else 0) +
        total value token (map.filter fun leg => leg.1 != key) := by
  have hsplit := sum_filter_add_sum_filter_not (fun leg => ChainAddress.lt sdk leg.1 key)
    (fun leg => if leg.1.tokenAddress = token then value leg.2 else 0)
    (map.filter fun leg => leg.1 != key)
  rw [List.filter_filter,List.filter_filter] at hsplit
  rw [total,insert,List.map_append,List.sum_append,List.map_cons,List.sum_cons,add_left_comm,
    hsplit]
  rfl

end AccountsMap
end

section
variable {sdk : Sdk} {nativeToken : Address} {packetData : FtPacketData}

lemma SentToken.eq {token token' : Address} (h : SentToken sdk nativeToken packetData token)
    (h' : SentToken sdk nativeToken packetData token') : token = token' := by
  unfold SentToken at h h'
  split at h
  · rename_i hmentions
    rw [if_pos hmentions] at h'
    exact h.trans h'.symm
  · rename_i hmentions
    rw [if_neg hmentions,h] at h'
    exact Option.some.inj h'

lemma SentAmount.eq {amount amount' : DenominatedAmount} (h : SentAmount sdk packetData amount)
    (h' : SentAmount sdk packetData amount') : amount = amount' :=
  Option.some.inj (h.symm.trans h')

/-- What a sent packet adds to the transfer that it carries. -/
structure SentLeg (sdk : Sdk) (nativeToken : Address) (packetData : FtPacketData)
    (token : Address) (amount : DenominatedAmount) (sender : ChainAddress) : Prop where
  token_sent : SentToken sdk nativeToken packetData token
  amount_sent : SentAmount sdk packetData amount
  sender_token : sender.tokenAddress = token
  sender_iff : ∀ account, sender = .chainAccount account ↔
    IsSender sdk nativeToken packetData account

/-- The leg that stands for the sender, by its account. -/
lemma sentLeg_of_convertAccount {token : Address} {amount : DenominatedAmount}
    {sender : ChainAddress} (htoken : SentToken sdk nativeToken packetData token)
    (hamount : SentAmount sdk packetData amount)
    (h : convertAccount sdk packetData token true = .ok sender) :
    SentLeg sdk nativeToken packetData token amount sender := by
  unfold convertAccount at h
  simp only [if_true] at h
  split at h
  · rename_i hpfm
    obtain rfl := Except.ok.inj h
    refine ⟨htoken,hamount,rfl,fun account => ?_⟩
    simp [IsSender,hpfm]
  · rename_i hpfm
    split at h
    · rename_i hforeign
      obtain rfl := Except.ok.inj h
      refine ⟨htoken,hamount,rfl,fun account => ?_⟩
      have hnot : startsWithTnam1 packetData.sender = false := by simpa using hforeign
      simp [IsSender,hnot]
    · rename_i hlocal
      cases howner : sdk.decode packetData.sender with
      | none => rw [howner] at h; cases h
      | some owner =>
        rw [howner] at h
        obtain rfl := Except.ok.inj h
        refine ⟨htoken,hamount,rfl,fun account => ?_⟩
        constructor
        · rintro ⟨⟩
          exact ⟨by simpa using hpfm,by simpa using hlocal,howner,htoken⟩
        · rintro ⟨-,-,howner',htoken'⟩
          rw [howner] at howner'
          rw [Option.some.inj howner',htoken.eq htoken']

/-- The transfer that is recorded for a packet. -/
lemma sentTransfer_eq_ok {message : IbcMsgTransfer} {transfer : Transfer}
    {found : TransferData × Token}
    (h : (sentTransfer sdk nativeToken message (some transfer)).run = .returns (.ok found)) :
    ∃ token amount sender, SentLeg sdk nativeToken message.packetData token amount sender ∧
      found.1.sources = (withoutIbc transfer.sources).insert sdk sender amount ∧
      found.1.targets = (withoutIbc transfer.targets).insert sdk
        (.externalAccount message.packetData.receiver token) amount := by
  unfold sentTransfer at h
  obtain ⟨⟨token,tokenId,amount⟩,hread,h⟩ := Panicking.run_bind_eq_ok.mp h
  obtain ⟨sender,hsender,h⟩ := Panicking.run_bind_eq_ok.mp h
  obtain rfl := Panicking.run_pure_eq_ok.mp h
  obtain ⟨hfound,converted,hconverted,rfl⟩ := getTokenAndAmount_eq_ok.mp hread
  obtain ⟨address,haddress,heq⟩ := getIbcToken_some_eq_ok.mp hfound
  have htoken : SentToken sdk nativeToken message.packetData token := by
    unfold SentToken
    split at heq
    · rename_i hmentions
      rw [if_pos hmentions]
      exact (Prod.mk.inj heq).1.symm
    · rename_i hmentions
      rw [if_neg hmentions,←(Prod.mk.inj heq).1]
      exact haddress
  have hamount : SentAmount sdk message.packetData ⟨converted,0⟩ := by
    rw [SentAmount,hconverted]
    rfl
  have hconverts := Panicking.expectOk_eq_returns.mp (Panicking.run_lift_eq_ok.mp hsender)
  exact ⟨token,_,sender,sentLeg_of_convertAccount htoken hamount hconverts,rfl,rfl⟩

lemma withoutIbc_eq (side : List (Account × DenominatedAmount)) :
    withoutIbc side = AccountsMap.ofAccounts (side.filter fun leg => leg.1.owner ≠ IBC) := by
  induction side with
  | nil => rfl
  | cons leg side ih =>
    have hcons : withoutIbc (leg::side) =
        (if leg.1.owner ≠ IBC then [(.chainAccount leg.1,leg.2)] else []) ++ withoutIbc side := by
      by_cases howner : leg.1.owner = IBC <;> simp [withoutIbc,howner]
    rw [hcons,ih,List.filter_cons]
    by_cases howner : leg.1.owner = IBC <;> simp [howner,AccountsMap.ofAccounts]

lemma mem_withoutIbc {side : List (Account × DenominatedAmount)}
    {leg : ChainAddress × DenominatedAmount} :
    leg ∈ withoutIbc side ↔ ∃ account, leg.1 = .chainAccount account ∧ account.owner ≠ IBC ∧
      (account,leg.2) ∈ side := by
  rw [withoutIbc_eq,AccountsMap.ofAccounts,List.mem_map]
  constructor
  · rintro ⟨⟨account,amount⟩,hmem,rfl⟩
    obtain ⟨hside,howner⟩ := List.mem_filter.mp hmem
    exact ⟨account,rfl,by simpa using howner,hside⟩
  · rintro ⟨account,hleg,howner,hside⟩
    refine ⟨(account,leg.2),List.mem_filter.mpr ⟨hside,by simpa using howner⟩,?_⟩
    exact Prod.ext hleg.symm rfl

/-- The sources that the sender's leg does not take the place of. -/
lemma withoutIbc_filter_ne {token : Address} {amount : DenominatedAmount} {sender : ChainAddress}
    (hleg : SentLeg sdk nativeToken packetData token amount sender)
    (side : List (Account × DenominatedAmount)) :
    (withoutIbc side).filter (fun leg => leg.1 != sender) =
      AccountsMap.ofAccounts ((side.filter fun leg => leg.1.owner ≠ IBC).filter
        fun leg => !decide (IsSender sdk nativeToken packetData leg.1)) := by
  rw [withoutIbc_eq,AccountsMap.ofAccounts,AccountsMap.ofAccounts,List.filter_map]
  congr 1
  apply List.filter_congr
  intro leg _
  have hiff := hleg.sender_iff leg.1
  by_cases hsender : IsSender sdk nativeToken packetData leg.1
  · simp [hsender,hiff.mpr hsender]
  · have hne : ChainAddress.chainAccount leg.1 ≠ sender := fun h => hsender (hiff.mp h.symm)
    simp [hsender,hne]

lemma withoutIbc_filter_external (side : List (Account × DenominatedAmount)) (receiver : String)
    (token : Address) :
    (withoutIbc side).filter (fun leg => leg.1 != .externalAccount receiver token) =
      withoutIbc side := by
  apply List.filter_eq_self.mpr
  intro leg hleg
  obtain ⟨account,haccount,-⟩ := mem_withoutIbc.mp hleg
  simp [haccount]

section
variable {M : Type*} [AddCancelCommMonoid M] {value : DenominatedAmount → M}

/-- In a token that balances, the recorded legs balance if the legs that are put in are worth
what the legs that are left out were worth. -/
lemma balanced_iff {transfer : Transfer} {data : TransferData} {token : Address}
    {amount : DenominatedAmount} {sender : ChainAddress}
    (hleg : SentLeg sdk nativeToken packetData token amount sender)
    (hsources : data.sources = (withoutIbc transfer.sources).insert sdk sender amount)
    (htargets : data.targets = (withoutIbc transfer.targets).insert sdk
      (.externalAccount packetData.receiver token) amount) {other : Address}
    (hbalanced : (AccountsMap.ofAccounts transfer.sources).total value other =
      (AccountsMap.ofAccounts transfer.targets).total value other) :
    data.sources.total value other = data.targets.total value other ↔
      (AccountsMap.ofAccounts (transfer.sources.filter fun leg => leg.1.owner = IBC)).total
          value other +
        (AccountsMap.ofAccounts (transfer.sources.filter fun leg =>
          leg.1.owner ≠ IBC ∧ IsSender sdk nativeToken packetData leg.1)).total value other =
      (AccountsMap.ofAccounts (transfer.targets.filter fun leg => leg.1.owner = IBC)).total
        value other := by
  have hibc : ∀ side : List (Account × DenominatedAmount),
      AccountsMap.total value other (.ofAccounts (side.filter fun leg => leg.1.owner = IBC)) +
        AccountsMap.total value other (withoutIbc side) =
      AccountsMap.total value other (.ofAccounts side) := by
    intro side
    rw [withoutIbc_eq,←AccountsMap.total_ofAccounts_filter value other
      (fun leg => decide (leg.1.owner = IBC)) side]
    simp only [ne_eq,decide_not]
  have hsender := AccountsMap.total_ofAccounts_filter value other
    (fun leg => decide (IsSender sdk nativeToken packetData leg.1))
    (transfer.sources.filter fun leg => leg.1.owner ≠ IBC)
  rw [←withoutIbc_filter_ne hleg,←withoutIbc_eq,List.filter_filter] at hsender
  have hchosen : (transfer.sources.filter fun leg =>
      decide (IsSender sdk nativeToken packetData leg.1) && decide (leg.1.owner ≠ IBC)) =
      transfer.sources.filter fun leg =>
        leg.1.owner ≠ IBC ∧ IsSender sdk nativeToken packetData leg.1 := by
    apply List.filter_congr
    intro leg _
    rw [Bool.decide_and,Bool.and_comm]
  rw [hchosen] at hsender
  have hkept : data.sources.total value other = (if token = other then value amount else 0) +
      AccountsMap.total value other
        ((withoutIbc transfer.sources).filter fun leg => leg.1 != sender) := by
    rw [hsources,AccountsMap.total_insert,hleg.sender_token]
  have hreceived : data.targets.total value other = (if token = other then value amount else 0) +
      AccountsMap.total value other (withoutIbc transfer.targets) := by
    rw [htargets,AccountsMap.total_insert,withoutIbc_filter_external]
    rfl
  rw [hkept,hreceived,add_right_inj]
  rw [←hibc transfer.sources,←hibc transfer.targets,←hsender,←add_assoc] at hbalanced
  constructor
  · intro h
    rw [h] at hbalanced
    exact add_right_cancel hbalanced
  · intro h
    rw [h] at hbalanced
    exact add_left_cancel hbalanced

end

/-- A source stays unless the sender's leg takes its place with another amount. -/
lemma mem_sources_iff {token : Address} {amount : DenominatedAmount} {sender : ChainAddress}
    (hleg : SentLeg sdk nativeToken packetData token amount sender)
    {side : List (Account × DenominatedAmount)} {leg : Account × DenominatedAmount}
    (hmem : leg ∈ side) (howner : leg.1.owner ≠ IBC) :
    (ChainAddress.chainAccount leg.1,leg.2) ∈ (withoutIbc side).insert sdk sender amount ↔
      (IsSender sdk nativeToken packetData leg.1 → SentAmount sdk packetData leg.2) := by
  rw [AccountsMap.mem_insert]
  constructor
  · rintro (heq | ⟨-,hne⟩) hsender
    · rw [(Prod.mk.inj heq).2]
      exact hleg.amount_sent
    · exact absurd ((hleg.sender_iff _).mpr hsender).symm hne
  · intro hamount
    by_cases hsender : IsSender sdk nativeToken packetData leg.1
    · have hsame := (hamount hsender).eq hleg.amount_sent
      exact .inl (by rw [(hleg.sender_iff _).mpr hsender,hsame])
    · refine .inr ⟨mem_withoutIbc.mpr ⟨leg.1,rfl,howner,hmem⟩,fun heq => hsender ?_⟩
      exact (hleg.sender_iff _).mp heq.symm

/-- The only leg of the IBC address that can be recorded is that of the sender. -/
lemma without_ibc_iff {transfer : Transfer} {data : TransferData} {token : Address}
    {amount : DenominatedAmount} {sender : ChainAddress}
    (hleg : SentLeg sdk nativeToken packetData token amount sender)
    (hsources : data.sources = (withoutIbc transfer.sources).insert sdk sender amount)
    (htargets : data.targets = (withoutIbc transfer.targets).insert sdk
      (.externalAccount packetData.receiver token) amount) :
    (∀ leg ∈ data.sources ++ data.targets, ∀ token, leg.1 ≠ .chainAccount ⟨IBC,token⟩) ↔
      ∀ account, IsSender sdk nativeToken packetData account → account.owner ≠ IBC := by
  have hkept : ∀ {side : List (Account × DenominatedAmount)}, ∀ leg ∈ withoutIbc side, ∀ token,
      leg.1 ≠ .chainAccount ⟨IBC,token⟩ := by
    intro side leg hmem token heq
    obtain ⟨account,haccount,howner,-⟩ := mem_withoutIbc.mp hmem
    rw [heq] at haccount
    exact howner (congrArg Account.owner (ChainAddress.chainAccount.inj haccount).symm)
  constructor
  · intro hnone account hsender howner
    have hmem : (sender,amount) ∈ data.sources ++ data.targets := by
      rw [List.mem_append,hsources]
      exact .inl (AccountsMap.mem_insert.mpr (.inl rfl))
    apply hnone _ hmem account.token
    rw [(hleg.sender_iff account).mpr hsender,←howner]
  · intro hsender leg hmem token heq
    rw [List.mem_append,hsources,htargets,AccountsMap.mem_insert,AccountsMap.mem_insert] at hmem
    obtain (rfl | ⟨hmem,-⟩) | (rfl | ⟨hmem,-⟩) := hmem
    · exact hsender _ ((hleg.sender_iff _).mp heq) rfl
    · exact hkept leg hmem token heq
    · contradiction
    · exact hkept leg hmem token heq

section
variable {M : Type*} [AddCancelCommMonoid M] {value : DenominatedAmount → M}

/-- The recorded transfer keeps the amounts exactly if the sender's leg fits the transfer. -/
theorem sent_amounts_kept_iff {message : IbcMsgTransfer} {transfer : Transfer} {token : Token}
    {data : TransferData}
    (h : (transferToIbcTxKind sdk (.transfer message (some transfer)) nativeToken).run =
      .returns (.ok (.ibcUnshieldingTransfer token data))) :
    KeepsAmounts value sdk nativeToken message.packetData transfer data ↔
      SenderFits value sdk nativeToken message.packetData transfer := by
  simp only [transferToIbcTxKind] at h
  obtain ⟨⟨transferData,tokenId⟩,hsent,h⟩ := Panicking.run_bind_eq_ok.mp h
  obtain ⟨rfl,rfl⟩ : tokenId = token ∧ transferData = data := by
    simpa using Panicking.run_pure_eq_ok.mp h
  obtain ⟨address,amount,sender,hleg,hsources,htargets⟩ := sentTransfer_eq_ok hsent
  dsimp only at hsources htargets
  have hnotIbc := without_ibc_iff hleg hsources htargets
  constructor
  · intro hkeeps
    refine ⟨?_,hnotIbc.mp hkeeps.without_ibc,?_⟩
    · intro leg hmem howner
      exact (mem_sources_iff hleg hmem howner).mp (hsources ▸ hkeeps.sources leg hmem howner)
    · intro other hbalanced
      exact (balanced_iff hleg hsources htargets hbalanced).mp (hkeeps.balanced other hbalanced)
  · intro hfits
    refine ⟨?_,?_,hnotIbc.mpr hfits.not_ibc,⟨address,amount,hleg.token_sent,hleg.amount_sent,?_⟩,?_⟩
    · intro leg hmem howner
      rw [hsources]
      exact (mem_sources_iff hleg hmem howner).mpr (hfits.amount leg hmem howner)
    · intro leg hmem howner
      rw [htargets,AccountsMap.mem_insert]
      refine .inr ⟨mem_withoutIbc.mpr ⟨leg.1,rfl,howner,hmem⟩,?_⟩
      simp
    · rw [htargets]
      exact AccountsMap.mem_insert.mpr (.inl rfl)
    · intro other hbalanced
      exact (balanced_iff hleg hsources htargets hbalanced).mpr (hfits.replaced other hbalanced)

end

end

/-- A shielded holder sends 100 units over channel 0. -/
def sampleSent : IbcMsgTransfer where
  portIdOnA := "transfer"
  chanIdOnA := "channel-0"
  packetData :=
    { denom := ⟨[⟨"transfer","channel-0"⟩],"uatom"⟩
      amount := 100
      sender := "tnam1pmasp"
      receiver := "cosmos1bob"
      memo := "" }
  timeoutHeightOnB := ""
  timeoutTimestampOnB := ""

def sampleToken : Address := .internal (.ibcToken "transfer/channel-0/uatom")

/-- The holder's part of the packet. -/
def sampleUnshielding : Transfer where
  sources := [(⟨MASP_ADDRESS,sampleToken⟩,⟨100,0⟩)]
  targets := [(⟨IBC,sampleToken⟩,⟨100,0⟩)]
  shieldedSectionHash := some ⟨"masp"⟩

/-- The same with a fee of 10 for the relayer. -/
def sampleWithFee : Transfer where
  sources := [(⟨MASP_ADDRESS,sampleToken⟩,⟨110,0⟩)]
  targets := [(⟨IBC,sampleToken⟩,⟨100,0⟩),(⟨.established "relayer",sampleToken⟩,⟨10,0⟩)]
  shieldedSectionHash := some ⟨"masp"⟩

def rawAmount (amount : DenominatedAmount) : ℕ := amount.amount.val

theorem unshielded_amounts_kept :
    KeepsAmounts rawAmount Sdk.sample (.established "nam") sampleSent.packetData sampleUnshielding
      { sources := [(.chainAccount ⟨MASP_ADDRESS,sampleToken⟩,⟨100,0⟩)]
        targets := [(.externalAccount "cosmos1bob" sampleToken,⟨100,0⟩)]
        shieldedSectionHash := some ⟨"masp"⟩ } := by
  have h : (transferToIbcTxKind Sdk.sample (.transfer sampleSent (some sampleUnshielding))
      (.established "nam")).run = .returns (.ok (.ibcUnshieldingTransfer
        (.ibc ⟨.account "tnam1pttransfer/channel-0/uatom",
          some (.ibcTrace "transfer/channel-0/uatom")⟩)
        { sources := [(.chainAccount ⟨MASP_ADDRESS,sampleToken⟩,⟨100,0⟩)]
          targets := [(.externalAccount "cosmos1bob" sampleToken,⟨100,0⟩)]
          shieldedSectionHash := some ⟨"masp"⟩ })) := by decide +kernel
  refine (sent_amounts_kept_iff h).mpr ⟨?_,?_,?_⟩
  · intro leg hleg _ _
    obtain rfl := List.mem_singleton.mp hleg
    rfl
  · rintro account ⟨-,-,howner,-⟩ hibc
    have hmasp : MASP_ADDRESS = account.owner := by
      have hdecode : Sdk.sample.decode sampleSent.packetData.sender = some MASP_ADDRESS := by
        decide
      exact Option.some.inj (hdecode.symm.trans howner)
    rw [hibc] at hmasp
    contradiction
  · intro token _
    have hsource : (sampleUnshielding.sources.filter fun leg => leg.1.owner = IBC) = [] := by decide
    have hsender : (sampleUnshielding.sources.filter fun leg => leg.1.owner ≠ IBC ∧
        IsSender Sdk.sample (.established "nam") sampleSent.packetData leg.1) =
        [(⟨MASP_ADDRESS,sampleToken⟩,⟨100,0⟩)] := by decide +kernel
    have htarget : (sampleUnshielding.targets.filter fun leg => leg.1.owner = IBC) =
        [(⟨IBC,sampleToken⟩,⟨100,0⟩)] := by decide
    rw [hsource,hsender,htarget]
    exact zero_add _

/-- The sender's leg takes the place of the source that paid the fee as well. -/
theorem fee_source_overwritten :
    (transferToIbcTxKind Sdk.sample (.transfer sampleSent (some sampleWithFee))
      (.established "nam")).run = .returns (.ok (.ibcUnshieldingTransfer
        (.ibc ⟨.account "tnam1pttransfer/channel-0/uatom",
          some (.ibcTrace "transfer/channel-0/uatom")⟩)
        { sources := [(.chainAccount ⟨MASP_ADDRESS,sampleToken⟩,⟨100,0⟩)]
          targets := [(.chainAccount ⟨.established "relayer",sampleToken⟩,⟨10,0⟩),
            (.externalAccount "cosmos1bob" sampleToken,⟨100,0⟩)]
          shieldedSectionHash := some ⟨"masp"⟩ })) ∧
    ¬ KeepsAmounts rawAmount Sdk.sample (.established "nam") sampleSent.packetData sampleWithFee
      { sources := [(.chainAccount ⟨MASP_ADDRESS,sampleToken⟩,⟨100,0⟩)]
        targets := [(.chainAccount ⟨.established "relayer",sampleToken⟩,⟨10,0⟩),
          (.externalAccount "cosmos1bob" sampleToken,⟨100,0⟩)]
        shieldedSectionHash := some ⟨"masp"⟩ } := by
  refine ⟨by decide +kernel,?_⟩
  intro hkeeps
  have hsums := hkeeps.balanced sampleToken (by decide +kernel)
  revert hsums
  decide +kernel

end NamadaIndexer.Shared
