import NamadaIndexer.Shared.BalanceChanges
import NamadaIndexer.Transactions.Tx

/-! To which transactions the sent packets of a block are attributed. -/
namespace NamadaIndexer.Transactions
open NamadaIndexer.Foundation NamadaIndexer.Shared

/-- An event together with the transaction that emitted it on the chain, which the event need not
tell. -/
structure Emission where
  event : Event
  emitter : Id
  deriving DecidableEq, Repr

section
variable (sdk : Sdk) (txs : List (WrapperTransaction × List InnerTransaction))

/-- The event of a sent packet that tells neither a transaction nor an internal sender. -/
def Emission.untold (emission : Emission) : Bool :=
  match emission.event.attributes with
  | some (.sendPacket packet) => emission.event.innerTxHash.isNone && !sentByInternal sdk packet
  | _ => false

/-- The transactions that emitted such events, in the order of the events. -/
def emitters (emissions : List Emission) : List Id :=
  (emissions.filter fun emission => emission.untold sdk).map Emission.emitter

/-- The sequence of one event: under the hash that it tells, if that is a successful transaction,
under the hash of its packet id, or under its emitter. -/
def Emission.attributed (emission : Emission) : Option IbcSequence :=
  match emission.event.attributes with
  | some (.sendPacket packet) =>
    match emission.event.innerTxHash with
    | some id => if isSuccessfulTx txs id then some (ibcSequenceOf packet id) else none
    | none =>
      if sentByInternal sdk packet then
        some (ibcSequenceOf packet (.hash (sdk.toLowercase (sdk.sha256 packet.id).text)))
      else some (ibcSequenceOf packet emission.emitter)
  | _ => none

/-- Every event that tells no transaction comes from a successful sending transaction of its own,
which emitted no event that tells one, and these follow each other as in the batches. -/
structure Emitted (emissions : List Emission) : Prop where
  inOrder : (emitters sdk emissions).Sublist (legacyTxIds txs)
  own : ∀ emission ∈ emissions, ∀ packet, emission.event.attributes = some (.sendPacket packet) →
    ∀ id ∈ emitters sdk emissions, emission.event.innerTxHash ≠ some id

/-- The sequences of the block are those of its events, in order, and none that had to be found is
that of a transaction which an event tells. -/
structure Attributed (emissions : List Emission) : Prop where
  sequences : getIbcPackets sdk ⟨emissions.map Emission.event⟩ txs =
    .returns (emissions.filterMap (Emission.attributed sdk txs))
  notTold : ∀ emission ∈ emissions, emission.untold sdk = true → ∀ sequence,
    emission.attributed sdk txs = some sequence →
    ∀ other ∈ emissions, ∀ packet, other.event.attributes = some (.sendPacket packet) →
    other.event.innerTxHash ≠ some sequence.txId

end

section
variable {sdk : Sdk} {txs : List (WrapperTransaction × List InnerTransaction)}

lemma attributed_of_untold {emission : Emission} (h : emission.untold sdk = true)
    {sequence : IbcSequence} (hsequence : emission.attributed sdk txs = some sequence) :
    sequence.txId = emission.emitter := by
  obtain ⟨⟨kind,innerTxHash,attributes⟩,emitter⟩ := emission
  unfold Emission.untold at h
  unfold Emission.attributed at hsequence
  split at h
  · rename_i packet hpacket
    obtain ⟨hnone,hexternal⟩ := Bool.and_eq_true_iff.mp h
    rw [Option.isNone_iff_eq_none] at hnone
    dsimp only at hpacket hnone
    subst hpacket hnone
    rw [Bool.not_eq_true'] at hexternal
    simp only [hexternal,Bool.false_eq_true,if_false,Option.some.injEq] at hsequence
    rw [←hsequence]
    rfl
  · contradiction

lemma map_cons_eq_returns {sequence sequence' : IbcSequence} {rest : Panicking (List IbcSequence)}
    {sequences : List IbcSequence} :
    (sequence :: ·) <$> rest = .returns (sequence' :: sequences) ↔
      sequence = sequence' ∧ rest = .returns sequences := by
  rw [Panicking.map_eq_returns]
  constructor
  · rintro ⟨tail,htail,heq⟩
    obtain ⟨rfl,rfl⟩ := List.cons.inj heq
    exact ⟨rfl,htail⟩
  · rintro ⟨rfl,hrest⟩
    exact ⟨sequences,hrest,rfl⟩

/-- The sequences are right exactly if the legacy ids start with the emitters. -/
lemma ibcPacketsFrom_eq_iff (emissions : List Emission) (legacy : List Id) :
    ibcPacketsFrom sdk txs legacy (emissions.map Emission.event) =
        .returns (emissions.filterMap (Emission.attributed sdk txs)) ↔
      emitters sdk emissions <+: legacy := by
  induction emissions generalizing legacy with
  | nil => simp [ibcPacketsFrom,emitters]
  | cons emission emissions ih =>
    have hemitters : emitters sdk (emission :: emissions) =
        if emission.untold sdk = true then emission.emitter :: emitters sdk emissions
        else emitters sdk emissions := by
      rw [emitters,List.filter_cons]
      split <;> rfl
    rw [List.map_cons,List.filterMap_cons,hemitters]
    cases hattributes : emission.event.attributes with
    | none => simp [ibcPacketsFrom,Emission.untold,Emission.attributed,hattributes,ih]
    | some attributes =>
      cases attributes with
      | sendPacket packet =>
        cases hhash : emission.event.innerTxHash with
        | some id =>
          cases hsuccess : isSuccessfulTx txs id with
          | true =>
            simp [ibcPacketsFrom,Emission.untold,Emission.attributed,hattributes,hhash,hsuccess,
              map_cons_eq_returns,ih]
          | false =>
            simp [ibcPacketsFrom,Emission.untold,Emission.attributed,hattributes,hhash,hsuccess,ih]
        | none =>
          cases hinternal : sentByInternal sdk packet with
          | true =>
            simp [ibcPacketsFrom,Emission.untold,Emission.attributed,hattributes,hhash,hinternal,
              map_cons_eq_returns,ih]
          | false =>
            cases legacy with
            | nil =>
              simp [ibcPacketsFrom,Emission.untold,Emission.attributed,hattributes,hhash,hinternal]
            | cons id legacy =>
              have hid : ibcSequenceOf packet id = ibcSequenceOf packet emission.emitter ↔
                  emission.emitter = id := by
                constructor
                · exact fun h => (congrArg IbcSequence.txId h).symm
                · rintro rfl
                  rfl
              simp [ibcPacketsFrom,Emission.untold,Emission.attributed,hattributes,hhash,hinternal,
                map_cons_eq_returns,ih,hid,List.cons_prefix_cons]
      | _ => simp [ibcPacketsFrom,Emission.untold,Emission.attributed,hattributes,ih]

end

/-- The sent packets of a block are attributed to the transactions that emitted them, if and only if
the emitters of the events that do not tell theirs come first among the successful sending
transactions. -/
theorem sent_packets_attributed_iff {sdk : Sdk}
    {txs : List (WrapperTransaction × List InnerTransaction)} {emissions : List Emission}
    (h : Emitted sdk txs emissions) :
    Attributed sdk txs emissions ↔ emitters sdk emissions <+: legacyTxIds txs := by
  constructor
  · exact fun hattributed => (ibcPacketsFrom_eq_iff emissions _).mp hattributed.sequences
  · intro hprefix
    refine ⟨(ibcPacketsFrom_eq_iff emissions _).mpr hprefix,?_⟩
    intro emission hemission huntold sequence hsequence other hother packet hpacket
    rw [attributed_of_untold huntold hsequence]
    refine h.own other hother packet hpacket _ (List.mem_map_of_mem ?_)
    exact List.mem_filter.mpr ⟨hemission,huntold⟩

/-- The event of a sent packet without a hash, as older versions of the node emit it. -/
def sendEvent (data : String) : Event where
  kind := .ibcCore .send
  innerTxHash := none
  attributes := some (.sendPacket ⟨"transfer","transfer","channel-0","channel-0",0,"","1",data⟩)

/-- The data of a packet that is paid out of the MASP. -/
def maspData : String :=
  "\x7b\"denom\":\"nam\",\"amount\":\"5\",\"sender\":\"tnam1pmasp\",\"receiver\":\"osmo1bob\"\x7d"

/-- The only packet data that is read is `maspData`. -/
def maspSdk : Sdk :=
  { Sdk.sample with
    ics20PacketData := fun data =>
      if data = maspData then some ⟨⟨[],"nam"⟩,5,"tnam1pmasp","osmo1bob",""⟩ else none }

/-- An unshielding transfer over IBC, and after it a transparent one. -/
def twoTransfers : List (WrapperTransaction × List InnerTransaction) :=
  [(lonelyWrapper,[{ sentOsmo with
      kind := .ibcUnshieldingTransfer (.native (.account "tnam1qnam")) ⟨[],[],none⟩ },
    { sentOsmo with txId := .hash "2" }])]

/-- The packet of the second transfer is attributed to the first one. -/
theorem transfer_after_unshielding_misattributed :
    Emitted maspSdk twoTransfers [⟨sendEvent maspData,.hash "1"⟩,⟨sendEvent "",.hash "2"⟩] ∧
      ¬ Attributed maspSdk twoTransfers
        [⟨sendEvent maspData,.hash "1"⟩,⟨sendEvent "",.hash "2"⟩] := by
  refine ⟨⟨by decide,?_⟩,fun h => absurd h.sequences (by decide)⟩
  intro emission hemission packet _ id _ htold
  have hnone : ∀ emission ∈ [(⟨sendEvent maspData,.hash "1"⟩ : Emission),
      ⟨sendEvent "",.hash "2"⟩], emission.event.innerTxHash = none := by decide
  rw [hnone emission hemission] at htold
  contradiction

/-- The packets of two transparent transfers are attributed in order. -/
theorem transparent_transfers_attributed :
    Attributed maspSdk [(lonelyWrapper,[sentOsmo,{ sentOsmo with txId := .hash "2" }])]
      [⟨sendEvent "",.hash "1"⟩,⟨sendEvent "",.hash "2"⟩] := by
  refine (sent_packets_attributed_iff ⟨by decide,?_⟩).mpr (by decide)
  intro emission hemission packet _ id _ htold
  have hnone : ∀ emission ∈ [(⟨sendEvent "",.hash "1"⟩ : Emission),⟨sendEvent "",.hash "2"⟩],
      emission.event.innerTxHash = none := by decide
  rw [hnone emission hemission] at htold
  contradiction

end NamadaIndexer.Transactions
