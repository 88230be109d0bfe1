import NamadaIndexer.Foundation.Numerals
import NamadaIndexer.Foundation.Panicking
import NamadaIndexer.Shared.Namada

/-! Identifiers, tokens and the accounts of a transfer, as the crawlers store and compare
them. -/
namespace NamadaIndexer.Shared
open NamadaIndexer.Foundation

/-- `Address::decode` undoes `Address::encode`. -/
def Sdk.DecodesEncoded (sdk : Sdk) : Prop := ∀ address, sdk.decode (sdk.encode address) = some address

lemma Sdk.DecodesEncoded.encode_injective {sdk : Sdk} (h : sdk.DecodesEncoded) {a b : Address}
    (hab : sdk.encode a = sdk.encode b) : a = b := by
  have ha := h a
  rw [hab,h b] at ha
  exact (Option.some.inj ha).symm

lemma sample_decodesEncoded : Sdk.sample.DecodesEncoded := by
  intro address
  rcases address with hash | hash | internal
  · simp [Sdk.sample,sampleEncode,sampleDecode]
  · simp [Sdk.sample,sampleEncode,sampleDecode]
  · cases internal <;> simp [Sdk.sample,sampleEncode,sampleDecode,MASP_ADDRESS,IBC]

inductive Id
  | account (text : String)
  | ibcTrace (text : String)
  | hash (text : String)
  deriving DecidableEq, Repr

namespace Id
variable (sdk : Sdk)

/-- `Display for Id` -/
def toString : Id → String
  | .account text => sdk.toLowercase text
  | .hash text => sdk.toLowercase text
  | .ibcTrace text => sdk.toLowercase text

/-- `From<NamadaHash> for Id` -/
def ofHash (hash : Hash) : Id := .hash (sdk.toLowercase hash.text)

/-- `From<NamadaAddress> for Id` -/
def ofAddress (address : Address) : Id := .account (sdk.toLowercase (sdk.encode address))

/-- `From<Id> for NamadaAddress` -/
def toAddress : Id → Panicking Address
  | .account text => .expect "called `Result::unwrap()` on an `Err` value" (sdk.decode text)
  | .hash _ => .panics "explicit panic"
  | .ibcTrace text =>
    .expect "called `Result::unwrap()` on an `Err` value" (sdk.convertToAddress text)

end Id

structure IbcToken where
  address : Id
  trace : Option Id
  deriving DecidableEq, Repr

inductive Token
  | ibc (token : IbcToken)
  | native (address : Id)
  deriving DecidableEq, Repr

namespace Token

/-- `Token::new` -/
def new (token : String) (ibcTrace : Option String) (nativeAddress : String) : Token :=
  if token != nativeAddress then
    .ibc { address := .account token, trace := ibcTrace.map Id.ibcTrace }
  else .native (.account token)

def address : Token → Id
  | .ibc token => token.address
  | .native token => token

@[simp] theorem address_new (token : String) (ibcTrace : Option String) (nativeAddress : String) :
    (new token ibcTrace nativeAddress).address = .account token := by
  unfold new
  split <;> rfl

end Token

/-- The owner of a transfer's leg, with the token of the leg. -/
inductive ChainAddress
  | chainAccount (account : Account)
  | ibcPfmAccount (owner : String) (token : Address)
  | externalAccount (owner : String) (token : Address)
  deriving DecidableEq, Repr

namespace ChainAddress
variable (sdk : Sdk)

def owner : ChainAddress → String
  | .chainAccount account => sdk.encode account.owner
  | .ibcPfmAccount owner _ => owner
  | .externalAccount owner _ => owner

def tokenAddress : ChainAddress → Address
  | .chainAccount account => account.token
  | .ibcPfmAccount _ token => token
  | .externalAccount _ token => token

/-- `ChainAddress::token` -/
def token (account : ChainAddress) : String := sdk.encode account.tokenAddress

/-- The derived order: by variant, then by owner, then by token. -/
def lt : ChainAddress → ChainAddress → Bool
  | .chainAccount a,.chainAccount b =>
    sdk.addressLt a.owner b.owner || a.owner == b.owner && sdk.addressLt a.token b.token
  | .chainAccount _,_ => true
  | .ibcPfmAccount _ _,.chainAccount _ => false
  | .ibcPfmAccount o t,.ibcPfmAccount o' t' => decide (o < o') || o == o' && sdk.addressLt t t'
  | .ibcPfmAccount _ _,.externalAccount _ _ => true
  | .externalAccount o t,.externalAccount o' t' =>
    decide (o < o') || o == o' && sdk.addressLt t t'
  | .externalAccount _ _,_ => false

end ChainAddress

/-- `AccountsMap`, by its entries in the order of their keys. -/
abbrev AccountsMap := List (ChainAddress × DenominatedAmount)

/-- `BTreeMap::insert` -/
def AccountsMap.insert (sdk : Sdk) (map : AccountsMap) (key : ChainAddress)
    (amount : DenominatedAmount) : AccountsMap :=
  map.filter (fun entry => ChainAddress.lt sdk entry.1 key && entry.1 != key) ++
    (key,amount) :: map.filter (fun entry => !ChainAddress.lt sdk entry.1 key && entry.1 != key)

structure TransferData where
  sources : AccountsMap
  targets : AccountsMap
  shieldedSectionHash : Option Hash
  deriving DecidableEq, Repr

def AccountsMap.ofAccounts (accounts : List (Account × DenominatedAmount)) : AccountsMap :=
  accounts.map fun (account,amount) => (ChainAddress.chainAccount account,amount)

/-- `From<NamadaTransfer> for TransferData` -/
def TransferData.ofTransfer (transfer : Transfer) : TransferData where
  sources := AccountsMap.ofAccounts transfer.sources
  targets := AccountsMap.ofAccounts transfer.targets
  shieldedSectionHash := transfer.shieldedSectionHash

/-- All legs of a transfer, its sources first. -/
def TransferData.accounts (data : TransferData) : List ChainAddress :=
  [data.sources,data.targets].flatMap fun side => side.map Prod.fst

/-- Every amount fits its column. -/
def numericOfAmount (amount : Amount) : Numeric where
  value := amount.val
  fits := by
    have hbound := amount.isLt
    rw [abs_of_nonneg (Int.natCast_nonneg _)]
    omega

end NamadaIndexer.Shared
