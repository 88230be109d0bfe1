import NamadaIndexer.Foundation.Iteration
import NamadaIndexer.Foundation.Json
import NamadaIndexer.Shared.Id

/-! The accounts of a transfer as JSON: every entry becomes a map of four texts, and is told by them
which kind of account it is. -/
namespace NamadaIndexer.Shared
open NamadaIndexer.Foundation

/-- How the SDK prints and parses amounts. -/
structure AmountText where
  /-- `raw_amount().to_string()` -/
  rawToString : Amount → String
  /-- `DenominatedAmount::from_str` -/
  fromStr : String → Option DenominatedAmount

/-- A printed amount is read back, whatever denomination it is read with. -/
def AmountText.ReadsBack (format : AmountText) (amount : Amount) : Prop :=
  ∃ read, format.fromStr (format.rawToString amount) = some read ∧ read.amount = amount

/-- A text of decimal digits. -/
def IsNumber (text : String) : Prop := text ≠ "" ∧ ∀ c ∈ text.toList, c.isDigit = true

/-- Amounts are printed in decimal, and a number is parsed unless it has more than 77 digits. -/
structure AmountText.Decimal (format : AmountText) : Prop where
  prints : ∀ amount : Amount, format.rawToString amount = toString amount.val
  parses : ∀ text, IsNumber text → text.length ≤ 77 →
    ∃ read, format.fromStr text = some read ∧
      read.amount.val = Nat.ofDigitChars 10 text.toList 0
  refuses : ∀ text, IsNumber text → 77 < text.length → format.fromStr text = none

theorem isNumber_toString (n : ℕ) : IsNumber (toString n) := by
  constructor
  · intro hempty
    have hlength : (toString n).length = 0 := by rw [hempty]; rfl
    exact absurd hlength Nat.length_repr_pos.ne'
  · intro c hc
    have hlist : (toString n).toList = Nat.toDigits 10 n := Nat.toList_repr
    rw [hlist] at hc
    exact Nat.isDigit_of_mem_toDigits (by decide) (by decide) hc

/-- The amounts of at most 77 digits are read back. -/
theorem AmountText.Decimal.readsBack_iff {format : AmountText} (h : format.Decimal)
    {amount : Amount} : format.ReadsBack amount ↔ amount.val < 10^77 := by
  have hnumber := isNumber_toString amount.val
  have hlength : (toString amount.val).length ≤ 77 ↔ amount.val < 10^77 :=
    Nat.length_repr_le_iff (by decide)
  rw [ReadsBack,h.prints,←hlength]
  constructor
  · rintro ⟨read,hread,-⟩
    by_contra hlong
    rw [h.refuses _ hnumber (by omega)] at hread
    contradiction
  · intro hshort
    obtain ⟨read,hread,hvalue⟩ := h.parses _ hnumber hshort
    have hlist : (toString amount.val).toList = Nat.toDigits 10 amount.val := Nat.toList_repr
    refine ⟨read,hread,Fin.ext ?_⟩
    rw [hvalue,hlist,Nat.ofDigitChars_ten_toDigits]

/-- The order in which the hash map of an entry is visited. -/
structure FieldOrder where
  visit : ChainAddress → List (String × String) → List (String × String)
  perm : ∀ key fields, (visit key fields).Perm fields

def FieldOrder.asWritten : FieldOrder := ⟨fun _ fields => fields,fun _ _ => .refl _⟩

namespace AccountsMap

section
variable (sdk : Sdk) (format : AmountText)

/-- What an entry is written as, kind by kind. -/
def fieldsOf (entry : ChainAddress × DenominatedAmount) : List (String × String) :=
  match entry.1 with
  | .chainAccount account =>
    [("owner",sdk.encode account.owner),
      ("token",sdk.encode account.token),
      ("type","onChain"),
      ("amount",format.rawToString entry.2.amount)]
  | .ibcPfmAccount account token =>
    [("owner",account),
      ("token",sdk.encode token),
      ("type","pfm"),
      ("amount",format.rawToString entry.2.amount)]
  | .externalAccount account token =>
    [("owner",account),
      ("token",sdk.encode token),
      ("type","external"),
      ("amount",format.rawToString entry.2.amount)]

/-- `Serialize for AccountsMap` -/
def serialize (order : FieldOrder) (map : AccountsMap) : Json :=
  .array (map.map fun entry => .ofTexts (order.visit entry.1 (fieldsOf sdk format entry)))

/-- What is read from the texts of an entry. Everything but the two other kinds is taken for an
external account. -/
def entryOf (val : List (String × String)) : Panicking (ChainAddress × DenominatedAmount) := do
  let kind ← .expect "Cannot find type" (textAt val "type")
  if kind = "pfm" then
    let owner ← .expect "Cannot find owner" (textAt val "owner")
    let token ← .expect "Cannot find token" (textAt val "token")
    let amount ← .expect "Cannot find amount" (textAt val "amount")
    let token ← .expect "Cannot parse Address for token" (sdk.decode token)
    let amount ← .expect "Cannot parse DenominatedAmount" (format.fromStr amount)
    return (.ibcPfmAccount owner token,amount)
  else if kind = "onChain" then
    let owner ← .expect "Cannot find owner" (textAt val "owner")
    let token ← .expect "Cannot find token" (textAt val "token")
    let amount ← .expect "Cannot find amount" (textAt val "amount")
    let owner ← .expect "Cannot parse Address for owner" (sdk.decode owner)
    let token ← .expect "Cannot parse Address for token" (sdk.decode token)
    let amount ← .expect "Cannot parse DenominatedAmount" (format.fromStr amount)
    return (.chainAccount ⟨owner,token⟩,amount)
  else
    let owner ← .expect "Cannot find owner" (textAt val "owner")
    let token ← .expect "Cannot find token" (textAt val "token")
    let amount ← .expect "Cannot find amount" (textAt val "amount")
    let token ← .expect "Cannot parse Address for token" (sdk.decode token)
    let amount ← .expect "Cannot parse DenominatedAmount" (format.fromStr amount)
    return (.externalAccount owner token,amount)

/-- The map that entries are collected into. -/
def collect (entries : List (ChainAddress × DenominatedAmount)) : AccountsMap :=
  entries.foldl (fun map entry => map.insert sdk entry.1 entry.2) []

/-- `<Vec<BTreeMap<String, String>>>::deserialize` -/
def textMaps (json : Json) : Option (List (List (String × String))) :=
  json.asArray.bind fun items => items.mapM Json.asTexts

/-- `Deserialize for AccountsMap`. Other JSON than maps of texts is an error. -/
def deserialize (json : Json) : Panicking (Option AccountsMap) :=
  match textMaps json with
  | none => .returns none
  | some vals => do
    let entries ← vals.mapM (entryOf sdk format)
    return some (collect sdk entries)

end

variable {sdk : Sdk} {format : AmountText}

/-- The four texts are found in whatever order they come. -/
theorem texts_of_perm {val : List (String × String)} {owner token kind amount : String}
    (h : val.Perm [("owner",owner),("token",token),("type",kind),("amount",amount)]) :
    textAt val "owner" = some owner ∧ textAt val "token" = some token ∧
      textAt val "type" = some kind ∧ textAt val "amount" = some amount := by
  have hnodup : ["owner","token","type","amount"].Nodup := by decide
  have hkeys : (val.map Prod.fst).Nodup := (h.map Prod.fst).nodup_iff.mpr hnodup
  have hat {key text : String}
      (hmem : (key,text) ∈ [("owner",owner),("token",token),("type",kind),("amount",amount)]) :
      textAt val key = some text := textAt_of_mem hkeys (h.mem_iff.mpr hmem)
  exact ⟨hat (by simp),hat (by simp),hat (by simp),hat (by simp)⟩

/-- An entry is read from its texts as the account that was written. -/
theorem entryOf_visited (hsdk : sdk.DecodesEncoded) (entry : ChainAddress × DenominatedAmount)
    {val : List (String × String)} (hval : val.Perm (fieldsOf sdk format entry)) :
    entryOf sdk format val = (fun amount => (entry.1,amount)) <$>
      Panicking.expect "Cannot parse DenominatedAmount"
        (format.fromStr (format.rawToString entry.2.amount)) := by
  obtain ⟨account,amount⟩ := entry
  cases account with
  | chainAccount account =>
    obtain ⟨howner,htoken,hkind,hamount⟩ := texts_of_perm hval
    simp [entryOf,howner,htoken,hkind,hamount,hsdk account.owner,hsdk account.token,
      map_eq_pure_bind]
  | ibcPfmAccount owner token =>
    obtain ⟨howner,htoken,hkind,hamount⟩ := texts_of_perm hval
    simp [entryOf,howner,htoken,hkind,hamount,hsdk token,map_eq_pure_bind]
  | externalAccount owner token =>
    obtain ⟨howner,htoken,hkind,hamount⟩ := texts_of_perm hval
    simp [entryOf,howner,htoken,hkind,hamount,hsdk token,map_eq_pure_bind]

@[simp] theorem textMaps_serialize (order : FieldOrder) (map : AccountsMap) :
    textMaps (serialize sdk format order map) =
      some (map.map fun entry => order.visit entry.1 (fieldsOf sdk format entry)) := by
  rw [textMaps,serialize,Json.asArray,Option.bind_some,List.mapM_map]
  exact mapM_eq_some_map fun entry _ => Json.asTexts_ofTexts _

theorem perm_insert {map : AccountsMap} {key : ChainAddress} (h : key ∉ map.map Prod.fst)
    (amount : DenominatedAmount) : (map.insert sdk key amount).Perm ((key,amount) :: map) := by
  have hne : ∀ entry ∈ map, (entry.1 != key) = true := by
    intro entry hentry
    rw [bne_iff_ne]
    rintro rfl
    exact h (List.mem_map_of_mem hentry)
  have hbelow : map.filter (fun entry => ChainAddress.lt sdk entry.1 key && entry.1 != key) =
      map.filter fun entry => ChainAddress.lt sdk entry.1 key :=
    List.filter_congr fun entry hentry => by rw [hne entry hentry,Bool.and_true]
  have habove : map.filter (fun entry => !ChainAddress.lt sdk entry.1 key && entry.1 != key) =
      map.filter fun entry => !ChainAddress.lt sdk entry.1 key :=
    List.filter_congr fun entry hentry => by rw [hne entry hentry,Bool.and_true]
  rw [insert,hbelow,habove]
  exact List.perm_middle.trans ((List.filter_append_perm _ map).cons _)

/-- Under distinct keys no entry takes the place of another. -/
theorem perm_foldl_insert {entries : List (ChainAddress × DenominatedAmount)} {map : AccountsMap}
    (h : ((map ++ entries).map Prod.fst).Nodup) :
    (entries.foldl (fun map entry => map.insert sdk entry.1 entry.2) map).Perm (map ++ entries) := by
  induction entries generalizing map with
  | nil => simp
  | cons entry entries ih =>
    have hmoved : (map ++ entry :: entries).Perm (entry :: map ++ entries) := List.perm_middle
    have hkeys := (hmoved.map Prod.fst).nodup_iff.mp h
    have hfresh : entry.1 ∉ map.map Prod.fst := by
      intro hmem
      rw [List.cons_append,List.map_cons,List.nodup_cons,List.map_append] at hkeys
      exact hkeys.1 (List.mem_append_left _ hmem)
    have hinsert : (map.insert sdk entry.1 entry.2 ++ entries).Perm _ :=
      (perm_insert hfresh entry.2).append_right entries
    have hnext := (hinsert.map Prod.fst).nodup_iff.mpr hkeys
    rw [List.foldl_cons]
    exact ((ih hnext).trans hinsert).trans hmoved.symm

theorem perm_collect {entries : List (ChainAddress × DenominatedAmount)}
    (h : (entries.map Prod.fst).Nodup) : (collect sdk entries).Perm entries :=
  perm_foldl_insert h

/-- What is read from a serialized map: its accounts, each with the amount that is parsed from its
text. -/
theorem deserialize_serialize (hsdk : sdk.DecodesEncoded) (order : FieldOrder) (map : AccountsMap) :
    deserialize sdk format (serialize sdk format order map) = (do
      let entries ← map.mapM fun entry => (fun amount => (entry.1,amount)) <$>
        Panicking.expect "Cannot parse DenominatedAmount"
          (format.fromStr (format.rawToString entry.2.amount))
      return some (collect sdk entries)) := by
  rw [deserialize,textMaps_serialize]
  dsimp only
  rw [List.mapM_map]
  congr 1
  exact Panicking.mapM_congr fun entry _ => entryOf_visited hsdk entry (order.perm _ _)

/-- What has to survive of an entry: the account with its kind, owner and token, and the raw
amount. -/
def rawEntry (entry : ChainAddress × DenominatedAmount) : ChainAddress × Amount :=
  (entry.1,entry.2.amount)

/-- The entries that are read are the accounts that were written, and their amounts are right where
they are read back. -/
theorem reread_entries {map : AccountsMap} {entries : List (ChainAddress × DenominatedAmount)}
    (h : (map.mapM fun entry => (fun amount => (entry.1,amount)) <$>
      Panicking.expect "Cannot parse DenominatedAmount"
        (format.fromStr (format.rawToString entry.2.amount))) = .returns entries) :
    ∃ reread : ChainAddress × DenominatedAmount → ChainAddress × DenominatedAmount,
      entries = map.map reread ∧ ∀ entry ∈ map, (reread entry).1 = entry.1 ∧
        ((reread entry).2.amount = entry.2.amount ↔ format.ReadsBack entry.2.amount) := by
  have : Inhabited (ChainAddress × DenominatedAmount) := ⟨(.externalAccount "" IBC,⟨0,0⟩)⟩
  obtain ⟨reread,hreread,rfl⟩ := Panicking.exists_map_of_mapM_returns h
  refine ⟨reread,rfl,fun entry hentry => ?_⟩
  obtain ⟨read,hread,heq⟩ := Panicking.map_eq_returns.mp (hreread entry hentry)
  rw [←heq,AmountText.ReadsBack,Panicking.expect_eq_returns.mp hread]
  simp

theorem map_fst_reread {map : AccountsMap}
    {reread : ChainAddress × DenominatedAmount → ChainAddress × DenominatedAmount}
    (h : ∀ entry ∈ map, (reread entry).1 = entry.1) :
    (map.map reread).map Prod.fst = map.map Prod.fst := by
  rw [List.map_map]
  exact List.map_congr_left fun entry hentry => h entry hentry

/-- The round trip keeps a map exactly if the amounts in it are read back. -/
theorem deserialize_keeps_iff (hsdk : sdk.DecodesEncoded) (order : FieldOrder) {map : AccountsMap}
    (hkeys : (map.map Prod.fst).Nodup) :
    (∃ result, deserialize sdk format (serialize sdk format order map) = .returns (some result) ∧
      (result.map rawEntry).Perm (map.map rawEntry)) ↔
      ∀ entry ∈ map, format.ReadsBack entry.2.amount := by
  rw [deserialize_serialize hsdk]
  constructor
  · rintro ⟨result,hresult,hperm⟩ entry hentry
    obtain ⟨entries,hentries,hcollect⟩ := Panicking.bind_eq_returns.mp hresult
    obtain ⟨reread,rfl,hreread⟩ := reread_entries hentries
    cases hcollect
    have hfst := map_fst_reread fun entry hentry => (hreread entry hentry).1
    have hcollected : ((collect sdk (map.map reread)).map rawEntry).Perm
        ((map.map reread).map rawEntry) := (perm_collect (hfst ▸ hkeys)).map rawEntry
    have hmem : rawEntry (reread entry) ∈ map.map rawEntry := by
      refine (hcollected.symm.trans hperm).mem_iff.mp ?_
      exact List.mem_map_of_mem (List.mem_map_of_mem hentry)
    obtain ⟨found,hfound,heq⟩ := List.mem_map.mp hmem
    obtain ⟨hkey,hamount⟩ := hreread entry hentry
    -- no other entry has the account, so the amount is the one of this entry
    have hsame : found = entry :=
      List.inj_on_of_nodup_map hkeys hfound hentry ((congrArg Prod.fst heq).trans hkey)
    rw [hsame] at heq
    exact hamount.mp (congrArg Prod.snd heq).symm
  · intro hread
    have hreturns : (map.mapM fun entry => (fun amount => (entry.1,amount)) <$>
        Panicking.expect "Cannot parse DenominatedAmount"
          (format.fromStr (format.rawToString entry.2.amount))).Returns := by
      refine Panicking.returns_mapM_iff.mpr fun entry hentry => ?_
      obtain ⟨read,hparsed,-⟩ := hread entry hentry
      rw [Panicking.returns_map_iff,Panicking.returns_expect_iff]
      exact ⟨read,hparsed⟩
    obtain ⟨entries,hentries⟩ := hreturns
    obtain ⟨reread,rfl,hreread⟩ := reread_entries hentries
    refine ⟨collect sdk (map.map reread),?_,?_⟩
    · rw [hentries]
      rfl
    · have hfst := map_fst_reread fun entry hentry => (hreread entry hentry).1
      have hsame : (map.map reread).map rawEntry = map.map rawEntry := by
        rw [List.map_map]
        refine List.map_congr_left fun entry hentry => ?_
        obtain ⟨hkey,hamount⟩ := hreread entry hentry
        exact Prod.ext hkey (hamount.mpr (hread entry hentry))
      rw [←hsame]
      exact (perm_collect (hfst ▸ hkeys)).map rawEntry

/-- A map of accounts survives the way into JSON and back, with every account under its kind, owner
and token, and its raw amount, exactly if its amounts have at most 77 digits. -/
theorem accounts_survive_iff (hsdk : sdk.DecodesEncoded) (hformat : format.Decimal)
    (order : FieldOrder) {map : AccountsMap} (hkeys : (map.map Prod.fst).Nodup) :
    (∃ result, deserialize sdk format (serialize sdk format order map) = .returns (some result) ∧
      (result.map rawEntry).Perm (map.map rawEntry)) ↔
      ∀ entry ∈ map, entry.2.amount.val < 10^77 := by
  rw [deserialize_keeps_iff hsdk order hkeys]
  exact forall₂_congr fun entry _ => hformat.readsBack_iff

end AccountsMap

/-- `DenominatedAmount::from_str`, of texts without a decimal point. -/
def AmountText.sample : AmountText where
  rawToString amount := toString amount.val
  fromStr text :=
    if text.toList.all Char.isDigit ∧ text.length ≤ 77 then
      some ⟨Fin.ofNat (2^256) (Nat.ofDigitChars 10 text.toList 0),0⟩
    else none

theorem sample_decimal : AmountText.sample.Decimal where
  prints _ := rfl
  parses text hnumber hshort := by
    have hparse : AmountText.sample.fromStr text =
        some ⟨Fin.ofNat (2^256) (Nat.ofDigitChars 10 text.toList 0),0⟩ := by
      unfold AmountText.sample
      dsimp only
      rw [if_pos ⟨List.all_eq_true.mpr hnumber.2,hshort⟩]
    have hlt := ofDigitChars_lt hnumber.2 0
    rw [zero_add,one_mul] at hlt
    have hle := Nat.pow_le_pow_right (n := 10) (by decide) hshort
    have hfits : 10^77 < 2^256 := by norm_num
    exact ⟨_,hparse,Nat.mod_eq_of_lt ((hlt.trans_le hle).trans hfits)⟩
  refuses text _ hlong := by
    unfold AmountText.sample
    dsimp only
    rw [if_neg fun h => absurd h.2 (Nat.not_le.mpr hlong)]

/-- Accounts that look alike as texts, one of each kind. -/
def lookalikes : AccountsMap :=
  [(.chainAccount ⟨.established "a",.established "t"⟩,⟨5,6⟩),
    (.ibcPfmAccount "tnam1qa" (.established "t"),⟨7,6⟩),
    (.externalAccount "tnam1qa" (.established "t"),⟨5,0⟩)]

theorem AccountsMap.accounts_survive_lookalikes :
    ∃ result, deserialize Sdk.sample .sample (serialize Sdk.sample .sample .asWritten lookalikes) =
        .returns (some result) ∧
      (result.map rawEntry).Perm (lookalikes.map rawEntry) :=
  (accounts_survive_iff sample_decodesEncoded sample_decimal .asWritten (by decide)).mpr
    (by decide +kernel)

/-- A raw amount of 78 digits is written and cannot be read. -/
theorem AccountsMap.long_amount_not_read :
    ¬ ∃ result, deserialize Sdk.sample .sample (serialize Sdk.sample .sample .asWritten
        [(.externalAccount "osmo1" (.established "t"),⟨Fin.ofNat (2^256) (10^77),6⟩)]) =
          .returns (some result) ∧
      (result.map rawEntry).Perm
        [rawEntry (.externalAccount "osmo1" (.established "t"),⟨Fin.ofNat (2^256) (10^77),6⟩)] := by
  intro h
  have hread := (deserialize_keeps_iff sample_decodesEncoded .asWritten (by decide)).mp h
  have hlt := sample_decimal.readsBack_iff.mp (hread _ List.mem_cons_self)
  revert hlt
  decide +kernel

end NamadaIndexer.Shared
