import NamadaIndexer.Chain.Crawling

/-! The lookup of a revealed key by its address. The crawler stores a key under its own text; the
web server looks for the address, and stores what it then asks the node for. -/
namespace NamadaIndexer.Webserver
open NamadaIndexer.Foundation NamadaIndexer.Shared NamadaIndexer.Chain

/-- `get_revealed_pk_by_address` of the repository: the first row of the address, for one order of
the stored rows. -/
def getRevealedPkByAddress (listed : List RevealedPkDb) (address : String) : Option RevealedPkDb :=
  listed.find? fun row => row.address = address

/-- `insert_revealed_pk` -/
def insertRevealedPk (table : Table RevealedPkDb.key) (row : RevealedPkDb) :
    Table RevealedPkDb.key :=
  table.insertOrIgnore [row]

inductive RevealedPkError
  | invalidAddress (address : String)
  | rpc
  deriving DecidableEq, Repr

/-- Where the service found what it answers. -/
inductive Found
  | stored (publicKey : String)
  | queried (publicKey : Option String)
  deriving DecidableEq, Repr

/-- What the service calls outside of the database. -/
structure RevealedPkService where
  /-- `is_valid_bech32_address` -/
  isValidBech32Address : String → String → Bool
  /-- `rpc::get_public_key_at`; a query that fails has no answer -/
  getPublicKeyAt : Address → Option (Option PublicKey)

/-- `RevealedPkService::get_revealed_pk_by_address`, with the table that it leaves. -/
def RevealedPkService.getRevealedPkByAddress (service : RevealedPkService) (sdk : Sdk)
    (table : Table RevealedPkDb.key) (listed : List RevealedPkDb) (address : String) :
    Except RevealedPkError (Found × Table RevealedPkDb.key) :=
  if !service.isValidBech32Address address "tnam" then .error (.invalidAddress address)
  else
    match Webserver.getRevealedPkByAddress listed address with
    | some row => .ok (.stored row.pk,table)
    | none =>
      match sdk.decode address with
      | none => .error (.invalidAddress address)
      | some owner =>
        match service.getPublicKeyAt owner with
        | none => .error .rpc
        | some none => .ok (.queried none,table)
        | some (some publicKey) =>
          .ok (.queried (some publicKey.text),
            insertRevealedPk table ⟨publicKey.text,sdk.encode owner⟩)

section
variable (sdk : Sdk) (service : RevealedPkService) (block : Block)

/-- The key is revealed by a successful transaction of the block. -/
def Reveals (publicKey : PublicKey) : Prop :=
  ∃ tx ∈ block.successfulInnerTxs, tx.kind = .revealPk (some publicKey)

/-- Every key that the block reveals is found in the table by its address, in whatever order the
rows are listed. -/
def KeysFound (table : Table RevealedPkDb.key) : Prop :=
  ∀ publicKey, Reveals block publicKey → ∀ listed : List RevealedPkDb, listed.Perm table.rows →
    service.getRevealedPkByAddress sdk table listed (sdk.encode (sdk.addressOf publicKey)) =
      .ok (.stored publicKey.text,table)

/-- The table has a row under the address of the key, and no row of another key. -/
structure StoredByAddress (table : Table RevealedPkDb.key) (publicKey : PublicKey) : Prop where
  found : ∃ row ∈ table.rows, row.address = sdk.encode (sdk.addressOf publicKey)
  only : ∀ row ∈ table.rows, row.address = sdk.encode (sdk.addressOf publicKey) →
    row.pk = publicKey.text

/-- The texts of the revealed keys are no texts of addresses. -/
def KeysAreNoAddresses : Prop :=
  ∀ publicKey, Reveals block publicKey → ∀ address,
    sdk.toLowercase publicKey.text ≠ sdk.encode address

end

section
variable {sdk : Sdk} {service : RevealedPkService} {block : Block}

lemma reveals_iff {publicKey : PublicKey} :
    Reveals block publicKey ↔ ∃ id, (publicKey,id) ∈ block.revealedPks := by
  unfold Reveals Block.revealedPks
  constructor
  · rintro ⟨tx,htx,hkind⟩
    exact ⟨.account publicKey.text,List.mem_filterMap.mpr ⟨tx,htx,by simp [Block.revealedPkOf,hkind]⟩⟩
  · rintro ⟨id,hmem⟩
    obtain ⟨tx,htx,hentry⟩ := List.mem_filterMap.mp hmem
    unfold Block.revealedPkOf at hentry
    split at hentry
    · rename_i key hkind
      cases hentry
      exact ⟨tx,htx,hkind⟩
    · contradiction

/-- Whatever row comes first, it is one of the key: exactly if there is a row and all of them
are. -/
lemma found_iff_storedByAddress {table : Table RevealedPkDb.key} {publicKey : PublicKey} :
    (∀ listed : List RevealedPkDb, listed.Perm table.rows →
      ∃ row, getRevealedPkByAddress listed (sdk.encode (sdk.addressOf publicKey)) = some row ∧
        row.pk = publicKey.text) ↔
      StoredByAddress sdk table publicKey := by
  constructor
  · intro h
    refine ⟨?_,fun row hrow haddress => ?_⟩
    · obtain ⟨row,hfound,-⟩ := h table.rows (.refl _)
      exact ⟨row,List.mem_of_find?_eq_some hfound,by simpa using List.find?_some hfound⟩
    · -- the row can be the first one
      obtain ⟨before,after,hsplit⟩ := List.append_of_mem hrow
      have hperm : (row :: (before ++ after)).Perm table.rows := by
        rw [hsplit]
        exact List.perm_middle.symm
      obtain ⟨first,hfirst,hpk⟩ := h _ hperm
      rw [getRevealedPkByAddress,List.find?_cons_of_pos (by simpa using haddress)] at hfirst
      rwa [Option.some.inj hfirst]
  · rintro ⟨⟨row,hrow,haddress⟩,honly⟩ listed hperm
    have hsome : (getRevealedPkByAddress listed (sdk.encode (sdk.addressOf publicKey))).isSome :=
      List.find?_isSome.mpr ⟨row,hperm.mem_iff.mpr hrow,decide_eq_true haddress⟩
    obtain ⟨first,hfirst⟩ := Option.isSome_iff_exists.mp hsome
    have hmem : first ∈ table.rows := hperm.mem_iff.mp (List.mem_of_find?_eq_some hfirst)
    exact ⟨first,hfirst,honly first hmem (by simpa using List.find?_some hfirst)⟩

/-- The service answers from the database exactly if the repository has a row. -/
lemma service_stored_iff {table : Table RevealedPkDb.key} {listed : List RevealedPkDb}
    {address text : String} (hvalid : service.isValidBech32Address address "tnam" = true) :
    service.getRevealedPkByAddress sdk table listed address = .ok (.stored text,table) ↔
      ∃ row, getRevealedPkByAddress listed address = some row ∧ row.pk = text := by
  unfold RevealedPkService.getRevealedPkByAddress
  rw [if_neg (by simp [hvalid])]
  cases getRevealedPkByAddress listed address with
  | some row => simp
  | none =>
    dsimp only
    split
    · simp
    · split <;> simp

/-- The rows that a block adds are under the texts of keys. -/
lemma mem_rows_of_address {ctx : Context} {table : Table RevealedPkDb.key}
    (hkeys : KeysAreNoAddresses ctx.sdk block) {row : RevealedPkDb} {address : Address}
    (haddress : row.address = ctx.sdk.encode address) :
    row ∈ (table.insertOrIgnore (block.revealedPks.map (RevealedPkDb.ofEntry ctx))).rows ↔
      row ∈ table.rows := by
  rw [Table.insertOrIgnore_rows,List.mem_append]
  refine ⟨fun h => h.elim id fun hnew => ?_,Or.inl⟩
  obtain ⟨⟨publicKey,id⟩,hentry,rfl⟩ := List.mem_map.mp (Table.mem_of_mem_fresh hnew)
  have hid : id = .account publicKey.text := by
    obtain ⟨tx,-,hrevealed⟩ := List.mem_filterMap.mp hentry
    unfold Block.revealedPkOf at hrevealed
    split at hrevealed
    · cases hrevealed
      rfl
    · contradiction
  subst hid
  exact (hkeys publicKey (reveals_iff.mpr ⟨_,hentry⟩) address haddress).elim

end

/-- After a block is committed, the keys that it reveals are found by their addresses exactly if
they were found before: the block itself stores no key under an address. -/
theorem revealed_keys_found_iff {ctx : Context} {client : Client} {checksums : Checksums}
    {blockHeight : BlockHeight} {shouldUpdateCrawlerState : Bool} {db db' : ChainDb}
    {current : Current} {service : RevealedPkService}
    (hvalid : ∀ address, service.isValidBech32Address (ctx.sdk.encode address) "tnam" = true)
    (hkeys : KeysAreNoAddresses ctx.sdk current.block)
    (hread : (readBlock ctx client checksums blockHeight).run = .returns (.ok current))
    (hrun : (crawlingFn ctx client checksums blockHeight shouldUpdateCrawlerState db).run =
      .returns (.ok db')) :
    KeysFound ctx.sdk service current.block db'.revealedPks ↔
      ∀ publicKey, Reveals current.block publicKey →
        StoredByAddress ctx.sdk db.revealedPks publicKey := by
  obtain ⟨gathered,rfl,-,hcommit⟩ := crawlingFn_eq_ok_of_read hread hrun
  have hrows := (committed_of_commit hcommit).revealedPks
  unfold KeysFound
  refine forall₂_congr fun publicKey _ => ?_
  have hmem : ∀ row : RevealedPkDb, row.address = ctx.sdk.encode (ctx.sdk.addressOf publicKey) →
      (row ∈ db'.revealedPks.rows ↔ row ∈ db.revealedPks.rows) := by
    intro row haddress
    rw [hrows]
    exact mem_rows_of_address hkeys haddress
  have hsame : StoredByAddress ctx.sdk db'.revealedPks publicKey ↔
      StoredByAddress ctx.sdk db.revealedPks publicKey := by
    constructor
    · rintro ⟨⟨row,hrow,haddress⟩,honly⟩
      exact ⟨⟨row,(hmem row haddress).mp hrow,haddress⟩,fun other hother hsame =>
        honly other ((hmem other hsame).mpr hother) hsame⟩
    · rintro ⟨⟨row,hrow,haddress⟩,honly⟩
      exact ⟨⟨row,(hmem row haddress).mpr hrow,haddress⟩,fun other hother hsame =>
        honly other ((hmem other hsame).mp hother) hsame⟩
  rw [←hsame,←found_iff_storedByAddress]
  exact forall₂_congr fun listed _ => service_stored_iff (hvalid _)

/-- Every block of the sampled node reveals one key. -/
def keyContext : Context :=
  { sampleContext bondTx with
    sdk := { (sampleContext bondTx).sdk with
      publicKeyTryFromSlice := fun _ => some ⟨"tpknam1key"⟩ } }

def keyChecksums : Checksums := ⟨[("tx_reveal_pk","a")],[]⟩

def keyClient : Client := ⟨sampleNode 8 5 fun _ => 1,fun _ => false⟩

/-- A text is taken for an address by its first letters. -/
def sampleService : RevealedPkService where
  isValidBech32Address text hrp := text.toList.take hrp.toList.length == hrp.toList
  getPublicKeyAt _ := some (some ⟨"tpknam1key"⟩)

lemma sampleService_valid (address : Address) :
    sampleService.isValidBech32Address (sampleEncode address) "tnam" = true := by
  rcases address with hash | hash | internal
  · simp [sampleService,sampleEncode]
  · simp [sampleService,sampleEncode]
  · cases internal <;> simp [sampleService,sampleEncode]

/-- The database after the lookup of the address, before the block is indexed. -/
def askedDb : ChainDb :=
  { sampleDb with
    revealedPks := insertRevealedPk sampleDb.revealedPks ⟨"tpknam1key","tnam1ztpknam1key"⟩ }

/-- The block, and what is known about its keys. -/
lemma reads_key : ∃ current, (readBlock keyContext keyClient keyChecksums 7).run =
      .returns (.ok current) ∧ Reveals current.block ⟨"tpknam1key"⟩ ∧
      ∀ publicKey, Reveals current.block publicKey → publicKey = ⟨"tpknam1key"⟩ := by
  refine ⟨_,rfl,⟨_,.head _,rfl⟩,?_⟩
  rintro publicKey ⟨tx,htx,hkind⟩
  obtain rfl := List.mem_singleton.mp htx
  cases hkind
  rfl

lemma tpknam_ne_sampleEncode (address : Address) : "tpknam1key" ≠ sampleEncode address := by
  intro h
  have htext := congrArg String.toList h
  rcases address with hash | hash | internal
  · simp [sampleEncode] at htext
  · simp [sampleEncode] at htext
  · cases internal <;> simp [sampleEncode] at htext

/-- A key that the web server stored when it was asked is found after its block, too. -/
theorem revealed_key_found_again :
    ∃ current db', (readBlock keyContext keyClient keyChecksums 7).run = .returns (.ok current) ∧
      (crawlingFn keyContext keyClient keyChecksums 7 true askedDb).run = .returns (.ok db') ∧
      KeysFound keyContext.sdk sampleService current.block db'.revealedPks := by
  have hrun : (resultOf (crawlingFn keyContext keyClient keyChecksums 7 true askedDb)).isSome := by
    decide +kernel
  obtain ⟨db',hresult⟩ := Option.isSome_iff_exists.mp hrun
  obtain ⟨current,hread,-,honly⟩ := reads_key
  have hdb := resultOf_eq_some.mp hresult
  refine ⟨current,db',hread,hdb,(revealed_keys_found_iff sampleService_valid ?_ hread hdb).mpr ?_⟩
  · intro publicKey hrevealed address
    rw [honly publicKey hrevealed]
    exact tpknam_ne_sampleEncode address
  · intro publicKey hrevealed
    rw [honly publicKey hrevealed]
    refine ⟨⟨_,List.mem_singleton_self _,by decide⟩,?_⟩
    intro row hrow _
    obtain rfl := List.mem_singleton.mp hrow
    rfl

/-- A key is stored under its own text, so the lookup by its address asks the node. -/
theorem revealed_key_not_found :
    ∃ current db', (readBlock keyContext keyClient keyChecksums 7).run = .returns (.ok current) ∧
      (crawlingFn keyContext keyClient keyChecksums 7 true sampleDb).run = .returns (.ok db') ∧
      db'.revealedPks.rows = [⟨"tpknam1key","tpknam1key"⟩] ∧
      ¬ KeysFound keyContext.sdk sampleService current.block db'.revealedPks := by
  have hrun : (resultOf (crawlingFn keyContext keyClient keyChecksums 7 true sampleDb)).map
      (fun db => db.revealedPks.rows) = some [⟨"tpknam1key","tpknam1key"⟩] := by
    decide +kernel
  obtain ⟨db',hresult,hrows⟩ := Option.map_eq_some_iff.mp hrun
  obtain ⟨current,hread,hreveals,-⟩ := reads_key
  refine ⟨current,db',hread,resultOf_eq_some.mp hresult,hrows,?_⟩
  intro hfound
  have hstored := hfound ⟨"tpknam1key"⟩ hreveals db'.revealedPks.rows (.refl _)
  have hvalid := sampleService_valid (keyContext.sdk.addressOf ⟨"tpknam1key"⟩)
  obtain ⟨row,hrow,-⟩ := (service_stored_iff hvalid).mp hstored
  have hmissing : getRevealedPkByAddress [⟨"tpknam1key","tpknam1key"⟩]
      (sampleEncode (keyContext.sdk.addressOf ⟨"tpknam1key"⟩)) = none := by
    decide +kernel
  rw [hrows,hmissing] at hrow
  cases hrow

end NamadaIndexer.Webserver
