import NamadaIndexer.Foundation.Grouping
import NamadaIndexer.Chain.Crawling
import NamadaIndexer.Shared.BalanceChanges

/-! The bonds table against the node: the pairs that a block touches are cleared, and inserted
again as the node answers for them. -/
namespace NamadaIndexer.Chain
open NamadaIndexer.Foundation NamadaIndexer.Shared NamadaIndexer.Governance

/-- The pairs that a bond, an unbond or a redelegation is about. -/
def TouchedBy (tx : InnerTransaction) (source validator : Address) : Prop :=
  match tx.kind with
  | .bond (some data) | .unbond (some data) =>
    source = data.source.getD data.validator ∧ validator = data.validator
  | .redelegation (some data) =>
    source = data.owner ∧ (validator = data.srcValidator ∨ validator = data.destValidator)
  | _ => False

/-- A successful transaction of the block is about the pair. -/
def Touches (block : Block) (source validator : Address) : Prop :=
  ∃ tx ∈ block.successfulInnerTxs, TouchedBy tx source validator

/-- The bonds that the node has for a pair. -/
def Node.bondsOf (node : Node) (source validator : Address) : List BondDetails :=
  (node.bondsAndUnbonds (some source) (some validator)).flatMap BondsAndUnbonds.bonds

/-- Asked for a pair, the node answers about that pair. -/
def Node.AnswersPairs (node : Node) : Prop :=
  ∀ source validator, ∀ entry ∈ node.bondsAndUnbonds (some source) (some validator),
    entry.source = source ∧ entry.validator = validator

/-- The bonds of a pair that start at an epoch have this amount together. -/
def Node.BondAt (node : Node) (source validator : Address) (start : ℤ) (amount : ℕ) : Prop :=
  Grouped (fun bond : BondDetails => (bond.start.toNat : ℤ)) (fun bond => bond.amount.val)
    (node.bondsOf source validator) start amount

def ChainDb.HasBond (db : ChainDb) (address validator : String) (start : ℤ) (amount : ℕ) : Prop :=
  ∃ row ∈ db.bonds.rows, row.address = address ∧ row.validator = validator ∧
    row.start.toInt = start ∧ row.rawAmount.val = amount

/-- The rows of a pair are the bonds of the node, grouped by their start. -/
def BondsFollow (ctx : Context) (node : Node) (db : ChainDb) (source validator : Address) : Prop :=
  ∀ start amount, db.HasBond (ctx.sdk.encode source) (ctx.sdk.encode validator) start amount ↔
    node.BondAt source validator start amount

/-- The query for the bonds of a pair does not fail. -/
def Answered (client : Client) (source validator : Address) : Prop :=
  client.fails (.bondsAndUnbonds (some source) (some validator)) = false

lemma val_checkedAdd {a b c : Amount} (h : Amount.checkedAdd a b = some c) :
    c.val = a.val + b.val := by
  unfold Amount.checkedAdd at h
  split at h
  · cases h
    rfl
  · contradiction

section
variable {ctx : Context} {client : Client} {source validator : Address}

lemma mem_bondAddressesOf {sdk : Sdk} {tx : InnerTransaction} {pair : BondAddresses} :
    pair ∈ Block.bondAddressesOf sdk tx ↔ ∃ source validator, TouchedBy tx source validator ∧
      pair = ⟨.ofAddress sdk source,.ofAddress sdk validator⟩ := by
  unfold Block.bondAddressesOf TouchedBy
  generalize tx.kind = kind
  cases kind with
  | bond data | unbond data =>
    cases data with
    | none => simp
    | some data => simp
  | redelegation data =>
    cases data with
    | none => simp
    | some data =>
      constructor
      · intro h
        rcases List.mem_cons.mp h with rfl | h
        · exact ⟨_,_,⟨rfl,.inl rfl⟩,rfl⟩
        · obtain rfl := List.mem_singleton.mp h
          exact ⟨_,_,⟨rfl,.inr rfl⟩,rfl⟩
      · rintro ⟨source,validator,⟨rfl,rfl | rfl⟩,rfl⟩
        · exact List.mem_cons_self
        · exact List.mem_cons_of_mem _ (List.mem_singleton_self _)
  | _ => simp

lemma mem_touched {sdk : Sdk} {block : Block} {pair : BondAddresses} :
    pair ∈ block.successfulInnerTxs.flatMap (Block.bondAddressesOf sdk) ↔
      ∃ source validator, Touches block source validator ∧
        pair = ⟨.ofAddress sdk source,.ofAddress sdk validator⟩ := by
  rw [List.mem_flatMap]
  simp only [mem_bondAddressesOf]
  constructor
  · rintro ⟨tx,htx,source,validator,htouched,rfl⟩
    exact ⟨source,validator,⟨tx,htx,htouched⟩,rfl⟩
  · rintro ⟨source,validator,⟨tx,htx,htouched⟩,rfl⟩
    exact ⟨tx,htx,source,validator,htouched,rfl⟩

lemma bondEntries_eq (hpairs : client.node.AnswersPairs) :
    bondEntries (client.node.bondsAndUnbonds (some source) (some validator)) =
      (client.node.bondsOf source validator).map fun bond =>
        ⟨source,validator,bond.start,bond.amount⟩ := by
  rw [bondEntries,Node.bondsOf,List.map_flatMap]
  apply List.flatMap_congr
  intro entry hentry
  obtain ⟨hsource,hvalidator⟩ := hpairs source validator entry hentry
  rw [hsource,hvalidator]

/-- The table that the answer for a pair is grouped into. -/
def GroupedInto (client : Client) (source validator : Address) (table : Table BondEntry.key) :
    Prop :=
  groupEntries (bondEntries (client.node.bondsAndUnbonds (some source) (some validator))) =
    .returns table

/-- The entries of that table are the bonds of the pair. -/
lemma mem_groupedInto (hpairs : client.node.AnswersPairs) {table : Table BondEntry.key}
    (h : GroupedInto client source validator table) :
    (∀ entry ∈ table.rows, entry.source = source ∧ entry.validator = validator ∧
      ∃ bond ∈ client.node.bondsOf source validator, bond.start = entry.epoch) ∧
    ∀ start amount, (∃ entry ∈ table.rows, (entry.epoch.toNat : ℤ) = start ∧
      entry.amount.val = amount) ↔ client.node.BondAt source validator start amount := by
  have hput := Panicking.expect_eq_returns.mp h
  rw [bondEntries_eq hpairs] at hput
  have hentries : ∀ entry ∈ table.rows, entry.source = source ∧ entry.validator = validator ∧
      ∃ bond ∈ client.node.bondsOf source validator, bond.start = entry.epoch := by
    intro entry hentry
    have hkey := (Table.mem_keys_foldlM_put hput).mp (Table.key_mem_keys hentry)
    rw [Table.empty_keys,List.map_map,List.mem_map] at hkey
    rcases hkey with hkey | ⟨bond,hbond,hsame⟩
    · contradiction
    · simp only [Function.comp_apply,BondEntry.key,Prod.mk.injEq] at hsame
      exact ⟨hsame.1.symm,hsame.2.1.symm,bond,hbond,hsame.2.2⟩
  refine ⟨hentries,fun start amount => ?_⟩
  have hgrouped : ∀ epoch : UInt64, (∃ entry ∈ table.rows,
      entry.key = (source,validator,epoch) ∧ entry.amount.val = amount) ↔
      client.node.BondAt source validator epoch.toNat amount := by
    intro epoch
    rw [@Table.grouped_iff_of_foldlM_put _ _ _ _ _ _ addAmount table (fun entry => entry.amount.val)
      ?_ _ hput]
    · rw [Grouped.map_entries,Node.BondAt]
      apply Grouped.congr_key
      intro bond hbond
      simp [BondEntry.key,UInt64.toNat_inj]
    · intro old new row hsame hrun
      obtain ⟨sum,hsum,rfl⟩ := Option.map_eq_some_iff.mp hrun
      exact val_checkedAdd hsum
  constructor
  · rintro ⟨entry,hentry,rfl,hamount⟩
    obtain ⟨hsource,hvalidator,-⟩ := hentries entry hentry
    refine (hgrouped entry.epoch).mp ⟨entry,hentry,?_,hamount⟩
    rw [BondEntry.key,hsource,hvalidator]
  · intro hbond
    obtain ⟨bond,hmem,rfl⟩ := hbond.occurs
    obtain ⟨entry,hentry,hkey,hamount⟩ := (hgrouped bond.start).mpr hbond
    simp only [BondEntry.key,Prod.mk.injEq] at hkey
    exact ⟨entry,hentry,by rw [hkey.2.2],hamount⟩

/-- What is asked and grouped for a pair of addresses. -/
lemma queryAllBondsAndUnbonds_pair (hsdk : ctx.sdk.Lawful) (hdecodes : ctx.sdk.DecodesEncoded)
    {answer : Option (List Pos.Bond × List Pos.Unbond)}
    (h : queryAllBondsAndUnbonds ctx client (some (.ofAddress ctx.sdk source))
      (some (.ofAddress ctx.sdk validator)) = .returns answer) :
    (¬ Answered client source validator → answer = none) ∧
    (Answered client source validator → ∃ table unbonds,
      GroupedInto client source validator table ∧
      answer = some ((ctx.order.visit table.rows).map (bondOf ctx),unbonds)) := by
  have hsource : (some (Id.ofAddress ctx.sdk source)).mapM (Id.toAddress ctx.sdk) =
      Panicking.returns (some source) := by
    rw [Option.mapM_some,Id.toAddress_ofAddress hsdk hdecodes]
    rfl
  have hvalidator : (some (Id.ofAddress ctx.sdk validator)).mapM (Id.toAddress ctx.sdk) =
      Panicking.returns (some validator) := by
    rw [Option.mapM_some,Id.toAddress_ofAddress hsdk hdecodes]
    rfl
  rw [queryAllBondsAndUnbonds,hsource,hvalidator,Panicking.returns_bind,
    Panicking.returns_bind] at h
  unfold Answered
  unfold Client.ask at h
  cases hfails : client.fails (.bondsAndUnbonds (some source) (some validator)) with
  | true =>
    rw [hfails,if_pos rfl] at h
    exact ⟨fun _ => (Panicking.returns.inj h).symm,fun hanswered => by contradiction⟩
  | false =>
    rw [hfails,if_neg (by decide)] at h
    obtain ⟨bonds,hbonds,hrest⟩ := Panicking.bind_eq_returns.mp h
    obtain ⟨unbonds,hunbonds,hanswer⟩ := Panicking.bind_eq_returns.mp hrest
    refine ⟨fun hnot => (hnot rfl).elim,fun _ => ?_⟩
    exact ⟨bonds,_,hbonds,(Panicking.returns.inj hanswer).symm⟩

/-- What one pair contributes to the bonds of a block. -/
structure PairBonds (ctx : Context) (client : Client) (source validator : Address)
    (entries : List (Id × Id × Option Pos.Bond)) : Prop where
  unanswered : ¬ Answered client source validator → entries = []
  labels : ∀ entry ∈ entries, entry.1 = .ofAddress ctx.sdk source ∧
    entry.2.1 = .ofAddress ctx.sdk validator
  cleared : Answered client source validator → entries ≠ []
  updates : Answered client source validator → ∃ table, GroupedInto client source validator table ∧
    entries.filterMap (fun entry => entry.2.2) = (ctx.order.visit table.rows).map (bondOf ctx)

lemma pairBonds_of_queryBondsOf (hsdk : ctx.sdk.Lawful) (hdecodes : ctx.sdk.DecodesEncoded)
    {entries : List (Id × Id × Option Pos.Bond)}
    (h : queryBondsOf ctx client ⟨.ofAddress ctx.sdk source,.ofAddress ctx.sdk validator⟩ =
      .returns entries) : PairBonds ctx client source validator entries := by
  rw [queryBondsOf] at h
  obtain ⟨answer,hanswer,hentries⟩ := Panicking.bind_eq_returns.mp h
  obtain ⟨hnone,hsome⟩ := queryAllBondsAndUnbonds_pair hsdk hdecodes hanswer
  by_cases hanswered : Answered client source validator
  · obtain ⟨table,unbonds,htable,rfl⟩ := hsome hanswered
    generalize hbonds : (ctx.order.visit table.rows).map (bondOf ctx) = bonds at hentries
    have hlist := (Panicking.returns.inj hentries).symm
    dsimp only at hlist
    split at hlist
    · rename_i hsome
      subst hlist
      refine ⟨fun hnot => (hnot hanswered).elim,?_,fun _ => by simpa using hsome,fun _ => ?_⟩
      · intro entry hentry
        obtain ⟨bond,-,rfl⟩ := List.mem_map.mp hentry
        exact ⟨rfl,rfl⟩
      · refine ⟨table,htable,?_⟩
        rw [hbonds,List.filterMap_map]
        exact List.filterMap_some
    · rename_i hempty
      subst hlist
      have hnil : bonds = [] := by simpa using hempty
      refine ⟨fun hnot => (hnot hanswered).elim,?_,fun _ => by simp,fun _ => ?_⟩
      · intro entry hentry
        obtain rfl := List.mem_singleton.mp hentry
        exact ⟨rfl,rfl⟩
      · refine ⟨table,htable,?_⟩
        rw [hbonds,hnil]
        rfl
  · obtain rfl := hnone hanswered
    obtain rfl := Panicking.returns.inj hentries
    exact ⟨fun _ => rfl,by simp,fun h => (hanswered h).elim,fun h => (hanswered h).elim⟩

/-- The bonds gathered for a block are the contributions of the pairs it touches. -/
lemma exists_pairBonds (hsdk : ctx.sdk.Lawful) (hdecodes : ctx.sdk.DecodesEncoded) {db : ChainDb}
    {gathered : Gathered} (h : Gathers ctx client db gathered) :
    ∃ entriesOf : BondAddresses → List (Id × Id × Option Pos.Bond),
      gathered.bonds = (ctx.order.visit (gathered.current.block.successfulInnerTxs.flatMap
        (Block.bondAddressesOf ctx.sdk))).flatMap entriesOf ∧
      ∀ source validator, Touches gathered.current.block source validator →
        PairBonds ctx client source validator
          (entriesOf ⟨.ofAddress ctx.sdk source,.ofAddress ctx.sdk validator⟩) := by
  obtain ⟨lists,hlists,hbonds⟩ := Panicking.map_eq_returns.mp h.bonds
  obtain ⟨entriesOf,hof,rfl⟩ := Panicking.exists_map_of_mapM_returns hlists
  refine ⟨entriesOf,hbonds.symm,?_⟩
  intro source validator htouched
  apply pairBonds_of_queryBondsOf hsdk hdecodes
  apply hof
  rw [ctx.order.mem_visit,mem_touched]
  exact ⟨source,validator,htouched,rfl⟩

lemma mem_gatheredBonds {gathered : Gathered}
    {entriesOf : BondAddresses → List (Id × Id × Option Pos.Bond)}
    (h : gathered.bonds = (ctx.order.visit (gathered.current.block.successfulInnerTxs.flatMap
      (Block.bondAddressesOf ctx.sdk))).flatMap entriesOf) {entry : Id × Id × Option Pos.Bond} :
    entry ∈ gathered.bonds ↔ ∃ source validator,
      Touches gathered.current.block source validator ∧
        entry ∈ entriesOf ⟨.ofAddress ctx.sdk source,.ofAddress ctx.sdk validator⟩ := by
  rw [h,List.mem_flatMap]
  simp only [ctx.order.mem_visit,mem_touched]
  constructor
  · rintro ⟨_,⟨source,validator,htouched,rfl⟩,hentry⟩
    exact ⟨source,validator,htouched,hentry⟩
  · rintro ⟨source,validator,htouched,hentry⟩
    exact ⟨_,⟨source,validator,htouched,rfl⟩,hentry⟩

section
variable {db : ChainDb} {gathered : Gathered}

/-- The rows of the answered pairs are cleared. -/
lemma cleared_iff (hsdk : ctx.sdk.Lawful) (hdecodes : ctx.sdk.DecodesEncoded)
    (h : Gathers ctx client db gathered) {row : BondDb} :
    Cleared ctx gathered.removedBondsAddresses row ↔ ∃ source validator,
      Touches gathered.current.block source validator ∧ Answered client source validator ∧
        row.address = ctx.sdk.encode source ∧ row.validator = ctx.sdk.encode validator := by
  obtain ⟨entriesOf,hbonds,hpairs⟩ := exists_pairBonds hsdk hdecodes h
  constructor
  · rintro ⟨pair,hpair,haddress,hvalidator⟩
    obtain ⟨entry,hentry,rfl⟩ := List.mem_map.mp hpair
    obtain ⟨source,validator,htouched,hmem⟩ := (mem_gatheredBonds hbonds).mp hentry
    have hof := hpairs source validator htouched
    obtain ⟨hfirst,hsecond⟩ := hof.labels entry hmem
    refine ⟨source,validator,htouched,?_,?_,?_⟩
    · by_contra hnot
      rw [hof.unanswered hnot] at hmem
      contradiction
    · rw [haddress,hfirst,Id.toString_ofAddress hsdk]
    · rw [hvalidator,hsecond,Id.toString_ofAddress hsdk]
  · rintro ⟨source,validator,htouched,hanswered,haddress,hvalidator⟩
    have hof := hpairs source validator htouched
    obtain ⟨entry,hmem⟩ := List.exists_mem_of_ne_nil _ (hof.cleared hanswered)
    obtain ⟨hfirst,hsecond⟩ := hof.labels entry hmem
    have hentry := (mem_gatheredBonds hbonds).mpr ⟨source,validator,htouched,hmem⟩
    refine ⟨_,List.mem_map_of_mem hentry,?_,?_⟩
    · rw [haddress,hfirst,Id.toString_ofAddress hsdk]
    · rw [hvalidator,hsecond,Id.toString_ofAddress hsdk]

/-- The bonds of the answered pairs are inserted. -/
lemma mem_bondsUpdates (hsdk : ctx.sdk.Lawful) (hdecodes : ctx.sdk.DecodesEncoded)
    (h : Gathers ctx client db gathered) {bond : Pos.Bond} :
    bond ∈ gathered.bondsUpdates ↔ ∃ source validator,
      Touches gathered.current.block source validator ∧ Answered client source validator ∧
        ∃ table, GroupedInto client source validator table ∧
          ∃ entry ∈ table.rows, bondOf ctx entry = bond := by
  obtain ⟨entriesOf,hbonds,hpairs⟩ := exists_pairBonds hsdk hdecodes h
  rw [Gathered.bondsUpdates,List.mem_filterMap]
  constructor
  · rintro ⟨entry,hentry,hbond⟩
    obtain ⟨source,validator,htouched,hmem⟩ := (mem_gatheredBonds hbonds).mp hentry
    have hof := hpairs source validator htouched
    have hanswered : Answered client source validator := by
      by_contra hnot
      rw [hof.unanswered hnot] at hmem
      contradiction
    obtain ⟨table,htable,hupdates⟩ := hof.updates hanswered
    have hmemBond : bond ∈ (ctx.order.visit table.rows).map (bondOf ctx) := by
      rw [←hupdates]
      exact List.mem_filterMap.mpr ⟨entry,hmem,hbond⟩
    obtain ⟨row,hrow,hof⟩ := List.mem_map.mp hmemBond
    exact ⟨source,validator,htouched,hanswered,table,htable,row,ctx.order.mem_visit.mp hrow,hof⟩
  · rintro ⟨source,validator,htouched,hanswered,table,htable,row,hrow,hof⟩
    have hpair := hpairs source validator htouched
    obtain ⟨table',htable',hupdates⟩ := hpair.updates hanswered
    obtain rfl : table = table' := Panicking.returns.inj (htable.symm.trans htable')
    have hmemBond : bond ∈ (ctx.order.visit table.rows).map (bondOf ctx) :=
      List.mem_map.mpr ⟨row,ctx.order.mem_visit.mpr hrow,hof⟩
    rw [←hupdates,List.mem_filterMap] at hmemBond
    obtain ⟨entry,hmem,hbond⟩ := hmemBond
    exact ⟨entry,(mem_gatheredBonds hbonds).mpr ⟨source,validator,htouched,hmem⟩,hbond⟩

/-- The epochs that the node answers with for the pairs of the block fit the column. -/
def StartsFit (client : Client) (block : Block) : Prop :=
  ∀ source validator, Touches block source validator → Answered client source validator →
    ∀ bond ∈ client.node.bondsOf source validator, bond.start.toNat < 2^31

lemma fromBond_bondOf (hsdk : ctx.sdk.Lawful) (entry : BondEntry) :
    BondDb.fromBond ctx (bondOf ctx entry) =
      ⟨ctx.sdk.encode entry.source,ctx.sdk.encode entry.validator,entry.amount,
        entry.epoch.toUInt32.toInt32⟩ := by
  rw [BondDb.fromBond,bondOf]
  dsimp only
  rw [Id.toString_ofAddress hsdk,Id.toString_ofAddress hsdk]

/-- The rows of one pair have distinct keys. -/
lemma nodup_groupedRows (hsdk : ctx.sdk.Lawful) (hanswers : client.node.AnswersPairs)
    {table : Table BondEntry.key} (htable : GroupedInto client source validator table)
    (hfits : ∀ bond ∈ client.node.bondsOf source validator, bond.start.toNat < 2^31) :
    ((((ctx.order.visit table.rows).map (bondOf ctx)).map (BondDb.fromBond ctx)).map
      BondDb.key).Nodup := by
  have hentries := (mem_groupedInto hanswers htable).1
  have hstored : ∀ entry ∈ table.rows,
      entry.epoch.toUInt32.toInt32.toInt = (entry.epoch.toNat : ℤ) := by
    intro entry hentry
    obtain ⟨-,-,bond,hbond,hepoch⟩ := hentries entry hentry
    exact toInt_asI32_iff.mpr (hepoch ▸ hfits bond hbond)
  rw [List.map_map,List.map_map]
  refine ctx.order.nodup_visit.map_on ?_
  intro entry hentry entry' hentry' hsame
  rw [ctx.order.mem_visit] at hentry hentry'
  obtain ⟨hsource,hvalidator,-⟩ := hentries entry hentry
  obtain ⟨hsource',hvalidator',-⟩ := hentries entry' hentry'
  simp only [Function.comp_apply,fromBond_bondOf hsdk,BondDb.key,Prod.mk.injEq] at hsame
  have hepoch : (entry.epoch.toNat : ℤ) = entry'.epoch.toNat := by
    rw [←hstored entry hentry,←hstored entry' hentry',hsame.2.2]
  apply Table.eq_of_key_eq hentry hentry'
  rw [BondEntry.key,BondEntry.key,hsource,hsource',hvalidator,hvalidator',
    UInt64.toNat_inj.mp (Int.ofNat_inj.mp hepoch)]

/-- No two of the inserted rows have one key. -/
lemma nodup_bondsUpdates (hsdk : ctx.sdk.Lawful) (hdecodes : ctx.sdk.DecodesEncoded)
    (hanswers : client.node.AnswersPairs) (h : Gathers ctx client db gathered)
    (hstarts : StartsFit client gathered.current.block) :
    ((gathered.bondsUpdates.map (BondDb.fromBond ctx)).map BondDb.key).Nodup := by
  obtain ⟨entriesOf,hbonds,hpairs⟩ := exists_pairBonds hsdk hdecodes h
  rw [Gathered.bondsUpdates,hbonds,List.filterMap_flatMap,List.map_flatMap,List.map_flatMap]
  refine @nodup_flatMap_of_labels _ _ _ (fun pair => (pair.source.toString ctx.sdk,
    pair.target.toString ctx.sdk)) (fun key : String × String × Int32 => (key.1,key.2.1)) _ _ ?_ ?_
  · refine ctx.order.nodup_visit.map_on ?_
    intro pair hpair pair' hpair' hsame
    obtain ⟨source,validator,-,rfl⟩ := mem_touched.mp (ctx.order.mem_visit.mp hpair)
    obtain ⟨source',validator',-,rfl⟩ := mem_touched.mp (ctx.order.mem_visit.mp hpair')
    simp only [Id.toString_ofAddress hsdk,Prod.mk.injEq] at hsame
    rw [hdecodes.encode_injective hsame.1,hdecodes.encode_injective hsame.2]
  · intro pair hpair
    obtain ⟨source,validator,htouched,rfl⟩ := mem_touched.mp (ctx.order.mem_visit.mp hpair)
    have hof := hpairs source validator htouched
    by_cases hanswered : Answered client source validator
    · obtain ⟨table,htable,hupdates⟩ := hof.updates hanswered
      rw [hupdates]
      refine ⟨nodup_groupedRows hsdk hanswers htable (hstarts source validator htouched hanswered),?_⟩
      intro key hkey
      rw [List.map_map,List.map_map] at hkey
      obtain ⟨entry,hentry,rfl⟩ := List.mem_map.mp hkey
      obtain ⟨hsource,hvalidator,-⟩ :=
        (mem_groupedInto hanswers htable).1 entry (ctx.order.mem_visit.mp hentry)
      simp only [Function.comp_apply,fromBond_bondOf hsdk,BondDb.key,Id.toString_ofAddress hsdk,
        hsource,hvalidator]
    · rw [hof.unanswered hanswered]
      exact ⟨List.nodup_nil,by simp⟩

/-- The rows that are inserted, from the grouped answers. -/
lemma mem_bondRows (hsdk : ctx.sdk.Lawful) (hdecodes : ctx.sdk.DecodesEncoded)
    (hanswers : client.node.AnswersPairs) (h : Gathers ctx client db gathered) {row : BondDb} :
    row ∈ gathered.bondsUpdates.map (BondDb.fromBond ctx) ↔ ∃ source validator,
      Touches gathered.current.block source validator ∧ Answered client source validator ∧
        ∃ table, GroupedInto client source validator table ∧ ∃ entry ∈ table.rows,
          row = ⟨ctx.sdk.encode source,ctx.sdk.encode validator,entry.amount,
            entry.epoch.toUInt32.toInt32⟩ := by
  rw [List.mem_map]
  simp only [mem_bondsUpdates hsdk hdecodes h]
  constructor
  · rintro ⟨_,⟨source,validator,htouched,hanswered,table,htable,entry,hentry,rfl⟩,rfl⟩
    obtain ⟨hsource,hvalidator,-⟩ := (mem_groupedInto hanswers htable).1 entry hentry
    refine ⟨source,validator,htouched,hanswered,table,htable,entry,hentry,?_⟩
    rw [fromBond_bondOf hsdk,hsource,hvalidator]
  · rintro ⟨source,validator,htouched,hanswered,table,htable,entry,hentry,rfl⟩
    obtain ⟨hsource,hvalidator,-⟩ := (mem_groupedInto hanswers htable).1 entry hentry
    refine ⟨_,⟨source,validator,htouched,hanswered,table,htable,entry,hentry,rfl⟩,?_⟩
    rw [fromBond_bondOf hsdk,hsource,hvalidator]

variable {db' : ChainDb} {shouldUpdateCrawlerState : Bool}

/-- After the block the rows of the answered pairs are replaced. -/
lemma mem_bonds_committed (hsdk : ctx.sdk.Lawful) (hdecodes : ctx.sdk.DecodesEncoded)
    (hanswers : client.node.AnswersPairs) (h : Gathers ctx client db gathered)
    (hstarts : StartsFit client gathered.current.block)
    (hcommitted : Committed ctx shouldUpdateCrawlerState gathered db db') {row : BondDb} :
    row ∈ db'.bonds.rows ↔
      row ∈ db.bonds.rows ∧ ¬ Cleared ctx gathered.removedBondsAddresses row ∨
        row ∈ gathered.bondsUpdates.map (BondDb.fromBond ctx) := by
  rw [Table.mem_foldlM_put_of_replaces setBondAmount_replaces
    (nodup_bondsUpdates hsdk hdecodes hanswers h hstarts) hcommitted.bonds,or_comm]
  refine or_congr_left ?_
  have hdeleted : row ∈ (deleteRows db.bonds fun row =>
      decide (Cleared ctx gathered.removedBondsAddresses row)).rows ↔
      row ∈ db.bonds.rows ∧ ¬ Cleared ctx gathered.removedBondsAddresses row := by
    simp [deleteRows]
  rw [hdeleted]
  refine ⟨And.left,fun hrow => ⟨hrow,?_⟩⟩
  -- an inserted row is about a pair whose rows are cleared
  intro hkey
  obtain ⟨new,hnew,hsame⟩ := List.mem_map.mp hkey
  obtain ⟨source,validator,htouched,hanswered,-,-,entry,-,rfl⟩ :=
    (mem_bondRows hsdk hdecodes hanswers h).mp hnew
  simp only [BondDb.key,Prod.mk.injEq] at hsame
  exact hrow.2 ((cleared_iff hsdk hdecodes h).mpr
    ⟨source,validator,htouched,hanswered,hsame.1.symm,hsame.2.1.symm⟩)

/-- An answered pair has the bonds of the node. -/
lemma bondsFollow_of_answered (hsdk : ctx.sdk.Lawful) (hdecodes : ctx.sdk.DecodesEncoded)
    (hanswers : client.node.AnswersPairs) (h : Gathers ctx client db gathered)
    (hstarts : StartsFit client gathered.current.block)
    (hcommitted : Committed ctx shouldUpdateCrawlerState gathered db db')
    (htouched : Touches gathered.current.block source validator)
    (hanswered : Answered client source validator) :
    BondsFollow ctx client.node db' source validator := by
  intro start amount
  have hfits := hstarts source validator htouched hanswered
  constructor
  · rintro ⟨row,hrow,haddress,hvalidator,rfl,rfl⟩
    rcases (mem_bonds_committed hsdk hdecodes hanswers h hstarts hcommitted).mp hrow with
      ⟨-,hkept⟩ | hnew
    · exact (hkept ((cleared_iff hsdk hdecodes h).mpr
        ⟨source,validator,htouched,hanswered,haddress,hvalidator⟩)).elim
    · obtain ⟨source',validator',-,-,table,htable,entry,hentry,rfl⟩ :=
        (mem_bondRows hsdk hdecodes hanswers h).mp hnew
      obtain rfl := hdecodes.encode_injective haddress
      obtain rfl := hdecodes.encode_injective hvalidator
      obtain ⟨hentries,hbondAt⟩ := mem_groupedInto hanswers htable
      obtain ⟨-,-,bond,hbond,hepoch⟩ := hentries entry hentry
      exact (hbondAt _ _).mp
        ⟨entry,hentry,(toInt_asI32_iff.mpr (hepoch ▸ hfits bond hbond)).symm,rfl⟩
  · intro hbondAt
    obtain ⟨entriesOf,-,hpairs⟩ := exists_pairBonds hsdk hdecodes h
    obtain ⟨table,htable,-⟩ := (hpairs source validator htouched).updates hanswered
    obtain ⟨hentries,hgrouped⟩ := mem_groupedInto hanswers htable
    obtain ⟨entry,hentry,rfl,rfl⟩ := (hgrouped _ _).mpr hbondAt
    obtain ⟨-,-,bond,hbond,hepoch⟩ := hentries entry hentry
    refine ⟨_,(mem_bonds_committed hsdk hdecodes hanswers h hstarts hcommitted).mpr (.inr
      ((mem_bondRows hsdk hdecodes hanswers h).mpr
        ⟨source,validator,htouched,hanswered,table,htable,entry,hentry,rfl⟩)),rfl,rfl,?_,rfl⟩
    exact toInt_asI32_iff.mpr (hepoch ▸ hfits bond hbond)

/-- Rows outside the answered pairs are as they were. -/
lemma mem_bonds_of_other (hsdk : ctx.sdk.Lawful) (hdecodes : ctx.sdk.DecodesEncoded)
    (hanswers : client.node.AnswersPairs) (h : Gathers ctx client db gathered)
    (hstarts : StartsFit client gathered.current.block)
    (hcommitted : Committed ctx shouldUpdateCrawlerState gathered db db') {row : BondDb}
    (hother : ¬ ∃ source validator, Touches gathered.current.block source validator ∧
      Answered client source validator ∧ row.address = ctx.sdk.encode source ∧
        row.validator = ctx.sdk.encode validator) :
    row ∈ db'.bonds.rows ↔ row ∈ db.bonds.rows := by
  rw [mem_bonds_committed hsdk hdecodes hanswers h hstarts hcommitted,cleared_iff hsdk hdecodes h]
  constructor
  · rintro (⟨hrow,-⟩ | hnew)
    · exact hrow
    · obtain ⟨source,validator,htouched,hanswered,-,-,entry,-,rfl⟩ :=
        (mem_bondRows hsdk hdecodes hanswers h).mp hnew
      exact (hother ⟨source,validator,htouched,hanswered,rfl,rfl⟩).elim
  · exact fun hrow => .inl ⟨hrow,hother⟩

/-- The bonds table follows the node: if no query fails and the epochs of the node fit the
column, the rows of every pair that the block touches become the bonds of that pair, grouped by
their start, no key is inserted twice, and the rows of other pairs stay. -/
theorem bonds_follow_node (ctx : Context) (client : Client) (checksums : Checksums)
    (blockHeight : BlockHeight) (shouldUpdateCrawlerState : Bool) (db : ChainDb)
    {current : Current} (hsdk : ctx.sdk.Lawful) (hdecodes : ctx.sdk.DecodesEncoded)
    (hanswers : client.node.AnswersPairs) (hqueries : ∀ query, client.fails query = false)
    (hread : (readBlock ctx client checksums blockHeight).run = .returns (.ok current))
    (hstarts : ∀ source validator, Touches current.block source validator →
      ∀ bond ∈ client.node.bondsOf source validator, bond.start.toNat < 2^31) :
    (∀ gathered, (gather ctx client current db).run = .returns (.ok gathered) →
      ((gathered.bondsUpdates.map (BondDb.fromBond ctx)).map BondDb.key).Nodup) ∧
    ∀ db', (crawlingFn ctx client checksums blockHeight shouldUpdateCrawlerState db).run =
        .returns (.ok db') →
      (∀ source validator, Touches current.block source validator →
        BondsFollow ctx client.node db' source validator ∧
        (client.node.bondsOf source validator = [] → ∀ row ∈ db'.bonds.rows,
          ¬ (row.address = ctx.sdk.encode source ∧ row.validator = ctx.sdk.encode validator))) ∧
      ∀ row, (¬ ∃ source validator, Touches current.block source validator ∧
          row.address = ctx.sdk.encode source ∧ row.validator = ctx.sdk.encode validator) →
        (row ∈ db'.bonds.rows ↔ row ∈ db.bonds.rows) := by
  have hfits : StartsFit client current.block :=
    fun source validator htouched _ => hstarts source validator htouched
  constructor
  · intro gathered hgather
    obtain ⟨rfl,hgathers⟩ := gathers_of_gather hgather
    exact nodup_bondsUpdates hsdk hdecodes hanswers hgathers hfits
  · intro db' hrun
    obtain ⟨gathered,rfl,hgathers,hcommit⟩ := crawlingFn_eq_ok_of_read hread hrun
    have hcommitted := committed_of_commit hcommit
    refine ⟨fun source validator htouched => ?_,fun row hother => ?_⟩
    · have hfollow := bondsFollow_of_answered hsdk hdecodes hanswers hgathers hfits hcommitted
        htouched (hqueries _)
      refine ⟨hfollow,?_⟩
      rintro hnone row hrow ⟨haddress,hvalidator⟩
      have hbondAt := (hfollow _ _).mp ⟨row,hrow,haddress,hvalidator,rfl,rfl⟩
      rw [Node.BondAt,hnone] at hbondAt
      exact Grouped.not_nil hbondAt
    · apply mem_bonds_of_other hsdk hdecodes hanswers hgathers hfits hcommitted
      rintro ⟨source,validator,htouched,-,hrow⟩
      exact hother ⟨source,validator,htouched,hrow⟩

end
end

/-- The checksums under which the code of the bond is known. -/
def bondChecksums : Checksums := ⟨[("tx_bond","a")],[]⟩

lemma lawful_sampleContext (tx : Tx) : (sampleContext tx).sdk.Lawful :=
  ⟨sample_lawful.lowercase_encode,sample_lawful.lowercase_lowercase⟩

lemma decodesEncoded_sampleContext (tx : Tx) : (sampleContext tx).sdk.DecodesEncoded :=
  sample_decodesEncoded

lemma answersPairs_sampleNode (lastBlock firstBlockInEpoch : BlockHeight)
    (epochAt : BlockHeight → Epoch) :
    (sampleNode lastBlock firstBlockInEpoch epochAt).AnswersPairs := by
  intro source validator entry hentry
  obtain rfl := List.mem_singleton.mp hentry
  exact ⟨rfl,rfl⟩

/-- A block with a bond, processed with a node that answers every query. -/
theorem bonds_follow_sampleNode :
    ∃ db', (crawlingFn (sampleContext bondTx) ⟨sampleNode 8 5 fun _ => 1,fun _ => false⟩
        bondChecksums 7 true sampleDb).run = .returns (.ok db') ∧
      BondsFollow (sampleContext bondTx) (sampleNode 8 5 fun _ => 1) db' (.implicit "payer")
        (.established "validator") := by
  have hrun : (resultOf (crawlingFn (sampleContext bondTx)
      ⟨sampleNode 8 5 fun _ => 1,fun _ => false⟩ bondChecksums 7 true sampleDb)).isSome := by
    decide +kernel
  obtain ⟨db',hresult⟩ := Option.isSome_iff_exists.mp hrun
  have hdb := resultOf_eq_some.mp hresult
  have hfollow := (bonds_follow_node (sampleContext bondTx)
    ⟨sampleNode 8 5 fun _ => 1,fun _ => false⟩ bondChecksums 7 true sampleDb
    (lawful_sampleContext bondTx) (decodesEncoded_sampleContext bondTx)
    (answersPairs_sampleNode 8 5 fun _ => 1) (fun _ => rfl) rfl ?_).2 db' hdb
  · exact ⟨db',hdb,(hfollow.1 _ _ ⟨_,.head _,rfl,rfl⟩).1⟩
  · intro source validator htouched bond hbond
    obtain rfl := List.mem_singleton.mp hbond
    decide

/-- The same node with a bond that starts at an epoch outside the column. -/
def farNode : Node :=
  { sampleNode 8 5 fun _ => 1 with
    bondsAndUnbonds := fun source validator =>
      ((sampleNode 8 5 fun _ => 1).bondsAndUnbonds source validator).map fun entry =>
        { entry with bonds := [⟨2147483648,10⟩] } }

/-- The block is committed, but no row has the start of the bond. -/
theorem far_bond_misstored :
    ∃ current db', (readBlock (sampleContext bondTx) ⟨farNode,fun _ => false⟩ bondChecksums 7).run =
        .returns (.ok current) ∧
      (crawlingFn (sampleContext bondTx) ⟨farNode,fun _ => false⟩ bondChecksums 7 true
        sampleDb).run = .returns (.ok db') ∧
      Touches current.block (.implicit "payer") (.established "validator") ∧
      ¬ BondsFollow (sampleContext bondTx) farNode db' (.implicit "payer")
        (.established "validator") := by
  have hrun : (resultOf (crawlingFn (sampleContext bondTx) ⟨farNode,fun _ => false⟩ bondChecksums 7
      true sampleDb)).isSome := by
    decide +kernel
  obtain ⟨db',hresult⟩ := Option.isSome_iff_exists.mp hrun
  refine ⟨_,db',rfl,resultOf_eq_some.mp hresult,⟨_,.head _,rfl,rfl⟩,?_⟩
  intro hfollow
  have hbondAt : farNode.BondAt (.implicit "payer") (.established "validator") (2^31) 10 :=
    ⟨⟨⟨2147483648,10⟩,.head _,by decide⟩,by decide⟩
  obtain ⟨row,-,-,-,hstart,-⟩ := (hfollow _ _).mpr hbondAt
  have hbound := row.start.toInt_lt
  omega

end NamadaIndexer.Chain
