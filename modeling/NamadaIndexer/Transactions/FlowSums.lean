import NamadaIndexer.Transactions.Reindexing

/-! The flow totals of a token and an epoch as sums over the blocks of a run, in whatever order
the blocks and their events come. -/
namespace NamadaIndexer.Transactions
open NamadaIndexer.Foundation NamadaIndexer.Foundation.Runs NamadaIndexer.Shared

section
variable {sdk : Sdk}

def Pass.epoch (pass : Pass sdk) : Epoch := pass.crawled.block.epoch

/-- What the events of the block count, one by one. -/
def Pass.flows (pass : Pass sdk) : List (IbcTokenAction × String × ℚ) :=
  getIbcTokenFlows sdk pass.crawled.blockResults

/-- The stored total under a key; none is zero. -/
def storedAt (action : IbcTokenAction) (key : String × Int32) (db : Db) : ℚ :=
  ((db.ibcTokenFlows.find? key).map (rowAmount action)).getD 0

/-- What a block adds under a key: its sum, as the column rounds it. -/
def addedAt (action : IbcTokenAction) (key : String × Int32) (pass : Pass sdk) : ℚ :=
  if pass.epoch.toInt32 = key.2 then (roundHalfAway (counted action key.1 pass.flows) : ℚ) else 0

/-- The totals after some blocks: they grow by the rounded sum of every block, and by the very
sum of all events where the sums of the blocks are whole. A token has a row once it had an event. -/
structure SumsFlows (passes : List (Pass sdk)) (db db' : Db) : Prop where
  rounded : ∀ action token (epoch : Epoch),
    storedAt action (token,epoch.toInt32) db' = storedAt action (token,epoch.toInt32) db +
      ((passes.filter fun pass => pass.epoch = epoch).map fun pass =>
        (roundHalfAway (counted action token pass.flows) : ℚ)).sum
  exact : ∀ action token (epoch : Epoch),
    (∀ pass ∈ passes, pass.epoch = epoch → ∃ n : ℤ, counted action token pass.flows = n) →
      storedAt action (token,epoch.toInt32) db' = storedAt action (token,epoch.toInt32) db +
        counted action token ((passes.filter fun pass => pass.epoch = epoch).flatMap Pass.flows)
  rows : ∀ token (epoch : Epoch), (token,epoch.toInt32) ∈ db'.ibcTokenFlows.keys ↔
    (token,epoch.toInt32) ∈ db.ibcTokenFlows.keys ∨
      ∃ pass ∈ passes, pass.epoch = epoch ∧ ∃ flow ∈ pass.flows, flow.2.1 = token

/-- The same block, with its events in some order. -/
def SameFlows (pass pass' : Pass sdk) : Prop :=
  pass.epoch = pass'.epoch ∧ pass.flows.Perm pass'.flows

/-- The same blocks in some order, each with its events in some order. -/
def Reordered (passes passes' : List (Pass sdk)) : Prop :=
  ∃ ordered, passes.Perm ordered ∧ List.Forall₂ SameFlows ordered passes'

variable {action : IbcTokenAction} {key : String × Int32} {db db' db'' : Db} {pass : Pass sdk}
  {passes passes' : List (Pass sdk)}

lemma storedAt_eq_sum (action : IbcTokenAction) (key : String × Int32) (db : Db) :
    storedAt action key db = (db.ibcTokenFlows.rows.map fun row =>
      if row.key = key then rowAmount action row else 0).sum := by
  unfold storedAt
  cases hfind : db.ibcTokenFlows.find? key with
  | some row =>
    obtain ⟨hrow,rfl⟩ := Table.find?_eq_some.mp hfind
    exact (Table.sum_of_key db.ibcTokenFlows.unique (rowAmount action) hrow).symm
  | none =>
    symm
    apply List.sum_eq_zero
    intro amount hamount
    obtain ⟨row,hrow,rfl⟩ := List.mem_map.mp hamount
    apply if_neg
    rintro rfl
    exact Table.find?_eq_none.mp hfind (Table.key_mem_keys hrow)

/-- The flows of a block are in its epoch. -/
lemma epoch_of_flowsMap {epoch : Epoch} {flows : List (IbcTokenAction × String × ℚ)}
    {flow : IbcTokenFlow} (h : flow ∈ (flowsMap epoch flows).rows) : flow.epoch = epoch := by
  refine Table.forall_rows_foldlM_put (p := fun flow : IbcTokenFlow => flow.epoch = epoch) ?_ ?_
    (by simp) (foldlM_flowsMap epoch flows) flow h
  · intro old new row hrun hold hnew
    cases hrun
    exact hold
  · intro new hnew
    obtain ⟨⟨action,token,amount⟩,-,rfl⟩ := List.mem_map.mp hnew
    cases action <;> rfl

lemma epoch_of_rows {c : Crawled sdk} {rows : List IbcTokenFlowsDb}
    (h : c.ibcTokenFlows.mapM IbcTokenFlowsDb.ofFlow = some rows) {row : IbcTokenFlowsDb}
    (hrow : row ∈ rows) : row.epoch = c.block.epoch.toInt32 := by
  obtain ⟨flow,hflow,hof⟩ := exists_of_mem_mapM h hrow
  have hepoch := epoch_of_flowsMap (c.flows_perm.mem_iff.mp hflow)
  obtain ⟨deposit,-,hof⟩ := Option.bind_eq_some_iff.mp hof
  obtain ⟨withdraw,-,hof⟩ := Option.bind_eq_some_iff.mp hof
  obtain rfl := Option.some.inj hof
  rw [←hepoch]

/-- The rows of a block add up to what it adds under each key. -/
lemma sum_rows {rows : List IbcTokenFlowsDb}
    (h : pass.crawled.ibcTokenFlows.mapM IbcTokenFlowsDb.ofFlow = some rows) :
    (rows.map fun row => if row.key = key then rowAmount action row else 0).sum =
      addedAt action key pass := by
  unfold addedAt
  split
  · rename_i hepoch
    rw [Pass.flows,←sum_ofFlow_crawled action key.1 h]
    congr 1
    apply List.map_congr_left
    intro row hrow
    have hkey : row.key = key ↔ row.address = key.1 := by
      rw [Prod.ext_iff]
      exact and_iff_left ((epoch_of_rows h hrow).trans hepoch)
    simp only [hkey]
  · rename_i hepoch
    apply List.sum_eq_zero
    intro amount hamount
    obtain ⟨row,hrow,rfl⟩ := List.mem_map.mp hamount
    apply if_neg
    rintro rfl
    exact hepoch (epoch_of_rows h hrow).symm

lemma storedAt_commit (action : IbcTokenAction) (key : String × Int32)
    (h : commit db pass = some db') :
    storedAt action key db' = storedAt action key db + addedAt action key pass := by
  obtain ⟨rows,hrows,-,hupsert⟩ := (commit_eq_some.mp h).ibcTokenFlows
  have hadd : ∀ {old new row : IbcTokenFlowsDb}, old.key = new.key →
      addToFlow.run old new = some row →
      (if row.key = key then rowAmount action row else 0) =
        (if old.key = key then rowAmount action old else 0) +
          (if new.key = key then rowAmount action new else 0) := by
    intro old new row hkey hrun
    rw [addToFlow.key_run hrun,←hkey]
    split
    · exact rowAmount_addToFlow action hrun
    · rw [add_zero]
  rw [storedAt_eq_sum,storedAt_eq_sum,Table.sum_upsert hadd hupsert,sum_rows hrows]

/-- Over a run, every block adds its part. -/
theorem storedAt_run (action : IbcTokenAction) (key : String × Int32)
    (h : execute commit db passes = some db') :
    storedAt action key db' =
      storedAt action key db + (passes.map (addedAt action key)).sum := by
  induction passes generalizing db with
  | nil =>
    cases h
    simp
  | cons pass passes ih =>
    obtain ⟨mid,hmid,hrest⟩ := execute_cons_eq_some.mp h
    rw [ih hrest,storedAt_commit action key hmid,List.map_cons,List.sum_cons,add_assoc]

/-- The tokens of a block's rows are those of its flows. -/
lemma mem_addresses_flowsMap (epoch : Epoch) {flows : List (IbcTokenAction × String × ℚ)}
    {token : String} :
    token ∈ (flowsMap epoch flows).rows.map IbcTokenFlow.address ↔
      ∃ flow ∈ flows, flow.2.1 = token := by
  have hkeys := Table.mem_keys_foldlM_put (foldlM_flowsMap epoch flows) (k := token)
  rw [Table.keys] at hkeys
  rw [hkeys,Table.empty_keys,List.map_map]
  simp only [List.not_mem_nil,false_or,List.mem_map,Function.comp_apply]
  refine exists_congr fun flow => and_congr_right fun _ => ?_
  obtain ⟨action,address,amount⟩ := flow
  cases action <;> rfl

lemma mem_keys_commit (h : commit db pass = some db') :
    key ∈ db'.ibcTokenFlows.keys ↔ key ∈ db.ibcTokenFlows.keys ∨
      (pass.epoch.toInt32 = key.2 ∧ ∃ flow ∈ pass.flows, flow.2.1 = key.1) := by
  obtain ⟨rows,hrows,-,hupsert⟩ := (commit_eq_some.mp h).ibcTokenFlows
  rw [Table.mem_keys_upsert hupsert,ofFlow_keys hrows,List.mem_map]
  refine or_congr_right ?_
  rw [Pass.flows,←mem_addresses_flowsMap pass.epoch,List.mem_map]
  constructor
  · rintro ⟨flow,hflow,rfl⟩
    have hmem := pass.crawled.flows_perm.mem_iff.mp hflow
    exact ⟨congrArg UInt32.toInt32 (epoch_of_flowsMap hmem).symm,flow,hmem,rfl⟩
  · rintro ⟨hepoch,flow,hmem,haddress⟩
    refine ⟨flow,pass.crawled.flows_perm.mem_iff.mpr hmem,?_⟩
    rw [epoch_of_flowsMap hmem,haddress]
    exact Prod.ext rfl hepoch

lemma mem_keys_run (h : execute commit db passes = some db') :
    key ∈ db'.ibcTokenFlows.keys ↔ key ∈ db.ibcTokenFlows.keys ∨
      ∃ pass ∈ passes, pass.epoch.toInt32 = key.2 ∧ ∃ flow ∈ pass.flows, flow.2.1 = key.1 := by
  induction passes generalizing db with
  | nil =>
    cases h
    simp
  | cons pass passes ih =>
    obtain ⟨mid,hmid,hrest⟩ := execute_cons_eq_some.mp h
    rw [ih hrest,mem_keys_commit hmid,or_assoc]
    simp only [List.mem_cons,exists_eq_or_imp]

/-- A row holds the totals that are stored under its key. -/
lemma mem_rows_iff {row : IbcTokenFlowsDb} :
    row ∈ db.ibcTokenFlows.rows ↔ row.key ∈ db.ibcTokenFlows.keys ∧
      ∀ action, rowAmount action row = storedAt action row.key db := by
  constructor
  · intro hrow
    refine ⟨Table.key_mem_keys hrow,fun action => ?_⟩
    rw [storedAt,Table.find?_of_mem hrow]
    rfl
  · rintro ⟨hkey,hamounts⟩
    obtain ⟨stored,hstored,hsame⟩ := Table.mem_keys.mp hkey
    have hstoredAt : ∀ action, storedAt action row.key db = rowAmount action stored := by
      intro action
      rw [storedAt,Table.find?_eq_some.mpr ⟨hstored,hsame⟩]
      rfl
    have hdeposit := (hamounts .deposit).trans (hstoredAt .deposit)
    have hwithdraw := (hamounts .withdraw).trans (hstoredAt .withdraw)
    have hrow : row = stored := by
      obtain ⟨address,epoch,deposit,withdraw⟩ := row
      obtain ⟨address',epoch',deposit',withdraw'⟩ := stored
      obtain ⟨rfl,rfl⟩ := Prod.mk.inj hsame
      simp only [rowAmount,Int.cast_inj] at hdeposit hwithdraw
      rw [Numeric.ext_value hdeposit,Numeric.ext_value hwithdraw]
    rwa [hrow]

lemma sum_filter_epoch (action : IbcTokenAction) (token : String) (epoch : Epoch)
    (passes : List (Pass sdk)) :
    (passes.map (addedAt action (token,epoch.toInt32))).sum =
      ((passes.filter fun pass => pass.epoch = epoch).map fun pass =>
        (roundHalfAway (counted action token pass.flows) : ℚ)).sum := by
  induction passes with
  | nil => rfl
  | cons pass passes ih =>
    rw [List.map_cons,List.sum_cons,ih,addedAt]
    by_cases hepoch : pass.epoch = epoch
    · simp [hepoch]
    · simp [hepoch,toInt32_inj]

lemma sum_whole (action : IbcTokenAction) (token : String) {passes : List (Pass sdk)}
    (hwhole : ∀ pass ∈ passes, ∃ n : ℤ, counted action token pass.flows = n) :
    (passes.map fun pass => (roundHalfAway (counted action token pass.flows) : ℚ)).sum =
      counted action token (passes.flatMap Pass.flows) := by
  induction passes with
  | nil => rfl
  | cons pass passes ih =>
    obtain ⟨n,hn⟩ := hwhole pass List.mem_cons_self
    rw [List.map_cons,List.sum_cons,List.flatMap_cons,counted_append,
      ih fun other hother => hwhole other (List.mem_cons_of_mem _ hother),hn,roundHalfAway_intCast]

lemma sumsFlows_run (h : execute commit db passes = some db') : SumsFlows passes db db' := by
  have hrounded : ∀ action token (epoch : Epoch), storedAt action (token,epoch.toInt32) db' =
      storedAt action (token,epoch.toInt32) db +
        ((passes.filter fun pass => pass.epoch = epoch).map fun pass =>
          (roundHalfAway (counted action token pass.flows) : ℚ)).sum := by
    intro action token epoch
    rw [storedAt_run action _ h,sum_filter_epoch]
  refine ⟨hrounded,fun action token epoch hwhole => ?_,fun token epoch => ?_⟩
  · rw [hrounded,sum_whole]
    intro pass hpass
    obtain ⟨hpass,hepoch⟩ := List.mem_filter.mp hpass
    exact hwhole pass hpass (of_decide_eq_true hepoch)
  · rw [mem_keys_run h]
    simp only [toInt32_inj]

lemma addedAt_congr (action : IbcTokenAction) (key : String × Int32) {pass' : Pass sdk}
    (h : SameFlows pass pass') : addedAt action key pass = addedAt action key pass' := by
  rw [addedAt,addedAt,h.1,counted_perm h.2]

/-- Reordered blocks add the same under every key. -/
lemma sum_addedAt_reordered (action : IbcTokenAction) (key : String × Int32)
    (h : Reordered passes passes') :
    (passes.map (addedAt action key)).sum = (passes'.map (addedAt action key)).sum := by
  obtain ⟨ordered,hperm,hsame⟩ := h
  rw [(hperm.map _).sum_eq]
  clear hperm
  induction hsame with
  | nil => rfl
  | cons hfirst _ ih => rw [List.map_cons,List.map_cons,List.sum_cons,List.sum_cons,ih,
      addedAt_congr action key hfirst]

/-- Reordered blocks have events for the same keys. -/
lemma events_reordered (h : Reordered passes passes') :
    (∃ pass ∈ passes, pass.epoch.toInt32 = key.2 ∧ ∃ flow ∈ pass.flows, flow.2.1 = key.1) ↔
      ∃ pass ∈ passes', pass.epoch.toInt32 = key.2 ∧ ∃ flow ∈ pass.flows, flow.2.1 = key.1 := by
  obtain ⟨ordered,hperm,hsame⟩ := h
  simp only [hperm.mem_iff]
  clear hperm
  induction hsame with
  | nil => rfl
  | cons hfirst _ ih =>
    simp only [List.mem_cons,exists_eq_or_imp,ih,hfirst.1,hfirst.2.mem_iff]

/-- The rows after reordered blocks are the same. -/
lemma rows_perm_of_reordered (hreordered : Reordered passes passes')
    (h : execute commit db passes = some db') (h' : execute commit db passes' = some db'') :
    db''.ibcTokenFlows.rows.Perm db'.ibcTokenFlows.rows := by
  have hnodup : ∀ d : Db, d.ibcTokenFlows.rows.Nodup := fun d => .of_map _ d.ibcTokenFlows.unique
  rw [List.perm_ext_iff_of_nodup (hnodup _) (hnodup _)]
  intro row
  rw [mem_rows_iff,mem_rows_iff,mem_keys_run h,mem_keys_run h',events_reordered hreordered]
  simp only [storedAt_run _ _ h,storedAt_run _ _ h',sum_addedAt_reordered _ _ hreordered]

end

/-- Over every run, from any stored totals: the totals are the sums of what the blocks count, and
any other order of the blocks and of their events leaves the same rows. -/
theorem flows_sum_along_run {sdk : Sdk} {db db' : Db} {passes : List (Pass sdk)}
    (hrun : execute commit db passes = some db') :
    SumsFlows passes db db' ∧ ∀ passes' db'', Reordered passes passes' →
      execute commit db passes' = some db'' →
      db''.ibcTokenFlows.rows.Perm db'.ibcTokenFlows.rows :=
  ⟨sumsFlows_run hrun,fun _ _ hreordered hrun' => rows_perm_of_reordered hreordered hrun hrun'⟩

/-- A packet is sent in one block and acknowledged in the next. -/
theorem flows_sum_two_blocks : ∃ db,
    execute commit (Db.empty ["tnam1q0"])
      [eventsBlock 1 "b1" "i1" [packetEvent "send_packet"],
        eventsBlock 2 "b2" "i2" [transferEvent ("acknowledgement","result:AQ==")]] = some db ∧
    SumsFlows
      [eventsBlock 1 "b1" "i1" [packetEvent "send_packet"],
        eventsBlock 2 "b2" "i2" [transferEvent ("acknowledgement","result:AQ==")]]
      (Db.empty ["tnam1q0"]) db := by
  have hruns : (execute commit (Db.empty ["tnam1q0"])
      [eventsBlock 1 "b1" "i1" [packetEvent "send_packet"],
        eventsBlock 2 "b2" "i2" [transferEvent ("acknowledgement","result:AQ==")]]).isSome := by
    decide +kernel
  obtain ⟨db,hrun⟩ := Option.isSome_iff_exists.mp hruns
  exact ⟨db,hrun,(flows_sum_along_run hrun).1⟩

/-- The functions where an amount may be a half. -/
def Sdk.halves : Sdk :=
  { Sdk.fiveUnits with bigDecimalFromStr := fun text => if text = "0.5" then some (1/2) else none }

/-- An acknowledgement that tells of half a unit. -/
def halfEvent : RawEvent where
  kind := "fungible_token_packet"
  attributes := [("acknowledgement","result:AQ=="),("amount","0.5"),("denom","tnam1q0"),("memo",""),
    ("receiver","b"),("sender","a"),("inner-tx-hash","i1")]

/-- A block of one transaction, with the results that are read from its events. -/
def halvesBlock (height : BlockHeight) (hash tx : String) (raw : List RawEvent) :
    Pass Sdk.halves where
  now := 0
  shouldUpdateCrawlerState := true
  crawled := .ofBlock Sdk.halves ⟨.hash hash,⟨height,"",none,0,.hash ""⟩,
    [(sampleWrapper ("w" ++ tx) height,[sampleInner tx ("w" ++ tx) (.ibcMsg none) .applied])],1⟩
    (match BlockResult.ofResponse Sdk.halves raw with
      | .returns results => results
      | .panics _ => ⟨[]⟩)

/-- Two halves count as two in two blocks, and as one in one block. -/
theorem halves_are_rounded_by_block : ∃ db db',
    execute commit (Db.empty ["tnam1q0"])
      [halvesBlock 1 "b1" "i1" [halfEvent],halvesBlock 2 "b2" "i2" [halfEvent]] = some db ∧
    storedAt .withdraw ("tnam1q0",1) db = 2 ∧
    counted .withdraw "tnam1q0"
      ([halvesBlock 1 "b1" "i1" [halfEvent],halvesBlock 2 "b2" "i2" [halfEvent]].flatMap
        Pass.flows) = 1 ∧
    execute commit (Db.empty ["tnam1q0"])
      [halvesBlock 1 "b1" "i1" [halfEvent,halfEvent]] = some db' ∧
    storedAt .withdraw ("tnam1q0",1) db' = 1 := by
  have htwo : (execute commit (Db.empty ["tnam1q0"])
      [halvesBlock 1 "b1" "i1" [halfEvent],halvesBlock 2 "b2" "i2" [halfEvent]]).map
        (storedAt .withdraw ("tnam1q0",1)) = some 2 := by
    decide +kernel
  have hone : (execute commit (Db.empty ["tnam1q0"])
      [halvesBlock 1 "b1" "i1" [halfEvent,halfEvent]]).map
        (storedAt .withdraw ("tnam1q0",1)) = some 1 := by
    decide +kernel
  obtain ⟨db,hrun,hstored⟩ := Option.map_eq_some_iff.mp htwo
  obtain ⟨db',hrun',hstored'⟩ := Option.map_eq_some_iff.mp hone
  exact ⟨db,db',hrun,hstored,by decide +kernel,hrun',hstored'⟩

end NamadaIndexer.Transactions
