import NamadaIndexer.Chain.Completeness

/-! Epochs in a run of the chain crawler. A block belongs to an epoch of the chain, and the
first block of the epoch is taken from the present head of the node: the two agree while the
node is in the epoch of the block. -/
namespace NamadaIndexer.Chain
open NamadaIndexer.Foundation NamadaIndexer.Shared NamadaIndexer.Governance

/-- No block of the epoch comes earlier. -/
def IsFirstBlock (epochAt : BlockHeight → Epoch) (epoch : Epoch) (height : BlockHeight) : Prop :=
  epochAt height = epoch ∧ ∀ other, epochAt other = epoch → height ≤ other

/-- The node answers about a chain with these epochs: with the epoch of every block, and with
the first block of the epoch that it is in. -/
structure Node.Follows (epochAt : BlockHeight → Epoch) (node : Node) : Prop where
  epoch : ∀ height, (node.cometbftBlock height).epoch = epochAt height
  firstBlockInEpoch : IsFirstBlock epochAt (epochAt node.head.firstBlockInEpoch)
    node.head.firstBlockInEpoch

namespace Pass

def client : Pass → Client
  | .initialQuery client _ => client
  | .block client _ _ _ => client

/-- The block that a call is about: the initial query takes the last one of the node. -/
def height : Pass → BlockHeight
  | .initialQuery client _ => client.node.lastBlock
  | .block _ _ blockHeight _ => blockHeight

/-- The node is in the epoch of the block. -/
def InStep (epochAt : BlockHeight → Epoch) (pass : Pass) : Prop :=
  epochAt pass.client.node.head.firstBlockInEpoch = epochAt pass.height

end Pass

/-- The state of the crawler is about its last block: its epoch, and the first block of that. -/
structure ChainCrawlerState.Right (epochAt : BlockHeight → Epoch) (state : ChainCrawlerState) :
    Prop where
  epoch : state.lastProcessedEpoch = epochAt state.lastProcessedBlock
  firstBlock : IsFirstBlock epochAt state.lastProcessedEpoch state.firstBlockInEpoch
  le : state.firstBlockInEpoch ≤ state.lastProcessedBlock

/-- The state that is stored, if there is one, is right. -/
def StateRight (epochAt : BlockHeight → Epoch) (db : ChainDb) : Prop :=
  ∀ stored, db.crawlerState = some stored →
    ∃ state : ChainCrawlerState, stored = .ofState state ∧ state.Right epochAt

/-- The balances that belong to the start of an epoch: those of the validators of the epoch before,
and of the recipients of public good funding. -/
def epochChanges (ctx : Context) (node : Node) (epoch : Epoch) (db : ChainDb) :
    List BalanceChange :=
  let nativeToken := Id.ofAddress ctx.sdk node.nativeToken
  (node.consensusValidators (if epoch = 0 then 0 else epoch - 1)).map
      (fun address => ⟨.ofAddress ctx.sdk address,.native nativeToken⟩) ++
    getPgfReceipientsBalanceChanges nativeToken db

/-- The crawler between two calls, with the checksums that it holds. -/
structure ChainCrawler where
  db : ChainDb
  checksums : Checksums

/-- The work at the start of an epoch, which leaves the crawler with the checksums of the node. -/
structure EpochWork (ctx : Context) (client : Client) (epoch : Epoch) (blockHeight : BlockHeight)
    (db : ChainDb) (s' : ChainCrawler) : Prop where
  checksums : queryChecksums ctx.sdk client.node.head = .returns s'.checksums
  balances : ∀ change ∈ epochChanges ctx client.node epoch db,
    s'.db.HasBalance ctx.sdk change blockHeight
  rateLimits : ∃ tokens, queryTokens ctx client = some tokens ∧ ∀ token ∈ tokens,
    (token.address.toString ctx.sdk,epoch.toInt32) ∈ s'.db.ibcRateLimits.keys
  maspRates : ∀ data ∈ client.node.maspRates,
    MaspRewardDataDb.ofData ctx data ∈ s'.db.maspRates.rows

/-- A start of the process, which queries the checksums, or a call, which finds those that the
crawler holds. -/
inductive Call
  | start (client : Client)
  | initialQuery (client : Client)
  | block (client : Client) (blockHeight : BlockHeight) (shouldUpdateCrawlerState : Bool)

/-- The checksums after a call about a block. One that fails later has refreshed them too. -/
def heldAfter (ctx : Context) (client : Client) (checksums : Checksums) (blockHeight : BlockHeight) :
    Checksums :=
  if client.fails .lastBlock = false ∧ ¬ client.node.lastBlock < blockHeight ∧
      client.fails .firstBlockInEpoch = false then
    match refreshChecksums ctx.sdk checksums blockHeight client.node.head with
    | .returns refreshed => refreshed
    | .panics _ => checksums
  else checksums

namespace Call

def client : Call → Client
  | .start client | .initialQuery client | .block client _ _ => client

/-- The call, with the checksums that it finds. -/
def pass? (checksums : Checksums) : Call → Option Pass
  | .start _ => none
  | .initialQuery client => some (.initialQuery client checksums)
  | .block client blockHeight shouldUpdateCrawlerState =>
    some (.block client checksums blockHeight shouldUpdateCrawlerState)

/-- The database after a call that succeeds. -/
def result (ctx : Context) (s : ChainCrawler) (call : Call) : Option ChainDb :=
  (call.pass? s.checksums).bind fun pass => pass.step ctx s.db

/-- A call that fails leaves the database alone. -/
def step (ctx : Context) (s : ChainCrawler) : Call → Option ChainCrawler
  | .start client =>
    match queryChecksums ctx.sdk client.node.head with
    | .returns checksums => some { s with checksums }
    | .panics _ => none
  | .initialQuery client =>
    some { s with db := ((Call.initialQuery client).result ctx s).getD s.db }
  | .block client blockHeight shouldUpdateCrawlerState =>
    some {
      db := ((Call.block client blockHeight shouldUpdateCrawlerState).result ctx s).getD s.db
      checksums := heldAfter ctx client s.checksums blockHeight }

/-- The node is in the epoch of the block that the call is about, if it has the block; and where that
is the first of the epoch, the queries for the balances at the start of the epoch do not fail. -/
def InTime (ctx : Context) (epochAt : BlockHeight → Epoch) (s : ChainCrawler) : Call → Prop
  | .start _ => True
  | .initialQuery client =>
    epochAt client.node.head.firstBlockInEpoch = epochAt client.node.lastBlock
  | .block client blockHeight _ => ¬ client.node.lastBlock < blockHeight →
    epochAt client.node.head.firstBlockInEpoch = epochAt blockHeight ∧
    (IsFirstBlock epochAt (epochAt blockHeight) blockHeight →
      ∀ change ∈ epochChanges ctx client.node (epochAt blockHeight) s.db,
        BalanceAnswered ctx.sdk client blockHeight change)

/-- A block that is the first of its epoch has the work of the epoch done. The initial query is
about no single block: it stores the whole state of the node. -/
def WorkDone (ctx : Context) (epochAt : BlockHeight → Epoch) (db : ChainDb) (s' : ChainCrawler) :
    Call → Prop
  | .start _ | .initialQuery _ => True
  | .block client blockHeight _ => IsFirstBlock epochAt (epochAt blockHeight) blockHeight →
    EpochWork ctx client (epochAt blockHeight) blockHeight db s'

end Call

section
variable {epochAt : BlockHeight → Epoch} {ctx : Context} {client : Client} {checksums : Checksums}
  {blockHeight : BlockHeight} {shouldUpdateCrawlerState : Bool} {db db' : ChainDb}

lemma ofState_inj {state state' : ChainCrawlerState}
    (h : ChainCrawlerStateDb.ofState state = .ofState state') : state = state' := by
  obtain ⟨lastProcessedBlock,lastProcessedEpoch,firstBlockInEpoch⟩ := state
  obtain ⟨lastProcessedBlock',lastProcessedEpoch',firstBlockInEpoch'⟩ := state'
  simp only [ChainCrawlerStateDb.ofState,ChainCrawlerStateDb.mk.injEq,toInt32_inj] at h
  obtain ⟨rfl,rfl,rfl⟩ := h
  rfl

/-- First blocks of one epoch are one block. -/
lemma IsFirstBlock.unique {epoch : Epoch} {a b : BlockHeight} (ha : IsFirstBlock epochAt epoch a)
    (hb : IsFirstBlock epochAt epoch b) : a = b :=
  UInt32.le_antisymm (ha.2 b hb.1) (hb.2 a ha.1)

/-- The state that a call stores is right exactly if the node is in the epoch of the block. -/
lemma right_iff {node : Node} (hnode : node.Follows epochAt) :
    ChainCrawlerState.Right epochAt ⟨blockHeight,epochAt blockHeight,node.head.firstBlockInEpoch⟩ ↔
      epochAt node.head.firstBlockInEpoch = epochAt blockHeight := by
  constructor
  · exact fun h => h.firstBlock.1
  · intro h
    have hfirst : IsFirstBlock epochAt (epochAt blockHeight) node.head.firstBlockInEpoch :=
      h ▸ hnode.firstBlockInEpoch
    exact ⟨rfl,hfirst,hfirst.2 blockHeight rfl⟩

lemma crawlerState_block (hnode : client.node.Follows epochAt)
    (h : (crawlingFn ctx client checksums blockHeight shouldUpdateCrawlerState db).run =
      .returns (.ok db')) :
    db'.crawlerState = if shouldUpdateCrawlerState then
        some (.ofState ⟨blockHeight,epochAt blockHeight,client.node.head.firstBlockInEpoch⟩)
      else db.crawlerState := by
  obtain ⟨gathered,hread,-,hcommit⟩ := crawlingFn_eq_ok h
  have hreads := reads_of_readBlock hread
  rw [(committed_of_commit hcommit).crawlerState,Gathered.crawlerState,hreads.height,hreads.epoch,
    hreads.firstBlockInEpoch,hnode.epoch]

lemma crawlerState_initialQuery (hnode : client.node.Follows epochAt)
    (h : (tryInitialQuery ctx client checksums db).run = .returns (.ok db')) :
    db'.crawlerState = some (.ofState ⟨client.node.lastBlock,epochAt client.node.lastBlock,
      client.node.head.firstBlockInEpoch⟩) := by
  obtain ⟨data,hread,-,-,hcommit⟩ := tryInitialQuery_eq_ok h
  unfold readLastBlock at hread
  simp only [Panicking.run_bind_eq_ok,run_orError_eq_ok,Panicking.run_pure_eq_ok,ask_eq_some] at hread
  obtain ⟨_,⟨-,rfl⟩,_,⟨-,rfl⟩,_,⟨-,rfl⟩,_,⟨-,rfl⟩,block,-,hcurrent⟩ := hread
  rw [(committed_of_commitInitial hcommit).crawlerState,InitialData.crawlerState,←hcurrent,hnode.epoch]

/-- The state that a call stores is right exactly if the call is in step. -/
theorem stateRight_iff_inStep {pass : Pass} (hnode : pass.client.node.Follows epochAt)
    (hstep : pass.step ctx db = some db') (hstored : db'.crawlerState ≠ db.crawlerState) :
    StateRight epochAt db' ↔ pass.InStep epochAt := by
  have hright : ∀ {stored}, db'.crawlerState = some stored →
      stored = .ofState ⟨pass.height,epochAt pass.height,
        pass.client.node.head.firstBlockInEpoch⟩ →
      (StateRight epochAt db' ↔ pass.InStep epochAt) := by
    rintro _ hdb rfl
    rw [Pass.InStep,←right_iff hnode]
    constructor
    · intro h
      obtain ⟨state,hstate,hright⟩ := h _ hdb
      rw [ofState_inj hstate]
      exact hright
    · intro hright stored hstored
      exact ⟨_,Option.some.inj (hstored.symm.trans hdb),hright⟩
  cases pass with
  | initialQuery client checksums =>
    exact hright (crawlerState_initialQuery hnode (resultOf_eq_some.mp hstep)) rfl
  | block client checksums blockHeight shouldUpdateCrawlerState =>
    have hstate := crawlerState_block hnode (resultOf_eq_some.mp hstep)
    cases shouldUpdateCrawlerState with
    | true => exact hright hstate rfl
    | false => exact (hstored hstate).elim

/-- The limits are stored under the addresses of the tokens and the epoch. -/
lemma keys_rateLimits {tokens : List Token} {epoch : Epoch} {limits : List IbcRateLimit}
    (h : getRateLimitsForTokens ctx client tokens epoch = some limits) :
    (limits.map IbcRateLimitsDb.ofLimit).map IbcRateLimitsDb.key =
      tokens.map fun token => (token.address.toString ctx.sdk,epoch.toInt32) := by
  have hkeys : limits.map (fun limit => (IbcRateLimitsDb.ofLimit limit).key) =
      (tokens.map fun token => token.address.toString ctx.sdk).map
        fun text => (text,epoch.toInt32) := by
    apply map_of_mapM h
    intro text htext limit hlimit
    obtain ⟨address,-,hlimit⟩ := Option.bind_eq_some_iff.mp hlimit
    obtain ⟨amount,-,hlimit⟩ := Option.bind_eq_some_iff.mp hlimit
    obtain rfl := Option.some.inj hlimit
    rfl
  rw [List.map_map] at hkeys ⊢
  exact hkeys

/-- A call that has read its block holds the checksums that it was read with. -/
lemma heldAfter_of_reads {current : Current}
    (h : (readBlock ctx client checksums blockHeight).run = .returns (.ok current)) :
    heldAfter ctx client checksums blockHeight = current.checksums := by
  have hreads := reads_of_readBlock h
  have hlast : client.fails .lastBlock = false ∧ client.fails .firstBlockInEpoch = false := by
    unfold readBlock at h
    obtain ⟨last,hlast,h⟩ := Panicking.run_bind_eq_ok.mp h
    obtain ⟨hanswered,rfl⟩ := ask_eq_some.mp (run_orError_eq_ok.mp hlast)
    rw [if_neg hreads.known] at h
    obtain ⟨first,hfirst,-⟩ := Panicking.run_bind_eq_ok.mp h
    exact ⟨hanswered,(ask_eq_some.mp (run_orError_eq_ok.mp hfirst)).1⟩
  rw [heldAfter,if_pos ⟨hlast.1,hreads.known,hlast.2⟩,hreads.refreshed]

/-- A block that is the first of what the node takes for its epoch has the work done. -/
lemma epochWork_of_newEpoch {s : ChainCrawler} (hnode : client.node.Follows epochAt)
    (h : (crawlingFn ctx client s.checksums blockHeight shouldUpdateCrawlerState s.db).run =
      .returns (.ok db')) (hfirst : client.node.head.firstBlockInEpoch = blockHeight)
    (hanswered : ∀ change ∈ epochChanges ctx client.node (epochAt blockHeight) s.db,
      BalanceAnswered ctx.sdk client blockHeight change) :
    EpochWork ctx client (epochAt blockHeight) blockHeight s.db
      ⟨db',heldAfter ctx client s.checksums blockHeight⟩ := by
  obtain ⟨gathered,hread,hgathers,hcommit⟩ := crawlingFn_eq_ok h
  have hreads := reads_of_readBlock hread
  have hcommitted := committed_of_commit hcommit
  have hnew : gathered.current.newEpoch = true := by
    rw [Current.newEpoch,hreads.firstBlockInEpoch,hreads.height,hfirst]
    exact beq_self_eq_true _
  have hepoch : gathered.current.epoch = epochAt blockHeight := by rw [hreads.epoch,hnode.epoch]
  have hnative : gathered.current.nativeId ctx = Id.ofAddress ctx.sdk client.node.nativeToken := by
    rw [Current.nativeId,hreads.nativeToken]
  refine ⟨?_,fun change hmem => ?_,?_,?_⟩
  · rw [heldAfter_of_reads hread]
    have hrefreshed := hreads.refreshed
    rw [refreshChecksums,if_pos hfirst] at hrefreshed
    exact hrefreshed
  · have hchanged : Changed ctx client.node gathered.current s.db change := by
      have hchange := hmem
      rw [epochChanges,List.mem_append,←hnative,←hepoch] at hchange
      rcases hchange with hvalidator | hrecipient
      · obtain ⟨address,haddress,rfl⟩ := List.mem_map.mp hvalidator
        exact .validator hnew haddress
      · exact .recipient hnew hrecipient
    have hstored := (hasBalance_committed hgathers hcommitted).mpr
      (.inr ⟨change,hchanged,rfl,rfl,hreads.height ▸ hanswered change hmem⟩)
    rwa [hreads.height] at hstored
  · have hlimits := hgathers.rateLimits
    rw [rateLimitsOf,if_pos hnew] at hlimits
    obtain ⟨tokens,htokens,hlimits⟩ := Option.bind_eq_some_iff.mp hlimits
    refine ⟨tokens,htokens,?_⟩
    intro token htoken
    rw [hcommitted.ibcRateLimits,Table.mem_keys_insertOrIgnore,keys_rateLimits hlimits,←hepoch]
    exact .inr (List.mem_map_of_mem htoken)
  · have hrates := hgathers.maspRates
    rw [maspRatesOf,if_pos hnew] at hrates
    obtain ⟨-,hrates⟩ := ask_eq_some.mp hrates
    obtain ⟨hnodup,hput⟩ := Table.upsert_eq_some.mp hcommitted.maspRates
    have hreplaces : ∀ {old new : MaspRewardDataDb}, old.token = new.token →
        setMaspRate.run old new = some new := by
      intro old new htoken
      cases new
      cases htoken
      rfl
    intro data hdata
    refine (Table.mem_foldlM_put_of_replaces hreplaces hnodup hput).mpr (.inl ?_)
    exact List.mem_map_of_mem (hrates ▸ hdata)

/-- One call in time. -/
lemma right_and_done {s s' : ChainCrawler} {call : Call}
    (hnode : call.client.node.Follows epochAt) (hintime : call.InTime ctx epochAt s)
    (hright : StateRight epochAt s.db) (hstep : call.step ctx s = some s') :
    StateRight epochAt s'.db ∧
      ((call.result ctx s).isSome → call.WorkDone ctx epochAt s.db s') := by
  -- a state that a call stores is right, and another one stays as it is
  have hstored : ∀ pass : Pass, pass.client.node.Follows epochAt →
      (∀ db', pass.step ctx s.db = some db' → pass.InStep epochAt) →
      StateRight epochAt ((pass.step ctx s.db).getD s.db) := by
    intro pass hfollows hinstep
    cases hpass : pass.step ctx s.db with
    | none => exact hright
    | some db' =>
      by_cases hsame : db'.crawlerState = s.db.crawlerState
      · intro stored hstate
        exact hright stored (hsame ▸ hstate)
      · exact (stateRight_iff_inStep hfollows hpass hsame).mpr (hinstep db' hpass)
  cases call with
  | start client =>
    rw [Call.step] at hstep
    split at hstep
    · obtain rfl := Option.some.inj hstep
      exact ⟨hright,fun h => by contradiction⟩
    · contradiction
  | initialQuery client =>
    obtain rfl := Option.some.inj hstep
    exact ⟨hstored (.initialQuery client s.checksums) hnode fun _ _ => hintime,fun _ => trivial⟩
  | block client blockHeight shouldUpdateCrawlerState =>
    obtain rfl := Option.some.inj hstep
    have hknown : ∀ db', (Pass.block client s.checksums blockHeight
        shouldUpdateCrawlerState).step ctx s.db = some db' → ¬ client.node.lastBlock < blockHeight := by
      intro db' hpass
      obtain ⟨gathered,hread,-,-⟩ := crawlingFn_eq_ok (resultOf_eq_some.mp hpass)
      exact (reads_of_readBlock hread).known
    refine ⟨hstored (.block client s.checksums blockHeight shouldUpdateCrawlerState) hnode
      fun db' hpass => (hintime (hknown db' hpass)).1,fun hprocessed hfirst => ?_⟩
    obtain ⟨db',hpass⟩ := Option.isSome_iff_exists.mp hprocessed
    obtain ⟨hinstep,hanswered⟩ := hintime (hknown db' hpass)
    have hhead : IsFirstBlock epochAt (epochAt blockHeight)
        client.node.head.firstBlockInEpoch := hinstep ▸ hnode.firstBlockInEpoch
    rw [hpass,Option.getD_some]
    exact epochWork_of_newEpoch hnode (resultOf_eq_some.mp hpass) (hhead.unique hfirst)
      (hanswered hfirst)

end

/-- Along every run of starts and calls, if the node is in the epoch of every block that a call is
about and the balances at the start of an epoch are answered, every state that is stored is right, and
every processed block that is the first of its epoch has the work of the epoch done. -/
theorem epochs_right_along_run (ctx : Context) (epochAt : BlockHeight → Epoch) (s : ChainCrawler)
    (calls : List Call) (hright : StateRight epochAt s.db)
    (hnodes : ∀ call ∈ calls, call.client.node.Follows epochAt)
    (hintime : Runs.Along (Call.step ctx) (fun s call => call.InTime ctx epochAt s) s calls)
    (before : List Call) (call : Call) (after : List Call) (hcalls : calls = before ++ call :: after)
    (s₁ s₂ : ChainCrawler) (hbefore : Runs.execute (Call.step ctx) s before = some s₁)
    (hstep : call.step ctx s₁ = some s₂) :
    StateRight epochAt s₂.db ∧
      ((call.result ctx s₁).isSome → call.WorkDone ctx epochAt s₁.db s₂) := by
  subst hcalls
  obtain ⟨hearlier,hrest⟩ := Runs.along_append.mp hintime
  have hgood : Runs.Along (Call.step ctx)
      (fun s call => call.InTime ctx epochAt s ∧ call.client.node.Follows epochAt) s before :=
    Runs.along_and hearlier (Runs.along_of_forall fun call hcall =>
      hnodes call (List.mem_append_left _ hcall))
  have hright₁ : StateRight epochAt s₁.db := by
    refine Runs.execute_invariant (fun s : ChainCrawler => StateRight epochAt s.db) ?_ hright hgood
      hbefore
    exact fun _ call _ hright hcall hstep => (right_and_done hcall.2 hcall.1 hright hstep).1
  exact right_and_done (hnodes call (List.mem_append_right _ List.mem_cons_self))
    (hrest s₁ hbefore).1 hright₁ hstep

/-- Epochs of four blocks. -/
def fourBlocks (height : BlockHeight) : Epoch := height / 4

lemma isFirstBlock_fourBlocks {epoch : Epoch} {height : BlockHeight}
    (h : height.toNat = 4 * epoch.toNat) : IsFirstBlock fourBlocks epoch height := by
  constructor
  · apply UInt32.toNat_inj.mp
    rw [fourBlocks,UInt32.toNat_div,h]
    exact Nat.mul_div_cancel_left _ (by decide)
  · rintro other rfl
    rw [UInt32.le_iff_toNat_le,h,fourBlocks,UInt32.toNat_div]
    exact Nat.mul_div_le _ _

lemma follows_sampleNode {lastBlock firstBlockInEpoch : BlockHeight}
    (h : firstBlockInEpoch.toNat = 4 * (fourBlocks firstBlockInEpoch).toNat) :
    (sampleNode lastBlock firstBlockInEpoch fourBlocks).Follows fourBlocks :=
  ⟨fun _ => rfl,isFirstBlock_fourBlocks h⟩

/-- The node before an upgrade: every code has its own path for a hash. -/
def oldClient : Client where
  node := { sampleNode 5 4 fourBlocks with head := ⟨4,some⟩ }
  fails _ := false

/-- The crawler starts with block 5. -/
def startCalls : List Call := [.start oldClient,.initialQuery oldClient]

/-- Block 8, the first of its epoch, when the node has it. -/
def promptCall : Call := .block ⟨sampleNode 8 8 fourBlocks,fun _ => false⟩ 8 true

/-- The same block, when the node is in the next epoch. -/
def lateCall : Call := .block ⟨sampleNode 14 12 fourBlocks,fun _ => false⟩ 8 true

lemma follows_oldClient : oldClient.node.Follows fourBlocks :=
  ⟨fun _ => rfl,isFirstBlock_fourBlocks (by decide)⟩

lemma follows_calls {last : Call} (h : last.client.node.Follows fourBlocks) :
    ∀ call ∈ startCalls ++ [last], call.client.node.Follows fourBlocks := by
  intro call hcall
  simp only [startCalls,List.cons_append,List.nil_append,List.mem_cons,List.not_mem_nil,
    or_false] at hcall
  rcases hcall with rfl | rfl | rfl
  · exact follows_oldClient
  · exact follows_oldClient
  · exact h

/-- What the last of some calls finds and leaves. -/
lemma exists_step_of_execute {ctx : Context} {s t : ChainCrawler} {calls : List Call} {call : Call}
    (h : Runs.execute (Call.step ctx) s (calls ++ [call]) = some t) :
    ∃ s₁, Runs.execute (Call.step ctx) s calls = some s₁ ∧ call.step ctx s₁ = some t := by
  obtain ⟨s₁,hcalls,hlast⟩ := Runs.execute_append_eq_some.mp h
  obtain ⟨t',hstep,hnil⟩ := Runs.execute_cons_eq_some.mp hlast
  obtain rfl := Option.some.inj hnil
  exact ⟨s₁,hcalls,hstep⟩

theorem epochs_right_prompt : ∃ s₁ s₂,
    Runs.execute (Call.step (sampleContext bondTx)) ⟨.empty,bondChecksums⟩ startCalls = some s₁ ∧
      promptCall.step (sampleContext bondTx) s₁ = some s₂ ∧ StateRight fourBlocks s₂.db ∧
      promptCall.WorkDone (sampleContext bondTx) fourBlocks s₁.db s₂ := by
  have hrun : (Runs.execute (Call.step (sampleContext bondTx)) ⟨.empty,bondChecksums⟩
      (startCalls ++ [promptCall])).isSome := by
    decide +kernel
  obtain ⟨s₂,hs₂⟩ := Option.isSome_iff_exists.mp hrun
  obtain ⟨s₁,hs₁,hstep⟩ := exists_step_of_execute hs₂
  have hfound : (Runs.execute (Call.step (sampleContext bondTx)) ⟨.empty,bondChecksums⟩
      startCalls).map (fun s => ((promptCall.result (sampleContext bondTx) s).isSome,
        epochChanges (sampleContext bondTx) promptCall.client.node 2 s.db)) =
      some (true,[⟨.ofAddress Sdk.sample (.established "validator"),
        .native (.ofAddress Sdk.sample (.established "nam"))⟩]) := by
    decide +kernel
  rw [hs₁,Option.map_some,Option.some.injEq,Prod.mk.injEq] at hfound
  have hnodes := follows_calls
    (show promptCall.client.node.Follows fourBlocks from follows_sampleNode (by decide))
  have hintime : Runs.Along (Call.step (sampleContext bondTx))
      (fun s call => call.InTime (sampleContext bondTx) fourBlocks s) ⟨.empty,bondChecksums⟩
      (startCalls ++ [promptCall]) := by
    refine Runs.along_append.mpr ⟨⟨trivial,fun _ _ => ⟨rfl,fun _ _ => trivial⟩⟩,fun s hs => ?_⟩
    obtain rfl := Option.some.inj (hs₁.symm.trans hs)
    refine ⟨fun _ => ⟨rfl,fun _ change hchange => ?_⟩,fun _ _ => trivial⟩
    have hlisted : change ∈ epochChanges (sampleContext bondTx) promptCall.client.node 2 s₁.db :=
      hchange
    rw [hfound.2,List.mem_singleton] at hlisted
    subst hlisted
    exact ⟨.established "validator",.established "nam",by decide +kernel,by decide +kernel,rfl⟩
  obtain ⟨hright,hdone⟩ := epochs_right_along_run (sampleContext bondTx) fourBlocks
    ⟨.empty,bondChecksums⟩ (startCalls ++ [promptCall]) (fun _ h => nomatch h) hnodes hintime
    startCalls promptCall [] rfl s₁ s₂ hs₁ hstep
  exact ⟨s₁,s₂,hs₁,hstep,hright,hdone hfound.1⟩

/-- Block 8 is committed with a first block that comes after it, and the crawler is left with the
checksums of before the upgrade. -/
theorem epochs_wrong_late : ∃ s₁ s₂,
    Runs.execute (Call.step (sampleContext bondTx)) ⟨.empty,bondChecksums⟩ startCalls = some s₁ ∧
      lateCall.step (sampleContext bondTx) s₁ = some s₂ ∧
      (∀ call ∈ startCalls ++ [lateCall], call.client.node.Follows fourBlocks) ∧
      (lateCall.result (sampleContext bondTx) s₁).isSome ∧ ¬ StateRight fourBlocks s₂.db ∧
      IsFirstBlock fourBlocks (fourBlocks 8) 8 ∧
      ¬ lateCall.WorkDone (sampleContext bondTx) fourBlocks s₁.db s₂ := by
  have hrun : (Runs.execute (Call.step (sampleContext bondTx)) ⟨.empty,bondChecksums⟩
      (startCalls ++ [lateCall])).map (fun s => (s.db.crawlerState,s.checksums.getNameById "a")) =
        some (some (.ofState ⟨8,2,12⟩),none) := by
    decide +kernel
  obtain ⟨s₂,hs₂,hleft⟩ := Option.map_eq_some_iff.mp hrun
  obtain ⟨s₁,hs₁,hstep⟩ := exists_step_of_execute hs₂
  have hprocessed : (Runs.execute (Call.step (sampleContext bondTx)) ⟨.empty,bondChecksums⟩
      startCalls).map (fun s => (lateCall.result (sampleContext bondTx) s).isSome) = some true := by
    decide +kernel
  rw [hs₁,Option.map_some,Option.some.injEq] at hprocessed
  rw [Prod.mk.injEq] at hleft
  have hfirst : IsFirstBlock fourBlocks (fourBlocks 8) 8 := isFirstBlock_fourBlocks (by decide)
  refine ⟨s₁,s₂,hs₁,hstep,follows_calls (follows_sampleNode (by decide)),hprocessed,
    fun hright => ?_,hfirst,fun hdone => ?_⟩
  · obtain ⟨state,hstored,hstateRight⟩ := hright _ hleft.1
    obtain rfl := ofState_inj hstored
    exact absurd hstateRight.le (by decide)
  · have hname : ((fun checksums : Checksums => checksums.getNameById "a") <$>
        queryChecksums (sampleContext bondTx).sdk lateCall.client.node.head) =
          .returns (some "tx_bond") := by
      decide +kernel
    have hqueried : queryChecksums (sampleContext bondTx).sdk lateCall.client.node.head =
        .returns s₂.checksums := (hdone hfirst).checksums
    rw [hqueried] at hname
    have hsame : s₂.checksums.getNameById "a" = some "tx_bond" := Panicking.returns.inj hname
    rw [hleft.2] at hsame
    contradiction

end NamadaIndexer.Chain
