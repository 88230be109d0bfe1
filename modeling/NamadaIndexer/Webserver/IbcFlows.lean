import NamadaIndexer.Chain.Additions
import NamadaIndexer.Transactions.FlowSums
import NamadaIndexer.Webserver.Balances
import NamadaIndexer.Webserver.Rewards

/-! The flows of tokens through IBC and their limits. Each table is read at the last epoch that it
knows: the limits are those of the chain crawler, the flows those of the crawler of
transactions. -/
namespace NamadaIndexer.Webserver
open NamadaIndexer.Foundation NamadaIndexer.Foundation.Runs NamadaIndexer.Shared
open NamadaIndexer.Chain (ChainDb Context IbcRateLimitsDb limitsOf)
open NamadaIndexer.Pos (StakingDb)
open NamadaIndexer.Transactions (Db IbcTokenFlowsDb Pass counted eventsBlock packetEvent storedAt
  transferEvent)

/-- `parse` of a number that was cast to a text -/
def parseU64 (n : ℤ) : Panicking UInt64 :=
  Panicking.expect "Should be a valid number"
    (if 0 ≤ n ∧ n < 2^64 then some (UInt64.ofNat n.toNat) else none)

/-- `MAX(epoch)` -/
def maxLimitEpoch (db : ChainDb) : Option Int32 := (db.ibcRateLimits.rows.map (·.epoch)).max?

def maxFlowEpoch (db : Db) : Option Int32 := (db.ibcTokenFlows.rows.map (·.epoch)).max?

/-- What a request leaves open fits everything. -/
def Fits {α : Type} [DecidableEq α] (asked : Option α) (value : α) : Bool :=
  match asked with
  | none => true
  | some asked => value = asked

/-- `get_throughput_limits` of the repository -/
def findThroughputLimits (db : ChainDb) (matchingTokenAddress : Option String)
    (matchingRateLimit : Option UInt64) : List (String × Amount) :=
  (db.ibcRateLimits.rows.filter fun row => Fits (matchingRateLimit.map UInt64.toNat)
    row.throughputLimit.val && Fits matchingTokenAddress row.address &&
      decide (some row.epoch = maxLimitEpoch db)).map fun row => (row.address,row.throughputLimit)

/-- The entity `IbcRateLimit` of a row -/
def limitShown (row : String × Amount) : Panicking (Id × UInt64) := do
  return (.account row.1,← parseU64 row.2.val)

/-- `get_throughput_limits` -/
def getThroughputLimits (db : ChainDb) (matchingTokenAddress : Option String)
    (matchingRateLimit : Option UInt64) : Panicking (List (Id × UInt64)) :=
  (findThroughputLimits db matchingTokenAddress matchingRateLimit).mapM limitShown

/-- `get_token_flows` of the repository: the address, what was withdrawn and what was deposited -/
def findTokenFlows (db : Db) (matchingTokenAddress : Option String) : List (String × ℤ × ℤ) :=
  (db.ibcTokenFlows.rows.filter fun row => Fits matchingTokenAddress row.address &&
    decide (some row.epoch = maxFlowEpoch db)).map fun row =>
      (row.address,row.withdraw.value,row.deposit.value)

/-- The entity `IbcTokenFlow` of a row -/
def flowShown (row : String × ℤ × ℤ) : Panicking (Id × UInt64 × UInt64) := do
  let withdraw ← parseU64 row.2.1
  let deposit ← parseU64 row.2.2
  return (.account row.1,withdraw,deposit)

/-- `get_token_flows` -/
def getTokenFlows (db : Db) (matchingTokenAddress : Option String) :
    Panicking (List (Id × UInt64 × UInt64)) :=
  (findTokenFlows db matchingTokenAddress).mapM flowShown

/-- `get_token_throughput` of the repository: the first row of a join, with the absolute
difference -/
def findTokenThroughput (db : ChainDb) (flowsDb : Db) (token : String) :
    Except String (ℤ × Amount) :=
  let rows := (innerJoin (fun flow limit => decide (flow.address = limit.address))
    flowsDb.ibcTokenFlows.rows db.ibcRateLimits.rows).filter fun row =>
      (decide (row.1.address = token) && decide (some row.1.epoch = maxFlowEpoch flowsDb)) &&
        decide (some row.2.epoch = maxLimitEpoch db)
  match rows with
  | (flow,limit)::_ => .ok (|flow.withdraw.value - flow.deposit.value|,limit.throughputLimit)
  | [] => .error "Record not found"

/-- `get_token_throughput` -/
def getTokenThroughput (db : ChainDb) (flowsDb : Db) (token : String) :
    Panicking (Except String (UInt64 × UInt64)) :=
  match findTokenThroughput db flowsDb token with
  | .error error => return .error error
  | .ok (throughput,limit) => do
    let throughput ← parseU64 throughput
    return .ok (throughput,← parseU64 limit.val)

section
variable {sdk : Sdk}

/-- The last epoch for which a limit was stored. -/
def lastLimitEpoch (transactions : List Pos.Transaction) : Option Int32 :=
  ((transactions.flatMap limitsOf).map fun limit => limit.epoch.toInt32).max?

/-- The limit that was stored first for a token in that epoch. -/
def limitOfLastEpoch (transactions : List Pos.Transaction) (token : String) : Option Amount := do
  let epoch ← lastLimitEpoch transactions
  let limit ← (transactions.flatMap limitsOf).find? fun limit =>
    limit.address = token ∧ limit.epoch.toInt32 = epoch
  return limit.throughputLimit

/-- The last epoch in which a token flowed. -/
def lastFlowEpoch (passes : List (Pass sdk)) : Option Int32 :=
  ((passes.filter fun pass => pass.flows ≠ []).map fun pass => pass.epoch.toInt32).max?

/-- What flowed in an epoch, block by block, as the column rounds it. -/
def flowed (action : IbcTokenAction) (token : String) (epoch : Int32) (passes : List (Pass sdk)) :
    ℤ :=
  ((passes.filter fun pass => pass.epoch.toInt32 = epoch).map fun pass =>
    roundHalfAway (counted action token pass.flows)).sum

/-- What was withdrawn and deposited of a token in the last epoch in which any token flowed, if this
one did. -/
def flowOfLastEpoch (passes : List (Pass sdk)) (token : String) : Option (ℤ × ℤ) := do
  let epoch ← lastFlowEpoch passes
  if passes.any fun pass => pass.epoch.toInt32 = epoch ∧ pass.flows.any fun flow => flow.2.1 = token
  then some (flowed .withdraw token epoch passes,flowed .deposit token epoch passes)
  else none

section limits
variable {ctx : Context} {transactions : List Pos.Transaction} {db : StakingDb}
  (hrun : execute (Pos.Transaction.step ctx) .empty transactions = some db)
include hrun

lemma maxLimitEpoch_eq : maxLimitEpoch db.chain = lastLimitEpoch transactions := by
  refine max?_congr fun epoch => ?_
  have hkeys : db.chain.ibcRateLimits.rows.map (·.epoch) =
      db.chain.ibcRateLimits.keys.map Prod.snd := by
    rw [Table.keys,List.map_map]
    rfl
  rw [hkeys,Chain.ibcRateLimits_eq hrun,List.mem_map,List.mem_map]
  simp only [Table.mem_keys_insertOrIgnore,Table.empty_keys,List.not_mem_nil,false_or,List.mem_map,
    exists_exists_and_eq_and]
  rfl

lemma find?_limit (token : String) (epoch : Int32) :
    db.chain.ibcRateLimits.find? (token,epoch) =
      ((transactions.flatMap limitsOf).find? fun limit =>
        limit.address = token ∧ limit.epoch.toInt32 = epoch).map IbcRateLimitsDb.ofLimit := by
  rw [Chain.ibcRateLimits_eq hrun,Table.find?_insertOrIgnore_empty,List.find?_map]
  congr 2
  funext limit
  exact decide_eq_decide.mpr Prod.mk_inj

lemma limitOfLastEpoch_eq (token : String) :
    limitOfLastEpoch transactions token = ((maxLimitEpoch db.chain).bind fun epoch =>
      db.chain.ibcRateLimits.find? (token,epoch)).map (·.throughputLimit) := by
  rw [maxLimitEpoch_eq hrun,limitOfLastEpoch,Option.map_bind]
  refine congrArg _ (funext fun epoch => ?_)
  rw [Function.comp_apply,find?_limit hrun,Option.map_map]
  exact (Option.map_eq_bind ..).symm

/-- The rows of the last epoch are found by their token. -/
lemma mem_findThroughputLimits {matchingTokenAddress : Option String}
    {matchingRateLimit : Option UInt64} {token : String} {limit : Amount} :
    (token,limit) ∈ findThroughputLimits db.chain matchingTokenAddress matchingRateLimit ↔
      limitOfLastEpoch transactions token = some limit ∧ Fits matchingTokenAddress token ∧
        Fits (matchingRateLimit.map UInt64.toNat) limit.val := by
  rw [limitOfLastEpoch_eq hrun,findThroughputLimits,List.mem_map]
  simp only [List.mem_filter,Bool.and_eq_true,decide_eq_true_eq,Option.bind_eq_some_iff,
    Option.map_eq_some_iff,Table.find?_eq_some]
  constructor
  · rintro ⟨row,⟨hrow,⟨hlimit,htoken⟩,hepoch⟩,hsame⟩
    obtain ⟨rfl,rfl⟩ := Prod.mk.inj hsame
    exact ⟨⟨row,⟨row.epoch,hepoch.symm,hrow,rfl⟩,rfl⟩,htoken,hlimit⟩
  · rintro ⟨⟨row,⟨epoch,hepoch,hrow,hkey⟩,rfl⟩,htoken,hlimit⟩
    obtain ⟨rfl,rfl⟩ := Prod.mk.inj hkey
    exact ⟨row,⟨hrow,⟨hlimit,htoken⟩,hepoch.symm⟩,rfl⟩

end limits

section flows
variable {passes : List (Pass sdk)} {tokens : List String} {db : Db}
  (hpasses : execute Transactions.commit (Db.empty tokens) passes = some db)
include hpasses

lemma mem_keys_flows {token : String} {epoch : Int32} :
    (token,epoch) ∈ db.ibcTokenFlows.keys ↔
      ∃ pass ∈ passes, pass.epoch.toInt32 = epoch ∧ ∃ flow ∈ pass.flows, flow.2.1 = token := by
  rw [Transactions.mem_keys_run hpasses]
  simp [Db.empty]

lemma maxFlowEpoch_eq : maxFlowEpoch db = lastFlowEpoch passes := by
  refine max?_congr fun epoch => ?_
  rw [List.mem_map,List.mem_map]
  constructor
  · rintro ⟨row,hrow,rfl⟩
    obtain ⟨pass,hpass,hepoch,flow,hflow,-⟩ := (mem_keys_flows hpasses).mp (Table.key_mem_keys hrow)
    exact ⟨pass,List.mem_filter.mpr ⟨hpass,decide_eq_true (List.ne_nil_of_mem hflow)⟩,hepoch⟩
  · rintro ⟨pass,hpass,rfl⟩
    obtain ⟨hpass,hflows⟩ := List.mem_filter.mp hpass
    obtain ⟨flow,hflow⟩ := List.exists_mem_of_ne_nil _ (of_decide_eq_true hflows)
    obtain ⟨row,hrow,hkey⟩ := Table.mem_keys.mp
      ((mem_keys_flows hpasses).mpr ⟨pass,hpass,rfl,flow,hflow,rfl⟩)
    exact ⟨row,hrow,congrArg Prod.snd hkey⟩

lemma storedAt_eq_flowed (action : IbcTokenAction) (token : String) (epoch : Int32) :
    storedAt action (token,epoch) db = flowed action token epoch passes := by
  have hsum : ∀ passes : List (Pass sdk),
      (passes.map (Transactions.addedAt action (token,epoch))).sum =
        (flowed action token epoch passes : ℚ) := by
    intro passes
    induction passes with
    | nil => rfl
    | cons pass passes ih =>
      rw [List.map_cons,List.sum_cons,ih,Transactions.addedAt,flowed,flowed]
      by_cases hepoch : pass.epoch.toInt32 = epoch <;> simp [hepoch]
  rw [Transactions.storedAt_run action _ hpasses,hsum]
  simp [storedAt,Db.empty,Table.find?]

lemma find?_flow (token : String) (epoch : Int32) :
    (db.ibcTokenFlows.find? (token,epoch)).map (fun row => (row.withdraw.value,row.deposit.value)) =
      if passes.any fun pass =>
        pass.epoch.toInt32 = epoch ∧ pass.flows.any fun flow => flow.2.1 = token
      then some (flowed .withdraw token epoch passes,flowed .deposit token epoch passes)
      else none := by
  have hkey : (token,epoch) ∈ db.ibcTokenFlows.keys ↔ _ := mem_keys_flows hpasses
  cases hrow : db.ibcTokenFlows.find? (token,epoch) with
  | none =>
    have hnone := mt hkey.mpr (Table.find?_eq_none.mp hrow)
    rw [if_neg (by simpa using hnone)]
    rfl
  | some row =>
    obtain ⟨hmem,hsame⟩ := Table.find?_eq_some.mp hrow
    have hsome := hkey.mp (hsame ▸ Table.key_mem_keys hmem)
    have hamount := fun action => (Transactions.mem_rows_iff.mp hmem).2 action
    rw [hsame] at hamount
    have hwithdraw := (hamount .withdraw).trans (storedAt_eq_flowed hpasses .withdraw token epoch)
    have hdeposit := (hamount .deposit).trans (storedAt_eq_flowed hpasses .deposit token epoch)
    rw [if_pos (by simpa using hsome)]
    refine congrArg some (Prod.ext ?_ ?_)
    · exact Int.cast_injective hwithdraw
    · exact Int.cast_injective hdeposit

lemma flowOfLastEpoch_eq (token : String) :
    flowOfLastEpoch passes token = ((maxFlowEpoch db).bind fun epoch =>
      db.ibcTokenFlows.find? (token,epoch)).map fun row =>
        (row.withdraw.value,row.deposit.value) := by
  rw [maxFlowEpoch_eq hpasses,flowOfLastEpoch,Option.map_bind]
  exact congrArg _ (funext fun epoch => (find?_flow hpasses token epoch).symm)

lemma mem_findTokenFlows {matchingTokenAddress : Option String} {token : String}
    {flow : ℤ × ℤ} :
    (token,flow) ∈ findTokenFlows db matchingTokenAddress ↔
      flowOfLastEpoch passes token = some flow ∧ Fits matchingTokenAddress token := by
  rw [flowOfLastEpoch_eq hpasses,findTokenFlows,List.mem_map]
  simp only [List.mem_filter,Bool.and_eq_true,decide_eq_true_eq,Option.bind_eq_some_iff,
    Option.map_eq_some_iff,Table.find?_eq_some]
  constructor
  · rintro ⟨row,⟨hrow,htoken,hepoch⟩,hsame⟩
    obtain ⟨rfl,rfl⟩ := Prod.mk.inj hsame
    exact ⟨⟨row,⟨row.epoch,hepoch.symm,hrow,rfl⟩,rfl⟩,htoken⟩
  · rintro ⟨⟨row,⟨epoch,hepoch,hrow,hkey⟩,rfl⟩,htoken⟩
    obtain ⟨rfl,rfl⟩ := Prod.mk.inj hkey
    exact ⟨row,⟨hrow,htoken,hepoch.symm⟩,rfl⟩

end flows

/-- The rows of one token at one epoch, which the key singles out. -/
lemma filter_at_epoch {ρ : Type} {address : ρ → String} {epoch : ρ → Int32}
    (t : Table fun row => (address row,epoch row)) (token : String) (last : Option Int32) :
    t.rows.filter (fun row => decide (address row = token) && decide (some (epoch row) = last)) =
      (last.bind fun last => t.find? (token,last)).toList := by
  cases last with
  | none => simp
  | some last =>
    rw [Option.bind_some,←Table.filter_key]
    refine List.filter_congr fun row _ => ?_
    rw [←Bool.decide_and]
    exact decide_eq_decide.mpr (by simp)

lemma findTokenThroughput_eq (db : ChainDb) (flowsDb : Db) (token : String) :
    findTokenThroughput db flowsDb token =
      (match (maxFlowEpoch flowsDb).bind fun epoch => flowsDb.ibcTokenFlows.find? (token,epoch),
          (maxLimitEpoch db).bind fun epoch => db.ibcRateLimits.find? (token,epoch) with
        | some flow,some limit =>
          .ok (|flow.withdraw.value - flow.deposit.value|,limit.throughputLimit)
        | _,_ => .error "Record not found") := by
  have hrows := filter_innerJoin (fun flow limit => decide (flow.address = limit.address))
    (fun flow : IbcTokenFlowsDb => decide (flow.address = token) &&
      decide (some flow.epoch = maxFlowEpoch flowsDb))
    (fun limit : IbcRateLimitsDb => decide (some limit.epoch = maxLimitEpoch db))
    flowsDb.ibcTokenFlows.rows db.ibcRateLimits.rows
  have hflows : flowsDb.ibcTokenFlows.rows.filter (fun flow => decide (flow.address = token) &&
      decide (some flow.epoch = maxFlowEpoch flowsDb)) =
      ((maxFlowEpoch flowsDb).bind fun epoch =>
        flowsDb.ibcTokenFlows.find? (token,epoch)).toList :=
    filter_at_epoch flowsDb.ibcTokenFlows token _
  rw [hflows] at hrows
  unfold findTokenThroughput
  dsimp only
  rw [hrows]
  cases hflow : (maxFlowEpoch flowsDb).bind fun epoch =>
      flowsDb.ibcTokenFlows.find? (token,epoch) with
  | none => rfl
  | some flow =>
    obtain ⟨epoch,-,hfind⟩ := Option.bind_eq_some_iff.mp hflow
    have htoken : flow.address = token := congrArg Prod.fst (Table.find?_eq_some.mp hfind).2
    have hlimits : (db.ibcRateLimits.rows.filter fun limit =>
        decide (some limit.epoch = maxLimitEpoch db)).filter
          (fun limit => decide (flow.address = limit.address)) =
        ((maxLimitEpoch db).bind fun epoch => db.ibcRateLimits.find? (token,epoch)).toList := by
      rw [List.filter_filter,htoken]
      refine Eq.trans (List.filter_congr fun row _ => ?_)
        (filter_at_epoch db.ibcRateLimits token (maxLimitEpoch db))
      rw [decide_eq_decide.mpr (eq_comm (a := token))]
    rw [innerJoin,Option.toList_some,List.flatMap_singleton,hlimits]
    cases (maxLimitEpoch db).bind fun epoch => db.ibcRateLimits.find? (token,epoch) <;> rfl

lemma parseU64_eq_returns {n : ℤ} {u : UInt64} : parseU64 n = .returns u ↔ (u.toNat : ℤ) = n := by
  have hlt := u.toNat_lt
  unfold parseU64
  split
  · rename_i hfits
    rw [Panicking.expect_some,Panicking.returns.injEq]
    constructor
    · rintro rfl
      have hmod : (UInt64.ofNat n.toNat).toNat = n.toNat % 2^64 := UInt64.toNat_ofNat'
      omega
    · rintro rfl
      rw [Int.toNat_natCast,UInt64.ofNat_toNat]
  · rename_i hlarge
    refine iff_of_false (by simp) ?_
    rintro rfl
    exact hlarge ⟨by omega,by omega⟩

lemma returns_parseU64_iff {n : ℤ} : (parseU64 n).Returns ↔ 0 ≤ n ∧ n < 2^64 := by
  rw [parseU64,Panicking.returns_expect_iff]
  split
  · rename_i hfits
    exact iff_of_true ⟨_,rfl⟩ hfits
  · rename_i hlarge
    exact iff_of_false (by simp) hlarge

lemma limitShown_eq_returns {row : String × Amount} {id : Id} {limit : UInt64} :
    limitShown row = .returns (id,limit) ↔ id = .account row.1 ∧ limit.toNat = row.2.val := by
  rw [limitShown,Panicking.bind_eq_returns]
  simp only [parseU64_eq_returns,Nat.cast_inj]
  constructor
  · rintro ⟨parsed,hparsed,hsame⟩
    obtain ⟨rfl,rfl⟩ := Prod.mk.inj (Panicking.returns.inj hsame)
    exact ⟨rfl,hparsed⟩
  · rintro ⟨rfl,hparsed⟩
    exact ⟨limit,hparsed,rfl⟩

lemma returns_limitShown_iff {row : String × Amount} :
    (limitShown row).Returns ↔ row.2.val < 2^64 := by
  rw [limitShown,Panicking.returns_bind_iff]
  constructor
  · rintro ⟨parsed,hparsed,-⟩
    have := (returns_parseU64_iff.mp ⟨parsed,hparsed⟩).2
    exact_mod_cast this
  · intro hfits
    obtain ⟨parsed,hparsed⟩ := returns_parseU64_iff.mpr
      ⟨Int.natCast_nonneg _,by exact_mod_cast hfits⟩
    exact ⟨parsed,hparsed,Panicking.returns_returns _⟩

lemma flowShown_eq_returns {row : String × ℤ × ℤ} {id : Id} {withdraw deposit : UInt64} :
    flowShown row = .returns (id,withdraw,deposit) ↔
      id = .account row.1 ∧ ((withdraw.toNat : ℤ),(deposit.toNat : ℤ)) = row.2 := by
  rw [flowShown]
  simp only [Panicking.bind_eq_returns,parseU64_eq_returns]
  constructor
  · rintro ⟨parsed,hparsed,parsed',hparsed',hsame⟩
    obtain ⟨rfl,hpair⟩ := Prod.mk.inj (Panicking.returns.inj hsame)
    obtain ⟨rfl,rfl⟩ := Prod.mk.inj hpair
    exact ⟨rfl,Prod.ext hparsed hparsed'⟩
  · rintro ⟨rfl,hsame⟩
    exact ⟨withdraw,congrArg Prod.fst hsame,deposit,congrArg Prod.snd hsame,rfl⟩

lemma returns_flowShown_iff {row : String × ℤ × ℤ} :
    (flowShown row).Returns ↔
      (0 ≤ row.2.1 ∧ row.2.1 < 2^64) ∧ 0 ≤ row.2.2 ∧ row.2.2 < 2^64 := by
  rw [flowShown,←returns_parseU64_iff,←returns_parseU64_iff,Panicking.returns_bind_iff]
  simp only [Panicking.returns_bind_iff]
  constructor
  · rintro ⟨parsed,hparsed,parsed',hparsed',-⟩
    exact ⟨⟨parsed,hparsed⟩,parsed',hparsed'⟩
  · rintro ⟨⟨parsed,hparsed⟩,parsed',hparsed'⟩
    exact ⟨parsed,hparsed,parsed',hparsed',Panicking.returns_returns _⟩

/-- Whatever both crawlers have committed, the limits and the flows that are listed are those of the
last epoch that each table knows, as far as a request asks for them. The answer panics where one of
them does not fit. -/
theorem ibc_rows_shown (ctx : Context) (transactions : List Pos.Transaction) (db : StakingDb)
    (hrun : execute (Pos.Transaction.step ctx) .empty transactions = some db)
    (tokens : List String) (passes : List (Pass sdk)) (flowsDb : Db)
    (hpasses : execute Transactions.commit (Db.empty tokens) passes = some flowsDb)
    (matchingTokenAddress : Option String) (matchingRateLimit : Option UInt64) :
    ((getThroughputLimits db.chain matchingTokenAddress matchingRateLimit).Returns ↔
      ∀ token limit, limitOfLastEpoch transactions token = some limit →
        Fits matchingTokenAddress token → Fits (matchingRateLimit.map UInt64.toNat) limit.val →
          limit.val < 2^64) ∧
    (∀ shown, getThroughputLimits db.chain matchingTokenAddress matchingRateLimit = .returns shown →
      ∀ id shownLimit, (id,shownLimit) ∈ shown ↔ ∃ token limit, id = .account token ∧
        limitOfLastEpoch transactions token = some limit ∧ Fits matchingTokenAddress token ∧
          Fits (matchingRateLimit.map UInt64.toNat) limit.val ∧ shownLimit.toNat = limit.val) ∧
    ((getTokenFlows flowsDb matchingTokenAddress).Returns ↔
      ∀ token withdraw deposit, flowOfLastEpoch passes token = some (withdraw,deposit) →
        Fits matchingTokenAddress token →
          (0 ≤ withdraw ∧ withdraw < 2^64) ∧ 0 ≤ deposit ∧ deposit < 2^64) ∧
    ∀ shown, getTokenFlows flowsDb matchingTokenAddress = .returns shown →
      ∀ id withdraw deposit, (id,withdraw,deposit) ∈ shown ↔ ∃ token, id = .account token ∧
        flowOfLastEpoch passes token = some ((withdraw.toNat : ℤ),(deposit.toNat : ℤ)) ∧
          Fits matchingTokenAddress token := by
  refine ⟨?_,?_,?_,?_⟩
  · rw [getThroughputLimits,Panicking.returns_mapM_iff]
    simp only [Prod.forall,mem_findThroughputLimits hrun,returns_limitShown_iff,and_imp]
  · intro shown hshown id shownLimit
    rw [Panicking.mem_of_mapM_returns hshown]
    simp only [Prod.exists,mem_findThroughputLimits hrun,limitShown_eq_returns]
    refine exists_congr fun token => exists_congr fun limit => ?_
    rw [and_comm,and_assoc,and_comm (a := shownLimit.toNat = limit.val),and_assoc,and_assoc]
  · rw [getTokenFlows,Panicking.returns_mapM_iff]
    simp only [Prod.forall,mem_findTokenFlows hpasses,returns_flowShown_iff,and_imp]
  · intro shown hshown id withdraw deposit
    rw [Panicking.mem_of_mapM_returns hshown]
    constructor
    · rintro ⟨⟨token,flow⟩,hmem,hshown⟩
      obtain ⟨hflow,hfits⟩ := (mem_findTokenFlows hpasses).mp hmem
      obtain ⟨hid,rfl⟩ := flowShown_eq_returns.mp hshown
      exact ⟨token,hid,hflow,hfits⟩
    · rintro ⟨token,hid,hflow,hfits⟩
      exact ⟨(token,_),(mem_findTokenFlows hpasses).mpr ⟨hflow,hfits⟩,
        flowShown_eq_returns.mpr ⟨hid,rfl⟩⟩

/-- An initial query that finds one token and its limit. -/
def limitData : Chain.InitialData :=
  { supplyData with
    tokens := [.native (.account "tnam1q0")]
    rateLimits := [⟨"tnam1q0",1,7⟩]
    tokenSupplies := []
    balances := [] }

/-- A packet is sent in one block and acknowledged in the next, which counts twice. -/
def twoBlocks : List (Pass Transactions.Sdk.fiveUnits) :=
  [eventsBlock 1 "b1" "i1" [packetEvent "send_packet"],
    eventsBlock 2 "b2" "i2" [transferEvent ("acknowledgement","result:AQ==")]]

lemma exists_limitData :
    ∃ db, execute (Pos.Transaction.step (Chain.sampleContext bondTx)) .empty
      [.initialQuery limitData] = some db :=
  Option.isSome_iff_exists.mp (by decide +kernel)

lemma exists_twoBlocks :
    ∃ db, execute Transactions.commit (Db.empty ["tnam1q0"]) twoBlocks = some db :=
  Option.isSome_iff_exists.mp (by decide +kernel)

theorem ibc_rows_shown_of_twoBlocks :
    ∃ db flowsDb, execute (Pos.Transaction.step (Chain.sampleContext bondTx)) .empty
        [.initialQuery limitData] = some db ∧
      execute Transactions.commit (Db.empty ["tnam1q0"]) twoBlocks = some flowsDb ∧
      ∀ shown, getTokenFlows flowsDb none = .returns shown → (.account "tnam1q0",10,0) ∈ shown := by
  obtain ⟨db,hrun⟩ := exists_limitData
  obtain ⟨flowsDb,hpasses⟩ := exists_twoBlocks
  obtain ⟨-,-,-,hflows⟩ := ibc_rows_shown (Chain.sampleContext bondTx) [.initialQuery limitData] db
    hrun ["tnam1q0"] twoBlocks flowsDb hpasses none none
  refine ⟨db,flowsDb,hrun,hpasses,fun shown hshown => (hflows shown hshown _ _ _).mpr ?_⟩
  exact ⟨"tnam1q0",rfl,by decide +kernel,rfl⟩

end

end NamadaIndexer.Webserver
