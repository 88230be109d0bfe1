import NamadaIndexer.Transactions.Acks
import Mathlib.Algebra.Order.BigOperators.Group.List

/-! The flow totals of a token against the transfers that its packets stand for. -/
namespace NamadaIndexer.Transactions
open NamadaIndexer.Foundation NamadaIndexer.Foundation.Runs NamadaIndexer.Shared

def flowAmount (action : IbcTokenAction) (flow : IbcTokenFlow) : ℚ :=
  match action with
  | .deposit => flow.deposit
  | .withdraw => flow.withdraw

def rowAmount (action : IbcTokenAction) (row : IbcTokenFlowsDb) : ℚ :=
  match action with
  | .deposit => row.deposit.value
  | .withdraw => row.withdraw.value

/-- The stored total of a token, over all epochs. -/
def total (action : IbcTokenAction) (token : String) (db : Db) : ℚ :=
  (db.ibcTokenFlows.rows.map fun row => if row.address = token then rowAmount action row else 0).sum

/-- What a list of flows counts for a token. -/
def counted (action : IbcTokenAction) (token : String)
    (flows : List (IbcTokenAction × String × ℚ)) : ℚ :=
  (flows.map fun flow => if flow.1 = action ∧ flow.2.1 = token then flow.2.2 else 0).sum

section
variable {sdk : Sdk} {action : IbcTokenAction} {token : String}

@[simp] theorem counted_append (flows flows' : List (IbcTokenAction × String × ℚ)) :
    counted action token (flows ++ flows') =
      counted action token flows + counted action token flows' := by
  simp [counted]

theorem counted_perm {flows flows' : List (IbcTokenAction × String × ℚ)} (h : flows.Perm flows') :
    counted action token flows = counted action token flows' :=
  (h.map _).sum_eq

/-- Amounts that are not negative count for nothing only if all are zero. -/
theorem counted_eq_zero_iff {flows : List (IbcTokenAction × String × ℚ)}
    (hnonneg : ∀ flow ∈ flows, 0 ≤ flow.2.2) :
    (∀ action token, counted action token flows = 0) ↔ ∀ flow ∈ flows, flow.2.2 = 0 := by
  constructor
  · intro h flow hflow
    have hterms : ∀ amount ∈ flows.map fun other =>
        if other.1 = flow.1 ∧ other.2.1 = flow.2.1 then other.2.2 else 0, 0 ≤ amount := by
      intro amount hamount
      obtain ⟨other,hother,rfl⟩ := List.mem_map.mp hamount
      split
      · exact hnonneg other hother
      · exact le_rfl
    have hzero := List.all_zero_of_le_zero_le_of_sum_eq_zero hterms (h flow.1 flow.2.1)
      (List.mem_map_of_mem hflow)
    rw [if_pos ⟨rfl,rfl⟩] at hzero
    exact hzero
  · intro h action token
    apply List.sum_eq_zero
    intro amount hamount
    obtain ⟨flow,hflow,rfl⟩ := List.mem_map.mp hamount
    simp [h flow hflow]

theorem foldlM_flowsMap (epoch : Epoch) (flows : List (IbcTokenAction × String × ℚ)) :
    (flows.map fun (action,token,amount) => IbcTokenFlow.new action token amount epoch).foldlM
      (Table.put addFlow) .empty = some (flowsMap epoch flows) :=
  Table.foldlM_put_eq_some_putTotal addFlow_total _ _

/-- The map of a block's flows counts what its events count. -/
theorem sum_flowsMap (epoch : Epoch) (flows : List (IbcTokenAction × String × ℚ)) :
    ((flowsMap epoch flows).rows.map fun flow =>
      if flow.address = token then flowAmount action flow else 0).sum =
        counted action token flows := by
  have hadd : ∀ {old new row}, old.address = new.address → addFlow.run old new = some row →
      (if row.address = token then flowAmount action row else 0) =
        (if old.address = token then flowAmount action old else 0) +
          (if new.address = token then flowAmount action new else 0) := by
    intro old new row hkey hrun
    cases hrun
    rw [←hkey]
    split
    · cases action <;> rfl
    · rw [add_zero]
  rw [Table.sum_foldlM_put hadd (foldlM_flowsMap epoch flows),Table.empty_rows,List.map_nil,
    List.sum_nil,zero_add,counted,List.map_map]
  congr 1
  apply List.map_congr_left
  rintro ⟨action',token',amount⟩ _
  cases action' <;> cases action <;> simp [IbcTokenFlow.new,flowAmount]

/-- The flows of a block are whole numbers if its events count whole amounts. -/
theorem flowsMap_whole (epoch : Epoch) {flows : List (IbcTokenAction × String × ℚ)}
    (hwhole : ∀ flow ∈ flows, ∃ n : ℕ, flow.2.2 = n) :
    ∀ flow ∈ (flowsMap epoch flows).rows, ∀ action, ∃ n : ℕ, flowAmount action flow = n := by
  refine Table.forall_rows_foldlM_put ?_ ?_ (by simp) (foldlM_flowsMap epoch flows)
  · intro old new row hrun hold hnew action
    cases hrun
    obtain ⟨n,hn⟩ := hold action
    obtain ⟨k,hk⟩ := hnew action
    refine ⟨n+k,?_⟩
    cases action <;> simp_all [flowAmount]
  · intro flow hflow action
    obtain ⟨⟨action',token',amount⟩,hmem,rfl⟩ := List.mem_map.mp hflow
    obtain ⟨n,hn⟩ := hwhole _ hmem
    have hn : amount = n := hn
    cases action' <;> cases action
    · exact ⟨n,hn⟩
    · exact ⟨0,by simp [IbcTokenFlow.new,flowAmount]⟩
    · exact ⟨0,by simp [IbcTokenFlow.new,flowAmount]⟩
    · exact ⟨n,hn⟩

/-- The row of a flow holds the rounded amounts. -/
theorem rowAmount_ofFlow (action : IbcTokenAction) {flow : IbcTokenFlow} {row : IbcTokenFlowsDb}
    (h : IbcTokenFlowsDb.ofFlow flow = some row) :
    row.address = flow.address ∧ rowAmount action row = roundHalfAway (flowAmount action flow) := by
  obtain ⟨deposit,hdeposit,h⟩ := Option.bind_eq_some_iff.mp h
  obtain ⟨withdraw,hwithdraw,h⟩ := Option.bind_eq_some_iff.mp h
  cases h
  refine ⟨rfl,?_⟩
  cases action with
  | deposit => exact congrArg (fun n : ℤ => (n : ℚ)) (Numeric.ofRat?_eq_some.mp hdeposit)
  | withdraw => exact congrArg (fun n : ℤ => (n : ℚ)) (Numeric.ofRat?_eq_some.mp hwithdraw)

/-- The rows of flows sum up to the rounded amounts. -/
theorem sum_ofFlow {flows : List IbcTokenFlow} {rows : List IbcTokenFlowsDb}
    (h : flows.mapM IbcTokenFlowsDb.ofFlow = some rows) :
    (rows.map fun row => if row.address = token then rowAmount action row else 0).sum =
      (flows.map fun flow =>
        if flow.address = token then (roundHalfAway (flowAmount action flow) : ℚ) else 0).sum := by
  congr 1
  apply map_of_mapM h
  intro flow _ row hrow
  obtain ⟨haddress,hamount⟩ := rowAmount_ofFlow action hrow
  rw [haddress,hamount]

theorem sum_rounded {flows : List IbcTokenFlow}
    (hwhole : ∀ flow ∈ flows, ∃ n : ℕ, flowAmount action flow = n) :
    (flows.map fun flow =>
      if flow.address = token then (roundHalfAway (flowAmount action flow) : ℚ) else 0).sum =
      (flows.map fun flow => if flow.address = token then flowAmount action flow else 0).sum := by
  congr 1
  apply List.map_congr_left
  intro flow hflow
  obtain ⟨n,hn⟩ := hwhole flow hflow
  have hcast : (n : ℚ) = ((n : ℤ) : ℚ) := by simp
  rw [hn,hcast,roundHalfAway_intCast]

/-- Adding a flow to a row adds its amounts. -/
lemma rowAmount_addToFlow (action : IbcTokenAction) {old new row : IbcTokenFlowsDb}
    (hrun : addToFlow.run old new = some row) :
    rowAmount action row = rowAmount action old + rowAmount action new := by
  obtain ⟨deposit,hdeposit,hrun⟩ := Option.bind_eq_some_iff.mp hrun
  obtain ⟨withdraw,hwithdraw,hrun⟩ := Option.bind_eq_some_iff.mp hrun
  cases hrun
  cases action
  · simp only [rowAmount]
    exact_mod_cast Numeric.add?_eq_some.mp hdeposit
  · simp only [rowAmount]
    exact_mod_cast Numeric.add?_eq_some.mp hwithdraw

/-- Adding flows adds their amounts to the total of a token. -/
theorem total_upsert {db db' : Db} {rows : List IbcTokenFlowsDb}
    (h : Table.upsert addToFlow db.ibcTokenFlows rows = some db'.ibcTokenFlows) :
    total action token db' = total action token db +
      (rows.map fun row => if row.address = token then rowAmount action row else 0).sum := by
  have hadd : ∀ {old new row : IbcTokenFlowsDb}, old.key = new.key →
      addToFlow.run old new = some row →
      (if row.address = token then rowAmount action row else 0) =
        (if old.address = token then rowAmount action old else 0) +
          (if new.address = token then rowAmount action new else 0) := by
    intro old new row hkey hrun
    have hold : row.address = old.address := congrArg Prod.fst (addToFlow.key_run hrun)
    have hnew : old.address = new.address := congrArg Prod.fst hkey
    rw [hold,←hnew]
    split
    · exact rowAmount_addToFlow action hrun
    · rw [add_zero]
  rw [total,Table.sum_upsert hadd h,total]

/-- A stored block adds to the total of a token what its events count. -/
theorem total_stored {pass : Pass sdk} {db db' : Db} (h : commit db pass = some db')
    (hwhole : ∀ flow ∈ getIbcTokenFlows sdk pass.crawled.blockResults, ∃ n : ℕ, flow.2.2 = n) :
    total action token db' = total action token db +
      counted action token (getIbcTokenFlows sdk pass.crawled.blockResults) := by
  obtain ⟨rows,hrows,-,hupsert⟩ := (commit_eq_some.mp h).ibcTokenFlows
  have hperm := pass.crawled.flows_perm
  have hflows : ∀ flow ∈ pass.crawled.ibcTokenFlows, ∃ n : ℕ, flowAmount action flow = n :=
    fun flow hflow => flowsMap_whole _ hwhole flow (hperm.mem_iff.mp hflow) action
  rw [total_upsert hupsert,sum_ofFlow hrows,sum_rounded hflows,(hperm.map _).sum_eq,sum_flowsMap]

/-- Over a run, the total of a token grows by what all events count. -/
theorem total_run {passes : List (Pass sdk)} {db db' : Db}
    (h : execute commit db passes = some db')
    (hwhole : ∀ pass ∈ passes, ∀ flow ∈ getIbcTokenFlows sdk pass.crawled.blockResults,
      ∃ n : ℕ, flow.2.2 = n) :
    total action token db' = total action token db + counted action token
      (passes.flatMap fun pass => getIbcTokenFlows sdk pass.crawled.blockResults) := by
  induction passes generalizing db with
  | nil => cases h; simp [counted]
  | cons pass passes ih =>
    obtain ⟨mid,hmid,hrest⟩ := execute_cons_eq_some.mp h
    have hlater := ih hrest fun pass hpass => hwhole pass (List.mem_cons_of_mem _ hpass)
    rw [hlater,total_stored hmid (hwhole pass List.mem_cons_self),List.flatMap_cons,
      counted_append,add_assoc]

/-- The flow that is read off an event of the node. -/
def rawFlow (sdk : Sdk) (event : RawEvent) : Option (IbcTokenAction × String × ℚ) :=
  match TxAttributesType.deserialize sdk (.ofString event.kind) event.attributes with
  | .returns attributes => attributes.bind (flowOf sdk)
  | .panics _ => none

theorem ofRaw_flow {event : RawEvent} {e : Event} (h : Event.ofRaw sdk event = .returns e) :
    e.attributes.bind (flowOf sdk) = rawFlow sdk event := by
  unfold Event.ofRaw at h
  unfold rawFlow
  cases hattributes :
      TxAttributesType.deserialize sdk (.ofString event.kind) event.attributes with
  | panics message => simp [hattributes] at h
  | returns attributes =>
    cases hhash : Panicking.expect "parsing the inner tx hash shouldn't fail"
        (sdk.readInnerTxHash event.attributes) with
    | panics message => simp [hattributes,hhash] at h
    | returns hash =>
      simp only [hattributes,hhash,Panicking.returns_bind,Panicking.pure_eq] at h
      cases h
      rfl

/-- The flows of a block are read off the events of the node. -/
theorem getIbcTokenFlows_ofResponse {events : List RawEvent} {results : BlockResult}
    (h : BlockResult.ofResponse sdk events = .returns results) :
    getIbcTokenFlows sdk results = events.filterMap (rawFlow sdk) := by
  obtain ⟨parsed,hparsed,hresults⟩ := Panicking.map_eq_returns.mp h
  cases hresults
  clear h
  unfold getIbcTokenFlows
  induction events generalizing parsed with
  | nil =>
    cases hparsed
    rfl
  | cons event events ih =>
    rw [List.mapM_cons] at hparsed
    obtain ⟨e,he,hparsed⟩ := Panicking.bind_eq_returns.mp hparsed
    obtain ⟨rest,hrest,hparsed⟩ := Panicking.bind_eq_returns.mp hparsed
    cases hparsed
    have hlater := ih rest hrest
    simp only [List.filterMap_cons,ofRaw_flow he] at hlater ⊢
    rw [hlater]

end

/-- A packet with the fungible token transfer that it carries. -/
structure IcsTransfer (sdk : Sdk) where
  packet : IbcPacket
  transfer : FungibleTokenPacket
  carried : packet.asFungibleTokenPacket sdk = some transfer

/-- How an outgoing packet ends: with an acknowledgement of either kind, or with a timeout. -/
inductive Outcome
  | success
  | error
  | timeout
  deriving DecidableEq, Repr

inductive Lifecycle (sdk : Sdk)
  | outgoing (t : IcsTransfer sdk) (outcome : Outcome)
  | incoming (t : IcsTransfer sdk) (success : Bool)

section
variable {sdk : Sdk}

/-- The attributes by which an event spells a transfer out. -/
structure Describes (sdk : Sdk) (transfer : FungibleTokenPacket) (attributes : Attributes) :
    Prop where
  sender : attributes.get "sender" = some transfer.sender
  receiver : attributes.get "receiver" = some transfer.receiver
  denom : attributes.get "denom" = some transfer.denom
  memo : attributes.get "memo" = some transfer.memo
  amount : (attributes.get "amount").bind sdk.bigDecimalFromStr = some transfer.amount

/-- The first event of a packet. -/
def Opens : Lifecycle sdk → RawEvent → Prop
  | .outgoing t _,event =>
    event.kind = "send_packet" ∧ TxAttributesType.ibcPacketOf event.attributes = .returns t.packet
  | .incoming t _,event =>
    event.kind = "recv_packet" ∧ TxAttributesType.ibcPacketOf event.attributes = .returns t.packet

/-- The last event of a packet: the transfer application reports how it went. -/
def Closes : Lifecycle sdk → RawEvent → Prop
  | .outgoing _ .timeout,event => event.kind = "timeout"
  | .outgoing t outcome,event =>
    event.kind = "fungible_token_packet" ∧ Describes sdk t.transfer event.attributes ∧
      event.attributes.get "success" = none ∧ ∃ acknowledgement,
        event.attributes.get "acknowledgement" = some acknowledgement ∧
          TxAttributesType.startsWithResult acknowledgement = (outcome == .success)
  | .incoming t success,event =>
    event.kind = "fungible_token_packet" ∧ Describes sdk t.transfer event.attributes ∧
      ∃ text, event.attributes.get "success" = some text ∧
        (success = true ↔ text = "\u0001" ∨ text = "true")

def Emits (l : Lifecycle sdk) (events : List RawEvent) : Prop :=
  ∃ opening closing, events = [opening,closing] ∧ Opens l opening ∧ Closes l closing

/-- Events that tell of no transfer: those of other kinds, those of packets that carry none,
and those by which the transfer application repeats only how an acknowledgement went. -/
def Silent (sdk : Sdk) (event : RawEvent) : Prop :=
  match event.kind with
  | "send_packet" | "recv_packet" => ∀ packet,
    TxAttributesType.ibcPacketOf event.attributes = .returns packet →
      packet.asFungibleTokenPacket sdk = none
  | "fungible_token_packet" => event.attributes.get "sender" = none
  | _ => True

/-- The token that a packet brings in. -/
def IcsTransfer.receivedToken (t : IcsTransfer sdk) : Option String :=
  ibcDenomReceived sdk t.transfer.denom t.packet.sourcePort t.packet.sourceChannel
    t.packet.destPort t.packet.destChannel

namespace Lifecycle

/-- What a transfer would move, if it goes through. -/
def movement : Lifecycle sdk → List (IbcTokenAction × String × ℚ)
  | .outgoing t _ => [(.withdraw,ibcDenomSent sdk t.transfer.denom,t.transfer.amount)]
  | .incoming t _ =>
    (t.receivedToken.map fun token => (.deposit,token,t.transfer.amount)).toList

def completed : Lifecycle sdk → Bool
  | .outgoing _ outcome => outcome == .success
  | .incoming _ success => success

/-- What a transfer has to be counted for. -/
def due (l : Lifecycle sdk) : List (IbcTokenAction × String × ℚ) :=
  if l.completed then l.movement else []

/-- What the events of a transfer count beyond that: every outgoing one is counted when it is
sent, and once more when it is acknowledged, and every incoming one when it is received. -/
def surplus : Lifecycle sdk → List (IbcTokenAction × String × ℚ)
  | .outgoing t outcome => (outgoing t outcome).movement
  | .incoming t success => if success then [] else (incoming t success).movement

/-- Whether a transfer gives the events nothing to count beyond what is due. -/
def Exact : Lifecycle sdk → Prop
  | .outgoing t _ => t.transfer.amount = 0
  | .incoming t success => success = true ∨ t.receivedToken = none ∨ t.transfer.amount = 0

end Lifecycle

theorem IcsTransfer.amount_whole (t : IcsTransfer sdk) : ∃ n : ℕ, t.transfer.amount = n := by
  obtain ⟨data,-,h⟩ := Option.bind_eq_some_iff.mp t.carried
  obtain ⟨amount,-,h⟩ := Option.bind_eq_some_iff.mp h
  have htransfer := Option.some.inj h
  exact ⟨amount.val,by rw [←htransfer]⟩

namespace Lifecycle

theorem movement_whole (l : Lifecycle sdk) : ∀ flow ∈ l.movement, ∃ n : ℕ, flow.2.2 = n := by
  intro flow hflow
  cases l with
  | outgoing t outcome =>
    rw [movement,List.mem_singleton] at hflow
    rw [hflow]
    exact t.amount_whole
  | incoming t success =>
    obtain ⟨token,-,rfl⟩ := Option.map_eq_some_iff.mp (Option.mem_toList.mp hflow)
    exact t.amount_whole

theorem due_whole (l : Lifecycle sdk) : ∀ flow ∈ l.due, ∃ n : ℕ, flow.2.2 = n := by
  unfold due
  split
  · exact l.movement_whole
  · simp

theorem surplus_whole (l : Lifecycle sdk) : ∀ flow ∈ l.surplus, ∃ n : ℕ, flow.2.2 = n := by
  cases l with
  | outgoing t outcome => exact movement_whole (outgoing t outcome)
  | incoming t success =>
    cases success with
    | true => simp [surplus]
    | false => exact movement_whole (incoming t false)

theorem exact_iff (l : Lifecycle sdk) : l.Exact ↔ ∀ flow ∈ l.surplus, flow.2.2 = 0 := by
  cases l with
  | outgoing t outcome => simp [Exact,surplus,movement]
  | incoming t success =>
    cases success with
    | true => simp [Exact,surplus]
    | false => cases htoken : t.receivedToken <;> simp [Exact,surplus,movement,htoken]

end Lifecycle

theorem opening_flow {l : Lifecycle sdk} {event : RawEvent} (h : Opens l event) :
    (rawFlow sdk event).toList = l.movement := by
  cases l with
  | outgoing t outcome =>
    obtain ⟨hkind,hpacket⟩ := h
    simp [rawFlow,hkind,EventKind.ofString,TxAttributesType.deserialize,hpacket,flowOf,
      TxAttributesType.asFungibleTokenPacket,t.carried,Lifecycle.movement]
  | incoming t success =>
    obtain ⟨hkind,hpacket⟩ := h
    have hread : rawFlow sdk event =
        t.receivedToken.map fun token => (.deposit,token,t.transfer.amount) := by
      simp [rawFlow,hkind,EventKind.ofString,TxAttributesType.deserialize,hpacket,flowOf,
        TxAttributesType.asFungibleTokenPacket,t.carried,IcsTransfer.receivedToken]
      exact (Option.map_eq_bind).symm
    rw [hread,Lifecycle.movement]

theorem fungibleTokenPacketOf_describes {transfer : FungibleTokenPacket} {attributes : Attributes}
    (h : Describes sdk transfer attributes) :
    TxAttributesType.fungibleTokenPacketOf sdk attributes =
      some (.fungibleTokenPacket (TxAttributesType.ackStatus attributes).1
        (TxAttributesType.ackStatus attributes).2 transfer) := by
  obtain ⟨text,htext,hamount⟩ := Option.bind_eq_some_iff.mp h.amount
  simp [TxAttributesType.fungibleTokenPacketOf,h.sender,h.receiver,h.denom,h.memo,htext,hamount]

/-- A report of the transfer application is counted if it acknowledges a success. -/
theorem report_flow {event : RawEvent} {transfer : FungibleTokenPacket} {isAck success : Bool}
    (hkind : event.kind = "fungible_token_packet")
    (hdescribes : Describes sdk transfer event.attributes)
    (hstatus : TxAttributesType.ackStatus event.attributes = (isAck,success)) :
    (rawFlow sdk event).toList =
      if isAck && success then [(.withdraw,ibcDenomSent sdk transfer.denom,transfer.amount)]
      else [] := by
  simp only [rawFlow,hkind,EventKind.ofString,TxAttributesType.deserialize,
    fungibleTokenPacketOf_describes hdescribes,hstatus]
  cases isAck <;> cases success <;> rfl

theorem closing_flow {l : Lifecycle sdk} {event : RawEvent} (h : Closes l event) :
    (rawFlow sdk event).toList =
      match l with
      | .outgoing _ .success => l.movement
      | _ => [] := by
  cases l with
  | outgoing t outcome =>
    cases outcome with
    | timeout =>
      have hkind : event.kind = "timeout" := h
      simp [rawFlow,hkind,EventKind.ofString,TxAttributesType.deserialize]
    | success =>
      obtain ⟨hkind,hdescribes,hsuccess,acknowledgement,htext,hresult⟩ := h
      have hstatus : TxAttributesType.ackStatus event.attributes = (true,true) := by
        simp [TxAttributesType.ackStatus,hsuccess,htext,hresult]
      rw [report_flow hkind hdescribes hstatus]
      rfl
    | error =>
      obtain ⟨hkind,hdescribes,hsuccess,acknowledgement,htext,hresult⟩ := h
      have hstatus : TxAttributesType.ackStatus event.attributes = (true,false) := by
        simp [TxAttributesType.ackStatus,hsuccess,htext,hresult]
      rw [report_flow hkind hdescribes hstatus]
      rfl
  | incoming t success =>
    obtain ⟨hkind,hdescribes,text,htext,hsuccess⟩ := h
    have hreads : (text == "\u0001" || text == "true") = success := by
      rw [Bool.eq_iff_iff,hsuccess]
      simp
    have hstatus : TxAttributesType.ackStatus event.attributes = (false,success) := by
      simp only [TxAttributesType.ackStatus,htext,hreads]
    rw [report_flow hkind hdescribes hstatus]
    rfl

theorem other_flow (sdk : Sdk) {kind : EventKind} (attributes : Attributes)
    (hsend : kind ≠ .ibcCore .send) (hrecv : kind ≠ .ibcCore .recv)
    (hfungible : kind ≠ .fungibleTokenPacket) :
    (match TxAttributesType.deserialize sdk kind attributes with
      | .returns attributes => attributes.bind (flowOf sdk)
      | .panics _ => none) = none := by
  cases kind with
  | unknown => rfl
  | fungibleTokenPacket => contradiction
  | ibcCore kind =>
    cases kind with
    | send => contradiction
    | recv => contradiction
    | ack => rfl
    | timeout => rfl
  | applied =>
    unfold TxAttributesType.deserialize
    cases TxAttributesType.txAppliedOf sdk attributes <;> rfl
  | maspFeePayment =>
    unfold TxAttributesType.deserialize
    cases TxAttributesType.maspTxDataOf sdk attributes <;> rfl
  | maspTransfer =>
    unfold TxAttributesType.deserialize
    cases TxAttributesType.maspTxDataOf sdk attributes <;> rfl

theorem silentPacket_flow {event : RawEvent}
    (hkind : event.kind = "send_packet" ∨ event.kind = "recv_packet")
    (h : ∀ packet, TxAttributesType.ibcPacketOf event.attributes = .returns packet →
      packet.asFungibleTokenPacket sdk = none) : rawFlow sdk event = none := by
  cases hpacket : TxAttributesType.ibcPacketOf event.attributes with
  | panics message =>
    obtain hkind | hkind := hkind <;>
      simp [rawFlow,hkind,EventKind.ofString,TxAttributesType.deserialize,hpacket]
  | returns packet =>
    obtain hkind | hkind := hkind <;>
      simp [rawFlow,hkind,EventKind.ofString,TxAttributesType.deserialize,hpacket,flowOf,
        TxAttributesType.asFungibleTokenPacket,h packet hpacket]

theorem silent_flow {event : RawEvent} (h : Silent sdk event) : rawFlow sdk event = none := by
  unfold Silent at h
  split at h
  · rename_i hkind
    exact silentPacket_flow (.inl hkind) h
  · rename_i hkind
    exact silentPacket_flow (.inr hkind) h
  · rename_i hkind
    simp [rawFlow,hkind,EventKind.ofString,TxAttributesType.deserialize,
      TxAttributesType.fungibleTokenPacketOf,h]
  · rename_i hsend hrecv hfungible
    have hkind : EventKind.ofString event.kind ≠ .ibcCore .send ∧
        EventKind.ofString event.kind ≠ .ibcCore .recv ∧
        EventKind.ofString event.kind ≠ .fungibleTokenPacket := by
      unfold EventKind.ofString
      split <;> simp_all
    exact other_flow sdk event.attributes hkind.1 hkind.2.1 hkind.2.2

/-- The events of a transfer count what is due and the surplus. -/
theorem emits_flows {l : Lifecycle sdk} {events : List RawEvent} (h : Emits l events) :
    events.filterMap (rawFlow sdk) = l.due ++ l.surplus := by
  obtain ⟨opening,closing,rfl,hopens,hcloses⟩ := h
  have hboth : [opening,closing].filterMap (rawFlow sdk) =
      (rawFlow sdk opening).toList ++ (rawFlow sdk closing).toList := by
    simp only [List.filterMap_cons,List.filterMap_nil]
    cases rawFlow sdk opening <;> cases rawFlow sdk closing <;> rfl
  rw [hboth,opening_flow hopens,closing_flow hcloses]
  cases l with
  | outgoing t outcome => cases outcome <;> rfl
  | incoming t success =>
    cases success with
    | true => rfl
    | false => exact List.append_nil _

theorem emitted_flows {lifecycles : List (Lifecycle sdk)} {emitted : List (List RawEvent)}
    (h : List.Forall₂ Emits lifecycles emitted) :
    (emitted.flatten.filterMap (rawFlow sdk)).Perm
      (lifecycles.flatMap Lifecycle.due ++ lifecycles.flatMap Lifecycle.surplus) := by
  have hflows : emitted.flatten.filterMap (rawFlow sdk) =
      lifecycles.flatMap fun l => l.due ++ l.surplus := by
    induction h with
    | nil => rfl
    | cons hemits _ ih =>
      rw [List.flatten_cons,List.filterMap_append,emits_flows hemits,ih,List.flatMap_cons]
  rw [hflows]
  exact (List.flatMap_append_perm lifecycles Lifecycle.due Lifecycle.surplus).symm

/-- The events of a run are those of the lifecycles, in any order and over any of its blocks,
among others that tell of no transfer. -/
def Tells (lifecycles : List (Lifecycle sdk)) (passes : List (Pass sdk)) : Prop :=
  ∃ events emitted others,
    List.Forall₂ (fun raw (pass : Pass sdk) =>
      BlockResult.ofResponse sdk raw = .returns pass.crawled.blockResults) events passes ∧
    List.Forall₂ Emits lifecycles emitted ∧ (∀ event ∈ others, Silent sdk event) ∧
    events.flatten.Perm (emitted.flatten ++ others)

theorem tells_flows {lifecycles : List (Lifecycle sdk)} {passes : List (Pass sdk)}
    (h : Tells lifecycles passes) :
    (passes.flatMap fun pass => getIbcTokenFlows sdk pass.crawled.blockResults).Perm
      (lifecycles.flatMap Lifecycle.due ++ lifecycles.flatMap Lifecycle.surplus) := by
  obtain ⟨events,emitted,others,hread,hemitted,hsilent,hperm⟩ := h
  have hflows : (passes.flatMap fun pass => getIbcTokenFlows sdk pass.crawled.blockResults) =
      events.flatten.filterMap (rawFlow sdk) := by
    clear hperm
    induction hread with
    | nil => rfl
    | cons hraw _ ih =>
      rw [List.flatMap_cons,List.flatten_cons,List.filterMap_append,ih,
        getIbcTokenFlows_ofResponse hraw]
  have hothers : others.filterMap (rawFlow sdk) = [] := by
    rw [List.filterMap_eq_nil_iff]
    exact fun event hevent => silent_flow (hsilent event hevent)
  have hfilter := hperm.filterMap (rawFlow sdk)
  rw [List.filterMap_append,hothers,List.append_nil] at hfilter
  rw [hflows]
  exact hfilter.trans (emitted_flows hemitted)

/-- Over a run, the totals grow by what is due and by the surplus of every transfer. -/
theorem total_tells {lifecycles : List (Lifecycle sdk)} {passes : List (Pass sdk)} {db db' : Db}
    (hrun : execute commit db passes = some db') (htells : Tells lifecycles passes)
    (action : IbcTokenAction) (token : String) :
    total action token db' = total action token db +
      (counted action token (lifecycles.flatMap Lifecycle.due) +
        counted action token (lifecycles.flatMap Lifecycle.surplus)) := by
  have hflows := tells_flows htells
  have hwhole : ∀ pass ∈ passes, ∀ flow ∈ getIbcTokenFlows sdk pass.crawled.blockResults,
      ∃ n : ℕ, flow.2.2 = n := by
    intro pass hpass flow hflow
    have hmem := hflows.mem_iff.mp (List.mem_flatMap.mpr ⟨pass,hpass,hflow⟩)
    obtain hdue | hsurplus := List.mem_append.mp hmem
    · obtain ⟨l,hl,hflow⟩ := List.mem_flatMap.mp hdue
      exact l.due_whole flow hflow
    · obtain ⟨l,hl,hflow⟩ := List.mem_flatMap.mp hsurplus
      exact l.surplus_whole flow hflow
  rw [total_run hrun hwhole,counted_perm hflows,counted_append]

/-- Every completed transfer is counted with its amount and no other one is counted. -/
def CountsOnce (db db' : Db) (lifecycles : List (Lifecycle sdk)) : Prop :=
  ∀ action token, total action token db' = total action token db +
    counted action token (lifecycles.flatMap Lifecycle.due)

/-- Over any run of blocks, the totals count each completed transfer once and no other one if
and only if no transfer gives its events more to count. -/
theorem transfers_count_once_iff {lifecycles : List (Lifecycle sdk)} {passes : List (Pass sdk)}
    {db db' : Db} (hrun : execute commit db passes = some db') (htells : Tells lifecycles passes) :
    CountsOnce db db' lifecycles ↔ ∀ l ∈ lifecycles, l.Exact := by
  have hzero : CountsOnce db db' lifecycles ↔
      ∀ action token, counted action token (lifecycles.flatMap Lifecycle.surplus) = 0 := by
    unfold CountsOnce
    simp only [total_tells hrun htells]
    simp
  have hnonneg : ∀ flow ∈ lifecycles.flatMap Lifecycle.surplus, 0 ≤ flow.2.2 := by
    intro flow hflow
    obtain ⟨l,-,hflow⟩ := List.mem_flatMap.mp hflow
    obtain ⟨n,hn⟩ := l.surplus_whole flow hflow
    rw [hn]
    exact Nat.cast_nonneg n
  rw [hzero,counted_eq_zero_iff hnonneg]
  constructor
  · intro h l hl
    apply l.exact_iff.mpr
    exact fun flow hflow => h flow (List.mem_flatMap.mpr ⟨l,hl,hflow⟩)
  · intro h flow hflow
    obtain ⟨l,hl,hflow⟩ := List.mem_flatMap.mp hflow
    exact l.exact_iff.mp (h l hl) flow hflow

def fiveUnitsData : String :=
  "\x7b\"amount\":\"5\",\"denom\":\"tnam1q0\",\"memo\":\"\",\"receiver\":\"b\",\"sender\":\"a\"\x7d"

/-- The functions where one text is the data of a packet. -/
def Sdk.fiveUnits : Sdk :=
  { Sdk.sample with
    ics20PacketData := fun text =>
      if text = fiveUnitsData then some ⟨⟨[],"tnam1q0"⟩,5,"a","b",""⟩ else none
    readInnerTxHash := fun attributes => some ((attributes.get "inner-tx-hash").map Hash.mk) }

def fiveUnits : IcsTransfer Sdk.fiveUnits where
  packet := ⟨"transfer","transfer","channel-0","channel-1",0,"0-0","7",fiveUnitsData⟩
  transfer := ⟨"a","b","tnam1q0","",5⟩
  carried := by decide +kernel

/-- The first event of the packet. -/
def packetEvent (kind : String) : RawEvent where
  kind
  attributes :=
    [("inner-tx-hash","i1"),("packet_data",fiveUnitsData),("packet_dst_channel","channel-1"),
      ("packet_dst_port","transfer"),("packet_sequence","7"),("packet_src_channel","channel-0"),
      ("packet_src_port","transfer"),("packet_timeout_height","0-0")]

/-- The last event of the packet, with how it went. -/
def transferEvent (status : String × String) : RawEvent where
  kind := "fungible_token_packet"
  attributes := status ::
    [("amount","5"),("denom","tnam1q0"),("memo",""),("receiver","b"),("sender","a")]

/-- A block of one transaction, with the results that are read from its events. -/
def eventsBlock (height : BlockHeight) (hash tx : String) (raw : List RawEvent) :
    Pass Sdk.fiveUnits where
  now := 0
  shouldUpdateCrawlerState := true
  crawled := .ofBlock Sdk.fiveUnits ⟨.hash hash,⟨height,"",none,0,.hash ""⟩,
    [(sampleWrapper ("w" ++ tx) height,[sampleInner tx ("w" ++ tx) (.ibcMsg none) .applied])],1⟩
    (match BlockResult.ofResponse Sdk.fiveUnits raw with
      | .returns results => results
      | .panics _ => ⟨[]⟩)

/-- A packet is received in one block, and its transfer is counted once. -/
theorem transfers_count_once_sample : ∃ db,
    execute commit (Db.empty ["tnam1pttransfer/channel-1/tnam1q0"])
      [eventsBlock 1 "b1" "i1" [packetEvent "recv_packet",transferEvent ("success","true")]] = some db ∧
    CountsOnce (Db.empty ["tnam1pttransfer/channel-1/tnam1q0"]) db
      [Lifecycle.incoming fiveUnits true] := by
  have hruns : (execute commit (Db.empty ["tnam1pttransfer/channel-1/tnam1q0"])
      [eventsBlock 1 "b1" "i1" [packetEvent "recv_packet",transferEvent ("success","true")]]).isSome :=
    by decide +kernel
  obtain ⟨db,hrun⟩ := Option.isSome_iff_exists.mp hruns
  refine ⟨db,hrun,?_⟩
  have htells : Tells [Lifecycle.incoming fiveUnits true]
      [eventsBlock 1 "b1" "i1" [packetEvent "recv_packet",transferEvent ("success","true")]] := by
    refine ⟨[[packetEvent "recv_packet",transferEvent ("success","true")]],
      [[packetEvent "recv_packet",transferEvent ("success","true")]],[],?_,?_,by simp,.refl _⟩
    · exact .cons (by decide +kernel) .nil
    · refine .cons ⟨_,_,rfl,⟨rfl,by decide⟩,rfl,⟨by decide,by decide,by decide,by decide,
        by decide +kernel⟩,"true",by decide,by simp⟩ .nil
  apply (transfers_count_once_iff hrun htells).mpr
  intro l hl
  obtain rfl := List.mem_singleton.mp hl
  exact .inl rfl

/-- A packet is sent in one block and acknowledged in the next, and its transfer is counted
twice. -/
theorem acknowledged_transfer_counts_twice : ∃ db,
    execute commit (Db.empty ["tnam1q0"])
      [eventsBlock 1 "b1" "i1" [packetEvent "send_packet"],
        eventsBlock 2 "b2" "i2" [transferEvent ("acknowledgement","result:AQ==")]] = some db ∧
    Tells [Lifecycle.outgoing fiveUnits .success]
      [eventsBlock 1 "b1" "i1" [packetEvent "send_packet"],
        eventsBlock 2 "b2" "i2" [transferEvent ("acknowledgement","result:AQ==")]] ∧
    total .withdraw "tnam1q0" db = 10 ∧
    ¬ CountsOnce (Db.empty ["tnam1q0"]) db [Lifecycle.outgoing fiveUnits .success] := by
  have hruns : (execute commit (Db.empty ["tnam1q0"])
      [eventsBlock 1 "b1" "i1" [packetEvent "send_packet"],
        eventsBlock 2 "b2" "i2" [transferEvent ("acknowledgement","result:AQ==")]]).isSome := by
    decide +kernel
  obtain ⟨db,hrun⟩ := Option.isSome_iff_exists.mp hruns
  have htells : Tells [Lifecycle.outgoing fiveUnits .success]
      [eventsBlock 1 "b1" "i1" [packetEvent "send_packet"],
        eventsBlock 2 "b2" "i2" [transferEvent ("acknowledgement","result:AQ==")]] := by
    refine ⟨[[packetEvent "send_packet"],[transferEvent ("acknowledgement","result:AQ==")]],
      [[packetEvent "send_packet",transferEvent ("acknowledgement","result:AQ==")]],[],?_,?_,
      by simp,.refl _⟩
    · exact .cons (by decide +kernel) (.cons (by decide +kernel) .nil)
    · refine .cons ⟨_,_,rfl,⟨rfl,by decide⟩,rfl,⟨by decide,by decide,by decide,by decide,
        by decide +kernel⟩,by decide,"result:AQ==",by decide,by decide⟩ .nil
  have htotal : total .withdraw "tnam1q0" db = 10 := by
    rw [total_tells hrun htells]
    decide +kernel
  refine ⟨db,hrun,htells,htotal,?_⟩
  intro h
  have honce := h .withdraw "tnam1q0"
  rw [htotal] at honce
  revert honce
  decide +kernel

end
end NamadaIndexer.Transactions
