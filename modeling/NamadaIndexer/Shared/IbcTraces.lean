import NamadaIndexer.Shared.IbcTokens

/-! The text of a denomination, and what becomes of it over a channel and back. -/
namespace NamadaIndexer.Shared
open NamadaIndexer.Foundation

namespace PrefixedDenom

/-- A text without a hop in front of it. -/
def ofBase (baseDenom : String) : Option PrefixedDenom :=
  if baseDenom = "" then none else some ⟨[],baseDenom⟩

/-- Read off hops for as long as there are any; what is left is the base. -/
def trim (isHop : TracePrefix → Bool) : List (List Char) → Option PrefixedDenom
  | port::channel::rest =>
    if isHop ⟨String.ofList port,String.ofList channel⟩ then
      (trim isHop rest).map fun denom => { denom with
        tracePath := ⟨String.ofList port,String.ofList channel⟩ :: denom.tracePath }
    else ofBase (String.ofList (['/'].intercalate (port::channel::rest)))
  | [baseDenom] => ofBase (String.ofList baseDenom)
  | [] => none

/-- A denomination as ICS-20 reads it, where `isHop` tells valid identifiers of a port and of
a channel. -/
def parse (isHop : TracePrefix → Bool) (text : String) : Option PrefixedDenom :=
  trim isHop (text.toList.splitOn '/')

end PrefixedDenom

/-- Identifiers of ports and channels have no slash in them. -/
def TracePrefix.SlashFree (hop : TracePrefix) : Prop :=
  '/' ∉ hop.portId.toList ∧ '/' ∉ hop.channelId.toList

/-- What is relied on of a parser of denominations: it reads the text that a denomination is
written as, and hops are pairs of identifiers. -/
structure ParsesDenoms (parse : String → Option PrefixedDenom) : Prop where
  toString_eq : ∀ {text denom}, parse text = some denom → denom.toString = text
  slashFree : ∀ {text denom}, parse text = some denom → ∀ hop ∈ denom.tracePath, hop.SlashFree

namespace TracePrefix
variable {hop hop' : TracePrefix} {text text' : String}

/-- The text behind a hop, cut at its slashes. -/
lemma splitOn_written (h : hop.SlashFree) (text : String) :
    (hop.portId ++ "/" ++ hop.channelId ++ "/" ++ text).toList.splitOn '/' =
      hop.portId.toList :: hop.channelId.toList :: text.toList.splitOn '/' := by
  rw [←List.splitOn_append_cons_self_of_not_mem h.2,←List.splitOn_append_cons_self_of_not_mem h.1]
  simp

/-- A hop in front of a text is told from the text. -/
lemma written_inj (h : hop.SlashFree) (h' : hop'.SlashFree)
    (heq : hop.portId ++ "/" ++ hop.channelId ++ "/" ++ text =
      hop'.portId ++ "/" ++ hop'.channelId ++ "/" ++ text') : hop = hop' ∧ text = text' := by
  have hsplit := splitOn_written h' text'
  rw [←heq,splitOn_written h text,List.cons.injEq,List.cons.injEq] at hsplit
  obtain ⟨hport,hchannel,hrest⟩ := hsplit
  constructor
  · cases hop
    cases hop'
    exact congrArg₂ TracePrefix.mk (String.toList_inj.mp hport) (String.toList_inj.mp hchannel)
  · apply String.toList_inj.mp
    calc text.toList = ['/'].intercalate (text.toList.splitOn '/') := by
          rw [List.intercalate_splitOn]
      _ = text'.toList := by rw [hrest,List.intercalate_splitOn]

end TracePrefix

namespace PrefixedDenom
variable {isHop : TracePrefix → Bool}

lemma ofBase_eq_some {baseDenom : String} {denom : PrefixedDenom} (h : ofBase baseDenom = some denom) :
    denom = ⟨[],baseDenom⟩ := by
  unfold ofBase at h
  split at h
  · contradiction
  · exact (Option.some.inj h).symm

lemma trim_ne_nil {segments : List (List Char)} {denom : PrefixedDenom}
    (h : trim isHop segments = some denom) : segments ≠ [] := by
  rintro rfl
  contradiction

theorem toString_of_trim {segments : List (List Char)} {denom : PrefixedDenom}
    (h : trim isHop segments = some denom) :
    denom.toString.toList = ['/'].intercalate segments := by
  induction segments using trim.induct isHop generalizing denom with
  | case1 port channel rest hhop ih =>
    rw [trim,if_pos hhop] at h
    obtain ⟨inner,hinner,rfl⟩ := Option.map_eq_some_iff.mp h
    rw [toString_cons,List.intercalate_cons_cons,
      List.intercalate_cons_of_ne_nil (trim_ne_nil hinner),←ih hinner]
    simp
  | case2 port channel rest hhop =>
    rw [trim,if_neg hhop] at h
    rw [ofBase_eq_some h]
    exact String.toList_ofList
  | case3 baseDenom =>
    rw [ofBase_eq_some h,List.intercalate_singleton]
    exact String.toList_ofList
  | case4 => contradiction

lemma isHop_of_trim {segments : List (List Char)} {denom : PrefixedDenom}
    (h : trim isHop segments = some denom) : ∀ hop ∈ denom.tracePath, isHop hop = true := by
  induction segments using trim.induct isHop generalizing denom with
  | case1 port channel rest hhop ih =>
    rw [trim,if_pos hhop] at h
    obtain ⟨inner,hinner,rfl⟩ := Option.map_eq_some_iff.mp h
    exact List.forall_mem_cons.mpr ⟨hhop,ih hinner⟩
  | case2 port channel rest hhop =>
    rw [trim,if_neg hhop] at h
    rw [ofBase_eq_some h]
    exact List.forall_mem_nil _
  | case3 baseDenom =>
    rw [ofBase_eq_some h]
    exact List.forall_mem_nil _
  | case4 => contradiction

/-- The parser reads what is written, if identifiers have no slash in them. -/
theorem parsesDenoms_parse (hslash : ∀ hop, isHop hop = true → hop.SlashFree) :
    ParsesDenoms (parse isHop) where
  toString_eq := by
    intro text denom h
    apply String.toList_inj.mp
    rw [toString_of_trim h,List.intercalate_splitOn]
  slashFree := fun h hop hhop => hslash hop (isHop_of_trim h hop hhop)

end PrefixedDenom

/-- A channel of Namada, by its two ends. -/
structure Channel where
  ours : TracePrefix
  theirs : TracePrefix

namespace Channel
variable (channel : Channel)

/-- The trace of a denomination that arrives over the channel. -/
def receivedTrace (denom : PrefixedDenom) : Option String :=
  getNamadaIbcTraceWhenReceiving denom channel.theirs.portId channel.theirs.channelId
    channel.ours.portId channel.ours.channelId

/-- The denomination that the counterparty has for what Namada sends it. -/
def counterpartyDenom (denom : PrefixedDenom) : PrefixedDenom :=
  denom.received channel.ours.portId channel.ours.channelId channel.theirs.portId
    channel.theirs.channelId

/-- The denomination that Namada has for what arrives over the channel. -/
def receivedDenom (denom : PrefixedDenom) : PrefixedDenom :=
  denom.received channel.theirs.portId channel.theirs.channelId channel.ours.portId
    channel.ours.channelId

end Channel

namespace PrefixedDenom
variable {channel : Channel} {denom : PrefixedDenom}

lemma received_of_startsWith {port chan port' chan' : String} {hops : List TracePrefix}
    {baseDenom : String} :
    received ⟨⟨port,chan⟩::hops,baseDenom⟩ port chan port' chan' = ⟨hops,baseDenom⟩ := by
  rw [received,if_pos (startsWith_iff.mpr ⟨hops,rfl⟩),removePrefix_cons]

lemma received_of_not_startsWith {port chan port' chan' : String}
    (h : denom.startsWith ⟨port,chan⟩ = false) :
    denom.received port chan port' chan' =
      { denom with tracePath := ⟨port',chan'⟩ :: denom.tracePath } := by
  rw [received,if_neg (by simp [h])]

/-- Each end undoes what the other did, but for a voucher that would be undone twice. -/
theorem receivedDenom_counterpartyDenom
    (htwice : ¬ [channel.ours,channel.theirs] <+: denom.tracePath) :
    channel.receivedDenom (channel.counterpartyDenom denom) = denom := by
  unfold Channel.receivedDenom Channel.counterpartyDenom
  cases hstarts : denom.startsWith channel.ours with
  | true =>
    obtain ⟨hops,hhops⟩ := startsWith_iff.mp hstarts
    obtain ⟨tracePath,baseDenom⟩ := denom
    obtain rfl : tracePath = channel.ours::hops := hhops
    have hnot : startsWith ⟨hops,baseDenom⟩ channel.theirs = false := by
      by_contra h
      obtain ⟨hops',rfl⟩ := startsWith_iff.mp (by simpa using h)
      exact htwice ⟨hops',rfl⟩
    rw [received_of_startsWith,received_of_not_startsWith hnot]
  | false =>
    rw [received_of_not_startsWith hstarts,received_of_startsWith]

end PrefixedDenom

section
variable {parse : String → Option PrefixedDenom} {channel : Channel}

lemma Channel.receivedTrace_eq (channel : Channel) (denom : PrefixedDenom) :
    channel.receivedTrace denom =
      if (channel.receivedDenom denom).tracePath = [] then none
      else some (channel.receivedDenom denom).toString :=
  getNamadaIbcTraceWhenReceiving_eq _ _ _ _ _

/-- A voucher of Namada is not what Namada has for anything else, but for a voucher that went over
the channel and back. -/
lemma ParsesDenoms.toString_received_ne (hparse : ParsesDenoms parse)
    (hours : channel.ours.SlashFree) {text : String} {denom denom' : PrefixedDenom}
    (h : parse text = some denom) (hstarts : denom.startsWith channel.theirs = true)
    (hstarts' : denom'.startsWith channel.theirs = false)
    (hvoucher : (channel.receivedDenom denom).tracePath ≠ [])
    (htwice : ¬ [channel.theirs,channel.ours] <+: denom.tracePath) :
    (channel.receivedDenom denom).toString ≠ (channel.receivedDenom denom').toString := by
  obtain ⟨hops,hhops⟩ := PrefixedDenom.startsWith_iff.mp hstarts
  have hslash := hparse.slashFree h
  obtain ⟨tracePath,baseDenom⟩ := denom
  obtain rfl : tracePath = channel.theirs::hops := hhops
  unfold Channel.receivedDenom at hvoucher ⊢
  rw [PrefixedDenom.received_of_startsWith] at hvoucher ⊢
  rw [PrefixedDenom.received_of_not_startsWith hstarts',PrefixedDenom.toString_cons]
  cases hops with
  | nil => exact absurd rfl hvoucher
  | cons hop hops =>
    intro heq
    have hhop : hop.SlashFree := hslash hop (by simp)
    obtain ⟨rfl,-⟩ := TracePrefix.written_inj hhop hours heq
    exact htwice ⟨hops,rfl⟩

/-- Denominations that are read are told apart by what Namada has for them, if it has vouchers. -/
theorem ParsesDenoms.receivedDenom_injective (hparse : ParsesDenoms parse)
    (hours : channel.ours.SlashFree) {text text' : String} {denom denom' : PrefixedDenom}
    (h : parse text = some denom) (h' : parse text' = some denom')
    (hvoucher : (channel.receivedDenom denom).tracePath ≠ [])
    (hvoucher' : (channel.receivedDenom denom').tracePath ≠ [])
    (htwice : ¬ [channel.theirs,channel.ours] <+: denom.tracePath)
    (htwice' : ¬ [channel.theirs,channel.ours] <+: denom'.tracePath)
    (heq : (channel.receivedDenom denom).toString = (channel.receivedDenom denom').toString) :
    denom = denom' := by
  -- one text has one denomination
  have hsame (hwritten : denom.toString = denom'.toString) : denom = denom' := by
    rw [hparse.toString_eq h,hparse.toString_eq h'] at hwritten
    rw [hwritten,h'] at h
    exact (Option.some.inj h).symm
  cases hstarts : denom.startsWith channel.theirs with
  | true =>
    cases hstarts' : denom'.startsWith channel.theirs with
    | true =>
      obtain ⟨hops,hhops⟩ := PrefixedDenom.startsWith_iff.mp hstarts
      obtain ⟨hops',hhops'⟩ := PrefixedDenom.startsWith_iff.mp hstarts'
      obtain ⟨tracePath,baseDenom⟩ := denom
      obtain ⟨tracePath',baseDenom'⟩ := denom'
      obtain rfl : tracePath = channel.theirs::hops := hhops
      obtain rfl : tracePath' = channel.theirs::hops' := hhops'
      rw [Channel.receivedDenom,Channel.receivedDenom,PrefixedDenom.received_of_startsWith,
        PrefixedDenom.received_of_startsWith] at heq
      apply hsame
      rw [PrefixedDenom.toString_cons,PrefixedDenom.toString_cons,heq]
    | false => exact absurd heq (hparse.toString_received_ne hours h hstarts hstarts' hvoucher htwice)
  | false =>
    cases hstarts' : denom'.startsWith channel.theirs with
    | true =>
      exact absurd heq.symm (hparse.toString_received_ne hours h' hstarts' hstarts hvoucher' htwice')
    | false =>
      rw [Channel.receivedDenom,Channel.receivedDenom,
        PrefixedDenom.received_of_not_startsWith hstarts,
        PrefixedDenom.received_of_not_startsWith hstarts',PrefixedDenom.toString_cons,
        PrefixedDenom.toString_cons] at heq
      exact hsame (TracePrefix.written_inj hours hours heq).2

/-- What Namada sends over a channel comes back as itself, what arrives first gets the hop of
the channel, and different denominations arrive as different ones. -/
theorem ibc_traces_round_trip (hparse : ParsesDenoms parse) (hours : channel.ours.SlashFree) :
    (∀ text denom sent packetDenom, parse text = some denom →
      ¬ [channel.ours,channel.theirs] <+: denom.tracePath →
      getNamadaIbcTraceWhenSending denom = some sent → parse sent = some packetDenom →
      channel.receivedTrace (channel.counterpartyDenom packetDenom) =
        if denom.tracePath = [] then none else some denom.toString) ∧
    (∀ denom, ¬ [channel.theirs] <+: denom.tracePath → channel.receivedTrace denom =
      some (channel.ours.portId ++ "/" ++ channel.ours.channelId ++ "/" ++ denom.toString)) ∧
    (∀ text text' denom denom', parse text = some denom → parse text' = some denom' →
      denom ≠ denom' → ¬ [channel.theirs,channel.ours] <+: denom.tracePath →
      ¬ [channel.theirs,channel.ours] <+: denom'.tracePath →
      channel.receivedTrace denom = channel.receivedTrace denom' →
      channel.receivedTrace denom = none ∧ channel.receivedTrace denom' = none) := by
  refine ⟨?_,?_,?_⟩
  · rintro text denom sent packetDenom h htwice ⟨⟩ hsent
    obtain rfl : denom = packetDenom := by
      rw [hparse.toString_eq h,h] at hsent
      exact Option.some.inj hsent
    rw [Channel.receivedTrace_eq,PrefixedDenom.receivedDenom_counterpartyDenom htwice]
  · intro denom hforeign
    have hnot : denom.startsWith channel.theirs = false := by
      by_contra h
      obtain ⟨hops,hhops⟩ := PrefixedDenom.startsWith_iff.mp (by simpa using h)
      exact hforeign ⟨hops,hhops.symm⟩
    rw [Channel.receivedTrace_eq,Channel.receivedDenom,
      PrefixedDenom.received_of_not_startsWith hnot,if_neg (List.cons_ne_nil _ _)]
    rfl
  · intro text text' denom denom' h h' hne htwice htwice' heq
    rw [Channel.receivedTrace_eq,Channel.receivedTrace_eq] at heq ⊢
    by_cases hempty : (channel.receivedDenom denom).tracePath = []
    · rw [if_pos hempty] at heq ⊢
      exact ⟨rfl,heq.symm⟩
    · rw [if_neg hempty] at heq
      split at heq
      · contradiction
      · rename_i hempty'
        have hsame := hparse.receivedDenom_injective hours h h' hempty hempty' htwice htwice'
          (Option.some.inj heq)
        exact absurd hsame hne

/-- Identifiers without a slash, and channels by their number. -/
def sampleIsHop (hop : TracePrefix) : Bool :=
  !hop.portId.toList.contains '/' && !hop.channelId.toList.contains '/' &&
    "channel-".toList.isPrefixOf hop.channelId.toList

def sampleChannel : Channel := ⟨⟨"transfer","channel-0"⟩,⟨"transfer","channel-1234"⟩⟩

lemma sampleIsHop_slash (hop : TracePrefix) (hhop : sampleIsHop hop = true) : hop.SlashFree := by
  simp only [sampleIsHop,Bool.and_eq_true,Bool.not_eq_true',List.contains_eq_mem,
    decide_eq_false_iff_not] at hhop
  exact hhop.1

/-- A voucher that came over the channel, sent out and back, one that arrives, and another
of the same base. -/
theorem ibc_traces_round_trip_sample :
    sampleChannel.receivedTrace (sampleChannel.counterpartyDenom
      ⟨[⟨"transfer","channel-0"⟩,⟨"transfer","channel-7"⟩],"uosmo"⟩) =
        some "transfer/channel-0/transfer/channel-7/uosmo" ∧
    sampleChannel.receivedTrace ⟨[],"uatom"⟩ = some "transfer/channel-0/uatom" ∧
    sampleChannel.receivedTrace ⟨[],"uatom"⟩ ≠
      sampleChannel.receivedTrace ⟨[⟨"transfer","channel-9"⟩],"uatom"⟩ := by
  have hours : sampleChannel.ours.SlashFree := sampleIsHop_slash _ (by decide)
  obtain ⟨hcomes,harrives,hdistinct⟩ :=
    ibc_traces_round_trip (PrefixedDenom.parsesDenoms_parse sampleIsHop_slash) hours
  have hvoucher : PrefixedDenom.parse sampleIsHop "transfer/channel-0/transfer/channel-7/uosmo" =
      some ⟨[⟨"transfer","channel-0"⟩,⟨"transfer","channel-7"⟩],"uosmo"⟩ := by decide +kernel
  have hatom : PrefixedDenom.parse sampleIsHop "uatom" = some ⟨[],"uatom"⟩ := by decide +kernel
  have hother : PrefixedDenom.parse sampleIsHop "transfer/channel-9/uatom" =
      some ⟨[⟨"transfer","channel-9"⟩],"uatom"⟩ := by decide +kernel
  refine ⟨hcomes _ _ _ _ hvoucher (by decide) rfl hvoucher,harrives _ (by decide),?_⟩
  intro heq
  have hnone := hdistinct _ _ _ _ hatom hother (by decide) (by decide) (by decide) heq
  exact absurd hnone.1 (by decide)

end
end NamadaIndexer.Shared
