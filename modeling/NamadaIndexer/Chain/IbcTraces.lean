import NamadaIndexer.Chain.Crawling
import NamadaIndexer.Shared.IbcTokens

/-! The stored trace of an IBC token. The address of the token comes from the trace as it is,
but the stored trace is lower-cased. -/
namespace NamadaIndexer.Chain
open NamadaIndexer.Foundation NamadaIndexer.Shared

/-- The node stores a trace under the hash of the token that the trace stands for. -/
def Node.StoresTraces (sdk : Sdk) (node : Node) : Prop :=
  ∀ entry ∈ node.ibcTraces, sdk.convertToAddress entry.2 = some (.internal (.ibcToken entry.1))

/-- The IBC tokens that the crawler meets, in a block or in an answer of a node. -/
inductive Traced (ctx : Context) (nativeToken : Address) : IbcToken → Prop
  | block {trace : Option String} {denom : PrefixedDenom} {address : Address} {token : IbcToken}
    (found : (getIbcToken ctx.sdk trace nativeToken denom).run = .returns (.ok (address,.ibc token))) :
    Traced ctx nativeToken token
  | node {client : Client} {tokens : List IbcToken} {token : IbcToken}
    (stores : client.node.StoresTraces ctx.sdk)
    (answer : queryIbcTokens ctx client = some tokens) (mem : token ∈ tokens) :
    Traced ctx nativeToken token

/-- The rows of the tokens have traces that stand for the tokens, each for its own. -/
structure TracesName (ctx : Context) (tokens : Set IbcToken) : Prop where
  names : ∀ token ∈ tokens, ∀ trace, token.trace = some (.ibcTrace trace) →
    ∀ row, IbcTokenDb.fromToken ctx (.ibc token) = some row →
      ∃ address, ctx.sdk.convertToAddress row.ibcTrace = some address ∧
        ctx.sdk.encode address = row.address
  distinct : ∀ token ∈ tokens, ∀ token' ∈ tokens, ∀ trace trace',
    token.trace = some (.ibcTrace trace) → token'.trace = some (.ibcTrace trace') →
    trace ≠ trace' → ∀ row row', IbcTokenDb.fromToken ctx (.ibc token) = some row →
      IbcTokenDb.fromToken ctx (.ibc token') = some row' → row.ibcTrace ≠ row'.ibcTrace

/-- Lower-casing a trace of the tokens does not happen to give a trace of the same hash. -/
def NoCollision (sdk : Sdk) (tokens : Set IbcToken) : Prop :=
  ∀ token ∈ tokens, ∀ trace, token.trace = some (.ibcTrace trace) →
    sdk.convertToAddress (sdk.toLowercase trace) = sdk.convertToAddress trace →
      sdk.toLowercase trace = trace

/-- No trace of the tokens has an upper-case letter. -/
def LowerCased (sdk : Sdk) (tokens : Set IbcToken) : Prop :=
  ∀ token ∈ tokens, ∀ trace, token.trace = some (.ibcTrace trace) → sdk.toLowercase trace = trace

section
variable {ctx : Context} {nativeToken : Address} {token : IbcToken} {trace : String}

/-- The address of a token is the one of its trace, wherever the token comes from. -/
lemma Traced.address (h : Traced ctx nativeToken token)
    (htrace : token.trace = some (.ibcTrace trace)) :
    ∃ address, ctx.sdk.convertToAddress trace = some address ∧
      token.address = .ofAddress ctx.sdk address := by
  cases h with
  | @block read denom address _ hfound =>
    cases read with
    | none =>
      obtain ⟨-,heq⟩ | ⟨-,found,-,heq⟩ := getIbcToken_none_eq_ok.mp hfound
      · have hnative := (Prod.mk.inj heq).2
        contradiction
      · obtain rfl := Token.ibc.inj (Prod.mk.inj heq).2
        contradiction
    | some text =>
      obtain ⟨found,haddress,heq⟩ := getIbcToken_some_eq_ok.mp hfound
      split at heq
      · have hnative := (Prod.mk.inj heq).2
        contradiction
      · obtain rfl := Token.ibc.inj (Prod.mk.inj heq).2
        obtain rfl := Id.ibcTrace.inj (Option.some.inj htrace)
        exact ⟨found,haddress,rfl⟩
  | node hstores hanswer hmem =>
    obtain ⟨traces,htraces,rfl⟩ := Option.map_eq_some_iff.mp hanswer
    rw [HashOrder.mem_visit] at hmem
    obtain ⟨entry,hentry,rfl⟩ := List.mem_map.mp hmem
    obtain rfl := Id.ibcTrace.inj (Option.some.inj htrace)
    refine ⟨_,hstores entry ?_,rfl⟩
    unfold Client.ask at htraces
    split at htraces
    · contradiction
    · rwa [Option.some.inj htraces]

lemma fromToken_of_trace (htrace : token.trace = some (.ibcTrace trace)) :
    IbcTokenDb.fromToken ctx (.ibc token) =
      some ⟨token.address.toString ctx.sdk,ctx.sdk.toLowercase trace⟩ := by
  rw [IbcTokenDb.fromToken,htrace]
  rfl

/-- The stored traces name their tokens exactly if lower-casing changes none of them. -/
theorem stored_traces_name_tokens_iff {tokens : Set IbcToken} (hsdk : ctx.sdk.Lawful)
    (hdecodes : ctx.sdk.DecodesEncoded) (htraced : ∀ token ∈ tokens, Traced ctx nativeToken token)
    (hcollision : NoCollision ctx.sdk tokens) :
    TracesName ctx tokens ↔ LowerCased ctx.sdk tokens := by
  constructor
  · intro hnames token hmem trace htrace
    obtain ⟨address,haddress,htoken⟩ := (htraced token hmem).address htrace
    obtain ⟨named,hnamed,hencode⟩ :=
      hnames.names token hmem trace htrace _ (fromToken_of_trace htrace)
    apply hcollision token hmem trace htrace
    rw [htoken,Id.toString_ofAddress hsdk] at hencode
    rw [hnamed,haddress,hdecodes.encode_injective hencode]
  · intro hlower
    constructor
    · intro token hmem trace htrace row hrow
      obtain ⟨address,haddress,htoken⟩ := (htraced token hmem).address htrace
      rw [fromToken_of_trace htrace] at hrow
      obtain rfl := Option.some.inj hrow
      refine ⟨address,?_,?_⟩
      · rw [hlower token hmem trace htrace,haddress]
      · rw [htoken,Id.toString_ofAddress hsdk]
    · intro token hmem token' hmem' trace trace' htrace htrace' hne row row' hrow hrow'
      rw [fromToken_of_trace htrace] at hrow
      rw [fromToken_of_trace htrace'] at hrow'
      obtain rfl := Option.some.inj hrow
      obtain rfl := Option.some.inj hrow'
      dsimp only
      rw [hlower token hmem trace htrace,hlower token' hmem' trace' htrace']
      exact hne

/-- The token of one hop over channel 0. -/
def tokenOver (hash baseDenom : String) : IbcToken :=
  ⟨.account ("tnam1pt" ++ hash),some (.ibcTrace ("transfer/channel-0/" ++ baseDenom))⟩

def lowerCasedContext : Context := { sampleContext bondTx with sdk := Sdk.sample }

/-- A node that stores the trace of one token. -/
def tracingClient : Client where
  node := { sampleNode 8 5 (fun _ => 1) with
    ibcTraces := [("transfer/channel-0/uosmo","transfer/channel-0/uosmo")] }
  fails _ := false

/-- A token from a block and one from the node, both in lower case. -/
theorem lower_cased_traces_name_tokens :
    TracesName lowerCasedContext {tokenOver "transfer/channel-0/uatom" "uatom",
      tokenOver "transfer/channel-0/uosmo" "uosmo"} := by
  have hblock : Traced lowerCasedContext (.established "nam")
      (tokenOver "transfer/channel-0/uatom" "uatom") := by
    have hfound : (getIbcToken lowerCasedContext.sdk (some "transfer/channel-0/uatom")
        (.established "nam") ⟨[⟨"transfer","channel-0"⟩],"uatom"⟩).run =
        .returns (.ok (.internal (.ibcToken "transfer/channel-0/uatom"),
          .ibc (tokenOver "transfer/channel-0/uatom" "uatom"))) := by decide
    exact .block hfound
  have hnode : Traced lowerCasedContext (.established "nam")
      (tokenOver "transfer/channel-0/uosmo" "uosmo") := by
    have hstores : tracingClient.node.StoresTraces lowerCasedContext.sdk := by
      intro entry hentry
      obtain rfl := List.mem_singleton.mp hentry
      rfl
    exact .node hstores rfl (by decide)
  have htraced : ∀ token ∈ ({tokenOver "transfer/channel-0/uatom" "uatom",
      tokenOver "transfer/channel-0/uosmo" "uosmo"} : Set IbcToken),
      Traced lowerCasedContext (.established "nam") token := by
    rintro token (rfl | rfl)
    · exact hblock
    · exact hnode
  exact (stored_traces_name_tokens_iff sample_lawful sample_decodesEncoded htraced
    fun _ _ _ _ _ => rfl).mpr fun _ _ _ _ => rfl

/-- Hashes of lower-case letters that tell upper-case letters of a trace apart. -/
def sampleHash (trace : String) : String :=
  String.ofList (trace.toList.flatMap fun c => if c.isUpper then ['^',c.toLower] else [c])

def mixedCaseContext : Context :=
  { sampleContext bondTx with sdk := { Sdk.sample with
    toLowercase := fun text => String.ofList (text.toList.map Char.toLower)
    convertToAddress := fun trace => some (.internal (.ibcToken (sampleHash trace))) } }

/-- A base with capital letters is stored as another one, which is the trace of another token. -/
theorem mixed_case_trace_misnames :
    Traced mixedCaseContext (.established "nam")
      (tokenOver "transfer/channel-0/^a^t^o^m" "ATOM") ∧
    Traced mixedCaseContext (.established "nam") (tokenOver "transfer/channel-0/atom" "atom") ∧
    IbcTokenDb.fromToken mixedCaseContext (.ibc (tokenOver "transfer/channel-0/^a^t^o^m" "ATOM")) =
      some ⟨"tnam1pttransfer/channel-0/^a^t^o^m","transfer/channel-0/atom"⟩ ∧
    IbcTokenDb.fromToken mixedCaseContext (.ibc (tokenOver "transfer/channel-0/atom" "atom")) =
      some ⟨"tnam1pttransfer/channel-0/atom","transfer/channel-0/atom"⟩ ∧
    ¬ TracesName mixedCaseContext {tokenOver "transfer/channel-0/^a^t^o^m" "ATOM"} ∧
    ¬ TracesName mixedCaseContext {tokenOver "transfer/channel-0/^a^t^o^m" "ATOM",
      tokenOver "transfer/channel-0/atom" "atom"} := by
  have hfound : (getIbcToken mixedCaseContext.sdk (some "transfer/channel-0/ATOM")
      (.established "nam") ⟨[⟨"transfer","channel-0"⟩],"ATOM"⟩).run =
      .returns (.ok (.internal (.ibcToken "transfer/channel-0/^a^t^o^m"),
        .ibc (tokenOver "transfer/channel-0/^a^t^o^m" "ATOM"))) := by decide +kernel
  have hother : (getIbcToken mixedCaseContext.sdk (some "transfer/channel-0/atom")
      (.established "nam") ⟨[⟨"transfer","channel-0"⟩],"atom"⟩).run =
      .returns (.ok (.internal (.ibcToken "transfer/channel-0/atom"),
        .ibc (tokenOver "transfer/channel-0/atom" "atom"))) := by decide +kernel
  have hrow : IbcTokenDb.fromToken mixedCaseContext
      (.ibc (tokenOver "transfer/channel-0/^a^t^o^m" "ATOM")) =
      some ⟨"tnam1pttransfer/channel-0/^a^t^o^m","transfer/channel-0/atom"⟩ := by decide +kernel
  have hmisnames : ∀ address, mixedCaseContext.sdk.convertToAddress "transfer/channel-0/atom" =
      some address → mixedCaseContext.sdk.encode address ≠
        "tnam1pttransfer/channel-0/^a^t^o^m" := by
    rintro address ⟨⟩
    decide +kernel
  have hnot : ∀ tokens : Set IbcToken, tokenOver "transfer/channel-0/^a^t^o^m" "ATOM" ∈ tokens →
      ¬ TracesName mixedCaseContext tokens := by
    intro tokens hmem hnames
    obtain ⟨address,haddress,hencode⟩ := hnames.names _ hmem _ rfl _ hrow
    exact hmisnames address haddress hencode
  exact ⟨.block hfound,.block hother,hrow,by decide +kernel,hnot _ rfl,hnot _ (.inl rfl)⟩

end
end NamadaIndexer.Chain
