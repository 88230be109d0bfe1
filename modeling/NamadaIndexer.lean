import NamadaIndexer.Foundation.Runs
import NamadaIndexer.Foundation.KeyedTable
import NamadaIndexer.Foundation.Panicking
import NamadaIndexer.Shared.Namada
import NamadaIndexer.Shared.Id
import NamadaIndexer.Foundation.Numerals
import NamadaIndexer.Shared.Transaction
import NamadaIndexer.Shared.BlockResult
import NamadaIndexer.Shared.Utils
import NamadaIndexer.Shared.Crawler
import NamadaIndexer.Shared.Deserialize
import NamadaIndexer.Shared.DecodingPanics
import NamadaIndexer.Shared.BalanceChanges
import NamadaIndexer.Chain.Votes
import NamadaIndexer.Governance.Cycle
import NamadaIndexer.Governance.CycleSteps
import NamadaIndexer.Governance.Results
import NamadaIndexer.Governance.FinalTally
import NamadaIndexer.Governance.FundingOrder
import NamadaIndexer.Governance.Funding
import NamadaIndexer.Foundation.Regrouping
import NamadaIndexer.Transactions.Tx
import NamadaIndexer.Transactions.Sequences
import NamadaIndexer.Transactions.Repository
import NamadaIndexer.Transactions.Crawling
import NamadaIndexer.Foundation.Separated
import NamadaIndexer.Transactions.Acks
import NamadaIndexer.Transactions.Flows
import NamadaIndexer.Transactions.Reindexing
import NamadaIndexer.Transactions.FlowSums
import NamadaIndexer.Transactions.Restarts
import NamadaIndexer.Shared.Extractors
import NamadaIndexer.Shared.FailedTransactions
import NamadaIndexer.Shared.MaspEntries
import NamadaIndexer.Shared.MaspRefs
import NamadaIndexer.Transactions.MaspPool
import NamadaIndexer.Webserver.Gas
import NamadaIndexer.Webserver.FallbackGas
import NamadaIndexer.Foundation.Json
import NamadaIndexer.Webserver.RecentTransactions
import NamadaIndexer.Shared.Checksums
import NamadaIndexer.Chain.Namada
import NamadaIndexer.Chain.Repository
import NamadaIndexer.Chain.Crawling
import NamadaIndexer.Foundation.Latest
import NamadaIndexer.Chain.Balances
import NamadaIndexer.Chain.BondReindexing
import NamadaIndexer.Foundation.Overflow
import NamadaIndexer.Chain.StartUp
import NamadaIndexer.Cometbft.Crawling
import NamadaIndexer.Cometbft.Prefix
import NamadaIndexer.Cometbft.StartUp
import NamadaIndexer.Foundation.Grouping
import NamadaIndexer.Chain.Bonds
import NamadaIndexer.Chain.Completeness
import NamadaIndexer.Chain.Epochs
import NamadaIndexer.Shared.NativeTokens
import NamadaIndexer.Shared.IbcTokens
import NamadaIndexer.Shared.IbcAmounts
import NamadaIndexer.Chain.Tokens
import NamadaIndexer.Chain.TokenTags
import NamadaIndexer.Foundation.Repeating
import NamadaIndexer.Chain.Replays
import NamadaIndexer.Chain.PosChanges
import NamadaIndexer.Chain.IbcTraces
import NamadaIndexer.Shared.IbcTraces
import NamadaIndexer.Chain.ProposalIds
import NamadaIndexer.Webserver.RevealedKeys
import NamadaIndexer.Chain.VoteQueries
import NamadaIndexer.Rewards.Namada
import NamadaIndexer.Chain.Statements
import NamadaIndexer.Foundation.Queries
import NamadaIndexer.Webserver.PosViews
import NamadaIndexer.Foundation.Rounding
import NamadaIndexer.Webserver.Pagination
import NamadaIndexer.Foundation.Limbs
import NamadaIndexer.Shared.Decimals
import NamadaIndexer.Shared.AccountsCodec
import NamadaIndexer.Webserver.EpochTimes
import NamadaIndexer.Foundation.Cells
import NamadaIndexer.Shared.EpochCrawler
import NamadaIndexer.Shared.CrawlerStates
import NamadaIndexer.Pos.Crawling
import NamadaIndexer.Pos.Staking
import NamadaIndexer.Pos.Columns
import NamadaIndexer.Rewards.Crawling
import NamadaIndexer.Rewards.Ledger
import NamadaIndexer.Parameters.Crawling
import NamadaIndexer.Webserver.Rewards
import NamadaIndexer.Webserver.Validators
import NamadaIndexer.Webserver.CrawlerStates
import NamadaIndexer.Cometbft.Cache
import NamadaIndexer.Chain.Additions
import NamadaIndexer.Webserver.Balances
import NamadaIndexer.Webserver.IbcFlows
import NamadaIndexer.Pos.Stakes
import NamadaIndexer.Webserver.Bonds
import NamadaIndexer.Transactions.Ledger
import NamadaIndexer.Webserver.History
import NamadaIndexer.Governance.Ledger
import NamadaIndexer.Webserver.Governance
import NamadaIndexer.Webserver.Blocks
