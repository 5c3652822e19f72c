import Web3Id.Library.Execution
import Web3Id.Library.SlidingWindow
import Web3Id.Proof.Issuer.SomeIssuerLoop
import Web3Id.Proof.Issuer.RateLimitPolicy
import Web3Id.Proof.Issuer.LostReplySomeIssuer
import Web3Id.Proof.Issuer.LostReplyWeb3IdIssuer
import Web3Id.Construction.Presentation
import Web3Id.Construction.SomeVerifier.Concurrent
import Web3Id.Construction.SomeVerifier.Server
import Web3Id.Construction.Verifier.Ledger
import Web3Id.Construction.Verifier.Web3IdVerifier
import Web3Id.Library.UniqueKey
import Web3Id.Proof.SomeVerifier.AddSteps
import Web3Id.Proof.SomeVerifier.ConcurrentCalls
import Web3Id.Proof.SomeVerifier.DeletionAuthority
import Web3Id.Proof.SomeVerifier.ShownStatus
import Web3Id.Proof.SomeVerifier.StoreInvariant
import Web3Id.Construction.Issuer.TelegramUser
import Web3Id.Library.KeyedLines
import Web3Id.Proof.Issuer.TelegramCheckString
import Web3Id.Proof.SomeVerifier.AddEffect
import Web3Id.Proof.SomeVerifier.NameExtraction
import Web3Id.Proof.SomeVerifier.ReadBack
import Web3Id.Proof.SomeVerifier.RemoveEffect
import Web3Id.Proof.SomeVerifier.VerifyRequest
import Web3Id.Construction.SomeVerifier.Bots
import Web3Id.Construction.Verifier.Web3IdVerifierTs
import Web3Id.Proof.SomeVerifier.BotReports
import Web3Id.Proof.Verifier.ErrorClasses
import Web3Id.Construction.FrontEnd.SchemaPage
import Web3Id.Construction.Issuer.DiscordPage
import Web3Id.Construction.Issuer.IssueCredential
import Web3Id.Construction.Issuer.ResponseChannel
import Web3Id.Construction.ProofExplorer.Anchor
import Web3Id.Construction.ProofExplorer.AttributeForms
import Web3Id.Construction.ProofExplorer.WalletConnection
import Web3Id.Library.PressHistory
import Web3Id.Proof.FrontEnd.DownloadedFiles
import Web3Id.Proof.FrontEnd.SchemaBuilder
import Web3Id.Proof.Issuer.DiscordAgreement
import Web3Id.Proof.Issuer.IssuedDates
import Web3Id.Proof.Issuer.RequestAnswers
import Web3Id.Proof.Issuer.TelegramAuthentication
import Web3Id.Proof.ProofExplorer.AnchoredClaims
import Web3Id.Proof.ProofExplorer.LiveSession
import Web3Id.Proof.ProofExplorer.StatementTypes
import Web3Id.Proof.ProofExplorer.TypedForms
import Web3Id.Construction.FrontEnd.AccountBalance
import Web3Id.Construction.FrontEnd.DeployContract
import Web3Id.Construction.SomeVerifier.RemovalDialog
import Web3Id.Library.DecimalNumeral
import Web3Id.Proof.FrontEnd.DeployedIndex
import Web3Id.Proof.FrontEnd.DisplayedBalance
import Web3Id.Proof.SomeVerifier.PendingRemoval
import Web3Id.Construction.Deployment
import Web3Id.Construction.Issuer.Shutdown
import Web3Id.Construction.Issuer.Web3IdService
import Web3Id.Construction.SomeVerifier.VerifyPage
import Web3Id.Library.FairRun
import Web3Id.Proof.Issuer.AnsweredRequests
import Web3Id.Proof.Issuer.DiscordSessions
import Web3Id.Proof.Issuer.OwnCredential
import Web3Id.Proof.Issuer.ShutdownProtocol
import Web3Id.Proof.SomeVerifier.RequestedProofs
import Web3Id.Proof.SomeVerifier.ServedRequests
import Web3Id.Proof.SomeVerifier.StoredAccounts
import Web3Id.Construction.Issuer.DiscordApp
import Web3Id.Proof.Issuer.ShownAccount
import Web3Id.Construction.Issuer.TelegramApp
import Web3Id.Proof.Issuer.StatusToast
import Web3Id.Construction.WalletTool.Register
import Web3Id.Proof.WalletTool.StoredCredentials
import Web3Id.Construction.ProofExplorer.ProofPanels
import Web3Id.Proof.ProofExplorer.ProofMessages
import Web3Id.Proof.SomeVerifier.BotMessages
