import HandleFederation.Configuration.Environment
import HandleFederation.Http.Server
import HandleFederation.Proofs.Reachable
import HandleFederation.Proofs.RedirectChain
import HandleFederation.Proofs.TrustGate
import HandleFederation.World
import HandleFederation.Proofs.DomainFrame
import HandleFederation.Proofs.DomainShare
import HandleFederation.Proofs.DomainIsolation
import HandleFederation.Proofs.AcceptedName
import HandleFederation.Proofs.ContactedHost
import HandleFederation.Proofs.PermittedTarget
import HandleFederation.Proofs.Interleaving
import HandleFederation.Proofs.Convergence
import HandleFederation.Proofs.ResolvedIdentity
import HandleFederation.Proofs.StaleFallback
import HandleFederation.Proofs.RecentConfirmation
import HandleFederation.Proofs.SuppressionWindow
import HandleFederation.Proofs.Start
import HandleFederation.Proofs.PeerDecision
import HandleFederation.Proofs.Succession
import HandleFederation.Proofs.EncodedText
import HandleFederation.Proofs.ServedAnswer
import HandleFederation.Proofs.ServedDeclaration
import HandleFederation.Proofs.WrittenTime
import HandleFederation.Proofs.AskedUsername
import HandleFederation.Proofs.RegisteredAccounts
import HandleFederation.Proofs.SharedAccounts
import HandleFederation.Proofs.HandleSpelling
import HandleFederation.Proofs.HiddenFailure
import HandleFederation.Proofs.HomeDomain
import HandleFederation.Proofs.DeniedUser
import HandleFederation.Proofs.StubHistory
import HandleFederation.Proofs.Likeness
import HandleFederation.Proofs.FailingStore
import HandleFederation.Proofs.StoreKinds
import HandleFederation.Proofs.AcceptedDocument
import HandleFederation.Proofs.DomainGrammar
import HandleFederation.Proofs.OperatorLists
import HandleFederation.Proofs.EntryHistory
import HandleFederation.Proofs.Breakdown
import HandleFederation.Proofs.AddressRange
import HandleFederation.Proofs.AddressVerdict
import HandleFederation.Proofs.LastingAccounts
import HandleFederation.Proofs.Disclosure
import HandleFederation.Proofs.ConservedCounts
