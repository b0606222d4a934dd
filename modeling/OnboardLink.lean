import OnboardLink.Main
import OnboardLink.Transfer.Exchange
import OnboardLink.Proofs.Frame.RoundTrip
import OnboardLink.Proofs.Octets.Bits
import OnboardLink.Proofs.Checksum.Polynomial
import OnboardLink.Proofs.Checksum.Division
import OnboardLink.Proofs.Frame.Acceptance
import OnboardLink.Proofs.Frame.Bursts
import OnboardLink.Proofs.Frame.Extension
import OnboardLink.Proofs.Router.Change
import OnboardLink.Proofs.Router.Soundness
import OnboardLink.Proofs.Router.History
import OnboardLink.Proofs.Router.Routing
import OnboardLink.Proofs.SpacePacket.Packing
import OnboardLink.Proofs.SpacePacket.RoundTrip
import OnboardLink.Proofs.Transfer.Lossless
import OnboardLink.Proofs.Transfer.Boundaries
import OnboardLink.Proofs.Checksum.Order
import OnboardLink.Proofs.Frame.Scattered
import OnboardLink.Proofs.Transfer.Accounting
import OnboardLink.Proofs.Router.Accounting
import OnboardLink.Proofs.SpacePacket.Acceptance
import OnboardLink.Proofs.Transfer.Atomicity
import OnboardLink.Proofs.Transfer.Stream
import OnboardLink.Proofs.Frame.Access
import OnboardLink.Proofs.SpacePacket.Access
import OnboardLink.Proofs.Transfer.Access
import OnboardLink.Proofs.CommandLine.Access
import OnboardLink.Proofs.Router.Reordering
import OnboardLink.Proofs.Router.SetUp
import OnboardLink.Proofs.CommandLine.ExitCode
import OnboardLink.Proofs.CommandLine.RoundTrip
import OnboardLink.Proofs.CommandLine.RouteSources
import OnboardLink.Proofs.SpacePacket.Writers
import OnboardLink.Proofs.Transfer.Outcomes
import OnboardLink.Proofs.Octets.Stream
import OnboardLink.Proofs.Frame.Stream
import OnboardLink.Proofs.SpacePacket.Concatenation
import OnboardLink.Proofs.Router.ClosedForm
import OnboardLink.Proofs.Router.Locality
import OnboardLink.Proofs.Router.Credits
import OnboardLink.Proofs.Link.FlowControl
import OnboardLink.Proofs.Checksum.Initial
import OnboardLink.Proofs.Frame.LeadingZeros
import OnboardLink.Proofs.Text.HexLanguage
import OnboardLink.Proofs.Text.NumberLanguage
import OnboardLink.Proofs.CommandLine.ArgumentTexts
import OnboardLink.Proofs.Checksum.Linearity
import OnboardLink.Proofs.Json.Settings
