import Sluice.Client
import Sluice.Config.Builder
import Sluice.Dispatch.Engine
import Sluice.Exchange.Recorder
import Sluice.Main
import Sluice.Proofs.Exchange.Completion
import Sluice.Proofs.Exchange.Head
import Sluice.Proofs.Exchange.Resolution
import Sluice.Proofs.Exchange.Transfer
import Sluice.Scenario.Steps
import Sluice.Proofs.Cookie.Encoding
import Sluice.Proofs.Exchange.Concatenation
import Sluice.Proofs.Exchange.Steady
import Sluice.Proofs.Exchange.Agreement
import Sluice.Proofs.Server.Lifecycle
import Sluice.Proofs.Command.Acceptance
import Sluice.Proofs.Rendering.Passthrough
import Sluice.Proofs.Cookie.Attributes
import Sluice.Proofs.Cookie.Reading
import Sluice.Proofs.Exchange.Cookies
import Sluice.Proofs.Text.Percent
import Sluice.Proofs.Exchange.Target
import Sluice.Proofs.Chain.Composition
import Sluice.Proofs.Rendering.Failures
import Sluice.Proofs.Dispatch.Answering
import Sluice.Proofs.Dispatch.Running
import Sluice.Proofs.Server.Listening
import Sluice.Proofs.Exchange.Queue
import Sluice.Proofs.Cookie.Lifetime
import Sluice.Proofs.Dispatch.Recording
import Sluice.Proofs.Exchange.History
import Sluice.Proofs.Headers.Multimap
import Sluice.Proofs.Exchange.Commitment
import Sluice.Proofs.Exchange.Construction
import Sluice.Proofs.Exchange.Handover
import Sluice.Proofs.Headers.Appending
import Sluice.Proofs.Exchange.Scan
import Sluice.Proofs.Cookie.Grammar
import Sluice.Proofs.Config.Expansion
import Sluice.Proofs.Rendering.Flattening
import Sluice.Proofs.Rendering.Exclusion
import Sluice.Proofs.Rendering.Settlement
import Sluice.Proofs.Tls.Construction
import Sluice.Proofs.Rendering.Disclosure
