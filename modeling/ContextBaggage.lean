import ContextBaggage.Baggage.Cursor
import ContextBaggage.Baggage.Inspect
import ContextBaggage.Host
import ContextBaggage.Proofs.Octets
import ContextBaggage.Proofs.Segments
import ContextBaggage.Proofs.Fitting
import ContextBaggage.Proofs.WellFormed
import ContextBaggage.Proofs.RoundTrip
import ContextBaggage.Proofs.Lighter
import ContextBaggage.Proofs.Hops
import ContextBaggage.Proofs.Ledger
import ContextBaggage.Proofs.Account
import ContextBaggage.Proofs.Printable
import ContextBaggage.Proofs.Crossing
import ContextBaggage.Proofs.Grammar
import ContextBaggage.Proofs.Outcome
import ContextBaggage.Proofs.Changes
import ContextBaggage.Proofs.Positions
import ContextBaggage.Proofs.Respelling
import ContextBaggage.Proofs.Places
import ContextBaggage.Proofs.Extending
import ContextBaggage.Proofs.Thinning
import ContextBaggage.Proofs.Commuting
import ContextBaggage.Proofs.Extent
import ContextBaggage.Proofs.Gathering
import ContextBaggage.Proofs.Dropping
import ContextBaggage.Proofs.Nesting
import ContextBaggage.Proofs.Reading
import ContextBaggage.Proofs.Writing
import ContextBaggage.Proofs.Names
import ContextBaggage.Proofs.Listing
