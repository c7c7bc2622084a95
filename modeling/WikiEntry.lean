import WikiEntry.Decimal
import WikiEntry.Hook.Script
import WikiEntry.Proofs.Hook.Growing
import WikiEntry.Proofs.Hook.Identity
import WikiEntry.Proofs.Hook.Pairing
import WikiEntry.Proofs.Redirect.Cycles
import WikiEntry.Proofs.Redirect.Landing
import WikiEntry.Proofs.Redirect.Refusing
import WikiEntry.Proofs.Redirect.Settling
import WikiEntry.Proofs.Request.Boundaries
import WikiEntry.Proofs.Request.Parameters
import WikiEntry.Proofs.SpecialPage.Typing
import WikiEntry.Proofs.Title.Contained
import WikiEntry.Proofs.Title.RoundTrip
import WikiEntry.Proofs.Title.Words
import WikiEntry.Proofs.Wiki.Accepted
import WikiEntry.Proofs.Wiki.Links
import WikiEntry.Proofs.Wiki.Tables
import WikiEntry.Wiki.Running
