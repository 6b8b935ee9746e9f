import Handoff.Document.Remote
import Handoff.Reading
import Handoff.Proofs.Component.Choice
import Handoff.Proofs.Component.Faults
import Handoff.Proofs.Component.Selectors
import Handoff.Proofs.Document.Recovered
import Handoff.Proofs.Markup.Preserved
import Handoff.Proofs.Json.Texts
import Handoff.Proofs.Markup.Closing
import Handoff.Proofs.Markup.Escape
import Handoff.Proofs.Naming.Slug
import Handoff.Proofs.Script.Declarations
import Handoff.Proofs.Component.Declarations
import Handoff.Proofs.Json.Records
import Handoff.Proofs.Scene.Places
import Handoff.Proofs.Scene.Rearranged
import Handoff.Proofs.Clock.Date
import Handoff.Proofs.Style.Color
