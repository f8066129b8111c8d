import PromptGraph.Main
import PromptGraph.Proofs.Events
import PromptGraph.Proofs.Indexed
import PromptGraph.Proofs.Places
import PromptGraph.Proofs.Compile
import PromptGraph.Proofs.Resolve
import PromptGraph.Proofs.Wiring
import PromptGraph.Proofs.Cycle
import PromptGraph.Proofs.Growth
import PromptGraph.Proofs.Flat
import PromptGraph.Proofs.Shift
import PromptGraph.Proofs.ShiftedPrompt
import PromptGraph.Proofs.Scripts
import PromptGraph.Proofs.Replay
import PromptGraph.Proofs.LastOfEach
import PromptGraph.Proofs.Json.Numerals
import PromptGraph.Proofs.Json.Quotes
import PromptGraph.Proofs.Json.Says
import PromptGraph.Proofs.Json.Printed
import PromptGraph.Proofs.Json.Accepted
import PromptGraph.Proofs.PromptText
import PromptGraph.Proofs.Json.TooDeep
import PromptGraph.Proofs.Reload
import PromptGraph.Proofs.Recorded
import PromptGraph.Proofs.Lenient
import PromptGraph.Proofs.Issued
import PromptGraph.Proofs.References
import PromptGraph.Proofs.Catalog
import PromptGraph.Proofs.Bare
import PromptGraph.Proofs.ResolveExact
import PromptGraph.Proofs.Admission
import PromptGraph.Proofs.Returned
import PromptGraph.Proofs.Calls
import PromptGraph.Proofs.Addition
import PromptGraph.Proofs.Lasting
import PromptGraph.Proofs.Declarations
import PromptGraph.Proofs.Ascending
import PromptGraph.Proofs.Json.Rearranged
import PromptGraph.Proofs.Json.Steady
import PromptGraph.Proofs.Documents
import PromptGraph.Proofs.PromptKeys
import PromptGraph.Proofs.CatalogText
import PromptGraph.Proofs.SpecText
import PromptGraph.Proofs.Listed
import PromptGraph.Proofs.Stages
import PromptGraph.Proofs.Workflow
