import TagWeave.Config.SchemaDocument
import TagWeave.Main
import TagWeave.Proofs.Render.Calls
import TagWeave.Proofs.Render.Pool
import TagWeave.Proofs.Render.Limit
import TagWeave.Proofs.Render.Result
import TagWeave.Proofs.ViewTag.Coverage
import TagWeave.Proofs.ViewTag.Substitution
import TagWeave.Proofs.Render.InsertionOrder
import TagWeave.Proofs.Retrieval.Kept
import TagWeave.Proofs.Lasting
import TagWeave.Proofs.Retrieval.History
import TagWeave.Proofs.Log.Handlers
import TagWeave.Proofs.Config.Session
import TagWeave.Proofs.Retrieval.Uncached
import TagWeave.Proofs.Render.Caching
import TagWeave.Proofs.Render.Session
import TagWeave.Proofs.ViewTag.Brackets
import TagWeave.Proofs.Render.Contents
import TagWeave.Proofs.Render.Termination
import TagWeave.Proofs.Render.Cancellation
import TagWeave.Proofs.Retrieval.Leaves
import TagWeave.Proofs.Retrieval.Untouched
import TagWeave.Proofs.Mustache.Stencil
import TagWeave.Proofs.ViewTag.Junctions
import TagWeave.Proofs.Mustache.Values
import TagWeave.Proofs.Interpolation.EmptyBindings
import TagWeave.Proofs.Render.Bindings
import TagWeave.Proofs.Markup.Written
import TagWeave.Proofs.ViewTag.Written
import TagWeave.Proofs.ViewTag.Division
import TagWeave.Proofs.Render.Failure
import TagWeave.Proofs.Retrieval.Entries
import TagWeave.Proofs.Retrieval.Interleaving
import TagWeave.Proofs.Retrieval.Visits
import TagWeave.Proofs.Retrieval.Chains
import TagWeave.Proofs.Render.FinalErrors
import TagWeave.Proofs.Files.Normal
import TagWeave.Proofs.Retrieval.Confinement
import TagWeave.Proofs.Markup.Pieces
import TagWeave.Proofs.ViewTag.Provenance
import TagWeave.Proofs.Config.Overrides
import TagWeave.Proofs.Config.Loading
import TagWeave.Proofs.Interpolation.Files
import TagWeave.Proofs.Interpolation.Escapes
import TagWeave.Proofs.Value.Merge
import TagWeave.Proofs.Retrieval.Invalidation
import TagWeave.Proofs.Config.Settings
import TagWeave.Proofs.Render.Checks
import TagWeave.Proofs.Registry.Session
