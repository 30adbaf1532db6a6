import DocLoad.Main
import DocLoad.File.Tree
import DocLoad.Proofs.Bson.Equality
import DocLoad.Proofs.Except
import DocLoad.Proofs.Store.Identifiers
import DocLoad.Proofs.Store.Failure
import DocLoad.Proofs.Playing
import DocLoad.Proofs.Answering
import DocLoad.Proofs.Text.Blank
import DocLoad.Proofs.Settings.StoreUrl
import DocLoad.Proofs.Settings.Precedence
import DocLoad.Proofs.Session.Calls
import DocLoad.Proofs.Render.Legible
import DocLoad.Proofs.Render.Unambiguous
import DocLoad.Proofs.Query.Grammar
import DocLoad.Proofs.Bson.Path
import DocLoad.Proofs.Store.Matching
import DocLoad.Proofs.Session.Performing
import DocLoad.Proofs.Store.Update
import DocLoad.Proofs.Session.Routes
import DocLoad.Proofs.Loading
import DocLoad.Proofs.Session.Importing
import DocLoad.Proofs.Store.Accounting
import DocLoad.Proofs.Store.Written
import DocLoad.Proofs.Number.Exact
import DocLoad.Proofs.Number.Rounding
import DocLoad.Proofs.Server.Replacement
import DocLoad.Proofs.Store.KeyLookup
import DocLoad.Proofs.Store.Effect
import DocLoad.Proofs.Store.Sameness
import DocLoad.Proofs.Store.Repetition
import DocLoad.Proofs.Store.Interchange
import DocLoad.Proofs.Store.Selection
import DocLoad.Proofs.Store.Staging
import DocLoad.Proofs.Store.FirstMatch
import DocLoad.Proofs.Store.Acknowledgment
import DocLoad.Proofs.Store.Conjunction
import DocLoad.Proofs.Number.Numerals
import DocLoad.Proofs.Query.Literals
import DocLoad.Proofs.Store.TypedFilter
import DocLoad.Proofs.Store.Numbers
import DocLoad.Proofs.Number.Positional
import DocLoad.Proofs.Render.Breaking
import DocLoad.Proofs.Render.Indentation
import DocLoad.Proofs.Session.Blanks
import DocLoad.Proofs.Store.Writing
import DocLoad.Proofs.Outcome
import DocLoad.Proofs.Server.Ordering
