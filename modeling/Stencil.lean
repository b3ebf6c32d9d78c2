import Stencil.Main
import Stencil.Site.CollectionStore
import Stencil.Template.LazyScope
import Stencil.Proofs.Render.Simulate
import Stencil.Proofs.Inheritance.Compose
import Stencil.Proofs.Render.Unnamed
import Stencil.Proofs.Render.Settled
import Stencil.Proofs.Render.Branch
import Stencil.Proofs.Eval.Pipeline
import Stencil.Proofs.Function.Standard
import Stencil.Proofs.Inheritance.Ancestry
import Stencil.Proofs.Render.Faithful
import Stencil.Proofs.Render.LoopBodies
import Stencil.Proofs.Engine.Page
import Stencil.Proofs.Render.Truth
import Stencil.Proofs.Value.Order
import Stencil.Proofs.Site.Ordering
import Stencil.Proofs.Site.TagCloud
import Stencil.Proofs.Render.Counting
import Stencil.Proofs.Render.Leftovers
import Stencil.Proofs.Filter.Fold
import Stencil.Proofs.Inheritance.Revisit
import Stencil.Proofs.Eval.Fault
import Stencil.Proofs.Render.Fault
import Stencil.Proofs.Engine.Circular
import Stencil.Proofs.Render.Settling
import Stencil.Proofs.Token.Spans
import Stencil.Proofs.File.Layouts
import Stencil.Proofs.Site.Remembering
import Stencil.Proofs.Site.Neighbours
import Stencil.Proofs.Site.Parents
import Stencil.Proofs.Site.Archive
import Stencil.Proofs.Render.Scoping
import Stencil.Proofs.Site.Address
import Stencil.Proofs.Value.Mapping
import Stencil.Proofs.Site.Data
import Stencil.Proofs.Site.Settings
import Stencil.Proofs.Number.Nearest
import Stencil.Proofs.Function.Comparison
import Stencil.Proofs.Value.Coercion
import Stencil.Proofs.Function.Absolute
import Stencil.Proofs.Site.Menus
import Stencil.Proofs.Site.Trail
import Stencil.Proofs.Site.Related
import Stencil.Proofs.Site.FrontMatter
import Stencil.Proofs.Site.Extract
import Stencil.Proofs.Markup.Escape
import Stencil.Proofs.Text.Slug
import Stencil.Proofs.Markup.Tags
import Stencil.Proofs.Function.Lists
import Stencil.Proofs.Function.Registration
import Stencil.Proofs.Site.Dated
import Stencil.Proofs.Render.Literals
import Stencil.Proofs.Filter.Sort
import Stencil.Proofs.Eval.Joined
