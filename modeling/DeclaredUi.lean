import DeclaredUi.Fixture
import DeclaredUi.Main
import DeclaredUi.Proofs.CommandLine
import DeclaredUi.Proofs.Declaration.Extension
import DeclaredUi.Proofs.Declaration.KeyOrder
import DeclaredUi.Proofs.Declaration.Name
import DeclaredUi.Proofs.Declaration.ReadBack
import DeclaredUi.Proofs.Html.Codec
import DeclaredUi.Proofs.Reference.Bounded
import DeclaredUi.Proofs.Reference.Boxes
import DeclaredUi.Proofs.Reference.Each
import DeclaredUi.Proofs.Reference.Escape
import DeclaredUi.Proofs.Reference.Explicit
import DeclaredUi.Proofs.Reference.Handed
import DeclaredUi.Proofs.Reference.Image
import DeclaredUi.Proofs.Reference.Leaves
import DeclaredUi.Proofs.Reference.Listing
import DeclaredUi.Proofs.Reference.Unfailing
import DeclaredUi.Proofs.Registry.Acceptance
import DeclaredUi.Proofs.Render.BindPaths
import DeclaredUi.Proofs.Render.Boundary
import DeclaredUi.Proofs.Render.Markup
import DeclaredUi.Proofs.Render.Origin
import DeclaredUi.Proofs.Ui.Binds
import DeclaredUi.Proofs.Ui.History
import DeclaredUi.Proofs.Value.Address
import DeclaredUi.Proofs.Value.Document
import DeclaredUi.Proofs.Value.Equality
import DeclaredUi.Proofs.Value.Shape
import DeclaredUi.Proofs.Equality
import DeclaredUi.Proofs.Value.Equality
