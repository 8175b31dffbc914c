import DeclaredUi.Reference.Components
import DeclaredUi.Reference.Helpers
import DeclaredUi.Registry

/-! The reference plug-ins under their usual names. -/

namespace DeclaredUi

namespace Reference

def table : List (String × Plugin) :=
  [("each", .component each),
   ("image", .component image),
   ("if", .helper fun config _ => .ok (choose config)),
   ("join", .helper fun config _ => .ok (join config)),
   ("let", .component scope),
   ("paragraph", .component paragraph),
   ("text", .component text),
   ("vbox", .component vbox)]

def plugins : Plugins := .ofList (table.map Prod.snd)

def mapping : List (String × PluginId) :=
  (table.map Prod.fst).zipIdx.map fun entry => (entry.1, ⟨entry.2⟩)

def registry : Registry where
  entries :=
    [⟨"each", ⟨0⟩, .component⟩, ⟨"image", ⟨1⟩, .component⟩, ⟨"if", ⟨2⟩, .helper⟩,
     ⟨"join", ⟨3⟩, .helper⟩, ⟨"let", ⟨4⟩, .component⟩, ⟨"paragraph", ⟨5⟩, .component⟩,
     ⟨"text", ⟨6⟩, .component⟩, ⟨"vbox", ⟨7⟩, .component⟩]

/-- It is what registering the table in order comes to. -/
theorem ofList_mapping : Registry.ofList plugins mapping = .ok registry := rfl

end Reference

end DeclaredUi
