import DeclaredUi.Json.Basic

/-! The options of a user interface and their form as a document. -/

namespace DeclaredUi

structure Options where
  /-- Escape the strings in a config before a component sees them. -/
  escapeHtml : Bool := true
deriving DecidableEq, Repr, Inhabited

namespace Options

def escapeHtmlKey : String := "escape_html"

def ofFlag? : Json → Option Options
  | .bool escapeHtml => some ⟨escapeHtml⟩
  | _ => none

/-- Options from a map by key or from a list by place. An option that is left
out has its default, an unknown key is ignored, and a surplus item is refused. -/
def ofJson? : Json → Option Options
  | .object fields =>
    match fields.lookup escapeHtmlKey with
    | some flag => ofFlag? flag
    | none => some {}
  | .array [] => some {}
  | .array [flag] => ofFlag? flag
  | _ => none

def toJson (options : Options) : Json := .object [(escapeHtmlKey, .bool options.escapeHtml)]

theorem ofJson?_toJson (options : Options) : ofJson? options.toJson = some options := by
  simp [ofJson?, toJson, ofFlag?]

end Options

end DeclaredUi
