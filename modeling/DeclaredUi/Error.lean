import DeclaredUi.Text.Quoted

/-! What can go wrong, by cause. A configuration fault lies in the plug-ins or
in the declaration, a rendering error comes from a plug-in and keeps its
message, and an internal error is a failure nobody foresaw. -/

namespace DeclaredUi

/-- A fault in the plug-ins, in a declaration or in the order of calls. -/
inductive ConfigurationFault where
  | emptyName
  /-- A plug-in is registered under a name that starts with the marker. -/
  | markedName (name : String)
  | duplicateName (name : String)
  | invalidSignature (name signature : String)
  /-- A plug-in does not say whether it is a component or a helper. -/
  | missingRole (name : String)
  /-- A plug-in says that it is both or neither. -/
  | conflictingRoles (name : String)
  | notAMap (kind : String)
  | noRootComponent
  | ambiguous (candidates : List String)
  /-- An explicit name starts with the marker. -/
  | markedReference (key name : String)
  | unknownReference (key name : String)
  | referenceNotString (key found : String)
  | bindPathNotString (found : String)
  | renderUnparsed
  | queryUnparsed (operation : String)
deriving DecidableEq, Repr, Inhabited

namespace ConfigurationFault

private def between (before : String) (name : String) (after : String) : String :=
  before ++ name ++ after

private def unparsed (operation : String) : String :=
  between "Cannot " operation
    " without UI configured, must call Ui::parse_ui(ui_config) first"

def message : ConfigurationFault → String
  | .emptyName => "implementation name cannot be the empty string"
  | .markedName name =>
    between "implementation key '" name
      "' must not start with the $ symbol, use the un-prefixed name"
  | .duplicateName name => between "implementation '" name "' is registered more than once"
  | .invalidSignature name signature =>
    between "implementation for '" name
      "' must accept two positional parameters for config and env, " ++
      "and optionally a render_child callback. Actual signature: " ++ signature
  | .missingRole name =>
    between "implementation for '" name "' must provide a component? or helper? predicate method"
  | .conflictingRoles name =>
    between "implementation for '" name
      "' must provide opposite truth values for component? and helper? methods"
  | .notAMap kind => "ui_config must be a map, given: " ++ kind
  | .noRootComponent =>
    "ui_config must declare a component at the top-level that is present in implementation_map"
  | .ambiguous candidates =>
    between "Multiple Exclaim elements defined at one configuration level: "
      (Quoted.names candidates) ". Only one allowed."
  | .markedReference key name =>
    "Invalid: \"" ++ key ++ "\": \"" ++ name ++ "\", when declaring explicit \"" ++ key ++
      "\" do not prefix the name with \"$\""
  | .unknownReference key name =>
    "ui_config declares \"" ++ key ++ "\": \"" ++ name ++ "\" which has no matching implementation"
  | .referenceNotString key found => "\"" ++ key ++ "\" name must be a string, found " ++ found
  | .bindPathNotString found => "$bind path must be a string, found " ++ found
  | .renderUnparsed => unparsed "render"
  | .queryUnparsed operation => unparsed ("compute " ++ operation)

end ConfigurationFault

inductive Error where
  | configuration (fault : ConfigurationFault)
  /-- A plug-in failed; the message is its own. -/
  | rendering (element message : String)
  | internal (message : String)
deriving DecidableEq, Repr, Inhabited

namespace Error

def message : Error → String
  | .configuration fault => fault.message
  | .rendering _ message => message
  | .internal message => "Internal error: " ++ message

end Error

end DeclaredUi
