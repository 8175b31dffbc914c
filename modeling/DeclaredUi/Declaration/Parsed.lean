import DeclaredUi.Error

/-! The result of parsing, with the warnings given on the way to it. Warnings
are kept whether parsing ends well or not. -/

namespace DeclaredUi

/-- Something odd in a declaration that is no fault: a marked key that names no
plug-in. -/
structure Warning where
  key : String
deriving DecidableEq, Repr

def Warning.message (warning : Warning) : String :=
  "ui_config includes key \"" ++ warning.key ++ "\" which has no matching implementation"

/-- A result or the first fault, and the warnings up to there. -/
structure Parsed (α : Type) where
  warnings : List Warning
  result : Except ConfigurationFault α

namespace Parsed

variable {α β : Type}

def ok (value : α) : Parsed α := ⟨[], .ok value⟩

def fault (fault : ConfigurationFault) : Parsed α := ⟨[], .error fault⟩

/-- Goes on with a result; the warnings of both parts are kept in order. -/
def bind (parsed : Parsed α) (next : α → Parsed β) : Parsed β :=
  match parsed.result with
  | .ok value => ⟨parsed.warnings ++ (next value).warnings, (next value).result⟩
  | .error fault => ⟨parsed.warnings, .error fault⟩

instance : Monad Parsed where
  pure := ok
  bind := bind

instance : LawfulMonad Parsed := LawfulMonad.mk' _
  (fun ⟨warnings, result⟩ => by
    cases result with
    | error fault => rfl
    | ok value =>
      change Parsed.mk (warnings ++ []) (.ok value) = _
      rw [List.append_nil])
  (fun value next => by
    change Parsed.mk ([] ++ (next value).warnings) (next value).result = next value
    rw [List.nil_append])
  (fun ⟨warnings, result⟩ next after => by
    cases result with
    | error fault => rfl
    | ok value =>
      change bind (bind ⟨warnings, .ok value⟩ next) after =
        bind ⟨warnings, .ok value⟩ fun value => bind (next value) after
      simp only [bind]
      cases (next value).result with
      | error fault => rfl
      | ok value' => simp only [List.append_assoc])

end Parsed

end DeclaredUi
