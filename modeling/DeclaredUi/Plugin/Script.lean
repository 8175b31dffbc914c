import DeclaredUi.Error
import DeclaredUi.Value.Basic

/-! What a plug-in does when it is called: finish with a value, fail, or ask for
a child to be rendered and go on with the answer. A script is plain data, so a
statement about all scripts is a statement about all plug-ins. Nothing goes on
after a panic. -/

namespace DeclaredUi

/-- How a plug-in says that it failed. -/
inductive PluginError where
  | plain (message : String)
  /-- By an error it was handed or made. -/
  | raised (error : Error)
  /-- By another error, under a remark. -/
  | context (remark : String) (cause : PluginError)
deriving DecidableEq, Repr

namespace PluginError

/-- The text of the outermost layer. -/
def text : PluginError → String
  | .plain message => message
  | .raised error => error.message
  | .context remark _ => remark

/-- The error under all remarks, if it was raised as one. -/
def raised? : PluginError → Option Error
  | .plain _ => none
  | .raised error => some error
  | .context _ cause => cause.raised?

/-- The error that reaches the caller of `element`: a raised one unchanged, any
other as a rendering error of this element. -/
def blame (element : String) (error : PluginError) : Error :=
  error.raised?.getD (.rendering element error.text)

end PluginError

inductive Failure where
  | error (error : PluginError)
  | panic (message : String)
deriving DecidableEq, Repr

/-- The steps of a call. -/
inductive Script (α : Type) where
  | done (result : α)
  | fail (failure : Failure)
  /-- Has a child rendered in an environment and goes on with the answer. -/
  | renderChild (child env : Value) (next : Except Error Value → Script α)

namespace Script

variable {α β : Type}

def bind : Script α → (α → Script β) → Script β
  | .done result, next => next result
  | .fail failure, _ => .fail failure
  | .renderChild child env rest, next =>
    .renderChild child env fun answer => (rest answer).bind next

instance : Monad Script where
  pure := .done
  bind := bind

@[simp] theorem pure_eq (result : α) : (pure result : Script α) = .done result := rfl

@[simp] theorem done_bind (result : α) (next : α → Script β) :
    (Script.done result >>= next) = next result := rfl

@[simp] theorem fail_bind (failure : Failure) (next : α → Script β) :
    (Script.fail failure >>= next) = .fail failure := rfl

@[simp] theorem renderChild_bind (child env : Value) (rest : Except Error Value → Script α)
    (next : α → Script β) :
    (Script.renderChild child env rest >>= next) =
      .renderChild child env fun answer => rest answer >>= next := rfl

instance : LawfulMonad Script := LawfulMonad.mk' _
  (fun script => by
    induction script with
    | done result => rfl
    | fail failure => rfl
    | renderChild child env rest ih => exact congrArg (renderChild child env) (funext ih))
  (fun _ _ => rfl)
  (fun script _ _ => by
    induction script with
    | done result => rfl
    | fail failure => rfl
    | renderChild child env rest ih => exact congrArg (renderChild child env) (funext ih))

def ofExcept : Except Failure α → Script α
  | .ok result => .done result
  | .error failure => .fail failure

/-- Has a child rendered and looks at the answer, errors included. -/
def attempt (child env : Value) : Script (Except Error Value) :=
  .renderChild child env .done

/-- Has a child rendered and passes an error on. -/
def render (child env : Value) : Script Value :=
  .renderChild child env fun
    | .ok value => .done value
    | .error error => .fail (.error (.raised error))

/-- Runs a script by itself: every child comes back as it is. -/
def detached : Script α → Except Failure α
  | .done result => .ok result
  | .fail failure => .error failure
  | .renderChild child _ next => (next (.ok child)).detached

end Script

end DeclaredUi
