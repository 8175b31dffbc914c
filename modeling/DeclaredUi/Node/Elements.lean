import DeclaredUi.Node.Basic

/-! The elements of a tree in pre-order: an element before those in its config,
fields and items from left to right. `Walk` hands them out one by one from a
stack of what is left; `Node.preorder` lists them by recursion on the tree. -/

namespace DeclaredUi

inductive Element where
  | bind (bind : Bind)
  | invocation (role : Role) (invocation : Invocation)

namespace Element

/-- The name of an element; every bind is called `bind`. -/
def name : Element → String
  | .bind _ => "bind"
  | .invocation _ used => used.name

def declaration : Element → Json
  | .bind reference => reference.declaration
  | .invocation _ used => used.declaration

def kind : Element → String
  | .bind _ => "bind"
  | .invocation role _ => role.text

def bindPath? : Element → Option String
  | .bind reference => some reference.path
  | .invocation .. => none

def subtrees : Element → List Node
  | .bind _ => []
  | .invocation _ used => [used.config]

end Element

namespace Node

def element? : Node → Option Element
  | .bind reference => some (.bind reference)
  | .invocation role name plugin config declaration =>
    some (.invocation role ⟨name, plugin, config, declaration⟩)
  | _ => none

mutual

/-- The elements of a subtree, each before the elements of its config. -/
def preorder : Node → List Element
  | .bind reference => [.bind reference]
  | .invocation role name plugin config declaration =>
    .invocation role ⟨name, plugin, config, declaration⟩ :: preorder config
  | .map fields => preorderFields fields
  | .sequence items => preorderItems items
  | .scalar _ => []

def preorderItems : List Node → List Element
  | [] => []
  | item :: rest => preorder item ++ preorderItems rest

def preorderFields : List (String × Node) → List Element
  | [] => []
  | (_, node) :: rest => preorder node ++ preorderFields rest

end

@[simp] theorem preorderItems_eq_flatMap (items : List Node) :
    preorderItems items = items.flatMap preorder := by
  induction items with
  | nil => rfl
  | cons item rest ih => simp [preorderItems, ih]

@[simp] theorem preorderFields_eq_flatMap (fields : List (String × Node)) :
    preorderFields fields = fields.flatMap fun pair => preorder pair.2 := by
  induction fields with
  | nil => rfl
  | cons pair rest ih => simp [preorderFields, ih]

mutual

/-- How many steps a walk takes below a node: one for itself, one more for an
element that is handed out. -/
def steps : Node → Nat
  | .bind _ => 1
  | .invocation _ _ _ config _ => steps config + 2
  | .map fields => stepsFields fields + 1
  | .sequence items => stepsItems items + 1
  | .scalar _ => 1

def stepsItems : List Node → Nat
  | [] => 0
  | item :: rest => steps item + stepsItems rest

def stepsFields : List (String × Node) → Nat
  | [] => 0
  | (_, node) :: rest => steps node + stepsFields rest

end

end Node

/-- A walk in progress: elements to hand out and subtrees to look through, the
next one first. -/
inductive Walk.Frame where
  | element (element : Element)
  | subtree (node : Node)

structure Walk where
  stack : List Walk.Frame

namespace Walk

def Frame.ofItems (items : List Node) : List Frame := items.map .subtree

def Frame.ofFields (fields : List (String × Node)) : List Frame :=
  fields.map fun pair => .subtree pair.2

def Frame.steps : Frame → Nat
  | .element found => Node.stepsItems found.subtrees + 1
  | .subtree node => node.steps

def stepsOf : List Frame → Nat
  | [] => 0
  | frame :: rest => frame.steps + stepsOf rest

private theorem stepsOf_append (front back : List Frame) :
    stepsOf (front ++ back) = stepsOf front + stepsOf back := by
  induction front with
  | nil => simp [stepsOf]
  | cons frame rest ih => simp [stepsOf, ih, Nat.add_assoc]

private theorem stepsOf_ofItems (items : List Node) :
    stepsOf (Frame.ofItems items) = Node.stepsItems items := by
  induction items with
  | nil => rfl
  | cons item rest ih => exact congrArg (item.steps + ·) ih

private theorem stepsOf_ofFields (fields : List (String × Node)) :
    stepsOf (Frame.ofFields fields) = Node.stepsFields fields := by
  induction fields with
  | nil => rfl
  | cons pair rest ih => exact congrArg (pair.2.steps + ·) ih

/-- Hands out the next element, looking through plain data on the way. -/
def nextOf : List Frame → Option (Element × List Frame)
  | [] => none
  | .element found :: rest => some (found, Frame.ofItems found.subtrees ++ rest)
  | .subtree (.bind reference) :: rest => some (.bind reference, rest)
  | .subtree (.invocation role name plugin config declaration) :: rest =>
    some (.invocation role ⟨name, plugin, config, declaration⟩, .subtree config :: rest)
  | .subtree (.map fields) :: rest => nextOf (Frame.ofFields fields ++ rest)
  | .subtree (.sequence items) :: rest => nextOf (Frame.ofItems items ++ rest)
  | .subtree (.scalar _) :: rest => nextOf rest
termination_by stack => stepsOf stack
decreasing_by
  · rw [stepsOf_append, stepsOf_ofFields]
    simp [stepsOf, Frame.steps, Node.steps]
  · rw [stepsOf_append, stepsOf_ofItems]
    simp [stepsOf, Frame.steps, Node.steps]
  · simp [stepsOf, Frame.steps, Node.steps]

def next? (walk : Walk) : Option (Element × Walk) :=
  (nextOf walk.stack).map fun found => (found.1, ⟨found.2⟩)

/-- Handing out an element leaves fewer steps. -/
theorem stepsOf_nextOf (stack : List Frame) (element : Element) (rest : List Frame)
    (found : nextOf stack = some (element, rest)) : stepsOf rest < stepsOf stack := by
  fun_induction nextOf stack with
  | case1 => simp at found
  | case2 element' rest' =>
    simp only [Option.some.injEq, Prod.mk.injEq] at found
    obtain ⟨rfl, rfl⟩ := found
    rw [stepsOf_append, stepsOf_ofItems]
    simp [stepsOf, Frame.steps]
  | case3 bind rest' =>
    simp only [Option.some.injEq, Prod.mk.injEq] at found
    obtain ⟨rfl, rfl⟩ := found
    simp [stepsOf, Frame.steps, Node.steps]
  | case4 role name plugin config declaration rest' =>
    simp only [Option.some.injEq, Prod.mk.injEq] at found
    obtain ⟨rfl, rfl⟩ := found
    simp [stepsOf, Frame.steps, Node.steps]
  | case5 fields rest' ih =>
    have h := ih found
    rw [stepsOf_append, stepsOf_ofFields] at h
    simp only [stepsOf, Frame.steps, Node.steps] at h ⊢
    omega
  | case6 items rest' ih =>
    have h := ih found
    rw [stepsOf_append, stepsOf_ofItems] at h
    simp only [stepsOf, Frame.steps, Node.steps] at h ⊢
    omega
  | case7 value rest' ih =>
    have h := ih found
    simp only [stepsOf, Frame.steps, Node.steps] at h ⊢
    omega

theorem stepsOf_next? {walk rest : Walk} {element : Element}
    (found : walk.next? = some (element, rest)) : stepsOf rest.stack < stepsOf walk.stack := by
  unfold next? at found
  obtain ⟨⟨element', stack⟩, hfound, heq⟩ := Option.map_eq_some_iff.1 found
  obtain ⟨-, rfl⟩ := Prod.mk.inj heq
  exact stepsOf_nextOf walk.stack element' stack hfound

/-- Hands out the next element that passes a test; the others are dropped. -/
def find? (accepts : Element → Bool) (walk : Walk) : Option (Element × Walk) :=
  match _found : walk.next? with
  | some (element, rest) => if accepts element then some (element, rest) else rest.find? accepts
  | none => none
termination_by stepsOf walk.stack
decreasing_by exact stepsOf_next? _found

theorem stepsOf_find? {accepts : Element → Bool} {walk rest : Walk} {element : Element}
    (found : walk.find? accepts = some (element, rest)) :
    stepsOf rest.stack < stepsOf walk.stack := by
  fun_induction find? accepts walk with
  | case1 walk element' rest' hnext haccepts =>
    obtain ⟨-, rfl⟩ := Prod.mk.inj (Option.some.inj found)
    exact stepsOf_next? hnext
  | case2 walk element' rest' hnext haccepts ih => exact Nat.lt_trans (ih found) (stepsOf_next? hnext)
  | case3 => cases found

/-- All elements that a stack still hands out. -/
def drain (stack : List Frame) : List Element :=
  match _found : nextOf stack with
  | some (element, rest) => element :: drain rest
  | none => []
termination_by stepsOf stack
decreasing_by exact stepsOf_nextOf stack element rest _found

def toList (walk : Walk) : List Element := drain walk.stack

end Walk

def Node.elements (node : Node) : Walk := ⟨[.subtree node]⟩

def Invocation.elements (component : Invocation) : Walk :=
  ⟨[.element (.invocation .component component)]⟩

end DeclaredUi
