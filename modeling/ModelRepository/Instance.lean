import ModelRepository.Pointer

/-! Classifier instances, the nodes and annotations of a model.
An instance carries its feature values in lists keyed by pointers. The lists keep the order in
which they arrived, and a pointer may repeat; reading a feature looks at its first entry.
-/

namespace ModelRepository

/-- The value of one property; an absent value is unset. -/
structure Property where
  pointer : Pointer
  value : Option String
  deriving DecidableEq, Inhabited

/-- The children that one containment holds. -/
structure Containment where
  pointer : Pointer
  children : List String
  deriving DecidableEq, Inhabited

/-- One entry of a reference: an identifier, a hint for resolving it later, or both. -/
structure Target where
  id : Option String
  resolveInfo : Option String
  deriving DecidableEq, Inhabited

/-- The entries of one reference. -/
structure Reference where
  pointer : Pointer
  targets : List Target
  deriving DecidableEq, Inhabited

namespace Target

/-- An empty entry names neither an identifier nor a hint. -/
def isEmpty (target : Target) : Bool :=
  target.id.isNone && target.resolveInfo.isNone

/-- Entries are listed by identifier and then by hint. -/
def order : Target → Target → Ordering :=
  compareLex (fun a b => compareAbsentLast a.id b.id)
    (fun a b => compareAbsentLast a.resolveInfo b.resolveInfo)

/-- Only equal entries have the same place in the order, by cases on both. -/
theorem order_eq_iff (a b : Target) : order a b = .eq ↔ a = b := by
  cases a
  cases b
  simp [order, compareLex, Ordering.then_eq_eq]

instance : Ord Target := ⟨order⟩

instance : Std.TransOrd Target :=
  have := transCmp_absentLast_on Target.id
  have := transCmp_absentLast_on Target.resolveInfo
  inferInstanceAs (Std.TransCmp (compareLex _ _))

instance : Std.LawfulEqOrd Target where
  eq_of_compare h := (order_eq_iff _ _).mp h

end Target

/-- A node or annotation of a model. -/
structure Instance where
  id : String
  classifier : Pointer
  parent : Option String := none
  properties : List Property := []
  containments : List Containment := []
  references : List Reference := []
  annotations : List String := []
  annotated : Option String := none
  deriving DecidableEq, Inhabited

/-- Changes the first element that satisfies `p`; where none does, `fresh` joins at the end. -/
def changeFirstOr {α : Type} (p : α → Bool) (change : α → α) (fresh : α) : List α → List α
  | [] => [fresh]
  | a :: rest => if p a then change a :: rest else a :: changeFirstOr p change fresh rest

namespace Instance

/-- A root records no parent. -/
def isRoot (node : Instance) : Bool :=
  node.parent.isNone

/-- The identifiers listed in the containments, in list order. -/
def childIds (node : Instance) : List String :=
  node.containments.flatMap Containment.children

/-- The identifiers the instance owns: its children and then its annotations. -/
def ownedIds (node : Instance) : List String :=
  node.childIds ++ node.annotations

/-- Whether `id` is listed as a child or as an annotation. -/
def lists (node : Instance) (id : String) : Bool :=
  node.ownedIds.contains id

/-- The children of the first containment under `pointer`. -/
def childrenOf (node : Instance) (pointer : Pointer) : List String :=
  match node.containments.find? (·.pointer = pointer) with
  | some containment => containment.children
  | none => []

/-- The value of the first property under `pointer`. -/
def property? (node : Instance) (pointer : Pointer) : Option String :=
  (node.properties.find? (·.pointer = pointer)).bind Property.value

/-- The value of the first property whose pointer has the key `key`. -/
def propertyByKey? (node : Instance) (key : String) : Option String :=
  (node.properties.find? (·.pointer.key = some key)).bind Property.value

/-- The identifiers that reference entries point at, in list order. -/
def referenceTargets (node : Instance) : List String :=
  (node.references.flatMap Reference.targets).filterMap Target.id

/-- The key of the property that holds a name. -/
def nameKey : String :=
  "LionCore-builtins-INamed-name"

/-- The name of the instance, when it carries one. -/
def name? (node : Instance) : Option String :=
  node.propertyByKey? nameKey

/-- Sets the first property under `pointer`, or adds one. -/
def setProperty (node : Instance) (pointer : Pointer) (value : Option String) : Instance :=
  { node with
    properties := changeFirstOr (·.pointer = pointer) ({ · with value }) ⟨pointer, value⟩
      node.properties }

/-- Appends a child to the first containment under `pointer`, or adds the containment. -/
def addChild (node : Instance) (pointer : Pointer) (child : String) : Instance :=
  { node with
    containments := changeFirstOr (·.pointer = pointer)
      (fun containment => { containment with children := containment.children ++ [child] })
      ⟨pointer, [child]⟩ node.containments }

/-- Appends an entry to the first reference under `pointer`, or adds the reference. -/
def addTarget (node : Instance) (pointer : Pointer) (target : Target) : Instance :=
  { node with
    references := changeFirstOr (·.pointer = pointer)
      (fun reference => { reference with targets := reference.targets ++ [target] })
      ⟨pointer, [target]⟩ node.references }

/-- Appends an annotation. -/
def annotateWith (node : Instance) (annotationId : String) : Instance :=
  { node with annotations := node.annotations ++ [annotationId] }

/-- Records a parent. -/
def withParent (node : Instance) (parent : String) : Instance :=
  { node with parent := some parent }

/-- Makes the instance an annotation of `host`. -/
def annotating (node : Instance) (host : String) : Instance :=
  { node with parent := some host, annotated := some host }

/-- Strikes `id` from every containment and from the annotations. -/
def disown (node : Instance) (id : String) : Instance :=
  { node with
    containments := node.containments.map fun containment =>
      { containment with children := containment.children.filter (· ≠ id) }
    annotations := node.annotations.filter (· ≠ id) }

end Instance

end ModelRepository
