import Mathlib.Data.List.Forall2
import Mathlib.Data.Rat.Defs

/-!
# JSON trees

Trees of scalars, arrays and objects.  Two trees are the same when every path
leads to the same kind of node in both, so that the order of the fields of an
object does not matter.
-/

namespace CodingLlm

/-- A JSON scalar. -/
inductive JsonScalar
  | null
  | bool (value : Bool)
  | int (value : Int)
  | float (value : Rat)
  | str (value : String)
  deriving DecidableEq

/-- A JSON tree.  The first field of a name is the one that counts. -/
inductive JsonTree
  | scalar (value : JsonScalar)
  | array (items : List JsonTree)
  | object (fields : List (String × JsonTree))

namespace JsonTree

/-! ## Equality -/

mutual

/-- Whether two trees are equal, the order of their fields included. -/
def decEq : (left right : JsonTree) -> Decidable (left = right)
  | .scalar left, .scalar right =>
      decidable_of_iff (left = right) (by simp)
  | .array left, .array right =>
      have := decEqItems left right
      decidable_of_iff (left = right) (by simp)
  | .object left, .object right =>
      have := decEqFields left right
      decidable_of_iff (left = right) (by simp)
  | .scalar _, .array _ => .isFalse nofun
  | .scalar _, .object _ => .isFalse nofun
  | .array _, .scalar _ => .isFalse nofun
  | .array _, .object _ => .isFalse nofun
  | .object _, .scalar _ => .isFalse nofun
  | .object _, .array _ => .isFalse nofun

def decEqItems : (left right : List JsonTree) -> Decidable (left = right)
  | [], [] => .isTrue rfl
  | left :: lefts, right :: rights =>
      have := decEq left right
      have := decEqItems lefts rights
      decidable_of_iff (left = right ∧ lefts = rights) (by simp)
  | [], _ :: _ => .isFalse nofun
  | _ :: _, [] => .isFalse nofun

def decEqFields :
    (left right : List (String × JsonTree)) -> Decidable (left = right)
  | [], [] => .isTrue rfl
  | (name, left) :: lefts, (other, right) :: rights =>
      have := decEq left right
      have := decEqFields lefts rights
      decidable_of_iff (name = other ∧ left = right ∧ lefts = rights)
        (by simp [and_assoc])
  | [], _ :: _ => .isFalse nofun
  | _ :: _, [] => .isFalse nofun

end

instance : DecidableEq JsonTree := decEq

/-! ## Induction -/

/-- Induction on a tree, with its items and the values of its fields. -/
theorem induction_on
    {motive : JsonTree -> Prop}
    (tree : JsonTree)
    (scalar : ∀ value, motive (.scalar value))
    (array : ∀ items, (∀ item ∈ items, motive item) -> motive (.array items))
    (object : ∀ fields,
      (∀ field ∈ fields, motive field.2) -> motive (.object fields)) :
    motive tree := by
  match tree with
  | .scalar value => exact scalar value
  | .array items =>
      exact array items fun item _ => induction_on item scalar array object
  | .object fields =>
      refine object fields fun field member => ?_
      have smaller : sizeOf field.2 < sizeOf field := by
        obtain ⟨name, value⟩ := field
        rw [Prod.mk.sizeOf_spec]
        dsimp only
        omega
      have := List.sizeOf_lt_of_mem member
      exact induction_on field.2 scalar array object
termination_by sizeOf tree

/-! ## Access -/

def null : JsonTree := .scalar .null
def bool (value : Bool) : JsonTree := .scalar (.bool value)
def int (value : Int) : JsonTree := .scalar (.int value)
def str (value : String) : JsonTree := .scalar (.str value)

/-- The fields of an object. -/
def fields? : JsonTree -> Option (List (String × JsonTree))
  | .object fields => some fields
  | _ => none

/-- The items of an array. -/
def items? : JsonTree -> Option (List JsonTree)
  | .array items => some items
  | _ => none

/-- The text of a string. -/
def str? : JsonTree -> Option String
  | .scalar (.str value) => some value
  | _ => none

/-- The value of an integer. -/
def int? : JsonTree -> Option Int
  | .scalar (.int value) => some value
  | _ => none

/-- The field of an object with a name. -/
def field? (tree : JsonTree) (name : String) : Option JsonTree :=
  tree.fields?.bind fun fields => fields.lookup name

/-- The names of the fields of an object. -/
def names (tree : JsonTree) : List String :=
  (tree.fields?.getD []).map Prod.fst

@[simp] theorem field?_object
    (fields : List (String × JsonTree))
    (name : String) :
    (object fields).field? name = fields.lookup name := rfl

@[simp] theorem field?_scalar (value : JsonScalar) (name : String) :
    (scalar value).field? name = none := rfl

@[simp] theorem field?_array (items : List JsonTree) (name : String) :
    (array items).field? name = none := rfl

/-- A step of a path. -/
inductive Step
  | field (name : String)
  | item (index : Nat)
  deriving DecidableEq

/-- The child that a step leads to. -/
def child? (tree : JsonTree) : Step -> Option JsonTree
  | .field name => tree.field? name
  | .item index => tree.items?.bind fun items => items[index]?

/-- The tree that a path leads to. -/
def at? (tree : JsonTree) : List Step -> Option JsonTree
  | [] => some tree
  | step :: path => (tree.child? step).bind fun child => child.at? path

@[simp] theorem at?_nil (tree : JsonTree) : tree.at? [] = some tree := rfl

theorem at?_cons (tree : JsonTree) (step : Step) (path : List Step) :
    tree.at? (step :: path) =
      (tree.child? step).bind fun child => child.at? path := rfl

/-! ## Sameness -/

/-- What is seen of a tree at its root. -/
inductive Node
  | scalar (value : JsonScalar)
  | array (length : Nat)
  | object
  deriving DecidableEq

def node : JsonTree -> Node
  | .scalar value => .scalar value
  | .array items => .array items.length
  | .object _ => .object

/-- Every path leads to the same in both trees. -/
def Same (left right : JsonTree) : Prop :=
  ∀ path, (left.at? path).map node = (right.at? path).map node

variable {left right third tree : JsonTree}

theorem Same.refl (tree : JsonTree) : tree.Same tree := fun _ => rfl

theorem Same.node_eq (same : left.Same right) : left.node = right.node :=
  Option.some.inj (same [])

/-- Scalars are the same only as themselves. -/
theorem Same.eq_scalar
    {value : JsonScalar}
    (same : left.Same (scalar value)) : left = scalar value := by
  have root := same.node_eq
  cases left with
  | scalar other => exact congrArg scalar (Node.scalar.inj root)
  | array items => cases root
  | object fields => cases root

/-- Children of the same trees are the same. -/
theorem Same.child
    (same : left.Same right) (step : Step) :
    Option.Rel Same (left.child? step) (right.child? step) := by
  have below (path : List Step) := same (step :: path)
  simp only [at?_cons] at below
  cases first : left.child? step with
  | none =>
      cases second : right.child? step with
      | none => exact .none
      | some child =>
          rw [first, second] at below
          cases below []
  | some child =>
      cases second : right.child? step with
      | none =>
          rw [first, second] at below
          cases below []
      | some other =>
          rw [first, second] at below
          exact .some below

theorem Same.field
    (same : left.Same right) (name : String) :
    Option.Rel Same (left.field? name) (right.field? name) :=
  same.child (.field name)

/-- A scalar field is the same only as itself. -/
theorem Same.field?_eq_scalar
    {name : String} {value : JsonScalar}
    (same : left.Same right)
    (found : right.field? name = some (scalar value)) :
    left.field? name = some (scalar value) := by
  have related := same.field name
  rw [found] at related
  generalize left.field? name = other at related
  cases related with
  | some equal => exact congrArg some equal.eq_scalar

/-- What is the same as an array is an array of the same items. -/
theorem Same.exists_items
    {items : List JsonTree}
    (same : left.Same (array items)) :
    ∃ others, left = array others ∧ List.Forall₂ Same others items := by
  have root := same.node_eq
  cases left with
  | scalar other => cases root
  | object fields => cases root
  | array others =>
      refine ⟨others, rfl, List.forall₂_iff_get.mpr
        ⟨Node.array.inj root, fun index first second => ?_⟩⟩
      have child := same.child (.item index)
      simp only [child?, items?, Option.bind_some, List.getElem?_eq_getElem
        first, List.getElem?_eq_getElem second] at child
      cases child with
      | some related => exact related

/-- What is the same as an array of strings is that array. -/
theorem Same.eq_strings {texts : List String}
    (same : left.Same (array (texts.map str))) :
    left = array (texts.map str) := by
  obtain ⟨others, rfl, related⟩ := same.exists_items
  rw [List.forall₂_map_right_iff] at related
  have equal : List.Forall₂ (fun other text => other = str text) others
      texts := related.imp fun _ _ same => same.eq_scalar
  rw [← List.forall₂_map_right_iff, List.forall₂_eq_eq_eq] at equal
  rw [equal]

/-- What is the same as an object is an object. -/
theorem Same.exists_fields
    {fields : List (String × JsonTree)}
    (same : left.Same (object fields)) :
    ∃ others, left = object others := by
  have root := same.node_eq
  cases left with
  | scalar other => cases root
  | array items => cases root
  | object others => exact ⟨others, rfl⟩

/-! ## Names -/

theorem mem_names_iff {name : String} :
    name ∈ tree.names ↔ (tree.field? name).isSome := by
  cases tree with
  | scalar value => simp [names, fields?]
  | array items => simp [names, fields?]
  | object fields =>
      simp only [names, fields?, Option.getD_some, field?_object]
      induction fields with
      | nil => simp
      | cons field fields inductionHypothesis =>
          obtain ⟨first, value⟩ := field
          rw [List.map_cons, List.mem_cons, inductionHypothesis,
            List.lookup_cons]
          by_cases equal : name = first
          · simp [equal]
          · simp [equal, beq_eq_false_iff_ne.mpr equal]

theorem Same.mem_names_iff
    (same : left.Same right) {name : String} :
    name ∈ left.names ↔ name ∈ right.names := by
  rw [JsonTree.mem_names_iff, JsonTree.mem_names_iff]
  have related := same.field name
  generalize left.field? name = first at related
  generalize right.field? name = second at related
  cases related with
  | none => rfl
  | some _ => rfl

theorem mem_of_lookup
    {fields : List (String × JsonTree)}
    {name : String} {value : JsonTree}
    (found : fields.lookup name = some value) : (name, value) ∈ fields := by
  obtain ⟨before, after, equal, -⟩ := List.lookup_eq_some_iff.mp found
  simp [equal]

/-- Objects whose fields are the same by name are the same. -/
theorem same_of_lookup
    {left right : List (String × JsonTree)}
    (related : ∀ name, Option.Rel Same (left.lookup name) (right.lookup name)) :
    (object left).Same (object right) := by
  intro path
  cases path with
  | nil => rfl
  | cons step path =>
      rw [at?_cons, at?_cons]
      cases step with
      | item index => rfl
      | field name =>
          have below := related name
          simp only [child?, field?_object]
          generalize left.lookup name = first at below ⊢
          generalize right.lookup name = second at below ⊢
          cases below with
          | none => rfl
          | some same => exact same path

/-- Arrays of the same items are the same. -/
theorem same_of_items
    {left right : List JsonTree}
    (related : List.Forall₂ Same left right) :
    (array left).Same (array right) := by
  intro path
  cases path with
  | nil => simp [node, related.length_eq]
  | cons step path =>
      rw [at?_cons, at?_cons]
      cases step with
      | field name => rfl
      | item index =>
          simp only [child?, items?, Option.bind_some]
          by_cases inside : index < left.length
          · have also : index < right.length := by
              rwa [← related.length_eq]
            rw [List.getElem?_eq_getElem inside, List.getElem?_eq_getElem also]
            exact related.get inside also path
          · rw [List.getElem?_eq_none (by omega), List.getElem?_eq_none
              (by have := related.length_eq; omega)]

/-- The fields of every object have different names. -/
inductive IsDistinct : JsonTree -> Prop
  | scalar (value : JsonScalar) : IsDistinct (.scalar value)
  | array
      (items : List JsonTree)
      (distinct : ∀ item ∈ items, IsDistinct item) : IsDistinct (.array items)
  | object
      (fields : List (String × JsonTree))
      (nodup : (fields.map Prod.fst).Nodup)
      (distinct : ∀ field ∈ fields, IsDistinct field.2) :
      IsDistinct (.object fields)

/-! ## Fields removed at every depth -/

section Without

variable (removed : String -> Bool)

mutual

/-- The tree without the fields of some names, at every depth. -/
def without : JsonTree -> JsonTree
  | .scalar value => .scalar value
  | .array items => .array (withoutItems items)
  | .object fields => .object (withoutFields fields)

def withoutItems : List JsonTree -> List JsonTree
  | [] => []
  | item :: items => without item :: withoutItems items

def withoutFields : List (String × JsonTree) -> List (String × JsonTree)
  | [] => []
  | (name, value) :: fields =>
      if removed name then withoutFields fields
      else (name, without value) :: withoutFields fields

end

theorem withoutItems_eq (items : List JsonTree) :
    withoutItems removed items = items.map (without removed) := by
  induction items with
  | nil => rfl
  | cons item items inductionHypothesis =>
      rw [withoutItems, inductionHypothesis, List.map_cons]

theorem lookup_withoutFields
    (fields : List (String × JsonTree))
    (name : String) :
    (withoutFields removed fields).lookup name =
      if removed name then none
      else (fields.lookup name).map (without removed) := by
  induction fields with
  | nil => simp [withoutFields]
  | cons field fields inductionHypothesis =>
      obtain ⟨first, value⟩ := field
      rw [withoutFields, List.lookup_cons]
      by_cases equal : name = first
      · subst equal
        by_cases gone : removed name
        · rw [if_pos gone, if_pos gone, inductionHypothesis, if_pos gone]
        · simp [gone]
      · have different : (name == first) = false := beq_eq_false_iff_ne.mpr equal
        rw [different]
        by_cases gone : removed first
        · rw [if_pos gone, inductionHypothesis]
        · rw [if_neg gone, List.lookup_cons, different, inductionHypothesis]

/-- A step through a removed field. -/
def Step.isRemoved : Step -> Bool
  | .field name => removed name
  | .item _ => false

theorem child?_without (tree : JsonTree) (step : Step) :
    (tree.without removed).child? step =
      if step.isRemoved removed then none
      else (tree.child? step).map (without removed) := by
  cases step with
  | field name =>
      cases tree with
      | scalar value => simp [without, child?]
      | array items => simp [without, child?]
      | object fields => exact lookup_withoutFields removed fields name
  | item index =>
      cases tree with
      | scalar value => rfl
      | object fields => rfl
      | array items =>
          simp [without, child?, items?, withoutItems_eq, Step.isRemoved]

@[simp] theorem node_without (tree : JsonTree) :
    (tree.without removed).node = tree.node := by
  cases tree with
  | scalar value => rfl
  | object fields => rfl
  | array items =>
      rw [without, node, node, withoutItems_eq, List.length_map]

/-- Paths through removed fields lead nowhere, and all others to what they led
to before. -/
theorem at?_without (tree : JsonTree) (path : List Step) :
    ((tree.without removed).at? path).map node =
      if path.any (Step.isRemoved removed) then none
      else (tree.at? path).map node := by
  induction path generalizing tree with
  | nil => simp
  | cons step path inductionHypothesis =>
      rw [at?_cons, at?_cons, child?_without, List.any_cons]
      cases gone : step.isRemoved removed with
      | true => rfl
      | false =>
          cases tree.child? step with
          | none => simp
          | some child => simpa using inductionHypothesis child

end Without

end JsonTree
end CodingLlm
