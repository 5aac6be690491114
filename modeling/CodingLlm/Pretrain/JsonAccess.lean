import CodingLlm.Library.JsonTrees
import CodingLlm.Pretrain.PackedManifest

/-!
# Python access to JSON trees

Subscripts, `get`, `dict` and `==` on what `json.loads` returns, with the
exceptions that they raise.
-/

namespace CodingLlm

theorem mapError_eq_ok
    {α : Type} {action : Checked α} {error : PyError -> PyError} {value : α} :
    action.mapError error = .ok value ↔ action = .ok value := by
  cases action <;> simp [Except.mapError]

namespace JsonTree

/-! ## Access -/

/-- `isinstance(value, Mapping)`. -/
def IsMapping (tree : JsonTree) : Prop := tree.fields?.isSome

instance (tree : JsonTree) : Decidable tree.IsMapping :=
  inferInstanceAs (Decidable (_ = _))

/-- `value[key]`. -/
def subscript (tree : JsonTree) (key : String) : Checked JsonTree :=
  match tree with
  | .object fields => requireObject (fields.lookup key) (.keyError key)
  | _ => .error (.typeError "value is not subscriptable by a string")

/-- `value[first][second]...`. -/
def subscripts (tree : JsonTree) (keys : List String) : Checked JsonTree :=
  keys.foldlM subscript tree

/-- `value.get(key)`. -/
def get (tree : JsonTree) (key : String) : Checked JsonTree :=
  match tree with
  | .object fields => .ok ((fields.lookup key).getD null)
  | _ => .error (.attributeError "get")

/-- `dict(value)`. -/
def toDict (tree : JsonTree) : Checked JsonTree :=
  match tree with
  | .object fields => .ok (.object fields)
  | _ => .error (.typeError "value is not a mapping")

/-- `value.pop(key, None)`: the value, and what is left of the object. -/
def pop (tree : JsonTree) (key : String) : Checked (JsonTree × JsonTree) :=
  match tree with
  | .object fields => .ok ((fields.lookup key).getD null,
      .object (fields.filter fun field => field.1 ≠ key))
  | .array _ => .error (.typeError "pop expected at most 1 argument")
  | .scalar _ => .error (.attributeError "pop")

/-- What `value[key] = item` makes of an object. -/
def setField (tree : JsonTree) (key : String) (item : JsonTree) : JsonTree :=
  match tree with
  | .object fields =>
      if (fields.lookup key).isSome then
        .object (fields.map fun field =>
          if field.1 = key then (key, item) else field)
      else .object (fields ++ [(key, item)])
  | other => other

/-- `set(value) == {...}` for an object. -/
def HasExactly (tree : JsonTree) (names : List String) : Prop :=
  tree.IsMapping ∧ tree.names ⊆ names ∧ names ⊆ tree.names

instance (tree : JsonTree) (names : List String) :
    Decidable (tree.HasExactly names) :=
  inferInstanceAs (Decidable (_ ∧ _))

/-- What is the same has the same names. -/
theorem Same.hasExactly_iff
    {left right : JsonTree} {names : List String}
    (same : left.Same right) :
    left.HasExactly names ↔ right.HasExactly names := by
  have mapping : left.IsMapping ↔ right.IsMapping := by
    have root := same.node_eq
    cases left <;> cases right <;> simp_all [node, IsMapping, fields?]
  have names (name : String) := @mem_names_iff left right same name
  simp only [HasExactly, mapping, List.subset_def, names]

end JsonTree

/-- The number that a scalar compares as, if it is one. -/
def JsonScalar.number? : JsonScalar -> Option Rat
  | .bool value => some (if value then 1 else 0)
  | .int value => some value
  | .float value => some value
  | _ => none

/-- `left == right` on scalars. -/
def JsonScalar.equals (left right : JsonScalar) : Bool :=
  match left.number?, right.number? with
  | some first, some second => first = second
  | _, _ => left = right

theorem JsonScalar.equals_refl (scalar : JsonScalar) :
    scalar.equals scalar = true := by
  unfold equals
  cases scalar.number? <;> simp

namespace JsonTree

mutual

/-- `left == right`: objects are compared field by field, in any order. -/
def equals : JsonTree -> JsonTree -> Bool
  | .scalar left, .scalar right => left.equals right
  | .array left, .array right => equalsItems left right
  | .object left, .object right =>
      equalsFields left right &&
        right.all fun field => (left.lookup field.1).isSome
  | _, _ => false

def equalsItems : List JsonTree -> List JsonTree -> Bool
  | [], [] => true
  | left :: lefts, right :: rights =>
      equals left right && equalsItems lefts rights
  | _, _ => false

def equalsFields :
    List (String × JsonTree) -> List (String × JsonTree) -> Bool
  | [], _ => true
  | (name, value) :: fields, others =>
      (match others.lookup name with
        | some other => equals value other
        | none => false) && equalsFields fields others

end

/-- `tree.get(key) == value`, for a value that is not `None`. -/
def fieldEquals (tree : JsonTree) (key : String) (value : JsonTree) : Bool :=
  (tree.field? key).any fun item => item.equals value

theorem equalsFields_iff
    {left others : List (String × JsonTree)} :
    equalsFields left others = true ↔
      ∀ field ∈ left, ∃ other, others.lookup field.1 = some other ∧
        field.2.equals other = true := by
  induction left with
  | nil => simp [equalsFields]
  | cons field fields inductionHypothesis =>
      obtain ⟨name, value⟩ := field
      rw [equalsFields, Bool.and_eq_true, inductionHypothesis,
        List.forall_mem_cons]
      cases others.lookup name <;> simp

theorem equalsItems_iff {left right : List JsonTree} :
    equalsItems left right = true ↔
      List.Forall₂ (fun item other => item.equals other = true) left right := by
  induction left generalizing right with
  | nil => cases right <;> simp [equalsItems]
  | cons item items inductionHypothesis =>
      cases right with
      | nil => simp [equalsItems]
      | cons other others =>
          rw [equalsItems, Bool.and_eq_true, inductionHypothesis,
            List.forall₂_cons]

/-- An equal object has every field of the other. -/
theorem exists_of_equals
    {left : JsonTree} {right : List (String × JsonTree)}
    {key : String} {value : JsonTree}
    (equal : left.equals (.object right) = true)
    (found : right.lookup key = some value) :
    ∃ item, left.field? key = some item ∧ item.equals value = true := by
  match left with
  | .scalar _ => cases equal
  | .array _ => cases equal
  | .object fields =>
      rw [equals, Bool.and_eq_true, equalsFields_iff, List.all_eq_true] at equal
      obtain ⟨before, after, rfl, -⟩ := List.lookup_eq_some_iff.mp found
      have present := equal.2 (key, value) (by simp)
      obtain ⟨item, known⟩ := Option.isSome_iff_exists.mp present
      obtain ⟨front, back, rfl, -⟩ := List.lookup_eq_some_iff.mp known
      obtain ⟨other, same, itemEqual⟩ := equal.1 (key, item) (by simp)
      rw [found] at same
      cases same
      exact ⟨item, known, itemEqual⟩

/-- Objects with different names are equal when their fields are, by name. -/
theorem equals_of_fields
    {left right : List (String × JsonTree)}
    (nodup : (left.map Prod.fst).Nodup)
    (names : ∀ name, (left.lookup name).isSome ↔ (right.lookup name).isSome)
    (values : ∀ name item value, left.lookup name = some item ->
      right.lookup name = some value -> item.equals value = true) :
    (object left).equals (object right) = true := by
  rw [equals, Bool.and_eq_true, equalsFields_iff, List.all_eq_true]
  refine ⟨fun field listed => ?_, fun field listed => ?_⟩
  · have found : left.lookup field.1 = some field.2 := by
      obtain ⟨before, after, rfl⟩ := List.append_of_mem listed
      refine List.lookup_eq_some_iff.mpr ⟨before, after, rfl, ?_⟩
      intro entry inside
      rw [List.map_append, List.map_cons, List.nodup_append] at nodup
      refine bne_iff_ne.mpr fun equal => ?_
      exact nodup.2.2 _ (List.mem_map_of_mem inside) _ List.mem_cons_self
        equal.symm
    obtain ⟨value, known⟩ := Option.isSome_iff_exists.mp
      ((names field.1).mp (by rw [found]; rfl))
    exact ⟨value, known, values _ _ _ found known⟩
  · rw [names]
    have present : field.1 ∈ (object right).names :=
      List.mem_map_of_mem listed
    exact mem_names_iff.mp present

/-- Only a string equals itself. -/
theorem equals_str_iff {item : JsonTree} {text : String} :
    item.equals (str text) = true ↔ item = str text := by
  match item with
  | .scalar (.str value) => simp [str, equals, JsonScalar.equals,
      JsonScalar.number?]
  | .scalar .null => simp [str, equals, JsonScalar.equals, JsonScalar.number?]
  | .scalar (.bool _) =>
      simp [str, equals, JsonScalar.equals, JsonScalar.number?]
  | .scalar (.int _) =>
      simp [str, equals, JsonScalar.equals, JsonScalar.number?]
  | .scalar (.float _) =>
      simp [str, equals, JsonScalar.equals, JsonScalar.number?]
  | .array _ => simp [str, equals]
  | .object _ => simp [str, equals]

/-- Among integers only the same one is equal. -/
theorem equals_int_int {left right : Int} :
    (int left).equals (int right) = true ↔ left = right := by
  simp [int, equals, JsonScalar.equals, JsonScalar.number?]

/-- What is the same is equal, where names are not repeated. -/
theorem IsDistinct.equals
    {left right : JsonTree}
    (distinct : left.IsDistinct)
    (same : left.Same right) : left.equals right = true := by
  induction right using induction_on generalizing left with
  | scalar value =>
      rw [same.eq_scalar, JsonTree.equals, JsonScalar.equals_refl]
  | array items inductionHypothesis =>
      obtain ⟨others, rfl, related⟩ := same.exists_items
      cases distinct with
      | array _ distinct =>
          rw [JsonTree.equals, equalsItems_iff]
          refine List.forall₂_iff_get.mpr
            ⟨related.length_eq, fun index first second => ?_⟩
          exact inductionHypothesis _ (List.getElem_mem second)
            (distinct _ (List.getElem_mem first))
            (related.get first second)
  | object fields inductionHypothesis =>
      obtain ⟨others, rfl⟩ := same.exists_fields
      cases distinct with
      | object _ nodup distinct =>
          refine equals_of_fields nodup (fun name => ?_) ?_
          · rw [← field?_object, ← field?_object, ← mem_names_iff,
              ← mem_names_iff]
            exact same.mem_names_iff
          · intro name item value found known
            have below := same.field name
            rw [field?_object, field?_object, found, known] at below
            cases below with
            | some related =>
                exact inductionHypothesis _ (mem_of_lookup known)
                  (distinct _ (mem_of_lookup found)) related

/-! ## Sameness of literals -/

/-- What is the same as a literal object. -/
theorem same_object_iff
    {tree : JsonTree} {fields : List (String × JsonTree)}
    (nodup : (fields.map Prod.fst).Nodup) :
    tree.Same (.object fields) ↔
      tree.HasExactly (fields.map Prod.fst) ∧
        ∀ field ∈ fields, ∃ item, tree.field? field.1 = some item ∧
          item.Same field.2 := by
  have known (field : String × JsonTree) (listed : field ∈ fields) :
      fields.lookup field.1 = some field.2 := by
    obtain ⟨before, after, rfl⟩ := List.append_of_mem listed
    refine List.lookup_eq_some_iff.mpr ⟨before, after, rfl, ?_⟩
    intro entry inside
    rw [List.map_append, List.map_cons, List.nodup_append] at nodup
    refine bne_iff_ne.mpr fun equal => ?_
    exact nodup.2.2 _ (List.mem_map_of_mem inside) _ List.mem_cons_self
      equal.symm
  constructor
  · intro same
    refine ⟨same.hasExactly_iff.mpr ⟨rfl, fun _ => id, fun _ => id⟩,
      fun field listed => ?_⟩
    have below := same.field field.1
    rw [field?_object, known field listed] at below
    generalize tree.field? field.1 = found at below
    cases below with
    | some related => exact ⟨_, rfl, related⟩
  · rintro ⟨⟨isMapping, inside, covers⟩, items⟩
    match tree with
    | .object others =>
        refine same_of_lookup fun name => ?_
        cases found : fields.lookup name with
        | some value =>
            obtain ⟨item, read, same⟩ := items _ (mem_of_lookup found)
            rw [field?_object] at read
            rw [read]
            exact .some same
        | none =>
            have absent : name ∉ (object fields).names := by
              rw [mem_names_iff, field?_object, found]
              decide
            have missing : name ∉ (object others).names :=
              fun member => absent (inside member)
            rw [mem_names_iff, field?_object, Bool.not_eq_true,
              Option.isSome_eq_false_iff, Option.isNone_iff_eq_none] at missing
            rw [missing]
            exact .none

/-- `value is True`. -/
def isTrue (tree : JsonTree) : Bool :=
  match tree with
  | .scalar (.bool true) => true
  | _ => false

/-- `value is False`. -/
def isFalse (tree : JsonTree) : Bool :=
  match tree with
  | .scalar (.bool false) => true
  | _ => false

/-- `value == "..."`. -/
def EqualsStr (tree : JsonTree) (text : String) : Prop :=
  tree.str? = some text

instance (tree : JsonTree) (text : String) : Decidable (tree.EqualsStr text) :=
  inferInstanceAs (Decidable (_ = _))

theorem subscript_eq_ok
    {tree item : JsonTree} {key : String} :
    tree.subscript key = .ok item ↔ tree.field? key = some item := by
  cases tree with
  | scalar value => simp [subscript]
  | array items => simp [subscript]
  | object fields =>
      rw [subscript, field?_object]
      cases fields.lookup key <;> simp [requireObject]

end JsonTree
end CodingLlm
