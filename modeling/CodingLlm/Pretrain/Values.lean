import Mathlib.Data.List.Forall2
import Mathlib.Data.Rat.Defs

/-!
# Python values and errors

The JSON scalars that manifests hold, with Python's equality and type tests on
them, and the exceptions the modelled functions raise.
-/

namespace CodingLlm

/-- Exception classes raised by the modelled functions. -/
inductive ErrorClass
  | valueError
  | typeError
  | ioError
  | runtimeError
  | assertionError
  | indexError
  | fileExistsError
  | fileNotFoundError
  | memoryError
  | chatFormatError
  | integrityError
  | structError
  | operationalError
  | overflowError
  | keyError
  | attributeError
  deriving DecidableEq, Repr

/-- A raised exception: its class and the constant part of its text. -/
structure PyError where
  errorClass : ErrorClass
  text : String
  deriving DecidableEq, Repr

namespace PyError

def valueError (text : String) : PyError := ⟨.valueError, text⟩
def typeError (text : String) : PyError := ⟨.typeError, text⟩
def ioError (text : String) : PyError := ⟨.ioError, text⟩
def runtimeError (text : String) : PyError := ⟨.runtimeError, text⟩
def assertionError (text : String) : PyError := ⟨.assertionError, text⟩
def indexError (text : String) : PyError := ⟨.indexError, text⟩
def fileExistsError (text : String) : PyError := ⟨.fileExistsError, text⟩
def fileNotFoundError (text : String) : PyError := ⟨.fileNotFoundError, text⟩
def memoryError (text : String) : PyError := ⟨.memoryError, text⟩
def integrityError (text : String) : PyError := ⟨.integrityError, text⟩
def structError (text : String) : PyError := ⟨.structError, text⟩
def keyError (text : String) : PyError := ⟨.keyError, text⟩
def attributeError (text : String) : PyError := ⟨.attributeError, text⟩

end PyError

/-- A computation that may raise. -/
abbrev Checked (α : Type) : Type := Except PyError α

/-- `if not condition: raise error`, keeping the condition as evidence. -/
def require (condition : Prop) [Decidable condition] (error : PyError) :
    Checked (PLift condition) :=
  if holds : condition then .ok ⟨holds⟩ else .error error

theorem require_eq_ok
    {condition : Prop} [Decidable condition] {error : PyError}
    (holds : condition) :
    require condition error = .ok ⟨holds⟩ :=
  dif_pos holds

theorem require_eq_error
    {condition : Prop} [Decidable condition] {error : PyError}
    (fails : ¬condition) :
    require condition error = .error error :=
  dif_neg fails

/-- A check succeeds exactly when its condition holds. -/
@[simp] theorem require_eq_ok_iff
    {condition : Prop} [Decidable condition] {error : PyError}
    {proof : PLift condition} :
    require condition error = .ok proof ↔ condition :=
  ⟨fun _ => proof.down, require_eq_ok⟩

/-- Sequencing of checked computations. -/
theorem checked_bind_eq_ok
    {first : Checked α} {next : α -> Checked β} {value : β} :
    (first >>= next) = .ok value ↔
      ∃ middle, first = .ok middle ∧ next middle = .ok value := by
  cases first with
  | error error =>
      constructor
      · intro equal
        cases equal
      · rintro ⟨_, equal, _⟩
        cases equal
  | ok middle =>
      constructor
      · intro equal
        exact ⟨middle, rfl, equal⟩
      · rintro ⟨_, equal, rest⟩
        cases equal
        exact rest

@[simp] theorem checked_ok_bind (value : α) (next : α -> Checked β) :
    ((Except.ok value : Checked α) >>= next) = next value := rfl

/-- A passed check continues with its evidence. -/
theorem require_bind
    {condition : Prop} [Decidable condition] {error : PyError}
    (holds : condition) (next : PLift condition -> Checked β) :
    (require condition error >>= next) = next ⟨holds⟩ := by
  rw [require_eq_ok holds, checked_ok_bind]

/-- A computation guarded by a check succeeds exactly when the check holds and
the rest succeeds. -/
theorem require_then_eq_ok
    {condition : Prop} [Decidable condition] {error : PyError}
    {rest : Checked α} {value : α} :
    (require condition error >>= fun _ => rest) = .ok value ↔
      condition ∧ rest = .ok value := by
  rw [checked_bind_eq_ok]
  constructor
  · rintro ⟨proof, _, equal⟩
    exact ⟨proof.down, equal⟩
  · rintro ⟨holds, equal⟩
    exact ⟨⟨holds⟩, require_eq_ok holds, equal⟩

/-- A passed check as evidence for the rest. -/
theorem exists_require
    {condition : Prop} [Decidable condition] {error : PyError}
    {rest : PLift condition -> Prop} :
    (∃ proof, require condition error = .ok proof ∧ rest proof) ↔
      ∃ holds : condition, rest ⟨holds⟩ := by
  constructor
  · rintro ⟨proof, -, holds⟩
    exact ⟨proof.down, holds⟩
  · rintro ⟨holds, continues⟩
    exact ⟨⟨holds⟩, require_eq_ok holds, continues⟩

/-- A computation that is checked to succeed has a result. -/
theorem exists_of_isOk {computation : Checked α}
    (succeeds : computation.isOk = true) :
    ∃ value, computation = .ok value := by
  cases computation with
  | ok value => exact ⟨value, rfl⟩
  | error error => cases succeeds

@[simp] theorem checked_pure_eq_ok {value result : α} :
    (pure value : Checked α) = .ok result ↔ value = result := by
  constructor
  · intro equal
    cases equal
    rfl
  · rintro rfl
    rfl

/-- A loop of checks passes exactly when every check does. -/
theorem checked_forM_eq_ok
    {items : List α} {check : α -> Checked Unit} :
    items.forM check = .ok () ↔ ∀ item ∈ items, check item = .ok () := by
  induction items with
  | nil => simp [pure, Except.pure]
  | cons item rest inductionHypothesis =>
      change (check item >>= fun _ => rest.forM check) = .ok () ↔ _
      rw [checked_bind_eq_ok]
      simp only [List.forall_mem_cons]
      constructor
      · rintro ⟨_, first, others⟩
        exact ⟨first, inductionHypothesis.mp others⟩
      · rintro ⟨first, others⟩
        exact ⟨(), first, inductionHypothesis.mpr others⟩

/-- A loop whose every turn succeeds collects the results. -/
theorem checked_mapM_of_forall
    {items : List α} {body : α -> Checked β} {result : α -> β}
    (succeeds : ∀ item ∈ items, body item = .ok (result item)) :
    items.mapM body = .ok (items.map result) := by
  induction items with
  | nil => rfl
  | cons item rest inductionHypothesis =>
      rw [List.forall_mem_cons] at succeeds
      rw [List.mapM_cons, succeeds.1, checked_ok_bind,
        inductionHypothesis succeeds.2, checked_ok_bind]
      rfl

/-- A loop that succeeded has a result for each item. -/
theorem checked_mapM_eq_ok
    {items : List α} {body : α -> Checked β} {results : List β} :
    items.mapM body = .ok results ↔
      List.Forall₂ (fun item result => body item = .ok result)
        items results := by
  induction items generalizing results with
  | nil =>
      rw [List.mapM_nil, checked_pure_eq_ok, List.forall₂_nil_left_iff,
        eq_comm]
  | cons item rest inductionHypothesis =>
      rw [List.mapM_cons, checked_bind_eq_ok, List.forall₂_cons_left_iff]
      constructor
      · rintro ⟨result, first, others⟩
        obtain ⟨tail, more, equal⟩ := checked_bind_eq_ok.mp others
        exact ⟨result, tail, first, inductionHypothesis.mp more,
          (checked_pure_eq_ok.mp equal).symm⟩
      · rintro ⟨result, tail, first, more, rfl⟩
        refine ⟨result, first, ?_⟩
        rw [inductionHypothesis.mpr more, checked_ok_bind]
        rfl

theorem exists_result_of_mapM
    {items : List α} {body : α -> Checked β} {results : List β}
    (collected : items.mapM body = .ok results)
    {item : α} (member : item ∈ items) :
    ∃ result ∈ results, body item = .ok result := by
  induction checked_mapM_eq_ok.mp collected with
  | nil => simp at member
  | cons first more inductionHypothesis =>
      rcases List.mem_cons.mp member with rfl | inRest
      · exact ⟨_, List.mem_cons_self .., first⟩
      · obtain ⟨result, there, same⟩ := inductionHypothesis
          (checked_mapM_eq_ok.mpr more) inRest
        exact ⟨result, List.mem_cons_of_mem _ there, same⟩

theorem exists_item_of_mapM
    {items : List α} {body : α -> Checked β} {results : List β}
    (collected : items.mapM body = .ok results)
    {result : β} (member : result ∈ results) :
    ∃ item ∈ items, body item = .ok result := by
  induction checked_mapM_eq_ok.mp collected with
  | nil => simp at member
  | cons first more inductionHypothesis =>
      rcases List.mem_cons.mp member with rfl | inRest
      · exact ⟨_, List.mem_cons_self .., first⟩
      · obtain ⟨item, there, same⟩ := inductionHypothesis
          (checked_mapM_eq_ok.mpr more) inRest
        exact ⟨item, List.mem_cons_of_mem _ there, same⟩

/-- A Python `int`, which includes the two booleans. -/
inductive PyInt
  | int (value : Int)
  | bool (value : Bool)
  deriving DecidableEq, Repr

namespace PyInt

/-- `int(value)`. -/
def toInt : PyInt -> Int
  | .int value => value
  | .bool value => if value then 1 else 0

/-- `isinstance(value, bool)`. -/
def isBool : PyInt -> Bool
  | .int _ => false
  | .bool _ => true

end PyInt

/-- A JSON scalar, or `other` for a list or an object where the schema has no
structure.  A missing key reads as `null`. -/
inductive PyValue
  | null
  | bool (value : Bool)
  | int (value : Int)
  | float (value : Rat)
  | str (value : String)
  | other
  deriving DecidableEq

/-- An `int` as a scalar. -/
def PyInt.toValue : PyInt -> PyValue
  | .int value => .int value
  | .bool value => .bool value

namespace PyValue

/-- The number a scalar compares as, if it is one. -/
def number? : PyValue -> Option Rat
  | .bool value => some (if value then 1 else 0)
  | .int value => some value
  | .float value => some value
  | _ => none

/-- `value == expected` for an `int` on the right. -/
def EqualsInt (value : PyValue) (expected : Int) : Prop :=
  value.number? = some (expected : Rat)

instance (value : PyValue) (expected : Int) :
    Decidable (value.EqualsInt expected) :=
  inferInstanceAs (Decidable (_ = _))

/-- `isinstance(value, int)`. -/
def pyInt? : PyValue -> Option PyInt
  | .bool value => some (.bool value)
  | .int value => some (.int value)
  | _ => none

/-- `type(value) is int`. -/
def plainInt? : PyValue -> Option Int
  | .int value => some value
  | _ => none

@[simp] theorem equalsInt_int (value expected : Int) :
    (PyValue.int value).EqualsInt expected ↔ value = expected := by
  simp [EqualsInt, number?]

@[simp] theorem not_equalsInt_null (expected : Int) :
    ¬PyValue.null.EqualsInt expected := by
  simp [EqualsInt, number?]

@[simp] theorem plainInt?_int (value : Int) :
    (PyValue.int value).plainInt? = some value := rfl

@[simp] theorem pyInt?_int (value : Int) :
    (PyValue.int value).pyInt? = some (.int value) := rfl

end PyValue

/-- A JSON value where a SHA-256 string is expected: `null`, a well-formed
digest, or anything else. -/
inductive DigestField (Digest : Type)
  | null
  | sha256 (digest : Digest)
  | malformed

namespace DigestField

/-- `_require_sha256`. -/
def requireSha256 : DigestField Digest -> Checked Digest
  | .sha256 digest => .ok digest
  | _ => .error (.valueError
      "expected a 64-character lowercase hex SHA-256")

/-- `_optional_sha256`. -/
def optionalSha256 : DigestField Digest -> Checked (Option Digest)
  | .null => .ok none
  | field => some <$> field.requireSha256

/-- How an optional digest is written. -/
def ofOption : Option Digest -> DigestField Digest
  | none => .null
  | some digest => .sha256 digest

@[simp] theorem requireSha256_sha256 (digest : Digest) :
    (sha256 digest).requireSha256 = .ok digest := rfl

@[simp] theorem optionalSha256_ofOption (digest : Option Digest) :
    (ofOption digest).optionalSha256 = .ok digest := by
  cases digest <;> rfl

end DigestField
end CodingLlm
