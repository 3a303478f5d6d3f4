import ConfigArtifact.Models.Provenance

/-! Decoding the records of the structured collections. -/

set_option autoImplicit false

namespace ConfigArtifact

/-- `value[key]` after the presence of the key has been checked. -/
def entryOf (value : Mapping) (key : String) : JsonValue := (value.lookup key).getD .null

/-- `repr` of a list of field names. -/
def fieldList (fields : List String) : String :=
  "[" ++ ", ".intercalate (fields.map fun field => "'" ++ field ++ "'") ++ "]"

/-- `_require_record_fields`; a record may also carry its version. -/
def requireRecordFields (value : Mapping) (required : List String) : Except PyError Unit :=
  let missing := required.filter fun key => key ∉ Mapping.keys value
  let unknown := (Mapping.keys value).filter fun key => key ∉ required ++ ["recordVersion"]
  raiseIf (missing ≠ [] ∨ unknown ≠ [])
    (.valueError ("record contains missing fields " ++
      fieldList (missing.insertionSort (· ≤ ·)) ++ " or unknown fields " ++
      fieldList (unknown.dedup.insertionSort (· ≤ ·))))

theorem requireRecordFields_ok {value : Mapping} {required : List String} {result : Unit} :
    requireRecordFields value required = .ok result ↔
      (∀ key ∈ required, key ∈ Mapping.keys value) ∧
        ∀ key ∈ Mapping.keys value, key ∈ required ++ ["recordVersion"] := by
  unfold requireRecordFields
  rw [raiseIf_ok, not_or, not_not, not_not, List.filter_eq_nil_iff, List.filter_eq_nil_iff]
  simp only [decide_not, Bool.not_eq_true', decide_eq_false_iff_not, not_not]

/-- `value is not None and not isinstance(value, Mapping)` raises. -/
def requireMapping (value : JsonValue) (error : String) : Except PyError Unit :=
  raiseIf (value ≠ .null ∧ value.mappingSize? = none) (.typeError error)

/-- Parse a value that is absent or a mapping. -/
def parseOptional {A : Type} (parse : Mapping → Except PyError A) :
    JsonValue → Except PyError (Option A)
  | .object entries => some <$> parse entries
  | .null => .ok none
  | _ => .error (.valueError "mapping keys must be strings")

def byteLength (value : JsonValue) (description : String) : Except PyError Nat :=
  match value with
  | .int length =>
    if length < 0 then .error (.valueError (description ++ " cannot be negative"))
    else .ok length.toNat
  | _ => .error (.typeError (description ++ " must be an integer"))

def natJson (n : Nat) : JsonValue := .int n

@[simp] theorem byteLength_natJson (n : Nat) (description : String) :
    byteLength (natJson n) description = .ok n := by
  simp [byteLength, natJson]

def versionOrder : JsonValue → Except PyError (Option Nat)
  | .null => .ok none
  | .int order =>
    if order < 0 then .error (.valueError "version order must be a non-negative integer")
    else .ok (some order.toNat)
  | _ => .error (.valueError "version order must be a non-negative integer")

theorem versionOrder_self (order : Option Nat) :
    versionOrder (optionalJson natJson order) = .ok order := by
  cases order with
  | none => rfl
  | some n => simp [versionOrder, natJson]

/-- The entry of a record that carries its version, if it does. -/
def versionEntry : Option RecordVersion → Mapping
  | none => []
  | some version => [("recordVersion", version.toJson)]

theorem requireRecordFields_version {value : Mapping} {required : List String}
    (keys : Mapping.keys value = required) (version : Option RecordVersion) :
    requireRecordFields (value ++ versionEntry version) required = .ok () := by
  have appended : Mapping.keys (value ++ versionEntry version) =
      required ++ Mapping.keys (versionEntry version) := by
    rw [← keys]
    exact List.map_append
  have versioned : ∀ key ∈ Mapping.keys (versionEntry version), key ∈ ["recordVersion"] := by
    cases version <;> simp [versionEntry, Mapping.keys]
  rw [requireRecordFields_ok, appended]
  refine ⟨fun key member => List.mem_append_left _ member, fun key member => ?_⟩
  rcases List.mem_append.mp member with member | member
  · exact List.mem_append_left _ member
  · exact List.mem_append_right _ (versioned key member)

theorem requireMapping_optional {A : Type} (toMapping : A → Mapping) (value : Option A)
    (error : String) :
    requireMapping (optionalJson (fun item => .object (toMapping item)) value) error = .ok () := by
  cases value <;> exact raiseIf_ok.mpr (by simp [JsonValue.mappingSize?])

theorem parseOptional_optional {A : Type} {parse : Mapping → Except PyError A}
    (toMapping : A → Mapping) {value : Option A}
    (parsed : ∀ item ∈ value, parse (toMapping item) = .ok item) :
    parseOptional parse (optionalJson (fun item => .object (toMapping item)) value) =
      .ok value := by
  cases value with
  | none => rfl
  | some item => exact map_ok.mpr ⟨item, parsed item rfl, rfl⟩

end ConfigArtifact
