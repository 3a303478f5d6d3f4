import ConfigArtifact.Runtime
import Mathlib.Data.List.AList

/-! The state behind the runtime: structured rows, Objects and registered payloads. -/

set_option autoImplicit false

namespace ConfigArtifact

/-- A finite table: at most one entry for each key. -/
abbrev Table (A : Type) := AList fun _ : String => A

structure Row where
  values : Mapping
  version : RecordVersion
  deriving DecidableEq

structure StoredObject where
  metadata : ObjectMetadata
  content : Bytes
  deriving DecidableEq

/-- Rows by their key field, Objects by their id. The registry remembers every
payload it ever registered, and never gives out a token twice. -/
structure World where
  tables : Collection → Table Row
  objects : Table StoredObject
  payloads : Table PayloadSource

namespace World

def empty : World := ⟨fun _ => ∅, ∅, ∅⟩

def row? (world : World) (collection : Collection) (key : String) : Option Row :=
  (world.tables collection).lookup key

def object? (world : World) (objectId : String) : Option StoredObject :=
  world.objects.lookup objectId

def payload? (world : World) (token : String) : Option PayloadSource :=
  world.payloads.lookup token

def setRow (world : World) (collection : Collection) (key : String) (row : Row) : World :=
  { world with
    tables := Function.update world.tables collection ((world.tables collection).insert key row) }

def setObject (world : World) (objectId : String) (object : StoredObject) : World :=
  { world with objects := world.objects.insert objectId object }

def setPayload (world : World) (token : String) (source : PayloadSource) : World :=
  { world with payloads := world.payloads.insert token source }

section

variable (world : World) (collection other : Collection) (key key' : String) (row : Row)
  (object : StoredObject) (source : PayloadSource)

theorem row?_setRow :
    (world.setRow collection key row).row? other key' =
      if other = collection ∧ key' = key then some row else world.row? other key' := by
  unfold row? setRow
  dsimp only
  by_cases table : other = collection
  · subst table
    rw [Function.update_self]
    by_cases same : key' = key
    · subst same
      simp [AList.lookup_insert]
    · simp [AList.lookup_insert_ne same, same]
  · rw [Function.update_of_ne table]
    simp [table]

@[simp] theorem row?_setRow_self :
    (world.setRow collection key row).row? collection key = some row := by
  simp [row?_setRow]

@[simp] theorem object?_setRow (objectId : String) :
    (world.setRow collection key row).object? objectId = world.object? objectId := rfl

@[simp] theorem payload?_setRow (token : String) :
    (world.setRow collection key row).payload? token = world.payload? token := rfl

theorem object?_setObject :
    (world.setObject key object).object? key' =
      if key' = key then some object else world.object? key' := by
  unfold object? setObject
  by_cases same : key' = key
  · subst same
    simp [AList.lookup_insert]
  · simp [AList.lookup_insert_ne same, same]

@[simp] theorem object?_setObject_self :
    (world.setObject key object).object? key = some object := by
  simp [object?_setObject]

@[simp] theorem row?_setObject :
    (world.setObject key object).row? collection key' = world.row? collection key' := rfl

@[simp] theorem payload?_setObject :
    (world.setObject key object).payload? key' = world.payload? key' := rfl

theorem payload?_setPayload :
    (world.setPayload key source).payload? key' =
      if key' = key then some source else world.payload? key' := by
  unfold payload? setPayload
  by_cases same : key' = key
  · subst same
    simp [AList.lookup_insert]
  · simp [AList.lookup_insert_ne same, same]

@[simp] theorem payload?_setPayload_self :
    (world.setPayload key source).payload? key = some source := by
  simp [payload?_setPayload]

@[simp] theorem row?_setPayload :
    (world.setPayload key source).row? collection key' = world.row? collection key' := rfl

@[simp] theorem object?_setPayload :
    (world.setPayload key source).object? key' = world.object? key' := rfl

end

/-- The rows of a collection. -/
def rows (world : World) (collection : Collection) : List Row :=
  (world.tables collection).entries.map Sigma.snd

theorem mem_rows {world : World} {collection : Collection} {row : Row} :
    row ∈ world.rows collection ↔ ∃ key, world.row? collection key = some row := by
  unfold rows row?
  rw [List.mem_map]
  constructor
  · rintro ⟨⟨key, found⟩, member, rfl⟩
    exact ⟨key, AList.mem_lookup_iff.mpr member⟩
  · rintro ⟨key, found⟩
    exact ⟨⟨key, row⟩, AList.mem_lookup_iff.mp found, rfl⟩

end World

/-- The field that identifies the rows of a collection. -/
def keyField : Collection → String
  | .metadata => "resourceId"
  | .channels => "channelVersionId"
  | .provenance => "provenanceId"
  | .orphanCandidates => "candidateId"

/-- The key a record or a filter names. -/
def keyOf (collection : Collection) (value : Mapping) : Option String :=
  match value.lookup (keyField collection) with
  | some (.str key) => some key
  | _ => none

/-- A version a store may give a row. -/
def RecordVersion.IsValid : RecordVersion → Prop
  | .text value => value ≠ ""
  | .number value => 0 ≤ value

/-- The timestamps an adapter may add to a bare record of a collection. -/
def adapterTimestamps : Collection → List String
  | .metadata => ["updatedAt"]
  | .channels => ["createdAt"]
  | .provenance => ["updatedAt"]
  | .orphanCandidates => ["createdAt", "updatedAt"]

/-- The two shapes in which a store answers with a row: the bare record beside
its version and timestamps, or a Record envelope around it. -/
inductive Shape where
  | bare (timestamps : StringMapping)
  | envelope (createdAt updatedAt : String) (formatted : Bool)

def IsTimestamp (text : String) : Prop := (utcTimestamp (.str text)).isOk = true

def Shape.IsValid (collection : Collection) : Shape → Prop
  | .bare timestamps =>
    (timestamps.map Prod.fst).Sublist (adapterTimestamps collection) ∧
      ∀ entry ∈ timestamps, IsTimestamp entry.2
  | .envelope createdAt updatedAt _ => IsTimestamp createdAt ∧ IsTimestamp updatedAt

/-- A row as a store presents it. -/
def present (X : Platform) (collection : Collection) (key : String) (row : Row) : Shape → Mapping
  | .bare timestamps =>
    row.values ++ ("recordVersion", row.version.toJson) ::
      timestamps.map fun entry => (entry.1, .str entry.2)
  | .envelope createdAt updatedAt formatted =>
    [("collectionRef", .object (X.resourceRefToDict (X.collectionRef collection))),
      ("recordId", .str key),
      ("recordVersion", row.version.toJson),
      ("values", .object row.values),
      ("createdAt", .str createdAt),
      ("updatedAt", .str updatedAt)] ++
      if formatted then [("formatVersion", .str "meridian.record.v1")] else []

/-- A value that presents a row in one of its shapes. -/
def Presents (X : Platform) (collection : Collection) (key : String) (row : Row)
    (data : JsonValue) : Prop :=
  ∃ shape, Shape.IsValid collection shape ∧ data = .object (present X collection key row shape)

end ConfigArtifact
