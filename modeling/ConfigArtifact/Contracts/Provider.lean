import ConfigArtifact.Canonical.Timestamp
import ConfigArtifact.Contracts.Models
import ConfigArtifact.Platform
import Mathlib.Algebra.Group.Int.Defs

/-! The Schemas of the structured collections, as the provider declares them.

A field has a logical type, may be nullable and carries constraints. What a
logical type admits, and what a constraint lets pass, is the Semantics package's
to say.
-/

set_option autoImplicit false

namespace ConfigArtifact

inductive LogicalType where
  | string
  | int64
  | boolean
  | enum (values : List String)
  | json
  | objectRef
  | utcTimestamp

/-- The constraints a field may carry. -/
structure Constraints where
  maxLength : Option Nat := none
  pattern : Option (List Piece) := none
  min : Option Int := none

structure FieldDefinition where
  name : String
  logicalType : LogicalType
  nullable : Bool := false
  constraints : Constraints := {}

/-- The Semantics package, as far as the fields of a record are checked by it. -/
structure Semantics where
  hasType : LogicalType → JsonValue → Bool
  maxLength : Nat → String → Bool
  pattern : List Piece → String → Bool
  min : Int → Int → Bool

mutual
/-- `null`, booleans, numbers and strings, and arrays and objects of JSON. -/
def isJson : JsonValue → Bool
  | .array items => areJson items
  | .object entries => entriesAreJson entries
  | .foreign _ => false
  | _ => true
def areJson : List JsonValue → Bool
  | [] => true
  | item :: rest => isJson item && areJson rest
def entriesAreJson : Mapping → Bool
  | [] => true
  | (_, value) :: rest => isJson value && entriesAreJson rest
end

/-- What the Semantics package documents of its logical types and constraints. -/
structure Semantics.Documented (X : Platform) (semantics : Semantics) : Prop where
  string : ∀ text, semantics.hasType .string (.str text) = true
  int64 : ∀ value, semantics.hasType .int64 (.int value) = true ↔ -2 ^ 63 ≤ value ∧ value < 2 ^ 63
  boolean : ∀ value, semantics.hasType .boolean (.bool value) = true
  enum : ∀ values, ∀ value ∈ values, semantics.hasType (.enum values) (.str value) = true
  json : ∀ value, isJson value = true → semantics.hasType .json value = true
  /-- The mapping of a reference that the Object Catalog accepts with its digest. -/
  objectRef : ∀ reference, X.checkObjectReference reference = .ok reference →
    semantics.hasType .objectRef (.object (X.objectReferenceToDict reference)) = true
  /-- The text of a UTC time to the microsecond. -/
  utcTimestamp : ∀ time : CivilTime, semantics.hasType .utcTimestamp (.str time.strftime) = true
  /-- The length counts characters. -/
  maxLength : ∀ maximum text, semantics.maxLength maximum text = true ↔ text.length ≤ maximum
  pattern : ∀ pieces text, semantics.pattern pieces text = matchesPieces pieces text.toList
  min : ∀ least value, semantics.min least value = true ↔ least ≤ value

def Constraints.hold (semantics : Semantics) (constraints : Constraints) : JsonValue → Bool
  | .str text => constraints.maxLength.all (semantics.maxLength · text) &&
      constraints.pattern.all (semantics.pattern · text)
  | .int value => constraints.min.all (semantics.min · value)
  | _ => true

def FieldDefinition.admits (semantics : Semantics) (field : FieldDefinition) (value : JsonValue) :
    Bool :=
  field.nullable && value = .null ||
    semantics.hasType field.logicalType value && field.constraints.hold semantics value

/-- A document has exactly the declared fields, each with a value it admits. -/
def schemaAdmits (semantics : Semantics) (fields : List FieldDefinition) (document : Mapping) :
    Bool :=
  Mapping.keys document = fields.map (·.name) &&
    fields.all fun field => ((document.lookup field.name).map (field.admits semantics)).getD false

/-- `_field(name, "string", constraints={"maxLength": ...})` -/
def stringField (name : String) (maxLength : Nat) (nullable : Bool := false) : FieldDefinition :=
  { name, logicalType := .string, nullable, constraints := { maxLength := some maxLength } }

def digestField : FieldDefinition :=
  { name := "digest", logicalType := .string, constraints := { pattern := some digestPattern } }

/-- `_field(name, "int64", constraints={"min": ...})` -/
def intField (name : String) (min : Int) (nullable : Bool := false) : FieldDefinition :=
  { name, logicalType := .int64, nullable, constraints := { min := some min } }

def storedResourceSchema : List FieldDefinition :=
  [stringField "formatVersion" 128,
    stringField "resourceId" 256,
    stringField "namespace" 256,
    stringField "kind" 256,
    stringField "name" 256,
    stringField "version" 256,
    { name := "profile", logicalType := .enum ["configuration", "artifact"] },
    { name := "state", logicalType := .enum ["DRAFT", "PUBLISHED", "DEPRECATED"] },
    stringField "mediaType" 255,
    digestField,
    intField "byteLength" 0,
    { name := "objectRef", logicalType := .objectRef, nullable := true },
    { name := "payload", logicalType := .json, nullable := true },
    { name := "payloadSchema", logicalType := .json, nullable := true },
    { name := "labels", logicalType := .json },
    { name := "annotations", logicalType := .json },
    { name := "provenance", logicalType := .json, nullable := true },
    stringField "createdBy" 512,
    { name := "createdAt", logicalType := .utcTimestamp },
    stringField "supersedes" 256 true,
    { name := "immutable", logicalType := .boolean },
    intField "versionOrder" 0 true]

def resourceChannelSchema : List FieldDefinition :=
  [stringField "formatVersion" 128,
    stringField "channelVersionId" 256,
    stringField "namespace" 256,
    stringField "kind" 256,
    stringField "name" 256,
    stringField "channel" 128,
    stringField "targetResourceId" 256,
    intField "pointerVersion" 1,
    stringField "actor" 512,
    { name := "updatedAt", logicalType := .utcTimestamp }]

def provenanceSchema : List FieldDefinition :=
  [stringField "formatVersion" 128,
    stringField "provenanceId" 256,
    stringField "resourceId" 256,
    { name := "document", logicalType := .json },
    { name := "createdAt", logicalType := .utcTimestamp }]

def orphanCandidateSchema : List FieldDefinition :=
  [stringField "formatVersion" 128,
    stringField "candidateId" 256,
    stringField "resourceId" 256,
    { name := "objectRef", logicalType := .objectRef },
    digestField,
    intField "byteLength" 0,
    stringField "reason" 512,
    { name := "discoveredAt", logicalType := .utcTimestamp },
    { name := "state", logicalType := .enum ["DISCOVERED", "RECORDED", "RESOLVED"] }]

end ConfigArtifact
