import ConfigArtifact.Canonical.JsonValue

/-! JSON Schema, keyword by keyword.

A schema is the test it makes of a value. As in the specification, a keyword
says nothing of a value whose type it is not about, and a schema object is the
conjunction of its keywords.
-/

set_option autoImplicit false

namespace ConfigArtifact

/-- One piece of a pattern: between so many and so many characters of a class. -/
structure Piece where
  holds : Char → Bool
  least : Nat
  most : Nat

def Piece.exactly (holds : Char → Bool) (count : Nat) : Piece := ⟨holds, count, count⟩

def Piece.literal (text : String) : List Piece := text.toList.map fun c => .exactly (· = c) 1

/-- The pieces one after the other are the whole text, as between `^` and `$`. -/
def matchesPieces : List Piece → List Char → Bool
  | [], text => text.isEmpty
  | piece :: rest, text => (List.range' piece.least (piece.most + 1 - piece.least)).any fun count =>
    count ≤ text.length && (text.take count).all piece.holds && matchesPieces rest (text.drop count)

theorem matchesPieces_append {piece : Piece} {rest : List Piece} {front back : List Char}
    (least : piece.least ≤ front.length) (most : front.length ≤ piece.most)
    (holds : ∀ c ∈ front, piece.holds c = true) (tail : matchesPieces rest back = true) :
    matchesPieces (piece :: rest) (front ++ back) = true := by
  unfold matchesPieces
  apply List.any_eq_true.mpr
  refine ⟨front.length, List.mem_range'_1.mpr (by omega), ?_⟩
  rw [List.take_left, List.drop_left, tail, List.all_eq_true.mpr holds]
  simp

/-- A literal matches itself. -/
theorem matchesPieces_literal (text : String) {rest : List Piece} {back : List Char}
    (tail : matchesPieces rest back = true) :
    matchesPieces (Piece.literal text ++ rest) (text.toList ++ back) = true := by
  unfold Piece.literal
  induction text.toList with
  | nil => exact tail
  | cons c others ih =>
    rw [List.map_cons, List.cons_append, List.cons_append]
    change matchesPieces (_ :: _) ([c] ++ (others ++ back)) = true
    apply matchesPieces_append (by simp [Piece.exactly]) (by simp [Piece.exactly])
    · intro d member
      rw [List.mem_singleton.mp member]
      simp [Piece.exactly]
    · exact ih

namespace JsonSchema

/-- The names of the `type` keyword. -/
inductive Kind where
  | null
  | boolean
  | integer
  | string
  | object
  deriving DecidableEq, Repr

def Kind.holds : Kind → JsonValue → Bool
  | .null, .null => true
  | .boolean, .bool _ => true
  | .integer, .int _ => true
  | .integer, .float value => value.value.den = 1
  | .string, .str _ => true
  | .object, .object _ => true
  | _, _ => false

end JsonSchema

/-- A schema, as the test it makes. -/
abbrev JsonSchema := JsonValue → Bool

namespace JsonSchema

/-- The keywords of one schema object. -/
def every (keywords : List JsonSchema) : JsonSchema := fun value => keywords.all (· value)

def never : JsonSchema := fun _ => false

def type (kinds : List Kind) : JsonSchema := fun value => kinds.any (·.holds value)

def const (constant : JsonValue) : JsonSchema := fun value => value = constant

def enum (constants : List JsonValue) : JsonSchema := fun value => value ∈ constants

def pattern (pieces : List Piece) : JsonSchema
  | .str text => matchesPieces pieces text.toList
  | _ => true

def minLength (bound : Nat) : JsonSchema
  | .str text => bound ≤ text.length
  | _ => true

def maxLength (bound : Nat) : JsonSchema
  | .str text => text.length ≤ bound
  | _ => true

def minimum (bound : Int) : JsonSchema
  | .int value => bound ≤ value
  | .float value => (bound : Rat) ≤ value.value
  | _ => true

def required (names : List String) : JsonSchema
  | .object entries => names.all (· ∈ Mapping.keys entries)
  | _ => true

def properties (members : List (String × JsonSchema)) : JsonSchema
  | .object entries => members.all fun member => ((entries.lookup member.1).map member.2).getD true
  | _ => true

/-- `additionalProperties` beside `properties` of these names. -/
def additionalProperties (known : List String) (schema : JsonSchema) : JsonSchema
  | .object entries => entries.all fun entry => entry.1 ∈ known || schema entry.2
  | _ => true

def propertyNames (schema : JsonSchema) : JsonSchema
  | .object entries => entries.all fun entry => schema (.str entry.1)
  | _ => true

def maxProperties (bound : Nat) : JsonSchema
  | .object entries => entries.length ≤ bound
  | _ => true

def oneOf (schemas : List JsonSchema) : JsonSchema := fun value => (schemas.filter (· value)).length = 1

/-- `if`, `then` and `else`. -/
def ifThenElse (condition consequence alternative : JsonSchema) : JsonSchema := fun value =>
  if condition value then consequence value else alternative value

variable {value : JsonValue} {entries : Mapping}

@[simp] theorem every_nil : every [] value = true := rfl

@[simp] theorem every_cons {keyword : JsonSchema} {rest : List JsonSchema} :
    every (keyword :: rest) value = (keyword value && every rest value) := rfl

/-- One property of an object that has it. -/
theorem properties_of_lookup {name : String} {schema : JsonSchema}
    (found : entries.lookup name = some value) (valid : schema value = true) :
    ((entries.lookup name).map schema).getD true = true := by
  rw [found]
  exact valid

/-- The one property a condition is about. -/
theorem properties_single {name : String} {schema : JsonSchema}
    (found : entries.lookup name = some value) :
    properties [(name, schema)] (.object entries) = schema value := by
  change (((entries.lookup name).map schema).getD true && true) = _
  rw [found, Bool.and_true]
  rfl

theorem properties_object {members : List (String × JsonSchema)} :
    properties members (.object entries) = true ↔ ∀ member ∈ members,
      ((entries.lookup member.1).map member.2).getD true = true := List.all_eq_true

/-- The contract of a closed object: its names, and a schema for each of them. -/
def closed (members : List (String × JsonSchema)) : JsonSchema :=
  every [type [.object], additionalProperties (members.map Prod.fst) never,
    required (members.map Prod.fst), properties members]

/-- An object with exactly these names is closed when its properties are right. -/
theorem closed_object {members : List (String × JsonSchema)}
    (names : Mapping.keys entries = members.map Prod.fst) :
    closed members (.object entries) = properties members (.object entries) := by
  have additional : additionalProperties (members.map Prod.fst) never (.object entries) = true := by
    apply List.all_eq_true.mpr
    intro entry member
    have known : entry.1 ∈ members.map Prod.fst := names ▸ List.mem_map_of_mem member
    simp [known]
  have present : required (members.map Prod.fst) (.object entries) = true := by
    apply List.all_eq_true.mpr
    intro name member
    simpa [names] using member
  unfold closed
  simp only [every_cons, every_nil, Bool.and_true, additional, present, Bool.true_and]
  rfl

end JsonSchema

end ConfigArtifact
