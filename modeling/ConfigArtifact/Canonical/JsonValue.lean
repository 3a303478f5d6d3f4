import Mathlib.Data.List.Sort
import Mathlib.Data.Rat.Defs
import Mathlib.Data.String.Basic

/-! JSON-like Python values.

Objects keep their entries in insertion order. A list and a tuple, or a dict and
a mapping proxy, are one value here: every comparison of the package is between
two values of the same kind, so the difference never decides anything.
-/

set_option autoImplicit false

namespace ConfigArtifact

/-- A finite float: its exact value, and the sign a zero carries. -/
structure PyFloat where
  value : Rat
  negativeZero : Bool
  zero_of_negative : negativeZero = true → value = 0
  deriving DecidableEq

/-- Python values that JSON does not have. -/
inductive Foreign where
  | bytes
  | mappingWithOtherKeys (size : Nat)
  | object
  deriving DecidableEq, Repr

inductive JsonValue where
  | null
  | bool (value : Bool)
  | int (value : Int)
  | float (value : PyFloat)
  | str (value : String)
  | array (items : List JsonValue)
  | object (entries : List (String × JsonValue))
  | foreign (kind : Foreign)

/-- The entries of an object, in insertion order. -/
abbrev Mapping := List (String × JsonValue)

namespace JsonValue

mutual
def decEq (left right : JsonValue) : Decidable (left = right) :=
  match left, right with
  | .null, .null => isTrue rfl
  | .bool a, .bool b => decidable_of_iff (a = b) (by simp)
  | .int a, .int b => decidable_of_iff (a = b) (by simp)
  | .float a, .float b => decidable_of_iff (a = b) (by simp)
  | .str a, .str b => decidable_of_iff (a = b) (by simp)
  | .foreign a, .foreign b => decidable_of_iff (a = b) (by simp)
  | .array xs, .array ys =>
      haveI := itemsDecEq xs ys
      decidable_of_iff (xs = ys) (by simp)
  | .object xs, .object ys =>
      haveI := entriesDecEq xs ys
      decidable_of_iff (xs = ys) (by simp)
  | .null, .bool _ | .null, .int _ | .null, .float _ | .null, .str _ | .null, .array _
  | .null, .object _ | .null, .foreign _ | .bool _, .null | .bool _, .int _ | .bool _, .float _
  | .bool _, .str _ | .bool _, .array _ | .bool _, .object _ | .bool _, .foreign _
  | .int _, .null | .int _, .bool _ | .int _, .float _ | .int _, .str _ | .int _, .array _
  | .int _, .object _ | .int _, .foreign _ | .float _, .null | .float _, .bool _
  | .float _, .int _ | .float _, .str _ | .float _, .array _ | .float _, .object _
  | .float _, .foreign _ | .str _, .null | .str _, .bool _ | .str _, .int _ | .str _, .float _
  | .str _, .array _ | .str _, .object _ | .str _, .foreign _ | .array _, .null
  | .array _, .bool _ | .array _, .int _ | .array _, .float _ | .array _, .str _
  | .array _, .object _ | .array _, .foreign _ | .object _, .null | .object _, .bool _
  | .object _, .int _ | .object _, .float _ | .object _, .str _ | .object _, .array _
  | .object _, .foreign _ | .foreign _, .null | .foreign _, .bool _ | .foreign _, .int _
  | .foreign _, .float _ | .foreign _, .str _ | .foreign _, .array _
  | .foreign _, .object _ => isFalse (by intro same; cases same)
def itemsDecEq (xs ys : List JsonValue) : Decidable (xs = ys) :=
  match xs, ys with
  | [], [] => isTrue rfl
  | x :: xs, y :: ys =>
      haveI := decEq x y
      haveI := itemsDecEq xs ys
      decidable_of_iff (x = y ∧ xs = ys) (by simp)
  | [], _ :: _ | _ :: _, [] => isFalse (by intro same; cases same)
def entriesDecEq (xs ys : Mapping) : Decidable (xs = ys) :=
  match xs, ys with
  | [], [] => isTrue rfl
  | (k, x) :: xs, (l, y) :: ys =>
      haveI := decEq x y
      haveI := entriesDecEq xs ys
      decidable_of_iff (k = l ∧ x = y ∧ xs = ys) (by simp [and_assoc])
  | [], _ :: _ | _ :: _, [] => isFalse (by intro same; cases same)
end

instance : DecidableEq JsonValue := decEq

/-- Python truth of a value. -/
def truthy : JsonValue → Bool
  | .null => false
  | .bool value => value
  | .int value => value ≠ 0
  | .float value => value.value ≠ 0
  | .str value => value ≠ ""
  | .array items => !items.isEmpty
  | .object entries => !entries.isEmpty
  | .foreign _ => true

/-- `len(value)` of a mapping. -/
def mappingSize? : JsonValue → Option Nat
  | .object entries => some entries.length
  | .foreign (.mappingWithOtherKeys size) => some size
  | _ => none

/-- The number a bool, int or float stands for. -/
def number? : JsonValue → Option Rat
  | .bool value => some (if value then 1 else 0)
  | .int value => some value
  | .float value => some value.value
  | _ => none

end JsonValue

open JsonValue

/-- The order in which object entries are sorted. -/
abbrev keyLe (left right : String × JsonValue) : Prop := left.1 ≤ right.1

instance : Std.Total keyLe := ⟨fun left right => le_total left.1 right.1⟩
instance : IsTrans (String × JsonValue) keyLe := ⟨fun _ _ _ => le_trans⟩

abbrev sortEntries (entries : Mapping) : Mapping := entries.insertionSort keyLe

mutual
def freezeJson : JsonValue → JsonValue
  | .object entries => .object (sortEntries (freezeEntries entries))
  | .array items => .array (freezeItems items)
  | .null => .null
  | .bool value => .bool value
  | .int value => .int value
  | .float value => .float value
  | .str value => .str value
  | .foreign kind => .foreign kind
def freezeItems : List JsonValue → List JsonValue
  | [] => []
  | item :: rest => freezeJson item :: freezeItems rest
def freezeEntries : Mapping → Mapping
  | [] => []
  | (key, value) :: rest => (key, freezeJson value) :: freezeEntries rest
end

mutual
def thawJson : JsonValue → JsonValue
  | .object entries => .object (thawEntries entries)
  | .array items => .array (thawItems items)
  | .null => .null
  | .bool value => .bool value
  | .int value => .int value
  | .float value => .float value
  | .str value => .str value
  | .foreign kind => .foreign kind
def thawItems : List JsonValue → List JsonValue
  | [] => []
  | item :: rest => thawJson item :: thawItems rest
def thawEntries : Mapping → Mapping
  | [] => []
  | (key, value) :: rest => (key, thawJson value) :: thawEntries rest
end

mutual
@[simp] theorem thawJson_eq : ∀ value, thawJson value = value
  | .object entries => by rw [thawJson, thawEntries_eq]
  | .array items => by rw [thawJson, thawItems_eq]
  | .null | .bool _ | .int _ | .float _ | .str _ | .foreign _ => rfl
theorem thawItems_eq : ∀ items, thawItems items = items
  | [] => rfl
  | item :: rest => by rw [thawItems, thawJson_eq item, thawItems_eq rest]
theorem thawEntries_eq : ∀ entries, thawEntries entries = entries
  | [] => rfl
  | (key, value) :: rest => by rw [thawEntries, thawJson_eq value, thawEntries_eq rest]
end

theorem freezeItems_eq_map (items : List JsonValue) : freezeItems items = items.map freezeJson := by
  induction items with
  | nil => rfl
  | cons item rest ih => rw [freezeItems, ih, List.map_cons]

def freezeEntry (entry : String × JsonValue) : String × JsonValue := (entry.1, freezeJson entry.2)

theorem freezeEntries_eq_map (entries : Mapping) :
    freezeEntries entries = entries.map freezeEntry := by
  induction entries with
  | nil => rfl
  | cons entry rest ih => rw [freezeEntries, ih, List.map_cons]; rfl

theorem freezeEntries_sort (entries : Mapping) :
    freezeEntries (sortEntries entries) = sortEntries (freezeEntries entries) := by
  rw [freezeEntries_eq_map, freezeEntries_eq_map]
  exact List.map_insertionSort keyLe keyLe freezeEntry entries fun _ _ _ _ => Iff.rfl

theorem sortEntries_sorted (entries : Mapping) : (sortEntries entries).Pairwise keyLe :=
  List.pairwise_insertionSort keyLe entries

theorem sortEntries_of_sorted {entries : Mapping} (sorted : entries.Pairwise keyLe) :
    sortEntries entries = entries := sorted.insertionSort_eq

mutual
/-- Freezing leaves a frozen value as it is. -/
theorem freezeJson_freezeJson : ∀ value, freezeJson (freezeJson value) = freezeJson value
  | .object entries => by
    rw [freezeJson, freezeJson, freezeEntries_sort, freezeEntries_freezeEntries entries,
      sortEntries_of_sorted (sortEntries_sorted _)]
  | .array items => by rw [freezeJson, freezeJson, freezeItems_freezeItems items]
  | .null | .bool _ | .int _ | .float _ | .str _ | .foreign _ => rfl
theorem freezeItems_freezeItems : ∀ items, freezeItems (freezeItems items) = freezeItems items
  | [] => rfl
  | item :: rest => by
    rw [freezeItems, freezeItems, freezeJson_freezeJson item, freezeItems_freezeItems rest]
theorem freezeEntries_freezeEntries :
    ∀ entries, freezeEntries (freezeEntries entries) = freezeEntries entries
  | [] => rfl
  | (key, value) :: rest => by
    rw [freezeEntries, freezeEntries, freezeJson_freezeJson value,
      freezeEntries_freezeEntries rest]
end

mutual
/-- Python equality of two frozen values: numbers compare by value across
bool, int and float, so `True == 1 == 1.0`. -/
def frozenEq : JsonValue → JsonValue → Bool
  | .null, right => match right with | .null => true | _ => false
  | .str left, right => match right with | .str right => left = right | _ => false
  | .foreign left, right => match right with | .foreign right => left = right | _ => false
  | .array left, right => match right with | .array right => itemsEq left right | _ => false
  | .object left, right => match right with | .object right => entriesEq left right | _ => false
  | .bool left, right => right.number? = (JsonValue.bool left).number?
  | .int left, right => right.number? = (JsonValue.int left).number?
  | .float left, right => right.number? = (JsonValue.float left).number?
def itemsEq : List JsonValue → List JsonValue → Bool
  | [], right => right.isEmpty
  | item :: left, right => match right with
    | [] => false
    | other :: right => frozenEq item other && itemsEq left right
def entriesEq : Mapping → Mapping → Bool
  | [], right => right.isEmpty
  | (key, value) :: left, right => match right with
    | [] => false
    | (other, item) :: right => key = other && frozenEq value item && entriesEq left right
end

/-- Python `==`. Key order never matters, so both sides are compared frozen. -/
def pyEq (left right : JsonValue) : Bool := frozenEq (freezeJson left) (freezeJson right)

mutual
@[simp] theorem frozenEq_refl : ∀ value, frozenEq value value = true
  | .object entries => by rw [frozenEq, entriesEq_refl]
  | .array items => by rw [frozenEq, itemsEq_refl]
  | .null => rfl
  | .bool _ | .int _ | .float _ | .str _ | .foreign _ => by simp [frozenEq]
theorem itemsEq_refl : ∀ items, itemsEq items items = true
  | [] => rfl
  | item :: rest => by rw [itemsEq, frozenEq_refl item, itemsEq_refl rest]; rfl
theorem entriesEq_refl : ∀ entries, entriesEq entries entries = true
  | [] => rfl
  | (key, value) :: rest => by
    rw [entriesEq, frozenEq_refl value, entriesEq_refl rest]; simp
end

@[simp] theorem pyEq_refl (value : JsonValue) : pyEq value value = true := frozenEq_refl _

example : pyEq (.object [("b", .int 1), ("a", .null)]) (.object [("a", .null), ("b", .bool true)])
    = true := by rfl

namespace Mapping

/-- `mapping[key] = value`. -/
def set (mapping : Mapping) (key : String) (value : JsonValue) : Mapping :=
  match mapping with
  | [] => [(key, value)]
  | (other, item) :: rest =>
    if other = key then (key, value) :: rest else (other, item) :: set rest key value

/-- `{k: v for k, v in mapping.items() if k not in fields}`. -/
def without (mapping : Mapping) (fields : List String) : Mapping :=
  mapping.filter fun entry => entry.1 ∉ fields

def keys (mapping : Mapping) : List String := mapping.map Prod.fst

end Mapping

end ConfigArtifact
