import ConfigArtifact.Canonical.Mapping

/-! Equality of JSON values, whatever the order of their keys.

Python dicts have one entry for each key. That is all that the order needs in
order not to matter.
-/

set_option autoImplicit false

namespace ConfigArtifact

/-- One value is the other with the entries of some of its objects, at any depth, in
another order. -/
inductive SameJson : JsonValue → JsonValue → Prop
  | refl (value : JsonValue) : SameJson value value
  | reordered {entries others : Mapping} (distinct : entries.keys.Nodup)
      (reordered : entries.Perm others) : SameJson (.object entries) (.object others)
  | item {value other : JsonValue} (front rest : List JsonValue) (same : SameJson value other) :
      SameJson (.array (front ++ value :: rest)) (.array (front ++ other :: rest))
  | entry {value other : JsonValue} (front rest : Mapping) (key : String)
      (same : SameJson value other) :
      SameJson (.object (front ++ (key, value) :: rest)) (.object (front ++ (key, other) :: rest))
  | trans {first second third : JsonValue} (left : SameJson first second)
      (right : SameJson second third) : SameJson first third

variable {X : Platform} {value other : JsonValue}

theorem keys_freezeEntries (entries : Mapping) :
    Mapping.keys (freezeEntries entries) = entries.keys := by
  simp [Mapping.keys, freezeEntries_eq_map, freezeEntry, Function.comp_def]

/-- Sorting forgets the order of entries with distinct keys. -/
theorem sortEntries_of_perm {entries others : Mapping} (distinct : entries.keys.Nodup)
    (reordered : entries.Perm others) : sortEntries entries = sortEntries others := by
  have sorted : (sortEntries entries).Perm entries := List.perm_insertionSort _ _
  have sorted' : (sortEntries others).Perm others := List.perm_insertionSort _ _
  refine List.Perm.eq_of_pairwise ?_ (sortEntries_sorted entries) (sortEntries_sorted others)
    (sorted.trans (reordered.trans sorted'.symm))
  intro left right member member' le ge
  apply List.inj_on_of_nodup_map distinct (sorted.mem_iff.mp member)
    (reordered.mem_iff.mpr (sorted'.mem_iff.mp member'))
  exact le_antisymm le ge

/-- Equal values are frozen to one. -/
theorem SameJson.freezeJson (same : SameJson value other) :
    freezeJson value = freezeJson other := by
  induction same with
  | refl value => rfl
  | @reordered entries others distinct reordered =>
    have frozen : (freezeEntries entries).Perm (freezeEntries others) := by
      rw [freezeEntries_eq_map, freezeEntries_eq_map]
      exact reordered.map freezeEntry
    rw [← keys_freezeEntries] at distinct
    rw [ConfigArtifact.freezeJson, ConfigArtifact.freezeJson, sortEntries_of_perm distinct frozen]
  | item front rest same ih => simp [ConfigArtifact.freezeJson, freezeItems_eq_map, ih]
  | entry front rest key same ih =>
    simp [ConfigArtifact.freezeJson, freezeEntries_eq_map, freezeEntry, ih]
  | trans left right first second => exact first.trans second

theorem SameJson.symm (same : SameJson value other) : SameJson other value := by
  induction same with
  | refl value => exact .refl value
  | reordered distinct reordered =>
    exact .reordered ((reordered.map Prod.fst).nodup_iff.mp distinct) reordered.symm
  | item front rest same ih => exact .item front rest ih
  | entry front rest key same ih => exact .entry front rest key ih
  | trans left right first second => exact second.trans first

@[simp] theorem mappingSize?_freezeJson (value : JsonValue) :
    (freezeJson value).mappingSize? = value.mappingSize? := by
  cases value <;>
    simp [freezeJson, JsonValue.mappingSize?, List.length_insertionSort, freezeEntries_eq_map]

theorem SameJson.mappingSize? (same : SameJson value other) :
    value.mappingSize? = other.mappingSize? := by
  rw [← mappingSize?_freezeJson value, same.freezeJson, mappingSize?_freezeJson]

@[simp] theorem freezeJson_eq_null : freezeJson value = .null ↔ value = .null := by
  cases value <;> simp [freezeJson]

theorem SameJson.eq_null (same : SameJson value other) :
    value = .null ↔ other = .null := by
  rw [← freezeJson_eq_null, same.freezeJson, freezeJson_eq_null]

theorem SameJson.canonicalJsonBytes (same : SameJson value other) :
    X.canonicalJsonBytes value = X.canonicalJsonBytes other := by
  rw [← X.canonical_freeze value, same.freezeJson, X.canonical_freeze]

/-- Equal values are normalized, or refused, alike. -/
theorem SameJson.canonicalMapping (same : SameJson value other) (fieldName : String)
    (maximumEntries maximumBytes : Option Nat) :
    canonicalMapping X value fieldName maximumEntries maximumBytes =
      canonicalMapping X other fieldName maximumEntries maximumBytes := by
  unfold ConfigArtifact.canonicalMapping Platform.canonicalValue
  rw [same.mappingSize?, same.canonicalJsonBytes]

example : SameJson (.array [.object [("b", .null), ("a", .bool true)]])
    (.array [.object [("a", .bool true), ("b", .null)]]) :=
  .item [] [] (.reordered (by decide) (.swap _ _ _))

end ConfigArtifact
