import ConfigArtifact.Platform

/-! Canonical mappings: detached, sorted and bounded. -/

set_option autoImplicit false

namespace ConfigArtifact

def tooManyEntries (fieldName : String) (maximum : Nat) : PyError :=
  .valueError (fieldName ++ " may contain at most " ++ toString maximum ++ " entries")

def exceeds (maximum : Option Nat) (size : Nat) : Bool := maximum.any (· < size)

/-- The bound on the canonical bytes of a normalized mapping. -/
def withinBytes (X : Platform) (entries : Mapping) (fieldName : String) :
    Option Nat → Except PyError Unit
  | none => .ok ()
  | some maximum => do
    let encoded ← X.canonicalJsonBytes (.object entries)
    raiseIf (maximum < encoded.length) (.valueError
      (fieldName ++ " exceeds " ++ toString maximum ++ " canonical JSON bytes"))

def canonicalMapping (X : Platform) (value : JsonValue) (fieldName : String)
    (maximumEntries maximumBytes : Option Nat) : Except PyError Mapping :=
  match value.mappingSize? with
  | none => .error (.typeError (fieldName ++ " must be a mapping"))
  | some size => do
    raiseIf (exceeds maximumEntries size) (tooManyEntries fieldName (maximumEntries.getD 0))
    let normalized ← X.canonicalValue value
    match normalized with
    | .object entries => do
      withinBytes X entries fieldName maximumBytes
      .ok (sortEntries (freezeEntries entries))
    | _ => .error (.typeError (fieldName ++ " must be a JSON object"))

/-- A mapping from strings to strings, as labels and source digests are. -/
abbrev StringMapping := List (String × String)

def StringMapping.toJson (entries : StringMapping) : JsonValue :=
  .object (entries.map fun entry => (entry.1, .str entry.2))

abbrev sortStrings (entries : StringMapping) : StringMapping :=
  entries.insertionSort fun left right => left.1 ≤ right.1

def stringEntries (fieldName : String) : Mapping → Except PyError StringMapping
  | [] => .ok []
  | (key, item) :: rest => do
    let key ← boundedString (.str key) (fieldName ++ " key") 128
    let item ← boundedString item (fieldName ++ " value") 512
    let rest ← stringEntries fieldName rest
    .ok ((key, item) :: rest)

def stringMapping (value : JsonValue) (fieldName : String) : Except PyError StringMapping :=
  match value with
  | .object entries =>
    if 64 < entries.length then .error (tooManyEntries fieldName 64)
    else sortStrings <$> stringEntries fieldName entries
  | .foreign (.mappingWithOtherKeys size) =>
    if 64 < size then .error (tooManyEntries fieldName 64)
    else .error (.valueError
      (fieldName ++ " key must be a bounded non-empty printable string"))
  | _ => .error (tooManyEntries fieldName 64)

/-- What `stringMapping` returns, it accepts and leaves as it is. -/
structure IsStringMapping (entries : StringMapping) : Prop where
  short : entries.length ≤ 64
  bounded : ∀ entry ∈ entries, isBounded entry.1 128 = true ∧ isBounded entry.2 512 = true
  sorted : entries.Pairwise fun left right => left.1 ≤ right.1

theorem stringEntries_ok {fieldName : String} {entries : Mapping} {strings : StringMapping}
    (accepted : stringEntries fieldName entries = .ok strings) :
    strings.length = entries.length ∧
      ∀ entry ∈ strings, isBounded entry.1 128 = true ∧ isBounded entry.2 512 = true := by
  induction entries generalizing strings with
  | nil => cases accepted; simp
  | cons entry rest ih =>
    obtain ⟨key, keyed, accepted⟩ := bind_ok.mp accepted
    obtain ⟨item, valued, accepted⟩ := bind_ok.mp accepted
    obtain ⟨others, read, same⟩ := bind_ok.mp accepted
    cases same
    obtain ⟨length, bounded⟩ := ih read
    refine ⟨congrArg (· + 1) length, ?_⟩
    intro entry member
    rcases List.mem_cons.mp member with rfl | member
    · exact ⟨(boundedString_ok keyed).2, (boundedString_ok valued).2⟩
    · exact bounded entry member

theorem stringEntries_strings {fieldName : String} {strings : StringMapping}
    (bounded : ∀ entry ∈ strings, isBounded entry.1 128 = true ∧ isBounded entry.2 512 = true) :
    stringEntries fieldName (strings.map fun entry => (entry.1, .str entry.2)) = .ok strings := by
  induction strings with
  | nil => rfl
  | cons entry rest ih =>
    have tail := ih fun other member => bounded other (List.mem_cons_of_mem entry member)
    obtain ⟨keyed, valued⟩ := bounded entry List.mem_cons_self
    unfold stringEntries
    rw [List.map_cons]
    simp only [boundedString_str keyed, boundedString_str valued]
    change (stringEntries fieldName _ >>= _) = _
    rw [tail]
    rfl

theorem sortStrings_sorted (entries : StringMapping) :
    (sortStrings entries).Pairwise fun left right => left.1 ≤ right.1 := by
  have : Std.Total fun left right : String × String => left.1 ≤ right.1 :=
    ⟨fun left right => le_total left.1 right.1⟩
  have : IsTrans (String × String) fun left right => left.1 ≤ right.1 := ⟨fun _ _ _ => le_trans⟩
  exact List.pairwise_insertionSort _ _

theorem stringMapping_ok {value : JsonValue} {fieldName : String} {strings : StringMapping}
    (accepted : stringMapping value fieldName = .ok strings) : IsStringMapping strings := by
  unfold stringMapping at accepted
  split at accepted
  · next entries =>
    split at accepted
    · cases accepted
    · obtain ⟨result, read, rfl⟩ := map_ok.mp accepted
      obtain ⟨length, bounded⟩ := stringEntries_ok read
      have same : (sortStrings result).Perm result := List.perm_insertionSort _ _
      have short : (sortStrings result).length ≤ 64 := by
        rw [same.length_eq]
        omega
      exact ⟨short, fun entry member => bounded entry (same.mem_iff.mp member),
        sortStrings_sorted result⟩
  · split at accepted <;> cases accepted
  · cases accepted

theorem stringMapping_toJson {strings : StringMapping} (valid : IsStringMapping strings)
    (fieldName : String) : stringMapping strings.toJson fieldName = .ok strings := by
  have short : ¬64 < (strings.map fun entry => (entry.1, JsonValue.str entry.2)).length := by
    rw [List.length_map]
    have := valid.short
    omega
  change (if _ then _ else _) = _
  rw [if_neg short, stringEntries_strings valid.bounded]
  exact congrArg Except.ok valid.sorted.insertionSort_eq

section

variable {X : Platform} {value : JsonValue} {fieldName : String}
  {maximumEntries maximumBytes : Option Nat} {mapping : Mapping}

theorem withinBytes_ok {entries : Mapping} {encoded : Bytes} {value : Unit}
    (written : X.canonicalJsonBytes (.object entries) = .ok encoded) :
    withinBytes X entries fieldName maximumBytes = .ok value ↔
      exceeds maximumBytes encoded.length = false := by
  cases maximumBytes with
  | none => exact ⟨fun _ => rfl, fun _ => rfl⟩
  | some maximum =>
    change (X.canonicalJsonBytes (.object entries) >>= _) = _ ↔ _
    rw [written]
    change raiseIf _ _ = _ ↔ _
    simp [exceeds]

/-- How a value came to be accepted: through one encoding, which the result shares. -/
theorem canonicalMapping_ok
    (accepted : canonicalMapping X value fieldName maximumEntries maximumBytes = .ok mapping) :
    ∃ encoded loaded, X.canonicalJsonBytes value = .ok encoded ∧
      X.canonicalJsonBytes (.object mapping) = .ok encoded ∧
      X.jsonLoads encoded = .ok (.object loaded) ∧
      mapping = sortEntries (freezeEntries loaded) ∧
      exceeds maximumEntries mapping.length = false ∧
      exceeds maximumBytes encoded.length = false := by
  unfold canonicalMapping at accepted
  split at accepted
  · cases accepted
  · next size sized =>
    obtain ⟨_, few, accepted⟩ := bind_ok.mp accepted
    obtain ⟨normalized, normal, accepted⟩ := bind_ok.mp accepted
    obtain ⟨encoded, written, loads⟩ := bind_ok.mp normal
    obtain ⟨loaded, read, length⟩ := X.loads_object sized written
    obtain ⟨other, again, stable⟩ := X.loads_canonical written
    cases Except.ok.inj (read.symm.trans again)
    cases Except.ok.inj (read.symm.trans loads)
    obtain ⟨_, short, accepted⟩ := bind_ok.mp accepted
    cases accepted
    have frozen : X.canonicalJsonBytes (.object (sortEntries (freezeEntries loaded))) = .ok encoded :=
      (X.canonical_freeze (.object loaded)).trans stable
    have fewer : exceeds maximumEntries (sortEntries (freezeEntries loaded)).length = false := by
      rw [raiseIf_ok, Bool.not_eq_true] at few
      rw [List.length_insertionSort, freezeEntries_eq_map, List.length_map]
      cases maximumEntries with
      | none => rfl
      | some maximum =>
        simp only [exceeds, Option.any_some, decide_eq_false_iff_not, not_lt] at few ⊢
        exact length.trans few
    refine ⟨encoded, loaded, written, frozen, read, rfl, fewer, ?_⟩
    rwa [withinBytes_ok stable] at short

/-- Normalizing a normalized mapping leaves it as it is. -/
theorem canonicalMapping_idempotent
    (accepted : canonicalMapping X value fieldName maximumEntries maximumBytes = .ok mapping) :
    canonicalMapping X (.object mapping) fieldName maximumEntries maximumBytes = .ok mapping := by
  obtain ⟨encoded, loaded, -, frozen, read, rfl, few, short⟩ := canonicalMapping_ok accepted
  have stable : X.canonicalJsonBytes (.object loaded) = .ok encoded :=
    (X.canonical_freeze (.object loaded)).symm.trans frozen
  have normal : X.canonicalValue (.object (sortEntries (freezeEntries loaded))) =
      .ok (.object loaded) := bind_ok.mpr ⟨encoded, frozen, read⟩
  refine bind_ok.mpr ⟨(), by rw [raiseIf_ok, few]; simp, bind_ok.mpr ⟨_, normal, ?_⟩⟩
  exact bind_ok.mpr ⟨(), (withinBytes_ok stable).mpr short, rfl⟩

end

end ConfigArtifact
