import ConfigArtifact.Reference
import ConfigArtifact.Models.Channel
import ConfigArtifact.Models.Orphan
import ConfigArtifact.Models.StoredResource

/-! What the checks of the models raise.

Every check refuses with a KeyError, a TypeError or a ValueError, if the JSON and
ObjectReference helpers do.
-/

set_option autoImplicit false

namespace ConfigArtifact

variable {X : Platform}

/-- Whatever a computation raises is of one kind. -/
def RaisesOnly {A : Type} (kind : PyError → Bool) (result : Except PyError A) : Prop :=
  ∀ error, result = .error error → kind error = true

namespace RaisesOnly

variable {A B : Type} {kind wider : PyError → Bool} {result : Except PyError A}

theorem ok (value : A) : RaisesOnly kind (.ok value : Except PyError A) := by
  intro error raised
  cases raised

theorem error {raised : PyError} (known : kind raised = true) :
    RaisesOnly kind (.error raised : Except PyError A) := by
  intro error same
  cases same
  exact known

theorem bind {next : A → Except PyError B} (first : RaisesOnly kind result)
    (rest : ∀ value, RaisesOnly kind (next value)) : RaisesOnly kind (result >>= next) := by
  cases result with
  | ok value => exact rest value
  | error raised => exact error (first raised rfl)

theorem map {change : A → B} (first : RaisesOnly kind result) : RaisesOnly kind (change <$> result) := by
  intro error raised
  exact first error (map_error.mp raised)

theorem witness (first : RaisesOnly kind result) : RaisesOnly kind (witnessed result) := by
  cases result with
  | ok value => exact ok _
  | error raised => exact error (first raised rfl)

theorem mono (first : RaisesOnly kind result)
    (covers : ∀ error, kind error = true → wider error = true) : RaisesOnly wider result :=
  fun error raised => covers error (first error raised)

theorem raising {condition : Prop} [Decidable condition] {raised : PyError}
    (known : kind raised = true) : RaisesOnly kind (raiseIf condition raised) := by
  unfold raiseIf
  split
  · exact error known
  · exact ok ()

theorem mapM {read : A → Except PyError B} (each : ∀ item, RaisesOnly kind (read item))
    (items : List A) : RaisesOnly kind (items.mapM read) := by
  induction items with
  | nil => exact ok []
  | cons item rest ih =>
    rw [List.mapM_cons]
    apply bind (each item)
    intro first
    apply bind ih
    intro others
    exact ok _

end RaisesOnly

abbrev RaisesData {A : Type} (result : Except PyError A) : Prop := RaisesOnly PyError.isDataError result

theorem RaisesOnly.data {A : Type} {result : Except PyError A}
    (arguments : RaisesOnly PyError.isArgumentError result) : RaisesData result :=
  arguments.mono fun _ => PyError.isDataError_of_argument

/-- The JSON and ObjectReference helpers fail with a KeyError, a TypeError or a ValueError. -/
structure FailsWithData (X : Platform) : Prop where
  canonicalJsonBytes : ∀ value, RaisesData (X.canonicalJsonBytes value)
  jsonLoads : ∀ encoded, RaisesData (X.jsonLoads encoded)
  checkObjectReference : ∀ reference, RaisesData (X.checkObjectReference reference)
  parseObjectReference : ∀ entries, RaisesData (X.parseObjectReference entries)

theorem Reference.parseResourceRef_fails {entries : Mapping} :
    RaisesData (Reference.parseResourceRef entries) := by
  unfold Reference.parseResourceRef
  split
  · exact .ok _
  · exact .error rfl

theorem Reference.parseOptionalString_fails {value : JsonValue} :
    RaisesData (Reference.parseOptionalString value) := by
  unfold Reference.parseOptionalString
  split
  · exact .ok _
  · exact .ok _
  · exact .error rfl

theorem Reference.parseReference_fails {entries : Mapping} :
    RaisesData (Reference.parseReference entries) := by
  unfold Reference.parseReference
  split
  · apply Reference.parseResourceRef_fails.bind
    intro resourceRef
    apply Reference.parseOptionalString_fails.bind
    intro digest
    exact .ok _
  · exact .error rfl

theorem Reference.checkObjectReference_fails (reference : ObjectReference) :
    RaisesData (Reference.checkObjectReference reference) := by
  unfold Reference.checkObjectReference
  split
  · exact .error rfl
  · exact .ok _

theorem Reference.failsWithData : FailsWithData Platform.reference where
  canonicalJsonBytes := by
    intro value
    change RaisesData (Reference.canonicalJsonBytes value)
    unfold Reference.canonicalJsonBytes
    split
    · exact .ok _
    · exact .error rfl
  jsonLoads := by
    intro encoded
    change RaisesData (Reference.jsonLoads encoded)
    unfold Reference.jsonLoads
    split
    · exact .ok _
    · exact .error rfl
  checkObjectReference := Reference.checkObjectReference_fails
  parseObjectReference := by
    intro entries
    change RaisesData (Reference.parseObjectReference entries)
    apply Reference.parseReference_fails.bind
    exact Reference.checkObjectReference_fails

section

variable {value : JsonValue} {fieldName : String}

theorem boundedString_fails {maximum : Nat} : RaisesData (boundedString value fieldName maximum) :=
  fun _ raised => PyError.isDataError_of_argument (boundedString_error raised)

theorem logicalName_fails : RaisesData (logicalName value fieldName) :=
  fun _ raised => PyError.isDataError_of_argument (logicalName_error raised)

theorem channelName_fails : RaisesData (channelName value) :=
  fun _ raised => PyError.isDataError_of_argument (channelName_error raised)

theorem digest_fails : RaisesData (digest value) := by
  unfold digest
  split
  · split
    · exact .ok _
    · exact .error rfl
  · exact .error rfl

theorem mediaType_fails : RaisesData (mediaType value) := by
  apply boundedString_fails.bind
  intro selected
  split
  · exact .ok _
  · exact .error rfl

/-- Only the two argument errors: the timestamps of a provenance row catch no more. -/
theorem utcTimestamp_argument : RaisesOnly PyError.isArgumentError (utcTimestamp value) := by
  have text : RaisesOnly PyError.isArgumentError (boundedString value "timestamp" 64) :=
    fun _ raised => boundedString_error raised
  apply text.bind
  intro selected
  split
  · exact .ok _
  · exact .error rfl

theorem optionalString_fails {maximum : Nat} :
    RaisesData (optionalString value fieldName maximum) := by
  unfold optionalString
  split
  · exact .ok _
  · exact boundedString_fails.map

theorem requireFormat_fails {format message : String} :
    RaisesData (requireFormat value format message) := .raising rfl

theorem byteLength_fails {description : String} : RaisesData (byteLength value description) := by
  unfold byteLength
  split
  · split
    · exact .error rfl
    · exact .ok _
  · exact .error rfl

theorem versionOrder_fails : RaisesData (versionOrder value) := by
  unfold versionOrder
  split
  · exact .ok _
  · split
    · exact .error rfl
    · exact .ok _
  · exact .error rfl

theorem recordVersion_fails : RaisesData (recordVersion value) := by
  unfold recordVersion
  split
  · exact .ok _
  · exact .ok _
  · exact .ok _
  · exact .error rfl

theorem validateResourceId_fails : RaisesData (validateResourceId value) := by
  unfold validateResourceId
  split
  · split
    · exact .ok _
    · exact .error rfl
  · exact .error rfl

theorem parseProfile_fails : RaisesData (parseProfile value) := by
  unfold parseProfile
  split
  · exact .ok _
  · split
    · exact .ok _
    · exact .error rfl

theorem parseState_fails : RaisesData (parseState value) := by
  unfold parseState
  split
  · exact .ok _
  · split
    · exact .ok _
    · split
      · exact .ok _
      · exact .error rfl

theorem parseOrphanState_fails : RaisesData (parseOrphanState value) := by
  unfold parseOrphanState
  split
  · exact .ok _
  · split
    · exact .ok _
    · split
      · exact .ok _
      · exact .error rfl

theorem parseOptional_fails {A : Type} {parse : Mapping → Except PyError A}
    (each : ∀ entries, RaisesData (parse entries)) : RaisesData (parseOptional parse value) := by
  unfold parseOptional
  split
  · exact (each _).map
  · exact .ok _
  · exact .error rfl

theorem stringEntries_fails {entries : Mapping} : RaisesData (stringEntries fieldName entries) := by
  induction entries with
  | nil => exact .ok _
  | cons entry rest ih =>
    apply boundedString_fails.bind
    intro key
    apply boundedString_fails.bind
    intro item
    apply ih.bind
    intro others
    exact .ok _

theorem stringMapping_fails : RaisesData (stringMapping value fieldName) := by
  unfold stringMapping
  split
  · split
    · exact .error rfl
    · exact stringEntries_fails.map
  · split
    · exact .error rfl
    · exact .error rfl
  · exact .error rfl

theorem canonicalMapping_fails (external : FailsWithData X)
    {maximumEntries maximumBytes : Option Nat} :
    RaisesData (canonicalMapping X value fieldName maximumEntries maximumBytes) := by
  have bytes : ∀ entries, RaisesData (withinBytes X entries fieldName maximumBytes) := by
    intro entries
    cases maximumBytes with
    | none => exact .ok _
    | some maximum => exact (external.canonicalJsonBytes _).bind fun _ => .raising rfl
  unfold canonicalMapping
  split
  · exact .error rfl
  · apply RaisesOnly.bind (.raising rfl)
    intro _
    apply ((external.canonicalJsonBytes _).bind external.jsonLoads).bind
    intro normalized
    split
    · apply (bytes _).bind
      intro _
      exact .ok _
    · exact .error rfl

end

theorem ResourceIdentity.create_fails {«namespace» kind name version : JsonValue} :
    RaisesData (ResourceIdentity.create «namespace» kind name version) := by
  apply logicalName_fails.witness.bind
  intro _
  apply logicalName_fails.witness.bind
  intro _
  apply logicalName_fails.witness.bind
  intro _
  apply boundedString_fails.witness.bind
  intro _
  exact .ok _

namespace PayloadSchemaRef

theorem create_fails {«namespace» name version catalog : JsonValue} :
    RaisesData (create «namespace» name version catalog) := by
  apply RaisesOnly.bind (.raising rfl)
  intro _
  apply logicalName_fails.witness.bind
  intro _
  apply logicalName_fails.witness.bind
  intro _
  apply boundedString_fails.witness.bind
  intro _
  exact .ok _

theorem parseMapping_fails {entries : Mapping} : RaisesData (parseMapping entries) := by
  unfold parseMapping
  split
  · apply RaisesOnly.bind (.raising rfl)
    intro _
    exact create_fails
  · exact .error rfl

theorem parseText_fails {text : String} : RaisesData (parseText text) := by
  unfold parseText
  split
  · exact .error rfl
  · dsimp only
    split
    · exact .error rfl
    · exact create_fails

theorem parse_fails {schema : Argument} : RaisesData (parse schema) := by
  unfold parse
  split
  · exact .ok _
  · exact parseMapping_fails
  · exact .error rfl
  · exact parseText_fails
  · exact .error rfl

end PayloadSchemaRef

namespace ProvenanceV1

theorem checkDigests_fails {entries : StringMapping} : RaisesData (checkDigests entries) := by
  induction entries with
  | nil => exact .ok _
  | cons entry rest ih =>
    apply digest_fails.bind
    intro _
    exact ih

theorem postInit_fails (external : FailsWithData X) {arguments : ProvenanceArguments} :
    RaisesData (postInit X arguments) := by
  apply boundedString_fails.bind
  intro _
  apply boundedString_fails.bind
  intro _
  apply stringMapping_fails.bind
  intro _
  apply checkDigests_fails.bind
  intro _
  apply optionalString_fails.bind
  intro _
  apply optionalString_fails.bind
  intro _
  apply (canonicalMapping_fails external).bind
  intro _
  apply requireFormat_fails.bind
  intro _
  exact .ok _

theorem fromMapping_fails (external : FailsWithData X) {value : Mapping} :
    RaisesData (fromMapping X value) := by
  have decoded : RaisesData (decode value) := by
    apply RaisesOnly.bind (.raising rfl)
    intro _
    apply RaisesOnly.bind (.raising rfl)
    intro _
    exact .ok _
  apply decoded.bind
  intro arguments
  apply (postInit_fails external).witness.bind
  intro _
  exact .ok _

end ProvenanceV1

namespace StoredResourceV1

theorem immutability_fails {state : ResourceState} {value : JsonValue} :
    RaisesData (immutability state value) := by
  unfold immutability
  split
  · apply RaisesOnly.bind (.raising rfl)
    intro _
    apply RaisesOnly.bind (.raising rfl)
    intro _
    exact .ok _
  · exact .error rfl

theorem content_fails (external : FailsWithData X) {arguments : StoredResourceArguments X}
    {digest : String} {length : Nat} : RaisesData (content X arguments digest length) := by
  unfold content
  split
  · unfold configurationContent
    split
    · exact .error rfl
    · apply RaisesOnly.bind (.raising rfl)
      intro _
      apply (canonicalMapping_fails external).bind
      intro payload
      apply PayloadSchemaRef.parse_fails.bind
      intro schema
      apply (external.canonicalJsonBytes _).bind
      intro encoded
      apply RaisesOnly.bind (.raising rfl)
      intro _
      exact .ok _
  · unfold artifactContent
    split
    · exact .error rfl
    · apply RaisesOnly.bind (.raising rfl)
      intro _
      apply (external.checkObjectReference _).bind
      intro reference
      apply RaisesOnly.bind (.raising rfl)
      intro _
      exact .ok _

theorem postInit_fails (external : FailsWithData X) {arguments : StoredResourceArguments X} :
    RaisesData (postInit X arguments) := by
  apply ResourceIdentity.create_fails.bind
  intro _
  apply RaisesOnly.bind (.raising rfl)
  intro _
  apply mediaType_fails.bind
  intro _
  apply digest_fails.bind
  intro _
  apply byteLength_fails.bind
  intro _
  apply boundedString_fails.bind
  intro _
  apply utcTimestamp_argument.data.bind
  intro _
  apply stringMapping_fails.bind
  intro _
  apply (canonicalMapping_fails external).bind
  intro _
  apply optionalString_fails.bind
  intro _
  apply immutability_fails.bind
  intro _
  apply versionOrder_fails.bind
  intro _
  apply recordVersion_fails.bind
  intro _
  apply (content_fails external).bind
  intro _
  apply requireFormat_fails.bind
  intro _
  exact .ok _

theorem decode_fails (external : FailsWithData X) {value : Mapping} : RaisesData (decode X value) := by
  apply RaisesOnly.bind (.raising rfl)
  intro _
  apply RaisesOnly.bind (.raising rfl)
  intro _
  apply RaisesOnly.bind (.raising rfl)
  intro _
  apply RaisesOnly.bind (.raising rfl)
  intro _
  apply RaisesOnly.bind (.raising rfl)
  intro _
  apply RaisesOnly.bind (.raising rfl)
  intro _
  apply parseProfile_fails.bind
  intro _
  apply parseState_fails.bind
  intro _
  apply (parseOptional_fails external.parseObjectReference).bind
  intro _
  apply (parseOptional_fails fun _ => PayloadSchemaRef.parseMapping_fails).bind
  intro _
  apply (parseOptional_fails fun _ => ProvenanceV1.fromMapping_fails external).bind
  intro _
  exact .ok _

theorem fromRecord_fails (external : FailsWithData X) {value : Mapping} :
    RaisesData (fromRecord X value) := by
  apply (decode_fails external).bind
  intro arguments
  apply (postInit_fails external).witness.bind
  intro _
  exact .ok _

end StoredResourceV1

namespace ResourceChannelV1

theorem positiveVersion_fails {value : JsonValue} : RaisesData (positiveVersion value) := by
  unfold positiveVersion
  split
  · split
    · exact .error rfl
    · exact .ok _
  · exact .error rfl

theorem fromRecord_fails {value : Mapping} : RaisesData (fromRecord X value) := by
  have initialized : ∀ arguments, RaisesData (postInit X arguments) := by
    intro arguments
    apply logicalName_fails.bind
    intro _
    apply logicalName_fails.bind
    intro _
    apply logicalName_fails.bind
    intro _
    apply channelName_fails.bind
    intro _
    apply positiveVersion_fails.bind
    intro _
    apply RaisesOnly.bind (.raising rfl)
    intro _
    apply validateResourceId_fails.bind
    intro _
    apply boundedString_fails.bind
    intro _
    apply utcTimestamp_argument.data.bind
    intro _
    apply recordVersion_fails.bind
    intro _
    apply requireFormat_fails.bind
    intro _
    exact .ok _
  apply RaisesOnly.bind (.raising rfl)
  intro _
  apply (initialized _).witness.bind
  intro _
  exact .ok _

end ResourceChannelV1

namespace OrphanCandidateV1

theorem postInit_fails (external : FailsWithData X) {arguments : OrphanCandidateArguments} :
    RaisesData (postInit X arguments) := by
  apply validateResourceId_fails.bind
  intro _
  apply (external.checkObjectReference _).bind
  intro _
  apply digest_fails.bind
  intro _
  apply RaisesOnly.bind (.raising rfl)
  intro _
  apply RaisesOnly.bind (.raising rfl)
  intro _
  apply byteLength_fails.bind
  intro _
  apply boundedString_fails.bind
  intro _
  apply utcTimestamp_argument.data.bind
  intro _
  apply recordVersion_fails.bind
  intro _
  apply requireFormat_fails.bind
  intro _
  exact .ok _

theorem fromRecord_fails (external : FailsWithData X) {value : Mapping} :
    RaisesData (fromRecord X value) := by
  have referenced : RaisesData (parseReference X (entryOf value "objectRef")) := by
    unfold parseReference
    split
    · exact external.parseObjectReference _
    · exact .error rfl
    · exact .error rfl
  apply RaisesOnly.bind (.raising rfl)
  intro _
  apply referenced.bind
  intro _
  apply parseOrphanState_fails.bind
  intro _
  apply (postInit_fails external).witness.bind
  intro _
  exact .ok _

end OrphanCandidateV1

end ConfigArtifact
