import ConfigArtifact.Guarantees.History

/-! Nothing is stored that nobody has asked for.

Whatever the stores do with single calls and wherever a client stops, a metadata row is
the candidate of a request, at most its state has changed since, and only where a
deprecation was asked for. An Object holds the bytes that a publication declared.
What no request names stays as it was.
-/

set_option autoImplicit false

namespace ConfigArtifact

open Interaction Relation

variable {X : Platform} {first s t : World} {admits : World → Request X → Prop}

/-- The candidates that a request may publish. -/
def Request.Plans : Request X → StoredResourceV1 X → Prop
  | .publishConfiguration request, candidate => ConfigurationPublisher.IsCandidate request candidate
  | .publishArtifact request, candidate => ArtifactPublisher.IsCandidate request candidate
  | _, _ => False

/-- Some request that is admitted may publish the candidate. -/
def PublicationAsked (admits : World → Request X → Prop) (candidate : StoredResourceV1 X) : Prop :=
  ∃ s request, admits s request ∧ request.Plans candidate

/-- Some request that is admitted deprecates the resource, under its profile. -/
def DeprecationAsked (admits : World → Request X → Prop) (resource : StoredResourceV1 X) : Prop :=
  ∃ s profile identity, admits s (.deprecate profile identity) ∧
    resource.resourceId = identity.resourceId X ∧ resource.profile = profile

/-- Some request that is admitted has declared the Object, and these are bytes as declared. -/
def ObjectAsked (admits : World → Request X → Prop) (object : StoredObject) : Prop :=
  ∃ s request content payload bytes, admits s (.publishArtifact request) ∧
    ArtifactPublisher.contentOf request = .ok content ∧
    IsIntact X content.digest content.byteLength bytes ∧
    object = (ArtifactPublisher.objectRequest request content payload).stored X bytes

def Policy.asked (admits : World → Request X → Prop) : Policy X :=
  ⟨PublicationAsked admits, DeprecationAsked admits, ObjectAsked admits, False⟩

/-- Every request is permitted what it asks for. -/
theorem serves_asked (first : World) : Serves (Policy.asked admits) False first admits := by
  intro s request _ admitted
  cases request with
  | publishConfiguration request =>
    exact ⟨False.elim, fun candidate planned => ⟨s, _, admitted, planned⟩⟩
  | publishArtifact request =>
    refine ⟨False.elim, fun candidate planned => ⟨s, _, admitted, planned⟩, ?_⟩
    exact fun content payload bytes read intact =>
      ⟨s, request, content, payload, bytes, admitted, read, intact, rfl⟩
  | promote target channel expected actor profile => exact False.elim
  | «deprecate» profile identity =>
    intro resource named accepted _
    have checked := Request.checksProfile_deprecation (X := X) identity profile
    exact ⟨s, profile, identity, admitted, named, (checked.isOk_iff resource).mp accepted⟩
  | consumerChannel profile «namespace» kind name channel => trivial
  | discoverOrphans limit cursor record => trivial

/-- What is stored has been there at first, or has been asked for. -/
structure Accounted (admits : World → Request X → Prop) (first s : World) : Prop where
  resources : ∀ stored : StoredResourceV1 X, Stores s stored → ∃ origin : StoredResourceV1 X,
    (Stores first origin ∨
      first.row? .metadata origin.resourceId = none ∧ PublicationAsked admits origin) ∧
    SameRecord origin stored ∧ (stored.state = origin.state ∨ DeprecationAsked admits stored)
  objects : ∀ objectId object, s.object? objectId = some object →
    first.object? objectId = some object ∨
      first.object? objectId = none ∧ ObjectAsked admits object
  unnamed : ∀ key, (∀ candidate, PublicationAsked admits candidate → candidate.resourceId ≠ key) →
    (∀ resource, DeprecationAsked admits resource → resource.resourceId ≠ key) →
    s.row? .metadata key = first.row? .metadata key ∧
      s.row? .provenance key = first.row? .provenance key

theorem Accounted.refl (first : World) : Accounted admits first first where
  resources := fun stored stores => ⟨stored, .inl stores, .refl _, .inl rfl⟩
  objects := fun _ _ found => .inl found
  unnamed := fun _ _ _ => ⟨rfl, rfl⟩

theorem DeprecationAsked.congr {resource other : StoredResourceV1 X}
    (asked : DeprecationAsked admits resource) (same : SameRecord resource other) :
    DeprecationAsked admits other := by
  obtain ⟨s, profile, identity, admitted, named, profiled⟩ := asked
  refine ⟨s, profile, identity, admitted, same.resourceId.trans named, ?_⟩
  unfold SameRecord at same
  rw [same]
  exact profiled

/-- One change adds only what has been asked for. -/
theorem Accounted.change (accounted : Accounted admits first s) (reached : Evolves X first s)
    (change : Change (Policy.asked admits) s t) : Accounted admits first t where
  resources := by
    rintro stored ⟨row, found, holds⟩
    rcases change.metadata stored.resourceId with same |
      ⟨candidate, version, keyed, absent, -, -, asked, changed⟩ |
      ⟨resource, immutable, version, keyed, stores, -, -, asked, changed⟩
    · exact accounted.resources stored ⟨row, same ▸ found, holds⟩
    · rw [changed] at found
      cases found
      obtain rfl := holds.unique (Row.holds_record candidate version)
      refine ⟨candidate, .inr ⟨?_, asked⟩, sameRecord_withVersion candidate _, .inl rfl⟩
      -- A row that was there at first would be there still.
      by_contra present
      exact reached.metadata _ present absent
    · rw [changed] at found
      cases found
      obtain rfl := holds.unique (Row.holds_deprecated resource immutable version)
      obtain ⟨origin, began, same, -⟩ := accounted.resources resource stores
      have renewed := sameRecord_deprecatedAt resource immutable version
      exact ⟨origin, began, same.trans renewed, .inr (asked.congr renewed)⟩
  objects := by
    intro objectId object found
    rcases change.objects objectId with same | ⟨_, added, -, absent, -, asked, changed⟩
    · exact accounted.objects objectId object (same ▸ found)
    · rw [changed] at found
      cases found
      refine .inr ⟨?_, asked⟩
      by_contra present
      obtain ⟨object, stored⟩ := Option.ne_none_iff_exists'.mp present
      rw [reached.objects _ _ stored] at absent
      cases absent
  unnamed := by
    intro key unpublished undeprecated
    obtain ⟨metadata, provenance⟩ := accounted.unnamed key unpublished undeprecated
    rw [← metadata, ← provenance]
    cases change with
    | registered absent => exact ⟨rfl, rfl⟩
    | committed absent object permitted => exact ⟨rfl, rfl⟩
    | published absent bare published backed asked =>
      have other := (unpublished _ asked).symm
      rw [row?_publish_metadata, row?_publish_provenance, if_neg other, if_neg other]
      exact ⟨rfl, rfl⟩
    | deprecated immutable stores published renewed asked =>
      have other := (undeprecated _ asked).symm
      simp [World.deprecate, World.row?_setRow, other]
    | promoted absent follows target => simp [World.promote, World.row?_setRow]
    | reported absent => simp [World.report, World.row?_setRow]

theorem Accounted.changes (changes : Changes (Policy.asked admits) first s) :
    Accounted admits first s := by
  induction changes with
  | refl => exact .refl first
  | tail earlier change ih => exact ih.change (Changes.evolves earlier) change

section

variable {ι : Type} [DecidableEq ι] {pool : Clients X ι}

/-- Whatever fails and in whatever order clients run, only what they have asked for is stored. -/
theorem deployment_accounted (consistent : Consistent X first)
    (reachable : Pool.Reachable (deployment (faulty X) admits) first pool) :
    Accounted admits first pool.state := by
  have sound := deployment_sound serving_of_faulty (serves_asked first) consistent reachable
  exact .changes sound.moved

end

/-- Of a publication and a deprecation, what is stored is what they have asked for. -/
theorem deployment_accounted_deprecation :
    let admits : World → Request Platform.reference → Prop := fun _ request =>
      request ∈ Pool.starts (publishing ++ deprecating)
    let pool := simulate Platform.reference [] (publishing ++ deprecating) World.empty
    Accounted admits World.empty pool.state ∧
      pool.state.row? .metadata (Reference.identity.resourceId Platform.reference) ≠ none := by
  intro admits pool
  have reachable : Pool.Reachable (deployment (reliable Platform.reference) admits) World.empty
      pool := by
    apply simulate_admitted (isUniform_empty [])
    · have starts : Pool.starts (publishing ++ deprecating) =
          [.publishConfiguration Reference.configuration, .deprecate .configuration Reference.identity] := rfl
      intro request member
      rw [starts] at member
      rcases List.mem_pair.mp member with rfl | rfl <;> trivial
    · exact fun request member _ => member
  refine ⟨deployment_accounted (fresh_empty _).consistent (reachable.mono faulty_of_reliable), ?_⟩
  have present : (pool.state.row? .metadata
      (Reference.identity.resourceId Platform.reference)).isSome = true := by decide +kernel
  exact Option.isSome_iff_ne_none.mp present

end ConfigArtifact
