import ConfigArtifact.Guarantees.Backing
import ConfigArtifact.Guarantees.Recovery
import ConfigArtifact.Guarantees.Scans

/-! Objects that are lost, and how.

An Object is accounted for by a row that names it, or by a scan that reports it. A
scan passes over every Object whose identity has a row, and the row of a
configuration names none. So an Object is lost once it shares its identity with one.
-/

set_option autoImplicit false

namespace ConfigArtifact

open Interaction Fallible Relation MetadataRepository ArtifactConsumer

variable {X : Platform} {first s t : World}

/-- Clients only publish. -/
abbrev publications (X : Platform) : World → Request X → Prop :=
  fun _ request => ∃ asked : PublishRequest X, request = asked.toRequest

/-- Clients only scan for orphans. -/
abbrev scanning (X : Platform) : World → Request X → Prop :=
  fun _ request => ∃ limit cursor record, request = .discoverOrphans limit cursor record

/-- A stored resource names the Object. -/
def IsNamed (X : Platform) (s : World) (object : StoredObject) : Prop :=
  ∃ resource : StoredResourceV1 X, Stores s resource ∧
    resource.objectRef = some object.metadata.objectRef

/-- Clients that scan the stores can follow the cursors to the end, and whoever has followed
them has been given a candidate for the Object. -/
structure IsReported (X : Platform) (s : World) (resourceId : String) (object : StoredObject) :
    Prop where
  ends : ∀ limit : Int, 0 < limit → ∃ (pool : Clients X Nat) (candidates : List (OrphanCandidateV1 X)),
    Pool.Reachable (deployment (reliable X) (scanning X)) s pool ∧
      Followed (ScanPages pool limit) none candidates
  reports : ∀ (pool : Clients X Nat) limit candidates,
    Pool.Reachable (deployment (reliable X) (scanning X)) s pool →
    Followed (ScanPages pool limit) none candidates →
    ∃ candidate ∈ candidates, Reports candidate object.metadata resourceId

/-- A step that puts an Object and the row of a configuration under one identity: the row
where the Object is, or the Object where the row is. -/
inductive Shadows (X : Platform) : Event (runtime X) World → Prop
  | row {before after : World} {candidate : StoredResourceV1 X} {object : StoredObject}
      {same : StoredResourceFields X → StoredResourceFields X → Bool}
      {reply : Except PyError (StoredResourceV1 X)} :
      candidate.profile = .configuration → before.row? .metadata candidate.resourceId = none →
      before.object? (objectIdOf candidate.resourceId) = some object →
      Shadows X ⟨before, .transaction (publication same candidate).run, reply, after⟩
  | object {before after : World} {asked : ObjectRequest} {bytes : Bytes}
      {resource : StoredResourceV1 X} {reply : Except PyError OperationResult} :
      before.object? asked.objectId = none → Delivers before asked.payload bytes →
      IsIntact X asked.digest asked.byteLength bytes → X.checkMetadata (asked.metadata X) = .ok () →
      Stores before resource → resource.resourceId = asked.resourceId →
      resource.profile = .configuration → Shadows X ⟨before, .object asked.call, reply, after⟩

/-- Where an identity has an Object, its row is an artifact's. -/
def Unshadowed (X : Platform) (s : World) : Prop :=
  ∀ (resource : StoredResourceV1 X) object, Stores s resource →
    s.object? (objectIdOf resource.resourceId) = some object → resource.profile = .artifact

theorem Unshadowed.of_same (unshadowed : Unshadowed X s)
    (rows : ∀ key, t.row? .metadata key = s.row? .metadata key)
    (objects : ∀ objectId, t.object? objectId = s.object? objectId) : Unshadowed X t := by
  rintro resource object ⟨row, found, holds⟩ there
  rw [rows] at found
  rw [objects] at there
  exact unshadowed resource object ⟨row, found, holds⟩ there

/-- The rows of an artifact, or of an identity without an Object, keep the stores unshadowed. -/
theorem Unshadowed.publish (unshadowed : Unshadowed X s) {candidate : StoredResourceV1 X}
    (version stamp : RecordVersion)
    (free : ∀ object, s.object? (objectIdOf candidate.resourceId) = some object →
      candidate.profile = .artifact) : Unshadowed X (s.publish candidate version stamp) := by
  rintro resource object ⟨row, found, holds⟩ there
  rw [object?_publish] at there
  rw [row?_publish_metadata] at found
  split at found
  · next same =>
    cases found
    obtain rfl := holds.unique (Row.holds_record candidate version)
    exact free object there
  · exact unshadowed resource object ⟨row, found, holds⟩ there

/-- So does an Object whose identity has no row of a configuration. -/
theorem Unshadowed.setObject (unshadowed : Unshadowed X s) {resourceId : String}
    (object : StoredObject)
    (free : ∀ resource : StoredResourceV1 X, Stores s resource → resource.resourceId = resourceId →
      resource.profile = .artifact) : Unshadowed X (s.setObject (objectIdOf resourceId) object) := by
  rintro resource other ⟨row, found, holds⟩ there
  rw [World.row?_setObject] at found
  rw [World.object?_setObject] at there
  split at there
  · next same => exact free resource ⟨row, found, holds⟩ (objectIdOf_inj.mp same)
  · exact unshadowed resource other ⟨row, found, holds⟩ there

/-- A call of a publication that shadows no Object keeps the stores unshadowed. -/
theorem Unshadowed.step {request : PublishRequest X} {T : World} {readings : DateTime → Prop}
    {event : Event (runtime X) World} (unshadowed : Unshadowed X event.before)
    (issued : request.Attempts T readings event.request)
    (answered : faulty X event.request event.before event.reply event.after)
    (clear : ¬Shadows X event) : Unshadowed X event.after := by
  obtain ⟨before, call, reply, after⟩ := event
  rcases issued with granted | ⟨asked, content, payload, -, -, -, same⟩ |
    ⟨candidate, compare, reflexive, -, same⟩
  · -- Whatever else an attempt asks for touches neither Objects nor metadata.
    have frames := frames_untrusted reply granted (untrusted_of_faulty _ _ _ _ answered)
    exact unshadowed.of_same (frames.rows .metadata (by decide) (by decide)) (frames.objects (by decide))
  · obtain rfl : call = _ := same
    rcases put_effect answered with still | ⟨bytes, delivers, intact, accepted, absent, changed⟩
    · obtain rfl : after = before := still
      exact unshadowed
    · obtain rfl : after = before.setObject (ArtifactPublisher.objectRequest asked content payload).objectId
        ((ArtifactPublisher.objectRequest asked content payload).stored X bytes) := changed
      refine unshadowed.setObject _ fun resource stores named => ?_
      -- A configuration of the same id would make this the step that is excluded.
      cases profile : resource.profile with
      | artifact => rfl
      | configuration =>
        exact absurd (.object absent delivers intact accepted stores named profile) clear
  · obtain rfl : call = _ := same
    rcases serving_transaction (serving_of_faulty _ _ _ _ answered) with ⟨stored, runs, -⟩ | ⟨still, -⟩
    · obtain ⟨version, stamp, absent, -, changed, -⟩ := publication_commits reflexive runs
      obtain rfl : after = before.publish candidate version stamp := changed
      refine unshadowed.publish version stamp fun object found => ?_
      cases profile : candidate.profile with
      | artifact => rfl
      | configuration => exact absurd (.row profile absent found) clear
    · obtain rfl : after = before := still
      exact unshadowed

section

variable {ι : Type} [DecidableEq ι] {pool : Clients X ι}

/-- A run in which no step shadows an Object keeps the stores unshadowed. -/
theorem unshadowed_of_reachable (consistent : Consistent X first) (unshadowed : Unshadowed X first)
    (reachable : Pool.Reachable (deployment (faulty X) (publications X)) first pool)
    (clear : ∀ entry ∈ pool.log, ¬Shadows X entry.2) : Unshadowed X pool.state := by
  have sound := deployment_sound serving_of_faulty (serves_unrestricted (publications X)) consistent
    reachable
  have traced : Pool.Traced (fun s t => Unshadowed X s → Unshadowed X t) first pool.log pool.state := by
    -- Each event is a call of some publication, which only takes steps of a few kinds.
    refine ⟨Pool.linked_of_reachable reachable, ?_⟩
    rintro ⟨i, event⟩ member holds
    have own := Pool.mem_history_of_log member
    cases selected : pool.threads i with
    | none =>
      rw [sound.idle i selected] at own
      cases own
    | some thread =>
      obtain ⟨request, program⟩ := thread
      obtain ⟨_, asked, rfl⟩ := Pool.admitted_of_reachable reachable i _ _ selected
      have issued := attempts_of_reachable consistent reachable selected own
      exact holds.step issued (sound.genuine _ member).2.2.1 (clear _ member)
  exact traced.moved (fun _ => id) (fun one two holds => two (one holds)) unshadowed

end

/-- Nothing is published, deprecated or committed. -/
def Policy.scanning (X : Platform) : Policy X :=
  ⟨fun _ => False, fun _ => False, fun _ => False, False⟩

theorem serves_scanning (first : World) : Serves (Policy.scanning X) False first (scanning X) := by
  rintro s request - ⟨limit, cursor, record, rfl⟩
  trivial

/-- Scans leave the metadata and the Objects as they are. -/
theorem Changes.scanning (moved : Changes (Policy.scanning X) s t) :
    (∀ key, t.row? .metadata key = s.row? .metadata key) ∧
      ∀ objectId, t.object? objectId = s.object? objectId := by
  induction moved with
  | refl => exact ⟨fun _ => rfl, fun _ => rfl⟩
  | tail _ change ih =>
    refine ⟨fun key => ?_, fun objectId => ?_⟩
    · rcases change.metadata key with same | ⟨_, _, _, _, _, _, forbidden, _⟩ |
        ⟨_, _, _, _, _, _, _, forbidden, _⟩
      · exact same.trans (ih.1 key)
      · exact forbidden.elim
      · exact forbidden.elim
    · rcases change.objects objectId with same | ⟨_, _, _, _, _, forbidden, _⟩
      · exact same.trans (ih.2 objectId)
      · exact forbidden.elim

section

variable {pool : Clients X Nat}

theorem scanning_of_reachable (consistent : Consistent X s)
    (reachable : Pool.Reachable (deployment (reliable X) (scanning X)) s pool) :
    (∀ key, pool.state.row? .metadata key = s.row? .metadata key) ∧
      ∀ objectId, pool.state.object? objectId = s.object? objectId := by
  have covers : ∀ request s reply t, reliable X request s reply t →
      serving X False request s reply t := serving_of_reliable
  have sound := deployment_sound covers (serves_scanning s) consistent reachable
  exact Changes.scanning sound.invariant.2

theorem pages_of_reachable (consistent : Consistent X s)
    (reachable : Pool.Reachable (deployment (reliable X) (scanning X)) s pool) (limit : Int) :
    Paginates (offsetOf X) limit.toNat (Scanned (Unpublished s) pool.state)
      (pool.state.listed "artifacts/") (ScanPages pool limit) := by
  refine scanPages_paginate consistent reachable (fun objectId present => ?_) limit
  rwa [← (scanning_of_reachable consistent reachable).2 objectId]

/-- One more client can be served the page that a cursor stands for. -/
theorem scan_page (external : FailsWithData X) (consistent : Consistent X s)
    (described : DescribesObjects X s) (apart : Apart X s)
    (reachable : Pool.Reachable (deployment (reliable X) (scanning X)) s pool) {n start : Nat}
    (idle : ∀ j, n ≤ j → pool.threads j = none) (limit : Int) {cursor : Option String}
    (stands : offsetOf X cursor = some start) : ∃ next page,
      Pool.Steps (deployment (reliable X) (scanning X)) pool next ∧
        (∀ j, n + 1 ≤ j → next.threads j = none) ∧ ScanPages next limit cursor page ∧
        ∀ following, page.cursor = some following →
          start + limit.toNat < (s.listed "artifacts/").length ∧
            offsetOf X (some following) = some (start + limit.toNat) := by
  -- The client `n` has not started, and is served to its end before any other.
  let request : Request X := .discoverOrphans limit cursor false
  let started := pool.launch n request request.program.run
  have begun : Pool.Step (deployment (reliable X) (scanning X)) pool started :=
    .start (idle n (le_refl n)) ⟨limit, cursor, false, rfl⟩
  have uses : request.program.run.Uses Call.IsAnswerable :=
    (request.uses_program (registers_any request)).mono fun _ issued => issued.answerable
  have conform : (answer X Delivery.any).Conform (deployment (reliable X) (scanning X)).env
    Call.IsAnswerable fun _ => True := answer_any
  have selected : started.threads n = some ⟨request, request.program.run⟩ := by
    rw [Pool.launch_threads, if_pos rfl]
  obtain ⟨next, result, steps, finished, others⟩ := Pool.finishes conform selected uses trivial
  have reached := reachable.trans (.head begun steps)
  have faulted : Pool.Reachable (deployment (faulty X) (scanning X)) s next :=
    Pool.Steps.mono faulty_of_reliable reached
  have sound := unrestricted_sound consistent reached
  have objects := (scanning_of_reachable consistent reached).2
  -- The candidates are of the Objects that were there before the scan.
  have unmistaken : Unmistaken X next.state := by
    refine unmistaken_of_described sound.invariant.1
      (described_of_reachable external consistent described faulted) ?_
    intro resourceId other object another found present
    rw [objects] at found present
    exact apart resourceId other object another found present
  obtain ⟨page, rfl⟩ := ok_of_served consistent faulted unmistaken finished
    (fun event member => (sound.event member).2.2.1) (by rw [stands]; exact Option.some_ne_none _)
  have given : ScanPages next limit cursor ⟨page.items, page.cursor⟩ := ⟨n, false, finished⟩
  refine ⟨next, _, .head begun steps, fun j after => ?_, given, fun following further => ?_⟩
  · rw [others j (by omega), Pool.launch_threads, if_neg (by omega)]
    exact idle j (by omega)
  · obtain ⟨offset, stood, -, -, goes⟩ := (pages_of_reachable consistent reached limit).page given
    cases stands.symm.trans stood
    rw [← listed_congr objects]
    exact goes following further

theorem ScanPages.later {next : Clients X Nat} {limit : Int} {cursor : Option String}
    {page : Page (OrphanCandidateV1 X)} (given : ScanPages pool limit cursor page)
    (steps : Pool.Steps (deployment (reliable X) (scanning X)) pool next) :
    ScanPages next limit cursor page := by
  obtain ⟨i, record, finished⟩ := given
  exact ⟨i, record, finished.later steps⟩

/-- However much of the listing is left, further clients can be served the rest of it. -/
theorem scan_rest (external : FailsWithData X) (consistent : Consistent X s)
    (described : DescribesObjects X s) (apart : Apart X s) {limit : Int} (positive : 0 < limit)
    (left : Nat) : ∀ {pool : Clients X Nat} {n start : Nat} {cursor : Option String},
      Pool.Reachable (deployment (reliable X) (scanning X)) s pool →
      (∀ j, n ≤ j → pool.threads j = none) → offsetOf X cursor = some start →
      (s.listed "artifacts/").length - start = left →
      ∃ (next : Clients X Nat) (candidates : List (OrphanCandidateV1 X)),
        Pool.Steps (deployment (reliable X) (scanning X)) pool next ∧
          Followed (ScanPages next limit) cursor candidates := by
  induction left using Nat.strong_induction_on with
  | _ left ih =>
    intro pool n start cursor reachable idle stands same
    obtain ⟨next, ⟨items, ended⟩, steps, idle, given, goes⟩ :=
      scan_page external consistent described apart reachable idle limit stands
    cases ended with
    | none => exact ⟨next, items, steps, .last given⟩
    | some following =>
      -- The next cursor stands further on, so less of the listing is left.
      obtain ⟨inside, stood⟩ := goes following rfl
      obtain ⟨last, rest, more, followed⟩ :=
        ih _ (by omega) (reachable.trans steps) idle stood rfl
      exact ⟨last, items ++ rest, steps.trans more, .next (given.later more) followed⟩

/-- A scan knows the Objects of publications. -/
theorem scanned_artifact {resourceId : String} {object : StoredObject}
    (artifact : IsArtifactObject X resourceId object) : scanned object.metadata = some resourceId := by
  unfold scanned
  rw [artifact.owner]
  simp [artifact.resourceId, artifact.reference]

/-- Objects without a row are reported. -/
theorem reported_of_unpublished (external : FailsWithData X) (consistent : Consistent X s)
    (described : DescribesObjects X s) (apart : Apart X s) {resourceId : String}
    {object : StoredObject} (found : s.object? (objectIdOf resourceId) = some object)
    (artifact : IsArtifactObject X resourceId object) (absent : Unpublished s resourceId) :
    IsReported X s resourceId object where
  ends := by
    intro limit positive
    have initial : Pool.Reachable (deployment (reliable X) (scanning X)) s
        (Pool.initial s : Clients X Nat) := .refl
    have started : offsetOf X none = some 0 := rfl
    obtain ⟨pool, candidates, steps, followed⟩ := scan_rest external consistent described apart
      positive _ initial (fun j (_ : 0 ≤ j) => rfl) started rfl
    exact ⟨pool, candidates, steps, followed⟩
  reports := by
    intro pool limit candidates reachable followed
    obtain ⟨rows, objects⟩ := scanning_of_reachable consistent reachable
    have scan : Scanned (Unpublished s) pool.state (pool.state.listed "artifacts/") candidates :=
      (pages_of_reachable consistent reachable limit).reads_followed followed rfl
    have still : pool.state.object? (objectIdOf resourceId) = some object := by rw [objects, found]
    refine (scan.complete _ (mem_listed still) resourceId (scanned_artifact artifact)).resolve_left ?_
    rw [rows]
    exact fun present => present absent

/-- Objects with a row are not. -/
theorem unpublished_of_reported (consistent : Consistent X s) {resourceId : String}
    {object : StoredObject} (reported : IsReported X s resourceId object) :
    Unpublished s resourceId := by
  obtain ⟨pool, candidates, reachable, followed⟩ := reported.ends 1 one_pos
  have scan : Scanned (Unpublished s) pool.state (pool.state.listed "artifacts/") candidates :=
    (pages_of_reachable consistent reachable 1).reads_followed followed rfl
  obtain ⟨candidate, among, named, -⟩ := reported.reports pool 1 candidates reachable followed
  rw [← named]
  exact (scan.sound candidate among).1

end

/-- The row of an artifact names the Object of its identity. -/
theorem named_of_artifact (consistent : Consistent X s) {resource : StoredResourceV1 X}
    {object : StoredObject} (stores : Stores s resource) (profile : resource.profile = .artifact)
    (found : s.object? (objectIdOf resource.resourceId) = some object) : IsNamed X s object := by
  obtain ⟨other, there, backs⟩ := consistent.backed resource stores profile
  rw [found] at there
  cases there
  exact ⟨resource, stores, backs.reference⟩

/-- Only the row of an artifact names an Object, and it is the one of its identity. -/
theorem IsNamed.owner {resourceId : String} {object : StoredObject} (consistent : Consistent X s)
    (named : IsNamed X s object) (found : s.object? (objectIdOf resourceId) = some object) :
    ∃ resource : StoredResourceV1 X, Stores s resource ∧ resource.resourceId = resourceId ∧
      resource.profile = .artifact := by
  obtain ⟨resource, stores, names⟩ := named
  have profile : resource.profile = .artifact := by
    have content := resource.valid.content
    cases other : resource.profile with
    | artifact => rfl
    | configuration =>
      rw [other, names] at content
      cases content.1
  obtain ⟨another, there, backs⟩ := consistent.backed resource stores profile
  have reference := backs.reference
  rw [names, consistent.objects _ object found, consistent.objects _ another there] at reference
  simp only [Option.some.injEq, ObjectReference.mk.injEq] at reference
  exact ⟨resource, stores, (objectIdOf_inj.mp reference.2.1).symm, profile⟩

/-- An Object that has been added is one of a publication. -/
theorem artifact_of_added {P : Policy X} (moved : Changes P s t) {resourceId : String}
    {object : StoredObject} (absent : s.object? (objectIdOf resourceId) = none)
    (found : t.object? (objectIdOf resourceId) = some object) :
    IsArtifactObject X resourceId object := by
  induction moved with
  | refl =>
    rw [absent] at found
    cases found
  | tail _ change ih =>
    rcases change.objects (objectIdOf resourceId) with same | ⟨other, added, named, _, artifact, _, now⟩
    · exact ih (same ▸ found)
    · obtain rfl := objectIdOf_inj.mp named
      rw [found] at now
      cases now
      exact artifact

section

variable {ι : Type} [DecidableEq ι] {pool : Clients X ι}

/-- Where publications never put an Object and the row of a configuration under one identity, every
Object is named by a row, or reported by scans that follow the cursors to the end. -/
theorem objects_accounted (external : FailsWithData X) (consistent : Consistent X first)
    (described : DescribesObjects X first) (unshadowed : Unshadowed X first)
    (reachable : Pool.Reachable (deployment (faulty X) (publications X)) first pool)
    (clear : ∀ entry ∈ pool.log, ¬Shadows X entry.2) (apart : Apart X pool.state)
    {resourceId : String} {object : StoredObject}
    (found : pool.state.object? (objectIdOf resourceId) = some object)
    (published : first.object? (objectIdOf resourceId) = none ∨ IsArtifactObject X resourceId object) :
    IsNamed X pool.state object ∨ IsReported X pool.state resourceId object := by
  have sound := deployment_sound serving_of_faulty (serves_unrestricted (publications X)) consistent
    reachable
  have kept : Consistent X pool.state := sound.invariant.1
  have artifact : IsArtifactObject X resourceId object :=
    published.elim (fun absent => artifact_of_added sound.invariant.2 absent found) id
  cases row : pool.state.row? .metadata resourceId with
  | none =>
    have known := described_of_reachable external consistent described reachable
    exact .inr (reported_of_unpublished external kept known apart found artifact row)
  | some row' =>
    obtain ⟨resource, holds, named, -⟩ := kept.metadata resourceId row' row
    subst named
    have stores : Stores pool.state resource := ⟨row', row, holds⟩
    have profile := unshadowed_of_reachable consistent unshadowed reachable clear resource object stores
      found
    exact .inl (named_of_artifact kept stores profile found)

end

theorem object_of_keys {objectId : String} (only : s.objects.keys = [objectId]) :
    ∃ object, s.object? objectId = some object := by
  refine Option.isSome_iff_exists.mp (AList.lookup_isSome.mpr (AList.mem_keys.mpr ?_))
  rw [only]
  exact List.mem_singleton_self objectId

/-- The profile of the row that a transaction puts first. -/
def Call.profile? : Call X → Option JsonValue
  | .transaction (.call (.put .metadata data) _) => data.lookup "profile"
  | _ => none

/-- A step shadows no Object where no row of a configuration is put, or is there. -/
theorem not_shadows {event : Event (runtime X) World}
    (calls : event.request.profile? ≠ some (.str "configuration"))
    (rows : ∀ row ∈ (event.before.tables .metadata).entries,
      row.2.values.lookup "profile" ≠ some (.str "configuration")) : ¬Shadows X event := by
  rintro (⟨profile, -, -⟩ | ⟨-, -, -, -, ⟨row, found, holds⟩, -, profile⟩)
  · exact calls (congrArg (fun profile => some (JsonValue.str (ResourceProfile.value profile))) profile)
  · refine rows _ (AList.mem_lookup_iff.mp found) ?_
    rw [holds.1]
    exact congrArg (fun profile => some (JsonValue.str (ResourceProfile.value profile))) profile

namespace Reference

/-- An artifact and a configuration of one identity. The artifact finds no row and commits its
Object, and then the configuration is published. -/
def shadowing : List (Turn Bool (Request Platform.reference)) :=
  [.start false (.publishArtifact artifact), .start true (.publishConfiguration configuration)] ++
    (List.replicate 3 (.run false) ++ List.replicate 4 (.run true) ++ List.replicate 4 (.run false))

/-- An artifact whose labels are no mapping leaves its Object behind. -/
def strandingTurns : List (Turn Bool (Request Platform.reference)) :=
  Turn.alone false (.publishArtifact mislabelled) 5

/-- The artifact is then published with other labels. -/
def namingTurns : List (Turn Bool (Request Platform.reference)) :=
  strandingTurns ++ Turn.alone true (.publishArtifact artifact) 7

/-- A publication that is refused in favour of another. -/
def conflicts : (request : Request Platform.reference) → request.Result → Bool
  | .publishArtifact _, .error error => error.hasType .identityConflict
  | _, _ => false

end Reference

/-- Two publications of one identity, of either profile, that leave an Object which no row names and
no scan reports. -/
theorem objects_accounted_shadowed :
    let pool := simulate Platform.reference Reference.emptyObject Reference.shadowing World.empty
    let resourceId := Reference.identity.resourceId Platform.reference
    Pool.Reachable (deployment (reliable Platform.reference) (publications Platform.reference))
      World.empty pool ∧
    (∃ receipt, pool.Finished true (.publishConfiguration Reference.configuration) (.ok receipt)) ∧
    (∃ error, pool.Finished false (.publishArtifact Reference.artifact) (.error error) ∧
      error.hasType .identityConflict = true) ∧
    Apart Platform.reference pool.state ∧ ∃ object,
      pool.state.object? (objectIdOf resourceId) = some object ∧
      IsArtifactObject Platform.reference resourceId object ∧
      ¬IsNamed Platform.reference pool.state object ∧
      ¬IsReported Platform.reference pool.state resourceId object := by
  intro pool resourceId
  have registering : Registering Reference.emptyObject Reference.shadowing := by
    intro request member
    rcases List.mem_pair.mp member with rfl | rfl
    · exact rfl
    · trivial
  have admitted : ∀ request ∈ Pool.starts Reference.shadowing, ∀ s,
      publications Platform.reference s request := by
    intro request member _
    rcases List.mem_pair.mp member with rfl | rfl
    · exact ⟨.artifact Reference.artifact, rfl⟩
    · exact ⟨.configuration Reference.configuration, rfl⟩
  have uniform := isUniform_empty Reference.emptyObject
  have reachable := simulate_admitted uniform registering admitted
  have sound := unrestricted_sound (fresh_empty Platform.reference).consistent reachable
  have kept : Consistent Platform.reference pool.state := sound.invariant.1
  have loses : pool.request? false = some (.publishArtifact Reference.artifact) :=
    simulate_request [.start false (.publishArtifact Reference.artifact)] _ rfl
  have wins : pool.request? true = some (.publishConfiguration Reference.configuration) :=
    simulate_request [.start false (.publishArtifact Reference.artifact),
      .start true (.publishConfiguration Reference.configuration)] _ rfl
  obtain ⟨refused, received, profile, only⟩ : pool.ends false Reference.conflicts = true ∧
      pool.ends true returned = true ∧
      (pool.state.row? .metadata resourceId).map (fun row => row.values.lookup "profile") =
        some (some (.str "configuration")) ∧
      pool.state.objects.keys = [objectIdOf resourceId] := by decide +kernel
  obtain ⟨result, finished, raised⟩ := Pool.finished_of_ends loses refused
  obtain ⟨error, rfl⟩ : ∃ error, result = .error error := by
    cases result with
    | ok receipt => cases raised
    | error error => exact ⟨error, rfl⟩
  obtain ⟨object, found⟩ := object_of_keys only
  refine ⟨reachable, ok_of_returned wins received, ⟨error, finished, raised⟩,
    apart_of_keys only, object, found, ?_, ?_, ?_⟩
  · exact artifact_of_added sound.invariant.2 rfl found
  · intro named
    obtain ⟨resource, ⟨other, there, holds⟩, same, artifact⟩ := named.owner kept found
    rw [same] at there
    rw [there] at profile
    have configuration : resource.profile = .configuration :=
      holds.profile_of_lookup (Option.some.inj profile)
    rw [artifact] at configuration
    cases configuration
  · intro reported
    have absent : pool.state.row? .metadata resourceId = none :=
      unpublished_of_reported kept reported
    rw [absent] at profile
    cases profile

/-- An Object that a failed publication leaves behind is reported, until the artifact is published
and its row names it. -/
theorem objects_accounted_stranded :
    let resourceId := Reference.identity.resourceId Platform.reference
    let stranded := simulate Platform.reference Reference.emptyObject Reference.strandingTurns World.empty
    let named := simulate Platform.reference Reference.emptyObject Reference.namingTurns World.empty
    ∃ object, stranded.state.object? (objectIdOf resourceId) = some object ∧
      IsReported Platform.reference stranded.state resourceId object ∧
      named.state.object? (objectIdOf resourceId) = some object ∧
      IsNamed Platform.reference named.state object := by
  intro resourceId stranded named
  -- Neither run publishes a configuration, so no step of theirs shadows an Object.
  have accounted : ∀ schedule : List (Turn Bool (Request Platform.reference)),
      (∀ request ∈ Pool.starts schedule, request = .publishArtifact Reference.mislabelled ∨
        request = .publishArtifact Reference.artifact) →
      let pool := simulate Platform.reference Reference.emptyObject schedule World.empty
      (∀ entry ∈ pool.log, entry.2.request.profile? ≠ some (.str "configuration") ∧
        ∀ row ∈ (entry.2.before.tables .metadata).entries,
          row.2.values.lookup "profile" ≠ some (.str "configuration")) →
      pool.state.objects.keys = [objectIdOf resourceId] →
      Consistent Platform.reference pool.state ∧ ∀ object,
        pool.state.object? (objectIdOf resourceId) = some object →
        IsNamed Platform.reference pool.state object ∨
          IsReported Platform.reference pool.state resourceId object := by
    intro schedule starts pool profiles only
    have registering : Registering Reference.emptyObject schedule := by
      intro request member
      rcases starts request member with rfl | rfl <;> exact rfl
    have admitted : ∀ request ∈ Pool.starts schedule, ∀ s,
        publications Platform.reference s request := by
      intro request member _
      rcases starts request member with rfl | rfl
      · exact ⟨.artifact Reference.mislabelled, rfl⟩
      · exact ⟨.artifact Reference.artifact, rfl⟩
    have fresh := (fresh_empty Platform.reference).consistent
    have reachable := simulate_admitted (isUniform_empty Reference.emptyObject) registering admitted
    refine ⟨(unrestricted_sound fresh reachable).invariant.1, fun object found => ?_⟩
    exact objects_accounted Reference.failsWithData fresh
      (fun _ ⟨_, absent, _⟩ => by cases absent) (fun _ _ ⟨_, absent, _⟩ => by cases absent)
      (Pool.Steps.mono faulty_of_reliable reachable)
      (fun entry member => not_shadows (profiles entry member).1 (profiles entry member).2)
      (apart_of_keys only) found (.inl rfl)
  have absent : stranded.state.row? .metadata resourceId = none := by decide +kernel
  have present : (named.state.row? .metadata resourceId).isSome = true := by decide +kernel
  have same : named.state.object? (objectIdOf resourceId) =
      stranded.state.object? (objectIdOf resourceId) := by decide +kernel
  have only : stranded.state.objects.keys = [objectIdOf resourceId] := by decide +kernel
  obtain ⟨kept, told⟩ := accounted Reference.strandingTurns
    (fun request member => .inl (List.mem_singleton.mp member)) (by decide +kernel) only
  obtain ⟨kept', told'⟩ := accounted Reference.namingTurns
    (fun request member => List.mem_pair.mp member) (by decide +kernel) (by decide +kernel)
  obtain ⟨object, found⟩ := object_of_keys only
  have found' := same.trans found
  refine ⟨object, found, (told object found).resolve_left fun names => ?_, found',
    (told' object found').resolve_right fun reported => ?_⟩
  · obtain ⟨resource, ⟨row, there, -⟩, keyed, -⟩ := names.owner kept found
    rw [keyed, absent] at there
    cases there
  · have gone : named.state.row? .metadata resourceId = none := unpublished_of_reported kept' reported
    rw [gone] at present
    cases present

end ConfigArtifact
