import ConfigArtifact.Operations.ArtifactPublication

/-! What one page of an orphan scan does and reports. -/

set_option autoImplicit false

namespace ConfigArtifact

open Interaction Fallible Relation MetadataRepository

variable {X : Platform} {P : Policy X} {first s t u : World} {faults : Prop}
  {history : List (Event (runtime X) World)}

/-- The cursor a page of listed Objects ends with. -/
def pageCursor (X : Platform) (reached total : Nat) : Option String :=
  if reached < total then some (X.cursorAt reached) else none

/-- What listing Objects tells; a cursor the store did not give out is an error. -/
def Listed (X : Platform) (faults : Prop) (s : World) (start : String) (limit : Int)
    (cursor : Option String) : Except PyError ObjectPage → Prop
  | .ok page => ∃ offset, offsetOf X cursor = some offset ∧
      page.items = ((s.listed start).drop offset).take limit.toNat ∧
      page.cursor = pageCursor X (offset + limit.toNat) (s.listed start).length
  | .error _ => faults ∨ offsetOf X cursor = none

theorem mapM_ok {A B : Type} {read : B → Except PyError A} {write : A → B} {items : List A}
    (round : ∀ item ∈ items, read (write item) = .ok item) :
    (items.map write).mapM read = .ok items := by
  induction items with
  | nil => rfl
  | cons item rest ih =>
    obtain ⟨first, later⟩ := List.forall_mem_cons.mp round
    rw [List.map_cons, List.mapM_cons]
    exact bind_ok.mpr ⟨item, first, bind_ok.mpr ⟨rest, ih later, rfl⟩⟩

theorem accepted_of_listed {start : String} (consistent : Consistent X s) :
    ∀ item ∈ s.listed start, X.checkMetadata item = .ok () := by
  intro item member
  obtain ⟨entry, among, rfl⟩ := List.mem_map.mp member
  have inside := List.mem_of_mem_filter ((List.mem_insertionSort _).mp among)
  exact consistent.accepted entry.1 entry.2 (AList.mem_lookup_iff.mpr inside)

theorem pageOf_listed {items : List ObjectMetadata} {reached total : Nat}
    {resources : List ResourceRef} (accepted : ∀ item ∈ items, X.checkMetadata item = .ok ()) :
    ObjectRepository.pageOf X ⟨pageData (items.map fun metadata =>
      .object (X.objectMetadataToDict metadata)) (nextCursor X reached total), resources⟩ =
      .ok ⟨items, pageCursor X reached total⟩ := by
  have parsed : (items.map fun metadata => JsonValue.object (X.objectMetadataToDict metadata)).mapM
      (fun item => asObjectMapping item "Object list item" >>= X.parseObjectMetadata) = .ok items :=
    mapM_ok fun item member => X.parse_metadata (accepted item member)
  refine bind_ok.mpr ⟨_, rfl, bind_ok.mpr ⟨(items.map fun metadata =>
    .object (X.objectMetadataToDict metadata), pageCursor X reached total), ?_,
    bind_ok.mpr ⟨items, ?_, rfl⟩⟩⟩
  · unfold nextCursor pageCursor
    split <;> rfl
  · rw [parsed]
    rfl

theorem listed_of_served {faults : Prop} {start : String} {limit : Int} {cursor : Option String}
    {reply : Except PyError OperationResult} (consistent : Consistent X t)
    (served : serving X faults (.object (.list start limit cursor)) t reply u) :
    Listed X faults t start limit cursor (reply >>= ObjectRepository.pageOf X) := by
  rcases serving_plain served trivial with ⟨-, conforms⟩ | ⟨faulted, error, rfl, -⟩
  · cases started : offsetOf X cursor with
    | none =>
      rw [started] at conforms
      obtain ⟨error, rfl⟩ := conforms
      exact .inr started
    | some offset =>
      rw [started] at conforms
      obtain ⟨resources, rfl⟩ := conforms
      rw [ok_bind, pageOf_listed fun item member => accepted_of_listed consistent item
        (List.mem_of_mem_drop (List.mem_of_mem_take member))]
      exact ⟨offset, started, rfl, rfl⟩
  · exact .inl faulted

theorem run_list (start : String) (limit : Int) (cursor : Option String) :
    (ObjectRepository.list start limit cursor : PyM X _).run =
      .call (Call.object (.list start limit cursor)) fun reply =>
        .done (reply >>= ObjectRepository.pageOf X) := by
  apply congrArg (Program.call _)
  funext reply
  cases reply <;> rfl

theorem safe_list {A : Type} {start : String} {limit : Int} {cursor : Option String}
    {next : Except PyError ObjectPage → Program (runtime X) A}
    {post : Postcondition (runtime X) World A}
    (rest : ∀ t, (following P first).invariant t → Changes P s t → ∀ event,
      event.before = t → event.after = t → ∀ result, Listed X faults t start limit cursor result →
      (next result).Safe (following P first) (serving X faults) post (history ++ [event]) t) :
    ((ObjectRepository.list start limit cursor : PyM X _).run.bind next).Safe (following P first)
      (serving X faults) post history s := by
  refine safe_call (run_list start limit cursor) ?_
  intro t moved kept reply u answered
  rcases serving_plain answered trivial with ⟨rfl, conforms⟩ | ⟨faulted, error, rfl, effect⟩
  · refine ⟨kept, .refl, rest u kept moved _ rfl rfl _ ?_⟩
    cases started : offsetOf X cursor with
    | none =>
      rw [started] at conforms
      obtain ⟨error, rfl⟩ := conforms
      exact Or.inr started
    | some offset =>
      rw [started] at conforms
      obtain ⟨resources, rfl⟩ := conforms
      rw [ok_bind, pageOf_listed fun item member => accepted_of_listed kept.1 item
        (List.mem_of_mem_drop (List.mem_of_mem_take member))]
      exact ⟨offset, started, rfl, rfl⟩
  · obtain rfl : u = t := by rcases effect with same | ⟨_, same, -⟩ <;> exact same
    exact ⟨kept, .refl, rest u kept moved _ rfl rfl _ (Or.inl faulted)⟩

namespace ArtifactConsumer

/-- The items of a page are the metadata of committed Objects. -/
def AreCommitted (s : World) (items : List ObjectMetadata) : Prop :=
  ∀ item ∈ items, ∃ object, s.object? item.objectRef.objectId = some object ∧ object.metadata = item

theorem AreCommitted.later {items : List ObjectMetadata} (committed : AreCommitted s items)
    (evolves : Evolves X s t) : AreCommitted t items := by
  intro item member
  obtain ⟨object, found, same⟩ := committed item member
  exact ⟨object, evolves.objects _ _ found, same⟩

theorem scanned_some {item : ObjectMetadata} {resourceId : String}
    (owned : scanned item = some resourceId) : isResourceId resourceId = true ∧
      item.objectRef.objectId = objectIdOf resourceId := by
  unfold scanned at owned
  split at owned
  · cases owned
  · split at owned
    · next valid =>
      cases owned
      simpa using valid
    · cases owned

/-- A candidate that reports the Object of an item. -/
def Reports (candidate : OrphanCandidateV1 X) (item : ObjectMetadata) (resourceId : String) : Prop :=
  candidate.resourceId = resourceId ∧ candidate.objectRef = item.objectRef ∧
    candidate.digest = item.digest ∧ candidate.byteLength = item.byteLength

/-- Another candidate is recorded under the id of this one. -/
def Collides (s : World) (orphan : OrphanCandidateV1 X) : Prop :=
  ∃ existing : OrphanCandidateV1 X, Records s existing ∧
    existing.candidateId X = orphan.candidateId X ∧ sameOrphanIdentity existing orphan = false

theorem Reports.congr {candidate stored : OrphanCandidateV1 X} {item : ObjectMetadata}
    {resourceId : String} (reports : Reports candidate item resourceId)
    (same : sameOrphanIdentity stored candidate = true) : Reports stored item resourceId := by
  simp only [sameOrphanIdentity, Bool.and_eq_true, decide_eq_true_eq] at same
  obtain ⟨⟨⟨⟨-, resource⟩, reference⟩, digest⟩, length⟩ := same
  exact ⟨resource.trans reports.1, reference.trans reports.2.1, digest.trans reports.2.2.1,
    length.trans reports.2.2.2⟩

theorem isBounded_reason : isBounded "object-without-structured-metadata" 512 = true := by decide

/-- What building the candidate for an item tells. -/
def Orphaned (faults : Prop) (item : ObjectMetadata) (resourceId : String) :
    Except PyError (OrphanCandidateV1 X) → Prop
  | .ok candidate => Reports candidate item resourceId
  | .error _ => faults

theorem run_utcNow {A : Type} (next : DateTime → PyM X A) :
    ((invoke (Call.utcNow : Call X) : PyM X DateTime) >>= next).run =
      .call (Call.utcNow : Call X) (andThen next) := rfl

/-- A committed Object of the package yields a candidate that reports it. -/
theorem safe_orphanOf {A : Type} {item : ObjectMetadata} {resourceId : String}
    {next : Except PyError (OrphanCandidateV1 X) → Program (runtime X) A}
    {post : Postcondition (runtime X) World A} (consistent : Consistent X s)
    (committed : ∃ object, s.object? item.objectRef.objectId = some object ∧ object.metadata = item)
    (owned : scanned item = some resourceId)
    (rest : ∀ t, (following P first).invariant t → Changes P s t → ∀ final result,
      Orphaned faults item resourceId result →
      (next result).Safe (following P first) (serving X faults) post final t) :
    ((orphanOf item resourceId : PyM X _).run.bind next).Safe (following P first) (serving X faults)
      post history s := by
  obtain ⟨valid, named⟩ := scanned_some owned
  obtain ⟨object, found, rfl⟩ := committed
  have reference := consistent.objects _ object found
  have hex : isDigest object.metadata.digest = true := by
    rw [← (consistent.intact _ object found).1]
    exact X.isDigest_digestOf _
  have resourceRef : object.metadata.objectRef.resourceRef = X.objectResource := by rw [reference]
  have whole : object.metadata.objectRef =
      ⟨X.objectResource, objectIdOf resourceId, some object.metadata.digest⟩ := by
    rw [reference, ← named]
  have built := X.objectReference_artifact valid (some object.metadata.digest)
    (by rintro text ⟨⟩; exact hex)
  unfold orphanOf
  rw [run_settle_bind, resourceRef, named, built, andThen_ok, run_utcNow]
  intro t moved kept reply u answered
  rcases serving_plain answered trivial with ⟨rfl, time, rfl, accepted⟩ |
    ⟨faulted, error, rfl, effect⟩
  · refine ⟨kept, .refl, ?_⟩
    dsimp only
    rw [andThen_ok, run_settle_bind]
    cases timed : utcTimestampOfDatetime time with
    | error error =>
      rw [timed] at accepted
      cases accepted
    | ok discoveredAt =>
      have sound : IsOrphanCandidate X ⟨resourceId, ⟨X.objectResource, objectIdOf resourceId,
          some object.metadata.digest⟩, object.metadata.digest, object.metadata.byteLength,
          "object-without-structured-metadata", discoveredAt, .discovered, none⟩ := {
        resourceId := valid
        objectRef := X.check_artifact valid hex
        digest := hex
        matching := rfl
        reason := isBounded_reason
        discoveredAt := utcTimestampOfDatetime_ok timed }
      have reports : Orphaned faults object.metadata resourceId (.ok ⟨_, sound⟩) :=
        ⟨rfl, whole.symm, rfl, rfl⟩
      rw [← OrphanCandidateV1.create_self] at reports
      exact rest u kept moved _ _ reports
  · obtain rfl : u = t := by rcases effect with same | ⟨_, same, -⟩ <;> exact same
    exact ⟨kept, .refl, rest u kept moved _ (.error error) faulted⟩

/-- What the loop over a page tells: each Object of the package has a row by now, or is
among the candidates. -/
def Discovered (faults : Prop) (items : List ObjectMetadata) (t : World) :
    Except PyError (List (OrphanCandidateV1 X)) → Prop
  | .ok candidates => ∀ item ∈ items, ∀ resourceId, scanned item = some resourceId →
      t.row? .metadata resourceId ≠ none ∨
        ∃ candidate ∈ candidates, Reports candidate item resourceId
  | .error _ => faults ∨ ∃ (item : ObjectMetadata) (resourceId : String)
      (orphan : OrphanCandidateV1 X), item ∈ items ∧ scanned item = some resourceId ∧
        Reports orphan item resourceId ∧ Collides t orphan

theorem Collides.later {orphan : OrphanCandidateV1 X} (collides : Collides s orphan)
    (evolves : Evolves X s t) : Collides t orphan := by
  obtain ⟨existing, ⟨row, found, holds⟩, rest⟩ := collides
  exact ⟨existing, ⟨row, evolves.rows .orphanCandidates (by decide) _ _ found, holds⟩, rest⟩

/-- A page whose first item needs no candidate. -/
theorem Discovered.skip {item : ObjectMetadata} {rest : List ObjectMetadata}
    {result : Except PyError (List (OrphanCandidateV1 X))}
    (settled : ∀ resourceId, scanned item = some resourceId → t.row? .metadata resourceId ≠ none)
    (discovered : Discovered faults rest t result) : Discovered faults (item :: rest) t result := by
  cases result with
  | ok candidates =>
    intro other member resourceId owned
    rcases List.mem_cons.mp member with rfl | member
    · exact Or.inl (settled resourceId owned)
    · exact discovered other member resourceId owned
  | error error =>
    refine discovered.imp id ?_
    rintro ⟨other, resourceId, orphan, member, collision⟩
    exact ⟨other, resourceId, orphan, List.mem_cons_of_mem _ member, collision⟩

theorem Discovered.later {items : List ObjectMetadata}
    {result : Except PyError (List (OrphanCandidateV1 X))}
    (discovered : Discovered faults items s result) (moved : Changes P s t) :
    Discovered faults items t result := by
  cases result with
  | ok candidates =>
    intro item member resourceId owned
    exact (discovered item member resourceId owned).imp (moved.evolves.metadata _) id
  | error error =>
    refine discovered.imp id ?_
    rintro ⟨item, resourceId, orphan, member, owned, reports, collides⟩
    exact ⟨item, resourceId, orphan, member, owned, reports, collides.later moved.evolves⟩

theorem safe_scanItems {record : Bool} {items : List ObjectMetadata} {A : Type}
    {post : Postcondition (runtime X) World A} :
    ∀ {next : Except PyError (List (OrphanCandidateV1 X)) → Program (runtime X) A} {s : World}
      {history : List (Event (runtime X) World)}, (following P first).invariant s →
      AreCommitted s items →
      (∀ t, (following P first).invariant t → Changes P s t → ∀ final result,
        Discovered faults items t result →
        (next result).Safe (following P first) (serving X faults) post final t) →
      ((scanItems record items : PyM X _).run.bind next).Safe (following P first)
        (serving X faults) post history s := by
  induction items with
  | nil =>
    intro next s history kept _ rest
    exact rest s kept .refl history (.ok []) fun item member => by cases member
  | cons item others ih =>
    intro next s history kept committed rest
    have remaining : AreCommitted s others := fun other member =>
      committed other (List.mem_cons_of_mem _ member)
    unfold scanItems
    cases owned : scanned item with
    | none =>
      refine ih kept remaining fun t kept moved final result discovered => ?_
      refine rest t kept moved final result (discovered.skip fun resourceId again => ?_)
      rw [owned] at again
      cases again
    | some resourceId =>
      dsimp only
      rw [run_bind, Program.bind_assoc]
      refine safe_getResource fun t kept moved event _ _ result looked => ?_
      match result, looked with
      | .error error, faulted =>
        refine rest t kept moved _ (.error error) (Or.inl (faulted.resolve_right ?_))
        rintro ⟨⟨⟩, -⟩
      | .ok (some existing), ⟨⟨row, found, _⟩, named⟩ =>
        refine ih kept (remaining.later (Changes.evolves moved)) ?_
        intro u kept later final result discovered
        refine rest u kept (moved.trans later) final result (discovered.skip fun other again => ?_)
        rw [owned] at again
        cases again
        refine (Changes.evolves later).metadata _ ?_
        rw [← named, found]
        exact Option.some_ne_none _
      | .ok none, _ =>
        rw [andThen_ok]
        dsimp only
        rw [run_bind, Program.bind_assoc]
        refine safe_orphanOf kept.1 (committed.later (Changes.evolves moved) item List.mem_cons_self)
          owned ?_
        intro u kept later final result orphaned
        cases result with
        | error error =>
          exact rest u kept (moved.trans later) final (.error error) (Or.inl orphaned)
        | ok candidate =>
          have orphaned : Reports candidate item resourceId := orphaned
          -- What follows once the candidate is recorded, or is not to be.
          have recorded : ∀ v, (following P first).invariant v → Changes P u v → ∀ final stored,
              Reported faults candidate v stored ∨ stored = .ok candidate →
              ((andThen (fun candidate => do
                let candidates ← scanItems record others
                return candidate :: candidates) stored : Program (runtime X) _).bind next).Safe
                (following P first) (serving X faults) post final v := by
            intro v kept since final stored reported
            have moved := moved.trans (later.trans since)
            cases stored with
            | error error =>
              refine rest v kept moved final (.error error) ?_
              rcases reported with faulted | impossible
              · exact faulted.imp id fun collides =>
                  ⟨item, resourceId, candidate, List.mem_cons_self, owned, orphaned, collides⟩
              · cases impossible
            | ok stored =>
              have reports : Reports stored item resourceId := by
                rcases reported with ⟨same, -⟩ | same
                · exact orphaned.congr same
                · cases same
                  exact orphaned
              rw [andThen_ok, run_bind, Program.bind_assoc]
              refine ih kept (remaining.later (Changes.evolves moved)) ?_
              intro w kept further final result discovered
              cases result with
              | error error =>
                refine rest w kept (moved.trans further) final (.error error) ?_
                refine discovered.imp id ?_
                rintro ⟨other, resourceId, orphan, member, collision⟩
                exact ⟨other, resourceId, orphan, List.mem_cons_of_mem _ member, collision⟩
              | ok candidates =>
                refine rest w kept (moved.trans further) final (.ok (stored :: candidates)) ?_
                intro other member otherId again
                rcases List.mem_cons.mp member with rfl | member
                · rw [owned] at again
                  cases again
                  exact Or.inr ⟨stored, List.mem_cons_self, reports⟩
                · rcases discovered other member otherId again with present | ⟨found, among, told⟩
                  · exact Or.inl present
                  · exact Or.inr ⟨found, List.mem_cons_of_mem _ among, told⟩
          rw [andThen_ok]
          cases record with
          | true =>
            rw [if_pos rfl, run_bind, Program.bind_assoc]
            refine safe_putOrphan fun v kept since final stored reported => ?_
            exact recorded v kept since final stored (Or.inl reported)
          | false => exact recorded u kept .refl final (.ok candidate) (Or.inr rfl)

theorem listed_committed {start : String} (consistent : Consistent X s) :
    AreCommitted s (s.listed start) := by
  intro item member
  unfold World.listed at member
  obtain ⟨⟨objectId, object⟩, among, rfl⟩ := List.mem_map.mp member
  have entry := (List.mem_filter.mp ((List.perm_insertionSort _ _).mem_iff.mp among)).1
  have found : s.object? objectId = some object := AList.mem_lookup_iff.mpr entry
  refine ⟨object, ?_, rfl⟩
  dsimp only
  rw [consistent.objects objectId object found]
  exact found

/-- The Objects a page of a scan looked at, at some moment up to now. -/
def Paged (P : Policy X) (first t : World) (limit : Int) (cursor : Option String)
    (objects : ObjectPage) : Prop :=
  ∃ earlier, Changes P first earlier ∧ Changes P earlier t ∧
    Listed X False earlier "artifacts/" limit cursor (.ok objects)

/-- How one page of a scan may end. -/
def DiscoveryEnds (faults : Prop) (P : Policy X) (first : World) (limit : Int)
    (cursor : Option String) : Postcondition (runtime X) World (Except PyError (OrphanPage X)) :=
  fun _ t result => match result with
    | .ok page => ∃ objects, Paged P first t limit cursor objects ∧ page.cursor = objects.cursor ∧
        Discovered faults objects.items t (.ok page.items)
    | .error error => faults ∨ offsetOf X cursor = none ∨ ∃ objects, Paged P first t limit cursor objects ∧
        Discovered (X := X) faults objects.items t (.error error)

theorem safe_discoverOrphans {limit : Int} {cursor : Option String} {record : Bool} :
    (discoverOrphans limit cursor record : PyM X _).run.Safe (following P first) (serving X faults)
      (DiscoveryEnds faults P first limit cursor) [] s := by
  unfold discoverOrphans
  rw [run_bind]
  refine safe_list fun t kept _ event _ _ result listed => ?_
  cases result with
  | error error => exact safe_stop fun _ => listed.imp id Or.inl
  | ok page =>
    have committed : AreCommitted t page.items := by
      obtain ⟨offset, -, items, -⟩ := listed
      intro item member
      rw [items] at member
      exact listed_committed kept.1 item (List.mem_of_mem_drop (List.mem_of_mem_take member))
    rw [andThen_ok, run_bind]
    refine safe_scanItems kept committed fun u _ moved final result discovered => ?_
    cases result with
    | error error =>
      intro v later _
      exact Or.inr (Or.inr ⟨page, ⟨t, kept.2, moved.trans later, listed⟩, discovered.later later⟩)
    | ok candidates =>
      intro v later _
      exact ⟨page, ⟨t, kept.2, moved.trans later, listed⟩, rfl, discovered.later later⟩

end ArtifactConsumer

end ConfigArtifact
