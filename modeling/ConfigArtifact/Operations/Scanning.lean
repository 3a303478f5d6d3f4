import ConfigArtifact.Operations.Recording

/-! What a scan concludes of the page of Objects it is shown.

Told the truth about the page and about the rows, a scan reports the Objects of
the package that have no row: all of them, each once and no other. What it is told
is left open, so that the same is said over stores that fail and over a listing
that stays as it is.
-/

set_option autoImplicit false

namespace ConfigArtifact

open Interaction Fallible MetadataRepository

variable {X : Platform} {pages : String → Int → Option String → ObjectPage → Prop}
  {absent : String → Prop} {T : World}

namespace ArtifactConsumer

/-- Replies that are true of the pages of Objects, of the rows that were absent, and of the rows that
are there in the end. -/
def Surveyed (X : Platform) (pages : String → Int → Option String → ObjectPage → Prop)
    (absent : String → Prop) (T : World) : Truth (runtime X)
  | .object (.list start limit cursor), reply =>
    ∀ page, (reply >>= ObjectRepository.pageOf X) = .ok page → pages start limit cursor page
  | .structured (.get .metadata filter), reply => ∀ key, filter = [("resourceId", .str key)] →
    let read := readRecord (parseResource X) "structured resource result" key false reply
    (read = .ok none → absent key) ∧
      ∀ existing, read = .ok (some existing) → T.row? .metadata key ≠ none
  | .structured (.put .orphanCandidates data), reply =>
    ∀ orphan : OrphanCandidateV1 X, data = orphan.toRecord X → ∀ result, reply = .ok result →
      ∃ stored, (recordOf result "structured orphan put result" >>= parseOrphan X) = .ok stored ∧
        sameOrphanIdentity stored orphan = true
  | _, _ => True

/-- What is reported of some listed Objects: at most once each, all those without a row in the end,
and none but those whose row was absent. -/
structure Scanned (absent : String → Prop) (T : World) (items : List ObjectMetadata)
    (candidates : List (OrphanCandidateV1 X)) : Prop where
  once : (candidates.map fun candidate => candidate.resourceId).Sublist (items.filterMap scanned)
  complete : ∀ item ∈ items, ∀ resourceId, scanned item = some resourceId →
    T.row? .metadata resourceId ≠ none ∨ ∃ candidate ∈ candidates, Reports candidate item resourceId
  sound : ∀ candidate ∈ candidates, absent candidate.resourceId ∧
    ∃ item ∈ items, scanned item = some candidate.resourceId ∧
      Reports candidate item candidate.resourceId

theorem Scanned.nil : Scanned absent T [] ([] : List (OrphanCandidateV1 X)) where
  once := List.Sublist.refl _
  complete := fun _ member => by cases member
  sound := fun _ member => by cases member

theorem Scanned.append {items others : List ObjectMetadata}
    {candidates more : List (OrphanCandidateV1 X)} (scan : Scanned absent T items candidates)
    (again : Scanned absent T others more) :
    Scanned absent T (items ++ others) (candidates ++ more) where
  once := by
    rw [List.map_append, List.filterMap_append]
    exact scan.once.append again.once
  complete := by
    intro item member resourceId owned
    rcases List.mem_append.mp member with member | member
    · refine (scan.complete item member resourceId owned).imp id ?_
      rintro ⟨candidate, among, reports⟩
      exact ⟨candidate, List.mem_append_left _ among, reports⟩
    · refine (again.complete item member resourceId owned).imp id ?_
      rintro ⟨candidate, among, reports⟩
      exact ⟨candidate, List.mem_append_right _ among, reports⟩
  sound := by
    intro candidate member
    rcases List.mem_append.mp member with member | member
    · obtain ⟨missing, item, among, told⟩ := scan.sound candidate member
      exact ⟨missing, item, List.mem_append_left _ among, told⟩
    · obtain ⟨missing, item, among, told⟩ := again.sound candidate member
      exact ⟨missing, item, List.mem_append_right _ among, told⟩

/-- An item that is not one of the package's, or whose row is there. -/
theorem Scanned.pass {item : ObjectMetadata}
    (settled : ∀ resourceId, scanned item = some resourceId → T.row? .metadata resourceId ≠ none) :
    Scanned absent T [item] ([] : List (OrphanCandidateV1 X)) where
  once := List.nil_sublist _
  complete := by
    intro other member resourceId owned
    rw [List.mem_singleton.mp member] at owned
    exact .inl (settled resourceId owned)
  sound := fun _ member => by cases member

theorem Scanned.report {item : ObjectMetadata} {resourceId : String}
    {candidate : OrphanCandidateV1 X} (owned : scanned item = some resourceId)
    (missing : absent resourceId) (reports : Reports candidate item resourceId) :
    Scanned absent T [item] [candidate] where
  once := by
    rw [List.filterMap_cons_some owned, List.map_cons, reports.1]
    exact List.Sublist.refl _
  complete := by
    intro other member otherId again
    obtain rfl := List.mem_singleton.mp member
    rw [owned] at again
    cases again
    exact .inr ⟨candidate, List.mem_singleton_self _, reports⟩
  sound := by
    intro other member
    obtain rfl := List.mem_singleton.mp member
    rw [reports.1]
    exact ⟨missing, item, List.mem_singleton_self _, owned, reports⟩

theorem reports_orphanOf {item : ObjectMetadata} {resourceId : String} (consistent : Consistent X T)
    (committed : IsObject T item.objectRef.objectId item) (owned : scanned item = some resourceId) :
    (orphanOf item resourceId : PyM X _).run.Concludes (Surveyed X pages absent T) (fun _ => True)
      fun result => ∀ orphan, result = .ok orphan → Reports orphan item resourceId := by
  obtain ⟨-, named⟩ := scanned_some owned
  obtain ⟨object, found, rfl⟩ := committed
  have reference := consistent.objects _ object found
  unfold orphanOf
  apply concludes_settle_bind
  · exact fun error _ _ raised => by cases raised
  · intro made making
    refine ⟨trivial, fun reply _ => ?_⟩
    cases reply with
    | error error => exact fun _ raised => by cases raised
    | ok now =>
      change Program.Concludes _ _ _ (settle (utcTimestampOfDatetime now) >>= _ : PyM X _).run
      apply concludes_settle_bind
      · exact fun error _ _ raised => by cases raised
      · intro discoveredAt _ orphan created
        obtain ⟨owner, same, hashed, measured⟩ := OrphanCandidateV1.takes_over created rfl rfl rfl
        refine ⟨owner, ?_, hashed, measured⟩
        have digested : object.metadata.objectRef.digest = some object.metadata.digest := by
          rw [reference]
        rw [same, X.objectReference_ok making]
        dsimp only
        rw [← digested]

theorem reports_putOrphan (orphan : OrphanCandidateV1 X) :
    (StructuredM.lift (putOrphan orphan) : PyM X _).run.Concludes (Surveyed X pages absent T)
      (fun _ => True) fun result => ∀ stored, result = .ok stored →
        sameOrphanIdentity stored orphan = true := by
  rw [run_putOrphan]
  refine ⟨trivial, fun reply told => ?_⟩
  unfold storedOrphan
  cases reply with
  | ok result =>
    obtain ⟨stored, read, same⟩ := told orphan rfl result rfl
    change ∀ other, (recordOf _ _ >>= parseOrphan X) = .ok other → _
    rw [read]
    rintro _ ⟨⟩
    exact same
  | error error =>
    dsimp only
    split
    · rw [lift_bind]
      refine ⟨trivial, fun reread _ => ?_⟩
      change Program.Concludes _ _ _ (andThen _ (readRecord (parseOrphan X) _ _ _ reread))
      cases readRecord (parseOrphan X) "structured orphan result" (orphan.candidateId X) false
          reread with
      | error other => exact fun _ raised => by cases raised
      | ok existing =>
        cases existing with
        | none => exact fun _ raised => by cases raised
        | some existing =>
          rw [andThen_ok]
          dsimp only
          split
          · next matching =>
            rintro _ ⟨⟩
            exact matching
          · exact fun _ raised => by cases raised
    · exact fun _ raised => by cases raised

theorem scanned_scanItems (consistent : Consistent X T) (record : Bool) {items : List ObjectMetadata}
    (committed : AreCommitted T items) :
    (scanItems record items : PyM X _).run.Concludes (Surveyed X pages absent T) (fun _ => True)
      fun result => ∀ candidates, result = .ok candidates → Scanned absent T items candidates := by
  induction items with
  | nil =>
    rintro _ ⟨⟩
    exact .nil
  | cons item others ih =>
    have later := ih fun other member => committed other (List.mem_cons_of_mem _ member)
    -- What follows an item that needs no candidate.
    have passing : (∀ resourceId, scanned item = some resourceId →
        T.row? .metadata resourceId ≠ none) →
        (scanItems record others : PyM X _).run.Concludes (Surveyed X pages absent T) (fun _ => True)
          fun result => ∀ candidates, result = .ok candidates →
            Scanned absent T (item :: others) candidates := fun settled =>
      later.mono fun result told candidates same => (Scanned.pass settled).append (told candidates same)
    unfold scanItems
    cases owned : scanned item with
    | none =>
      refine passing fun resourceId again => ?_
      rw [owned] at again
      cases again
    | some resourceId =>
      dsimp only
      rw [run_bind]
      refine ⟨trivial, fun reply told => ?_⟩
      obtain ⟨missing, present⟩ := told resourceId rfl
      change Program.Concludes _ _ _ (andThen _ (readRecord (parseResource X) _ _ _ reply))
      generalize readRecord (parseResource X) "structured resource result" resourceId false reply =
        read at missing present
      cases read with
      | error error => exact fun _ raised => by cases raised
      | ok found =>
        rw [andThen_ok]
        cases found with
        | some existing =>
          refine passing fun other again => ?_
          rw [owned] at again
          cases again
          exact present existing rfl
        | none =>
          dsimp only
          apply concludes_bind (reports_orphanOf consistent (committed item List.mem_cons_self) owned)
          · exact fun error _ _ raised => by cases raised
          · intro orphan built
            have reports := built orphan rfl
            have rest : ∀ stored : OrphanCandidateV1 X, Reports stored item resourceId →
                (do let candidates ← scanItems record others
                    return stored :: candidates : PyM X _).run.Concludes (Surveyed X pages absent T)
                  (fun _ => True) fun result => ∀ candidates, result = .ok candidates →
                    Scanned absent T (item :: others) candidates := by
              intro stored told
              apply concludes_bind later
              · exact fun error _ _ raised => by cases raised
              · rintro candidates listed _ ⟨⟩
                exact (Scanned.report owned (missing rfl) told).append (listed candidates rfl)
            cases record with
            | false => exact rest orphan reports
            | true =>
              apply concludes_bind (reports_putOrphan orphan)
              · exact fun error _ _ raised => by cases raised
              · exact fun stored same => rest stored (reports.congr (same stored rfl))

/-- What a scan says of the page of Objects it was answered with. -/
def PageSurveys (pages : String → Int → Option String → ObjectPage → Prop) (absent : String → Prop)
    (T : World) (limit : Int) (cursor : Option String) (result : Except PyError (OrphanPage X)) :
    Prop :=
  ∀ page, result = .ok page → ∃ objects : ObjectPage,
    pages "artifacts/" limit cursor objects ∧ page.cursor = objects.cursor ∧
      Scanned absent T objects.items page.items

theorem surveys_discoverOrphans (consistent : Consistent X T)
    (committed : ∀ start limit cursor objects, pages start limit cursor objects →
      AreCommitted T objects.items) (limit : Int) (cursor : Option String)
    (record : Bool) : (discoverOrphans limit cursor record : PyM X _).run.Concludes
      (Surveyed X pages absent T) (fun _ => True) (PageSurveys pages absent T limit cursor) := by
  unfold discoverOrphans
  rw [run_bind, run_list]
  refine ⟨trivial, fun reply told => ?_⟩
  change Program.Concludes _ _ _ (andThen _ (reply >>= ObjectRepository.pageOf X))
  have listing : ∀ page, (reply >>= ObjectRepository.pageOf X) = .ok page →
    pages "artifacts/" limit cursor page := told
  generalize (reply >>= ObjectRepository.pageOf X) = listed at listing
  cases listed with
  | error error => exact fun _ raised => by cases raised
  | ok objects =>
    have shown := listing objects rfl
    rw [andThen_ok]
    apply concludes_bind (scanned_scanItems consistent record (committed _ _ _ _ shown))
    · exact fun error _ _ raised => by cases raised
    · rintro candidates scan _ ⟨⟩
      exact ⟨objects, shown, rfl, scan candidates rfl⟩

end ArtifactConsumer

/-- What a request tells of the Objects it has been shown, if it is a scan. -/
def Request.Surveys (pages : String → Int → Option String → ObjectPage → Prop)
    (absent : String → Prop) (T : World) : (request : Request X) → request.Result → Prop
  | .discoverOrphans limit cursor _, result =>
    ArtifactConsumer.PageSurveys pages absent T limit cursor result
  | _, _ => True

theorem Request.surveys_program (consistent : Consistent X T)
    (committed : ∀ start limit cursor objects, pages start limit cursor objects →
      ArtifactConsumer.AreCommitted T objects.items) (request : Request X) :
    request.program.run.Concludes (ArtifactConsumer.Surveyed X pages absent T) (fun _ => True)
      (request.Surveys pages absent T) := by
  cases request with
  | discoverOrphans limit cursor record =>
    exact ArtifactConsumer.surveys_discoverOrphans consistent committed limit cursor record
  | _ => exact Program.concludes_any _

end ConfigArtifact
