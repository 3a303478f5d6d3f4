import ConfigArtifact.Guarantees.CompareAndSet
import ConfigArtifact.Guarantees.Orphans
import ConfigArtifact.Interaction.Paging
import ConfigArtifact.Operations.Scanning

/-! A scan that follows the cursors finds every orphan, and no other Object.

Metadata may be published while the scan goes on; only the Objects have to stay
as they are, for the cursors to stand for one listing. Each page is exact about
its part of it, and the parts are put together by following the cursors.
-/

set_option autoImplicit false

namespace ConfigArtifact

open Interaction Fallible MetadataRepository ArtifactConsumer

variable {X : Platform} {first s t u T : World}

/-- The entries of the Objects, by id. -/
abbrev entryLe (left right : (_ : String) × StoredObject) : Prop := left.1 ≤ right.1

instance : Std.Total entryLe := ⟨fun left right => le_total left.1 right.1⟩

instance : IsTrans _ entryLe := ⟨fun _ _ _ => le_trans⟩

theorem object?_of_entry {entry : (_ : String) × StoredObject} (member : entry ∈ s.objects.entries) :
    s.object? entry.1 = some entry.2 := AList.mem_lookup_iff.mpr member

theorem entry_eq {left right : (_ : String) × StoredObject} (member : left ∈ s.objects.entries)
    (among : right ∈ s.objects.entries) (same : left.1 = right.1) : left = right := by
  have found := object?_of_entry member
  rw [same, object?_of_entry among] at found
  obtain ⟨objectId, object⟩ := left
  obtain ⟨other, another⟩ := right
  cases same
  cases found
  rfl

/-- A listing only depends on which Objects there are. -/
theorem listed_congr (same : ∀ objectId, s.object? objectId = t.object? objectId) (start : String) :
    s.listed start = t.listed start := by
  have entries : List.Perm s.objects.entries t.objects.entries := by
    refine List.lookup_ext s.objects.nodupKeys t.objects.nodupKeys fun objectId object => ?_
    change object ∈ s.object? objectId ↔ object ∈ t.object? objectId
    rw [same]
  let selected (world : World) := world.objects.entries.filter fun entry =>
    start.toList.isPrefixOf entry.1.toList
  have sorted : ∀ world, List.Perm ((selected world).insertionSort entryLe) (selected world) :=
    fun _ => List.perm_insertionSort _ _
  have perm := (sorted s).trans ((entries.filter _).trans (sorted t).symm)
  refine congrArg (List.map _) (List.Perm.eq_of_pairwise ?_ (List.pairwise_insertionSort _ _)
    (List.pairwise_insertionSort _ _) perm)
  intro left right member among le ge
  have inside : ∀ {entry}, entry ∈ (selected s).insertionSort entryLe → entry ∈ s.objects.entries :=
    fun member => List.mem_of_mem_filter ((sorted s).mem_iff.mp member)
  exact entry_eq (inside member) (inside (perm.mem_iff.mpr among)) (le_antisymm le ge)

theorem mem_listed {resourceId : String} {object : StoredObject}
    (found : s.object? (objectIdOf resourceId) = some object) :
    object.metadata ∈ s.listed "artifacts/" := by
  unfold World.listed
  refine List.mem_map.mpr ⟨⟨objectIdOf resourceId, object⟩, ?_, rfl⟩
  refine (List.perm_insertionSort _ _).mem_iff.mpr (List.mem_filter.mpr ⟨?_, ?_⟩)
  · exact AList.mem_lookup_iff.mp found
  · simp [objectIdOf]

/-- The id an Object is listed under is the one of the resource it names. -/
theorem entry_scanned (consistent : Consistent X s) {entry : (_ : String) × StoredObject}
    {resourceId : String} (member : entry ∈ s.objects.entries)
    (owned : scanned entry.2.metadata = some resourceId) : entry.1 = objectIdOf resourceId := by
  rw [← (scanned_some owned).2, consistent.objects _ _ (object?_of_entry member)]

/-- No resource id is listed twice. -/
theorem nodup_scanned (consistent : Consistent X s) (start : String) :
    ((s.listed start).filterMap scanned).Nodup := by
  unfold World.listed
  rw [List.filterMap_map]
  set entries := s.objects.entries.filter fun entry => start.toList.isPrefixOf entry.1.toList
  have inside : ∀ entry, entry ∈ entries.insertionSort (fun left right => left.1 ≤ right.1) →
      entry ∈ s.objects.entries := fun entry member =>
    List.mem_of_mem_filter ((List.perm_insertionSort _ _).mem_iff.mp member)
  have distinct : (entries.insertionSort fun left right => left.1 ≤ right.1).Nodup := by
    refine (List.perm_insertionSort _ _).nodup_iff.mpr (List.Nodup.filter _ ?_)
    exact List.Nodup.of_map Sigma.fst s.objects.nodupKeys
  refine List.pairwise_filterMap.mpr (List.Pairwise.imp_of_mem ?_ distinct)
  intro left right member among apart resourceId owned other again same
  subst same
  refine apart (entry_eq (inside left member) (inside right among) ?_)
  rw [entry_scanned consistent (inside left member) owned,
    entry_scanned consistent (inside right among) again]

/-- Objects that are all there at first stay the only ones. -/
theorem object?_settled (began : Evolves X first t) (later : Evolves X t T)
    (settled : ∀ objectId, T.object? objectId ≠ none → first.object? objectId ≠ none)
    (objectId : String) : t.object? objectId = T.object? objectId := by
  cases last : T.object? objectId with
  | none =>
    cases found : t.object? objectId with
    | none => rfl
    | some object =>
      rw [later.objects _ _ found] at last
      cases last
  | some object =>
    obtain ⟨early, there⟩ := Option.ne_none_iff_exists'.mp (settled objectId (by simp [last]))
    have middle := began.objects _ _ there
    rw [later.objects _ _ middle] at last
    cases last
    exact middle

/-- No row had this id at first. -/
def Unpublished (first : World) (resourceId : String) : Prop :=
  first.row? .metadata resourceId = none

section

variable {ι : Type} [DecidableEq ι] {admits : World → Request X → Prop} {pool : Clients X ι}

/-- A page that a client was shown is one of the listing, where the listing stays as it is. -/
theorem listed_of_shown (consistent : Consistent X first)
    (reachable : Pool.Reachable (deployment (reliable X) admits) first pool)
    (settled : ∀ objectId, pool.state.object? objectId ≠ none → first.object? objectId ≠ none)
    {i : ι} {start : String} {limit : Int} {cursor : Option String} {objects : ObjectPage}
    (shown : ShownPage pool i start limit cursor objects) :
    Listed X False pool.state start limit cursor (.ok objects) := by
  obtain ⟨before, reply, after, logged, offset, stands, items, ended⟩ := shown
  have sound := unrestricted_sound consistent reachable
  obtain ⟨-, -, -, during⟩ := sound.genuine _ logged
  obtain ⟨began, since⟩ := sound.past _ logged
  have later := Changes.evolves (during.trans since)
  have same := listed_congr (object?_settled (Changes.evolves began) later settled) start
  rw [same] at items ended
  exact ⟨offset, stands, items, ended⟩

/-- Whoever is told of no row has looked where there was none at first. -/
theorem unpublished_of_missing (consistent : Consistent X first)
    (reachable : Pool.Reachable (deployment (reliable X) admits) first pool) {i : ι}
    {before after : World} {key : String} {reply : Except PyError OperationResult}
    (logged : (i, ⟨before, .structured (.get .metadata [("resourceId", .str key)]), reply, after⟩) ∈
      pool.log)
    (missing : readRecord (parseResource X) "structured resource result" key false reply = .ok none) :
    Unpublished first key := by
  have sound := unrestricted_sound consistent reachable
  obtain ⟨was, -, answered, -⟩ := sound.genuine _ logged
  have reads : ∀ row, before.row? .metadata key = some row → ∃ resource : StoredResourceV1 X,
      Reads .metadata (parseResource X) row resource ∧ True := by
    intro row found
    obtain ⟨resource, holds, -⟩ := was.1.stores found
    exact ⟨resource, holds.reads, trivial⟩
  have served : serving X False (.structured (.get .metadata [("resourceId", .str key)])) before reply
      after := serving_of_reliable _ _ _ _ answered
  obtain ⟨-, looked⟩ := lookup_of_served "structured resource result" false reads served
  rw [missing] at looked
  have gone : before.row? .metadata key = none := looked.2.resolve_left id
  by_contra present
  exact (Changes.evolves (sound.past _ logged).1).metadata key present gone

/-- The pages that clients have been given by scans. -/
def ScanPages (pool : Clients X ι) (limit : Int) (cursor : Option String)
    (page : Page (OrphanCandidateV1 X)) : Prop :=
  ∃ i record, pool.Finished i (.discoverOrphans limit cursor record) (.ok ⟨page.items, page.cursor⟩)

theorem scanPages_paginate (consistent : Consistent X first)
    (reachable : Pool.Reachable (deployment (reliable X) admits) first pool)
    (settled : ∀ objectId, pool.state.object? objectId ≠ none → first.object? objectId ≠ none)
    (limit : Int) : Paginates (offsetOf X) limit.toNat (Scanned (Unpublished first) pool.state)
      (pool.state.listed "artifacts/") (ScanPages pool limit) where
  nil := .nil
  append := Scanned.append
  page := by
    rintro cursor page ⟨i, record, finished⟩
    obtain ⟨objects, shown, same, scan⟩ := surveyed_of_finished (Unpublished first) consistent
      (reachable.mono faulty_of_reliable) finished fun _ _ _ _ =>
        unpublished_of_missing consistent reachable
    obtain ⟨offset, stands, items, ended⟩ := listed_of_shown consistent reachable settled shown
    have same : page.cursor = objects.cursor := same
    rw [items] at scan
    refine ⟨offset, stands, scan, ?_, ?_⟩
    · intro last
      rw [same, ended] at last
      unfold pageCursor at last
      split at last
      · cases last
      · next reached => exact Nat.not_lt.mp reached
    · intro following further
      rw [same, ended] at further
      unfold pageCursor at further
      split at further
      · next reached =>
        cases further
        exact ⟨reached, X.cursorOffset_cursorAt _⟩
      · cases further

/-- Scans that follow the cursors to the end report every Object that has no metadata row, each once,
and none that had one from the start. -/
theorem scans_exact (consistent : Consistent X first)
    (reachable : Pool.Reachable (deployment (reliable X) admits) first pool)
    (settled : ∀ objectId, pool.state.object? objectId ≠ none → first.object? objectId ≠ none)
    {limit : Int} {candidates : List (OrphanCandidateV1 X)}
    (followed : Followed (ScanPages pool limit) none candidates) :
    (candidates.map fun candidate => candidate.resourceId).Nodup ∧
    (∀ resourceId object, pool.state.object? (objectIdOf resourceId) = some object →
      scanned object.metadata = some resourceId →
      pool.state.row? .metadata resourceId ≠ none ∨
        ∃ candidate ∈ candidates, Reports candidate object.metadata resourceId) ∧
    ∀ candidate ∈ candidates, first.row? .metadata candidate.resourceId = none ∧
      ∃ object, pool.state.object? (objectIdOf candidate.resourceId) = some object ∧
        Reports candidate object.metadata candidate.resourceId := by
  have kept : Consistent X pool.state := (unrestricted_sound consistent reachable).invariant.1
  have scan : Scanned (Unpublished first) pool.state (pool.state.listed "artifacts/") candidates :=
    (scanPages_paginate consistent reachable settled limit).reads_followed followed rfl
  refine ⟨(nodup_scanned kept _).sublist scan.once, ?_, ?_⟩
  · intro resourceId object found owned
    exact scan.complete _ (mem_listed found) resourceId owned
  · intro candidate member
    obtain ⟨absent, item, among, owned, reports⟩ := scan.sound candidate member
    obtain ⟨object, found, rfl⟩ := listed_committed kept item among
    rw [(scanned_some owned).2] at found
    exact ⟨absent, object, found, reports⟩

end

namespace Reference

/-- A scan that returns the last page. -/
def reachesEnd : (request : Request Platform.reference) → request.Result → Bool
  | .discoverOrphans .., .ok page => page.cursor.isNone
  | _, _ => false

end Reference

/-- Both of two racing scans find the one Object, and the end of the listing. -/
theorem scans_exact_race :
    let pool := simulate Platform.reference [] Reference.scanRace Reference.stranding
    ∃ candidates, Followed (ScanPages pool 10) none candidates ∧
      ∃ candidate ∈ candidates, Reports candidate Reference.strandedObject.metadata
        (Reference.identity.resourceId Platform.reference) := by
  intro pool
  have registering : Registering [] Reference.scanRace := by
    intro request member
    rcases List.mem_pair.mp member with rfl | rfl <;> trivial
  have uniform : IsUniform [] Reference.stranding := fun _ _ found => by cases found
  have reachable := simulate_reachable uniform registering
  have only : pool.state.objects.keys = [objectIdOf (Reference.identity.resourceId Platform.reference)] :=
    by decide +kernel
  have there : Reference.stranding.object?
      (objectIdOf (Reference.identity.resourceId Platform.reference)) =
        some Reference.strandedObject := by
    unfold Reference.stranding
    rw [World.object?_setObject, if_pos rfl]
  have settled : ∀ objectId, pool.state.object? objectId ≠ none →
      Reference.stranding.object? objectId ≠ none := by
    intro objectId present
    obtain ⟨object, found⟩ := Option.ne_none_iff_exists'.mp present
    have member := AList.lookup_isSome.mp (Option.isSome_of_eq_some found)
    rw [AList.mem_keys, only, List.mem_singleton] at member
    rw [member, there]
    exact Option.some_ne_none _
  have serves : pool.request? false = some Reference.recordingScan :=
    simulate_request [.start false Reference.recordingScan] _ rfl
  have ended : pool.ends false Reference.reachesEnd = true := by decide +kernel
  obtain ⟨result, finished, last⟩ := Pool.finished_of_ends serves ended
  cases result with
  | error error => cases last
  | ok page =>
    obtain ⟨items, cursor⟩ := page
    obtain rfl : cursor = none := Option.isNone_iff_eq_none.mp last
    have gives : ScanPages pool 10 none ⟨items, none⟩ := ⟨false, true, finished⟩
    have followed := Followed.last gives
    have grown : Evolves Platform.reference Reference.stranding pool.state :=
      Changes.evolves (unrestricted_sound Reference.fresh_stranding.consistent reachable).invariant.2
    have found := grown.objects _ _ there
    have absent : pool.state.row? .metadata (Reference.identity.resourceId Platform.reference) = none :=
      by decide +kernel
    obtain ⟨-, complete, -⟩ := scans_exact Reference.fresh_stranding.consistent reachable settled followed
    have reported := complete _ _ found (by decide +kernel)
    exact ⟨items, followed, reported.resolve_left fun present => present absent⟩

end ConfigArtifact
