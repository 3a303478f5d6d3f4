import Mathlib.Algebra.Order.Monoid.Unbundled.WithTop
import Mathlib.Data.Prod.Lex
import Mathlib.Data.String.Basic
import Mathlib.Order.WithBot
import ConfigArtifact.Simulation

/-! The latest version of a name, as the stored rows determine it. -/

set_option autoImplicit false

namespace ConfigArtifact

open Interaction Fallible MetadataRepository

variable {X : Platform} {s t : World}

/-- `latest` of the consumer of a profile. -/
def latestOf (X : Platform) (profile : ResourceProfile) («namespace» kind name : String) :
    PyM X (ResolvedResource X) :=
  match profile with
  | .configuration => ConfigurationConsumer.latest «namespace» kind name
  | .artifact => ArtifactConsumer.latest «namespace» kind name

/-- A missing version order is below every other. -/
def orderRank : Option Nat → WithBot Nat
  | none => ⊥
  | some order => order

/-- What `latest` goes by: the version order, and then the creation time. -/
def StoredResourceFields.rank (resource : StoredResourceFields X) : WithBot Nat ×ₗ String :=
  toLex (orderRank resource.versionOrder, resource.createdAt)

/-- A published resource of the profile and the name. -/
structure IsPublished (s : World) (profile : ResourceProfile) («namespace» kind name : String)
    (resource : StoredResourceV1 X) : Prop where
  stores : Stores s resource
  profile : resource.profile = profile
  state : resource.state = .published
  named : resource.identity.namespace = «namespace» ∧ resource.identity.kind = kind ∧
    resource.identity.name = name

/-- A published resource that none of the name ranks above. -/
def IsLatest (s : World) (profile : ResourceProfile) («namespace» kind name : String)
    (resource : StoredResourceV1 X) : Prop :=
  IsPublished s profile «namespace» kind name resource ∧
    ∀ other : StoredResourceV1 X, IsPublished s profile «namespace» kind name other →
      other.rank ≤ resource.rank

/-- Every metadata row holds a resource under its id. -/
def HoldsResources (X : Platform) (s : World) : Prop :=
  ∀ key row, s.row? .metadata key = some row →
    ∃ resource : StoredResourceV1 X, row.Holds resource ∧ resource.resourceId = key

/-- The conditions and the order of the query. -/
def latestFilter (profile : ResourceProfile) («namespace» kind name : String) : Mapping :=
  [("namespace", .str «namespace»), ("kind", .str kind), ("name", .str name),
    ("profile", .str profile.value), ("state", .str ResourceState.published.value)]

def latestOrder : List OrderBy := [⟨"versionOrder", true⟩, ⟨"createdAt", true⟩]

/-- What `list_resources` makes of the answer to its query. -/
def readResources (X : Platform) (result : OperationResult) :
    Except PyError (List (StoredResourceV1 X)) := do
  let (items, _) ← pageOf result "structured resource query result"
  items.mapM (pageItem (parseResource X) "resource page item")

/-- The check of the consumer of a profile. -/
def requireProfile (profile : ResourceProfile) (resource : StoredResourceV1 X) :
    Except PyError Unit :=
  match profile with
  | .configuration => ConfigurationConsumer.requireConfiguration resource
  | .artifact => requireArtifact resource

/-- What the consumers make of the page. -/
def selectLatest (profile : ResourceProfile) («namespace» kind name : String)
    (resources : List (StoredResourceV1 X)) : Except PyError (ResolvedResource X) :=
  match resources with
  | [] =>
    .error (resourceNotFound (some («namespace» ++ ":" ++ kind ++ "/" ++ name ++ "@latest")))
  | resource :: _ => requireProfile profile resource >>= fun _ => .ok { resource }

theorem run_latestResource (profile : ResourceProfile) («namespace» kind name : String) :
    (latestResource X «namespace» kind name (some profile.value)).run =
      .call (.query .metadata (latestFilter profile «namespace» kind name) latestOrder 1 none)
        fun reply => .done (reply >>= readResources X >>= fun resources =>
          match resources with
          | [] => .error (resourceNotFound
              (some («namespace» ++ ":" ++ kind ++ "/" ++ name ++ "@latest")))
          | resource :: _ => .ok resource) := by
  apply congrArg (Program.call _)
  funext reply
  cases reply with
  | error error => rfl
  | ok result =>
    change (andThen _ (pageOf result "structured resource query result" >>= fun page =>
      page.1.mapM (pageItem (parseResource X) "resource page item") >>= fun resources =>
        Except.ok (ResourcePage.mk resources page.2))) = _
    change _ = Program.done ((pageOf result "structured resource query result" >>= fun page =>
      page.1.mapM (pageItem (parseResource X) "resource page item")) >>= _)
    cases pageOf result "structured resource query result" with
    | error error => rfl
    | ok page =>
      change andThen _ (page.1.mapM _ >>= _) = Program.done (page.1.mapM _ >>= _)
      match page.1.mapM (pageItem (parseResource X) "resource page item") with
      | .error error => rfl
      | .ok [] => rfl
      | .ok (resource :: rest) => rfl

theorem run_latestOf (profile : ResourceProfile) («namespace» kind name : String) :
    (latestOf X profile «namespace» kind name).run =
      .call (.structured (.query .metadata (latestFilter profile «namespace» kind name)
        latestOrder 1 none)) fun reply =>
          .done (reply >>= readResources X >>= selectLatest profile «namespace» kind name) := by
  have body : (latestOf X profile «namespace» kind name).run =
      ((latestResource X «namespace» kind name (some profile.value)).run.embed
        (outsideTransaction X)).bind (andThen fun resource =>
          settle (selectLatest profile «namespace» kind name [resource])) := by
    cases profile with
    | configuration =>
      refine (run_bind _ _).trans (congrArg (Program.bind _) (funext fun first => ?_))
      cases first with
      | error error => rfl
      | ok resource =>
        rw [andThen_ok, andThen_ok, run_settle_bind, run_settle]
        change _ = Program.done (ConfigurationConsumer.requireConfiguration resource >>= fun _ =>
          Except.ok (ResolvedResource.mk resource none))
        cases ConfigurationConsumer.requireConfiguration resource <;> rfl
    | artifact =>
      refine (run_bind _ _).trans (congrArg (Program.bind _) (funext fun first => ?_))
      cases first with
      | error error => rfl
      | ok resource =>
        rw [andThen_ok, andThen_ok, run_settle_bind, run_settle]
        change _ = Program.done (requireArtifact resource >>= fun _ =>
          Except.ok (ResolvedResource.mk resource none))
        cases requireArtifact resource <;> rfl
  rw [body, run_latestResource]
  apply congrArg (Program.call _)
  funext reply
  cases reply with
  | error error => rfl
  | ok result =>
    change Program.bind (.done (readResources X result >>= _)) _ =
      Program.done (readResources X result >>= _)
    match readResources X result with
    | .error error => rfl
    | .ok [] => rfl
    | .ok (resource :: rest) => rfl

theorem columnLe_versionOrder (left right : Option Nat) :
    columnLe true (optionalJson natJson left) (optionalJson natJson right) = true ↔
      orderRank right ≤ orderRank left := by
  cases left with
  | none =>
    cases right with
    | none => exact iff_of_true rfl le_rfl
    | some right =>
      exact iff_of_false (by simp [natJson, columnLe, columnRank]) (WithBot.not_coe_le_bot right)
  | some left =>
    cases right with
    | none => exact iff_of_true (by simp [natJson, columnLe, columnRank]) bot_le
    | some right =>
      have ranked : orderRank (some right) ≤ orderRank (some left) ↔ right ≤ left :=
        WithBot.coe_le_coe
      rw [ranked]
      simp [natJson, columnLe]

theorem rowLe_latest {row other : Row} {left right : StoredResourceV1 X} (holds : row.Holds left)
    (again : other.Holds right) :
    rowLe latestOrder row other = true ↔ right.rank ≤ left.rank := by
  have columns : ∀ {row : Row} {resource : StoredResourceV1 X}, row.Holds resource →
      entryOf row.values "versionOrder" = optionalJson natJson resource.versionOrder ∧
        entryOf row.values "createdAt" = .str resource.createdAt := by
    intro row resource holds
    rw [holds.1]
    exact ⟨rfl, rfl⟩
  have created : columnLe true (.str left.createdAt) (.str right.createdAt) = true ↔
      right.createdAt ≤ left.createdAt := by simp [columnLe]
  simp only [rowLe, latestOrder, (columns holds).1, (columns holds).2, (columns again).1,
    (columns again).2, Bool.and_eq_true, Bool.or_eq_true, Bool.not_eq_true', ← Bool.not_eq_true,
    columnLe_versionOrder, created]
  rw [StoredResourceFields.rank, StoredResourceFields.rank, Prod.Lex.toLex_le_toLex]
  rcases lt_trichotomy (orderRank right.versionOrder) (orderRank left.versionOrder) with
    lower | same | higher
  · simp [lower, lower.le, lower.not_ge]
  · simp [same]
  · simp [higher.not_ge, higher.not_gt, higher.ne']

section

variable {profile : ResourceProfile} {«namespace» kind name : String}
  {resource : StoredResourceV1 X}

theorem matches_latestFilter {row : Row} (holds : row.Holds resource) :
    matchesFilter (latestFilter profile «namespace» kind name) row = true ↔
      resource.profile = profile ∧ resource.state = .published ∧
        resource.identity.namespace = «namespace» ∧ resource.identity.kind = kind ∧
          resource.identity.name = name := by
  unfold matchesFilter
  rw [holds.1]
  have profiled : resource.profile.value = profile.value ↔ resource.profile = profile := by
    cases resource.profile <;> cases profile <;> decide
  have published : resource.state.value = ResourceState.published.value ↔
      resource.state = .published := by
    cases resource.state <;> decide
  rw [← profiled, ← published]
  simp [latestFilter, entryOf, StoredResourceFields.toRecord, List.lookup_cons]
  tauto

/-- What a consumer answers from the rows of a store. -/
def Resolves (s : World) (profile : ResourceProfile) («namespace» kind name : String) :
    Except PyError (ResolvedResource X) → Prop
  | .ok resolved => resolved.channel = none ∧
      IsLatest s profile «namespace» kind name resolved.resource
  | .error error =>
      error = resourceNotFound (some («namespace» ++ ":" ++ kind ++ "/" ++ name ++ "@latest")) ∧
        ∀ resource : StoredResourceV1 X, ¬IsPublished s profile «namespace» kind name resource

theorem requireProfile_ok (same : resource.profile = profile) :
    requireProfile profile resource = .ok () := by
  cases profile with
  | configuration => exact raiseIf_ok.mpr (not_not.mpr same)
  | artifact => exact raiseIf_ok.mpr (not_not.mpr same)

theorem readResources_row {row : Row} {key : String} {item : JsonValue} (held : row.Holds resource)
    (presented : Presents X .metadata key row item) (reached total : Nat)
    (references : List ResourceRef) :
    readResources X ⟨pageData [item] (nextCursor X reached total), references⟩ = .ok [resource] := by
  obtain ⟨cursor, paged⟩ := pageOf_pageData (X := X) [item] reached total references
    "structured resource query result"
  have parsed : pageItem (parseResource X) "resource page item" item = .ok resource :=
    pageItem_presented held.reads presented
  rw [readResources, paged, ok_bind]
  dsimp only
  rw [List.mapM_cons, parsed]
  rfl

theorem readResources_none (reached total : Nat) (references : List ResourceRef) :
    readResources X ⟨pageData [] (nextCursor X reached total), references⟩ = .ok [] := by
  obtain ⟨cursor, paged⟩ := pageOf_pageData (X := X) [] reached total references
    "structured resource query result"
  rw [readResources, paged]
  rfl

theorem selectLatest_row (rest : List (StoredResourceV1 X)) (same : resource.profile = profile) :
    selectLatest profile «namespace» kind name (resource :: rest) = .ok { resource } := by
  rw [selectLatest, requireProfile_ok same, ok_bind]

/-- The rows that the query selects, and the resources they hold. -/
def candidates (s : World) (profile : ResourceProfile) («namespace» kind name : String) : List Row :=
  (s.rows .metadata).filter (matchesFilter (latestFilter profile «namespace» kind name))

theorem IsPublished.candidate (published : IsPublished s profile «namespace» kind name resource) :
    ∃ row ∈ candidates s profile «namespace» kind name,
      s.row? .metadata resource.resourceId = some row ∧ row.Holds resource := by
  obtain ⟨row, found, held⟩ := published.stores
  have kept := (matches_latestFilter held).mpr
    ⟨published.profile, published.state, published.named⟩
  exact ⟨row, List.mem_filter.mpr ⟨World.mem_rows.mpr ⟨_, found⟩, kept⟩, found, held⟩

theorem isPublished_of_candidate {row : Row} (holds : HoldsResources X s)
    (member : row ∈ candidates s profile «namespace» kind name) :
    ∃ resource : StoredResourceV1 X, row.Holds resource ∧
      IsPublished s profile «namespace» kind name resource := by
  obtain ⟨among, matched⟩ := List.mem_filter.mp member
  obtain ⟨key, found⟩ := World.mem_rows.mp among
  obtain ⟨resource, held, keyed⟩ := holds key row found
  obtain ⟨profiled, published, named⟩ := (matches_latestFilter held).mp matched
  exact ⟨resource, held, ⟨row, keyed ▸ found, held⟩, profiled, published, named⟩

theorem runs_latestOf (holds : HoldsResources X s) {result : Except PyError (ResolvedResource X)}
    (runs : (latestOf X profile «namespace» kind name).run.Runs (reliable X) s result t) :
    t = s ∧ Resolves s profile «namespace» kind name result := by
  rw [run_latestOf] at runs
  obtain ⟨reply, middle, answered, rfl, rfl⟩ := runs
  obtain ⟨rfl, selected, items, references, selection, sorted, shown, rfl⟩ := answered
  refine ⟨rfl, ?_⟩
  rw [ok_bind]
  cases selected with
  | nil =>
    cases shown
    rw [readResources_none, ok_bind]
    refine ⟨rfl, fun resource published => ?_⟩
    obtain ⟨row, member, -⟩ := published.candidate
    cases selection.mem_iff.mpr member
  | cons row rest =>
    obtain ⟨item, others, ⟨key, found, presented⟩, last, rfl⟩ := List.forall₂_cons_left_iff.mp shown
    cases last
    obtain ⟨resource, held, published⟩ := isPublished_of_candidate holds
      (selection.mem_iff.mp List.mem_cons_self)
    rw [readResources_row held presented, ok_bind, selectLatest_row [] published.profile]
    refine ⟨rfl, published, fun other among => ?_⟩
    obtain ⟨later, member, -, heldLater⟩ := among.candidate
    rcases List.mem_cons.mp (selection.mem_iff.mpr member) with rfl | member
    · rw [held.unique heldLater]
    · exact (rowLe_latest held heldLater).mp ((List.pairwise_cons.mp sorted).1 later member)

/-- Any of the resources that none ranks above may be the one that is returned. -/
theorem latestOf_returns (holds : HoldsResources X s)
    (latest : IsLatest s profile «namespace» kind name resource) :
    (latestOf X profile «namespace» kind name).run.Runs (reliable X) s (.ok { resource }) s := by
  obtain ⟨published, greatest⟩ := latest
  obtain ⟨row, member, found, held⟩ := published.candidate
  let ordered (left right : Row) : Prop := rowLe latestOrder left right = true
  have total : Std.Total ordered := ⟨rowLe_total latestOrder⟩
  have transitive : IsTrans _ ordered := ⟨fun _ _ _ => rowLe_trans⟩
  let rest := ((candidates s profile «namespace» kind name).erase row).insertionSort ordered
  have selection : (row :: rest).Perm (candidates s profile «namespace» kind name) :=
    ((List.perm_insertionSort ordered _).cons row).trans (List.perm_cons_erase member).symm
  have sorted : (row :: rest).Pairwise fun left right => rowLe latestOrder left right = true := by
    refine List.pairwise_cons.mpr ⟨fun later among => ?_, List.pairwise_insertionSort ordered _⟩
    obtain ⟨other, heldOther, publishedOther⟩ := isPublished_of_candidate holds
      (selection.mem_iff.mp (List.mem_cons_of_mem row among))
    exact (rowLe_latest held heldOther).mpr (greatest other publishedOther)
  rw [run_latestOf]
  have presented := presents_presented (X := X) .metadata resource.resourceId row
  refine ⟨_, s, ⟨rfl, row :: rest, [_], [], selection, sorted,
    .cons ⟨_, found, presented⟩ .nil, rfl⟩, ?_, rfl⟩
  rw [ok_bind, readResources_row held presented, ok_bind, selectLatest_row [] published.profile]

theorem IsPublished.congr (same : ∀ key, s.row? .metadata key = t.row? .metadata key)
    (published : IsPublished s profile «namespace» kind name resource) :
    IsPublished t profile «namespace» kind name resource := by
  obtain ⟨row, found, held⟩ := published.stores
  exact ⟨⟨row, same _ ▸ found, held⟩, published.profile, published.state, published.named⟩

/-- What a consumer answers depends on the rows of the store only. -/
theorem Resolves.congr (same : ∀ key, s.row? .metadata key = t.row? .metadata key)
    {result : Except PyError (ResolvedResource X)}
    (resolves : Resolves s profile «namespace» kind name result) :
    Resolves t profile «namespace» kind name result := by
  have back : ∀ {other : StoredResourceV1 X}, IsPublished t profile «namespace» kind name other →
      IsPublished s profile «namespace» kind name other :=
    fun published => published.congr fun key => (same key).symm
  cases result with
  | error error => exact ⟨resolves.1, fun other published => resolves.2 other (back published)⟩
  | ok resolved =>
    obtain ⟨plain, published, greatest⟩ := resolves
    exact ⟨plain, published.congr same, fun other among => greatest other (back among)⟩

theorem Resolves.eq {result other : Except PyError (ResolvedResource X)}
    (resolves : Resolves s profile «namespace» kind name result)
    (again : Resolves s profile «namespace» kind name other)
    (unique : ∀ left right : StoredResourceV1 X, IsLatest s profile «namespace» kind name left →
      IsLatest s profile «namespace» kind name right → left = right) : result = other := by
  cases result with
  | error error =>
    cases other with
    | error other => rw [resolves.1, again.1]
    | ok resolved => exact absurd again.2.1 (resolves.2 resolved.resource)
  | ok resolved =>
    cases other with
    | error other => exact absurd resolves.2.1 (again.2 resolved.resource)
    | ok other =>
      obtain ⟨resource, channel⟩ := resolved
      obtain ⟨resource', channel'⟩ := other
      obtain ⟨rfl, latest⟩ := resolves
      obtain ⟨rfl, latest'⟩ := again
      rw [unique resource resource' latest latest']

end

/-- The latest resource is one that none ranks above; two stores with the same rows
name the same one unless several rank highest. -/
theorem latest_determined {profile : ResourceProfile} {«namespace» kind name : String}
    {s u t v : World} (holds : HoldsResources X s)
    (same : ∀ key, s.row? .metadata key = u.row? .metadata key)
    {result other : Except PyError (ResolvedResource X)}
    (runs : (latestOf X profile «namespace» kind name).run.Runs (reliable X) s result t)
    (again : (latestOf X profile «namespace» kind name).run.Runs (reliable X) u other v) :
    Resolves s profile «namespace» kind name result ∧ Resolves s profile «namespace» kind name other ∧
      ((∀ left right : StoredResourceV1 X, IsLatest s profile «namespace» kind name left →
        IsLatest s profile «namespace» kind name right → left = right) → result = other) := by
  have others : HoldsResources X u := fun key row found => holds key row (same key ▸ found)
  have resolves := (runs_latestOf holds runs).2
  have resolvesAgain := (runs_latestOf others again).2.congr fun key => (same key).symm
  exact ⟨resolves, resolvesAgain, resolves.eq resolvesAgain⟩

namespace Reference

section

variable {first next : StoredResourceV1 Platform.reference}
  (versioned : first.recordVersion = some (.number 1))
  (nextVersioned : next.recordVersion = some (.number 1))

include versioned nextVersioned

theorem holdsResources_holdingBoth :
    HoldsResources Platform.reference (holdingBoth first next) := by
  intro key row found
  rcases holdingBoth_rows versioned nextVersioned found with ⟨rfl, held⟩ | ⟨rfl, held⟩
  · exact ⟨next, held, rfl⟩
  · exact ⟨first, held, rfl⟩

theorem published_holdingBoth {profile : ResourceProfile} {«namespace» kind name : String}
    {other : StoredResourceV1 Platform.reference}
    (published : IsPublished (holdingBoth first next) profile «namespace» kind name other) :
    other = next ∨ other = first := by
  obtain ⟨row, found, held⟩ := published.stores
  rcases holdingBoth_rows versioned nextVersioned found with ⟨-, holds⟩ | ⟨-, holds⟩
  · exact Or.inl (held.unique holds)
  · exact Or.inr (held.unique holds)

end

theorem rank_newer : resource.rank < newer.rank :=
  Prod.Lex.toLex_lt_toLex.mpr (Or.inl (WithBot.bot_lt_coe 2))

/-- Two versions of one name that tie under the order of the query. -/
def tied : World :=
  holdingBoth resource second

theorem isLatest_tied : IsLatest tied .configuration "team" "feature" "flags" resource ∧
    IsLatest tied .configuration "team" "feature" "flags" second := by
  have stores := @stores_holdingBoth resource second rfl rfl resourceId_second
  have highest : ∀ other : StoredResourceV1 Platform.reference,
      IsPublished tied .configuration "team" "feature" "flags" other → other.rank = resource.rank := by
    intro other published
    rcases published_holdingBoth rfl rfl published with rfl | rfl <;> rfl
  have named : identity.namespace = "team" ∧ identity.kind = "feature" ∧ identity.name = "flags" :=
    ⟨rfl, rfl, rfl⟩
  exact ⟨⟨⟨stores.1, rfl, rfl, named⟩, fun other published => (highest other published).le⟩,
    ⟨stores.2, rfl, rfl, named⟩, fun other published => (highest other published).le⟩

/-- The newer version is the latest, whichever of the two was written first. -/
theorem isLatest_newer {s : World} (stores : Stores s newer)
    (only : ∀ {other : StoredResourceV1 Platform.reference},
      IsPublished s .configuration "team" "feature" "flags" other →
        other = newer ∨ other = resource) :
    IsLatest s .configuration "team" "feature" "flags" newer := by
  refine ⟨⟨stores, rfl, rfl, rfl, rfl, rfl⟩, fun other published => ?_⟩
  rcases only published with rfl | rfl
  · exact le_rfl
  · exact rank_newer.le

end Reference

open Reference in
/-- Two versions written in either order: the one with the higher order is the latest. -/
theorem latest_determined_ordered :
    resource.rank < newer.rank ∧
      (∀ s ∈ [holdingBoth resource newer, holdingBoth newer resource],
        (latestOf Platform.reference .configuration "team" "feature" "flags").run.Runs
          (reliable Platform.reference) s (.ok { resource := newer }) s) ∧
      ∀ result t, (latestOf Platform.reference .configuration "team" "feature" "flags").run.Runs
          (reliable Platform.reference) (holdingBoth resource newer) result t →
        result = .ok { resource := newer } := by
  have apart : resource.resourceId ≠ newer.resourceId := resourceId_second
  have stores := @stores_holdingBoth resource newer rfl rfl apart
  have storesOther := @stores_holdingBoth newer resource rfl rfl apart.symm
  have latest := isLatest_newer stores.2 fun published => published_holdingBoth rfl rfl published
  have latestOther := isLatest_newer storesOther.1 fun published =>
    (published_holdingBoth rfl rfl published).symm
  have returns := latestOf_returns
    (@holdsResources_holdingBoth resource newer rfl rfl) latest
  have returnsOther := latestOf_returns
    (@holdsResources_holdingBoth newer resource rfl rfl) latestOther
  refine ⟨rank_newer, by simp [returns, returnsOther], fun result t runs => ?_⟩
  have rows : ∀ key, (holdingBoth resource newer).row? .metadata key =
      (holdingBoth newer resource).row? .metadata key := by
    intro key
    simp only [holdingBoth, holding, World.row?_setRow, true_and]
    by_cases here : key = newer.resourceId
    · subst here
      rw [if_pos rfl, if_neg apart.symm, if_pos rfl]
    · rw [if_neg here, if_neg here]
  have unique : ∀ left right : StoredResourceV1 Platform.reference,
      IsLatest (holdingBoth resource newer) .configuration "team" "feature" "flags" left →
      IsLatest (holdingBoth resource newer) .configuration "team" "feature" "flags" right →
      left = right := by
    -- The other version has a lesser rank, so it is not the latest.
    have only : ∀ left : StoredResourceV1 Platform.reference,
        IsLatest (holdingBoth resource newer) .configuration "team" "feature" "flags" left →
        left = newer := by
      rintro left ⟨published, greatest⟩
      rcases published_holdingBoth rfl rfl published with rfl | rfl
      · rfl
      · exact absurd (greatest newer latest.1) (not_le.mpr rank_newer)
    intro left right isLeft isRight
    rw [only left isLeft, only right isRight]
  exact (latest_determined (holdsResources_holdingBoth rfl rfl) rows runs returnsOther).2.2 unique

namespace Reference

/-- Two versions that tie: the store may answer with either. -/
theorem latest_tied :
    ¬∀ (s u t v : World) (result other : Except PyError (ResolvedResource Platform.reference)),
      HoldsResources Platform.reference s →
      (∀ key, s.row? .metadata key = u.row? .metadata key) →
      (latestOf Platform.reference .configuration "team" "feature" "flags").run.Runs
        (reliable Platform.reference) s result t →
      (latestOf Platform.reference .configuration "team" "feature" "flags").run.Runs
        (reliable Platform.reference) u other v → result = other := by
  intro determined
  have holds : HoldsResources Platform.reference tied := holdsResources_holdingBoth rfl rfl
  have same := determined tied tied tied tied _ _ holds (fun _ => rfl)
    (latestOf_returns holds isLatest_tied.1) (latestOf_returns holds isLatest_tied.2)
  have versions := congrArg (fun resolved : ResolvedResource Platform.reference =>
    resolved.resource.identity.version) (Except.ok.inj same)
  exact absurd versions (by decide)

end Reference

end ConfigArtifact
