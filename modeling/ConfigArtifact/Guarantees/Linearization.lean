import ConfigArtifact.Guarantees.Authority
import ConfigArtifact.Guarantees.Effects
import ConfigArtifact.Guarantees.Resolution
import ConfigArtifact.Interaction.Linearization
import ConfigArtifact.Operations.Alone.Configuration
import ConfigArtifact.Store.Standing

/-! A deployment works like a registry that serves one operation at a time.

The log of a deployment is read event by event. Most events do not change what the
stores stand for; the commit of a publication, of a deprecation and of a promotion
is one operation each. In the order of the log the operations are a run of the
registry, and each client has done there what its own answer tells.
-/

set_option autoImplicit false

namespace ConfigArtifact

open Interaction Relation

variable {X : Platform} {P : Policy X} {s t : World} {ι : Type}
  {events : List (Event (runtime X) World)} {operations : List RegistryOperation}

/-- The rows that stand for a registry are the same. -/
def Untouched (s t : World) : Prop :=
  ∀ collection ∈ [Collection.metadata, .channels], ∀ key,
    t.row? collection key = s.row? collection key

theorem Untouched.of_tables (same : t.tables = s.tables) : Untouched s t :=
  fun _ _ key => World.row?_of_tables same _ key

theorem explains_of_changes (live : P.live) {event : Event (runtime X) World}
    (gapFree : GapFree X event.before) (changes : Changes P event.before event.after) :
    ∃ operations, Explains (standing X) event operations := by
  obtain ⟨registry, stands⟩ := exists_represents gapFree
  obtain ⟨last, operations, later, performs⟩ := performs_changes live changes stands
  exact ⟨operations, registry, last, stands, later, performs⟩

theorem explains_untouched {event : Event (runtime X) World}
    (explains : Explains (standing X) event operations)
    (same : Untouched event.before event.after) : operations = [] := by
  obtain ⟨registry, last, stands, later, performs⟩ := explains
  obtain rfl : last = registry := Represents.unique
    (stands.congr (same .metadata (by decide)) (same .channels (by decide))) later
  exact Registry.performs_self performs

theorem told_untouched (told : Recounted (standing X) events operations)
    (same : ∀ event ∈ events, Untouched event.before event.after) : operations = [] :=
  told.silent fun event member _ explains => explains_untouched explains (same event member)

theorem told_quiet (told : Recounted (standing X) events operations) (quiet : Quiet events) :
    operations = [] :=
  told_untouched told fun event member => .of_tables (quiet event member)

/-- What a history has done is told by the effects of its events, one after another. -/
theorem told_does {effects : List (World → World → Prop)} {expected : List RegistryOperation}
    (told : Recounted (standing X) events operations) (does : Does effects events)
    (tells : List.Forall₂ (fun effect operation => ∀ event ∈ events,
      effect event.before event.after → ∀ operations, Explains (standing X) event operations →
        operations = [operation]) effects expected) : operations = expected := by
  induction does generalizing operations expected with
  | nothing quiet =>
    cases tells
    exact told_quiet told quiet
  | @next front rest event effect effects before effective _ ih =>
    obtain ⟨early, others, rfl, silent, since⟩ := Recounted.append_iff.mp told
    cases tells with
    | @cons _ operation _ expected own later =>
      cases since with
      | @cons _ _ explained late explains after =>
        have first := own event (by simp) effective explained explains
        have rest := ih after (later.imp fun _ _ tells other member =>
          tells other (List.mem_append_right _ (List.mem_cons_of_mem _ member)))
        rw [told_quiet silent before, first, rest]
        rfl

theorem told_once {effect : World → World → Prop} {operation : RegistryOperation}
    (told : Recounted (standing X) events operations) (once : Once effect events)
    (tells : ∀ event ∈ events, effect event.before event.after →
      ∀ operations, Explains (standing X) event operations → operations = [operation]) :
    operations = [operation] :=
  told_does told once.does (.cons tells .nil)

/-- The commit of a publication is a publication of the registry. -/
theorem CommitsAs.explains {candidate stored : StoredResourceV1 X} {event : Event (runtime X) World}
    (commits : CommitsAs candidate stored event.before event.after)
    (published : candidate.state = .published)
    (explains : Explains (standing X) event operations) : operations = [publicationOf stored] := by
  obtain ⟨version, stamp, absent, changed, rfl⟩ := commits
  obtain ⟨registry, last, stands, later, performs⟩ := explains
  obtain rfl := Represents.unique (represents_publish stands published version stamp) (changed ▸ later)
  exact (step_publish stands absent).performs_iff.mp performs

theorem DeprecatesInto.explains {stored : StoredResourceV1 X} {event : Event (runtime X) World}
    (deprecates : DeprecatesInto stored event.before event.after)
    (explains : Explains (standing X) event operations) :
    operations = [.retire stored.resourceId] := by
  obtain ⟨resource, immutable, version, stores, published, changed, rfl⟩ := deprecates
  obtain ⟨registry, last, stands, later, performs⟩ := explains
  obtain rfl := Represents.unique (represents_deprecate stands immutable version) (changed ▸ later)
  exact (step_deprecate stands stores published).performs_iff.mp performs

/-- What a pointer follows can be told from the versions of its channel afterwards. -/
theorem follows_of_gapFree {pointer : ResourceChannelV1} {version : RecordVersion}
    (absent : s.row? .channels (pointer.channelVersionId X) = none)
    (gapFree : GapFree X (s.promote X pointer version)) : Follows X s pointer := by
  obtain ⟨last, counted⟩ := gapFree pointer.key
  have positive := pointer.valid.pointerVersion
  have bounds := (counted pointer.pointerVersion).mp
    ⟨_, (points_promote absent).mpr (.inr rfl), rfl, rfl⟩
  by_cases first : pointer.pointerVersion = 1
  · exact .inl first
  · obtain ⟨previous, points, keyed, before⟩ := (counted (pointer.pointerVersion - 1)).mpr (by omega)
    refine .inr ⟨previous, ?_, keyed, by omega⟩
    rcases (points_promote absent).mp points with points | rfl
    · exact points
    · change pointer.pointerVersion = _ at before
      omega

/-- A pointer that changes have put names a resource that is stored. -/
theorem Changes.targets (changes : Changes P s t) (live : P.live) {pointer : ResourceChannelV1}
    (points : Points X t pointer) : Points X s pointer ∨ HasTarget X t pointer := by
  induction changes with
  | refl => exact .inl points
  | tail _ change ih =>
    rcases change.points points with points | ⟨-, -, target⟩
    · exact (ih points).imp id change.evolves.hasTarget
    · exact .inr (change.evolves.hasTarget (target live))

theorem insertsPointer_explains {pointer : ResourceChannelV1} {event : Event (runtime X) World}
    (inserts : InsertsPointer X pointer event.before event.after) (live : P.live)
    (changes : Changes P event.before event.after) (gapFree : GapFree X event.after) {version : Nat}
    (counted : pointer.pointerVersion = version + 1)
    (explains : Explains (standing X) event operations) :
    operations = [.point pointer.key version pointer.targetResourceId] := by
  obtain ⟨absent, stamp, stamped, changed⟩ := inserts
  replace changed : event.after = event.before.promote X pointer stamp := changed
  obtain ⟨registry, last, stands, later, performs⟩ := explains
  have follows : Follows X event.before pointer := follows_of_gapFree absent (changed ▸ gapFree)
  have put : Points X event.after pointer :=
    ⟨⟨pointer.toRecord X, stamp⟩, by rw [changed]; exact World.row?_setRow_self _ _ _ _, rfl, stamped⟩
  have target : HasTarget X event.before pointer := by
    rcases changes.targets live put with ⟨row, found, -⟩ | ⟨resource, ⟨row, found, holds⟩, named⟩
    · rw [absent] at found
      cases found
    · -- The put of a pointer has not changed the row of its target.
      refine ⟨resource, ⟨row, ?_, holds⟩, named⟩
      rw [← found, changed]
      simp [World.promote, World.row?_setRow]
  obtain rfl := Represents.unique (represents_promote stands absent follows stamp) (changed ▸ later)
  exact (step_promote stands absent follows target counted).performs_iff.mp performs

/-- What is read of a channel: the id it was pointed to last, and how often it had been. -/
theorem Represents.newest {registry : ResourceRegistry} (stands : Represents X s registry)
    {key : ChannelKey} {pointer : ResourceChannelV1} (newest : IsNewest X s key pointer) :
    (registry.targets key).length = pointer.pointerVersion ∧
      (registry.targets key).getLast? = some pointer.targetResourceId := by
  obtain ⟨points, keyed, highest⟩ := newest
  have positive := pointer.valid.pointerVersion
  have aimed := (stands.targets key (pointer.pointerVersion - 1) pointer.targetResourceId).mpr
    ⟨pointer, points, keyed, by omega, rfl⟩
  have within := (List.getElem?_eq_some_iff.mp aimed).1
  have longest : ¬pointer.pointerVersion < (registry.targets key).length := by
    intro longer
    obtain ⟨other, among, same, version, -⟩ :=
      (stands.targets _ _ _).mp (List.getElem?_eq_getElem longer)
    have := highest other among same
    omega
  have length : (registry.targets key).length = pointer.pointerVersion := by omega
  refine ⟨length, ?_⟩
  rw [List.getLast?_eq_getElem?, length]
  exact aimed

theorem Represents.never {registry : ResourceRegistry} (stands : Represents X s registry)
    {key : ChannelKey} (none : ∀ pointer, Points X s pointer → pointer.key ≠ key) :
    registry.targets key = [] := by
  cases targets : registry.targets key with
  | nil => rfl
  | cons target rest =>
    obtain ⟨pointer, points, keyed, -⟩ := (stands.targets key 0 target).mp (by simp [targets])
    exact absurd keyed (none pointer points)

/-- Operations of a registry, each with the client whose it is. -/
abbrev RegistryHistory (ι : Type) := List (ι × RegistryOperation)

/-- What the answer of a publication tells of what it has done: it has published or
found its rows, and then pointed the channel that it was given to them. -/
def TellsPublication (planned : StoredResourceV1 X → Prop)
    (channel expectedPointerVersion : JsonValue) :
    Except PyError (PublicationReceipt X) → List RegistryOperation → Prop
  | .ok receipt, operations => ∃ published pointed, operations = published ++ pointed ∧
      (receipt.idempotent = true ∧ published = [] ∨ published = [publicationOf receipt.resource]) ∧
      (receipt.channel = none ∧ Unpromoted channel expectedPointerVersion ∧ pointed = [] ∨
        ∃ (pointer : ResourceChannelV1) (version : Nat), receipt.channel = some pointer ∧
          expectedPointerVersion = natJson version ∧
          pointed = [.point pointer.key version receipt.resource.resourceId])
  | .error _, operations => operations = [] ∨ ¬Unpromoted channel expectedPointerVersion ∧
      ∃ candidate, planned candidate ∧ operations = [publicationOf candidate]

namespace Request

/-- What the answer of a request tells of what it has done. -/
def Tells : (request : Request X) → request.Result → List RegistryOperation → Prop
  | .publishConfiguration request, result, operations =>
    TellsPublication (ConfigurationPublisher.IsCandidate request) request.channel
      request.expectedPointerVersion result operations
  | .publishArtifact request, result, operations =>
    TellsPublication (ArtifactPublisher.IsCandidate request) request.channel
      request.expectedPointerVersion result operations
  | .promote _ _ expectedPointerVersion _ _, .ok pointer, operations => ∃ version : Nat,
      expectedPointerVersion = natJson version ∧
      operations = [.point pointer.key version pointer.targetResourceId]
  | .deprecate _ _, .ok stored, operations =>
    operations = [] ∨ operations = [.retire stored.resourceId]
  | _, _, operations => operations = []

/-- What the answer of a request tells of the registry from then on. -/
def Leaves (last : ResourceRegistry) : (request : Request X) → request.Result → Prop
  | .publishConfiguration _, .ok receipt | .publishArtifact _, .ok receipt => ∃ stage,
      last.entry receipt.resource.resourceId =
        some (constantColumns receipt.resource.toRecord, stage)
  | .deprecate _ _, .ok stored =>
    last.entry stored.resourceId = some (constantColumns stored.toRecord, .retired)
  | _, _ => True

/-- What the answer of a request tells of a channel, at the moment the channel is shown. -/
def Finds (shown : ChannelKey → (List String → Prop) → Prop) :
    (request : Request X) → request.Result → Prop
  | .consumerChannel _ «namespace» kind name channel, .ok resolved => ∃ key pointer,
      Names key «namespace» kind name channel ∧ resolved.channel = some pointer ∧
      shown key fun targets => targets.length = pointer.pointerVersion ∧
        targets.getLast? = some resolved.resource.resourceId
  | .consumerChannel _ «namespace» kind name channel, .error error =>
    error.hasType .resourceNotFound = true → ∃ key, Names key «namespace» kind name channel ∧
      shown key fun targets => targets = []
  | _, _ => True

end Request

/-- A channel is so after some of the later operations. -/
def Shown (start : ResourceRegistry) (history more : RegistryHistory ι) (key : ChannelKey)
    (pointed : List String → Prop) : Prop :=
  ∃ front back seen, more = front ++ back ∧
    Performs Registry.Step start ((history ++ front).map Prod.snd) seen ∧ pointed (seen.targets key)

/-- The operations are a run of the registry up to what the stores stand for now, and
every answer tells of its client's part of it. -/
structure Linearizes [DecidableEq ι] (start : ResourceRegistry) (history : RegistryHistory ι)
    (pool : Clients X ι) : Prop where
  performs : ∃ last, Performs Registry.Step start (history.map Prod.snd) last ∧
    Represents X pool.state last ∧ ∀ i request result, pool.Finished i request result →
      request.Leaves last result
  idle : ∀ i, pool.threads i = none → operationsOf i history = []
  told : ∀ i request result, pool.Finished i request result →
    request.Tells result (operationsOf i history)
  found : ∀ i request result, pool.Finished i request result →
    request.Finds (Shown start [] history) result

section

variable [DecidableEq ι] {first : World} {admits : World → Request X → Prop} {pool : Clients X ι}

/-- What is known of every request that has ended: how, and what it has done. -/
theorem linearizing_sound (consistent : Consistent X first) (takes : TakesTargets admits)
    (reachable : Pool.Reachable (deployment (reliable X) admits) first pool) :
    Pool.Sound (deployment (reliable X) admits) (following (Policy.targeted X) first)
      (fun request history t result => request.Ends False False (Policy.targeted X) first history t
        result ∧ request.Accomplishes (Policy.targeted X) first history t result) first pool := by
  refine Pool.sound_of_reachable (fun s request kept admitted => ?_) (fun _ _ moved => moved)
    ⟨consistent, .refl⟩ reachable
  have permitted := takes.serves first s request kept admitted
  exact ((request.safe_program kept permitted).and
    (request.accomplishes kept permitted)).narrow serving_of_reliable

/-- Where a client's first call finds the stores, and what has been done until then. -/
theorem shown_of_explained (reachable : Pool.Reachable (deployment (reliable X) admits) first pool)
    {start : ResourceRegistry} (stands : Represents X first start) {log late : PoolLog X ι}
    {history more : RegistryHistory ι} (split : pool.log = log ++ late)
    (explained : Explained (standing X) log history) (further : Explained (standing X) late more)
    {i : ι} (silent : ∀ entry ∈ log, entry.1 ≠ i) {event : Event (runtime X) World}
    {rest : List (Event (runtime X) World)} (began : pool.history i = event :: rest)
    {key : ChannelKey} {pointed : List String → Prop}
    (holds : ∀ registry, Represents X event.before registry → pointed (registry.targets key)) :
    Shown start history more key pointed := by
  obtain ⟨between, after, rfl, former⟩ := Pool.earlier_of_silent split silent began
  obtain ⟨front, back, rfl, early, -⟩ := further.split
  have linked := Pool.linked_of_reachable reachable
  rw [split, ← List.append_assoc] at linked
  obtain ⟨middle, led, rfl, -⟩ := Pool.linked_append.mp linked
  obtain ⟨seen, standsSeen, performs⟩ := (explained.append early).performs led stands
  exact ⟨front, back, seen, rfl, performs, holds seen standsSeen⟩

/-- What a resolution tells of its channel, at the moment of its first read. -/
theorem finds_of_explained (consistent : Consistent X first) (targeted : Targeted X first)
    (takes : TakesTargets admits)
    (reachable : Pool.Reachable (deployment (reliable X) admits) first pool)
    {start : ResourceRegistry} (stands : Represents X first start) {log late : PoolLog X ι}
    {history more : RegistryHistory ι} (split : pool.log = log ++ late)
    (explained : Explained (standing X) log history) (further : Explained (standing X) late more)
    {i : ι} (silent : ∀ entry ∈ log, entry.1 ≠ i) {request : Request X} {result : request.Result}
    (finished : pool.Finished i request result) :
    request.Finds (Shown start history more) result := by
  cases request with
  | consumerChannel profile «namespace» kind name channel =>
    have sound := linearizing_sound consistent takes reachable
    have ends : ResolutionEnds False (Policy.targeted X) (Request.consumerCheck profile) «namespace»
      kind name channel (pool.history i) pool.state result := (sound.finished finished).1
    cases result with
    | ok resolved =>
      obtain ⟨key, pointer, names, carried, ⟨read, lookup, reads, newest, -, -, named⟩, -⟩ := ends
      refine ⟨key, pointer, names, carried, ?_⟩
      apply shown_of_explained reachable stands split explained further silent reads
      intro registry standsRead
      rw [named]
      exact standsRead.newest newest
    | error error =>
      intro missing
      rcases ends.resolve_left id with ⟨data, -⟩ | ⟨key, names, ⟨read, reads, -, none⟩ |
        ⟨read, lookup, pointer, reads, newest, moved, absent⟩ | ⟨pointer, resource, -, refused⟩⟩
      · rw [hasType_of_isDataError data] at missing
        cases missing
      · refine ⟨key, names, ?_⟩
        apply shown_of_explained reachable stands split explained further silent reads
        exact fun registry standsRead => standsRead.never none
      · -- The newest pointer's target is stored, and stays.
        have came : Changes (Policy.targeted X) first read.before :=
          (sound.past (i, read) (Pool.mem_log_of_history (by simp [reads]))).1
        have target := moved.evolves.hasTarget (came.targeted trivial targeted pointer newest.1)
        obtain ⟨resource, ⟨row, found, -⟩, aimed, -⟩ := target
        rw [aimed, absent] at found
        cases found
      -- A refused profile is not an error that tells of a missing channel.
      · have different : resource.profile ≠ profile := by
          intro equal
          cases refused.symm.trans ((Request.checksProfile_consumer profile resource).1 equal)
        obtain ⟨other, raised, typed⟩ :=
          (Request.checksProfile_consumer profile resource).2 different
        cases refused.symm.trans raised
        cases hasType_unique typed missing
  | _ => trivial

/-- A row that was seen is still there, or was marked as deprecated. -/
theorem Seen.entry {registry : ResourceRegistry} {resource : StoredResourceV1 X}
    (seen : Seen P first t resource) (stands : Represents X t registry) : ∃ stage,
    registry.entry resource.resourceId = some (constantColumns resource.toRecord, stage) ∧
      (resource.state = .deprecated → stage = .retired) := by
  obtain ⟨earlier, -, since, stores⟩ := seen
  obtain ⟨later, stores, succeeds⟩ := since.evolves.stored resource stores
  have found := stands.entry_of_stores stores
  have columns : constantColumns later.toRecord = constantColumns resource.toRecord := by
    have same : later.toStoredResourceFields = _ := succeeds.same
    rw [same]
    rfl
  rw [succeeds.resourceId, columns] at found
  refine ⟨_, found, fun ended => ?_⟩
  rw [succeeds.eq_of_deprecated ended, if_pos ended]

/-- What a publication has done is what its answer tells. -/
theorem tells_of_publicationDoes {planned : StoredResourceV1 X → Prop}
    {channel expectedPointerVersion : JsonValue} {result : Except PyError (PublicationReceipt X)}
    (did : PublicationDoes P first planned channel expectedPointerVersion events t result)
    (published : ∀ candidate, planned candidate → candidate.state = .published) (live : P.live)
    (changes : ∀ event ∈ events, Changes P event.before event.after ∧ GapFree X event.after)
    (told : Recounted (standing X) events operations) :
    TellsPublication planned channel expectedPointerVersion result operations := by
  cases result with
  | ok receipt =>
    obtain ⟨-, front, back, rfl, did, promotes⟩ := did
    obtain ⟨own, pointed, rfl, early, late⟩ := Recounted.append_iff.mp told
    refine ⟨own, pointed, rfl, ?_, ?_⟩
    · rcases did with ⟨idempotent, quiet⟩ | ⟨candidate, plan, commits⟩
      · exact .inl ⟨idempotent, told_quiet early quiet⟩
      · refine .inr (told_does early commits (.cons (fun event _ commits _ explains => ?_) .nil))
        exact commits.explains (published candidate plan) explains
    · cases carried : receipt.channel with
      | none =>
        rw [carried] at promotes
        exact .inl ⟨rfl, promotes.1, told_quiet late promotes.2⟩
      | some pointer =>
        rw [carried] at promotes
        obtain ⟨aimed, inserts, version, counted, next⟩ := promotes
        refine .inr ⟨pointer, version, rfl, counted, ?_⟩
        rw [← aimed]
        refine told_does late inserts (.cons (fun event member inserts _ explains => ?_) .nil)
        obtain ⟨moved, gapFree⟩ := changes event (List.mem_append_right _ member)
        exact insertsPointer_explains inserts live moved gapFree next explains
  | error error =>
    rcases did with quiet | ⟨given, candidate, stored, plan, commits⟩
    · exact .inl (told_quiet told quiet)
    · refine .inr ⟨given, candidate, plan, ?_⟩
      refine told_does told commits (.cons (fun event _ commits _ explains => ?_) .nil)
      have columns := commits.explains (published candidate plan) explains
      obtain ⟨version, stamp, -, -, rfl⟩ := commits
      exact columns

/-- A request that may not write metadata or channels does nothing to the registry. -/
theorem told_of_authority {D : Discipline World}
    {post : (request : Request X) → Postcondition (runtime X) World request.Result}
    (sound : Pool.Sound (deployment (reliable X) admits) D post first pool)
    (reachable : Pool.Reachable (deployment (reliable X) admits) first pool) {i : ι}
    {request : Request X} {result : request.Result} (finished : pool.Finished i request result)
    (told : Recounted (standing X) (pool.history i) operations)
    (reads : ∀ collection ∈ [Collection.metadata, .channels],
      .put collection ∉ (PublicOperation.plain (.serve request)).authority ∧
        .patch collection ∉ (PublicOperation.plain (.serve request)).authority) :
    operations = [] := by
  have issued := Pool.issued_of_reachable reachable finished request.needs_authority
  refine told_untouched told fun event member => ?_
  obtain ⟨-, -, answered, -⟩ := sound.event member
  have frames := frames_untrusted event.reply (issued event member)
    (untrusted_of_reliable _ _ _ _ answered)
  intro collection stands key
  obtain ⟨inserts, patches⟩ := reads collection stands
  exact frames.rows collection inserts patches key

/-- What each client has done is what its answer tells. -/
theorem tells_of_explained (consistent : Consistent X first) (gapFree : GapFree X first)
    (takes : TakesTargets admits)
    (reachable : Pool.Reachable (deployment (reliable X) admits) first pool)
    {history : RegistryHistory ι} (explained : Explained (standing X) pool.log history) {i : ι}
    {request : Request X} {result : request.Result} (finished : pool.Finished i request result) :
    request.Tells result (operationsOf i history) := by
  have sound := linearizing_sound consistent takes reachable
  have told : Recounted (standing X) (pool.history i) (operationsOf i history) := explained.own i
  have changes : ∀ event ∈ pool.history i,
      Changes (Policy.targeted X) event.before event.after ∧ GapFree X event.after := by
    intro event member
    obtain ⟨-, after, -, changes⟩ := sound.event member
    exact ⟨changes, after.2.gapFree gapFree⟩
  have live : (Policy.targeted X).live := trivial
  obtain ⟨ends, did⟩ := sound.finished finished
  cases request with
  | publishConfiguration request =>
    refine tells_of_publicationDoes did (fun candidate planned => ?_) live changes told
    obtain ⟨published, -⟩ := planned.built
    exact published
  | publishArtifact request =>
    refine tells_of_publicationDoes did (fun candidate planned => ?_) live changes told
    obtain ⟨published, -⟩ := planned.built
    exact published
  | promote target channel expected actor profile =>
    cases result with
    | ok pointer =>
      have promoted : Promoted (Policy.targeted X) first target channel expected profile
        (pool.history i) pool.state pointer := ends
      obtain ⟨version, counted, next⟩ := promoted.expected
      refine ⟨version, expectedPointer_ok counted, ?_⟩
      refine told_once told promoted.once fun event member inserts _ explains => ?_
      obtain ⟨moved, after⟩ := changes event member
      exact insertsPointer_explains inserts live moved after next explains
    | error error =>
      have quiet : False ∨ Quiet (pool.history i) := ends
      exact told_quiet told (quiet.resolve_left id)
  | «deprecate» profile identity =>
    cases result with
    | ok stored =>
      obtain ⟨-, -, -, did⟩ := ends
      rcases did.resolve_left id with quiet | once
      · exact .inl (told_quiet told quiet)
      · exact .inr (told_once told once fun _ _ deprecates _ explains => deprecates.explains explains)
    | error error =>
      obtain ⟨quiet, -⟩ := ends.resolve_left id
      exact told_quiet told quiet
  | consumerChannel profile «namespace» kind name channel =>
    have reads : ∀ collection ∈ [Collection.metadata, .channels],
        Capability.put collection ∉ PublicOperation.resolving ∧
          .patch collection ∉ PublicOperation.resolving := by decide
    have silent := told_of_authority sound reachable finished told reads
    cases result <;> exact silent
  | discoverOrphans limit cursor record =>
    have reads : ∀ collection ∈ [Collection.metadata, .channels],
        Capability.put collection ∉ PublicOperation.scanning record ∧
          .patch collection ∉ PublicOperation.scanning record := by cases record <;> decide
    have silent := told_of_authority sound reachable finished told reads
    cases result <;> exact silent

/-- What each answer tells of the registry stays so. -/
theorem leaves_of_stands (consistent : Consistent X first) (takes : TakesTargets admits)
    (reachable : Pool.Reachable (deployment (reliable X) admits) first pool)
    {last : ResourceRegistry} (stands : Represents X pool.state last) {i : ι} {request : Request X}
    {result : request.Result} (finished : pool.Finished i request result) :
    request.Leaves last result := by
  obtain ⟨ends, did⟩ := (linearizing_sound consistent takes reachable).finished finished
  have published : ∀ {planned : StoredResourceV1 X → Prop} {channel expected : JsonValue}
      {receipt : PublicationReceipt X}, PublicationDoes (Policy.targeted X) first planned channel
        expected (pool.history i) pool.state (.ok receipt) → ∃ stage,
          last.entry receipt.resource.resourceId =
            some (constantColumns receipt.resource.toRecord, stage) := by
    rintro planned channel expected receipt ⟨seen, -⟩
    obtain ⟨stage, found, -⟩ := seen.entry stands
    exact ⟨stage, found⟩
  cases request with
  | publishConfiguration request =>
    cases result with
    | ok receipt => exact published did
    | error error => trivial
  | publishArtifact request =>
    cases result with
    | ok receipt => exact published did
    | error error => trivial
  | «deprecate» profile identity =>
    cases result with
    | ok stored =>
      obtain ⟨seen, -, ended, -⟩ := ends
      obtain ⟨stage, found, retired⟩ := seen.entry stands
      rwa [retired ended] at found
    | error error => trivial
  | _ => cases result <;> trivial

theorem linearizes_of_explained (consistent : Consistent X first) (gapFree : GapFree X first)
    (targeted : Targeted X first) (takes : TakesTargets admits)
    (reachable : Pool.Reachable (deployment (reliable X) admits) first pool)
    {start : ResourceRegistry} (stands : Represents X first start) {history : RegistryHistory ι}
    (explained : Explained (standing X) pool.log history) : Linearizes start history pool where
  performs := by
    obtain ⟨last, standsLast, performs⟩ :=
      explained.performs (Pool.linked_of_reachable reachable) stands
    exact ⟨last, performs, standsLast, fun _ _ _ finished =>
      leaves_of_stands consistent takes reachable standsLast finished⟩
  idle := by
    intro i unstarted
    have told : Recounted (standing X) (pool.history i) (operationsOf i history) := explained.own i
    rw [Pool.idle_of_reachable reachable i unstarted] at told
    exact told_quiet told quiet_nil
  told := fun _ _ _ finished =>
    tells_of_explained consistent gapFree takes reachable explained finished
  found := fun _ _ _ finished => finds_of_explained consistent targeted takes reachable stands
    (List.nil_append _).symm .nil explained (fun _ member => by cases member) finished

end

theorem reachable_resolving : Pool.Reachable
    (deployment (reliable Platform.reference) promotesNoCopy) World.empty
    (simulate Platform.reference [] resolving World.empty) := by
  have starts : ∀ request ∈ Pool.starts resolving,
      request = asking ∨ request = .publishConfiguration Reference.configuration ∨
        request = .promote (.identity Reference.identity) (.str "stable") (.int 0) (.str "bob") none := by
    simp [resolving, Turn.alone, Pool.starts]
  apply simulate_admitted (isUniform_empty [])
  · intro request member
    rcases starts request member with rfl | rfl | rfl <;> trivial
  · intro request member s
    rcases starts request member with rfl | rfl | rfl <;> trivial

end ConfigArtifact
