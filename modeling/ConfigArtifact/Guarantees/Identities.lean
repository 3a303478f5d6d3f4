import ConfigArtifact.Canonical.Escaping
import ConfigArtifact.Models.Refs

/-! Identities and the texts their ids are hashed from. -/

set_option autoImplicit false

namespace ConfigArtifact

/-- The text `channel_version_id` hashes. -/
def channelVersionText («namespace» kind name channel : String) (pointerVersion : Nat) : String :=
  escaped «namespace» ++ ":" ++ escaped kind ++ "/" ++ escaped name ++ "#" ++ escaped channel ++
    "@" ++ toString pointerVersion

/-- The text `orphan_candidate_id` hashes. -/
def orphanCandidateText (resourceId objectId objectDigest : String) : String :=
  escaped resourceId ++ "|" ++ escaped objectId ++ "|" ++ escaped objectDigest

theorem channelVersionId_hashes (X : Platform) («namespace» kind name channel : String)
    (pointerVersion : Nat) :
    channelVersionId X «namespace» kind name channel pointerVersion = "ch_" ++
      X.uuid5 channelIdNamespace
        (channelVersionText «namespace» kind name channel pointerVersion) := by
  simp only [channelVersionId, channelVersionText, String.append_assoc]

theorem orphanCandidateId_hashes (X : Platform) (resourceId objectId objectDigest : String) :
    orphanCandidateId X resourceId objectId objectDigest = "oc_" ++
      X.uuid5 orphanIdNamespace (orphanCandidateText resourceId objectId objectDigest) := rfl

theorem ResourceIdentity.canonical_inj {a b : ResourceIdentity}
    (same : a.canonical = b.canonical) : a = b := by
  have texts := String.toList_inj.mpr same
  simp only [canonical, String.toList_append, List.append_assoc] at texts
  obtain ⟨namespaces, texts⟩ := escaped_append_inj rfl (by decide) texts
  obtain ⟨kinds, texts⟩ := escaped_append_inj rfl (by decide) texts
  obtain ⟨names, texts⟩ := escaped_append_inj rfl (by decide) texts
  have versions := escaped_injective (String.toList_inj.mp texts)
  cases a
  cases b
  simp_all

theorem channelVersionText_inj {«namespace» kind name channel «namespace'» kind' name' channel' : String}
    {version version' : Nat}
    (same : channelVersionText «namespace» kind name channel version =
      channelVersionText «namespace'» kind' name' channel' version') :
    «namespace» = «namespace'» ∧ kind = kind' ∧ name = name' ∧ channel = channel' ∧
      version = version' := by
  have texts := String.toList_inj.mpr same
  simp only [channelVersionText, String.toList_append, List.append_assoc] at texts
  obtain ⟨namespaces, texts⟩ := escaped_append_inj rfl (by decide) texts
  obtain ⟨kinds, texts⟩ := escaped_append_inj rfl (by decide) texts
  obtain ⟨names, texts⟩ := escaped_append_inj rfl (by decide) texts
  obtain ⟨channels, texts⟩ := escaped_append_inj rfl (by decide) texts
  exact ⟨namespaces, kinds, names, channels, toString_injective (String.toList_inj.mp texts)⟩

theorem orphanCandidateText_inj {resourceId objectId objectDigest resourceId' objectId'
    objectDigest' : String}
    (same : orphanCandidateText resourceId objectId objectDigest =
      orphanCandidateText resourceId' objectId' objectDigest') :
    resourceId = resourceId' ∧ objectId = objectId' ∧ objectDigest = objectDigest' := by
  have texts := String.toList_inj.mpr same
  simp only [orphanCandidateText, String.toList_append, List.append_assoc] at texts
  obtain ⟨resources, texts⟩ := escaped_append_inj rfl (by decide) texts
  obtain ⟨objects, texts⟩ := escaped_append_inj rfl (by decide) texts
  exact ⟨resources, objects, escaped_injective (String.toList_inj.mp texts)⟩

/-- Two texts that `uuid5` does not tell apart. -/
def Collision (X : Platform) (namespaceId left right : String) : Prop :=
  left ≠ right ∧ X.uuid5 namespaceId left = X.uuid5 namespaceId right

theorem texts_of_ids {X : Platform} {start namespaceId left right : String}
    (same : start ++ X.uuid5 namespaceId left = start ++ X.uuid5 namespaceId right) :
    left = right ∨ Collision X namespaceId left right := by
  have hashes := String.append_right_inj start |>.mp same
  exact or_iff_not_imp_left.mpr fun apart => ⟨apart, hashes⟩

/-- Different identities, channel versions and orphans have different ids, as
long as `uuid5` tells their texts apart. -/
theorem ids_distinct (X : Platform) :
    (∀ a b : ResourceIdentity, (a.canonical = b.canonical → a = b) ∧
      (a.resourceId X = b.resourceId X ∨ a.objectId X = b.objectId X →
        a = b ∨ Collision X ResourceIdentity.idNamespace a.canonical b.canonical)) ∧
    (∀ «namespace» kind name channel version «namespace'» kind' name' channel' version',
      let same := «namespace» = «namespace'» ∧ kind = kind' ∧ name = name' ∧ channel = channel' ∧
        version = version'
      let text := channelVersionText «namespace» kind name channel version
      let text' := channelVersionText «namespace'» kind' name' channel' version'
      (text = text' → same) ∧
        (channelVersionId X «namespace» kind name channel version =
            channelVersionId X «namespace'» kind' name' channel' version' →
          same ∨ Collision X channelIdNamespace text text')) ∧
    ∀ resourceId objectId objectDigest resourceId' objectId' objectDigest',
      let same := resourceId = resourceId' ∧ objectId = objectId' ∧ objectDigest = objectDigest'
      let text := orphanCandidateText resourceId objectId objectDigest
      let text' := orphanCandidateText resourceId' objectId' objectDigest'
      (text = text' → same) ∧
        (orphanCandidateId X resourceId objectId objectDigest =
            orphanCandidateId X resourceId' objectId' objectDigest' →
          same ∨ Collision X orphanIdNamespace text text') := by
  refine ⟨?_, ?_, ?_⟩
  · intro a b
    refine ⟨ResourceIdentity.canonical_inj, fun shared => ?_⟩
    have ids : a.resourceId X = b.resourceId X :=
      shared.elim id fun objects => objectIdOf_inj.mp objects
    exact (texts_of_ids ids).imp_left ResourceIdentity.canonical_inj
  · intro «namespace» kind name channel version «namespace'» kind' name' channel' version'
    refine ⟨channelVersionText_inj, fun ids => ?_⟩
    rw [channelVersionId_hashes, channelVersionId_hashes] at ids
    exact (texts_of_ids ids).imp_left channelVersionText_inj
  · intro resourceId objectId objectDigest resourceId' objectId' objectDigest'
    exact ⟨orphanCandidateText_inj, fun ids => (texts_of_ids ids).imp_left orphanCandidateText_inj⟩

end ConfigArtifact
