import ConfigArtifact.Models.Refs

/-! Schema references printed as text and read back. -/

set_option autoImplicit false

namespace ConfigArtifact

theorem splitAtFirst_inside {separator : Char → Bool} {text front rest : List Char}
    (split : splitAtFirst separator text = some (front, rest)) :
    ∀ d ∈ front, separator d = false := by
  induction text generalizing front with
  | nil => cases split
  | cons c text ih =>
    unfold splitAtFirst at split
    cases ends : separator c with
    | true =>
      rw [if_pos ends] at split
      cases split
      simp
    | false =>
      rw [if_neg (by simp [ends])] at split
      obtain ⟨⟨front, after⟩, found, same⟩ := Option.map_eq_some_iff.mp split
      cases same
      exact List.forall_mem_cons.mpr ⟨ends, ih found⟩

theorem splitAtLast_append {separator : Char → Bool} {front rest : List Char} {c : Char}
    (inside : ∀ d ∈ rest, separator d = false) (ends : separator c = true) :
    splitAtLast separator (front ++ c :: rest) = some (front, rest) := by
  have reversed : splitAtFirst separator (rest.reverse ++ c :: front.reverse) =
      some (rest.reverse, front.reverse) :=
    splitAtFirst_append _ (fun d member => inside d (List.mem_reverse.mp member)) ends
  simp [splitAtLast, reversed]

theorem splitAtLast_inside {separator : Char → Bool} {text front rest : List Char}
    (split : splitAtLast separator text = some (front, rest)) :
    ∀ d ∈ rest, separator d = false := by
  obtain ⟨⟨last, before⟩, found, same⟩ := Option.map_eq_some_iff.mp split
  cases same
  intro d member
  exact splitAtFirst_inside found d (List.mem_reverse.mp member)

namespace PayloadSchemaRef

theorem create_ok {«namespace» name version catalog : JsonValue} {schema : PayloadSchemaRef}
    (accepted : create «namespace» name version catalog = .ok schema) :
    «namespace» = .str schema.namespace ∧ name = .str schema.name ∧
      version = .str schema.version := by
  obtain ⟨_, -, accepted⟩ := bind_ok.mp accepted
  obtain ⟨_, namespaced, accepted⟩ := witnessed_bind.mp accepted
  obtain ⟨_, named, accepted⟩ := witnessed_bind.mp accepted
  obtain ⟨_, versioned, accepted⟩ := witnessed_bind.mp accepted
  cases accepted
  exact ⟨(logicalName_ok namespaced).1, (logicalName_ok named).1, (boundedString_ok versioned).1⟩

/-- What a text was split at does not occur in the reference read from it. -/
theorem parseText_inside {text : String} {schema : PayloadSchemaRef}
    (parsed : parseText text = .ok schema) :
    '.' ∉ schema.name.toList ∧ '@' ∉ schema.version.toList := by
  unfold parseText at parsed
  split at parsed
  · cases parsed
  · next address version versioned =>
    dsimp only at parsed
    split at parsed
    · cases parsed
    · next «namespace» name named =>
      obtain ⟨-, sameName, sameVersion⟩ := create_ok parsed
      rw [← JsonValue.str.inj sameName, ← JsonValue.str.inj sameVersion]
      rw [String.toList_ofList, String.toList_ofList]
      exact ⟨fun member => by simpa using splitAtLast_inside named _ member,
        fun member => by simpa using splitAtLast_inside versioned _ member⟩

theorem toList_canonical (schema : PayloadSchemaRef) :
    schema.canonical.toList = ("structured".toList ++ ':' ::
      (schema.namespace.toList ++ '.' :: schema.name.toList)) ++ '@' :: schema.version.toList := by
  simp [canonical, String.toList_append]

theorem parseText_canonical {schema : PayloadSchemaRef} (named : '.' ∉ schema.name.toList)
    (versioned : '@' ∉ schema.version.toList) :
    parseText schema.canonical = .ok schema := by
  have version : ∀ d ∈ schema.version.toList, decide (d = '@') = false :=
    fun d member => decide_eq_false fun same => versioned (same ▸ member)
  have name : ∀ d ∈ schema.name.toList, decide (d = '.') = false :=
    fun d member => decide_eq_false fun same => named (same ▸ member)
  have catalog : ∀ d ∈ "structured".toList, decide (d = ':') = false := by simp
  unfold parseText
  rw [toList_canonical, splitAtLast_append version rfl]
  dsimp only
  rw [splitAtFirst_append _ catalog rfl]
  dsimp only
  rw [splitAtLast_append name rfl]
  simp only [String.ofList_toList]
  exact schema.create_self

/-- A printed reference reads back as itself when nothing in it looks like a
separator that comes later in the text. -/
theorem parse_canonical (schema : PayloadSchemaRef) :
    (parse (.value (.str schema.canonical)) = .ok schema ↔
      '.' ∉ schema.name.toList ∧ '@' ∉ schema.version.toList) ∧
    ('.' ∉ schema.name.toList ∧ '@' ∉ schema.version.toList →
      ∀ other : PayloadSchemaRef, '.' ∉ other.name.toList ∧ '@' ∉ other.version.toList →
        schema.canonical = other.canonical → schema = other) := by
  refine ⟨⟨parseText_inside, fun plain => parseText_canonical plain.1 plain.2⟩, ?_⟩
  intro plain other otherPlain same
  have read := parseText_canonical plain.1 plain.2
  rw [same, parseText_canonical otherPlain.1 otherPlain.2] at read
  exact (Except.ok.inj read).symm

/-- The namespace `a` with the name `b.c`, and the namespace `a.b` with the name `c`. -/
def dotted : PayloadSchemaRef :=
  ⟨"a", "b.c", "1", ⟨by decide, by decide⟩, ⟨by decide, by decide⟩, by decide⟩

def undotted : PayloadSchemaRef :=
  ⟨"a.b", "c", "1", ⟨by decide, by decide⟩, ⟨by decide, by decide⟩, by decide⟩

theorem dotted_misread :
    ¬(parse (.value (.str dotted.canonical)) = .ok dotted) ∧ dotted ≠ undotted ∧
      dotted.canonical = undotted.canonical := by
  have apart : dotted ≠ undotted := by decide
  have same : dotted.canonical = undotted.canonical := by decide
  refine ⟨fun read => ?_, apart, same⟩
  rw [same] at read
  have other : parseText undotted.canonical = .ok undotted :=
    parseText_canonical (by decide) (by decide)
  exact apart (Except.ok.inj (read.symm.trans other))

end PayloadSchemaRef

end ConfigArtifact
