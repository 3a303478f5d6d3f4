import ConfigArtifact.Canonical.Timestamp

/-! Percent-escaped components: what they say, and the delimiters they leave free. -/

set_option autoImplicit false

namespace ConfigArtifact

def hexValue (c : Char) : Nat :=
  if '0' ≤ c && c ≤ '9' then c.toNat - '0'.toNat else c.toNat - 'A'.toNat + 10

/-- The bytes an escaped text stands for. -/
def unescaped : List Char → List UInt8
  | '%' :: high :: low :: rest =>
    UInt8.ofNat (hexValue high * 16 + hexValue low) :: unescaped rest
  | c :: rest => UInt8.ofNat c.toNat :: unescaped rest
  | [] => []

theorem hexValue_hexDigit : ∀ n < 16, hexValue (hexDigit n) = n := by decide

theorem isAsciiAlphanumeric_hexDigit : ∀ n < 16, isAsciiAlphanumeric (hexDigit n) = true := by
  decide

theorem unescaped_percentEncode (byte : UInt8) (rest : List Char) :
    unescaped (percentEncode byte ++ rest) = byte :: unescaped rest := by
  have high := hexValue_hexDigit (byte.toNat / 16) (by have := byte.toNat_lt; omega)
  have low := hexValue_hexDigit (byte.toNat % 16) (Nat.mod_lt _ (by decide))
  have whole : byte.toNat / 16 * 16 + byte.toNat % 16 = byte.toNat := by omega
  simp [percentEncode, unescaped, high, low, whole]

theorem unescaped_flatMap (encoded : List UInt8) (rest : List Char) :
    unescaped (encoded.flatMap percentEncode ++ rest) = encoded ++ unescaped rest := by
  induction encoded with
  | nil => rfl
  | cons byte encoded ih =>
    rw [List.flatMap_cons, List.append_assoc, unescaped_percentEncode, ih, List.cons_append]

theorem isUnreserved_ascii {c : Char} (plain : isUnreserved c = true) :
    c.toNat < 128 ∧ c ≠ '%' := by
  have bound : ∀ d : Char, c ≤ d → c.toNat ≤ d.toNat := fun d below => below
  simp only [isUnreserved, isAsciiAlphanumeric, Bool.or_eq_true, Bool.and_eq_true,
    decide_eq_true_eq, List.mem_cons, List.not_mem_nil, or_false] at plain
  constructor
  · rcases plain with ((upper | lower) | digit) | rfl | rfl | rfl | rfl
    · exact Nat.lt_of_le_of_lt (bound 'Z' upper.2) (by decide)
    · exact Nat.lt_of_le_of_lt (bound 'z' lower.2) (by decide)
    · exact Nat.lt_of_le_of_lt (bound '9' digit.2) (by decide)
    all_goals decide
  · rintro rfl
    revert plain
    decide

theorem unescaped_cons {c : Char} (other : c ≠ '%') (rest : List Char) :
    unescaped (c :: rest) = UInt8.ofNat c.toNat :: unescaped rest := by
  rw [unescaped]
  intro high low after percent
  exact absurd percent other

/-- Unescaping gives the UTF-8 bytes back. -/
theorem unescaped_escaped (text : String) :
    unescaped (escaped text).toList = text.toList.flatMap String.utf8EncodeChar := by
  rw [escaped, String.toList_ofList]
  induction text.toList with
  | nil => rfl
  | cons c rest ih =>
    rw [List.flatMap_cons, List.flatMap_cons]
    split
    · next plain =>
      obtain ⟨ascii, other⟩ := isUnreserved_ascii plain
      have size : c.utf8Size = 1 := if_pos (Nat.le_of_lt_succ ascii)
      rw [List.singleton_append, unescaped_cons other, ih, String.utf8EncodeChar_eq_singleton size]
      rfl
    · rw [unescaped_flatMap, ih]

theorem escaped_injective : Function.Injective escaped := by
  intro a b same
  have bytes := unescaped_escaped a
  rw [same, unescaped_escaped b] at bytes
  apply String.toByteArray_inj.mp
  rw [← String.ofList_toList (s := a), ← String.ofList_toList (s := b), String.toByteArray_ofList,
    String.toByteArray_ofList]
  exact congrArg List.toByteArray bytes.symm

theorem mem_escaped {text : String} {c : Char} (member : c ∈ (escaped text).toList) :
    isUnreserved c = true ∨ c = '%' := by
  rw [escaped, String.toList_ofList] at member
  obtain ⟨d, -, inside⟩ := List.mem_flatMap.mp member
  split at inside
  · next plain =>
    rw [List.mem_singleton.mp inside]
    exact .inl plain
  · obtain ⟨byte, -, encoded⟩ := List.mem_flatMap.mp inside
    have alphanumeric := fun n small => isAsciiAlphanumeric_hexDigit n small
    simp only [percentEncode, List.mem_cons, List.not_mem_nil, or_false] at encoded
    rcases encoded with rfl | rfl | rfl
    · exact .inr rfl
    · simp [isUnreserved, alphanumeric (byte.toNat / 16) (by have := byte.toNat_lt; omega)]
    · simp [isUnreserved, alphanumeric (byte.toNat % 16) (Nat.mod_lt _ (by decide))]

/-- A component is what stands before the next delimiter. -/
theorem escaped_append_inj {a b separator : String} {delimiter : Char} {rest after : List Char}
    (single : separator.toList = [delimiter])
    (free : isUnreserved delimiter = false ∧ delimiter ≠ '%')
    (same : (escaped a).toList ++ (separator.toList ++ rest) =
      (escaped b).toList ++ (separator.toList ++ after)) : a = b ∧ rest = after := by
  rw [single, List.singleton_append, List.singleton_append] at same
  have clear : ∀ text : String, ∀ c ∈ (escaped text).toList, decide (c = delimiter) = false := by
    intro text c member
    apply decide_eq_false
    rintro rfl
    rcases mem_escaped member with plain | rfl
    · rw [free.1] at plain
      cases plain
    · exact free.2 rfl
  have front : splitAtFirst (· = delimiter) ((escaped a).toList ++ delimiter :: rest) =
      some ((escaped a).toList, rest) := splitAtFirst_append rest (clear a) (decide_eq_true rfl)
  rw [same, splitAtFirst_append after (clear b) (decide_eq_true rfl)] at front
  obtain ⟨components, tails⟩ := Prod.mk.inj (Option.some.inj front)
  exact ⟨(escaped_injective (String.toList_inj.mp components)).symm, tails.symm⟩

theorem toString_injective {m n : Nat} (same : toString m = toString n) : m = n := by
  have digits := String.ofList_injective same
  rw [← Nat.ofDigitChars_ten_toDigits (n := m), ← Nat.ofDigitChars_ten_toDigits (n := n)]
  exact congrArg (Nat.ofDigitChars 10 · 0) digits

end ConfigArtifact
