import ConfigArtifact.Canonical.JsonValue
import ConfigArtifact.Errors

/-! Bounded text fields and the escaping of identity components. -/

set_option autoImplicit false

namespace ConfigArtifact

def isAsciiAlphanumeric (c : Char) : Bool :=
  ('A' ≤ c && c ≤ 'Z') || ('a' ≤ c && c ≤ 'z') || ('0' ≤ c && c ≤ '9')

def isLowercaseHex (c : Char) : Bool := ('0' ≤ c && c ≤ '9') || ('a' ≤ c && c ≤ 'f')

def isControl (c : Char) : Bool := c.toNat < 32 || c.toNat = 127

/-- `str.isspace` on one character. -/
def isSpace (c : Char) : Bool :=
  let code := c.toNat
  (9 ≤ code && code ≤ 13) || (28 ≤ code && code ≤ 32) || code = 0x85 || code = 0xa0 ||
    code = 0x1680 || (0x2000 ≤ code && code ≤ 0x200a) || code = 0x2028 || code = 0x2029 ||
    code = 0x202f || code = 0x205f || code = 0x3000

def isBounded (text : String) (maximum : Nat) : Bool :=
  -- The bytes of the encoding are counted, not the characters.
  text ≠ "" && text.utf8ByteSize ≤ maximum && !text.toList.any isControl

def boundedString (value : JsonValue) (fieldName : String) (maximum : Nat) :
    Except PyError String :=
  match value with
  | .str text =>
    if isBounded text maximum then .ok text
    else .error (.valueError (fieldName ++ " must be a bounded non-empty printable string"))
  | _ => .error (.valueError (fieldName ++ " must be a bounded non-empty printable string"))

/-- A first character and a bounded tail, as the two name patterns have it. -/
def matchesName (extra : Char → Bool) (tail : Nat) (text : String) : Bool :=
  match text.toList with
  | [] => false
  | first :: rest =>
    isAsciiAlphanumeric first && rest.all (fun c => isAsciiAlphanumeric c || extra c) &&
      rest.length ≤ tail

/-- `_NAME_RE`. -/
def isLogicalName : String → Bool :=
  matchesName (fun c => c ∈ ['_', '.', ':', '/', '-']) 255

/-- `_CHANNEL_RE`. -/
def isChannelName : String → Bool := matchesName (fun c => c ∈ ['_', '.', '-']) 127

def logicalName (value : JsonValue) (fieldName : String) : Except PyError String := do
  let selected ← boundedString value fieldName 256
  if isLogicalName selected then .ok selected
  else .error (.valueError (fieldName ++ " is not a valid logical name"))

def channelName (value : JsonValue) : Except PyError String := do
  let selected ← boundedString value "channel" 128
  if isChannelName selected then .ok selected
  else .error (.valueError "channel is not a valid bounded logical name")

def isHexOf (length : Nat) (text : List Char) : Bool :=
  text.length = length && text.all isLowercaseHex

/-- `_DIGEST_RE`. -/
def isDigest (text : String) : Bool :=
  text.toList.take 7 = "sha256:".toList && isHexOf 64 (text.toList.drop 7)

def digest (value : JsonValue) : Except PyError String :=
  match value with
  | .str text =>
    if isDigest text then .ok text
    else .error (.valueError "digest must use sha256:<lowercase-hex>")
  | _ => .error (.valueError "digest must use sha256:<lowercase-hex>")

def isMediaType (text : String) : Bool :=
  text.toList.contains '/' && !text.toList.any isSpace

def mediaType (value : JsonValue) : Except PyError String := do
  let selected ← boundedString value "media type" 255
  if isMediaType selected then .ok selected
  else .error (.valueError "media type must be an Internet media type")

def hexDigit (n : Nat) : Char :=
  if n < 10 then Char.ofNat ('0'.toNat + n) else Char.ofNat ('A'.toNat + (n - 10))

def percentEncode (byte : UInt8) : List Char :=
  ['%', hexDigit (byte.toNat / 16), hexDigit (byte.toNat % 16)]

def isUnreserved (c : Char) : Bool := isAsciiAlphanumeric c || c ∈ ['_', '.', '-', '~']

/-- `quote(value, safe="")`. -/
def escaped (value : String) : String :=
  String.ofList (value.toList.flatMap fun c =>
    if isUnreserved c then [c] else (String.utf8EncodeChar c).flatMap percentEncode)

theorem boundedString_ok {value : JsonValue} {fieldName text : String} {maximum : Nat}
    (accepted : boundedString value fieldName maximum = .ok text) :
    value = .str text ∧ isBounded text maximum = true := by
  unfold boundedString at accepted
  split at accepted
  · split at accepted
    · next bounded => cases accepted; exact ⟨rfl, bounded⟩
    · cases accepted
  · cases accepted

theorem boundedString_str {text fieldName : String} {maximum : Nat}
    (bounded : isBounded text maximum = true) :
    boundedString (.str text) fieldName maximum = .ok text := by
  simp [boundedString, bounded]

/-- A bounded string that passes one further test. -/
theorem bounded_then_ok {value : JsonValue} {fieldName text : String} {maximum : Nat}
    {test : String → Bool} {error : PyError}
    (accepted : (boundedString value fieldName maximum >>= fun selected =>
      if test selected then .ok selected else .error error) = .ok text) :
    value = .str text ∧ isBounded text maximum = true ∧ test text = true := by
  obtain ⟨selected, bounded, passed⟩ := bind_ok.mp accepted
  split at passed
  · cases passed
    exact ⟨(boundedString_ok bounded).1, (boundedString_ok bounded).2, by assumption⟩
  · cases passed

theorem logicalName_ok {value : JsonValue} {fieldName text : String}
    (accepted : logicalName value fieldName = .ok text) :
    value = .str text ∧ isBounded text 256 = true ∧ isLogicalName text = true :=
  bounded_then_ok accepted

theorem channelName_ok {value : JsonValue} {text : String}
    (accepted : channelName value = .ok text) :
    value = .str text ∧ isBounded text 128 = true ∧ isChannelName text = true :=
  bounded_then_ok accepted

theorem mediaType_ok {value : JsonValue} {text : String}
    (accepted : mediaType value = .ok text) :
    value = .str text ∧ isBounded text 255 = true ∧ isMediaType text = true :=
  bounded_then_ok accepted

theorem digest_ok {value : JsonValue} {text : String} (accepted : digest value = .ok text) :
    value = .str text ∧ isDigest text = true := by
  unfold digest at accepted
  split at accepted
  · split at accepted
    · next hex => cases accepted; exact ⟨rfl, hex⟩
    · cases accepted
  · cases accepted

theorem utf8ByteSize_of_ascii {text : List Char} (ascii : ∀ c ∈ text, c.utf8Size = 1) :
    (String.ofList text).utf8ByteSize = text.length := by
  induction text with
  | nil => rfl
  | cons c rest ih =>
    rw [String.ofList_cons, String.utf8ByteSize_append, String.utf8ByteSize_singleton,
      ascii c List.mem_cons_self, ih fun d member => ascii d (List.mem_cons_of_mem c member),
      List.length_cons, Nat.add_comm]

theorem length_le_utf8ByteSize (text : String) : text.length ≤ text.utf8ByteSize := by
  rw [← String.length_toList, ← String.ofList_toList (s := text)]
  induction text.toList with
  | nil => simp
  | cons c rest ih =>
    rw [String.toList_ofList] at ih ⊢
    rw [String.ofList_cons, String.utf8ByteSize_append, String.utf8ByteSize_singleton,
      List.length_cons]
    have := c.utf8Size_pos
    omega

/-- A bounded text has a character, and no more characters than bytes. -/
theorem isBounded_length {text : String} {maximum : Nat} (bounded : isBounded text maximum = true) :
    1 ≤ text.length ∧ text.length ≤ maximum := by
  simp only [isBounded, Bool.and_eq_true, decide_eq_true_eq] at bounded
  have short := length_le_utf8ByteSize text
  constructor
  · rw [Nat.one_le_iff_ne_zero]
    intro empty
    apply bounded.1.1
    rw [← String.length_toList, List.length_eq_zero_iff] at empty
    rw [← String.ofList_toList (s := text), empty]
  · omega

/-- Printable ASCII text is bounded by its number of characters. -/
theorem isBounded_ofList {text : List Char} {maximum : Nat} (nonempty : text ≠ [])
    (short : text.length ≤ maximum)
    (printable : ∀ c ∈ text, c.utf8Size = 1 ∧ isControl c = false) :
    isBounded (String.ofList text) maximum = true := by
  have size := utf8ByteSize_of_ascii fun c member => (printable c member).1
  have clear : text.any isControl = false :=
    List.any_eq_false.mpr fun c member => by simp [(printable c member).2]
  simp [isBounded, size, short, clear, nonempty]

example : escaped "a/é~" = "a%2F%C3%A9~" := by rfl

theorem boundedString_error {value : JsonValue} {fieldName : String} {maximum : Nat} {error : PyError}
    (raised : boundedString value fieldName maximum = .error error) : error.isArgumentError = true := by
  unfold boundedString at raised
  split at raised
  · split at raised
    · cases raised
    · cases raised; rfl
  · cases raised; rfl

theorem logicalName_error {value : JsonValue} {fieldName : String} {error : PyError}
    (raised : logicalName value fieldName = .error error) : error.isArgumentError = true := by
  unfold logicalName at raised
  cases bounded : boundedString value fieldName 256 with
  | error error =>
    rw [bounded] at raised
    cases raised
    exact boundedString_error bounded
  | ok text =>
    rw [bounded] at raised
    change (if _ then _ else _) = _ at raised
    split at raised
    · cases raised
    · cases raised; rfl

theorem channelName_error {value : JsonValue} {error : PyError}
    (raised : channelName value = .error error) : error.isArgumentError = true := by
  unfold channelName at raised
  cases bounded : boundedString value "channel" 128 with
  | error error =>
    rw [bounded] at raised
    cases raised
    exact boundedString_error bounded
  | ok text =>
    rw [bounded] at raised
    change (if _ then _ else _) = _ at raised
    split at raised
    · cases raised
    · cases raised; rfl

end ConfigArtifact
