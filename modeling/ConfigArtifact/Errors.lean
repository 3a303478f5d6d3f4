import Mathlib.Logic.Basic

/-! The exceptions the package raises and the ones it distinguishes. -/

set_option autoImplicit false

namespace ConfigArtifact

inductive ErrorCategory where
  | validation
  | conflict
  | compatibility
  | notFound
  | corruption
  | constraint
  | transient
  | configuration
  | other
  deriving DecidableEq, Repr

/-- The classes of Meridian errors: the package's own, those of the Object
Catalog that the package names, and any other. -/
inductive ErrorType where
  | invalidPayload
  | identityConflict
  | staleChannelPointer
  | incompatibleProfile
  | resourceNotFound
  | missingObject
  | artifactDigestMismatch
  | forbiddenDeletion
  | incompletePublication
  | invalidRepositoryResult
  | schemaUnavailable
  | conditionalConflict
  | immutableObjectConflict
  | objectNotFound
  | external (name : String)
  deriving DecidableEq, Repr

def ErrorType.name : ErrorType → String
  | .invalidPayload => "InvalidPayload"
  | .identityConflict => "IdentityConflict"
  | .staleChannelPointer => "StaleChannelPointer"
  | .incompatibleProfile => "IncompatibleProfile"
  | .resourceNotFound => "ResourceNotFound"
  | .missingObject => "MissingObject"
  | .artifactDigestMismatch => "ArtifactDigestMismatch"
  | .forbiddenDeletion => "ForbiddenDeletion"
  | .incompletePublication => "IncompletePublication"
  | .invalidRepositoryResult => "InvalidRepositoryResult"
  | .schemaUnavailable => "SchemaUnavailable"
  | .conditionalConflict => "ConditionalConflict"
  | .immutableObjectConflict => "ImmutableObjectConflict"
  | .objectNotFound => "ObjectNotFound"
  | .external name => name

structure SafeCause where
  type : String
  code : Option String
  deriving DecidableEq, Repr

structure MeridianError where
  type : ErrorType
  code : String
  category : ErrorCategory
  message : String
  resourceRef : Option String := none
  retryable : Bool := false
  cause : Option SafeCause := none
  deriving DecidableEq, Repr

inductive PyError where
  | meridian (error : MeridianError)
  | valueError (message : String)
  | typeError (message : String)
  | keyError (key : String)
  | runtimeError (message : String)
  | other (type : String)
  deriving DecidableEq, Repr

/-- `if condition: raise error`. -/
def raiseIf (condition : Prop) [Decidable condition] (error : PyError) : Except PyError Unit :=
  if condition then .error error else .ok ()

@[simp] theorem raiseIf_ok {condition : Prop} [Decidable condition] {error : PyError}
    {value : Unit} : raiseIf condition error = .ok value ↔ ¬condition := by
  unfold raiseIf
  split <;> simp [*]

@[simp] theorem ok_bind {E A B : Type} (value : A) (next : A → Except E B) :
    (Except.ok value >>= next) = next value := rfl

theorem bind_ok {E A B : Type} {result : Except E A} {next : A → Except E B} {value : B} :
    result >>= next = .ok value ↔ ∃ middle, result = .ok middle ∧ next middle = .ok value := by
  cases result with
  | ok middle =>
    exact ⟨fun same => ⟨middle, rfl, same⟩, by rintro ⟨_, ⟨⟩, same⟩; exact same⟩
  | error error => exact ⟨fun same => (by cases same), by rintro ⟨_, same, _⟩; cases same⟩

theorem map_ok {E A B : Type} {result : Except E A} {change : A → B} {value : B} :
    change <$> result = .ok value ↔ ∃ middle, result = .ok middle ∧ change middle = value := by
  cases result with
  | ok middle =>
    exact ⟨fun same => ⟨middle, rfl, Except.ok.inj same⟩,
      by rintro ⟨_, ⟨⟩, same⟩; exact congrArg _ same⟩
  | error error => exact ⟨fun same => (by cases same), by rintro ⟨_, same, _⟩; cases same⟩

theorem bind_error {E A B : Type} {result : Except E A} {next : A → Except E B} {error : E} :
    result >>= next = .error error ↔
      result = .error error ∨ ∃ middle, result = .ok middle ∧ next middle = .error error := by
  cases result with
  | ok middle =>
    exact ⟨fun same => .inr ⟨middle, rfl, same⟩,
      by rintro (same | ⟨_, ⟨⟩, same⟩); cases same; exact same⟩
  | error other =>
    exact ⟨fun same => .inl (by cases same; rfl), by rintro (⟨⟨⟩⟩ | ⟨_, same, _⟩); rfl; cases same⟩

theorem map_error {E A B : Type} {result : Except E A} {change : A → B} {error : E} :
    change <$> result = .error error ↔ result = .error error := by
  cases result with
  | ok middle => exact ⟨fun same => (by cases same), fun same => (by cases same)⟩
  | error other => exact ⟨fun same => by cases same; rfl, fun same => by cases same; rfl⟩

/-- A result together with the fact that it is the result. -/
def witnessed {E A : Type} (result : Except E A) : Except E { value : A // result = .ok value } :=
  match result with
  | .ok value => .ok ⟨value, rfl⟩
  | .error error => .error error

theorem witnessed_bind {E A B : Type} {result : Except E A}
    {next : { value : A // result = .ok value } → Except E B} {value : B} :
    witnessed result >>= next = .ok value ↔
      ∃ middle, ∃ same : result = .ok middle, next ⟨middle, same⟩ = .ok value := by
  cases result with
  | ok middle =>
    exact ⟨fun same => ⟨middle, rfl, same⟩, by rintro ⟨_, ⟨⟩, same⟩; exact same⟩
  | error error => exact ⟨fun same => (by cases same), by rintro ⟨_, same, _⟩; cases same⟩

theorem witnessed_error {E A : Type} {result : Except E A} {error : E}
    (failed : result = .error error) : witnessed result = .error error := by
  subst failed
  rfl

def PyError.typeName : PyError → String
  | .meridian error => error.type.name
  | .valueError _ => "ValueError"
  | .typeError _ => "TypeError"
  | .keyError _ => "KeyError"
  | .runtimeError _ => "RuntimeError"
  | .other type => type

def safeCause : PyError → SafeCause
  | .meridian error => ⟨error.type.name, some error.code⟩
  | error => ⟨error.typeName, none⟩

/-- `except (KeyError, TypeError, ValueError)`. -/
def PyError.isDataError : PyError → Bool
  | .keyError _ | .typeError _ | .valueError _ => true
  | _ => false

/-- How rejected arguments are raised: a ValueError or a TypeError. -/
def PyError.isArgumentError : PyError → Bool
  | .typeError _ | .valueError _ => true
  | _ => false

theorem PyError.isDataError_of_argument {error : PyError} (argument : error.isArgumentError = true) :
    error.isDataError = true := by
  unfold isArgumentError at argument
  split at argument
  · rfl
  · rfl
  · cases argument

/-- `isinstance(exc, MeridianError) and exc.category is category`. -/
def PyError.hasCategory (error : PyError) (category : ErrorCategory) : Bool :=
  match error with
  | .meridian error => error.category = category
  | _ => false

def PyError.hasType (error : PyError) (type : ErrorType) : Bool :=
  match error with
  | .meridian error => error.type = type
  | _ => false

/-- `except (ConditionalConflict, ImmutableObjectConflict)`. -/
def PyError.isObjectConflict (error : PyError) : Bool :=
  error.hasType .conditionalConflict || error.hasType .immutableObjectConflict

section

variable (message : String) (resourceRef : Option String) (cause : Option SafeCause)

def invalidPayload : PyError := .meridian
  { type := .invalidPayload, code := "MERIDIAN_CONFIG_ARTIFACT_INVALID_PAYLOAD"
    category := .validation, message, resourceRef, cause }

def identityConflict (resourceRef : Option String)
    (message : String := "resource identity already has another digest") : PyError := .meridian
  { type := .identityConflict, code := "MERIDIAN_CONFIG_ARTIFACT_IDENTITY_CONFLICT"
    category := .conflict, message, resourceRef }

def staleChannelPointer (resourceRef : Option String) : PyError := .meridian
  { type := .staleChannelPointer, code := "MERIDIAN_CONFIG_ARTIFACT_STALE_CHANNEL_POINTER"
    category := .conflict, message := "channel pointer version is stale", resourceRef }

def incompatibleProfile : PyError := .meridian
  { type := .incompatibleProfile, code := "MERIDIAN_CONFIG_ARTIFACT_INCOMPATIBLE_PROFILE"
    category := .compatibility, message, resourceRef }

def resourceNotFound (resourceRef : Option String) : PyError := .meridian
  { type := .resourceNotFound, code := "MERIDIAN_CONFIG_ARTIFACT_RESOURCE_NOT_FOUND"
    category := .notFound, message := "stored resource was not found", resourceRef }

def missingObject (resourceRef : Option String) : PyError := .meridian
  { type := .missingObject, code := "MERIDIAN_CONFIG_ARTIFACT_MISSING_OBJECT"
    category := .notFound, message := "published artifact Object is missing", resourceRef }

def artifactDigestMismatch (resourceRef : Option String)
    (message : String := "artifact digest verification failed") : PyError := .meridian
  { type := .artifactDigestMismatch, code := "MERIDIAN_CONFIG_ARTIFACT_DIGEST_MISMATCH"
    category := .corruption, message, resourceRef }

def incompletePublication : PyError := .meridian
  { type := .incompletePublication, code := "MERIDIAN_CONFIG_ARTIFACT_INCOMPLETE_PUBLICATION"
    category := .transient, message, resourceRef, retryable := true, cause }

def invalidRepositoryResult (message : String) (cause : Option SafeCause := none) : PyError :=
  .meridian
    { type := .invalidRepositoryResult, code := "MERIDIAN_CONFIG_ARTIFACT_INVALID_RESULT"
      category := .corruption, message, cause }

end

end ConfigArtifact
