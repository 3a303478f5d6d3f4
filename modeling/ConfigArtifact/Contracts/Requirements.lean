import ConfigArtifact.Runtime

/-! What the Resources of the package require of a deployment.

The provider declares for each Resource which methods of its Catalog the package
calls. A deployment grants what is declared, and may grant nothing else.
-/

set_option autoImplicit false

namespace ConfigArtifact

open Interaction

/-- The methods of the Catalogs, and transactions. -/
inductive Capability where
  | get (collection : Collection)
  | put (collection : Collection)
  | patch (collection : Collection)
  | query (collection : Collection)
  | transaction (collection : Collection)
  | objectPut
  | objectStat
  | objectGet
  | objectReadRange
  | objectList
  deriving DecidableEq, Repr

structure CapabilityRequirement where
  capability : String
  version : String
  guarantees : List String := []
  deriving DecidableEq, Repr

/-- `_structured_requirements`. -/
def structuredRequirements (methods : List String) (transactional : Bool := true) :
    List CapabilityRequirement :=
  (methods.map fun method =>
    { capability := "meridian.structured." ++ method
      version := if method = "put" then "2.0.0" else "1.0.0" }) ++
  if transactional then
    [{ capability := "meridian.transaction", version := "1.0.0"
       guarantees := ["atomic", "no-dirty-reads"] }]
  else []

/-- The requirements of each structured Resource in `load`. -/
def requirementsOf : Collection → List CapabilityRequirement
  | .metadata => structuredRequirements ["get", "patch", "put", "query"]
  | .channels => structuredRequirements ["get", "put", "query"]
  | .provenance => structuredRequirements ["get", "put", "query"]
  | .orphanCandidates => structuredRequirements ["get", "patch", "put", "query"]

/-- The methods of the `object_requirement`s of the Object Resource in `load`. -/
def objectRequirements : List String := ["put", "get", "stat", "read_range", "list"]

/-- The deployment has been told that the package needs this. -/
def Capability.isDeclared : Capability → Bool
  | .get collection => requires collection "meridian.structured.get"
  | .put collection => requires collection "meridian.structured.put"
  | .patch collection => requires collection "meridian.structured.patch"
  | .query collection => requires collection "meridian.structured.query"
  | .transaction collection => requires collection "meridian.transaction"
  | .objectPut => "put" ∈ objectRequirements
  | .objectStat => "stat" ∈ objectRequirements
  | .objectGet => "get" ∈ objectRequirements
  | .objectReadRange => "read_range" ∈ objectRequirements
  | .objectList => "list" ∈ objectRequirements
where
  requires (collection : Collection) (capability : String) : Bool :=
    (requirementsOf collection).any fun requirement => requirement.capability = capability

def StructuredCall.capability : StructuredCall → Capability
  | .get collection _ => .get collection
  | .put collection _ => .put collection
  | .patch collection _ _ _ => .patch collection
  | .query collection _ _ _ _ => .query collection

def ObjectCall.capability : ObjectCall → Capability
  | .put .. => .objectPut
  | .stat _ => .objectStat
  | .get _ => .objectGet
  | .readRange _ _ => .objectReadRange
  | .list _ _ _ => .objectList

variable {X : Platform}

abbrev StructuredCall.IsGranted (granted : Capability → Prop) (call : StructuredCall) : Prop :=
  granted call.capability

/-- A call that needs nothing else than what is granted. Transactions are begun on the metadata. -/
def Call.IsGranted (granted : Capability → Prop) : Call X → Prop
  | .structured call => granted call.capability
  | .object call => granted call.capability
  | .transaction body => granted (.transaction .metadata) ∧
      body.Uses (StructuredCall.IsGranted granted)
  | .clock | .utcNow | .validate _ _ | .registerPayload _ _ _ | .openPayload _
  | .releasePayload _ => True

end ConfigArtifact
