import ConfigArtifact.Interaction.Pool
import ConfigArtifact.Configuration
import ConfigArtifact.Artifact.Consumer
import ConfigArtifact.Artifact.Reading
import ConfigArtifact.Deployment
import ConfigArtifact.Simulation
import ConfigArtifact.Guarantees.CompareAndSet
import ConfigArtifact.Guarantees.History
import ConfigArtifact.Guarantees.Records
import ConfigArtifact.Contracts.Provider
import ConfigArtifact.Guarantees.Schemas
import ConfigArtifact.Guarantees.Provenance
import ConfigArtifact.Guarantees.Deprecation
import ConfigArtifact.Guarantees.Promotion
import ConfigArtifact.Guarantees.Rejection
import ConfigArtifact.Guarantees.Idempotence
import ConfigArtifact.Guarantees.Release
import ConfigArtifact.Guarantees.Verification
import ConfigArtifact.Guarantees.Backing
import ConfigArtifact.Guarantees.Resolution
import ConfigArtifact.Guarantees.Convergence
import ConfigArtifact.Guarantees.Agreement
import ConfigArtifact.Guarantees.Targets
import ConfigArtifact.Guarantees.Timestamps
import ConfigArtifact.Guarantees.Identities
import ConfigArtifact.Guarantees.SchemaReferences
import ConfigArtifact.Guarantees.Latest
import ConfigArtifact.Guarantees.Streaming
import ConfigArtifact.Guarantees.Content
import ConfigArtifact.Guarantees.Results
import ConfigArtifact.Guarantees.Shapes
import ConfigArtifact.Operations.Alone.Promotion
import ConfigArtifact.Operations.Alone.Configuration
import ConfigArtifact.Operations.Alone.Artifact
import ConfigArtifact.Guarantees.Orphans
import ConfigArtifact.Guarantees.Scans
import ConfigArtifact.Registry
import ConfigArtifact.Operations.Authority
import ConfigArtifact.Guarantees.Authority
import ConfigArtifact.Guarantees.Linearization
import ConfigArtifact.Guarantees.Requested
import ConfigArtifact.Guarantees.Keys
import ConfigArtifact.Guarantees.HalfPublication
