import ModuleSharing.Main
import ModuleSharing.Proofs.Bundle.Stored
import ModuleSharing.Proofs.Registry.FailedLoad
import ModuleSharing.Proofs.Registry.Registration
import ModuleSharing.Proofs.Registry.Repetition
import ModuleSharing.Proofs.Registry.Report
import ModuleSharing.Proofs.Share.Section
import ModuleSharing.Proofs.Child.Merging
import ModuleSharing.Proofs.Share.Pairing
import ModuleSharing.Proofs.Child.Sharing
import ModuleSharing.Proofs.Build.Storage
import ModuleSharing.Proofs.Range.Single
import ModuleSharing.Proofs.Range.Bounds
import ModuleSharing.Proofs.Range.Confinement
import ModuleSharing.Proofs.Child.Interleaving
import ModuleSharing.Proofs.Child.Ordering
import ModuleSharing.Proofs.Child.Schedule
import ModuleSharing.Proofs.Range.Order
import ModuleSharing.Proofs.Range.Composition
import ModuleSharing.Proofs.Share.Filtering
import ModuleSharing.Proofs.Share.Recognition
import ModuleSharing.Proofs.Share.RequiredVersion
import ModuleSharing.Proofs.Share.PackageVersion
import ModuleSharing.Proofs.Bundle.Chunking
import ModuleSharing.Proofs.Bundle.Quoting
