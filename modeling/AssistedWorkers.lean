import AssistedWorkers.Session
import AssistedWorkers.Proofs.Growth
import AssistedWorkers.Proofs.Diagnostics
import AssistedWorkers.Proofs.Registry
import AssistedWorkers.Proofs.Bindings
import AssistedWorkers.Proofs.SoleModule
import AssistedWorkers.Proofs.Names
import AssistedWorkers.Proofs.OutputPaths
import AssistedWorkers.Proofs.Spelling
import AssistedWorkers.Proofs.BoundFactories
import AssistedWorkers.Proofs.BindingKeys
import AssistedWorkers.Proofs.Scanning
import AssistedWorkers.Proofs.TypeGrammar
import AssistedWorkers.Proofs.CanonicalForm
import AssistedWorkers.Proofs.Checking
import AssistedWorkers.Proofs.References
import AssistedWorkers.Proofs.RoundNames
import AssistedWorkers.Proofs.DisplayedTypes
import AssistedWorkers.Proofs.NameResolution
import AssistedWorkers.Proofs.Subtypes
import AssistedWorkers.Proofs.Dependence
import AssistedWorkers.Proofs.RoundBoundaries
import AssistedWorkers.Proofs.KeyOrder
import AssistedWorkers.Proofs.DiscoveryOrder
import AssistedWorkers.Proofs.RunTotals
import AssistedWorkers.Proofs.Repetition
import AssistedWorkers.Proofs.RejectedClasses
import AssistedWorkers.Proofs.WrittenJson
import AssistedWorkers.Proofs.DescriptionsAsJson
import AssistedWorkers.Proofs.KnownSupertypes
import AssistedWorkers.Proofs.FreshNames
import AssistedWorkers.Proofs.BindMethods
import AssistedWorkers.Proofs.ParameterKeys
import AssistedWorkers.Proofs.WorkerRules
import AssistedWorkers.Proofs.FactoryCalls
import AssistedWorkers.Proofs.LiteralValues
import AssistedWorkers.Proofs.Wording
import AssistedWorkers.Proofs.WrittenReferences
import AssistedWorkers.Proofs.DescriptionFaults
import AssistedWorkers.Proofs.AcceptedDescriptions
import AssistedWorkers.Proofs.FurthestPlace
import AssistedWorkers.Proofs.FaultPlaces
