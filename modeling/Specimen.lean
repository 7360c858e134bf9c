import Specimen.Proofs.BuilderGenerics
import Specimen.Proofs.ModuleScope
import Specimen.Proofs.Target.RecordFunctions
import Specimen.Session
import Specimen.Sample
import Specimen.Proofs.StoredFields
import Specimen.Proofs.StructLiterals
import Specimen.Proofs.DebugGuard
import Specimen.Proofs.MarkerName
import Specimen.Proofs.Readers
import Specimen.Proofs.ModifierText
import Specimen.Proofs.EmittedModifiers
import Specimen.Proofs.FieldChecks
import Specimen.Proofs.VariantChecks
import Specimen.Proofs.DeriveOutcome
import Specimen.Proofs.SourceOrder
import Specimen.Proofs.SamplingBounds
import Specimen.Proofs.UnstoredMembers
import Specimen.Proofs.GuardInsertion
import Specimen.Proofs.Target.Template
import Specimen.Proofs.Parametricity
import Specimen.Proofs.FirstCase
import Specimen.Proofs.GenericArguments
import Specimen.Proofs.GroupInheritance
import Specimen.Proofs.UnstatedVisibility
import Specimen.Proofs.Extraction
import Specimen.Proofs.Continuation
import Specimen.Proofs.TreeContinuation
import Specimen.Proofs.TypeContinuation
import Specimen.Proofs.TreeTokens
import Specimen.Proofs.PredicateReading
import Specimen.Proofs.SelfNesting
import Specimen.Proofs.SelfSubstitution
import Specimen.Proofs.BuiltInSamples
import Specimen.Proofs.GeneratedNames
import Specimen.Proofs.FragmentOrder
