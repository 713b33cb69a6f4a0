import ContractEvents.Decoding.Script
import ContractEvents.Main
import ContractEvents.Proofs.DecodingStages
import ContractEvents.Proofs.FieldBinding
import ContractEvents.Proofs.StageVerdict
import ContractEvents.Proofs.BindingExactness
import ContractEvents.Proofs.CatalogRouting
import ContractEvents.Proofs.FieldReading
import ContractEvents.Proofs.InterfaceText
import ContractEvents.Proofs.TypeConformance
import ContractEvents.Proofs.EmittedEvents
import ContractEvents.Proofs.Outcomes
import ContractEvents.Proofs.TypeExactness
import ContractEvents.Proofs.FieldCaching
import ContractEvents.Proofs.ReadingSessions
import ContractEvents.Proofs.Utf8RoundTrip
import ContractEvents.Proofs.BinaryReading
import ContractEvents.Proofs.FormatDetection
import ContractEvents.Proofs.ValueRoundTrip
import ContractEvents.Proofs.BinaryText
import ContractEvents.Proofs.WideIntegers
import ContractEvents.Proofs.DecodingInjective
import ContractEvents.Proofs.DecoderCalls
import ContractEvents.Proofs.DeclarationOrder
import ContractEvents.Proofs.ShadowedEvents
import ContractEvents.Proofs.EncodingRoundTrip
import ContractEvents.Proofs.SteadyReading
import ContractEvents.Proofs.NativeForms
import ContractEvents.Proofs.DeclaredText
import ContractEvents.Proofs.TextSource
import ContractEvents.Proofs.BlankText
import ContractEvents.Proofs.RecordSources
import ContractEvents.Proofs.ReaderExtension
import ContractEvents.Proofs.ArrayText
import ContractEvents.Proofs.BatchRuns
import ContractEvents.Proofs.PayloadNoise
import ContractEvents.Proofs.BindableEvents
import ContractEvents.Proofs.ObjectReading
import ContractEvents.Proofs.MapRendering
import ContractEvents.Proofs.DecodedTrees
import ContractEvents.Proofs.IntegerText
import ContractEvents.Proofs.InterfaceRoundTrip
import ContractEvents.Proofs.ListingLines
import ContractEvents.Proofs.LogRolling
import ContractEvents.Proofs.TraceSharing
import ContractEvents.Proofs.PrintedChain
import ContractEvents.Proofs.NameLookup
import ContractEvents.Proofs.TypeMapping
import ContractEvents.Proofs.SignatureReading
import ContractEvents.Proofs.SettingsPriority
