import Diglot.Main
import Diglot.Proofs.Agreement
import Diglot.Proofs.Discipline
import Diglot.Proofs.Order
import Diglot.Proofs.Grouping
import Diglot.Proofs.Partition
import Diglot.Proofs.Session
import Diglot.Proofs.Interleaving
import Diglot.Proofs.Outcome
import Diglot.Proofs.Progress
import Diglot.Proofs.Transparency
import Diglot.Proofs.Consolidation
import Diglot.Proofs.Texts
import Diglot.Proofs.Showing
import Diglot.Proofs.JavaClasses
import Diglot.Proofs.Core
import Diglot.Proofs.Resolution
import Diglot.Proofs.NullableTypes
import Diglot.Proofs.PlatformTypes
import Diglot.Proofs.Conversion
import Diglot.Proofs.KotlinNames
import Diglot.Proofs.UnseenAnnotations
import Diglot.Proofs.JavaForms
import Diglot.Proofs.FinalForms
import Diglot.Proofs.Wrappers
import Diglot.Proofs.Placement
import Diglot.Proofs.Expansion
import Diglot.Proofs.KotlinAliases
import Diglot.Proofs.JavaWrappers
import Diglot.Proofs.JavaAliases
import Diglot.Proofs.Aliases
import Diglot.Proofs.Summary
import Diglot.Proofs.SourceSetNames
import Diglot.Proofs.ListingOrder
import Diglot.Proofs.Failures
import Diglot.Proofs.Everywhere
import Diglot.Proofs.DynamicTypes
import Diglot.Proofs.FatalTypes
import Diglot.Proofs.RoundTrip
import Diglot.Proofs.LinkTargets
import Diglot.Proofs.MovedLinks
import Diglot.Proofs.RootPath
import Diglot.Proofs.PlainDocuments
import Diglot.Proofs.JsonText
import Diglot.Proofs.FormatValues
import Diglot.Proofs.FormatTypes
import Diglot.Proofs.FormatDeclarations
import Diglot.Proofs.NameOrder
import Diglot.Proofs.ValueDocuments
import Diglot.Proofs.ValueTypes
import Diglot.Proofs.ValueDeclarations
import Diglot.Proofs.JavaSpelling
import Diglot.Proofs.ArrayNames
import Diglot.Proofs.JavaFailures
import Diglot.Proofs.RepeatedConversion
import Diglot.Proofs.Termination
import Diglot.Proofs.ImposedNullability
import Diglot.Proofs.FunctionTypes
import Diglot.Proofs.ArrowTexts
import Diglot.Proofs.FunctionTexts
import Diglot.Proofs.DisplayedAnnotations
import Diglot.Proofs.LambdaParameters
import Diglot.Proofs.OwnSourceSet
import Diglot.Proofs.EnclosedTexts
import Diglot.Proofs.Identifiers
import Diglot.Proofs.DisplayedModifiers
import Diglot.Proofs.ShownConstants
import Diglot.Proofs.ReportedOrder
