import SchemaBindings.Main
import SchemaBindings.Proofs.BranchTypes
import SchemaBindings.Proofs.CamelLetters
import SchemaBindings.Proofs.ClosedTypes
import SchemaBindings.Proofs.CodeWithoutComments
import SchemaBindings.Proofs.CollectedFields
import SchemaBindings.Proofs.CollectedSelections
import SchemaBindings.Proofs.ConfigMappings
import SchemaBindings.Proofs.ConvertedNames
import SchemaBindings.Proofs.DeclaredTypes
import SchemaBindings.Proofs.DefinitionOrder
import SchemaBindings.Proofs.DistinctIdentifiers
import SchemaBindings.Proofs.DryRuns
import SchemaBindings.Proofs.EmbeddedFragments
import SchemaBindings.Proofs.EmbeddedSpreads
import SchemaBindings.Proofs.EnumImports
import SchemaBindings.Proofs.EnumLiterals
import SchemaBindings.Proofs.FieldIdentifiers
import SchemaBindings.Proofs.FieldPresence
import SchemaBindings.Proofs.FiniteStructs
import SchemaBindings.Proofs.FirstOccurrences
import SchemaBindings.Proofs.FoundFiles
import SchemaBindings.Proofs.FragmentClosure
import SchemaBindings.Proofs.FragmentConstants
import SchemaBindings.Proofs.GenerationOutcome
import SchemaBindings.Proofs.Identifiers
import SchemaBindings.Proofs.KeptTypes
import SchemaBindings.Proofs.LineKeys
import SchemaBindings.Proofs.LoadedStructs
import SchemaBindings.Proofs.LoadingElsewhere
import SchemaBindings.Proofs.MarkedTypes
import SchemaBindings.Proofs.MergedOutputs
import SchemaBindings.Proofs.NameCase
import SchemaBindings.Proofs.NestedStructs
import SchemaBindings.Proofs.NestedText
import SchemaBindings.Proofs.OperationEndings
import SchemaBindings.Proofs.OperationFailures
import SchemaBindings.Proofs.OperationReferences
import SchemaBindings.Proofs.OperationTypeNames
import SchemaBindings.Proofs.OptionReading
import SchemaBindings.Proofs.OutputPaths
import SchemaBindings.Proofs.PackageNames
import SchemaBindings.Proofs.ParsedNames
import SchemaBindings.Proofs.PathParts
import SchemaBindings.Proofs.ReaderRules
import SchemaBindings.Proofs.Rendering
import SchemaBindings.Proofs.ReorderedSelections
import SchemaBindings.Proofs.ReorderedStructs
import SchemaBindings.Proofs.RepeatedSelections
import SchemaBindings.Proofs.RepeatedTags
import SchemaBindings.Proofs.ResponseKeys
import SchemaBindings.Proofs.RunSteps
import SchemaBindings.Proofs.ScalarTables
import SchemaBindings.Proofs.SchemaExtensions
import SchemaBindings.Proofs.SelectionNesting
import SchemaBindings.Proofs.ShadowedOptions
import SchemaBindings.Proofs.StringExpressions
import SchemaBindings.Proofs.StructSources
import SchemaBindings.Proofs.TreeChanges
import SchemaBindings.Proofs.TreePaths
import SchemaBindings.Proofs.TypeTexts
import SchemaBindings.Proofs.TypenameKeys
import SchemaBindings.Proofs.TypenameLines
import SchemaBindings.Proofs.UnquotedNames
import SchemaBindings.Proofs.UsedDeclarations
import SchemaBindings.Proofs.UsedTypeClosure
import SchemaBindings.Proofs.WrappedSelections
