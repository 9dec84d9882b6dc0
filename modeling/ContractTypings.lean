import ContractTypings.Text.Basic
import ContractTypings.Text.Letter
import ContractTypings.Text.Capital
import ContractTypings.Text.Visible
import ContractTypings.Text.Quoted
import ContractTypings.TypeScript.TypeExpr
import ContractTypings.TypeScript.TypeReader
import ContractTypings.TypeScript.Structure
import ContractTypings.TypeScript.Declaration
import ContractTypings.TypeScript.Printer
import ContractTypings.SharedTypes
import ContractTypings.Overloads
import ContractTypings.Dictionary
import ContractTypings.Abi.Item
import ContractTypings.EvmType.Basic
import ContractTypings.EvmType.Parse
import ContractTypings.EvmType.TypeScript
import ContractTypings.EvmType.Leaves
import ContractTypings.Decimal.Binary64
import ContractTypings.Decimal.Shortest
import ContractTypings.Json.Number
import ContractTypings.Json.Token
import ContractTypings.Json.Tree
import ContractTypings.Json.Fault
import ContractTypings.Json.Value
import ContractTypings.Json.Decoder
import ContractTypings.Abi.Json
import ContractTypings.Natspec
import ContractTypings.Artifact
import ContractTypings.Path
import ContractTypings.Contract.Name
import ContractTypings.Failure
import ContractTypings.Contract.Basic
import ContractTypings.Contract.Interface
import ContractTypings.FileTree.Basic
import ContractTypings.Text.Utf8
import ContractTypings.Formatter
import ContractTypings.Generator.Config
import ContractTypings.Generator.Layout
import ContractTypings.Generator.Barrel
import ContractTypings.Generator.Basic
import ContractTypings.Generator.Bindings
import ContractTypings.Generator.Trace
import ContractTypings.Generator.Calls
import ContractTypings.Proofs.Acceptance
import ContractTypings.TypeScript.Scope
import ContractTypings.Proofs.ModuleScope
import ContractTypings.Proofs.PathComponents
import ContractTypings.Proofs.OrderedSet
import ContractTypings.Proofs.CapitalForms
import ContractTypings.Proofs.ContractName
import ContractTypings.Proofs.ModulePlaces
import ContractTypings.Proofs.Walk
import ContractTypings.Proofs.ModuleGraph
import ContractTypings.Proofs.ArtifactLayout
import ContractTypings.Proofs.DefaultRoot
import ContractTypings.Proofs.RunPhases
import ContractTypings.Proofs.Grouping
import ContractTypings.Proofs.Declarations
import ContractTypings.Proofs.MethodKeys
import ContractTypings.Proofs.Refusal
import ContractTypings.TypeScript.Literals
import ContractTypings.Proofs.InertText
import ContractTypings.Proofs.ComposedText
import ContractTypings.Proofs.ModuleText
import ContractTypings.Proofs.ContractText
import ContractTypings.Proofs.NestedText
import ContractTypings.Proofs.Loading
import ContractTypings.Proofs.RecordDecoding
import ContractTypings.Proofs.FaithfulDecoding
import ContractTypings.Proofs.ArtifactShapes
import ContractTypings.Proofs.ModuleSpecifier
import ContractTypings.Proofs.OutputPaths
import ContractTypings.Proofs.CommonDirectory
import ContractTypings.Proofs.ArtifactOrder
import ContractTypings.Proofs.WrittenText
import ContractTypings.Proofs.WrittenValues
import ContractTypings.Proofs.RoundTrip
import ContractTypings.Proofs.LayoutCache
import ContractTypings.Proofs.DocComments
import ContractTypings.Proofs.SemanticPart
import ContractTypings.Proofs.DictionaryEntries
import ContractTypings.Proofs.MissingAbi
import ContractTypings.Proofs.ListedArtifact
import ContractTypings.Proofs.CamelCase
import ContractTypings.Proofs.BarrelNames
import ContractTypings.Proofs.BarrelSpecifiers
import ContractTypings.Proofs.BegunTrees
import ContractTypings.Proofs.SteadyDecoding
import ContractTypings.Proofs.SteadyArtifact
import ContractTypings.Proofs.FaultKinds
import ContractTypings.Proofs.TextParts
import ContractTypings.Proofs.TypeGrammar
import ContractTypings.EvmType.Lexeme
import ContractTypings.Proofs.SignatureWords
import ContractTypings.Proofs.CanonicalTypes
import ContractTypings.Proofs.IndependentArtifacts
import ContractTypings.Proofs.ObjectText
import ContractTypings.Proofs.DecisiveValues
import ContractTypings.Proofs.LinklessTrees
import ContractTypings.Proofs.MadeDirectories
import ContractTypings.Proofs.WrittenFiles
import ContractTypings.Proofs.DecodedTypes
import ContractTypings.Proofs.ReadTypes
import ContractTypings.Proofs.ParameterNames
import ContractTypings.Proofs.DecodedRecords
import ContractTypings.Proofs.EventMembers
import ContractTypings.Proofs.DocTexts
import ContractTypings.TypeScript.Rows
import ContractTypings.Proofs.ShortenedPaths
import ContractTypings.Proofs.ItemPlaces
import ContractTypings.Proofs.PrintedRows
import ContractTypings.Proofs.InterfaceRows
import ContractTypings.Proofs.ModuleRows
import ContractTypings.Proofs.CommentLines
import ContractTypings.Proofs.NormalNames
import ContractTypings.Proofs.PredefinedTypes
import ContractTypings.Proofs.LineBreaks
import ContractTypings.Proofs.CommentBlock
