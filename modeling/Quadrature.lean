import Quadrature.Main
import Quadrature.Proofs.Conditionals
import Quadrature.Proofs.DistinctBounds
import Quadrature.Proofs.EvaluationCounts
import Quadrature.Proofs.GuardedHeaders
import Quadrature.Proofs.Hygiene
import Quadrature.Proofs.AliasInlining
import Quadrature.Proofs.InlinedAliases
import Quadrature.Proofs.Outputs
import Quadrature.Proofs.ProgramLiterals
import Quadrature.Proofs.RememberedText
import Quadrature.Proofs.SavedSettings
import Quadrature.Proofs.SignaturesReadBack
import Quadrature.Proofs.SourceOrder
import Quadrature.Proofs.BlankedText
import Quadrature.Proofs.CplusplusBranches
import Quadrature.Proofs.OutermostFunctions
import Quadrature.Proofs.Derivations
import Quadrature.Proofs.CanonicalTypes
import Quadrature.Proofs.LineCuts
import Quadrature.Proofs.RepeatedIntegrals
import Quadrature.Proofs.BuiltPieces
import Quadrature.Proofs.OldStyleDefinitions
import Quadrature.Proofs.OldStyleParameters
import Quadrature.Proofs.Surroundings
import Quadrature.Proofs.NameLists
import Quadrature.Proofs.IncludeGuards
import Quadrature.Proofs.Ancestors
import Quadrature.Proofs.PathSegments
import Quadrature.Proofs.Paths
import Quadrature.Proofs.SourceDependencies
import Quadrature.Proofs.Requests
import Quadrature.Proofs.DependencyIncludes
import Quadrature.Proofs.UnderscoreRuns
import Quadrature.Proofs.CoinedNames
import Quadrature.Proofs.SizedTypes
import Quadrature.Proofs.SpreadTypes
import Quadrature.Proofs.CommentedTypes
import Quadrature.Proofs.WordKinds
