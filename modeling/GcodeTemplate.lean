import GcodeTemplate.Session
import GcodeTemplate.Proofs.LazyRefinement
import GcodeTemplate.Proofs.Locality
import GcodeTemplate.Proofs.Resolution
import GcodeTemplate.Proofs.Lexing
import GcodeTemplate.Proofs.Parsing
import GcodeTemplate.Proofs.Progress
import GcodeTemplate.Proofs.Nesting
import GcodeTemplate.Proofs.NestingLimit
import GcodeTemplate.Proofs.Carrying
import GcodeTemplate.Proofs.CarriedExpressions
import GcodeTemplate.Proofs.Leading
import GcodeTemplate.Proofs.CarriedPieces
import GcodeTemplate.Proofs.ShiftedEvaluation
import GcodeTemplate.Proofs.ShiftedRendering
import GcodeTemplate.Proofs.Concatenation
import GcodeTemplate.Proofs.Braces
import GcodeTemplate.Proofs.PrintedTokens
import GcodeTemplate.Proofs.Fitting
import GcodeTemplate.Proofs.Reading
import GcodeTemplate.Proofs.ReadingOperands
import GcodeTemplate.Proofs.RoundTrip
import GcodeTemplate.Proofs.Switching
import GcodeTemplate.Proofs.PlainVariables
import GcodeTemplate.Proofs.Agreement
import GcodeTemplate.Proofs.Dependence
import GcodeTemplate.Proofs.Noninterference
import GcodeTemplate.Proofs.Placement
import GcodeTemplate.Proofs.Placing
import GcodeTemplate.Proofs.PlacedExpressions
import GcodeTemplate.Proofs.PlacedPieces
import GcodeTemplate.Proofs.FaultSpans
import GcodeTemplate.Proofs.PlacedEvaluation
import GcodeTemplate.Proofs.PlacedRendering
import GcodeTemplate.Proofs.Elements
import GcodeTemplate.Proofs.IndexedAssignment
import GcodeTemplate.Proofs.AlikeContexts
import GcodeTemplate.Proofs.Redeclaration
import GcodeTemplate.Proofs.EnclosedEscapes
import GcodeTemplate.Proofs.EnclosedGrammar
import GcodeTemplate.Proofs.Searching
import GcodeTemplate.Proofs.WholeSubject
import GcodeTemplate.Proofs.RatioChain
import GcodeTemplate.Proofs.DoubleOrder
import GcodeTemplate.Proofs.Interpolation
import GcodeTemplate.Proofs.ReadBack
import GcodeTemplate.Proofs.BracketReads
import GcodeTemplate.Proofs.NilTests
import GcodeTemplate.Proofs.IntegerArithmetic
import GcodeTemplate.Proofs.Merging
import GcodeTemplate.Proofs.Locating
import GcodeTemplate.Proofs.SlashedPatterns
import GcodeTemplate.Proofs.Tiling
import GcodeTemplate.Proofs.InferredVectors
import GcodeTemplate.Proofs.Candidates
import GcodeTemplate.Proofs.SerializedStrings
import GcodeTemplate.Proofs.IntegerColumns
import GcodeTemplate.Proofs.FullExpressions
import GcodeTemplate.Proofs.FullValues
import GcodeTemplate.Proofs.ExactReleases
import GcodeTemplate.Proofs.AlikeCursors
import GcodeTemplate.Proofs.AlikeReading
import GcodeTemplate.Proofs.DepthBudget
