import PathRouter.Router
import PathRouter.Proofs.SimplifiedTree
import PathRouter.Proofs.Split
import PathRouter.Proofs.Points
import PathRouter.Proofs.SplitSearch
import PathRouter.Proofs.ParsedSegments
import PathRouter.Proofs.PlainMatch
import PathRouter.Proofs.SearchInvariant
import PathRouter.Proofs.SpanOrder
import PathRouter.Proofs.MatchShape
import PathRouter.Proofs.Constructs
import PathRouter.Proofs.Lockstep
import PathRouter.Proofs.ClassReading
import PathRouter.Proofs.SplicedText
import PathRouter.Proofs.SplicedOpening
import PathRouter.Proofs.MirroredTree
import PathRouter.Proofs.ReaderSteps
import PathRouter.Proofs.SplicedSteps
import PathRouter.Proofs.NestedReading
import PathRouter.Proofs.InlineGroup
import PathRouter.Proofs.WellFormedMatch
import PathRouter.Proofs.SlashRefusal
import PathRouter.Proofs.Confinement
import PathRouter.Proofs.GuardScan
import PathRouter.Proofs.GuardQuantifier
import PathRouter.Proofs.PercentPieces
import PathRouter.Proofs.Requoting
import PathRouter.Proofs.RequotedDivision
import PathRouter.Proofs.StrictDecoding
import PathRouter.Proofs.Utf8Text
import PathRouter.Proofs.RequotedText
import PathRouter.Proofs.RawPath
import PathRouter.Proofs.EncodedText
import PathRouter.Proofs.FilledPath
import PathRouter.Proofs.WrittenValue
import PathRouter.Proofs.SuppliedValues
import PathRouter.Proofs.FirstPattern
import PathRouter.Proofs.ForcedSplit
import PathRouter.Proofs.BuiltPath
import PathRouter.Proofs.RequotedMatch
import PathRouter.Proofs.GuardSound
import PathRouter.Proofs.TokenReading
import PathRouter.Proofs.ReaderLimits
import PathRouter.Proofs.ExpressionLimits
import PathRouter.Proofs.NarrowableText
import PathRouter.Proofs.NarrowedReading
import PathRouter.Proofs.GuardAbreast
import PathRouter.Proofs.SourceLimits
import PathRouter.Proofs.PatternGrammar
import PathRouter.Proofs.PatternRoundTrip
import PathRouter.Proofs.PlainAlternatives
import PathRouter.Proofs.AddedAlternatives
import PathRouter.Proofs.JoinedPattern
import PathRouter.Proofs.JoinedMatch
import PathRouter.Proofs.JoinedResources
import PathRouter.Proofs.SearchAhead
import PathRouter.Proofs.InPlace
import PathRouter.Proofs.StateRun
import PathRouter.Proofs.RemainingPath
import PathRouter.Proofs.RefusedPatterns
import PathRouter.Proofs.CutMatch
import PathRouter.Proofs.NarrowedMatch
import PathRouter.Proofs.Registration
import PathRouter.Proofs.FirstRoute
import PathRouter.Proofs.CapturedNames
import PathRouter.Proofs.GuardExact
