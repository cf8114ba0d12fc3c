import MultiDispatch.Numeric.Operators
import MultiDispatch.Registry.Router
import MultiDispatch.Proofs.Equality
import MultiDispatch.Proofs.DraftRuns
import MultiDispatch.Proofs.DisplayedTypes
import MultiDispatch.Proofs.FacePaths
import MultiDispatch.Proofs.Lineage
import MultiDispatch.Proofs.InsertionOrder
import MultiDispatch.Proofs.TableHistory
import MultiDispatch.Proofs.FirstMatch
import MultiDispatch.Proofs.FlatLog
import MultiDispatch.Proofs.RegistryHistory
import MultiDispatch.Proofs.Routing
import MultiDispatch.Proofs.Implementing
import MultiDispatch.Proofs.NearestFace
import MultiDispatch.Proofs.Shadowing
import MultiDispatch.Proofs.Reordering
import MultiDispatch.Proofs.Matching
import MultiDispatch.Proofs.Exchanging
import MultiDispatch.Proofs.Alternatives
import MultiDispatch.Proofs.Specializing
import MultiDispatch.Proofs.SpecializedParams
import MultiDispatch.Proofs.HandedOut
import MultiDispatch.Proofs.Operands
import MultiDispatch.Proofs.OperandCounts
import MultiDispatch.Proofs.OperatorSoundness
import MultiDispatch.Proofs.Expressions
import MultiDispatch.Proofs.VectorOutcomes
import MultiDispatch.Proofs.VectorLengths
import MultiDispatch.Proofs.VectorTypes
import MultiDispatch.Proofs.FloatParts
import MultiDispatch.Proofs.Rounding
import MultiDispatch.Proofs.NumeralGrammar
import MultiDispatch.Proofs.LiteralGrammar
import MultiDispatch.Proofs.LiteralSigns
import MultiDispatch.Proofs.RejectedLiterals
import MultiDispatch.Proofs.CoercedTexts
import MultiDispatch.Proofs.NumberRoundTrip
import MultiDispatch.Proofs.PrintedValues
