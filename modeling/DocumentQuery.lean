import DocumentQuery.Text.Quoted
import DocumentQuery.Double.Layout
import DocumentQuery.Double.ReadBack
import DocumentQuery.Decimal
import DocumentQuery.Calendar.DayNumber
import DocumentQuery.Instant
import DocumentQuery.OrderedMap.Basic
import DocumentQuery.Value.Equality
import DocumentQuery.Value.ExtendedJson
import DocumentQuery.Value.Lift
import DocumentQuery.Encoding.HostDocument
import DocumentQuery.Pipeline
import DocumentQuery.Encoding.Description
import DocumentQuery.Sample.Encoders
import DocumentQuery.Proofs.Substitution
import DocumentQuery.Proofs.RegistryLeaves
import DocumentQuery.Proofs.DoubleText
import DocumentQuery.Proofs.ExtendedText
import DocumentQuery.Proofs.LiteralForm
import DocumentQuery.Proofs.Lifting
import DocumentQuery.Proofs.ChainGrowth
import DocumentQuery.Proofs.TableChain
import DocumentQuery.Proofs.ErrorOrigin
import DocumentQuery.Proofs.ExpressionTypes
import DocumentQuery.Proofs.PathOption
import DocumentQuery.Proofs.TypeMismatch
import DocumentQuery.Proofs.Normalization
import DocumentQuery.Proofs.CalendarOrder
import DocumentQuery.Proofs.IsoText
import DocumentQuery.Proofs.IsoOrder
import DocumentQuery.Proofs.Rounding
import DocumentQuery.Proofs.ShortestDecimal
import DocumentQuery.Proofs.DoubleForms
import DocumentQuery.Proofs.Truncation
import DocumentQuery.Proofs.Insertion
import DocumentQuery.Proofs.Merging
import DocumentQuery.Proofs.TreeIdentity
import DocumentQuery.Proofs.PathGrammar
import DocumentQuery.Proofs.Compaction
import DocumentQuery.Proofs.ScalarComparison
import DocumentQuery.Proofs.LiftedNumber
import DocumentQuery.Proofs.InsertionOrder
import DocumentQuery.Proofs.LiteralConversion
