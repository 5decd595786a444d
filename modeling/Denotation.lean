import Denotation.Ty.Basic
import Denotation.Ty.Alignment
import Denotation.Ty.Matching
import Denotation.Term.Basic
import Denotation.Term.Text
import Denotation.Term.Parser
import Denotation.Term.Variables
import Denotation.Term.Typing
import Denotation.Term.Substitution
import Denotation.Term.Nameless
import Denotation.Term.Path
import Denotation.Term.Exposure
import Denotation.Term.Clash
import Denotation.Term.Reduction
import Denotation.Conversion
import Denotation.Composition
import Denotation.Pattern.CharSet
import Denotation.Pattern.Basic
import Denotation.Pattern.Meaning
import Denotation.Pattern.Blueprint
import Denotation.Pattern.Size
import Denotation.Pattern.Item
import Denotation.Pattern.Piece
import Denotation.Pattern.Class
import Denotation.Pattern.Token
import Denotation.Pattern.Parser
import Denotation.Naming.Conventions
import Denotation.Naming.UsualPatterns
import Denotation.Naming
import Denotation.Text.Ranges
import Denotation.Text.Blank
import Denotation.Text.Digit
import Denotation.Text.WordChar
import Denotation.Text.ByteRanges
import Denotation.Text.Unprintable
import Denotation.Text.Quoted
import Denotation.Text.Utf8
import Denotation.Store.Error
import Denotation.Store.Source
import Denotation.Store.Tag
import Denotation.Store.Word
import Denotation.Store.Emission
import Denotation.Store.Sink
import Denotation.Store.Reader
import Denotation.Store.Record
import Denotation.Store.Layout
import Denotation.Source.Fault
import Denotation.Source.Excerpt
import Denotation.Failure
import Denotation.Proofs.Nameless.Instantiation
import Denotation.Proofs.Nameless.ParallelReduction
import Denotation.Proofs.Nameless.Substitution
import Denotation.Proofs.Outcome
import Denotation.Proofs.Typing.Simple
import Denotation.Proofs.Typing.SimpleSubstitution
import Denotation.Proofs.Reduction.Step
import Denotation.Proofs.Reduction.Stepwise
import Denotation.Proofs.Reduction.StepLimit
import Denotation.Proofs.Reduction.Preservation
import Denotation.Proofs.Reduction.Normalization
import Denotation.Proofs.Reduction.Confluence
import Denotation.Proofs.Store.Writing
import Denotation.Proofs.Store.Reading
import Denotation.Proofs.Store.RoundTrip
import Denotation.Proofs.Store.Canonicity
import Denotation.Proofs.Store.Fields
import Denotation.Proofs.Store.Versions
import Denotation.Proofs.Store.Truncation
import Denotation.Proofs.Store.Budget
import Denotation.Proofs.Reduction.Scope
import Denotation.Proofs.Typing.Alignment
import Denotation.Proofs.Typing.Matching
import Denotation.Proofs.Typing.Refinement
import Denotation.Proofs.Typing.Compatibility
import Denotation.Proofs.Typing.Readability
import Denotation.Proofs.Typing.Uses
import Denotation.Proofs.Typing.Domain
import Denotation.Proofs.Typing.Hiding
import Denotation.Proofs.Typing.Variants
import Denotation.Proofs.Nameless.Variants
import Denotation.Proofs.Reduction.FirstRedex
import Denotation.Proofs.Reduction.Contraction
import Denotation.Proofs.Composition
import Denotation.Proofs.Reduction.Culprit
import Denotation.Proofs.RuleChoice
import Denotation.Proofs.Readability
import Denotation.Proofs.Substitution.Clash
import Denotation.Proofs.Substitution.Renamings
import Denotation.Proofs.Modification
import Denotation.Proofs.FreshName
import Denotation.Proofs.Pattern.Search
import Denotation.Proofs.Pattern.Usual
import Denotation.Proofs.Naming
