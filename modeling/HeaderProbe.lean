import HeaderProbe.Main
import HeaderProbe.Proofs.Text.Word
import HeaderProbe.Proofs.Query.Fragment
import HeaderProbe.Proofs.Query.Logic
import HeaderProbe.Proofs.Query.Candidates
import HeaderProbe.Proofs.Source.Directive
import HeaderProbe.Proofs.Tree.Entry
import HeaderProbe.Proofs.Tree.Walk
import HeaderProbe.Proofs.Query.Alike
import HeaderProbe.Proofs.Tree.Draft
import HeaderProbe.Proofs.Query.Parser
import HeaderProbe.Proofs.Query.Grammar
import HeaderProbe.Proofs.Query.Words
import HeaderProbe.Proofs.Run
import HeaderProbe.Proofs.Catalog.Output
import HeaderProbe.Proofs.Mask.Role
import HeaderProbe.Proofs.Source.Nesting
import HeaderProbe.Proofs.Source.Designator
import HeaderProbe.Proofs.Source.Initializer
import HeaderProbe.Proofs.Source.Masked
import HeaderProbe.Proofs.Mask.Join
import HeaderProbe.Proofs.Query.DefineLine
import HeaderProbe.Proofs.Text.LineEnd
import HeaderProbe.Proofs.Tree.LineEnd
import HeaderProbe.Proofs.Run.LineEnd
import HeaderProbe.Proofs.Run.Again
import HeaderProbe.Proofs.Catalog.Defines
import HeaderProbe.Proofs.Catalog.Implication
import HeaderProbe.Proofs.Catalog.Builtin
import HeaderProbe.Proofs.Source.PointerMember
import HeaderProbe.Proofs.Source.Prototype
import HeaderProbe.Proofs.Source.MemberList
import HeaderProbe.Proofs.Source.Parameter
import HeaderProbe.Proofs.Source.Define
import HeaderProbe.Proofs.Source.StatementHead
import HeaderProbe.Proofs.Source.FunctionFragment
import HeaderProbe.Proofs.Source.DefineFragment
import HeaderProbe.Proofs.Query.Requery
import HeaderProbe.Proofs.Source.FieldReading
import HeaderProbe.Proofs.Source.Misplaced
import HeaderProbe.Proofs.Source.FirstDefinition
import HeaderProbe.Proofs.Source.Declarer
import HeaderProbe.Proofs.Source.Continuation
import HeaderProbe.Proofs.Source.AggregateMember
import HeaderProbe.Proofs.Source.FieldValue
import HeaderProbe.Proofs.Source.ValueOrder
import HeaderProbe.Proofs.Source.InstanceHead
import HeaderProbe.Proofs.Source.InstanceName
import HeaderProbe.Proofs.Source.Lookup
import HeaderProbe.Proofs.Source.SpanBounds
import HeaderProbe.Proofs.Config
import HeaderProbe.Proofs.Run.Header
import HeaderProbe.Proofs.Query.SingleLine
import HeaderProbe.Proofs.Query.PatternError
import HeaderProbe.Proofs.Query.QuotedQuery
import HeaderProbe.Proofs.Source.BracketPair
import HeaderProbe.Proofs.Mask.Projection
import HeaderProbe.Proofs.Source.StatementStart
