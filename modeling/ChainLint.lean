import ChainLint.Main
import ChainLint.Proofs.Tree.Parents
import ChainLint.Proofs.Chain.Grammar
import ChainLint.Proofs.Chain.Returns
import ChainLint.Proofs.Chain.Locality
import ChainLint.Proofs.Dispatch.StableSort
import ChainLint.Proofs.Rule.Reports
import ChainLint.Proofs.Dispatch.Independence
import ChainLint.Proofs.Concrete.Positions
import ChainLint.Proofs.Config.Search
import ChainLint.Proofs.Config.Complaints
import ChainLint.Proofs.Concrete.Escapes
import ChainLint.Proofs.Concrete.Success
import ChainLint.Proofs.Concrete.Layout
import ChainLint.Proofs.Rule.SizeFix
import ChainLint.Proofs.Concrete.Parentheses
import ChainLint.Proofs.Concrete.Comments
import ChainLint.Proofs.Rule.Repairs
import ChainLint.Proofs.Rule.EventFix
import ChainLint.Proofs.Dispatch.ReportOrder
import ChainLint.Proofs.Dispatch.Receivers
import ChainLint.Proofs.Dispatch.Widening
import ChainLint.Proofs.Dispatch.Statements
import ChainLint.Proofs.Tree.Turns
import ChainLint.Proofs.Dispatch.EventOrder
import ChainLint.Proofs.Lint.Answers
import ChainLint.Proofs.Lint.Selection
import ChainLint.Proofs.Dispatch.Uses
import ChainLint.Proofs.Dispatch.FamilyAgreement
import ChainLint.Proofs.Rule.AttributeAdvice
import ChainLint.Proofs.Concrete.Literals
import ChainLint.Proofs.Text.JsonString
import ChainLint.Proofs.Rule.EventName
import ChainLint.Proofs.Chain.Spelling
import ChainLint.Proofs.Config.Nearest
import ChainLint.Proofs.Command.Totals
import ChainLint.Proofs.Concrete.Integers
import ChainLint.Proofs.Concrete.Nesting
import ChainLint.Proofs.Dispatch.Scrolling
import ChainLint.Proofs.Rule.Suffix
import ChainLint.Proofs.Tree.Filling
import ChainLint.Proofs.Config.WellTyped
import ChainLint.Proofs.Dispatch.NameUnion
