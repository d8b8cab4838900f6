import ArticleRules.Address.Absolute
import ArticleRules.Address.Bidirectional
import ArticleRules.Address.Fault
import ArticleRules.Address.Host
import ArticleRules.Address.Label
import ArticleRules.Address.Number
import ArticleRules.Address.Plain.Form
import ArticleRules.Address.Plain.Ideographs
import ArticleRules.Address.Plain.Letters
import ArticleRules.Address.Plain.Presentation
import ArticleRules.Address.Plain.Supplementary
import ArticleRules.Address.Punycode
import ArticleRules.Css.AttributeTest
import ArticleRules.Css.Component
import ArticleRules.Css.Fault
import ArticleRules.Css.Grammar
import ArticleRules.Css.Lexer
import ArticleRules.Css.Matching
import ArticleRules.Css.Progression
import ArticleRules.Css.QualifiedName
import ArticleRules.Css.Reader
import ArticleRules.Css.Selector
import ArticleRules.Css.Token
import ArticleRules.Decimal.Layout
import ArticleRules.Decimal.Shortest
import ArticleRules.Element.Basic
import ArticleRules.Element.Form
import ArticleRules.Element.Kind
import ArticleRules.Error
import ArticleRules.Json.Cursor
import ArticleRules.Json.Fault
import ArticleRules.Json.Number
import ArticleRules.Json.Shape
import ArticleRules.Json.Value
import ArticleRules.NameMap
import ArticleRules.Proofs.Converter.History
import ArticleRules.Proofs.Converter.Phases
import ArticleRules.Proofs.Element.Edit
import ArticleRules.Proofs.Element.Ensures
import ArticleRules.Proofs.Element.Flaw
import ArticleRules.Proofs.Element.Growth
import ArticleRules.Proofs.Element.Operations
import ArticleRules.Proofs.Element.WellFormed
import ArticleRules.Proofs.Rule.Action
import ArticleRules.Proofs.Rule.Building
import ArticleRules.Proofs.Rule.Growth
import ArticleRules.Proofs.Rule.Kind
import ArticleRules.Proofs.Rule.Plan
import ArticleRules.Proofs.Rule.Precedence
import ArticleRules.Proofs.Rule.Reach
import ArticleRules.Proofs.Rule.Uniform
import ArticleRules.Proofs.Rule.WellFormed
import ArticleRules.Proofs.RuleSet.Configuration
import ArticleRules.Proofs.Text.Trim
import ArticleRules.Proofs.Tree.Children
import ArticleRules.Proofs.Tree.Height
import ArticleRules.Proofs.Tree.Order
import ArticleRules.Proofs.Tree.Remarks
import ArticleRules.Proofs.Walk.Depth
import ArticleRules.Proofs.Walk.Growth
import ArticleRules.Proofs.Walk.Kind
import ArticleRules.Proofs.Walk.Limit
import ArticleRules.Proofs.Walk.Outcome
import ArticleRules.Proofs.Walk.Precedence
import ArticleRules.Proofs.Walk.Reach
import ArticleRules.Proofs.Walk.Reports
import ArticleRules.Proofs.Walk.Shadow
import ArticleRules.Proofs.Walk.Uniform
import ArticleRules.Proofs.Walk.Visits
import ArticleRules.Proofs.Walk.WellFormed
import ArticleRules.Property.Basic
import ArticleRules.Property.Getter
import ArticleRules.Property.Pattern
import ArticleRules.Property.Value
import ArticleRules.Rule.Basic
import ArticleRules.Rule.Effect
import ArticleRules.RuleSet.Catalog
import ArticleRules.RuleSet.Entry
import ArticleRules.RuleSet.Reading
import ArticleRules.Selector
import ArticleRules.Text.Blank
import ArticleRules.Text.CaseTable
import ArticleRules.Text.CombiningClass
import ArticleRules.Text.Decomposition
import ArticleRules.Text.Direction
import ArticleRules.Text.Entity
import ArticleRules.Text.Joining
import ArticleRules.Text.Lowercase
import ArticleRules.Text.Mark
import ArticleRules.Text.NormalForm
import ArticleRules.Text.Parts
import ArticleRules.Text.Quoted
import ArticleRules.Text.Ranges
import ArticleRules.Text.Replacement
import ArticleRules.Text.Unassigned
import ArticleRules.Text.Unprintable
import ArticleRules.Tree.Markup
import ArticleRules.Tree.Node
import ArticleRules.Tree.Place
import ArticleRules.Walk.Basic
import ArticleRules.Walk.Converter
import ArticleRules.Proofs.Css.Remarks
import ArticleRules.Proofs.Property.Remarks
import ArticleRules.Proofs.Rule.Remarks
import ArticleRules.Proofs.Walk.Remarks
import ArticleRules.Proofs.RuleSet.Lookup
import ArticleRules.Proofs.RuleSet.Registration
import ArticleRules.Proofs.Tree.Markup
import ArticleRules.Proofs.Css.Scope
import ArticleRules.Proofs.Selector
import ArticleRules.Proofs.Element.Requirement
import ArticleRules.Proofs.Rule.Pixels
import ArticleRules.Proofs.Rule.Requirements
import ArticleRules.Proofs.Converter.Application
import ArticleRules.Proofs.Walk.Header
import ArticleRules.Proofs.Property.Views
import ArticleRules.Proofs.Property.Coverage
import ArticleRules.Proofs.Json.Same
import ArticleRules.Proofs.Element.Form
import ArticleRules.Proofs.RuleSet.Building
import ArticleRules.Proofs.RuleSet.Classes
import ArticleRules.Proofs.Property.Definitions
import ArticleRules.Proofs.Converter.Definitions
import ArticleRules.Proofs.Text.Entity
import ArticleRules.Proofs.Tree.Label
