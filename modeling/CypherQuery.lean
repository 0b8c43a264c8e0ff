import CypherQuery.Build
import CypherQuery.Clause.Basic
import CypherQuery.Clause.Rendering
import CypherQuery.CommandLine.Arguments
import CypherQuery.CommandLine.Compile
import CypherQuery.Config
import CypherQuery.Config.Loading
import CypherQuery.Construct
import CypherQuery.Decimal.Binary64
import CypherQuery.Decimal.Layout
import CypherQuery.Decimal.Power
import CypherQuery.Decimal.Reading
import CypherQuery.Decimal.Shortest
import CypherQuery.Dictionary
import CypherQuery.Document.Basic
import CypherQuery.Document.Decoding
import CypherQuery.Document.Query
import CypherQuery.Environment
import CypherQuery.Error
import CypherQuery.Expression.Basic
import CypherQuery.Expression.Rendering
import CypherQuery.Identity
import CypherQuery.LabelOperator
import CypherQuery.Log
import CypherQuery.Main
import CypherQuery.Naming
import CypherQuery.Operator
import CypherQuery.Pattern.Basic
import CypherQuery.Pattern.Element
import CypherQuery.Pattern.PathLength
import CypherQuery.Pattern.Rendering
import CypherQuery.Proofs.BuildEnd
import CypherQuery.Proofs.Consistency
import CypherQuery.Proofs.Faults
import CypherQuery.Proofs.FreshNames
import CypherQuery.Proofs.NamingSteps
import CypherQuery.Proofs.ParameterMap
import CypherQuery.Proofs.Quoting.Construct
import CypherQuery.Proofs.Quoting.Expression
import CypherQuery.Proofs.Reading.Chains
import CypherQuery.Proofs.Reading.Elements
import CypherQuery.Proofs.Reading.Expression
import CypherQuery.Proofs.Reading.Inverse
import CypherQuery.Proofs.Reading.Laws
import CypherQuery.Proofs.Reading.Lexical
import CypherQuery.Proofs.Reading.Pattern
import CypherQuery.Proofs.Reading.Unambiguous
import CypherQuery.Proofs.Reading.Written
import CypherQuery.Proofs.Repetition
import CypherQuery.Proofs.Revaluation
import CypherQuery.Proofs.Scanner
import CypherQuery.Proofs.Session
import CypherQuery.Proofs.Steps
import CypherQuery.Proofs.Substitution
import CypherQuery.Proofs.Subterms
import CypherQuery.Proofs.Template
import CypherQuery.Proofs.Template.Construct
import CypherQuery.Proofs.Template.Expression
import CypherQuery.Proofs.Template.Pattern
import CypherQuery.Proofs.TwoPass
import CypherQuery.Text.Blank
import CypherQuery.Text.Identifier
import CypherQuery.Text.StringLiteral
import CypherQuery.Text.Terminal
import CypherQuery.Value.Basic
import CypherQuery.Value.Printer
import CypherQuery.Yaml.Cursor
import CypherQuery.Yaml.Decoding
import CypherQuery.Yaml.Node
import CypherQuery.Yaml.Node.Reading
import CypherQuery.Yaml.Resolution
import CypherQuery.Yaml.Scalar.Block
import CypherQuery.Yaml.Scalar.Folding
import CypherQuery.Yaml.Scalar.Plain
import CypherQuery.Yaml.Scalar.Quoted
import CypherQuery.Yaml.Token
import CypherQuery.Yaml.Token.Properties
import CypherQuery.Yaml.Token.Reading
import CypherQuery.Proofs.WellFormed
import CypherQuery.Proofs.BuildSuccess
import CypherQuery.Proofs.Freezing
import CypherQuery.Proofs.Document.Scope
import CypherQuery.Proofs.Document.Defects
import CypherQuery.Proofs.Document.Translation
import CypherQuery.Proofs.Numbering
import CypherQuery.Proofs.Document.Aliases
import CypherQuery.Proofs.Annotation
import CypherQuery.Proofs.Prefixing
import CypherQuery.Proofs.Document.Keys
import CypherQuery.Proofs.Document.Correspondence
import CypherQuery.Proofs.FailedSteps
import CypherQuery.Proofs.Conditions
import CypherQuery.Proofs.Warnings
import CypherQuery.Proofs.NumberText
import CypherQuery.Proofs.Outline
import CypherQuery.Proofs.Outline.Expression
import CypherQuery.Proofs.PropertyBase
import CypherQuery.Proofs.ExtraParameters
import CypherQuery.Proofs.GeneratedNames
import CypherQuery.Proofs.LabelSigns
import CypherQuery.Proofs.Builders
import CypherQuery.Proofs.PathLengths
import CypherQuery.Proofs.Reading.Names
import CypherQuery.Proofs.ElementSteps
import CypherQuery.Proofs.NamingTrace
import CypherQuery.Proofs.Document.Decoding
import CypherQuery.Proofs.Document.Surveys
import CypherQuery.Proofs.Document.StrayKeys
import CypherQuery.Proofs.Reading.Literals
import CypherQuery.Proofs.NameSearch
