import Handoff.Dict
import Handoff.Decimal.Binary
import Handoff.Decimal.Notation
import Handoff.Decimal.Reader
import Handoff.Text.Chars
import Handoff.Text.Lowercase
import Handoff.Text.Basic
import Handoff.Utility.Scale
import Handoff.Utility.Color
import Handoff.Utility.Layout
import Handoff.Utility.Surface
import Handoff.Utility.Declaration
import Handoff.ClassList.Basic
import Handoff.ClassList.Group
import Handoff.ClassList.Spacing
import Handoff.ClassList.Cleanup
import Handoff.ClassList.Modern
import Handoff.Json.Basic
import Handoff.Json.Number
import Handoff.Json.Parser
import Handoff.Json.Printer
import Handoff.Json.Decode
import Handoff.Naming.Case
import Handoff.Naming.Unique
import Handoff.Text.Escape
import Handoff.Design.Kind
import Handoff.Design.Paint
import Handoff.Design.Layout
import Handoff.Design.Typography
import Handoff.Design.Node
import Handoff.Design.Reader
import Handoff.Fault
import Handoff.Design.Document
import Handoff.Design.View
import Handoff.Style
import Handoff.Variables
import Handoff.Styled.Node
import Handoff.Styled.View
import Handoff.Styled.Overlay
import Handoff.Styling.General
import Handoff.Styling.Layout
import Handoff.Styling.Paint
import Handoff.Styling.Typography
import Handoff.Styling.Group
import Handoff.Styling.Session
import Handoff.Framework
import Handoff.Rule.Basic
import Handoff.Rule.Evaluation
import Handoff.Rule.Reader
import Handoff.Yaml.Glyph
import Handoff.Yaml.Token
import Handoff.Yaml.Token.Name
import Handoff.Yaml.Token.Quoted
import Handoff.Yaml.Token.Plain
import Handoff.Yaml.Token.Block
import Handoff.Yaml.Scalar
import Handoff.Yaml.Token.Lexer
import Handoff.Yaml.Node
import Handoff.Yaml.Node.Parser
import Handoff.Yaml.Value
import Handoff.Svg
import Handoff.Asset
import Handoff.Font
import Handoff.Markup
import Handoff.Generation.Request
import Handoff.Generation.Attributes
import Handoff.Generation.Code
import Handoff.React.Drawings
import Handoff.React.Props
import Handoff.React.Element
import Handoff.React.Component
import Handoff.Html.Page
import Handoff.Text.Bytes
import Handoff.Unicode.Table
import Handoff.Unicode.Composition
import Handoff.Unicode.Direction
import Handoff.Url.Punycode
import Handoff.Url.DomainMapping
import Handoff.Url.Domain
import Handoff.Url.Host
import Handoff.Url.Basic
import Handoff.Files
import Handoff.Resource
import Handoff.Service
import Handoff.Toml.Scalar
import Handoff.Toml.Date
import Handoff.Toml.Document
import Handoff.Duration
import Handoff.Settings
import Handoff.Report
import Handoff.Command.Arguments
import Handoff.Command.Run
import Handoff.Moment
import Handoff.Main
import Handoff.Proofs.Design.Walk
import Handoff.Proofs.Styling.Role
import Handoff.Proofs.Styling.Content
import Handoff.Proofs.Naming.Issued
import Handoff.Proofs.Styling.Names
import Handoff.Proofs.Rule.Priority
import Handoff.Proofs.ClassList.Variants
import Handoff.Proofs.ClassList.Setting
import Handoff.Proofs.ClassList.Effective
import Handoff.Proofs.ClassList.Joined
import Handoff.Proofs.ClassList.Spacing
import Handoff.Proofs.Markup.Walk
import Handoff.Proofs.Markup.Attributes
import Handoff.Proofs.Rule.Spelling
import Handoff.Proofs.Styled.Written
import Handoff.Proofs.Styled.Overlapped
import Handoff.Proofs.Html.Elements
import Handoff.Proofs.React.Elements
import Handoff.Proofs.Styling.Bare
import Handoff.Proofs.Generation.Elements
import Handoff.Proofs.Styling.Hidden
import Handoff.Proofs.Styling.Position
import Handoff.Proofs.Styling.Containing
import Handoff.Proofs.Styling.Declarations
import Handoff.Proofs.Styling.Cells
import Handoff.Proofs.Naming.Kebab
import Handoff.Proofs.Html.ClassNames
import Handoff.Proofs.Naming.Fresh
import Handoff.Proofs.Naming.Spelled
import Handoff.Proofs.React.Expressions
import Handoff.Proofs.React.Scope
import Handoff.Proofs.Design.WellFormed
import Handoff.Proofs.Styling.Texts
import Handoff.Proofs.Styling.Overlaid
import Handoff.Proofs.Generation.Needs
import Handoff.Proofs.Generation.Walks
import Handoff.Proofs.Generation.Texts
import Handoff.Proofs.React.Lookups
import Handoff.Proofs.Html.Lookups
import Handoff.Proofs.Html.Stylesheet
import Handoff.Proofs.Generation.Collection
import Handoff.Proofs.Styled.Shown
import Handoff.Proofs.React.Drawings
import Handoff.Proofs.Text.Members
import Handoff.Proofs.ClassList.Passes
import Handoff.Proofs.ClassList.Tidied
import Handoff.Proofs.ClassList.Words
import Handoff.Proofs.ClassList.Unquoted
import Handoff.Proofs.Styled.Presence
import Handoff.Proofs.Generation.Masks
import Handoff.Proofs.Generation.Presence
import Handoff.Proofs.Text.Balanced
import Handoff.Proofs.Text.Enclosed
import Handoff.Proofs.Text.Numerals
import Handoff.Proofs.Text.Unquoted
import Handoff.Proofs.Naming.Ordinary
import Handoff.Proofs.Utility.Unquoted
import Handoff.Proofs.ClassList.Pieces
import Handoff.Proofs.Utility.Leads
import Handoff.Proofs.Utility.LeadTable
import Handoff.Proofs.ClassList.Margins
import Handoff.Proofs.Markup.Delimited
import Handoff.Proofs.React.Unquoted
import Handoff.Proofs.React.Delimited
import Handoff.Proofs.Html.Delimited
import Handoff.Proofs.Generation.Delimited
import Handoff.Proofs.Styling.Values
import Handoff.Proofs.Generation.Placement
import Handoff.Proofs.Generation.Opacity
import Handoff.Proofs.Generation.Layers
import Handoff.Proofs.Generation.Overlap
import Handoff.Proofs.Design.Lenient
import Handoff.Proofs.React.Bindings
import Handoff.Proofs.React.Named
import Handoff.Proofs.React.References
import Handoff.Proofs.Text.Decoded
import Handoff.Proofs.Text.Encoded
import Handoff.Proofs.React.Seen
import Handoff.Proofs.Generation.Carried
import Handoff.Proofs.Generation.Resolved
import Handoff.Proofs.Styling.Inherited
import Handoff.Proofs.Styling.Turned
import Handoff.Proofs.Naming.Properties
import Handoff.Proofs.Variables.References
import Handoff.Proofs.Styling.Stacked
import Handoff.Proofs.Styling.Drawn
import Handoff.Proofs.Styling.Siblings
import Handoff.Proofs.Styling.Effects
import Handoff.Proofs.Styling.Faded
import Handoff.Proofs.Decimal.Doubles
import Handoff.Proofs.Json.Spelling
import Handoff.Proofs.Rule.Respelled
import Handoff.Proofs.Rule.Conflicts
import Handoff.Proofs.ClassList.Shorthand
import Handoff.Proofs.ClassList.Important
import Handoff.Proofs.ClassList.Represented
import Handoff.Proofs.ClassList.Consolidated
import Handoff.Proofs.ClassList.Reattached
import Handoff.Proofs.Utility.Brackets
import Handoff.Proofs.Utility.Intact
import Handoff.Proofs.Utility.Groups
import Handoff.Proofs.Styling.Sourced
import Handoff.Proofs.Text.Utf8
import Handoff.Proofs.Font.Requested
