import RequestRouting.Blueprint.Basic
import RequestRouting.Blueprint.Build
import RequestRouting.Blueprint.MethodMapping
import RequestRouting.Condition.Consumes
import RequestRouting.Condition.Headers
import RequestRouting.Condition.MediaExpression
import RequestRouting.Condition.Methods
import RequestRouting.Condition.NameValue
import RequestRouting.Condition.Params
import RequestRouting.Condition.Paths
import RequestRouting.Condition.Produces
import RequestRouting.Config.Basic
import RequestRouting.Config.Deployment
import RequestRouting.Config.Logging
import RequestRouting.Config.ModulePrefix
import RequestRouting.Config.Source
import RequestRouting.Dictionary
import RequestRouting.Document
import RequestRouting.Error
import RequestRouting.Event
import RequestRouting.Handler.Basic
import RequestRouting.Handler.Selector
import RequestRouting.Logged
import RequestRouting.Mapping
import RequestRouting.Media.Basic
import RequestRouting.Media.Preference
import RequestRouting.Media.Reader
import RequestRouting.Method
import RequestRouting.Number.Binary32
import RequestRouting.Number.Integer
import RequestRouting.Number.Rounding
import RequestRouting.Order.SortedSet
import RequestRouting.Order.Sorting
import RequestRouting.Path.Basic
import RequestRouting.Path.Capture
import RequestRouting.Path.Constraint
import RequestRouting.Path.Pattern
import RequestRouting.Path.Specificity
import RequestRouting.Placeholder.Resolver
import RequestRouting.Placeholder.Template
import RequestRouting.Proofs.Blueprint.Building
import RequestRouting.Proofs.Blueprint.MethodMapping
import RequestRouting.Proofs.Condition.Combining
import RequestRouting.Proofs.Condition.Expressions
import RequestRouting.Proofs.Condition.Extending
import RequestRouting.Proofs.Condition.Negotiation
import RequestRouting.Proofs.Condition.Paths
import RequestRouting.Proofs.Condition.Spelling
import RequestRouting.Proofs.Dictionary
import RequestRouting.Proofs.Handler.Connectives
import RequestRouting.Proofs.Handler.Modules
import RequestRouting.Proofs.Mapping.Constructible
import RequestRouting.Proofs.Mapping.Declarations
import RequestRouting.Proofs.Mapping.Direct
import RequestRouting.Proofs.Mapping.Fit
import RequestRouting.Proofs.Mapping.HashInput
import RequestRouting.Proofs.Mapping.HeaderExpressions
import RequestRouting.Proofs.Mapping.MediaHeaders
import RequestRouting.Proofs.Mapping.Narrowing
import RequestRouting.Proofs.Mapping.Neutral
import RequestRouting.Proofs.Media.Inclusion
import RequestRouting.Proofs.Media.Listing
import RequestRouting.Proofs.Media.Preference
import RequestRouting.Proofs.Media.Reading
import RequestRouting.Proofs.Media.Rendering
import RequestRouting.Proofs.Media.Specificity
import RequestRouting.Proofs.Media.Spelling
import RequestRouting.Proofs.Number.Value
import RequestRouting.Proofs.Order.Distinct
import RequestRouting.Proofs.Order.Ranking
import RequestRouting.Proofs.Outcome
import RequestRouting.Proofs.Path.Appending
import RequestRouting.Proofs.Path.Braces
import RequestRouting.Proofs.Path.Canonical
import RequestRouting.Proofs.Path.Capturing
import RequestRouting.Proofs.Path.CatchAllRank
import RequestRouting.Proofs.Path.Constraining
import RequestRouting.Proofs.Path.Grammar
import RequestRouting.Proofs.Path.Grouping
import RequestRouting.Proofs.Path.Joining
import RequestRouting.Proofs.Path.LetterCase
import RequestRouting.Proofs.Path.Literal
import RequestRouting.Proofs.Path.Matching
import RequestRouting.Proofs.Path.Parsing
import RequestRouting.Proofs.Path.Reading
import RequestRouting.Proofs.Path.Relaxing
import RequestRouting.Proofs.Path.Rereading
import RequestRouting.Proofs.Placeholder.Balance
import RequestRouting.Proofs.Placeholder.BodyEnd
import RequestRouting.Proofs.Placeholder.Concatenation
import RequestRouting.Proofs.Placeholder.Expansion
import RequestRouting.Proofs.Placeholder.Flat
import RequestRouting.Proofs.Placeholder.Lenience
import RequestRouting.Proofs.Placeholder.References
import RequestRouting.Proofs.Placeholder.Substitution
import RequestRouting.Proofs.Placeholder.Template
import RequestRouting.Proofs.Placeholder.Termination
import RequestRouting.Proofs.Placeholder.WithoutDefaults
import RequestRouting.Proofs.Regex.Anchoring
import RequestRouting.Proofs.Regex.Building
import RequestRouting.Proofs.Regex.Closing
import RequestRouting.Proofs.Regex.Entering
import RequestRouting.Proofs.Regex.Matching
import RequestRouting.Proofs.Regex.Reading
import RequestRouting.Proofs.Regex.Rounds
import RequestRouting.Proofs.Regex.Running
import RequestRouting.Proofs.Request.Accepting
import RequestRouting.Proofs.Table.AllowedMethods
import RequestRouting.Proofs.Table.Ambiguity
import RequestRouting.Proofs.Table.Candidates
import RequestRouting.Proofs.Table.CaseInsensitive
import RequestRouting.Proofs.Table.Consistency
import RequestRouting.Proofs.Table.Diagnosis
import RequestRouting.Proofs.Table.FastPath
import RequestRouting.Proofs.Table.HeadRequests
import RequestRouting.Proofs.Table.Index
import RequestRouting.Proofs.Table.Reordering
import RequestRouting.Proofs.Table.Selection
import RequestRouting.Proofs.Tag.Arriving
import RequestRouting.Proofs.Tag.Carrying
import RequestRouting.Proofs.Tag.Conflict
import RequestRouting.Proofs.Tag.Descent
import RequestRouting.Proofs.Tag.Equating
import RequestRouting.Proofs.Tag.FirstFound
import RequestRouting.Proofs.Tag.HandingOver
import RequestRouting.Proofs.Tag.MergedAttributes
import RequestRouting.Proofs.Tag.Overriding
import RequestRouting.Proofs.Tag.Registering
import RequestRouting.Proofs.Tag.Shorthand
import RequestRouting.Proofs.Tag.Supplying
import RequestRouting.Proofs.Text.Character
import RequestRouting.Proofs.Text.Splitting
import RequestRouting.Proofs.Text.Trimming
import RequestRouting.Regex.Basic
import RequestRouting.Regex.CharSet
import RequestRouting.Regex.Footprint.Basic
import RequestRouting.Regex.Footprint.Builder
import RequestRouting.Regex.Footprint.Set
import RequestRouting.Regex.Footprint.Words
import RequestRouting.Regex.Normal
import RequestRouting.Regex.Reader
import RequestRouting.Regex.Run
import RequestRouting.Regex.Utf8
import RequestRouting.Request.Basic
import RequestRouting.Request.Header
import RequestRouting.Request.Received
import RequestRouting.Request.Target
import RequestRouting.Table.Basic
import RequestRouting.Table.ConditionIndex
import RequestRouting.Table.Diagnosis
import RequestRouting.Table.Error
import RequestRouting.Table.HashInput
import RequestRouting.Table.Lookup
import RequestRouting.Tag.AttributeMap
import RequestRouting.Tag.Basic
import RequestRouting.Tag.Builtin
import RequestRouting.Tag.Merging
import RequestRouting.Tag.Registry
import RequestRouting.Tag.Value
import RequestRouting.Text.Blank
import RequestRouting.Text.Character
import RequestRouting.Text.Form
import RequestRouting.Text.Quoted
import RequestRouting.Text.Split
import RequestRouting.Text.Unicode.Alphabetic
import RequestRouting.Text.Unicode.CaseVariants
import RequestRouting.Text.Unicode.Extender
import RequestRouting.Text.Unicode.Numeric
import RequestRouting.Text.Unicode.Printable
import RequestRouting.Text.Unicode.Uppercase
import RequestRouting.Text.Unicode.Word
import RequestRouting.Text.Utf8
