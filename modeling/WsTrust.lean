import WsTrust.AppliesTo
import WsTrust.AttributeMap
import WsTrust.Body
import WsTrust.Calendar
import WsTrust.CommandLine.Fault
import WsTrust.CommandLine.Invocation
import WsTrust.CommandLine.Outcome
import WsTrust.CommandLine.Run
import WsTrust.ConfigValue
import WsTrust.Configuration
import WsTrust.Cursor
import WsTrust.Element
import WsTrust.Element.Written
import WsTrust.Extension
import WsTrust.Extension.Readers
import WsTrust.Failure
import WsTrust.Fragment
import WsTrust.Interrupted
import WsTrust.Item
import WsTrust.Json
import WsTrust.KeyMaterial
import WsTrust.Lifetime
import WsTrust.Main
import WsTrust.Payload
import WsTrust.Payload.Json
import WsTrust.Payload.Summary
import WsTrust.Proofs.AttributeInsertions
import WsTrust.Proofs.AttributeOrder
import WsTrust.Proofs.Bindings
import WsTrust.Proofs.Body
import WsTrust.Proofs.CalendarDates
import WsTrust.Proofs.CaptureLimits
import WsTrust.Proofs.Captured
import WsTrust.Proofs.ChildEnds
import WsTrust.Proofs.ChildOrder
import WsTrust.Proofs.ChunkedMessages
import WsTrust.Proofs.Chunks
import WsTrust.Proofs.Collection
import WsTrust.Proofs.CommentedMessages
import WsTrust.Proofs.Comments
import WsTrust.Proofs.Comparison
import WsTrust.Proofs.Compositions
import WsTrust.Proofs.Confinement
import WsTrust.Proofs.Content
import WsTrust.Proofs.Continuations
import WsTrust.Proofs.Correspondence
import WsTrust.Proofs.Delivery
import WsTrust.Proofs.DividedReaders
import WsTrust.Proofs.DividedTexts
import WsTrust.Proofs.DocumentContexts
import WsTrust.Proofs.DocumentItems
import WsTrust.Proofs.ElementWise
import WsTrust.Proofs.EndpointAddress
import WsTrust.Proofs.Escaping
import WsTrust.Proofs.ExactNumbers
import WsTrust.Proofs.Fields
import WsTrust.Proofs.ForwardMotion
import WsTrust.Proofs.FragmentLists
import WsTrust.Proofs.Fragments
import WsTrust.Proofs.JoinedTexts
import WsTrust.Proofs.JsonObjects
import WsTrust.Proofs.JsonText
import WsTrust.Proofs.Leaves
import WsTrust.Proofs.Levels
import WsTrust.Proofs.Likeness
import WsTrust.Proofs.Lockstep
import WsTrust.Proofs.LookingAhead
import WsTrust.Proofs.LostBlanks
import WsTrust.Proofs.MappedFragments
import WsTrust.Proofs.MarkupEnds
import WsTrust.Proofs.Nesting
import WsTrust.Proofs.NestingLimit
import WsTrust.Proofs.Numerals
import WsTrust.Proofs.Postconditions
import WsTrust.Proofs.PrefixedMessages
import WsTrust.Proofs.Prefixes
import WsTrust.Proofs.Prepared
import WsTrust.Proofs.Programs
import WsTrust.Proofs.Progress
import WsTrust.Proofs.ReadBack
import WsTrust.Proofs.Reading
import WsTrust.Proofs.Recapture
import WsTrust.Proofs.RecordFields
import WsTrust.Proofs.RecordOpenings
import WsTrust.Proofs.RecordOrder
import WsTrust.Proofs.ReferenceAttributes
import WsTrust.Proofs.Refusals
import WsTrust.Proofs.Registration
import WsTrust.Proofs.Reinterpretation
import WsTrust.Proofs.Repetition
import WsTrust.Proofs.RoundTrip
import WsTrust.Proofs.SharedChildren
import WsTrust.Proofs.SharedContent
import WsTrust.Proofs.Shortage
import WsTrust.Proofs.ShownFragments
import WsTrust.Proofs.ShownMessages
import WsTrust.Proofs.ShownParts
import WsTrust.Proofs.SkippedElements
import WsTrust.Proofs.StartTags
import WsTrust.Proofs.Statements
import WsTrust.Proofs.StatusGrammar
import WsTrust.Proofs.SummaryLines
import WsTrust.Proofs.Tags
import WsTrust.Proofs.Termination
import WsTrust.Proofs.TextRuns
import WsTrust.Proofs.Texts
import WsTrust.Proofs.TimestampReadings
import WsTrust.Proofs.TrimmedMessages
import WsTrust.Proofs.Trimming
import WsTrust.Proofs.Truncation
import WsTrust.Proofs.UriCharacters
import WsTrust.Proofs.ValidRecords
import WsTrust.Proofs.Validation
import WsTrust.Proofs.Values
import WsTrust.Proofs.Wrappers
import WsTrust.Proofs.Writing
import WsTrust.Proofs.WrittenContext
import WsTrust.Proofs.WrittenItems
import WsTrust.Proofs.WrittenNames
import WsTrust.Proofs.XmlNames
import WsTrust.QName
import WsTrust.Request
import WsTrust.Response
import WsTrust.Scalar
import WsTrust.SecurityToken
import WsTrust.Settings
import WsTrust.Status
import WsTrust.Terms
import WsTrust.Text.Ascii
import WsTrust.Text.Blank
import WsTrust.Text.ByteOrderMark
import WsTrust.Text.Bytes
import WsTrust.Text.CodeRange
import WsTrust.Text.Numeral
import WsTrust.Text.Split
import WsTrust.Timestamp
import WsTrust.Token
import WsTrust.TokenReference
import WsTrust.TokenStream
import WsTrust.Toml.Document
import WsTrust.Toml.Moment
import WsTrust.Toml.Numeral
import WsTrust.Toml.Quoted
import WsTrust.Toml.Scan
import WsTrust.Toml.Table
import WsTrust.Toml.Value
import WsTrust.Uri
import WsTrust.Uri.Host
import WsTrust.Uri.Parts
import WsTrust.Url
import WsTrust.Url.Address
import WsTrust.Url.Domain
import WsTrust.Url.Domain.Composition
import WsTrust.Url.Domain.Direction
import WsTrust.Url.Domain.Joining
import WsTrust.Url.Domain.Mark
import WsTrust.Url.Domain.Replacement
import WsTrust.Url.Domain.ReplacementTable
import WsTrust.Url.Path
import WsTrust.Url.Punycode
import WsTrust.Vocabulary
import WsTrust.Xml.Attribute
import WsTrust.Xml.Document
import WsTrust.Xml.Fault
import WsTrust.Xml.Markup
import WsTrust.Xml.Reference
import WsTrust.Xml.Scope
