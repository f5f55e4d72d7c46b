import WebClip.Article
import WebClip.Article.OfFile
import WebClip.Asset
import WebClip.Budget
import WebClip.Bytes.Base64
import WebClip.Bytes.Percent
import WebClip.Bytes.Sha256
import WebClip.Bytes.Utf8
import WebClip.Chunk
import WebClip.Command
import WebClip.Command.Given
import WebClip.Command.Job
import WebClip.Command.Screen
import WebClip.Command.Signature
import WebClip.Config
import WebClip.Fault
import WebClip.File
import WebClip.History
import WebClip.Html.Markup
import WebClip.Html.Reference
import WebClip.Html.ReferenceNames
import WebClip.Html.Visible
import WebClip.Image.Download
import WebClip.Image.Lifecycle
import WebClip.Image.Resolve
import WebClip.Json.Read
import WebClip.Json.Write
import WebClip.Main
import WebClip.Mapping
import WebClip.Mapping.OfSchema
import WebClip.Markdown.Draft
import WebClip.Markdown.Inline
import WebClip.Markdown.Line
import WebClip.Markdown.Marker
import WebClip.Markdown.Piece
import WebClip.Markdown.Read
import WebClip.Markdown.Tag
import WebClip.Markdown.Target
import WebClip.Markdown.Token
import WebClip.MediaType
import WebClip.Moment
import WebClip.Notice
import WebClip.Number.Numeral
import WebClip.Number.Shortest
import WebClip.Page.Block
import WebClip.Page.Compile
import WebClip.Page.Document
import WebClip.Page.Draft
import WebClip.Page.Language
import WebClip.Page.Link
import WebClip.Page.Node
import WebClip.Page.Node.OfBlocks
import WebClip.Page.Run
import WebClip.Page.Span
import WebClip.Page.Span.OfInline
import WebClip.Proofs.Actions
import WebClip.Proofs.Chunks
import WebClip.Proofs.Limits
import WebClip.Proofs.Pages
import WebClip.Proofs.Paths
import WebClip.Proofs.Requests
import WebClip.Proofs.Resolving
import WebClip.Proofs.Runs
import WebClip.Property
import WebClip.Save
import WebClip.Service.Client
import WebClip.Service.Reply
import WebClip.Service.Request
import WebClip.Session
import WebClip.Settings
import WebClip.Sweep
import WebClip.Text.Blank
import WebClip.Text.Digit
import WebClip.Text.LowerCase
import WebClip.Text.Printable
import WebClip.Text.Punctuation
import WebClip.Toml.Read
import WebClip.Toml.Write
import WebClip.Url.Host
import WebClip.Url.Parts
import WebClip.Value
import WebClip.Value.Display
import WebClip.Value.Number
import WebClip.Proofs.Saves
import WebClip.Proofs.Placement
import WebClip.Proofs.Reading
import WebClip.Proofs.Courses
import WebClip.Proofs.Targets
import WebClip.Proofs.Batches
import WebClip.Proofs.Fates
import WebClip.Proofs.Sweeping
import WebClip.Proofs.Tallies
import WebClip.Proofs.Trees
import WebClip.Proofs.Coverage
import WebClip.Value.Written
import WebClip.Proofs.Windows
import WebClip.Proofs.Grants
import WebClip.Proofs.Fields
import WebClip.Proofs.Returns
import WebClip.Proofs.Servers
import WebClip.Proofs.Effects
import WebClip.Proofs.Repeats
import WebClip.Proofs.Absorbing
import WebClip.Proofs.Composing
import WebClip.Proofs.Captions
import WebClip.Proofs.Counts
import WebClip.Proofs.Agreement
import WebClip.Proofs.Lives
import WebClip.Proofs.Schedules
import WebClip.Proofs.Bindings
import WebClip.Proofs.JsonTexts
import WebClip.Proofs.Histories
import WebClip.Proofs.Sameness
import WebClip.Proofs.TomlTables
import WebClip.Proofs.Rewriting
import WebClip.Proofs.Configurations
import WebClip.Proofs.Merging
import WebClip.Proofs.Admissions
import WebClip.Proofs.Appending
import WebClip.Proofs.Excerpts
import WebClip.Proofs.PropertyLimits
import WebClip.Proofs.Reloading
import WebClip.Proofs.Sites
import WebClip.Proofs.Trimming
import WebClip.Proofs.MarkupImages
import WebClip.Proofs.CodeTexts
import WebClip.Proofs.Entries
import WebClip.Proofs.Uploading
import WebClip.Proofs.Numerals
import WebClip.Proofs.JsonNumbers
import WebClip.Proofs.Rebuilding
import WebClip.Proofs.Guarding
import WebClip.Proofs.Encodings
import WebClip.Proofs.DataUrls
import WebClip.Proofs.Failures
import WebClip.Proofs.Outlines
import WebClip.Proofs.Cursors
import WebClip.Proofs.Partitions
import WebClip.Proofs.Inheriting
import WebClip.Proofs.FileNames
import WebClip.Proofs.Readings
import WebClip.Proofs.Headings
import WebClip.Proofs.Titles
