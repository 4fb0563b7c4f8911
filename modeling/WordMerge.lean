import WordMerge.Archive.Checksum
import WordMerge.Archive.CodePage
import WordMerge.Archive.Deflate
import WordMerge.Archive.Directory
import WordMerge.Archive.Entry
import WordMerge.Archive.Extra
import WordMerge.Archive.Reading
import WordMerge.Archive.Writing
import WordMerge.CommandLine.Options
import WordMerge.CommandLine.Reading
import WordMerge.Decimal.Double
import WordMerge.Decimal.Shortest
import WordMerge.Fetch.Basic
import WordMerge.Fetch.Retrieval
import WordMerge.Json.Reader
import WordMerge.Json.Value
import WordMerge.Json.Writer
import WordMerge.Location.Basic
import WordMerge.Location.Host
import WordMerge.Location.Label
import WordMerge.Location.Path
import WordMerge.Location.Percent
import WordMerge.Location.Policy
import WordMerge.Location.Punycode
import WordMerge.Location.Reading
import WordMerge.Main
import WordMerge.Markup.Cell
import WordMerge.Markup.Edge
import WordMerge.Markup.Entity
import WordMerge.Markup.Item
import WordMerge.Markup.PlainText
import WordMerge.Markup.Preserve
import WordMerge.Package.Basic
import WordMerge.Package.Render
import WordMerge.Proofs.Markup.Cut
import WordMerge.Proofs.Template.SectionGrammar
import WordMerge.Proofs.Template.SectionReading
import WordMerge.Proofs.Template.Tree
import WordMerge.Render.Draft
import WordMerge.Render.Part
import WordMerge.Render.Scope
import WordMerge.Service.ByteRange
import WordMerge.Service.Disposition
import WordMerge.Service.FileName
import WordMerge.Service.FileType
import WordMerge.Service.HeaderField
import WordMerge.Service.Hosting
import WordMerge.Service.MediaType
import WordMerge.Service.Message
import WordMerge.Service.Moment
import WordMerge.Service.RenderRequest
import WordMerge.Service.Routing
import WordMerge.Service.ServiceError
import WordMerge.Template.Balance
import WordMerge.Template.Fault
import WordMerge.Template.Layout
import WordMerge.Template.Nesting
import WordMerge.Template.Node
import WordMerge.Template.Reading
import WordMerge.Template.Tag
import WordMerge.Template.Widening
import WordMerge.Text.Basic
import WordMerge.Text.Blank
import WordMerge.Text.Unsigned
import WordMerge.Text.Utf8
import WordMerge.Unicode.Decomposition
import WordMerge.Unicode.Direction
import WordMerge.Unicode.Joining
import WordMerge.Unicode.NameFold
import WordMerge.Unicode.Normal
import WordMerge.Unicode.RangeTable
import WordMerge.Proofs.Markup.Scan
import WordMerge.Proofs.Markup.Elements
import WordMerge.Proofs.Markup.TextElement
import WordMerge.Proofs.Markup.Enclosure
import WordMerge.Proofs.Template.Placement
import WordMerge.Proofs.Template.WidenedOrder
import WordMerge.Proofs.Markup.CellRepair
import WordMerge.Proofs.Render.Structure
import WordMerge.Proofs.Render.WellFormed
import WordMerge.Proofs.Markup.References
import WordMerge.Proofs.Markup.ShownText
import WordMerge.Proofs.Render.TemplateText
import WordMerge.Proofs.Template.Spelling
import WordMerge.Proofs.Template.Lossless
import WordMerge.Proofs.Archive.Records
import WordMerge.Proofs.Text.Utf8
import WordMerge.Proofs.Archive.StoredBlocks
import WordMerge.Proofs.Archive.RoundTrip
import WordMerge.Proofs.Package.Opening
import WordMerge.Proofs.Package.Rendering
import WordMerge.Proofs.Package.Parts
import WordMerge.Proofs.Template.Surroundings
import WordMerge.Proofs.Template.Conservation
import WordMerge.Proofs.Template.SectionPlaces
import WordMerge.Proofs.Template.Partners
import WordMerge.Proofs.Template.WidenedNesting
import WordMerge.Proofs.Template.Balancing
import WordMerge.Proofs.Render.Alike
import WordMerge.Proofs.Template.Counterparts
import WordMerge.Proofs.Template.SplitReading
import WordMerge.Proofs.Template.SplitOrder
import WordMerge.Proofs.Template.Runs
import WordMerge.Proofs.Render.RunSplitting
import WordMerge.Proofs.Template.Pieces
import WordMerge.Proofs.Template.TagNames
import WordMerge.Proofs.Render.Relevance
import WordMerge.Proofs.Service.Responses
import WordMerge.Proofs.Service.Classification
import WordMerge.Proofs.Package.Insertion
import WordMerge.Proofs.Template.Braces
import WordMerge.Proofs.Render.PlainData
import WordMerge.Proofs.Render.Finished
import WordMerge.Proofs.Fetch.Requests
import WordMerge.Proofs.Service.Keys
import WordMerge.Proofs.Template.Confinement
import WordMerge.Proofs.Template.SpaceMarks
import WordMerge.Proofs.Template.Recovery
import WordMerge.Proofs.Render.Failures
import WordMerge.Proofs.Template.Succession
import WordMerge.Proofs.Template.Rows
import WordMerge.Proofs.Template.Pairing
import WordMerge.Proofs.Template.Arrivals
import WordMerge.Proofs.Render.Repetition
import WordMerge.Proofs.Render.RowLoops
import WordMerge.Proofs.Template.LoneTags
import WordMerge.Proofs.Template.Framing
import WordMerge.Proofs.Render.ParagraphLoops
import WordMerge.Proofs.Markup.CellParagraphs
import WordMerge.Proofs.Render.LineBreaks
import WordMerge.Proofs.Render.LegalText
import WordMerge.Proofs.Markup.EmptyElements
import WordMerge.Proofs.Markup.Boundaries
import WordMerge.Proofs.Markup.Lexemes
import WordMerge.Proofs.Fetch.RedirectLimit
import WordMerge.Proofs.Text.Trimming
import WordMerge.Proofs.Location.Percent
import WordMerge.Proofs.Service.FileNames
import WordMerge.Proofs.Service.DownloadNames
import WordMerge.Proofs.Render.Shadowing
import WordMerge.Proofs.Location.HostList
import WordMerge.Proofs.Fetch.SizeLimit
import WordMerge.Proofs.Template.Spans
import WordMerge.Proofs.Template.Rearrangement
import WordMerge.Proofs.Template.TreePlaces
