import DocMarkup.Site
import DocMarkup.Proofs.Region.Marker
import DocMarkup.Proofs.Region.Selection
import DocMarkup.Proofs.Text.Run
import DocMarkup.Proofs.Xml.RawName
import DocMarkup.Proofs.Xml.Construct
import DocMarkup.Proofs.Forest
import DocMarkup.Proofs.Xml.Event
import DocMarkup.Proofs.Xml.Assembly
import DocMarkup.Proofs.Xml.Expansion
import DocMarkup.Proofs.Xml.Content
import DocMarkup.Proofs.Text.Breaks
import DocMarkup.Proofs.Xml.Spelling
import DocMarkup.Proofs.Assoc
import DocMarkup.Proofs.Xml.Prefix
import DocMarkup.Proofs.Xml.RoundTrip
import DocMarkup.Proofs.Html.Grammar
import DocMarkup.Proofs.Render.Table
import DocMarkup.Proofs.Render.Rendered
import DocMarkup.Proofs.Comment.Member
import DocMarkup.Proofs.Comment.Build
import DocMarkup.Proofs.Xml.Root
import DocMarkup.Proofs.Xml.Doctype
import DocMarkup.Proofs.Xml.Document
import DocMarkup.Proofs.Xml.Readable
import DocMarkup.Proofs.Comment.Notices
import DocMarkup.Proofs.Batch
import DocMarkup.Proofs.Comment.File
import DocMarkup.Proofs.Comment.Markup
import DocMarkup.Proofs.Comment.Related
import DocMarkup.Proofs.Comment.Answers
import DocMarkup.Proofs.Batch.Pool
import DocMarkup.Proofs.File.Source
import DocMarkup.Proofs.Text.Lines
import DocMarkup.Proofs.Text.Indent
import DocMarkup.Proofs.Region.Indented
import DocMarkup.Proofs.Trace.Laws
import DocMarkup.Proofs.Render.Adjacent
import DocMarkup.Proofs.Comment.Joined
import DocMarkup.Proofs.Config.Merge
import DocMarkup.Proofs.Comment.Grouped
import DocMarkup.Proofs.Render.Reference
import DocMarkup.Proofs.Link.Map
import DocMarkup.Proofs.Yaml.Placed.Cursor
import DocMarkup.Proofs.Yaml.Placed.Token
import DocMarkup.Proofs.Trace.Order
import DocMarkup.Proofs.Comment.Stages
import DocMarkup.Proofs.File.Length
import DocMarkup.Proofs.Encoding.Fault
import DocMarkup.Proofs.File.Reading
import DocMarkup.Proofs.Comment.Asked
import DocMarkup.Proofs.Comment.Loaded
import DocMarkup.Proofs.Text.LineEnd
import DocMarkup.Proofs.Text.Dedent
import DocMarkup.Proofs.Region.LineEnd
import DocMarkup.Proofs.Trace.Begun
import DocMarkup.Proofs.Fragment.Outermost
import DocMarkup.Proofs.Comment.SeeAlso
import DocMarkup.Proofs.Render.Walk
import DocMarkup.Proofs.Render.Visited
import DocMarkup.Proofs.Fragment.Bare
import DocMarkup.Proofs.Render.Unrecognized
import DocMarkup.Proofs.Region.Missing
import DocMarkup.Proofs.Yaml.Placed.Scalar
import DocMarkup.Proofs.Yaml.Placed.Block
import DocMarkup.Proofs.Yaml.Layout
import DocMarkup.Proofs.Yaml.Placed.Layout
import DocMarkup.Proofs.Yaml.Bracket
import DocMarkup.Proofs.Link.Header
import DocMarkup.Proofs.Comment.Listing
import DocMarkup.Proofs.Text.CommonIndentation
import DocMarkup.Proofs.Region.Pattern
