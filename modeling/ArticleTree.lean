import ArticleTree.Article
import ArticleTree.Cache.Memo
import ArticleTree.Cache.Store
import ArticleTree.Command.Arguments
import ArticleTree.Command.Line
import ArticleTree.Command.Run
import ArticleTree.Command.Service
import ArticleTree.Command.Slug
import ArticleTree.Digest.Sha256
import ArticleTree.Digest.Stable
import ArticleTree.Disk.Basic
import ArticleTree.Disk.Machine
import ArticleTree.Disk.Path
import ArticleTree.Failure
import ArticleTree.Html.Builder
import ArticleTree.Html.Parse
import ArticleTree.Html.Reference
import ArticleTree.Html.ReferenceNames
import ArticleTree.Html.Token
import ArticleTree.Html.Tokenizer
import ArticleTree.Json.Printer
import ArticleTree.Json.Range
import ArticleTree.Json.Tree
import ArticleTree.Json.Value
import ArticleTree.Json.Written
import ArticleTree.Keyed
import ArticleTree.Machine
import ArticleTree.Main
import ArticleTree.Markup.Content
import ArticleTree.Markup.Gallery
import ArticleTree.Markup.MacroName
import ArticleTree.Markup.Transclusion
import ArticleTree.Node.Basic
import ArticleTree.Node.Sequences
import ArticleTree.Pass.Chain
import ArticleTree.Pass.Guard
import ArticleTree.Pass.Walk
import ArticleTree.Proofs.Article.Again
import ArticleTree.Proofs.Article.Alike
import ArticleTree.Proofs.Article.FailFast
import ArticleTree.Proofs.Article.Fragments
import ArticleTree.Proofs.Article.Listing
import ArticleTree.Proofs.Article.NormalForm
import ArticleTree.Proofs.Article.Prose
import ArticleTree.Proofs.Article.Remains
import ArticleTree.Proofs.Article.Siblings
import ArticleTree.Proofs.Article.Stripping
import ArticleTree.Proofs.Cache.Kept
import ArticleTree.Proofs.Cache.Repeated
import ArticleTree.Proofs.Cache.Transparency
import ArticleTree.Proofs.Cache.Truthful
import ArticleTree.Proofs.Command.Batch
import ArticleTree.Proofs.Command.Conversion
import ArticleTree.Proofs.Command.FileNames
import ArticleTree.Proofs.Command.History
import ArticleTree.Proofs.Command.InDirectory
import ArticleTree.Proofs.Command.Opening
import ArticleTree.Proofs.Command.Overwriting
import ArticleTree.Proofs.Command.TidyNames
import ArticleTree.Proofs.Command.Written
import ArticleTree.Proofs.Digest.Reordered
import ArticleTree.Proofs.Digest.Separation
import ArticleTree.Proofs.Disk.Actions
import ArticleTree.Proofs.Disk.Directory
import ArticleTree.Proofs.Disk.Files
import ArticleTree.Proofs.Html.Brackets
import ArticleTree.Proofs.Html.Comments
import ArticleTree.Proofs.Html.Lengths
import ArticleTree.Proofs.Html.Neat
import ArticleTree.Proofs.Html.Nodes
import ArticleTree.Proofs.Html.RoundTrip
import ArticleTree.Proofs.Html.Seams
import ArticleTree.Proofs.Html.Stretches
import ArticleTree.Proofs.Html.Words
import ArticleTree.Proofs.Html.Writing
import ArticleTree.Proofs.Json.Arrangement
import ArticleTree.Proofs.Json.Lengths
import ArticleTree.Proofs.Json.Nesting
import ArticleTree.Proofs.Json.Ordered
import ArticleTree.Proofs.Json.Parts
import ArticleTree.Proofs.Json.Printing
import ArticleTree.Proofs.Json.ReadsAs
import ArticleTree.Proofs.Json.RoundTrip
import ArticleTree.Proofs.Json.Stable
import ArticleTree.Proofs.Json.Strings
import ArticleTree.Proofs.Json.TreeNesting
import ArticleTree.Proofs.Keyed
import ArticleTree.Proofs.Markup.Calls
import ArticleTree.Proofs.Markup.Captions
import ArticleTree.Proofs.Markup.GalleryLines
import ArticleTree.Proofs.Markup.KeptCalls
import ArticleTree.Proofs.Markup.Nesting
import ArticleTree.Proofs.Markup.Recovered
import ArticleTree.Proofs.Node.Count
import ArticleTree.Proofs.Node.Live
import ArticleTree.Proofs.Node.Ordered
import ArticleTree.Proofs.Node.Outermost
import ArticleTree.Proofs.Node.Params
import ArticleTree.Proofs.Node.Position
import ArticleTree.Proofs.Node.Prose
import ArticleTree.Proofs.Node.Slot
import ArticleTree.Proofs.Node.Traversal
import ArticleTree.Proofs.Pass.Guard
import ArticleTree.Proofs.Pass.InTurn
import ArticleTree.Proofs.Pass.Judgement
import ArticleTree.Proofs.Pass.Leaves
import ArticleTree.Proofs.Pass.Pruned
import ArticleTree.Proofs.Pass.Rewritten
import ArticleTree.Proofs.Pass.Visits
import ArticleTree.Proofs.Pass.Walk
import ArticleTree.Proofs.Session.Echo
import ArticleTree.Proofs.Session.FailFast
import ArticleTree.Proofs.Session.InOrder
import ArticleTree.Proofs.Session.Log
import ArticleTree.Proofs.Session.Returns
import ArticleTree.Proofs.Stages.Claim
import ArticleTree.Proofs.Stages.Confined
import ArticleTree.Proofs.Stages.DisplayFormula
import ArticleTree.Proofs.Stages.Early
import ArticleTree.Proofs.Stages.HeadingAnchors
import ArticleTree.Proofs.Stages.Judgements
import ArticleTree.Proofs.Stages.Late
import ArticleTree.Proofs.Stages.ListItems
import ArticleTree.Proofs.Stages.Merging
import ArticleTree.Proofs.Stages.Numbering
import ArticleTree.Proofs.Stages.Picking
import ArticleTree.Proofs.Text.Affix
import ArticleTree.Proofs.Text.Blank
import ArticleTree.Proofs.Text.ByteOrder
import ArticleTree.Proofs.Text.Lines
import ArticleTree.Proofs.Text.Lower
import ArticleTree.Proofs.Url.Additions
import ArticleTree.Proofs.Url.Percent
import ArticleTree.Proofs.Wiki.RenderUrl
import ArticleTree.Proofs.Wiki.Told
import ArticleTree.Session
import ArticleTree.Settings.Basic
import ArticleTree.Settings.Document
import ArticleTree.Settings.File
import ArticleTree.Stages.Anchors
import ArticleTree.Stages.Blocks
import ArticleTree.Stages.Formulas
import ArticleTree.Stages.Kinds
import ArticleTree.Stages.Macros
import ArticleTree.Stages.NumberedParams
import ArticleTree.Text.Affix
import ArticleTree.Text.Blank
import ArticleTree.Text.Decimal
import ArticleTree.Text.Digits
import ArticleTree.Text.Graphic
import ArticleTree.Text.Letter
import ArticleTree.Text.Quoted
import ArticleTree.Text.Ranges
import ArticleTree.Text.Utf8
import ArticleTree.Toml.Document
import ArticleTree.Toml.Grammar
import ArticleTree.Toml.Lexis
import ArticleTree.Toml.Printer
import ArticleTree.Toml.Record
import ArticleTree.Toml.Scalar
import ArticleTree.Toml.Value
import ArticleTree.Url.Basic
import ArticleTree.Url.Domain
import ArticleTree.Url.Host
import ArticleTree.Url.Parse
import ArticleTree.Url.Percent
import ArticleTree.Url.Punycode
import ArticleTree.Wiki.Client
import ArticleTree.Wiki.Http
import ArticleTree.Wiki.Reply
