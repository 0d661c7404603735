import MarkupFeed.Main
import MarkupFeed.Markup.Chain
import MarkupFeed.Proofs.Feed.Passes
import MarkupFeed.Proofs.Format.Events
import MarkupFeed.Proofs.Mailbox.RoundTrip
import MarkupFeed.Text.Runs.Lemmas
import MarkupFeed.Proofs.Post.Order
import MarkupFeed.Proofs.Post.Policy
import MarkupFeed.Proofs.Sink
import MarkupFeed.Proofs.Tokenizer.Invariant
import MarkupFeed.Proofs.Markup.Rendering
import MarkupFeed.Proofs.Markup.Decorator
import MarkupFeed.Proofs.Markup.Chain
import MarkupFeed.Proofs.Format.Breaks
import MarkupFeed.Proofs.Mailbox.Count
import MarkupFeed.Proofs.Feed.Intake
import MarkupFeed.Proofs.Mailbox.Joining
import MarkupFeed.Proofs.Markup.Entity
import MarkupFeed.Proofs.Tokenizer.Continuations
import MarkupFeed.Proofs.Markup.Brackets
import MarkupFeed.Proofs.Markup.Spans
import MarkupFeed.Proofs.Mailbox.Successive
import MarkupFeed.Proofs.Feed.Publishing
import MarkupFeed.Proofs.Feed.Tags
import MarkupFeed.Proofs.DiagnosticTable
import MarkupFeed.Proofs.Feed.Republishing
import MarkupFeed.Proofs.Format.Lines
import MarkupFeed.Proofs.Format.Fragments
import MarkupFeed.Proofs.Format.Joining
import MarkupFeed.Proofs.Format.Restarting
import MarkupFeed.Proofs.Format.Quotes
import MarkupFeed.Proofs.Format.NumberEnds
import MarkupFeed.Proofs.Format.ErrorEnds
import MarkupFeed.Proofs.Format.Identifiers
import MarkupFeed.Proofs.Format.Comments
import MarkupFeed.Proofs.Format.TagMode
import MarkupFeed.Proofs.Mailbox.Malformed
import MarkupFeed.Proofs.Format.ShellComments
import MarkupFeed.Proofs.Format.FileNames
import MarkupFeed.Proofs.Markup.Anchors
import MarkupFeed.Proofs.Format.MarkdownLines
import MarkupFeed.Proofs.Format.ShellEscapes
import MarkupFeed.Proofs.Post.Pages
import MarkupFeed.Proofs.Markup.Escaper
import MarkupFeed.Proofs.Format.Wholes
import MarkupFeed.Proofs.Format.AttributeValues
import MarkupFeed.Proofs.Markup.Targets
import MarkupFeed.Proofs.Text.Faults
import MarkupFeed.Proofs.Markup.Linking
import MarkupFeed.Proofs.Post.Groups
import MarkupFeed.Proofs.Post.Compaction
import MarkupFeed.Proofs.Feed.Indexing
import MarkupFeed.Proofs.Post.Thread
import MarkupFeed.Proofs.Link.Lookups
import MarkupFeed.Proofs.Markup.Failures
import MarkupFeed.Proofs.Format.Refusals
