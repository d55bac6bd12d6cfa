import TemplatedNotes.Main
import TemplatedNotes.Proofs.Action
import TemplatedNotes.Proofs.Section.Line
import TemplatedNotes.Proofs.Section.Mark
import TemplatedNotes.Proofs.Section.Reading
import TemplatedNotes.Proofs.Expansion.Walk
import TemplatedNotes.Proofs.Expansion.Splice
import TemplatedNotes.Proofs.Section.Block
import TemplatedNotes.Proofs.Literal.Token
import TemplatedNotes.Proofs.Literal.Parser
import TemplatedNotes.Proofs.Script.Missing
import TemplatedNotes.Proofs.Expansion.Reread
import TemplatedNotes.Proofs.Expansion.Idempotence
import TemplatedNotes.Proofs.Vault.Disk
import TemplatedNotes.Proofs.Vault.Write
import TemplatedNotes.Proofs.Vault.Path
import TemplatedNotes.Proofs.Vault.Tree
import TemplatedNotes.Proofs.Vault.Inside
import TemplatedNotes.Proofs.Vault.Link
import TemplatedNotes.Proofs.Update
import TemplatedNotes.Proofs.Section.Fence
import TemplatedNotes.Proofs.Section.QuickLook
import TemplatedNotes.Proofs.UpdateAll
import TemplatedNotes.Proofs.Literal.Refusal
import TemplatedNotes.Proofs.Malformed
import TemplatedNotes.Proofs.Literal.Pairs
import TemplatedNotes.Proofs.Marker
import TemplatedNotes.Proofs.Expansion.Outside
import TemplatedNotes.Proofs.Expansion.Rounds
import TemplatedNotes.Proofs.Template
import TemplatedNotes.Proofs.Value
import TemplatedNotes.Proofs.Script.Sparing
import TemplatedNotes.Proofs.Script.Shared
import TemplatedNotes.Proofs.Expansion.Independence
import TemplatedNotes.Proofs.Literal.Grammar
import TemplatedNotes.Proofs.Literal.Nesting
import TemplatedNotes.Proofs.Page
import TemplatedNotes.Proofs.Text.Utf8
import TemplatedNotes.Proofs.Literal.Quoted
import TemplatedNotes.Proofs.Section.Insertion
import TemplatedNotes.Proofs.Text.Pieces
import TemplatedNotes.Proofs.Vault.Saved
import TemplatedNotes.Proofs.Inserted
import TemplatedNotes.Proofs.InsertedUpdate
import TemplatedNotes.Proofs.Json.Written
import TemplatedNotes.Proofs.KnownPaths
import TemplatedNotes.Proofs.Keeps
import TemplatedNotes.Proofs.Expansion.Persistence
import TemplatedNotes.Proofs.Refresh
import TemplatedNotes.Proofs.UpdateKnown
import TemplatedNotes.Proofs.UpdateEvery
import TemplatedNotes.Proofs.Session
import TemplatedNotes.Proofs.Vault.Resolution
import TemplatedNotes.Proofs.Batch.Turns
import TemplatedNotes.Proofs.Batch.Touched
import TemplatedNotes.Proofs.Batch.Templates
import TemplatedNotes.Proofs.Batch.Bookkeeping
import TemplatedNotes.Proofs.Expansion.Report
import TemplatedNotes.Proofs.KnownPaths.History
import TemplatedNotes.Proofs.Listing
import TemplatedNotes.Proofs.Page.Lookup
import TemplatedNotes.Proofs.Literal.Lexeme
import TemplatedNotes.Proofs.Literal.Tiling
import TemplatedNotes.Proofs.Literal.Number
import TemplatedNotes.Proofs.Literal.Cursor
import TemplatedNotes.Proofs.Arguments.Wrapped
import TemplatedNotes.Proofs.Arguments.Changes
import TemplatedNotes.Proofs.Frontmatter
import TemplatedNotes.Proofs.Expansion.LineEnds
import TemplatedNotes.Proofs.Literal.Spelling
import TemplatedNotes.Proofs.Json.Word
import TemplatedNotes.Proofs.Json.Grammar
import TemplatedNotes.Proofs.KnownPaths.Stored
import TemplatedNotes.Proofs.Text.Pattern
import TemplatedNotes.Proofs.Section.Opening
import TemplatedNotes.Proofs.Section.Kind
import TemplatedNotes.Proofs.Literal.Numeral
