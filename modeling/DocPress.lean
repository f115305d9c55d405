import DocPress.Client.Service
import DocPress.Main
import DocPress.MemoryDocument.Client
import DocPress.Publication.Operations
import DocPress.Proofs.InlineStyles
import DocPress.Proofs.BlockRanges
import DocPress.Proofs.Lines
import DocPress.Proofs.TypographyStability
import DocPress.Proofs.TypographyContent
import DocPress.Proofs.TypographyStructure
import DocPress.Proofs.ParagraphOperations
import DocPress.Proofs.Text.Replacing
import DocPress.Proofs.Entities
import DocPress.Proofs.NestedCode
import DocPress.Proofs.MemoryDocument.Paragraphs
import DocPress.Proofs.MemoryDocument.Positions
import DocPress.Proofs.Client.Runs
import DocPress.Proofs.Client.Records
import DocPress.Proofs.MemoryDocument.Batches
import DocPress.Proofs.MemoryDocument.Drafting
import DocPress.Proofs.MemoryDocument.Layouts
import DocPress.Proofs.Tables.Filling
import DocPress.Proofs.Tables.Insertion
import DocPress.Proofs.Tables.Placement
import DocPress.Proofs.Tables.Descriptors
import DocPress.Proofs.Tables.Plan
import DocPress.Proofs.Tables.Protocol
import DocPress.Proofs.Relocation
import DocPress.Proofs.Text.Integers
import DocPress.Proofs.Folding.Names
import DocPress.Proofs.Folding.Inline
import DocPress.Proofs.Folding.Blocks
import DocPress.Proofs.MemoryDocument.Stages
import DocPress.Proofs.Tables.Interruption
import DocPress.Proofs.Publication.Agreement
import DocPress.Proofs.Client.Attempts
import DocPress.Proofs.Publication.Protocol
import DocPress.Proofs.Tables.CellOrder
import DocPress.Proofs.Tables.Report
import DocPress.Proofs.EntityScan
import DocPress.Proofs.PlainText
import DocPress.Proofs.Client.Guarding
import DocPress.Proofs.Client.Replay
import DocPress.Proofs.MemoryDocument.Order
import DocPress.Proofs.Publication.Sessions
import DocPress.Proofs.TypographyQuotes
import DocPress.Proofs.Folding.Leaves
import DocPress.Proofs.MemoryDocument.Reading
import DocPress.Proofs.TypographyMarks
import DocPress.Proofs.EntityTable
import DocPress.Proofs.LineContent
import DocPress.Proofs.Folding.Progress
