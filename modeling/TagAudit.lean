import TagAudit.Main
import TagAudit.Proofs.Marker.Written
import TagAudit.Proofs.Text.Offsets
import TagAudit.Proofs.Marker.Layout
import TagAudit.Proofs.Marker.Occurrences
import TagAudit.Proofs.Repair.Edits
import TagAudit.Proofs.Repair.Closing
import TagAudit.Proofs.Repair.Unclosed
import TagAudit.Proofs.Marker.Regions
import TagAudit.Proofs.Repair.Rescan
import TagAudit.Proofs.Repair.Convergence
import TagAudit.Proofs.Repair.Draft
import TagAudit.Proofs.Repair.Seam
import TagAudit.Proofs.Repair.ComponentLine
import TagAudit.Proofs.Repair.Rounds
import TagAudit.Proofs.Repair.Outcome
import TagAudit.Proofs.Disk.Rewriting
import TagAudit.Proofs.Check.Rerun
import TagAudit.Proofs.Marker.Positions
import TagAudit.Proofs.Marker.Readings
import TagAudit.Proofs.Marker.Appending
import TagAudit.Proofs.Marker.TagTree
import TagAudit.Proofs.Repair.CommentLine
import TagAudit.Proofs.Rule.Ordering
import TagAudit.Proofs.Rule.Due
import TagAudit.Proofs.Rule.Independence
import TagAudit.Proofs.Check.Schedule
import TagAudit.Proofs.Command.ExitCode
import TagAudit.Proofs.Text.Bytes
import TagAudit.Proofs.Index.History
import TagAudit.Proofs.Text.LineEnds
import TagAudit.Proofs.Marker.LineEnds
import TagAudit.Proofs.Rule.LineEnds
import TagAudit.Proofs.Text.Splitting
import TagAudit.Proofs.Path.Components
import TagAudit.Proofs.Path.Order
import TagAudit.Proofs.Path.Display
import TagAudit.Proofs.Wildcard.Matching
import TagAudit.Proofs.Wildcard.Reading
import TagAudit.Proofs.Wildcard.Trailing
import TagAudit.Proofs.Target.Merging
import TagAudit.Proofs.Disk.Tree
import TagAudit.Proofs.Target.Walking
import TagAudit.Proofs.Disk.Following
import TagAudit.Proofs.Disk.Locating
import TagAudit.Proofs.Target.Spelling
import TagAudit.Proofs.Target.Pieces
import TagAudit.Proofs.Target.Expanding
import TagAudit.Proofs.Target.Relative
import TagAudit.Proofs.Check.Listing
import TagAudit.Proofs.Marker.Usable
import TagAudit.Proofs.Marker.TrivialLines
import TagAudit.Proofs.Repair.LineLead
import TagAudit.Proofs.Repair.Planning
import TagAudit.Proofs.Repair.Splicing
import TagAudit.Proofs.Repair.WellPlaced
import TagAudit.Proofs.Repair.Header
import TagAudit.Proofs.Text.Lowering
import TagAudit.Proofs.Path.Parent
import TagAudit.Proofs.Schema.Suggesting
import TagAudit.Proofs.Repair.ComponentTag
import TagAudit.Proofs.Target.Collecting
import TagAudit.Proofs.Target.Naming
import TagAudit.Proofs.Schema.RuleKeys
import TagAudit.Proofs.Schema.Settings
import TagAudit.Proofs.Schema.Respelling
import TagAudit.Proofs.Wildcard.Escaping
import TagAudit.Proofs.Index.Searching
import TagAudit.Proofs.Target.Selecting
import TagAudit.Proofs.Path.Identity
import TagAudit.Proofs.Rule.Widening
import TagAudit.Proofs.Path.Upward
import TagAudit.Proofs.Config.Detecting
import TagAudit.Proofs.Marker.Tokenizing
import TagAudit.Proofs.Repair.ReadBack
