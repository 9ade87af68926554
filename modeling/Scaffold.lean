import Scaffold.Main
import Scaffold.Proofs.Related
import Scaffold.Proofs.Canonical
import Scaffold.Proofs.Presentation
import Scaffold.Proofs.Field
import Scaffold.Proofs.Client.Fields
import Scaffold.Proofs.Server.Fields
import Scaffold.Proofs.View.Fields
import Scaffold.Proofs.FieldOrder
import Scaffold.Proofs.Settings
import Scaffold.Proofs.FileTree
import Scaffold.Proofs.Export
import Scaffold.Proofs.Dependence
import Scaffold.Proofs.Timestamps
import Scaffold.Proofs.View.Pieces
import Scaffold.Proofs.Generation
import Scaffold.Proofs.Report
import Scaffold.Proofs.FileTree.Rewrite
import Scaffold.Proofs.Modules
import Scaffold.Proofs.Regeneration
import Scaffold.Proofs.Overwrite
import Scaffold.Batch
import Scaffold.Proofs.FileTree.Making
import Scaffold.Proofs.Writer
import Scaffold.Proofs.Pool
import Scaffold.Proofs.Alone
import Scaffold.Proofs.Territory
import Scaffold.Proofs.Draft
import Scaffold.Proofs.Job
import Scaffold.Proofs.Sequence
import Scaffold.Proofs.Batch
import Scaffold.Proofs.Completion
import Scaffold.Proofs.Success
import Scaffold.Proofs.DryRun
import Scaffold.Proofs.Text.Occurrences
import Scaffold.Proofs.View.Blocks
import Scaffold.Proofs.Client.Constants
import Scaffold.Proofs.Client.Collisions
import Scaffold.Proofs.Spelling
import Scaffold.Proofs.Targets
import Scaffold.Proofs.Client.Resources
import Scaffold.Proofs.Server.References
import Scaffold.Proofs.Enumerations
import Scaffold.Proofs.Server.Comments
import Scaffold.Proofs.Required
import Scaffold.Proofs.Assignment
import Scaffold.Proofs.Sides
import Scaffold.Proofs.Grammar
import Scaffold.Proofs.Unreadable
import Scaffold.Proofs.Reordering
import Scaffold.Proofs.RoundTrip
import Scaffold.Proofs.Gathering
import Scaffold.Proofs.Rehearsal
import Scaffold.Proofs.View.Openings
import Scaffold.Proofs.Quotation
import Scaffold.Proofs.LineCounts
import Scaffold.Proofs.View.Placeholders
import Scaffold.Proofs.SelfContained
import Scaffold.Proofs.Coherence
import Scaffold.Proofs.FileCounts
