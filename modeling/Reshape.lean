import Reshape.Main
import Reshape.Proofs.Appending
import Reshape.Proofs.Attribution
import Reshape.Proofs.Chronicle
import Reshape.Proofs.ColumnNames
import Reshape.Proofs.Commuting
import Reshape.Proofs.ConfigText
import Reshape.Proofs.DelimitedText
import Reshape.Proofs.Equivalence
import Reshape.Proofs.Failure
import Reshape.Proofs.Grammar
import Reshape.Proofs.Groups
import Reshape.Proofs.Indirection
import Reshape.Proofs.Joining
import Reshape.Proofs.Labels
import Reshape.Proofs.Lawful
import Reshape.Proofs.Listing
import Reshape.Proofs.Loading
import Reshape.Proofs.LostCells
import Reshape.Proofs.Overlooking
import Reshape.Proofs.RecordsOnly
import Reshape.Proofs.Recordwise
import Reshape.Proofs.Remerging
import Reshape.Proofs.Saving
import Reshape.Proofs.Target
import Reshape.Proofs.Unambiguous
import Reshape.Proofs.Unreached
import Reshape.Proofs.Writing
import Reshape.Proofs.Scope
import Reshape.Proofs.Sequencing
import Reshape.Proofs.Completion
import Reshape.Proofs.Lookahead
import Reshape.Proofs.FirstFault
import Reshape.Proofs.EntryText
import Reshape.Proofs.Comparisons
import Reshape.Proofs.Respelling
import Reshape.Proofs.Coordinates
import Reshape.Proofs.Overrides
import Reshape.Proofs.Addresses
import Reshape.Proofs.Filtering
import Reshape.Proofs.Cloning
import Reshape.Proofs.Undoing
import Reshape.Proofs.Replaying
import Reshape.Proofs.Restricting
import Reshape.Proofs.Replacing
import Reshape.Proofs.Collecting
import Reshape.Proofs.UnicodeText
