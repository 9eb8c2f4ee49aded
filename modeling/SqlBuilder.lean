import SqlBuilder.Program.Run
import SqlBuilder.Proofs.Independence
import SqlBuilder.Proofs.Interpolation.Compile
import SqlBuilder.Proofs.Grammar.Building
import SqlBuilder.Proofs.Fluent.Matching
import SqlBuilder.Proofs.Restyling.Substitution
import SqlBuilder.Proofs.Transaction.Durable
import SqlBuilder.Proofs.Transaction.Implicit
import SqlBuilder.Proofs.Frame.Isolation
import SqlBuilder.Proofs.Unions.Rows
import SqlBuilder.Proofs.Unions.Flatness
import SqlBuilder.Proofs.Drivers.Interchange
import SqlBuilder.Proofs.Prefix.OneTable
import SqlBuilder.Proofs.Prefix.Renaming
import SqlBuilder.Proofs.Prefix.Interleaving
import SqlBuilder.Proofs.Quoting.Statements
import SqlBuilder.Proofs.Splicing.Operands
import SqlBuilder.Proofs.Normalised.Programs
import SqlBuilder.Proofs.Batches.Atomic
import SqlBuilder.Proofs.Order.AnyOrder
import SqlBuilder.Proofs.Observers.Operations
import SqlBuilder.Proofs.Joining.WellFormed
import SqlBuilder.Proofs.Splicing.Keys
import SqlBuilder.Proofs.Groups.Callbacks
import SqlBuilder.Proofs.Aliases.Declared
import SqlBuilder.Proofs.Edits.Failing
import SqlBuilder.Proofs.Overwriting.Conditions
import SqlBuilder.Proofs.Fetching.FirstColumn
import SqlBuilder.Proofs.Interpolation.Simultaneous
import SqlBuilder.Proofs.Fetching.Repeated
import SqlBuilder.Proofs.Columns.Agreement
import SqlBuilder.Proofs.Interpolation.Remaining
import SqlBuilder.Proofs.ReadBack.Literals
import SqlBuilder.Proofs.ReadBack.Names
import SqlBuilder.Proofs.Interpolation.Displays
import SqlBuilder.Proofs.Operators.Capitals
import SqlBuilder.Proofs.Constraints.Declared
import SqlBuilder.Proofs.Placeholder.Segments
