import EditGuard.Consequence.Ledger
import EditGuard.Guard
import EditGuard.Proofs.Rule.Budget
import EditGuard.Proofs.Rule.Exhaustion
import EditGuard.Proofs.Batch.Isolation
import EditGuard.Proofs.Batch.Accounting
import EditGuard.Proofs.Batch.Replay
import EditGuard.Proofs.Batch.Key
import EditGuard.Proofs.Consequence.Protocol
import EditGuard.Proofs.Consequence.Veto
import EditGuard.Proofs.Guard.SingleRule
import EditGuard.Proofs.Rule.Completeness
import EditGuard.Proofs.Rule.Definedness
import EditGuard.Proofs.Variable.Dumping
import EditGuard.Proofs.Consequence.Results
import EditGuard.Proofs.Consequence.Bookkeeping
import EditGuard.Proofs.Consequence.History
import EditGuard.Proofs.Consequence.Keys
import EditGuard.Proofs.Consequence.Counting
import EditGuard.Proofs.Consequence.Warning
import EditGuard.Proofs.Guard.StoreOrder
import EditGuard.Proofs.Variable.Privacy
import EditGuard.Proofs.Rule.Cutting
import EditGuard.Proofs.Rule.Respacing
import EditGuard.Proofs.Rule.Positions
import EditGuard.Proofs.Difference.Comparison
import EditGuard.Proofs.Difference.Minimality
import EditGuard.Proofs.Difference.Patch
import EditGuard.Proofs.Difference.Sides
import EditGuard.Proofs.Variable.Cycles
import EditGuard.Proofs.Variable.Progress
import EditGuard.Proofs.Rule.Comparison
import EditGuard.Proofs.Rule.ItemAssignment
import EditGuard.Proofs.Consequence.Separation
import EditGuard.Proofs.Rule.Builtins
import EditGuard.Proofs.Rule.MissingVariables
import EditGuard.Proofs.Consequence.Longest
import EditGuard.Proofs.Consequence.Reordering
import EditGuard.Proofs.Number.Arithmetic
import EditGuard.Proofs.Rule.Arithmetic
import EditGuard.Proofs.Number.Grammar
import EditGuard.Proofs.Number.Reading
import EditGuard.Proofs.Function.Offsets
import EditGuard.Proofs.Pattern.Template
import EditGuard.Proofs.Address.Network
import EditGuard.Proofs.Rule.Visiting
import EditGuard.Proofs.Rule.Nesting
import EditGuard.Proofs.Rule.Warnings
import EditGuard.Proofs.Rule.Literals
