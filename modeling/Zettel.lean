import Zettel.Main
import Zettel.Sorting.InOrder
import Zettel.Proofs.Inheritance.Gathering
import Zettel.Proofs.Walk
import Zettel.Proofs.Inheritance.Settled
import Zettel.Proofs.Memory
import Zettel.Proofs.Inheritance.LeastSolution
import Zettel.Proofs.Graph.Edges
import Zettel.Proofs.Graph.Attachment
import Zettel.Proofs.Graph.Consistent
import Zettel.Proofs.Vault.Steps
import Zettel.Proofs.Graph.Arrival
import Zettel.Proofs.Ancestors
import Zettel.Proofs.Vault.Reachable
import Zettel.Proofs.Graph.Closure
import Zettel.Proofs.Locality
import Zettel.Proofs.Vault.Fresh
import Zettel.Proofs.Vault.Departure
import Zettel.Proofs.Vault.Invalidation
import Zettel.Proofs.Inheritance.Plain
import Zettel.Proofs.Vault.PlainChange
import Zettel.Proofs.Vault.Placement
import Zettel.Proofs.NoteSet
import Zettel.Proofs.Inheritance.Unrolling
import Zettel.Proofs.Growth
import Zettel.Proofs.Search.Outcome
import Zettel.Proofs.Search.Answers
import Zettel.Proofs.Vault.Reach
import Zettel.Proofs.Vault.LoadTwice
import Zettel.Proofs.Query.RoundTrip
import Zettel.Proofs.Search.Limit
import Zettel.Proofs.Search.Hoisting
import Zettel.Proofs.Vault.Tended
import Zettel.Proofs.Vault.Filed
import Zettel.Proofs.Vault.Ancestry
import Zettel.Proofs.Vault.Convergence
import Zettel.Proofs.Graph.ShortestPath
import Zettel.Proofs.Search.Ranking
import Zettel.Proofs.Search.Confinement
import Zettel.Proofs.Graph.ParentOrder
import Zettel.Proofs.Vault.Loaded
import Zettel.Proofs.Vault.Edited
import Zettel.Proofs.Vault.Renewal
import Zettel.Proofs.Query.Coverage
import Zettel.Proofs.Query.Escaped
import Zettel.Proofs.Search.TitleWords
import Zettel.Proofs.Search.Ordering
import Zettel.Proofs.Query.Parentheses
import Zettel.Proofs.Query.Relaxed
import Zettel.Proofs.Search.Relaxed
import Zettel.Proofs.Query.OrderKeys
import Zettel.Proofs.Query.WellFormed
import Zettel.Proofs.Vault.ArchivedParents
import Zettel.Proofs.Vault.LateNotes
import Zettel.Proofs.Vault.Siblings
import Zettel.Proofs.Logging
import Zettel.Proofs.Search.Markup
import Zettel.Proofs.Search.BoldTags
import Zettel.Proofs.Search.Hidden
import Zettel.Proofs.Graph.Descent
import Zettel.Proofs.Inheritance.Nesting
import Zettel.Proofs.Search.Stripping
