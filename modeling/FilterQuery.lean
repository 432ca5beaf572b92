import FilterQuery.Options.Document
import FilterQuery.Proofs.Chain.Replay
import FilterQuery.Proofs.Predicate.Emission
import FilterQuery.Proofs.Predicate.Nesting
import FilterQuery.Proofs.Predicate.Numbering
import FilterQuery.ResultSet.Scripted
import FilterQuery.Session
import FilterQuery.Proofs.Chain.Reachable
import FilterQuery.Proofs.Chain.Markers
import FilterQuery.Proofs.Predicate.Merged
import FilterQuery.Proofs.Predicate.LenientReplay
import FilterQuery.Proofs.Fragment.Literal
import FilterQuery.Proofs.Fragment.Reading
import FilterQuery.Proofs.Fragment.Renumbered
import FilterQuery.Proofs.Predicate.Reread
import FilterQuery.Proofs.Fragment.Scanner
import FilterQuery.Proofs.Query.Independence
import FilterQuery.Proofs.Query.Delegation
import FilterQuery.Proofs.Fragment.Representable
import FilterQuery.Proofs.Chain.Expansion
import FilterQuery.Proofs.Chain.Filling
import FilterQuery.Proofs.Predicate.Association
import FilterQuery.Proofs.Predicate.Spacing
import FilterQuery.Proofs.Value.Integer
import FilterQuery.Proofs.Json.Shown
import FilterQuery.Proofs.Options.Members
import FilterQuery.Proofs.Predicate.Equality
import FilterQuery.Proofs.Fragment.Cursor
