import TypedDocs.Hierarchy.Memo
import TypedDocs.Json.Lemmas
import TypedDocs.Main
import TypedDocs.Pattern.Memo
import TypedDocs.Store.Change
import TypedDocs.Proofs.Hierarchy.Chain
import TypedDocs.Proofs.Hierarchy.Resolution
import TypedDocs.Proofs.View.Tables
import TypedDocs.Proofs.Edit.Outcome
import TypedDocs.Proofs.Assignment.Overlay
import TypedDocs.Store.Run
import TypedDocs.Proofs.Edit.Identity
import TypedDocs.Proofs.Store.Transition
import TypedDocs.Proofs.Store.Admission
import TypedDocs.Proofs.Store.Identity
import TypedDocs.Proofs.Store.Atomicity
import TypedDocs.Proofs.Store.Index
import TypedDocs.Proofs.Query.Agreement
import TypedDocs.Proofs.Assignment.Collections
import TypedDocs.Proofs.Assignment.Shape
import TypedDocs.Proofs.Query.Assigned
import TypedDocs.Proofs.Store.Creation
import TypedDocs.Proofs.Hierarchy.Loading
import TypedDocs.Proofs.Hierarchy.Separation
import TypedDocs.Proofs.Hierarchy.Acceptance
import TypedDocs.Proofs.Classifier.Codec
import TypedDocs.Proofs.Value.Order
import TypedDocs.Proofs.Assignment.Order
import TypedDocs.Proofs.Store.Order
import TypedDocs.Proofs.Snapshot.Restore
import TypedDocs.Proofs.Query.Faults
import TypedDocs.Proofs.Query.Undeclared
import TypedDocs.Proofs.Store.Faults
import TypedDocs.Proofs.Edit.Fields
import TypedDocs.Proofs.Store.Fields
import TypedDocs.Proofs.Assignment.Tags
import TypedDocs.Proofs.Edit.Arrays
import TypedDocs.Proofs.Store.Arrays
import TypedDocs.Proofs.Store.Mixins
import TypedDocs.Proofs.Store.Scopes
import TypedDocs.Proofs.View.Lookups
import TypedDocs.Proofs.View.Isolation
import TypedDocs.Proofs.Query.Sameness
import TypedDocs.Proofs.Store.Substitution
import TypedDocs.Proofs.Value.Frame
import TypedDocs.Proofs.Query.Verdicts
import TypedDocs.Proofs.Query.Strength
import TypedDocs.Proofs.Selector.Trail
import TypedDocs.Proofs.Assignment.Frame
import TypedDocs.Proofs.Edit.Target
import TypedDocs.Proofs.Edit.Append
import TypedDocs.Proofs.Store.Commutation
import TypedDocs.Proofs.Edit.Removal
import TypedDocs.Proofs.Selector.Prefix
import TypedDocs.Proofs.Edit.Undo
import TypedDocs.Proofs.Assignment.Merge
import TypedDocs.Proofs.Assignment.Replay
import TypedDocs.Proofs.Key.Canonical
import TypedDocs.Proofs.Hierarchy.Inheritance
import TypedDocs.Proofs.Store.Loading
import TypedDocs.Proofs.Store.Casting
import TypedDocs.Proofs.Query.Kept
import TypedDocs.Proofs.Selector.Codec
import TypedDocs.Proofs.Store.Reports
import TypedDocs.Proofs.Store.Redaction
import TypedDocs.Proofs.Logging.Failures
import TypedDocs.Proofs.Logging.Once
import TypedDocs.Proofs.Caching.Store
