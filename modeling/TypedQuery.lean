import TypedQuery.Proofs.Condition.EmptyRange
import TypedQuery.Proofs.Field.Components
import TypedQuery.Proofs.Query.CommandReading
import TypedQuery.Proofs.Query.Escaping
import TypedQuery.Proofs.Query.Faithful
import TypedQuery.Proofs.Query.FieldMarks
import TypedQuery.Proofs.Query.LeafPlan
import TypedQuery.Proofs.Query.Options
import TypedQuery.Proofs.Reply.DateReading
import TypedQuery.Proofs.Reply.DistanceColumn
import TypedQuery.Proofs.Reply.KnownWords
import TypedQuery.Proofs.Reply.Projection
import TypedQuery.Proofs.Reply.Retelling
import TypedQuery.Proofs.Reply.TagLists
import TypedQuery.Proofs.Schema.Distinct
import TypedQuery.Proofs.Search.Questions
import TypedQuery.Proofs.Settings.Conversion
import TypedQuery.Query.Command
import TypedQuery.Search.Accessors
import TypedQuery.Settings.Loading
