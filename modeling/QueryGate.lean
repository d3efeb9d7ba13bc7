import QueryGate.Api.Endpoint
import QueryGate.Api.Router
import QueryGate.Chat
import QueryGate.Json.Document
import QueryGate.Json.Printer
import QueryGate.Json.Reader
import QueryGate.Log
import QueryGate.Main
import QueryGate.Pipeline
import QueryGate.Proofs.Api.Containment
import QueryGate.Proofs.Assoc
import QueryGate.Proofs.Attempt
import QueryGate.Proofs.Chat
import QueryGate.Proofs.Json.Literal
import QueryGate.Proofs.Json.Number
import QueryGate.Proofs.Json.Object
import QueryGate.Proofs.Json.RoundTrip
import QueryGate.Proofs.Json.Token
import QueryGate.Proofs.Noninterference
import QueryGate.Proofs.Number.Digits
import QueryGate.Proofs.Number.Nearest
import QueryGate.Proofs.Number.Range
import QueryGate.Proofs.Number.Rational
import QueryGate.Proofs.Number.Reading
import QueryGate.Proofs.Pipeline
import QueryGate.Proofs.Provider.Carrier
import QueryGate.Proofs.Provider.Complaint
import QueryGate.Proofs.Provider.FailedCall
import QueryGate.Proofs.Provider.FirstNumeral
import QueryGate.Proofs.Provider.Mildness
import QueryGate.Proofs.Provider.Normalization
import QueryGate.Proofs.Provider.Precedence
import QueryGate.Proofs.Provider.Reading
import QueryGate.Proofs.Provider.WholeSeconds
import QueryGate.Proofs.Query.Admission
import QueryGate.Proofs.Query.Ambiguity
import QueryGate.Proofs.Query.Answer
import QueryGate.Proofs.Query.AuthorId
import QueryGate.Proofs.Query.Chronology
import QueryGate.Proofs.Query.Confinement
import QueryGate.Proofs.Query.Execute
import QueryGate.Proofs.Query.Grouping
import QueryGate.Proofs.Query.Lookup
import QueryGate.Proofs.Query.Outline
import QueryGate.Proofs.Query.Parameters
import QueryGate.Proofs.Query.Partition
import QueryGate.Proofs.Query.Projection
import QueryGate.Proofs.Query.Rearrangement
import QueryGate.Proofs.Query.Refusal
import QueryGate.Proofs.Query.Split
import QueryGate.Proofs.Query.Storable
import QueryGate.Proofs.Question.Author
import QueryGate.Proofs.Question.Keywords
import QueryGate.Proofs.Question.Leftmost
import QueryGate.Proofs.Question.Phrase
import QueryGate.Proofs.Question.Prompt
import QueryGate.Proofs.Question.Recovery
import QueryGate.Proofs.Seed.Draw
import QueryGate.Proofs.Seed.Integrity
import QueryGate.Proofs.Seed.Reload
import QueryGate.Proofs.Spec.Accepted
import QueryGate.Proofs.Spec.Filters
import QueryGate.Proofs.Spec.Idempotence
import QueryGate.Proofs.Spec.Limit
import QueryGate.Proofs.Spec.Typed
import QueryGate.Proofs.Spec.Verdict
import QueryGate.Proofs.Sql.Values
import QueryGate.Proofs.Store.Agreement
import QueryGate.Proofs.Store.Bounds
import QueryGate.Proofs.Store.Coherence
import QueryGate.Proofs.Store.Condition
import QueryGate.Proofs.Store.Connection
import QueryGate.Proofs.Store.Equality
import QueryGate.Proofs.Store.Pattern
import QueryGate.Proofs.Store.Ranking
import QueryGate.Proofs.Store.ReadOnly
import QueryGate.Proofs.Store.Reference
import QueryGate.Proofs.Store.Selection
import QueryGate.Proofs.Store.Statement
import QueryGate.Proofs.Text.Unquoted
import QueryGate.Proofs.Value.Same
import QueryGate.Proofs.Web.Url
import QueryGate.Proofs.Whitelist.Catalog
import QueryGate.Proofs.Whitelist.Declaration
import QueryGate.Proofs.Whitelist.Document
import QueryGate.Proofs.Whitelist.LastOfEach
import QueryGate.Proofs.Whitelist.Path
import QueryGate.Proofs.Whitelist.Standard
import QueryGate.Provider.CallError
import QueryGate.Provider.Http
import QueryGate.Question.Keywords
import QueryGate.Question.Prompt
import QueryGate.Question.Translation
import QueryGate.Seed.Draw
import QueryGate.Seed.Generate
import QueryGate.Seed.Load
import QueryGate.Settings
import QueryGate.Spec.Typed
import QueryGate.Stopwatch
import QueryGate.Store.Address
import QueryGate.Store.Dialect
import QueryGate.Text.Case
import QueryGate.Text.CodePage
import QueryGate.Text.Encoding
import QueryGate.Text.Punycode
import QueryGate.Web.Domain.Basic
import QueryGate.Web.Host
import QueryGate.Web.Inflate
import QueryGate.Web.Url
import QueryGate.Whitelist.Document
import QueryGate.Whitelist.Standard
import QueryGate.Yaml.Reader
