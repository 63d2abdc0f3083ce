import ModelNumber.Demo
import ModelNumber.Proofs.Configuration.Alignment
import ModelNumber.Proofs.Configuration.RoundTrip
import ModelNumber.Proofs.Configuration.Unreported
import ModelNumber.Proofs.Debouncer.Search
import ModelNumber.Proofs.Decoding.Account
import ModelNumber.Proofs.Decoding.Completeness
import ModelNumber.Proofs.Decoding.Totality
import ModelNumber.Proofs.Decoding.Gaps
import ModelNumber.Proofs.Decoding.Normalized
import ModelNumber.Proofs.Decoding.Highlight
import ModelNumber.Proofs.Decoding.Speaker
import ModelNumber.Proofs.Decoding.Stages
import ModelNumber.Proofs.Enhancement.Builtin
import ModelNumber.Proofs.Report.Export
import ModelNumber.Proofs.ReverseSearch
import ModelNumber.Proofs.Highlight.Alignment
import ModelNumber.Proofs.Rule.Canonical
import ModelNumber.Proofs.Rule.Change
import ModelNumber.Proofs.Rule.Contribution
import ModelNumber.Proofs.Json.Text
import ModelNumber.Proofs.Json.Number
import ModelNumber.Proofs.Json.ReadBack
import ModelNumber.Proofs.Report.Document
import ModelNumber.Proofs.Library
import ModelNumber.Proofs.Library.Cache
import ModelNumber.Proofs.Segment.Colon
import ModelNumber.Proofs.Page.Visit
import ModelNumber.Proofs.Session
