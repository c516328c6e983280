import SuperhumanDocs.Effect.Trace
import SuperhumanDocs.Proof.Literal
import SuperhumanDocs.Proof.Polling
import SuperhumanDocs.Proof.Alignment
import SuperhumanDocs.Proof.ScanOnce
import SuperhumanDocs.Proof.Catalog
import SuperhumanDocs.Proof.Attach
import SuperhumanDocs.Proof.Retry
import SuperhumanDocs.Proof.Exchanges
import SuperhumanDocs.Proof.Capabilities
import SuperhumanDocs.Proof.Assignments
import SuperhumanDocs.Proof.Refusal
import SuperhumanDocs.Proof.Interchange
import SuperhumanDocs.Proof.RichValues
import SuperhumanDocs.Proof.DocId
import SuperhumanDocs.Proof.Listing
import SuperhumanDocs.Proof.Fetch
import SuperhumanDocs.Proof.FetchFuture
import SuperhumanDocs.Proof.Percent
import SuperhumanDocs.Proof.ReadBack
import SuperhumanDocs.Proof.Statement
import SuperhumanDocs.Proof.Applied
import SuperhumanDocs.Proof.Ordering
import SuperhumanDocs.Proof.RawSession
import SuperhumanDocs.Proof.Credentials
import SuperhumanDocs.Raw.Resources
import SuperhumanDocs.Proof.RawDml
