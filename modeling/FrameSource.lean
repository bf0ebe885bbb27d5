import FrameSource.Cli.Disk
import FrameSource.Datasource.Instance
import FrameSource.Main
import FrameSource.Number.Reading
import FrameSource.Proofs.Datasource.Entries
import FrameSource.Proofs.Query.Expansion
import FrameSource.Proofs.Query.Concatenation
import FrameSource.Proofs.Query.Settling
import FrameSource.Proofs.Query.Registration
import FrameSource.Proofs.Result.Calls
import FrameSource.Proofs.Result.Reference
import FrameSource.Proofs.Result.Selection
import FrameSource.Proofs.Result.Typed
import FrameSource.Proofs.Result.Loading
import FrameSource.Proofs.Time.Calendar
import FrameSource.Proofs.Time.RoundTrip
import FrameSource.Proofs.Result.Reloading
import FrameSource.Proofs.Result.Queue
import FrameSource.Proofs.Cli.Secrecy
import FrameSource.Proofs.Datasource.Certificates
import FrameSource.Proofs.Datasource.Spellings
import FrameSource.Proofs.Datasource.Checks
import FrameSource.Proofs.Datasource.Unset
import FrameSource.Proofs.Datasource.RoundTrip
import FrameSource.Proofs.Query.Failure
import FrameSource.Proofs.Result.Isolation
import FrameSource.Proofs.Result.Shapes
import FrameSource.Proofs.Result.Decodings
import FrameSource.Proofs.Result.Readings
import FrameSource.Proofs.Result.Timestamps
import FrameSource.Proofs.Result.Nulls
import FrameSource.Proofs.Result.Building
import FrameSource.Proofs.Query.Building
import FrameSource.Proofs.Config.Overrides
import FrameSource.Proofs.Time.Boundaries
import FrameSource.Proofs.Query.TimeFilter
import FrameSource.Proofs.Result.Layout
import FrameSource.Proofs.Result.Records
import FrameSource.Proofs.Query.Arguments
