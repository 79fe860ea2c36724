import SecurityCompliance.Python.Dict
import SecurityCompliance.Python.Json
import SecurityCompliance.Python.Csv
import SecurityCompliance.Python.Float
import SecurityCompliance.Python.Repr
import SecurityCompliance.Python.JsonDump
import SecurityCompliance.Python.JsonRoundTrip
import SecurityCompliance.Filesystem.Fnmatch
import SecurityCompliance.Filesystem.Snapshot
import SecurityCompliance.Filesystem.Glob
import SecurityCompliance.Report.Assess
import SecurityCompliance.Report.Summary
import SecurityCompliance.Report.Text
import SecurityCompliance.Report.Json
import SecurityCompliance.Dashboard.Metrics
import SecurityCompliance.Dashboard.Audit
import SecurityCompliance.Dashboard.Html
import SecurityCompliance.Dashboard.Json
import SecurityCompliance.Generator.TestFiles
import SecurityCompliance.Generator.Paths
import SecurityCompliance.Generator.Runs
import SecurityCompliance.Properties.Agreement
import SecurityCompliance.Properties.RateBounds
import SecurityCompliance.Properties.Monotonicity
import SecurityCompliance.Properties.Resolver
import SecurityCompliance.Properties.Printed
import SecurityCompliance.Properties.JsonFiles
