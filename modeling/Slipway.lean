import Slipway.AppId
import Slipway.Archive.Crc32
import Slipway.Archive.Inflate
import Slipway.Archive.Zip
import Slipway.Artifact
import Slipway.Artifact.Properties
import Slipway.Artifact.Resolver
import Slipway.BuildHistory
import Slipway.BuildPlan
import Slipway.BuildWatch
import Slipway.Bundle
import Slipway.Bytes.Hex
import Slipway.Bytes.Utf8
import Slipway.Calendar
import Slipway.Cluster
import Slipway.CommandLine
import Slipway.CommandLine.Arguments
import Slipway.CommandLine.Reading
import Slipway.CommandLine.Word
import Slipway.Config
import Slipway.Config.Reader
import Slipway.Deploy
import Slipway.Dict
import Slipway.Digest.Sha256
import Slipway.Failure
import Slipway.FanOut
import Slipway.FilePath
import Slipway.FileTree
import Slipway.Fingerprint
import Slipway.Http
import Slipway.Http.Form
import Slipway.Http.Target
import Slipway.Invocation
import Slipway.Json
import Slipway.Json.Printer
import Slipway.Json.Reader
import Slipway.Json.Record
import Slipway.Kind
import Slipway.Labels
import Slipway.Main
import Slipway.PerKind
import Slipway.Pipeline
import Slipway.Platform
import Slipway.Reconcile
import Slipway.Remote
import Slipway.Remote.Connection
import Slipway.Remote.Query
import Slipway.Remote.Reply
import Slipway.Remote.Watcher
import Slipway.Report
import Slipway.Request
import Slipway.Request.Keys
import Slipway.Resource
import Slipway.Resource.Build
import Slipway.Resource.Metadata
import Slipway.Resource.Network
import Slipway.Resource.Phase
import Slipway.Resource.Reference
import Slipway.Resource.Workload
import Slipway.Session
import Slipway.Sorting
import Slipway.Task
import Slipway.Text.Blank
import Slipway.Text.Cut
import Slipway.Text.Decimal
import Slipway.Text.Hexadecimal
import Slipway.Timestamp
import Slipway.Yaml.Cursor
import Slipway.Yaml.Node
import Slipway.Yaml.Record
import Slipway.Yaml.ScalarText
import Slipway.Yaml.Scanner
import Slipway.Yaml.Token
import Slipway.Proofs.Text.Stripping
import Slipway.Proofs.Cluster.Perform
import Slipway.Proofs.Cluster.Builds
import Slipway.Proofs.Session.Keeps
import Slipway.Proofs.Pipeline.Calls
import Slipway.Proofs.Pipeline.Prepare
import Slipway.Proofs.Session.Runs
import Slipway.Proofs.Deploy.Order
import Slipway.Proofs.Session.Origins
import Slipway.Proofs.Pipeline.OutputTag
import Slipway.Proofs.Pipeline.Reuse
import Slipway.Proofs.BuildWatch.Stream
import Slipway.Proofs.Deploy.Instances
import Slipway.Proofs.Program.Failures
import Slipway.Proofs.Deploy.Failures
import Slipway.Proofs.Labels.Selector
import Slipway.Proofs.Session.Uniqueness
import Slipway.Proofs.Cluster.Reconciled
import Slipway.Proofs.Cluster.Sources
import Slipway.Proofs.Cluster.Frames
import Slipway.Proofs.Cluster.Deployments
import Slipway.Proofs.Cluster.Effects
import Slipway.Proofs.Deploy.Replicas
import Slipway.Proofs.Deploy.Placed
import Slipway.Proofs.Deploy.Course
import Slipway.Proofs.Deploy.Idempotent
import Slipway.Proofs.Cluster.Watches
import Slipway.Proofs.BuildWatch.Listening
import Slipway.Proofs.Cluster.Log
import Slipway.Proofs.Cluster.Written
import Slipway.Proofs.Cluster.Pods
import Slipway.Proofs.Session.Managed
import Slipway.Proofs.Session.Sound
import Slipway.Proofs.Session.Turns
import Slipway.Proofs.Session.Waiting
import Slipway.Proofs.Session.Endings
import Slipway.Proofs.Session.Launches
import Slipway.Proofs.Deploy.Apart
import Slipway.Proofs.Cluster.Conflicts
import Slipway.Proofs.Deploy.Attempts
import Slipway.Proofs.Deploy.Retry
import Slipway.Proofs.Session.Ways
import Slipway.Proofs.Pipeline.Choice
import Slipway.Proofs.Deploy.Undeploy
import Slipway.Proofs.Session.Redeploy
import Slipway.Proofs.Deploy.Status
import Slipway.Proofs.Session.Status
import Slipway.Proofs.Deploy.Commute
import Slipway.Proofs.Deploy.Spread
import Slipway.Proofs.Reconcile.Conduct
import Slipway.Proofs.Reconcile.Settled
import Slipway.Proofs.Labels.Ids
import Slipway.Proofs.Labels.Values
import Slipway.Proofs.Deploy.Addresses
import Slipway.Proofs.Pipeline.Age
import Slipway.Proofs.Deploy.Listing
import Slipway.Proofs.Text.Splitting
import Slipway.Proofs.Artifact.Display
import Slipway.Proofs.Deploy.Wiring
import Slipway.Proofs.Time.Written
import Slipway.Proofs.Json.Fields
import Slipway.Proofs.Resource.Written
import Slipway.Proofs.Resource.Rewritten
import Slipway.Proofs.Cluster.Kept
import Slipway.Proofs.Pipeline.Faithful
import Slipway.Proofs.Request.Pairs
import Slipway.Proofs.Artifact.Properties
import Slipway.Proofs.CommandLine.Ids
import Slipway.Proofs.Cluster.Updates
import Slipway.Proofs.Cluster.Starts
import Slipway.Proofs.Cluster.Selected
