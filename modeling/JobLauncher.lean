import JobLauncher.Control.Scripted
import JobLauncher.JobSet.Wire
import JobLauncher.Json.Reader
import JobLauncher.Main
import JobLauncher.Proofs.Control.Ledger
import JobLauncher.Proofs.Job.Compile
import JobLauncher.Proofs.Job.Acceptance
import JobLauncher.Proofs.Job.Rederivation
import JobLauncher.Proofs.Shell.Delivery
import JobLauncher.Settings.FileTree
import JobLauncher.Proofs.Control.Course
import JobLauncher.Proofs.Control.Protocol
import JobLauncher.Proofs.Text.ByteOrder
import JobLauncher.Proofs.Shell.Container
import JobLauncher.Proofs.Shell.RoundTrip
import JobLauncher.Proofs.Shell.Spoiled
import JobLauncher.Proofs.Shell.DirectReading
import JobLauncher.Proofs.Cli.Launch
import JobLauncher.Proofs.Kube.Credentials
import JobLauncher.Proofs.Kube.Label
import JobLauncher.Proofs.Kube.ServiceAccount
import JobLauncher.Proofs.Control.Impersonation
import JobLauncher.Proofs.JobSet.FirstFault
import JobLauncher.Proofs.Control.Footprint
import JobLauncher.Proofs.Control.Independence
import JobLauncher.Proofs.Control.Dispatch
import JobLauncher.Proofs.JobSet.Forms
import JobLauncher.Proofs.Cli.Precedence
import JobLauncher.Proofs.Job.Uploader
import JobLauncher.Proofs.Job.Pods
import JobLauncher.Proofs.Job.Variables
import JobLauncher.Proofs.Job.Consistency
import JobLauncher.Proofs.Job.Agreement
import JobLauncher.Proofs.Job.Documents
import JobLauncher.Proofs.Job.Options
import JobLauncher.Proofs.Shell.Kept
import JobLauncher.Proofs.Cli.Volumes
import JobLauncher.Proofs.Cli.Order
