import ListeningCharts.Date.Directive
import ListeningCharts.Main
import ListeningCharts.Proofs.Crossing
import ListeningCharts.Proofs.Idempotence
import ListeningCharts.Sample
import ListeningCharts.Proofs.Numbering
import ListeningCharts.Proofs.InPlace
import ListeningCharts.Proofs.Frame
import ListeningCharts.Proofs.Paths
import ListeningCharts.Proofs.WriteBack
import ListeningCharts.Proofs.Requests
import ListeningCharts.Proofs.Faults
import ListeningCharts.Proofs.Schedules
import ListeningCharts.Proofs.Disclosure
import ListeningCharts.Proofs.Reports
import ListeningCharts.Proofs.Changes
import ListeningCharts.Proofs.Rereading
import ListeningCharts.Proofs.FileEffects
import ListeningCharts.Proofs.Concatenation
import ListeningCharts.Proofs.RoundTrip
import ListeningCharts.Proofs.Integers
import ListeningCharts.Proofs.Isolation
import ListeningCharts.Proofs.Preconditions
import ListeningCharts.Proofs.Differences
import ListeningCharts.Proofs.Queries
import ListeningCharts.Proofs.JsonWhole
import ListeningCharts.Proofs.Responses
import ListeningCharts.Proofs.Grouping
import ListeningCharts.Proofs.Rows
import ListeningCharts.Proofs.DatePatterns
import ListeningCharts.Proofs.Quotations
import ListeningCharts.Proofs.Simultaneous
