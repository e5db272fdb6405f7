import DBPilot.Spool.Faults
import DBPilot.Jobs.Timeout
import DBPilot.Jobs.PrepareSlots
import DBPilot.Jobs.Arrival
import DBPilot.Journal.Nonces
import DBPilot.Journal.Starts
import DBPilot.Alerts.Episodes
import DBPilot.Alerts.Identity
import DBPilot.Alerts.Templates
import DBPilot.Supervisor.Accounting
import DBPilot.Supervisor.Fingerprint
import DBPilot.Supervisor.Circuit
import DBPilot.Supervisor.Slots
import DBPilot.Catalog.Signed
import DBPilot.Idempotency.Repair
import DBPilot.Telemetry.ReadOnly
import DBPilot.Telemetry.LogSummary
import DBPilot.Discovery.Reports
import DBPilot.Discovery.Revisions
import DBPilot.Exporter.Client
import DBPilot.Gateway.BatchID
import DBPilot.AgentControl.DiscoveryDispatcher
import DBPilot.AgentControl.Replies
import DBPilot.MetricTemplate.Lease
import DBPilot.Inspection.Passes
import DBPilot.Spool.Eviction
