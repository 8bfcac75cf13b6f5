import Loxbudget.Lease.Preemption
import Loxbudget.Lease.Reconfiguration
import Loxbudget.Lease.Instances
import Loxbudget.Lease.Yield
import Loxbudget.Decision.Failure
import Loxbudget.Decision.Features
import Loxbudget.Decision.Reasons
import Loxbudget.Decision.Independence
import Loxbudget.Invariant.Needs
import Loxbudget.Cascade.Always
import Loxbudget.Cascade.Monotone
import Loxbudget.Cascade.Acyclicity
import Loxbudget.Cascade.Saturation
import Loxbudget.Cascade.Bounds
import Loxbudget.Cascade.Table
import Loxbudget.Journal.Accounting
import Loxbudget.Rate.FixedWindow
import Loxbudget.Rate.Polling
import Loxbudget.Rate.Query
import Loxbudget.Rate.Lifetime
import Loxbudget.Calibration.Export
import Loxbudget.Calibration.Report
import Loxbudget.Calibration.Durations
import Loxbudget.Calibration.Outliers
import Loxbudget.Calibration.Overflow
import Loxbudget.Storage.Persistence
import Loxbudget.Rate.Reopening
import Loxbudget.Interface.Refusals
import Loxbudget.Interface.Enumerators
import Loxbudget.Interface.Guards
import Loxbudget.Scenario.Printer
import Loxbudget.Scenario.Composition
import Loxbudget.Adapters.Microconf
import Loxbudget.Adapters.Health
import Loxbudget.Adapters.Records
import Loxbudget.Decision.Load
import Loxbudget.Lease.Draining
