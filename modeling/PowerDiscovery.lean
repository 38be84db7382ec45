import PowerDiscovery.Address.Basic
import PowerDiscovery.Address.Endpoint
import PowerDiscovery.Address.Network
import PowerDiscovery.Address.Printer
import PowerDiscovery.Address.Reader
import PowerDiscovery.Address.Span
import PowerDiscovery.Backend
import PowerDiscovery.Budget.Basic
import PowerDiscovery.Budget.Count
import PowerDiscovery.Budget.FileLimit
import PowerDiscovery.Budget.Gate
import PowerDiscovery.CommandLine.Arguments
import PowerDiscovery.CommandLine.Flag
import PowerDiscovery.CommandLine.Help
import PowerDiscovery.CommandLine.Reader
import PowerDiscovery.Device
import PowerDiscovery.Discovery.Engine
import PowerDiscovery.Discovery.Engines
import PowerDiscovery.Discovery.Ipmi
import PowerDiscovery.Discovery.Mdns
import PowerDiscovery.Discovery.NetXml
import PowerDiscovery.Discovery.Pool
import PowerDiscovery.Discovery.Probe
import PowerDiscovery.Discovery.Serial
import PowerDiscovery.Discovery.Simulation
import PowerDiscovery.Discovery.Snmp
import PowerDiscovery.Discovery.Traffic
import PowerDiscovery.Discovery.Upsd
import PowerDiscovery.Discovery.Usb
import PowerDiscovery.Document.Node
import PowerDiscovery.Document.Phrase
import PowerDiscovery.Document.Place
import PowerDiscovery.Document.Reader
import PowerDiscovery.Document.Scalar
import PowerDiscovery.Fault
import PowerDiscovery.Files
import PowerDiscovery.Journal
import PowerDiscovery.Location
import PowerDiscovery.LogLevel
import PowerDiscovery.Main
import PowerDiscovery.Number.Binary64
import PowerDiscovery.Number.Numeral
import PowerDiscovery.Number.Reader
import PowerDiscovery.Number.Shortest
import PowerDiscovery.Program
import PowerDiscovery.Proofs.Discovery.CompletionOrder
import PowerDiscovery.Proofs.Discovery.Errands
import PowerDiscovery.Proofs.Discovery.SharedSlots
import PowerDiscovery.Proofs.Discovery.Sweep
import PowerDiscovery.Proofs.Run.Calls
import PowerDiscovery.Proofs.Run.Completion
import PowerDiscovery.Proofs.Run.Crew
import PowerDiscovery.Proofs.Run.Dispatch
import PowerDiscovery.Proofs.Run.Display
import PowerDiscovery.Proofs.Run.Modes
import PowerDiscovery.Proofs.Run.Requests
import PowerDiscovery.Range.Folder
import PowerDiscovery.Range.Interfaces
import PowerDiscovery.Range.Registry
import PowerDiscovery.Report.Layout
import PowerDiscovery.Report.Mode
import PowerDiscovery.Report.Renderer
import PowerDiscovery.Report.Serials
import PowerDiscovery.Run.Crew
import PowerDiscovery.Run.Dispatch
import PowerDiscovery.Run.Enablement
import PowerDiscovery.Run.Execution
import PowerDiscovery.Run.State
import PowerDiscovery.Run.Worker
import PowerDiscovery.Settings.Basic
import PowerDiscovery.Settings.FromArguments
import PowerDiscovery.Settings.FromDocument
import PowerDiscovery.Settings.FromEnvironment
import PowerDiscovery.Settings.Options
import PowerDiscovery.Settings.Validation
import PowerDiscovery.Site.Basic
import PowerDiscovery.Site.Contact
import PowerDiscovery.Slots
import PowerDiscovery.Text.Blank
import PowerDiscovery.Text.Digit
import PowerDiscovery.Text.Letter
import PowerDiscovery.Text.Literal
import PowerDiscovery.Text.Printable
import PowerDiscovery.Text.Quoted
import PowerDiscovery.Text.Split
import PowerDiscovery.Text.Utf8
import PowerDiscovery.Value
import PowerDiscovery.Proofs.Address.Digits
import PowerDiscovery.Proofs.Address.RoundTrip
import PowerDiscovery.Proofs.Address.Enumeration
import PowerDiscovery.Proofs.Address.Networks
import PowerDiscovery.Proofs.Address.Cidr
import PowerDiscovery.Proofs.Range.Folding
import PowerDiscovery.Proofs.Report.Reading
import PowerDiscovery.Proofs.Report.Lines
import PowerDiscovery.Proofs.Run.Aftermath
import PowerDiscovery.Proofs.CommandLine.LastGiven
import PowerDiscovery.Proofs.Budget.Granted
import PowerDiscovery.Proofs.Program.Arrangement
import PowerDiscovery.Proofs.Program.Course
import PowerDiscovery.Proofs.Program.Credentials
import PowerDiscovery.Proofs.Program.Refusal
import PowerDiscovery.Proofs.Number.Overflow
import PowerDiscovery.Proofs.Settings.Usable
import PowerDiscovery.Proofs.Settings.Loading
import PowerDiscovery.Proofs.Settings.Checks
import PowerDiscovery.Proofs.Program.SettingsFile
import PowerDiscovery.Proofs.Settings.Repair
import PowerDiscovery.Proofs.Program.Timeout
import PowerDiscovery.Proofs.Address.PrefixLength
import PowerDiscovery.Proofs.Range.LocalNetworks
import PowerDiscovery.Proofs.Budget.Calls
import PowerDiscovery.Proofs.Budget.InForce
import PowerDiscovery.Proofs.Budget.Ownership
import PowerDiscovery.Proofs.Range.PlainMasks
import PowerDiscovery.Proofs.Range.History
import PowerDiscovery.Proofs.Discovery.Targets
import PowerDiscovery.Proofs.Discovery.Losses
import PowerDiscovery.Proofs.Report.Serials
import PowerDiscovery.Proofs.Discovery.UnitLists
import PowerDiscovery.Proofs.Run.SlotCalls
import PowerDiscovery.Proofs.CommandLine.NamedBackends
import PowerDiscovery.Proofs.Program.NamedScans
import PowerDiscovery.Proofs.Discovery.Inventories
import PowerDiscovery.Proofs.Sorting
import PowerDiscovery.Proofs.Discovery.Identifiers
import PowerDiscovery.Proofs.Discovery.LinkDetail
import PowerDiscovery.Proofs.Discovery.SimulationFiles
