import LightingNet.Address.Parse
import LightingNet.Discovery.Session
import LightingNet.Rdm.Device
import LightingNet.Report.Device
import LightingNet.Report.Simulation
import LightingNet.Settings.Json
import LightingNet.Simulation.Gateway
import LightingNet.Transport.Listener
import LightingNet.Proofs.Bytes.Places
import LightingNet.Proofs.Rdm.Checksum
import LightingNet.Proofs.Rdm.Packet
import LightingNet.Proofs.Text.Field
import LightingNet.Proofs.Rdm.Damage
import LightingNet.Proofs.Wire.Header
import LightingNet.Proofs.Wire.Damage
import LightingNet.Proofs.Wire.Kept
import LightingNet.Proofs.Wire.RoundTrip
import LightingNet.Proofs.Wire.Grammar
import LightingNet.Proofs.Transport.Receivers
import LightingNet.Proofs.Rdm.Correlation
import LightingNet.Proofs.Discovery.History
import LightingNet.Proofs.Node.Identity
import LightingNet.Proofs.Ranked
import LightingNet.Proofs.Discovery.Tables
import LightingNet.Proofs.Discovery.Runs
import LightingNet.Proofs.Discovery.Publication
import LightingNet.Proofs.Discovery.Universes
import LightingNet.Proofs.Discovery.Asking
import LightingNet.Proofs.Discovery.Requests
import LightingNet.Proofs.Node.Groups
import LightingNet.Proofs.Node.Ports
import LightingNet.Proofs.Discovery.Outputs
import LightingNet.Proofs.Discovery.Isolation
import LightingNet.Proofs.Discovery.Calls
import LightingNet.Proofs.Snapshot.Consistency
import LightingNet.Proofs.Snapshot.Owners
import LightingNet.Proofs.Simulation.Requests
import LightingNet.Proofs.Simulation.Wired
import LightingNet.Proofs.Rdm.Description
import LightingNet.Proofs.Rdm.Mirror
import LightingNet.Proofs.Simulation.Tables
import LightingNet.Proofs.Simulation.Answers
import LightingNet.Proofs.Discovery.Fleet
import LightingNet.Proofs.Discovery.Delivery
import LightingNet.Proofs.Discovery.World
import LightingNet.Proofs.Simulation.Built
import LightingNet.Proofs.Simulation.Readings
import LightingNet.Proofs.Address.Ranges
import LightingNet.Proofs.Rdm.Numbering
import LightingNet.Proofs.Rdm.Loading
import LightingNet.Proofs.Transport.Sending
import LightingNet.Proofs.Transport.Traffic
import LightingNet.Proofs.Transport.Dispatch
import LightingNet.Proofs.Transport.Buffers
import LightingNet.Proofs.Transport.Waiting
import LightingNet.Proofs.Wire.Reencoding
import LightingNet.Proofs.Node.Naming
import LightingNet.Proofs.Discovery.Retransmission
import LightingNet.Proofs.Transport.Guests
import LightingNet.Proofs.Transport.Visits
import LightingNet.Proofs.Wire.Truncation
import LightingNet.Proofs.Wire.Filling
import LightingNet.Proofs.Rdm.Updates
import LightingNet.Proofs.Simulation.Atomicity
import LightingNet.Proofs.Snapshot.Queries
import LightingNet.Proofs.Text.Blank
import LightingNet.Proofs.Text.Numeral
import LightingNet.Proofs.Bytes.Order
import LightingNet.Proofs.Text.Hexadecimal
import LightingNet.Proofs.Address.Dotted
import LightingNet.Proofs.Address.Grammar
import LightingNet.Proofs.Rdm.Spelling
import LightingNet.Proofs.Rdm.Reach
import LightingNet.Proofs.Report.Readback
