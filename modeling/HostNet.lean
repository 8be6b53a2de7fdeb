import HostNet.Address.Class
import HostNet.Binary.Value
import HostNet.Json.Value
import HostNet.Proofs.Address.Classes
import HostNet.Proofs.Address.Conversions
import HostNet.Proofs.Address.Foreign
import HostNet.Proofs.Address.Grammar
import HostNet.Proofs.Address.Layout
import HostNet.Proofs.Address.Obtained
import HostNet.Proofs.Address.Parsing
import HostNet.Proofs.Address.Presentation
import HostNet.Proofs.Address.Presented
import HostNet.Proofs.Address.Rendering
import HostNet.Proofs.Binary.Bounds
import HostNet.Proofs.Binary.Canonical
import HostNet.Proofs.Binary.Delimited
import HostNet.Proofs.Binary.RoundTrip
import HostNet.Proofs.EndpointText
import HostNet.Proofs.Interface.Grouping
import HostNet.Proofs.Interface.Placement
import HostNet.Proofs.Interface.Queries
import HostNet.Proofs.Interface.QueryRuns
import HostNet.Proofs.Interface.Replies
import HostNet.Proofs.Interface.Restriction
import HostNet.Proofs.Interface.WellFormed
import HostNet.Proofs.Json.Escape
import HostNet.Proofs.Json.Lexing
import HostNet.Proofs.Json.Reading
import HostNet.Proofs.Json.RoundTrip
import HostNet.Proofs.Kernel.AllOrNothing
import HostNet.Proofs.Kernel.Broadcasts
import HostNet.Proofs.Kernel.Faults
import HostNet.Proofs.Kernel.GrowthComplete
import HostNet.Proofs.Kernel.GrowthCourse
import HostNet.Proofs.Kernel.GrowthDoubling
import HostNet.Proofs.Kernel.GrowthFaults
import HostNet.Proofs.Kernel.GrowthOutcomes
import HostNet.Proofs.Kernel.GrowthStable
import HostNet.Proofs.Kernel.GrowthSteady
import HostNet.Proofs.Kernel.ListCalls
import HostNet.Proofs.Kernel.Listing
import HostNet.Proofs.Kernel.NamedIndexes
import HostNet.Proofs.Kernel.SharedRecords
import HostNet.Proofs.Kernel.Steps
import HostNet.Proofs.Kernel.Table
import HostNet.Proofs.Network.Block
import HostNet.Proofs.Network.Netmask
import HostNet.Proofs.Refusal
import HostNet.Proofs.Sequencing
import HostNet.Proofs.SourceAgreement
import HostNet.Proofs.Text.Digits
import HostNet.Proofs.Text.Repair
import HostNet.Proofs.Text.Utf8
import HostNet.Proofs.Text.ZeroFree
import HostNet.Source
