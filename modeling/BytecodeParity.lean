import BytecodeParity.Abi.Catalog
import BytecodeParity.Abi.Lookup
import BytecodeParity.AddressBook
import BytecodeParity.Code.Comparison
import BytecodeParity.Code.Mask
import BytecodeParity.Code.Metadata
import BytecodeParity.Code.Pair
import BytecodeParity.Code.PoolHash
import BytecodeParity.Code.Shelf
import BytecodeParity.Code.Zeroing
import BytecodeParity.CommandLine.Arguments
import BytecodeParity.CommandLine.Collect
import BytecodeParity.CommandLine.Compare
import BytecodeParity.CommandLine.Diff
import BytecodeParity.CommandLine.Programs
import BytecodeParity.CommandLine.Reach
import BytecodeParity.CommandLine.World
import BytecodeParity.Contract.Catalog
import BytecodeParity.Contract.Immutables
import BytecodeParity.Decimal
import BytecodeParity.Deployment
import BytecodeParity.Environment
import BytecodeParity.Failure
import BytecodeParity.Files.Path
import BytecodeParity.Files.Tree
import BytecodeParity.Hex
import BytecodeParity.Http.Address
import BytecodeParity.Http.DomainName
import BytecodeParity.Http.DomainTable
import BytecodeParity.Http.Exchange
import BytecodeParity.Http.Host
import BytecodeParity.Http.Percent
import BytecodeParity.Http.Punycode
import BytecodeParity.Http.Route
import BytecodeParity.Http.Url
import BytecodeParity.Json.Basic
import BytecodeParity.Json.Fault
import BytecodeParity.Json.Lexical
import BytecodeParity.Json.Printer
import BytecodeParity.Json.Reader
import BytecodeParity.Json.Record
import BytecodeParity.Main
import BytecodeParity.Network
import BytecodeParity.Node
import BytecodeParity.Numeral
import BytecodeParity.OrderedMap
import BytecodeParity.Proofs.Abi.Lookup
import BytecodeParity.Proofs.AddressBook
import BytecodeParity.Proofs.ChainId
import BytecodeParity.Proofs.Code.Alignment
import BytecodeParity.Proofs.Code.Coverage
import BytecodeParity.Proofs.Code.Disjoint
import BytecodeParity.Proofs.Code.Exactness
import BytecodeParity.Proofs.Code.Guarded
import BytecodeParity.Proofs.Code.HashPosition
import BytecodeParity.Proofs.Code.HashSearch
import BytecodeParity.Proofs.Code.LengthField
import BytecodeParity.Proofs.Code.Mark
import BytecodeParity.Proofs.Code.Mirror
import BytecodeParity.Proofs.Code.Order
import BytecodeParity.Proofs.Code.Overwriting
import BytecodeParity.Proofs.Code.Passes
import BytecodeParity.Proofs.Code.Separation
import BytecodeParity.Proofs.Code.Spelling
import BytecodeParity.Proofs.Code.Trailer
import BytecodeParity.Proofs.Code.Unmasked
import BytecodeParity.Proofs.Code.Zeroing
import BytecodeParity.Proofs.Collect.DryRun
import BytecodeParity.Proofs.Collect.Files
import BytecodeParity.Proofs.Collect.Summary
import BytecodeParity.Proofs.CommandLine.Nodes
import BytecodeParity.Proofs.CommandLine.Reading
import BytecodeParity.Proofs.CommandLine.Verdict
import BytecodeParity.Proofs.Contract.RawForm
import BytecodeParity.Proofs.Contract.Registry
import BytecodeParity.Proofs.Contract.Undeployed
import BytecodeParity.Proofs.Deployment
import BytecodeParity.Proofs.EntryPoints
import BytecodeParity.Proofs.Files.Path
import BytecodeParity.Proofs.Files.Tree
import BytecodeParity.Proofs.Files.Written
import BytecodeParity.Proofs.Hex.Digits
import BytecodeParity.Proofs.Hex.Faults
import BytecodeParity.Proofs.Json.Acceptance
import BytecodeParity.Proofs.Json.Leaves
import BytecodeParity.Proofs.Json.Locality
import BytecodeParity.Proofs.Json.Printing
import BytecodeParity.Proofs.Json.Reading
import BytecodeParity.Proofs.Json.Record
import BytecodeParity.Proofs.Json.Skipping
import BytecodeParity.Proofs.Node
import BytecodeParity.Proofs.Numeral
import BytecodeParity.Proofs.Outcome
import BytecodeParity.Proofs.PoolHashes
import BytecodeParity.Proofs.Report.Contract
import BytecodeParity.Proofs.Report.Digest
import BytecodeParity.Proofs.Report.Grouping
import BytecodeParity.Proofs.Report.JsonText
import BytecodeParity.Proofs.Report.Printed
import BytecodeParity.Proofs.Report.Summary
import BytecodeParity.Proofs.Run
import BytecodeParity.Proofs.Settings
import BytecodeParity.Proofs.Settling
import BytecodeParity.Proofs.Text.Chunks
import BytecodeParity.Proofs.Text.Cuts
import BytecodeParity.Proofs.Text.Scan
import BytecodeParity.Proofs.Text.Size
import BytecodeParity.Report.Comparison
import BytecodeParity.Report.Contract
import BytecodeParity.Report.Layout
import BytecodeParity.Report.Style
import BytecodeParity.Report.Summary
import BytecodeParity.Report.Table
import BytecodeParity.Run
import BytecodeParity.Settings.Basic
import BytecodeParity.Settings.Loading
import BytecodeParity.Text.Alphanumeric
import BytecodeParity.Text.Basic
import BytecodeParity.Text.CaseFold
import BytecodeParity.Text.CaseTable
import BytecodeParity.Text.Composition
import BytecodeParity.Text.CompositionTable
import BytecodeParity.Text.EscapeCodes
import BytecodeParity.Text.Lossy
import BytecodeParity.Text.Marks
import BytecodeParity.Text.Printable
import BytecodeParity.Text.Quoted
import BytecodeParity.Text.Ranges
import BytecodeParity.Text.Replace
import BytecodeParity.Text.Width
import BytecodeParity.Text.WidthTable
import BytecodeParity.Text.WrittenTable
