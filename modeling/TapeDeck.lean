import TapeDeck.Catalog.AnyShape
import TapeDeck.Catalog.Basic
import TapeDeck.Catalog.Builtin
import TapeDeck.Catalog.Misfit
import TapeDeck.Catalog.Reader
import TapeDeck.Catalog.Reading
import TapeDeck.CommandLine.Command
import TapeDeck.CommandLine.Disk
import TapeDeck.CommandLine.Headless
import TapeDeck.CommandLine.Options
import TapeDeck.CommandLine.Script
import TapeDeck.Duration
import TapeDeck.Log
import TapeDeck.Machine.Basic
import TapeDeck.Machine.Drive
import TapeDeck.Machine.Report
import TapeDeck.Main
import TapeDeck.Program.Bracket
import TapeDeck.Program.Command
import TapeDeck.Program.Listing
import TapeDeck.Proofs.Machine.Adequacy
import TapeDeck.Proofs.Machine.Alike
import TapeDeck.Proofs.Machine.Step
import TapeDeck.Proofs.Program.Partner
import TapeDeck.Proofs.Program.Tree
import TapeDeck.Proofs.Screen.Highlight
import TapeDeck.Proofs.Screen.Lockstep
import TapeDeck.Proofs.Screen.Run
import TapeDeck.Proofs.Screen.TickChain
import TapeDeck.Screen.Basic
import TapeDeck.Screen.Block
import TapeDeck.Screen.Pane
import TapeDeck.Screen.Pen
import TapeDeck.Screen.Terminal
import TapeDeck.Screen.Update
import TapeDeck.Screen.View
import TapeDeck.Screen.Wrap
import TapeDeck.Sound.Tone
import TapeDeck.Sound.Track
import TapeDeck.Sound.Wav
import TapeDeck.Tape
import TapeDeck.Text.Bytes
import TapeDeck.Text.Cluster
import TapeDeck.Text.ClusterTable
import TapeDeck.Text.CodePage
import TapeDeck.Text.Encoding
import TapeDeck.Text.Fraction
import TapeDeck.Text.Numeral
import TapeDeck.Text.Printable
import TapeDeck.Text.Quoted
import TapeDeck.Text.Utf8
import TapeDeck.Yaml.Cursor
import TapeDeck.Yaml.Error
import TapeDeck.Yaml.Node
import TapeDeck.Yaml.Scalar
import TapeDeck.Yaml.ScalarText
import TapeDeck.Yaml.Source
import TapeDeck.Yaml.Timestamp
import TapeDeck.Yaml.Token
import TapeDeck.Yaml.Value
import TapeDeck.Proofs.Machine.Calls
import TapeDeck.Proofs.Machine.Bounds
import TapeDeck.Proofs.Machine.Invariant
import TapeDeck.Proofs.Machine.Drive
import TapeDeck.Proofs.Machine.Drivers
import TapeDeck.Proofs.Machine.Sessions
import TapeDeck.Proofs.Machine.Halt
import TapeDeck.Proofs.Program.Balance
import TapeDeck.Proofs.Machine.Fault
import TapeDeck.Proofs.Program.Comments
import TapeDeck.Proofs.Machine.Comments
import TapeDeck.Proofs.Machine.Landing
import TapeDeck.Proofs.Machine.Widen
import TapeDeck.Proofs.Machine.TapeWindow
import TapeDeck.Proofs.Screen.Reload
import TapeDeck.Proofs.Screen.Refusal
import TapeDeck.Proofs.Screen.CodePane
import TapeDeck.Proofs.Screen.HistoryPane
import TapeDeck.Proofs.CommandLine.Headless
import TapeDeck.Proofs.CommandLine.Command
import TapeDeck.Proofs.Machine.Account
import TapeDeck.Proofs.Program.Matching
import TapeDeck.Proofs.Program.Enclosure
import TapeDeck.Proofs.Machine.Cost
import TapeDeck.Proofs.Sound.Writing
import TapeDeck.Proofs.Sound.Reading
import TapeDeck.Proofs.Sound.Refusal
import TapeDeck.Proofs.Sound.Track
import TapeDeck.Proofs.Tape
import TapeDeck.Proofs.Catalog
import TapeDeck.Proofs.Text.Lines
import TapeDeck.Proofs.Text.Column
import TapeDeck.Proofs.Text.CharBytes
import TapeDeck.Proofs.Text.Cut
import TapeDeck.Proofs.Text.Utf8
import TapeDeck.Proofs.Text.Encoding
import TapeDeck.Proofs.CommandLine.Trace
import TapeDeck.Proofs.Printout
