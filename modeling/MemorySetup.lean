import MemorySetup.Text.Alphanumeric
import MemorySetup.Text.Whitespace
import MemorySetup.Text.Lines
import MemorySetup.Text.Numeral
import MemorySetup.Text.Search
import MemorySetup.Text.Utf8
import MemorySetup.Register
import MemorySetup.RegisterFile
import MemorySetup.Lexeme
import MemorySetup.Token
import MemorySetup.Instruction
import MemorySetup.Reading
import MemorySetup.Simulation
import MemorySetup.AddressTrace
import MemorySetup.CodeBlock
import MemorySetup.SetupCall
import MemorySetup.Address
import MemorySetup.Report
import MemorySetup.Files.Path
import MemorySetup.Files.FileSystem
import MemorySetup.Files.Folder
import MemorySetup.Executable.Name
import MemorySetup.Executable.Header
import MemorySetup.CommandLine.Arguments
import MemorySetup.CommandLine.Failure
import MemorySetup.CommandLine.Run
import MemorySetup.Interactive.Key
import MemorySetup.Interactive.TextArea
import MemorySetup.Interactive.Editor
import MemorySetup.Interactive.Session
import MemorySetup.Interactive.Canvas
import MemorySetup.Interactive.View
import MemorySetup.Interactive.Display
import MemorySetup.Interactive.Ansi
import MemorySetup.Main
import MemorySetup.Proofs.Trimming
import MemorySetup.Proofs.CallSites
import MemorySetup.Proofs.Machine
import MemorySetup.Proofs.BlockBounds
import MemorySetup.Proofs.SameReadings
import MemorySetup.Proofs.LineEnds
import MemorySetup.Proofs.Freshness
import MemorySetup.Proofs.Numerals
import MemorySetup.Proofs.Lexing
import MemorySetup.Proofs.Presentation
import MemorySetup.Proofs.Rendering
import MemorySetup.Proofs.Lookback
import MemorySetup.Proofs.InertLines
import MemorySetup.Proofs.Log
import MemorySetup.Proofs.Panes
import MemorySetup.Proofs.ResultRegister
import MemorySetup.Proofs.LineNumbers
import MemorySetup.Proofs.Loads
import MemorySetup.Proofs.StackAdoption
import MemorySetup.Proofs.Calculation
import MemorySetup.Proofs.ShownCalculation
import MemorySetup.Proofs.Cutting
import MemorySetup.Proofs.Grammar
import MemorySetup.Proofs.Utf8
import MemorySetup.Proofs.AllOrNothing
import MemorySetup.Proofs.BlockExtent
import MemorySetup.Proofs.Traces
import MemorySetup.Proofs.Scanning
import MemorySetup.Proofs.LineReaders
import MemorySetup.Proofs.EntryWord
import MemorySetup.Proofs.NameGrammar
import MemorySetup.Proofs.MissingHeap
import MemorySetup.Proofs.PrintedNumbers
import MemorySetup.Proofs.Context
import MemorySetup.Proofs.Immediates
