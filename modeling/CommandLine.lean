import CommandLine.Declaration.EntryPoint
import CommandLine.Declaration.Program
import CommandLine.Declaration.ValueType
import CommandLine.Main
import CommandLine.Process
import CommandLine.Proofs.Dispatch
import CommandLine.Proofs.Extension
import CommandLine.Proofs.Faithful
import CommandLine.Proofs.Genuine
import CommandLine.Proofs.RoundTrip
import CommandLine.Proofs.Terminator
import CommandLine.Sample.Programs
import CommandLine.Token
import CommandLine.Proofs.Commutation
import CommandLine.Proofs.Context
import CommandLine.Proofs.Spelling
import CommandLine.Proofs.Naming
import CommandLine.Proofs.Flags
import CommandLine.Proofs.Shadowing
import CommandLine.Proofs.Numbering
import CommandLine.Proofs.CommandTable
import CommandLine.Proofs.Reflow
import CommandLine.Proofs.Screen
import CommandLine.Proofs.Grouping
import CommandLine.Proofs.Unparsing
import CommandLine.Proofs.Digits
import CommandLine.Proofs.Span
import CommandLine.Proofs.NumberArguments
import CommandLine.Proofs.ByteSize
import CommandLine.Proofs.ValueTypes
import CommandLine.Proofs.SizeLimit
import CommandLine.Proofs.Highlight
import CommandLine.Proofs.EntryPoint
import CommandLine.Proofs.Equality
