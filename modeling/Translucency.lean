import Translucency.Act
import Translucency.Controller
import Translucency.Dependency
import Translucency.Exclusion.Cache
import Translucency.Exclusion.Matcher
import Translucency.Exclusion.Patterns
import Translucency.Exclusion.Token
import Translucency.Fault
import Translucency.File
import Translucency.Ini
import Translucency.Json.Reader
import Translucency.Json.Text
import Translucency.Kwin.Desktop
import Translucency.Kwin.Journal
import Translucency.Kwin.Script
import Translucency.Kwin.Source
import Translucency.Log
import Translucency.Main
import Translucency.Mishap
import Translucency.Monitor
import Translucency.Number.Binary64
import Translucency.Number.Decimal
import Translucency.Number.Numeral
import Translucency.Opacity.Clamp
import Translucency.Opacity.Policy
import Translucency.Printing
import Translucency.Program.Machine
import Translucency.Program.Options
import Translucency.Program.Run
import Translucency.Proofs.Act
import Translucency.Proofs.Controller.Deciding
import Translucency.Proofs.Controller.Pass
import Translucency.Proofs.Controller.Reference
import Translucency.Proofs.Controller.Refinement
import Translucency.Proofs.Controller.Window
import Translucency.Proofs.Exclusion.CacheUpdate
import Translucency.Proofs.Exclusion.Commas
import Translucency.Proofs.Exclusion.Complaints
import Translucency.Proofs.Exclusion.Grammar
import Translucency.Proofs.Exclusion.History
import Translucency.Proofs.Exclusion.Joining
import Translucency.Proofs.Exclusion.Occurrence
import Translucency.Proofs.Exclusion.PatternTexts
import Translucency.Proofs.Exclusion.Printing
import Translucency.Proofs.Exclusion.Session
import Translucency.Proofs.Ini.Lines
import Translucency.Proofs.Ini.Sections
import Translucency.Proofs.Json.Literals
import Translucency.Proofs.Json.Numbers
import Translucency.Proofs.Json.Objects
import Translucency.Proofs.Json.OneLine
import Translucency.Proofs.Json.Printable
import Translucency.Proofs.Json.Strings
import Translucency.Proofs.Kwin.Acceptance
import Translucency.Proofs.Kwin.Commands
import Translucency.Proofs.Kwin.Delivery
import Translucency.Proofs.Kwin.LifeCycle
import Translucency.Proofs.Kwin.Listing
import Translucency.Proofs.Kwin.LostLines
import Translucency.Proofs.Kwin.OpacityScript
import Translucency.Proofs.Kwin.Operations
import Translucency.Proofs.Kwin.Payloads
import Translucency.Proofs.Kwin.Printed
import Translucency.Proofs.Kwin.Recovery
import Translucency.Proofs.Kwin.Remarks
import Translucency.Proofs.Kwin.Service
import Translucency.Proofs.Kwin.Talking
import Translucency.Proofs.Kwin.Turns
import Translucency.Proofs.Monitor.Appearances
import Translucency.Proofs.Monitor.Listeners
import Translucency.Proofs.Monitor.Loop
import Translucency.Proofs.Monitor.Stage
import Translucency.Proofs.Number.DigitGroups
import Translucency.Proofs.Number.Magnitude
import Translucency.Proofs.Number.Numerals
import Translucency.Proofs.Number.Reading
import Translucency.Proofs.Number.Rounding
import Translucency.Proofs.Number.Spelling
import Translucency.Proofs.Opacity.Clamping
import Translucency.Proofs.Printing
import Translucency.Proofs.Program.Choices
import Translucency.Proofs.Program.Running
import Translucency.Proofs.Settings.Acceptance
import Translucency.Proofs.Settings.EventTime
import Translucency.Proofs.Settings.EveryRead
import Translucency.Proofs.Settings.Finite
import Translucency.Proofs.Settings.InForce
import Translucency.Proofs.Settings.Loading
import Translucency.Proofs.Settings.Mishaps
import Translucency.Proofs.Settings.Requests
import Translucency.Proofs.Settings.Validity
import Translucency.Proofs.Settings.Written
import Translucency.Proofs.Source.Health
import Translucency.Proofs.Source.Numbering
import Translucency.Proofs.Source.Refusals
import Translucency.Proofs.Source.Rewriting
import Translucency.Proofs.Source.Simulated
import Translucency.Proofs.Source.Streak
import Translucency.Proofs.Source.Undecodable
import Translucency.Proofs.Source.WindowsFile
import Translucency.Proofs.Text.Lines
import Translucency.Proofs.Text.LowerCase
import Translucency.Proofs.Text.Sigma
import Translucency.Proofs.Text.SmallLetters
import Translucency.Proofs.Text.Trim
import Translucency.Settings.Basic
import Translucency.Settings.Fault
import Translucency.Settings.Format
import Translucency.Settings.Loader
import Translucency.Settings.Validation
import Translucency.Source.Basic
import Translucency.Source.Health
import Translucency.Source.Simulation
import Translucency.Source.WindowsFile
import Translucency.Text.Base64
import Translucency.Text.Blank
import Translucency.Text.Digit
import Translucency.Text.Lines
import Translucency.Text.LowerCase
import Translucency.Text.LowerCase.Table
import Translucency.Text.Pieces
import Translucency.Text.Printable
import Translucency.Text.Quoted
import Translucency.Text.Spans
import Translucency.Timestamp
import Translucency.Value
import Translucency.Window
import Translucency.Yaml.Cursor
import Translucency.Yaml.Document
import Translucency.Yaml.Node
import Translucency.Yaml.Scalar
import Translucency.Yaml.Settings
import Translucency.Yaml.Stamp
import Translucency.Yaml.Tag
import Translucency.Yaml.Token
import Translucency.Yaml.Token.Lexer
import Translucency.Yaml.Token.Scalar
