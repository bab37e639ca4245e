import Brickwork.Allocation
import Brickwork.Board
import Brickwork.Brick
import Brickwork.Code.Expr
import Brickwork.Code.Literal
import Brickwork.Code.Statement
import Brickwork.CommandLine.Arguments
import Brickwork.CommandLine.FileTree
import Brickwork.CommandLine.Run
import Brickwork.Decimal.Layout
import Brickwork.Decimal.Reading
import Brickwork.Decimal.Shortest
import Brickwork.Document.Bricks
import Brickwork.Document.Container
import Brickwork.Document.Fault
import Brickwork.Document.Load
import Brickwork.Document.Models
import Brickwork.Document.Number
import Brickwork.Document.Reader
import Brickwork.Document.Skip
import Brickwork.Document.Strings
import Brickwork.Document.Value
import Brickwork.Emission
import Brickwork.Error
import Brickwork.Generate
import Brickwork.Identifier
import Brickwork.Log
import Brickwork.Main
import Brickwork.Model
import Brickwork.Note
import Brickwork.Pin
import Brickwork.Program
import Brickwork.Proofs.Bench
import Brickwork.Proofs.Completeness
import Brickwork.Proofs.Firmware.Execution
import Brickwork.Proofs.Firmware.Expression
import Brickwork.Proofs.Firmware.Lines
import Brickwork.Proofs.Firmware.Statement
import Brickwork.Proofs.Firmware.Term
import Brickwork.Proofs.Firmware.Token
import Brickwork.Proofs.Handout
import Brickwork.Proofs.Legibility
import Brickwork.Proofs.Lists
import Brickwork.Proofs.Moments
import Brickwork.Proofs.Resolution
import Brickwork.Proofs.Stepping
import Brickwork.Proofs.Wiring
import Brickwork.Schedule
import Brickwork.Session
import Brickwork.Sketch.Dispatching
import Brickwork.Sketch.Guarding
import Brickwork.Sketch.Items
import Brickwork.Sketch.Plan
import Brickwork.Text.Blank
import Brickwork.Text.Combining
import Brickwork.Text.Ignorable
import Brickwork.Text.Numeral
import Brickwork.Text.Quoted
import Brickwork.Text.Unprintable
import Brickwork.Text.Utf8
import Brickwork.Proofs.WellFormed
import Brickwork.Proofs.Declarations
import Brickwork.Proofs.Footprint
import Brickwork.Proofs.Support
import Brickwork.Proofs.Firmware.Gates
import Brickwork.Proofs.Rounds
import Brickwork.Proofs.Upgrade
import Brickwork.Proofs.Ticking
import Brickwork.Proofs.Enumerators
import Brickwork.Proofs.Delivery
import Brickwork.Proofs.Messages
import Brickwork.Proofs.Weaving
import Brickwork.Proofs.Document.Yields
import Brickwork.Proofs.Header
import Brickwork.Proofs.Document.Spelling
import Brickwork.Proofs.Truth
import Brickwork.Proofs.Guards
import Brickwork.Proofs.Document.Endurance
import Brickwork.Proofs.Document.Interruption
import Brickwork.Proofs.Runs
import Brickwork.Proofs.Quoting
import Brickwork.Proofs.Sensors
import Brickwork.Proofs.Reports
import Brickwork.Proofs.Extension
import Brickwork.Proofs.Sides
import Brickwork.Proofs.Pinout
import Brickwork.Proofs.Layout
import Brickwork.Proofs.Document.MemberOrder
import Brickwork.Proofs.PinNames
import Brickwork.Proofs.Notes
