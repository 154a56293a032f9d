import LineHighlight.Config
import LineHighlight.Config.Yaml
import LineHighlight.Decode.Fault
import LineHighlight.Engine.Bundle
import LineHighlight.Engine.Deadline
import LineHighlight.Engine.Interpreter
import LineHighlight.Engine.Loader
import LineHighlight.Engine.Lock
import LineHighlight.Engine.Rules
import LineHighlight.Engine.Runtime
import LineHighlight.Engine.ScriptLibrary
import LineHighlight.Engine.Scripted
import LineHighlight.Engine.Session
import LineHighlight.Error
import LineHighlight.Files.Path
import LineHighlight.Files.Tree
import LineHighlight.Highlighter.Gate
import LineHighlight.Highlighter.Request
import LineHighlight.Highlighter.Segment
import LineHighlight.Json.Printer
import LineHighlight.Json.Reader
import LineHighlight.Json.Typed
import LineHighlight.Json.Value
import LineHighlight.Language
import LineHighlight.Log
import LineHighlight.Main
import LineHighlight.Mode
import LineHighlight.Number.Binary64
import LineHighlight.Number.Literal
import LineHighlight.Number.Shortest
import LineHighlight.Result
import LineHighlight.Schema
import LineHighlight.Script.Convert
import LineHighlight.Script.Library
import LineHighlight.Script.Name
import LineHighlight.Script.Payload
import LineHighlight.Script.Realm
import LineHighlight.Script.Stringify
import LineHighlight.Script.Value
import LineHighlight.Service.Budget
import LineHighlight.Service.CommandLine
import LineHighlight.Service.Message
import LineHighlight.Service.Protocol
import LineHighlight.Service.Server
import LineHighlight.Service.Tools
import LineHighlight.Text.Blank
import LineHighlight.Text.Duration
import LineHighlight.Text.Identifier
import LineHighlight.Text.Lines
import LineHighlight.Text.Quoted
import LineHighlight.Text.Shown
import LineHighlight.Text.Utf16
import LineHighlight.Text.Utf8
import LineHighlight.World
import LineHighlight.Yaml.Cursor
import LineHighlight.Yaml.Document
import LineHighlight.Yaml.Node
import LineHighlight.Yaml.Scalar.Block
import LineHighlight.Yaml.Scalar.Fold
import LineHighlight.Yaml.Scalar.Meaning
import LineHighlight.Yaml.Scalar.Plain
import LineHighlight.Yaml.Scalar.Quoted
import LineHighlight.Yaml.Stream
import LineHighlight.Yaml.Tag
import LineHighlight.Yaml.Token
import LineHighlight.Yaml.Typed
import LineHighlight.Proofs.Engine.Projection
import LineHighlight.Proofs.Engine.Record
import LineHighlight.Proofs.Engine.Marks
import LineHighlight.Proofs.Text.Lines
import LineHighlight.Proofs.Engine.Acquisition
import LineHighlight.Proofs.Engine.History
import LineHighlight.Proofs.Engine.Attempts
import LineHighlight.Proofs.Highlighter.Stitching
import LineHighlight.Proofs.Highlighter.Turns
import LineHighlight.Proofs.Highlighter.Locks
import LineHighlight.Proofs.Highlighter.Growth
import LineHighlight.Proofs.Highlighter.Recording
import LineHighlight.Proofs.Highlighter.Concatenation
import LineHighlight.Proofs.Highlighter.Deadline
import LineHighlight.Proofs.Engine.Scripted
import LineHighlight.Proofs.Highlighter.Answers
import LineHighlight.Proofs.Highlighter.LateEngine
import LineHighlight.Proofs.Highlighter.Gate
import LineHighlight.Proofs.Highlighter.Blocks
import LineHighlight.Proofs.Highlighter.Punctual
import LineHighlight.Proofs.Highlighter.Alike
import LineHighlight.Proofs.Service.Marks
import LineHighlight.Proofs.Service.Panics
import LineHighlight.Proofs.Json.Numerals
import LineHighlight.Proofs.Json.Objects
import LineHighlight.Proofs.Json.Strings
import LineHighlight.Proofs.Json.Documents
import LineHighlight.Proofs.Text.Utf16
import LineHighlight.Proofs.Number.Integers
import LineHighlight.Proofs.Number.Nearest
import LineHighlight.Proofs.Number.Numerals
import LineHighlight.Proofs.Result.Decoding
import LineHighlight.Proofs.Result.Acceptance
import LineHighlight.Proofs.Result.Written
import LineHighlight.Proofs.Script.Coercion
import LineHighlight.Proofs.Script.Handover
import LineHighlight.Proofs.Language.Names
import LineHighlight.Proofs.Language.Parsing
import LineHighlight.Proofs.Decode.Steps
import LineHighlight.Proofs.Json.Records
import LineHighlight.Proofs.Service.Calls
import LineHighlight.Proofs.Service.Tools
import LineHighlight.Proofs.Text.Folding
import LineHighlight.Proofs.Result.Relevance
import LineHighlight.Proofs.Service.Params
import LineHighlight.Proofs.Config.Checks
import LineHighlight.Proofs.Yaml.Scalars
import LineHighlight.Proofs.Yaml.Records
import LineHighlight.Proofs.Yaml.Outline
import LineHighlight.Proofs.Config.Fields
import LineHighlight.Proofs.Config.Settings
import LineHighlight.Proofs.Highlighter.Unmarked
import LineHighlight.Proofs.Highlighter.Alignment
import LineHighlight.Proofs.Service.GivenBack
import LineHighlight.Proofs.Text.Surrogates
import LineHighlight.Proofs.Json.Refusals
import LineHighlight.Proofs.Engine.Interruptions
import LineHighlight.Proofs.Engine.Interpreter
import LineHighlight.Proofs.Script.Strings
import LineHighlight.Proofs.Engine.Results
import LineHighlight.Proofs.Script.Library
import LineHighlight.Proofs.Engine.Sessions
import LineHighlight.Proofs.Highlighter.Causes
import LineHighlight.Proofs.Highlighter.Returned
import LineHighlight.Proofs.Script.Options
import LineHighlight.Proofs.Files.Paths
import LineHighlight.Proofs.Files.Walks
import LineHighlight.Proofs.Files.Writes
import LineHighlight.Proofs.Engine.Resources
import LineHighlight.Proofs.Engine.Directories
