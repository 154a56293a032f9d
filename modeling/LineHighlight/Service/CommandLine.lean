import LineHighlight.Config.Yaml
import LineHighlight.Service.Protocol

/-!
The command line: which configuration the service starts with, and how a run ends.

The word behind the first `--config` that has one is the path of the configuration. Without
it, the defaults hold. All other words are passed over.
-/

namespace LineHighlight.CommandLine

/-- The path of the configuration. -/
def configPath? : List String → Option String
  | "--config" :: path :: _ => some path
  | _ :: rest => configPath? rest
  | [] => none

/-- The configuration that a run starts with. -/
def config (files : Files.Tree) (home : Files.Place) (args : List String) :
    Except Error Config :=
  match configPath? args with
  | some path => Config.ofFile files home path
  | none => .ok {}

/-- A run: the service, its state, and how far the conversation has come. -/
structure Run where
  service : WorldService
  state : WorldState
  conversation : Conversation := .fresh

/-- The start of a run. -/
def start (files : Files.Tree) (home : Files.Place) (args : List String) : Except Error Run :=
  (config files home args).map fun c =>
    { service := Service.ofConfig c
      state := { system := { loader := {}, world := { files, home } } } }

/-- Takes a line of the client; gives what is said. -/
def Run.take (r : Run) (line : String) : Run × List Json :=
  let e := Protocol.takeLine r.service r.conversation line r.state
  ({ r with state := e.world, conversation := e.value.1 }, e.value.2)

/-- What is wrong with a run that ends here, if anything. -/
def Run.fault? (r : Run) : Option String :=
  match Protocol.hangUp r.conversation with
  | .ok () => none
  | .error reason => some reason

end LineHighlight.CommandLine
