import TypedCatalog.CommandLine.Codegen
import TypedCatalog.CommandLine.Health
import TypedCatalog.CommandLine.Schemas

/-! The program: a command by its name. -/
namespace TypedCatalog.CommandLine

structure Command where
  name : Text
  summary : Text
  run : List Text → World → Ending × World

/-- Ends as a program does: a message goes to the error output, with the code of a failure. -/
def settle : Ending × World → Ending × World
  | (.fault fault, world) => (.fault fault, world)
  | (.quit message, world) => (.returned (some (Ending.quit message).code), world.complain message)
  | (ending, world) => (.returned (some ending.code), world)

def commands : List Command :=
  [⟨"codegen", "Generate TypeScript types from schema metadata",
      fun texts world => settle (Codegen.command texts world)⟩,
    ⟨"schemas", "Fetch schema metadata and print or save a snapshot", Schemas.command⟩,
    ⟨"health", "Show API health and metadata cache status", Health.command⟩]

def introduction : List Text :=
  ["",
    "Command line tools for prism APIs.",
    "",
    "Usage:",
    "    python -m prism_client <command> [options]",
    "",
    "Commands:",
    "    codegen     Generate TypeScript types from schema metadata",
    "    schemas     Fetch schema metadata and print or save a snapshot",
    "    health      Show API health and metadata cache status",
    "",
    "Examples:",
    "    python -m prism_client codegen --url http://localhost:8000 --output src/gen",
    "    python -m prism_client codegen snapshot.yaml --schema public",
    "    python -m prism_client schemas --output snapshot.yaml",
    "    python -m prism_client health",
    ""]

def overview : List Text :=
  let listing := commands.map fun command =>
    "  " ++ Text.padRight 12 command.name ++ ' ' :: command.summary
  let heading : Text := "Available commands:"
  let hint : List Text := ["", "Use '<command> --help' for command-specific options."]
  introduction ++ heading :: listing ++ hint

def isHelp (text : Text) : Bool := text = shortHelp || text = helpSwitch.name

/-- Runs the command that the first argument names with the other arguments. -/
def program (texts : List Text) (world : World) : Ending × World :=
  match texts with
  | [] => (.returned (some 0), overview.foldl World.print world)
  | name :: texts =>
    if isHelp name then (.returned (some 0), overview.foldl World.print world)
    else match commands.find? fun command => command.name == name with
      | some command => command.run texts world
      | none =>
        let known := Text.join ", " (commands.map (·.name))
        (.returned (some 1), (world.print ("Unknown command: " ++ name)).print
          ("Available commands: " ++ known))

/-- The paths that arguments may name, of those that a run may read. -/
def mentionedPaths (texts : List Text) : List Path :=
  Codegen.defaultOutput :: (texts ++ texts.filterMap fun text => (cutValue text).2).map .ofText

end TypedCatalog.CommandLine
