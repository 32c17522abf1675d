import TypedCatalog.Text.Basic

/-! What a run reports about itself on the way. -/
namespace TypedCatalog

inductive Note where
  | asking (method url : Text)
  | refused (method url : Text) (status : Int)
  | parsed (count : Nat) (path : Text)
  | generating (directory : Text)
  | moduleWritten (schema path : Text)
  | indexWritten (path : Text)
  | generated (count : Nat)

namespace Note

inductive Level where
  | debug
  | info
  | warning

def Level.text : Level → Text
  | debug => "DEBUG"
  | info => "INFO"
  | warning => "WARNING"

def level : Note → Level
  | asking .. | parsed .. | moduleWritten .. | indexWritten .. => .debug
  | generating .. | generated .. => .info
  | refused .. => .warning

/-- The part of the program that reports. -/
def source : Note → Text
  | asking .. | refused .. => "prism_client.client.base"
  | parsed .. => "prism_client.shared.schema_loader"
  | _ => "prism_client.type_codegen.main"

def message : Note → Text
  | asking method url => method ++ ' ' :: url
  | refused method url status => method ++ ' ' :: url ++ " -> " ++ Text.ofInt status
  | parsed count path => "Parsed " ++ Text.ofNat count ++ " schema(s) from " ++ path
  | generating directory => "Generating TypeScript types in " ++ directory
  | moduleWritten schema path => "Generated types for schema " ++ schema ++ " -> " ++ path
  | indexWritten path => "Generated index file: " ++ path
  | generated count => "Successfully generated types for " ++ Text.ofNat count ++ " schema(s)"

def line (note : Note) : Text :=
  note.level.text ++ ':' :: note.source ++ ':' :: note.message ++ ['\n']

end Note
end TypedCatalog
