import TypedCatalog.Declaration.OfCatalog

/-! The text of a generated module: the declarations of one schema by kind, and the index that
exports every module. -/
namespace TypedCatalog.Declaration

open Catalog

structure Section where
  title : Text
  declarations : List Declaration

def procedureSuffix : Text := "Procedure"

/-- A kind of object that the schema does not have makes no section. -/
def sectionOf {α : Type} (title : Text) (group : Register α)
    (declare : α → List Declaration) : List Section :=
  if group.isEmpty then [] else [⟨title, group.records.flatMap declare⟩]

def sections (schema : Schema) : List Section :=
  sectionOf "Table interfaces" schema.tables (fun table => [ofTable table, ofQuery table]) ++
  sectionOf "View interfaces" schema.views (fun view => [ofView view]) ++
  sectionOf "Enum types" schema.enums (fun enumeration => [ofEnumeration enumeration]) ++
  sectionOf "Function types" schema.functions (ofRoutine []) ++
  sectionOf "Procedure types" schema.procedures (ofRoutine procedureSuffix)

def Section.body (part : Section) : Text := joined (part.declarations.map text)

def Section.text (part : Section) : Text := "\n// " ++ part.title ++ '\n' :: part.body

def header (schema : Text) : Text :=
  "/**\n * Generated TypeScript types for the \"" ++ schema ++ "\" schema\n */\n"

def schemaModule (schema : Schema) : Text :=
  header schema.name ++ (sections schema).flatMap Section.text

def indexHeader : Text := "/**\n * Index file for generated TypeScript types\n */\n\n"

def exportLine (schema : Schema) : Text :=
  "export * from './" ++ Name.moduleName schema.name ++ "';\n"

def indexModule (schemas : List Schema) : Text :=
  indexHeader ++ schemas.flatMap exportLine

end TypedCatalog.Declaration
