import TypedCatalog.Text.Blank
import TypedCatalog.Text.Case
import TypedCatalog.Value.Basic

/-! Column types of the database and the types that stand for them in generated declarations. The
mapping is total: what no row of the table knows is `unknown`. -/
namespace TypedCatalog.SqlType

inductive Category where
  | numeric
  | string
  | temporal
  | boolean
  | binary
  | json
  | array
  | enum
  | uuid
  | network
  | geometric
  | other
  deriving DecidableEq

def Category.text : Category → Text
  | numeric => "numeric"
  | string => "string"
  | temporal => "temporal"
  | boolean => "boolean"
  | binary => "binary"
  | json => "json"
  | array => "array"
  | enum => "enum"
  | uuid => "uuid"
  | network => "network"
  | geometric => "geometric"
  | other => "other"

/-- Which type names a row is for. -/
inductive Pattern where
  | oneOf (names : List Text)
  | anyLine
  deriving DecidableEq

def Pattern.holds : Pattern → Text → Bool
  | oneOf names, name => names.contains name
  | anyLine, name => '\n' ∉ name

structure Row where
  pattern : Pattern
  declared : Text
  category : Category
  /-- A literal to start from. -/
  initial : Text
  deriving DecidableEq

def numberType : Text := "number"
def stringType : Text := "string"
def booleanType : Text := "boolean"
def jsonType : Text := "Record<string, unknown>"
def unknownType : Text := "unknown"

def emptyLiteral : Text := "\"\""

def numericNames : List Text :=
  ["smallint", "integer", "int", "int2", "int4", "int8", "bigint", "decimal", "numeric", "real",
    "float4", "float8", "double precision", "smallserial", "serial", "serial2", "serial4",
    "serial8", "bigserial"]

def textNames : List Text :=
  ["char", "character", "bpchar", "varchar", "character varying", "text", "citext", "name"]

def temporalNames : List Text :=
  ["timestamp", "timestamp with time zone", "timestamp without time zone", "timestamptz", "date",
    "time", "time with time zone", "time without time zone", "timetz"]

def geometricNames : List Text := ["point", "line", "lseg", "box", "path", "polygon", "circle"]

def knownRows : List Row :=
  [⟨.oneOf numericNames, numberType, .numeric, "0"⟩,
    ⟨.oneOf textNames, stringType, .string, emptyLiteral⟩,
    ⟨.oneOf ["boolean", "bool"], booleanType, .boolean, "false"⟩,
    ⟨.oneOf temporalNames, stringType, .temporal, "new Date().toISOString()"⟩,
    ⟨.oneOf ["interval"], stringType, .temporal, emptyLiteral⟩,
    ⟨.oneOf ["uuid"], stringType, .uuid, emptyLiteral⟩,
    ⟨.oneOf ["json", "jsonb"], jsonType, .json, "\x7b\x7d"⟩,
    ⟨.oneOf ["bytea"], stringType, .binary, emptyLiteral⟩,
    ⟨.oneOf ["inet", "cidr", "macaddr", "macaddr8"], stringType, .network, emptyLiteral⟩,
    ⟨.oneOf geometricNames, stringType, .geometric, emptyLiteral⟩,
    ⟨.oneOf ["enum"], stringType, .enum, emptyLiteral⟩]

/-- The row for every other type. -/
def otherRow : Row := ⟨.anyLine, unknownType, .other, "undefined"⟩

/-- The table, first match first. -/
def rows : List Row := knownRows ++ [otherRow]

/-- Drops every group from an opening parenthesis to the next closing one. `group` holds what came
since an opening that is not closed yet, last character first; such an opening stays. -/
def dropGroups (group : Option Text) : Text → Text
  | [] => (group.getD []).reverse
  | c :: rest =>
    match group with
    | none => if c = '(' then dropGroups (some [c]) rest else c :: dropGroups none rest
    | some held => if c = ')' then dropGroups none rest else dropGroups (some (c :: held)) rest

/-- Small letters, no groups in parentheses, single blanks between words and none around them. -/
def normalize (name : Text) : Text :=
  Text.join [' '] (Text.words (dropGroups none (Text.trim (Text.lower name))))

/-- The element type of an array type: brackets at the end or an underscore in front. -/
def element? (name : Text) : Option Text :=
  match Text.before? "[]" name with
  | some element => some element
  | none =>
    match name with
    | '_' :: c :: rest => some (c :: rest)
    | _ => none

/-- The type below all array levels and their number. Each level is shorter than the one above, so
that the length of the name bounds them. -/
def stripArrays : (fuel : Nat) → Text → Text × Nat
  | 0, name => (name, 0)
  | fuel + 1, name =>
    match element? name with
    | none => (name, 0)
    | some element =>
      let (base, depth) := stripArrays fuel (Text.trim element)
      (base, depth + 1)

def baseAndDepth (name : Text) : Text × Nat := stripArrays name.length name

def row (name : Text) : Row := (rows.find? fun row => row.pattern.holds name).getD otherRow

def arrayOf (item : Text) : Text := item ++ ['[', ']']

/-- A type under a number of array levels. -/
def nested : Nat → Text → Text
  | 0, item => item
  | depth + 1, item => nested depth (arrayOf item)

/-- The declared type of a column type. -/
def declared (name : Text) : Text :=
  let (base, depth) := baseAndDepth (normalize name)
  nested depth (row base).declared

/-- A type of structured values, with a sample of them for those who want to look at it. -/
structure Structured where
  sample : Value

/-- The general record, whatever the sample is. -/
def Structured.text (_ : Structured) : Text := jsonType

/-- The declared type of a column type with a sample of the values of the column. Structured types
keep the sample, unless they stand under an array level, and do without the table. -/
def declaredWith (sample : Value) (name : Text) : Text :=
  let (base, depth) := baseAndDepth (normalize name)
  let kept := if depth = 0 then sample else .null
  let structured := base = "json" || base = "jsonb"
  nested depth (if structured then (Structured.mk kept).text else (row base).declared)

def category (name : Text) : Category :=
  let name := normalize name
  if (element? name).isSome then .array else (row name).category

/-- A literal that a value of the type can start from. -/
def initial (name : Text) : Text :=
  let name := normalize name
  if (element? name).isSome then "[]" else (row name).initial

end TypedCatalog.SqlType
