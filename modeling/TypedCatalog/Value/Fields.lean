import TypedCatalog.Value.Access

/-! The fields of a record that is given as a mapping with one name for each. -/
namespace TypedCatalog.Value

/-- The entries of a mapping that has no other fields than the named ones, and all required ones. -/
def fields (names required : List Text) (data : Value) : Except Fault Entries :=
  match data with
  | dict entries =>
    let isKnown := entries.all fun (key, _) => names.any fun name => sameKey (str name) key
    let isComplete := required.all fun name => (lookup? name entries).isSome
    if isKnown && isComplete then .ok entries else .error (.misuse .unsupported)
  | _ => .error (.misuse .unsupported)

namespace Entries

def textField (entries : Entries) (name : Text) (default : Text := []) : Text :=
  ((lookup? name entries).getD (str default)).shown

def flagField (entries : Entries) (name : Text) (default : Bool := false) : Bool :=
  ((lookup? name entries).getD (bool default)).isTruthy

variable {α : Type} (read : Value → Except Fault α)

/-- A field that may be null or missing. -/
def optionField (entries : Entries) (name : Text) : Except Fault (Option α) :=
  match lookup? name entries with
  | none | some null => .ok none
  | some value => (read value).map some

/-- The members of a list. -/
def listField (entries : Entries) (name : Text) : Except Fault (List α) :=
  match lookup? name entries with
  | some (list items) => items.mapM read
  | _ => .ok []

/-- The members of a mapping under their keys. -/
def mapField (entries : Entries) (name : Text) : Except Fault (List (Text × α)) :=
  match lookup? name entries with
  | some (dict members) => members.mapM fun (key, value) => (read value).map fun x => (key.shown, x)
  | _ => .ok []

end Entries
end TypedCatalog.Value
