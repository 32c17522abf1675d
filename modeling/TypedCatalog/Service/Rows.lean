import TypedCatalog.Service.Client

/-! The rows of a table: finding, making, changing and counting them. -/
namespace TypedCatalog

/-- Which rows are asked for, in which order and how many. -/
structure Filter where
  conditions : Value := .dict []
  orderBy : Value := .null
  direction : Value := .null
  limit : Value := .null
  offset : Value := .null

namespace Filter

def putIf (condition : Bool) (name : Text) (value : Value) (params : Value.Entries) :
    Value.Entries :=
  if condition then Value.put params (.str name) value else params

/-- The conditions that are not null, by the text of their values. -/
def conditionParams (conditions : Value.Entries) : Except Fault Value.Entries :=
  conditions.foldlM
    (fun params (key, value) =>
      if value.isNull then .ok params
      else (Query.valueText value).map fun text => Value.put params key (.str text))
    []

/-- A number that is given is put by its text. -/
def putCount (name : Text) (count : Value) (params : Value.Entries) :
    Except Fault Value.Entries :=
  if count.isNull then .ok params
  else count.text.map fun text => Value.put params (.str name) (.str text)

/-- The parameters of a query. Order and count are put over conditions of the same name. -/
def params (filter : Filter) : Except Fault Value.Entries := do
  let conditions ← conditionParams (← filter.conditions.entries)
  let ordered := conditions
    |> putIf filter.orderBy.isTruthy "order_by" filter.orderBy
    |> putIf filter.direction.isTruthy "order_dir" filter.direction
  putCount "offset" filter.offset (← putCount "limit" filter.limit ordered)

end Filter

/-- The rows of one table of a service. -/
structure Rows where
  client : Client
  path : Text

namespace Rows

def ofTable (client : Client) (schema table : Text) : Rows :=
  { client, path := '/' :: schema ++ '/' :: table }

/-- The parameter that names a row. -/
def idParam (id : Text) : Value.Entries := [(.ofText "id", .str id)]

def findAll (rows : Rows) (filter : Filter) : Exchange Value := do
  let found ← rows.client.get rows.path (← filter.params)
  return found.orElse (.list [])

/-- The row with an id. -/
def findOne (rows : Rows) (id : Value) : Exchange Value := do
  let id ← id.text
  let found ← rows.findAll { conditions := .dict (idParam id) }
  if found.isTruthy then found.first else throw (.service (.notFound id))

def create (rows : Rows) (data : Value) : Exchange Value := do
  rows.client.call "POST" rows.path (.dict (← data.toEntries)) []

/-- Changes the row with an id; the result is its new state. -/
def update (rows : Rows) (id data : Value) : Exchange Value := do
  let data ← data.toEntries
  let id ← id.text
  let reply ← rows.client.call "PUT" rows.path (.dict data) (idParam id)
  let entries ← (reply.orElse (.dict [])).entries
  let updated := (Value.lookup? "updated_data" entries).getD .null
  if updated.isTruthy then updated.first else throw (.service (.notUpdated id))

def delete (rows : Rows) (id : Value) : Exchange Unit := do
  let _ ← rows.client.call "DELETE" rows.path .null (idParam (← id.text))

def count (rows : Rows) (filter : Filter) : Exchange Int := do
  let reply ← rows.client.get (rows.path ++ "/count") (← filter.params)
  let entries ← (reply.orElse (.dict [])).entries
  ((Value.lookup? "count" entries).getD (.int 0)).toInteger

end Rows
end TypedCatalog
