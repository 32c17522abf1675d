import TypedCatalog.Catalog.Reader
import TypedCatalog.Service.Client

/-! What a service tells about its catalog and its own state. -/
namespace TypedCatalog.Directory

open Catalog

/-- The records of a reply: a list of them, or a mapping that has them as values. -/
def records {α : Type} (read : Value → Except Fault α) (reply : Value) : Except Fault (List α) := do
  if reply.isTruthy then (← membersOf reply).mapM read else return []

def list {α : Type} (client : Client) (endpoint : Text) (read : Value → Except Fault α) :
    Exchange (List α) := do
  records read (← client.get endpoint [])

def schemas (client : Client) : Exchange (List Schema) := list client "/dt/schemas" Schema.read

/-- The objects of one kind in a schema. -/
def ofKind {α : Type} (client : Client) (schema kind : Text) (read : Value → Except Fault α) :
    Exchange (List α) :=
  list client ("/dt/" ++ schema ++ '/' :: kind) read

def health (client : Client) : Exchange Health := do
  let reply ← client.get "/health" []
  Health.read (reply.orElse (.dict []))

/-- The reply to a sign of life. -/
def ping (client : Client) : Exchange Text := do
  (← client.get "/health/ping" []).text

def cacheStatus (client : Client) : Exchange CacheStatus := do
  let reply ← client.get "/health/cache" []
  CacheStatus.read (reply.orElse (.dict []))

/-- Has the service read its catalog again. -/
def clearCache (client : Client) : Exchange Value := do
  return (← client.call "POST" "/health/clear-cache" .null []).orElse (.dict [])

end TypedCatalog.Directory
