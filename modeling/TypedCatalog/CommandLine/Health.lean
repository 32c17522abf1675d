import TypedCatalog.CommandLine.World
import TypedCatalog.Service.Directory

/-! The command that shows the state of a service and of its cache. -/
namespace TypedCatalog.CommandLine.Health

open Catalog

def interface : Interface where
  switches := [⟨"--url", .text⟩]

def lines (health : Catalog.Health) (cache : CacheStatus) : List Text :=
  let database := if health.databaseConnected then "connected" else "disconnected"
  let updated := if cache.lastUpdated = [] then "never".toList else cache.lastUpdated
  ["Status:     " ++ health.status,
    "Version:    " ++ health.version,
    "Uptime:     " ++ health.uptime.wholeText ++ ['s'],
    "Database:   " ++ database,
    "Cache:      " ++ Text.ofInt cache.totalItems ++ " item(s), last updated " ++ updated]

/-- The state of a service and of its cache, one after the other. -/
def ask (client : Client) : Exchange (Catalog.Health × CacheStatus) := do
  let health ← Directory.health client
  let cache ← Directory.cacheStatus client
  return (health, cache)

def run (arguments : Arguments) (world : World) : Ending × World :=
  let client := Client.ofUrl (urlOf arguments world)
  match Client.closing (ask client) world.service with
  | (.error (.service fault), service) =>
    (.returned (some 1), { world with service }.complain (errorText (.service fault)))
  | (.error fault, service) => (.fault fault, { world with service })
  | (.ok (health, cache), service) =>
    (.returned (some (if health.databaseConnected then 0 else 1)),
      (lines health cache).foldl World.print { world with service })

def command (texts : List Text) : World → Ending × World :=
  withArguments "health" interface texts run

end TypedCatalog.CommandLine.Health
