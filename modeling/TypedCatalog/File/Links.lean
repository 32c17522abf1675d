import TypedCatalog.File.Path

/-! Symbolic links by where they lead. For the text of a link stand the names that lead from the root
to its end through no other link, so that chains of links are already followed; circular links
have no such names. -/
namespace TypedCatalog

/-- The locations that names pass on their way, with the one where they end. -/
def Path.passed : Location → List Text → List Location
  | here, [] => [here]
  | here, name :: names =>
    here :: passed (if name = ['.', '.'] then here.dropLast else here ++ [name]) names

/-- Links, each with the location where it stands and the names that lead to its end. -/
structure Links where
  entries : List (Location × List Text) := []
  /-- No link stands on the way of another. -/
  direct : ∀ link ∈ entries, ∀ place ∈ Path.passed [] link.2, ∀ other ∈ entries,
    ¬other.1 <+: place := by decide
  noZero : ∀ link ∈ entries, (Path.ofLocation link.2).hasZero = false := by decide

namespace Links

def empty : Links := {}

/-- The names of the link that stands at a location. -/
def target? (links : Links) (location : Location) : Option (List Text) :=
  (links.entries.find? fun link => link.1 == location).map (·.2)

/-- The end of the link that stands at a location, the location itself if there is none. -/
def landing (links : Links) (location : Location) : Location :=
  match links.target? location with
  | none => location
  | some names => Path.follow [] names

/-- Where names lead from a location, whatever stands on the way. -/
def follow (links : Links) : Location → List Text → Location
  | here, [] => here
  | here, name :: names =>
    if name = ['.', '.'] then follow links here.dropLast names
    else follow links (links.landing (here ++ [name])) names

end Links
end TypedCatalog
