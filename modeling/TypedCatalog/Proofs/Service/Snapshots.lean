import TypedCatalog.Proofs.Catalog.Snapshot
import TypedCatalog.Proofs.Json.JoinedLines
import TypedCatalog.Proofs.Service.Sessions

/-! Agreement of the two readers of schema lists: `Directory.schemas` on a reply, and
`Snapshot.parse` on a file with the same text, which first joins line ends. -/
namespace TypedCatalog

open Catalog

variable {text : Text} {items : List Value} {schemas : List Schema}

theorem Catalog.Schema.isDict_of_read {data : Value} {schema : Schema}
    (read : Schema.read data = .ok schema) : data.isDict = true := by
  unfold Schema.read at read
  obtain ⟨entries, mapped, -⟩ := bind_ok read
  cases data with
  | dict _ => rfl
  | _ => cases mapped

/-- `Snapshot.parse` of a JSON array. -/
theorem Snapshot.parse_list {tree : FileTree} {path : Path} {location : Location}
    {changed : Binary64} (json : path.suffix = jsonSuffix) (array : Json.read text = .ok (.list items))
    (held : tree.stat path = .ok (location, .file (Text.Utf8.encode text) changed)) :
    parse tree path = .ok schemas ↔ items.mapM Schema.read = .ok schemas := by
  have read : Snapshot.read path (FileTree.joinLineEnds text) = .ok (.list items) := by
    rw [Snapshot.read, if_pos json, Json.read_joinLineEnds array]
  have parsed : parse tree path = if items.all Value.isDict then items.mapM (schemaIn path)
      else .error (.root path.text) := by
    rw [parse_file held, parseBytes, Text.Utf8.decode?_encode]
    simp only [read, documents]
    cases items.all Value.isDict with
    | false => rfl
    | true => rfl
  rw [parsed]
  constructor
  · intro done
    split at done
    · exact mapM_ok_imp (fun _ _ => schemaIn_ok_iff.mp) done
    · cases done
  · intro done
    have mappings : items.all Value.isDict = true := by
      apply List.all_eq_true.mpr
      intro item member
      obtain ⟨schema, found⟩ := mapM_all done item member
      exact Schema.isDict_of_read found
    rw [if_pos mappings]
    exact mapM_ok_imp (fun _ _ => schemaIn_ok_iff.mpr) done

/-- `schemasIn` of a JSON array. -/
theorem Directory.schemasIn_list {client : Client} {url : Text} {response : Response}
    (reached : client.urlFor "/dt/schemas" [] = .ok url) (answer : response.isAnswer = true)
    (array : Json.read response.body = .ok (.list items)) :
    schemasIn client (.response response) = items.mapM Schema.read := by
  have members : records Schema.read (.list items) = items.mapM Schema.read := by
    cases items with
    | nil => rfl
    | cons item items => rfl
  unfold schemasIn
  rw [reached, ok_bind, Client.resultIn_answer answer array, ok_bind, members]

namespace Directory

/-- For a text that decodes as an array, the service and the snapshot yield the same schemas, and
one succeeds if and only if the other does. -/
theorem schemas_iff_parse (array : Json.read text = .ok (.list items))
    {client : Client} {service : Service} {url : Text} {reason : Option Text}
    (reached : client.urlFor "/dt/schemas" [] = .ok url)
    (replied : service.nextReply = .response { status := 200, reason, body := text })
    {tree : FileTree} {path : Path} {location : Location} {changed : Binary64}
    (json : path.suffix = Snapshot.jsonSuffix)
    (held : tree.stat path = .ok (location, .file (Text.Utf8.encode text) changed))
    (schemas : List Schema) :
    (Directory.schemas client service).1 = .ok schemas ↔
      Snapshot.parse tree path = .ok schemas := by
  rw [fst_schemas, replied, schemasIn_list reached rfl array, Snapshot.parse_list json array held]

def isList : Value → Bool
  | .list _ => true
  | _ => false

theorem list_of_isList {value : Value} (holds : isList value = true) :
    ∃ items, value = .list items := by
  cases value with
  | list items => exact ⟨items, rfl⟩
  | _ => cases holds

/-- An array with all three kinds of line ends. -/
def mixedEnds : Text := "[\r\n\t\x7b\"name\" :\r\"s\"\x7d\n]"

theorem schemas_iff_parse_mixed :
    let service : Service := { replies := [.response { body := mixedEnds }] }
    let tree : FileTree :=
      { home := [], nodes := [(["a.json".toList], .file (Text.Utf8.encode mixedEnds) .zero)] }
    ∃ schemas, (Directory.schemas (.ofUrl "http://h/api/") service).1 = .ok schemas ∧
      Snapshot.parse tree ⟨true, ["a.json".toList]⟩ = .ok schemas ∧
      schemas.map (·.name) = ["s".toList] := by
  intro service tree
  obtain ⟨value, array, holds⟩ : ∃ value, Json.read mixedEnds = .ok value ∧
      isList value = true := ok_of_shown (by decide +kernel)
  obtain ⟨items, rfl⟩ := list_of_isList holds
  have reached : (Client.ofUrl "http://h/api/").urlFor "/dt/schemas" [] =
      .ok "http://h/api/dt/schemas".toList := rfl
  have json : Path.suffix ⟨true, ["a.json".toList]⟩ = Snapshot.jsonSuffix := by decide +kernel
  have held : tree.stat ⟨true, ["a.json".toList]⟩ =
      .ok (["a.json".toList], .file (Text.Utf8.encode mixedEnds) .zero) := rfl
  obtain ⟨schemas, answered, names⟩ : ∃ schemas,
      (Directory.schemas (.ofUrl "http://h/api/") service).1 = .ok schemas ∧
        schemas.map (·.name) = ["s".toList] := ok_of_shown (by decide +kernel)
  exact ⟨schemas, answered, (schemas_iff_parse array reached rfl json held schemas).mp answered,
    names⟩

end Directory
end TypedCatalog
