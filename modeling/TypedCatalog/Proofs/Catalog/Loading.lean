import TypedCatalog.Proofs.Catalog.Cache
import TypedCatalog.Proofs.File.Faults
import TypedCatalog.Proofs.Yaml.Faults

/-! The faults of `Snapshot.load` and `SchemaCache.get` outside the catalog: undecodable bytes,
malformed scalars, overlong integers, zero characters, and paths without a `stat`. -/
namespace TypedCatalog

open Catalog

/-- The fault is reported as one of the catalog: of a record, a snapshot or a module. -/
def Fault.isOfCatalog : Fault → Bool
  | .record _ | .recordIn .. | .unreadable .. | .document .. | .root _ | .sameModule ..
  | .moduleOf .. => true
  | _ => false

theorem Fault.IsOfValue.not_isOfCatalog {fault : Fault} (isOfValue : fault.IsOfValue) :
    fault.isOfCatalog = false := by
  cases isOfValue with
  | misuse _ => rfl
  | content _ => rfl

theorem Fault.IsOfFile.not_isOfCatalog {fault : Fault} (isOfFile : fault.IsOfFile) :
    fault.isOfCatalog = false := by
  cases isOfFile with
  | file _ _ => rfl
  | zeroByte => rfl

namespace Snapshot

/-- The causes of a fault of `load` outside the catalog. -/
inductive Unloadable (tree : FileTree) (path : Path) : Fault → Prop where
  /-- The path has a zero character. -/
  | zeroByte : path.hasZero = true → Unloadable tree path (.content .zeroByte)
  /-- The content is no UTF-8. -/
  | bytes {content : List UInt8} : tree.readBytes path = .ok content →
      Text.Utf8.decode? content = none → Unloadable tree path .encoding
  /-- A JSON integer exceeds the digit limit. -/
  | digits {text : Text} {digits : Nat} : tree.readText path = .ok text →
      path.suffix = jsonSuffix → Json.read text = .error (.tooLong digits) →
      Unloadable tree path (.content (.tooLong digits))
  /-- A YAML scalar has no value for its tag. -/
  | value {text : Text} {fault : Fault} : tree.readText path = .ok text →
      path.suffix ≠ jsonSuffix → Yaml.read text = .error (.fault fault) →
      Unloadable tree path fault

variable {tree : FileTree} {path : Path} {fault : Fault}

theorem Unloadable.not_isOfCatalog (unloadable : Unloadable tree path fault) :
    fault.isOfCatalog = false := by
  cases unloadable with
  | zeroByte _ => rfl
  | bytes _ _ => rfl
  | digits _ _ _ => rfl
  | value _ _ failed =>
    cases (Yaml.stops_read _).allows failed with
    | fault isOfValue => exact isOfValue.not_isOfCatalog

theorem readBytes_zero (zero : path.hasZero = true) :
    tree.readBytes path = .error (.content .zeroByte) := by
  simp only [FileTree.readBytes, FileTree.stat, if_pos zero]
  rfl

/-- Without a zero character, `readBytes` fails by the file system only. -/
theorem readBytes_error (noZero : path.hasZero = false)
    (failed : tree.readBytes path = .error fault) :
    ∃ problem, fault = .file problem path.text := by
  simp only [FileTree.readBytes, FileTree.stat, noZero, Bool.false_eq_true, if_false] at failed
  split at failed
  · rename_i other missed
    cases failed
    split at missed
    · cases missed
      exact ⟨_, rfl⟩
    · split at missed
      · cases missed
        exact ⟨_, rfl⟩
      · cases missed
  · cases failed
    exact ⟨_, rfl⟩
  · cases failed

/-- `readText` fails by the file system, or with a fault outside the catalog. -/
theorem readText_error (failed : tree.readText path = .error fault) :
    (∃ problem, fault = .file problem path.text) ∨ Unloadable tree path fault := by
  unfold FileTree.readText at failed
  split at failed
  · rename_i first unread
    cases failed
    cases zero : path.hasZero with
    | true =>
      cases (readBytes_zero zero).symm.trans unread
      exact .inr (.zeroByte zero)
    | false => exact .inl (readBytes_error zero unread)
  · rename_i content bytes
    split at failed
    · rename_i undecoded
      cases failed
      exact .inr (.bytes bytes undecoded)
    · cases failed

theorem load_unloadable (unloadable : Unloadable tree path fault) :
    load tree path = .error fault := by
  cases unloadable with
  | zeroByte zero => simp only [load, FileTree.readText, readBytes_zero zero]
  | bytes bytes undecoded => simp only [load, FileTree.readText, bytes, undecoded]
  | digits text json failed => simp only [load, text, read, if_pos json, failed]
  | value text yaml failed => simp only [load, text, read, if_neg yaml, failed]

theorem read_error {text : Text} (held : tree.readText path = .ok text)
    (failed : read path text = .error fault) :
    fault.isOfCatalog = true ∨ Unloadable tree path fault := by
  unfold read at failed
  split at failed
  · rename_i json
    split at failed
    · cases failed
    · cases failed
      exact .inl rfl
    · rename_i digits long
      cases failed
      exact .inr (.digits held json long)
  · rename_i yaml
    split at failed
    · cases failed
    · cases failed
      exact .inl rfl
    · rename_i other unread
      cases failed
      exact .inr (.value held yaml unread)

theorem load_error (failed : load tree path = .error fault) :
    fault.isOfCatalog = true ∨ Unloadable tree path fault := by
  unfold load at failed
  split at failed
  · cases failed
    exact .inl rfl
  · rename_i other notFile unread
    cases failed
    rcases readText_error unread with ⟨problem, rfl⟩ | unloadable
    · exact absurd rfl (notFile problem path.text)
    · exact .inr unloadable
  · rename_i text held
    split at failed
    · rename_i other unread
      cases failed
      exact read_error held unread
    · split at failed
      · cases failed
        exact .inl rfl
      · cases failed

theorem load_error_iff :
    (load tree path = .error fault ∧ fault.isOfCatalog = false) ↔ Unloadable tree path fault := by
  constructor
  · rintro ⟨failed, other⟩
    rcases load_error failed with isOfCatalog | unloadable
    · rw [isOfCatalog] at other
      cases other
    · exact unloadable
  · intro unloadable
    exact ⟨load_unloadable unloadable, unloadable.not_isOfCatalog⟩

theorem isDict_documents {data : Value} {held : List Value} (found : documents data = some held) :
    ∀ document ∈ held, document.isDict = true := by
  unfold documents at found
  dsimp only at found
  split at found
  · split at found
    · rename_i areMappings
      cases found
      exact List.all_eq_true.mp areMappings
    · cases found
  · cases found

theorem load_ok_iff {held : List Value} : load tree path = .ok held ↔
    ∃ text data, tree.readText path = .ok text ∧ read path text = .ok data ∧
      documents data = some held := by
  constructor
  · intro loaded
    unfold load at loaded
    split at loaded
    · cases loaded
    · cases loaded
    · rename_i text found
      split at loaded
      · cases loaded
      · rename_i data holds
        split at loaded
        · cases loaded
        · rename_i listed
          cases loaded
          exact ⟨text, data, found, holds, listed⟩
  · rintro ⟨text, data, found, holds, listed⟩
    simp only [load, found, holds, listed]

/-- `load` returns mappings only. -/
theorem isDict_load {held : List Value} (loaded : load tree path = .ok held) :
    ∀ document ∈ held, document.isDict = true := by
  obtain ⟨text, data, -, -, listed⟩ := load_ok_iff.mp loaded
  exact isDict_documents listed

/-- Both paths select JSON, or both YAML. -/
def SameFormat (path other : Path) : Prop := path.suffix = jsonSuffix ↔ other.suffix = jsonSuffix

/-- The format is determined by the location for every `IsDirect` path. -/
theorem sameFormat_of_isDirect {location : Location} (home : tree.HasHome)
    (direct : tree.IsDirect path) (located : tree.locate path = .ok location)
    (other : tree.node? location ≠ some .directory) : SameFormat path (.ofLocation location) := by
  unfold SameFormat Path.suffix
  rw [direct.name home located other]

/-- Two paths with one content and one format. -/
structure AreAlike (tree : FileTree) (path resolved : Path) : Prop where
  noZero : path.hasZero = false ∧ resolved.hasZero = false
  bytes : ∀ content, tree.readBytes path = .ok content ↔ tree.readBytes resolved = .ok content
  format : ∀ content, tree.readBytes path = .ok content → SameFormat path resolved

theorem areAlike_resolve {location : Location} {node : Node} (home : tree.HasHome)
    (stat : tree.stat path = .ok (location, node))
    (format : tree.IsDirect path ∨ SameFormat path (.ofLocation location)) :
    AreAlike tree path (.ofLocation location) := by
  obtain ⟨-, again⟩ := home.resolve stat
  obtain ⟨noZero, located, stands⟩ := FileTree.stat_ok stat
  refine ⟨⟨noZero, (FileTree.stat_ok again).1⟩, ?_, ?_⟩
  · intro content
    unfold FileTree.readBytes
    rw [stat, again]
    cases node with
    | file content changed => rfl
    | directory =>
      constructor
      · intro read
        cases read
      · intro read
        cases read
  · intro content read
    have other : tree.node? location ≠ some .directory := by
      intro same
      cases stands.symm.trans same
      rw [FileTree.readBytes, stat] at read
      cases read
    rcases format with direct | format
    · exact sameFormat_of_isDirect home direct located other
    · exact format

namespace AreAlike

variable {resolved : Path}

theorem symm (alike : AreAlike tree path resolved) : AreAlike tree resolved path :=
  ⟨alike.noZero.symm, fun content => (alike.bytes content).symm,
    fun content read => (alike.format content ((alike.bytes content).mpr read)).symm⟩

theorem text {text : Text} (alike : AreAlike tree path resolved)
    (held : tree.readText path = .ok text) :
    tree.readText resolved = .ok text ∧ SameFormat path resolved := by
  unfold FileTree.readText at held ⊢
  split at held
  · cases held
  · rename_i content bytes
    rw [(alike.bytes content).mp bytes]
    exact ⟨held, alike.format content bytes⟩

theorem unloadable (alike : AreAlike tree path resolved) (unloadable : Unloadable tree path fault) :
    Unloadable tree resolved fault := by
  cases unloadable with
  | zeroByte zero => cases alike.noZero.1.symm.trans zero
  | bytes bytes undecoded => exact .bytes ((alike.bytes _).mp bytes) undecoded
  | digits held json failed =>
    obtain ⟨held, same⟩ := alike.text held
    exact .digits held (same.mp json) failed
  | value held yaml failed =>
    obtain ⟨held, same⟩ := alike.text held
    exact .value held (fun json => yaml (same.mpr json)) failed

theorem read_ok {text : Text} {data : Value} (same : SameFormat path resolved)
    (found : read path text = .ok data) : read resolved text = .ok data := by
  unfold read at found ⊢
  split at found
  · rename_i json
    rw [if_pos (same.mp json)]
    split at found
    · exact found
    · cases found
    · cases found
  · rename_i yaml
    rw [if_neg fun json => yaml (same.mpr json)]
    split at found
    · exact found
    · cases found
    · cases found

theorem load_ok {held : List Value} (alike : AreAlike tree path resolved)
    (loaded : load tree path = .ok held) : load tree resolved = .ok held := by
  obtain ⟨text, data, found, holds, listed⟩ := load_ok_iff.mp loaded
  obtain ⟨again, same⟩ := alike.text found
  exact load_ok_iff.mpr ⟨text, data, again, read_ok same holds, listed⟩

end AreAlike

/-- For a file whose documents are schemas, `parse` fails outside the catalog exactly as `load`
does. -/
theorem parse_error_iff (reads : ∀ documents, load tree path = .ok documents →
    ∀ document ∈ documents, ∃ schema, Schema.read document = .ok schema) :
    parse tree path = .error fault ↔ load tree path = .error fault := by
  unfold parse
  cases loaded : load tree path with
  | error first =>
    constructor
    · intro failed
      cases failed
      rfl
    · intro failed
      cases failed
      rfl
  | ok held =>
    have each : FailsOnly (fun _ => False) (held.mapM (schemaIn path)) := by
      refine .mapM fun document member => ?_
      obtain ⟨schema, read⟩ := reads held loaded document member
      unfold schemaIn
      rw [read]
      exact .ok schema
    constructor
    · intro failed
      exact (each.allows failed).elim
    · intro failed
      cases failed

end Snapshot

theorem Stamp.ofPath_error_iff {tree : FileTree} {path : Path} {fault : Fault} :
    Stamp.ofPath tree path = .error fault ↔ tree.stat path = .error fault := by
  unfold Stamp.ofPath
  cases stat : tree.stat path with
  | error first =>
    constructor
    · intro failed
      cases failed
      rfl
    · intro failed
      cases failed
      rfl
  | ok found =>
    have resolves : tree.resolve path = .ok (.ofLocation (tree.location path)) := by
      rw [FileTree.resolve, (FileTree.stat_ok stat).1]
      rfl
    rw [resolves]
    constructor
    · intro failed
      cases failed
    · intro failed
      cases failed

namespace SchemaCache

variable {tree : FileTree} {path : Path} {cache : SchemaCache} {fault : Fault}

/-- An entry with this stamp is held. -/
def Holds (cache : SchemaCache) (stamp : Stamp) : Prop :=
  ∃ entry, cache.find? stamp.path = some entry ∧ entry.stamp = stamp

theorem get_held {stamp : Stamp} (stamped : Stamp.ofPath tree path = .ok stamp)
    (holds : cache.Holds stamp) : ∃ schemas, (cache.get tree path).1 = .ok schemas := by
  obtain ⟨entry, found, same⟩ := holds
  refine ⟨entry.schemas, ?_⟩
  simp only [get, stamped, found, Option.filter_some, same, decide_true, if_true]

/-- `get` on a stamp that is not held parses the resolved path. -/
theorem get_unheld {stamp : Stamp} (room : 1 ≤ cache.limit)
    (stamped : Stamp.ofPath tree path = .ok stamp) (unheld : ¬cache.Holds stamp) :
    (cache.get tree path).1 = Snapshot.parse tree stamp.path := by
  have unfound : (cache.find? stamp.path).filter (fun entry => entry.stamp = stamp) = none := by
    refine Option.filter_eq_none_iff.mpr fun entry found same => unheld ⟨entry, found, ?_⟩
    exact of_decide_eq_true same
  simp only [get, stamped, unfound]
  split
  · rename_i failed
    exact failed.symm
  · rename_i parsed
    rw [insert_ok room, parsed]
    rfl

theorem get_error_iff (room : 1 ≤ cache.limit) :
    (cache.get tree path).1 = .error fault ↔ tree.stat path = .error fault ∨
      ∃ stamp, Stamp.ofPath tree path = .ok stamp ∧ ¬cache.Holds stamp ∧
        Snapshot.parse tree stamp.path = .error fault := by
  rw [← Stamp.ofPath_error_iff]
  cases stamped : Stamp.ofPath tree path with
  | error first => simp [get, stamped]
  | ok stamp =>
    by_cases holds : cache.Holds stamp
    · obtain ⟨schemas, given⟩ := get_held stamped holds
      simp [given, holds]
    · simp [get_unheld room stamped holds, holds]

/-- `load` returns mappings, and raises a fault outside the catalog exactly if the path is
`Unloadable`. For a file of schemas, a cache with room raises such a fault exactly if the path has
no `stat`, or its stamp is not held and the resolved path is `Unloadable`. The resolved path loads
as the path itself, unless the path is a link to another format. -/
theorem get_fails_iff (home : tree.HasHome) (room : 1 ≤ cache.limit)
    (reads : ∀ stamp, Stamp.ofPath tree path = .ok stamp →
      ∀ documents, Snapshot.load tree stamp.path = .ok documents →
        ∀ document ∈ documents, ∃ schema, Schema.read document = .ok schema) :
    (∀ documents, Snapshot.load tree path = .ok documents →
      ∀ document ∈ documents, document.isDict = true) ∧
    (∀ fault, (Snapshot.load tree path = .error fault ∧ fault.isOfCatalog = false) ↔
      Snapshot.Unloadable tree path fault) ∧
    (∀ fault, ((cache.get tree path).1 = .error fault ∧ fault.isOfCatalog = false) ↔
      tree.stat path = .error fault ∨
        ∃ stamp, Stamp.ofPath tree path = .ok stamp ∧ ¬cache.Holds stamp ∧
          Snapshot.Unloadable tree stamp.path fault) ∧
    (∀ stamp, Stamp.ofPath tree path = .ok stamp →
      tree.IsDirect path ∨ Snapshot.SameFormat path stamp.path →
      (∀ documents, Snapshot.load tree stamp.path = .ok documents ↔
        Snapshot.load tree path = .ok documents) ∧
      ∀ fault, Snapshot.Unloadable tree stamp.path fault ↔ Snapshot.Unloadable tree path fault) := by
  refine ⟨fun _ => Snapshot.isDict_load, fun _ => Snapshot.load_error_iff, fun fault => ?_, ?_⟩
  · have parse {stamp : Stamp} (stamped : Stamp.ofPath tree path = .ok stamp) :
        (Snapshot.parse tree stamp.path = .error fault ∧ fault.isOfCatalog = false) ↔
          Snapshot.Unloadable tree stamp.path fault := by
      rw [Snapshot.parse_error_iff (reads stamp stamped), Snapshot.load_error_iff]
    rw [get_error_iff room]
    constructor
    · rintro ⟨missed | ⟨stamp, stamped, unheld, failed⟩, other⟩
      · exact .inl missed
      · exact .inr ⟨stamp, stamped, unheld, (parse stamped).mp ⟨failed, other⟩⟩
    · rintro (missed | ⟨stamp, stamped, unheld, unloadable⟩)
      · exact ⟨.inl missed, ((FileTree.fails_stat tree path).allows missed).not_isOfCatalog⟩
      · obtain ⟨failed, other⟩ := (parse stamped).mpr unloadable
        exact ⟨.inr ⟨stamp, stamped, unheld, failed⟩, other⟩
  · intro stamp stamped format
    obtain ⟨location, node, stat, -, rfl⟩ := Stamp.ofPath_ok home stamped
    rw [Stamp.path_ofNode] at format ⊢
    have alike := Snapshot.areAlike_resolve home stat format
    exact ⟨fun _ => ⟨alike.symm.load_ok, alike.load_ok⟩,
      fun _ => ⟨alike.symm.unloadable, alike.unloadable⟩⟩

/-- A file that is no UTF-8, and one with a schema. -/
def mixed : FileTree where
  home := []
  nodes := [(["bytes.json"], .file [0xff] .zero),
    (["schema.json"], .file (Text.Utf8.encode "[\x7b\"name\": \"shop\"\x7d]") .zero)]

/-- Neither undecodable bytes nor a missing file raises a fault of the catalog. -/
theorem get_mixed :
    Snapshot.load mixed ⟨false, ["bytes.json"]⟩ = .error .encoding ∧
      (({} : SchemaCache).get mixed ⟨false, ["missing.json"]⟩).1 =
        .error (.file .missing "missing.json") ∧
      Fault.encoding.isOfCatalog = false ∧
      (Fault.file .missing "missing.json").isOfCatalog = false :=
  ⟨rfl, rfl, rfl, rfl⟩

/-- `get_fails_iff` on a file that parses. -/
theorem get_schema :
    let path : Path := ⟨false, ["schema.json"]⟩
    mixed.HasHome ∧ 1 ≤ ({} : SchemaCache).limit ∧
      (∀ stamp, Stamp.ofPath mixed path = .ok stamp →
        ∀ documents, Snapshot.load mixed stamp.path = .ok documents →
          ∀ document ∈ documents, ∃ schema, Schema.read document = .ok schema) ∧
      ∀ fault, (({} : SchemaCache).get mixed path).1 = .error fault → fault.isOfCatalog = true := by
  intro path
  have holds : ((Snapshot.load mixed ⟨true, ["schema.json"]⟩).toOption.map fun documents =>
      documents.all fun document => (Schema.read document).isOk) = some true := by
    decide +kernel
  have leads : ∀ stamp, Stamp.ofPath mixed path = .ok stamp →
      stamp.path = ⟨true, ["schema.json"]⟩ := by
    rintro stamp ⟨⟩
    rfl
  have reads : ∀ stamp, Stamp.ofPath mixed path = .ok stamp →
      ∀ documents, Snapshot.load mixed stamp.path = .ok documents →
        ∀ document ∈ documents, ∃ schema, Schema.read document = .ok schema := by
    intro stamp stamped documents loaded document member
    rw [leads stamp stamped] at loaded
    rw [loaded] at holds
    have isOk := List.all_eq_true.mp (Option.some.inj holds) document member
    cases read : Schema.read document with
    | error fault =>
      rw [read] at isOk
      cases isOk
    | ok schema => exact ⟨schema, rfl⟩
  have home : mixed.HasHome := rfl
  have room : 1 ≤ ({} : SchemaCache).limit := by decide
  refine ⟨home, room, reads, fun fault failed => ?_⟩
  obtain ⟨-, -, get, -⟩ := get_fails_iff home room reads
  by_contra other
  rcases (get fault).mp ⟨failed, Bool.not_eq_true _ ▸ other⟩ with
    missed | ⟨stamp, stamped, -, unloadable⟩
  · cases missed
  · rw [leads stamp stamped] at unloadable
    rw [(Snapshot.load_error_iff.mpr unloadable).1] at holds
    cases holds

end SchemaCache
end TypedCatalog
