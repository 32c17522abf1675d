import TypedCatalog.Proofs.Fault
import TypedCatalog.Proofs.Name
import TypedCatalog.Proofs.Text.Split
import TypedCatalog.Proofs.Text.Utf8
import TypedCatalog.Service.Client

/-! A decoder of form-encoded queries, independent of the encoder: pairs between ampersands, name
and value around the first equals sign, percent-encoded bytes. `Client.urlFor` appends exactly the
parameters that are not null. -/
namespace TypedCatalog

namespace Query

/-- The bytes of form text: plus as blank, percent with two hexadecimal digits, any other character
by its encoding. -/
def unescape? : Text → Option (List UInt8)
  | [] => some []
  | '%' :: high :: low :: rest => do
    let high ← Text.hexValue? high
    let low ← Text.hexValue? low
    return (16 * high + low).toUInt8 :: (← unescape? rest)
  | c :: rest =>
    if c = '%' then none
    else if c = '+' then (unescape? rest).map (0x20 :: ·)
    else (unescape? rest).map (Text.Utf8.encodeChar c ++ ·)

def decodeText? (text : Text) : Option Text := (unescape? text).bind Text.Utf8.decode?

/-- Name and value around the first equals sign. -/
def decodePair? (piece : Text) : Option (Text × Text) := do
  let (name, value) ← Text.cut? '=' piece
  return (← decodeText? name, ← decodeText? value)

def decode? (query : Text) : Option (List (Text × Text)) :=
  (Text.splitOn '&' query).mapM decodePair?

/-- Characters that `escape` produces. -/
def isEscapedChar (c : Char) : Bool := isUnreserved c || c = '%' || c = '+'

/-- Characters of an encoded query. -/
def isFormChar (c : Char) : Bool := isEscapedChar c || c = '=' || c = '&'

/-- A byte as two hexadecimal digits. -/
theorem escapeByte_eq (byte : UInt8) : ∃ high low, high < 16 ∧ low < 16 ∧
    byte = (16 * high + low).toUInt8 ∧ escapeByte byte =
      ['%', Text.upperAscii (Text.hexDigit high), Text.upperAscii (Text.hexDigit low)] := by
  have bound : byte.toNat < 256 := byte.toNat_lt
  refine ⟨byte.toNat / 16 % 16, byte.toNat % 16, by omega, by omega, ?_, rfl⟩
  have whole : 16 * (byte.toNat / 16 % 16) + byte.toNat % 16 = byte.toNat := by omega
  rw [whole, Nat.toUInt8_eq, UInt8.ofNat_toNat]

theorem isAlnum_upperHex : ∀ n < 16, Text.isAlnum (Text.upperAscii (Text.hexDigit n)) = true := by
  decide

theorem hexValue?_upperHex :
    ∀ n < 16, Text.hexValue? (Text.upperAscii (Text.hexDigit n)) = some n := by decide

theorem isEscapedChar_alnum {c : Char} (alnum : Text.isAlnum c = true) :
    isEscapedChar c = true := by
  simp [isEscapedChar, isUnreserved, alnum]

theorem isEscapedChar_escapeByte (byte : UInt8) :
    ∀ c ∈ escapeByte byte, isEscapedChar c = true := by
  obtain ⟨high, low, first, second, -, shape⟩ := escapeByte_eq byte
  rw [shape]
  intro c member
  simp only [List.mem_cons, List.not_mem_nil, or_false] at member
  rcases member with rfl | rfl | rfl
  · rfl
  · exact isEscapedChar_alnum (isAlnum_upperHex high first)
  · exact isEscapedChar_alnum (isAlnum_upperHex low second)

theorem isEscapedChar_escape (text : Text) : ∀ c ∈ escape text, isEscapedChar c = true := by
  intro c member
  obtain ⟨original, -, member⟩ := List.mem_flatMap.mp member
  unfold escapeChar at member
  split at member
  · rename_i plain
    cases List.mem_singleton.mp member
    simp [isEscapedChar, plain]
  · split at member
    · cases List.mem_singleton.mp member
      rfl
    · obtain ⟨byte, -, member⟩ := List.mem_flatMap.mp member
      exact isEscapedChar_escapeByte byte c member

/-- `escape` produces no separators. -/
theorem not_mem_escape {mark : Char} (isMark : isEscapedChar mark = false) (text : Text) :
    mark ∉ escape text := by
  intro member
  have holds := isEscapedChar_escape text mark member
  rw [isMark] at holds
  cases holds

theorem isFormChar_pair (entry : Text × Text) : ∀ c ∈ pair entry, isFormChar c = true := by
  intro c member
  rcases List.mem_append.mp member with inside | inside
  · simp [isFormChar, isEscapedChar_escape _ c inside]
  · rcases List.mem_cons.mp inside with rfl | inside
    · rfl
    · simp [isFormChar, isEscapedChar_escape _ c inside]

theorem isFormChar_encode (entries : List (Text × Text)) :
    ∀ c ∈ encode entries, isFormChar c = true := by
  intro c member
  rcases Text.mem_join member with inside | ⟨piece, inside, member⟩
  · cases List.mem_singleton.mp inside
    rfl
  · obtain ⟨entry, -, rfl⟩ := List.mem_map.mp inside
    exact isFormChar_pair entry c member

theorem unescape?_escapeByte (byte : UInt8) (rest : Text) :
    unescape? (escapeByte byte ++ rest) = (unescape? rest).map (byte :: ·) := by
  obtain ⟨high, low, first, second, value, shape⟩ := escapeByte_eq byte
  simp only [shape, List.cons_append, List.nil_append, unescape?, hexValue?_upperHex high first,
    hexValue?_upperHex low second, Option.pure_def, Option.bind_eq_bind, Option.bind_some, ← value]
  cases unescape? rest <;> rfl

theorem unescape?_escapeBytes (bytes : List UInt8) (rest : Text) :
    unescape? (bytes.flatMap escapeByte ++ rest) = (unescape? rest).map (bytes ++ ·) := by
  induction bytes with
  | nil => simp
  | cons byte bytes ih =>
    rw [List.flatMap_cons, List.append_assoc, unescape?_escapeByte, ih, Option.map_map]
    rfl

theorem unescape?_plain {c : Char} (percent : c ≠ '%') (plus : c ≠ '+') (rest : Text) :
    unescape? (c :: rest) = (unescape? rest).map (Text.Utf8.encodeChar c ++ ·) := by
  rw [unescape?.eq_3 c rest fun _ _ _ same _ => percent same, if_neg percent, if_neg plus]

/-- `unescape?` inverts `escapeChar`. -/
theorem unescape?_escapeChar (c : Char) (rest : Text) :
    unescape? (escapeChar c ++ rest) =
      (unescape? rest).map (Text.Utf8.encodeChar c ++ ·) := by
  unfold escapeChar
  split
  · rename_i plain
    refine unescape?_plain ?_ ?_ rest
    · rintro rfl
      cases plain
    · rintro rfl
      cases plain
  · split
    · rename_i blank
      subst blank
      rfl
    · exact unescape?_escapeBytes _ rest

theorem unescape?_escape (text : Text) :
    unescape? (escape text) = some (Text.Utf8.encode text) := by
  induction text with
  | nil => rfl
  | cons c text ih =>
    have split : escape (c :: text) = escapeChar c ++ escape text := rfl
    rw [split, unescape?_escapeChar, ih]
    rfl

theorem decodeText?_escape (text : Text) : decodeText? (escape text) = some text := by
  rw [decodeText?, unescape?_escape]
  exact Text.Utf8.decode?_encode text

theorem decodePair?_pair (entry : Text × Text) : decodePair? (pair entry) = some entry := by
  have free : '=' ∉ escape entry.1 := not_mem_escape rfl _
  simp only [decodePair?, pair, Text.cut?_append free, decodeText?_escape, Option.pure_def,
    Option.bind_eq_bind, Option.bind_some]

theorem mapM_decodePair? (entries : List (Text × Text)) :
    (entries.map pair).mapM decodePair? = some entries := by
  induction entries with
  | nil => rfl
  | cons entry entries ih =>
    rw [List.map_cons, List.mapM_cons, decodePair?_pair, ih]
    rfl

theorem ampersand_pair (entry : Text × Text) : '&' ∉ pair entry := by
  intro member
  rcases List.mem_append.mp member with inside | inside
  · exact not_mem_escape rfl _ inside
  · rcases List.mem_cons.mp inside with same | inside
    · cases same
    · exact not_mem_escape rfl _ inside

/-- `decode?` inverts `encode`. -/
theorem decode?_encode {entries : List (Text × Text)} (nonempty : entries ≠ []) :
    decode? (encode entries) = .some entries := by
  have free : ∀ piece ∈ entries.map pair, '&' ∉ piece := by
    intro piece member
    obtain ⟨entry, -, rfl⟩ := List.mem_map.mp member
    exact ampersand_pair entry
  have pieces : entries.map pair ≠ [] := by simpa using nonempty
  rw [decode?, encode, Text.splitOn_join free pieces, mapM_decodePair?]

/-- The decoding of what follows an address: nothing, or a question mark and a query. -/
inductive Tells : Text → List (Text × Text) → Prop where
  | nothing : Tells [] []
  | query {query : Text} {said : List (Text × Text)} : said ≠ [] →
      (∀ c ∈ query, isFormChar c = true) → decode? query = some said → Tells ('?' :: query) said

/-- The question mark and the encoded query, or nothing. -/
def suffix (said : List (Text × Text)) : Text :=
  if encode said = [] then [] else '?' :: encode said

/-- A nonempty list has a nonempty encoding. -/
theorem encode_ne_nil {said : List (Text × Text)} (nonempty : said ≠ []) : encode said ≠ [] := by
  intro empty
  have read := decode?_encode nonempty
  rw [empty] at read
  cases read

theorem tells_suffix (said : List (Text × Text)) : Tells (suffix said) said := by
  unfold suffix
  cases said with
  | nil => exact .nothing
  | cons entry said =>
    have nonempty := List.cons_ne_nil entry said
    rw [if_neg (encode_ne_nil nonempty)]
    exact .query nonempty (isFormChar_encode _) (decode?_encode nonempty)

/-- The entry has the name of the parameter and the text of its value. -/
def Says (param : Text × Value) (entry : Text × Text) : Prop :=
  entry.1 = param.1 ∧ valueText param.2 = .ok entry.2

/-- The entries are those of the parameters that are not null, in order. -/
def SaidBy (params : List (Text × Value)) (said : List (Text × Text)) : Prop :=
  List.Forall₂ Says (params.filter fun param => !param.2.isNull) said

/-- Every value that is not null has a text. -/
def AreRendered (params : List (Text × Value)) : Prop :=
  ∀ param ∈ params, ∃ text, valueText param.2 = .ok text

theorem ofParams_fields {params : List (Text × Value)} (rendered : AreRendered params) :
    ∃ said, ofParams (params.map fun param => (.str param.1, param.2)) = .ok said ∧
      SaidBy params said := by
  induction params with
  | nil => exact ⟨[], rfl, .nil⟩
  | cons param params ih =>
    obtain ⟨⟨text, first⟩, others⟩ := List.forall_mem_cons.mp rendered
    obtain ⟨said, done, encodes⟩ := ih others
    rw [List.map_cons, ofParams, done]
    unfold SaidBy at encodes ⊢
    cases null : param.2.isNull with
    | true => exact ⟨said, rfl, by simpa [null] using encodes⟩
    | false =>
      refine ⟨(param.1, text) :: said, ?_, ?_⟩
      · rw [if_neg Bool.false_ne_true, first]
        rfl
      · rw [List.filter_cons_of_pos (by simp [null])]
        exact .cons ⟨rfl, first⟩ encodes

end Query

/-- `urlFor` with parameters is `urlFor` without them, followed by `suffix`. -/
theorem Client.urlFor_params (client : Client) (endpoint : Text) {params : Value.Entries}
    {said : List (Text × Text)} (done : Query.ofParams params = .ok said) :
    client.urlFor endpoint params =
      (client.urlFor endpoint []).map (· ++ Query.suffix said) := by
  have empty : Query.ofParams [] = .ok [] := rfl
  have nothing : Query.encode [] = [] := rfl
  unfold urlFor
  cases Url.join client.baseUrl (endpoint.dropWhile (· = '/')) with
  | error fault => rfl
  | ok url =>
    simp only [ok_bind, done, empty, nothing, if_true, Query.suffix]
    split
    · exact congrArg Except.ok (List.append_nil url).symm
    · rfl

end TypedCatalog
