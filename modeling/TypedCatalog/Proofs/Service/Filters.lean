import Mathlib.Data.List.Induction
import TypedCatalog.Proofs.Service.Query
import TypedCatalog.Proofs.Service.Requests

/-! `Filter.params` and the query that encodes it. Conditions and options share one mapping, in
which an option replaces a condition of the same name; `findAll` and `count` send the same query. -/
namespace TypedCatalog

open Value (Entries lookup?)

namespace Value

theorem sameKey_name (key : Value) (name : Text) :
    key.sameKey (.str name) = true ↔ key = .str name := by
  cases key with
  | str held => simp [sameKey]
  | _ => simp [sameKey]

/-- `put` changes the value of its key only. -/
theorem lookup?_put (entries : Entries) (key name : Text) (value : Value) :
    lookup? name (put entries (.str key) value) =
      if key = name then some value else lookup? name entries := by
  induction entries with
  | nil => rfl
  | cons entry entries ih =>
    obtain ⟨held, other⟩ := entry
    unfold put
    split
    · rename_i same
      obtain rfl := (sameKey_name held key).mp same
      by_cases here : key = name
      · rw [lookup?, if_pos here, if_pos here]
      · rw [lookup?, if_neg here, if_neg here, lookup?, if_neg here]
    · rename_i different
      cases held with
      | str held =>
        have apart : held ≠ key := fun same => different ((sameKey_name _ _).mpr (same ▸ rfl))
        by_cases here : held = name
        · rw [lookup?, if_pos here, lookup?, if_pos here, if_neg (here ▸ apart.symm)]
        · rw [lookup?, if_neg here, lookup?, if_neg here, ih]
      | _ => exact ih

end Value

namespace Filter

variable {filter : Filter} {conditions : List (Text × Value)} {entries params : Entries}
  {name : Text} {value : Value}

theorem conditionParams_concat (conditions : Entries) (key value : Value) :
    conditionParams (conditions ++ [(key, value)]) =
      conditionParams conditions >>= fun params =>
        if value.isNull then .ok params
        else (Query.valueText value).map fun text => Value.put params key (.str text) := by
  rw [conditionParams, List.foldlM_append]
  refine bind_congr fun params => ?_
  rw [List.foldlM_cons]
  exact bind_pure _

theorem conditionParams_fields_concat {last : Text × Value}
    (done : conditionParams ((conditions ++ [last]).map fun held => (.str held.1, held.2)) =
      .ok params) :
    ∃ before, conditionParams (conditions.map fun held => (.str held.1, held.2)) = .ok before ∧
      (last.2.isNull = true ∧ params = before ∨ last.2.isNull = false ∧
        ∃ text, Query.valueText last.2 = .ok text ∧
          params = Value.put before (.str last.1) (.str text)) := by
  rw [List.map_append, List.map_singleton, conditionParams_concat] at done
  obtain ⟨before, first, done⟩ := bind_ok done
  refine ⟨before, first, ?_⟩
  cases null : last.2.isNull with
  | true =>
    rw [null, if_pos rfl] at done
    exact .inl ⟨rfl, (Except.ok.inj done).symm⟩
  | false =>
    rw [null, if_neg Bool.false_ne_true] at done
    obtain ⟨text, rendered, same⟩ := map_ok done
    exact .inr ⟨rfl, text, rendered, same.symm⟩

/-- `conditionParams` holds the text of each condition that is not null. -/
theorem lookup?_conditionParams (distinct : (conditions.map Prod.fst).Nodup)
    (done : conditionParams (conditions.map fun held => (.str held.1, held.2)) = .ok params) :
    lookup? name params = some value ↔
      ∃ condition ∈ conditions, condition.1 = name ∧ condition.2.isNull = false ∧
        ∃ text, Query.valueText condition.2 = .ok text ∧ value = .str text := by
  induction conditions using List.reverseRecOn generalizing params with
  | nil =>
    cases done
    simp [lookup?]
  | append_singleton conditions last ih =>
    rw [List.map_append, List.nodup_append] at distinct
    obtain ⟨distinct, -, apart⟩ := distinct
    obtain ⟨before, first, rest⟩ := conditionParams_fields_concat done
    simp only [List.mem_append, List.mem_singleton, or_and_right, exists_or, exists_eq_left]
    rcases rest with ⟨null, rfl⟩ | ⟨null, text, rendered, rfl⟩
    · simpa [null] using ih distinct first
    · rw [Value.lookup?_put]
      by_cases here : last.1 = name
      · -- no earlier condition is on this column
        have fresh : ¬∃ condition ∈ conditions, condition.1 = name ∧ condition.2.isNull = false ∧
            ∃ text, Query.valueText condition.2 = .ok text ∧ value = .str text := by
          rintro ⟨condition, member, same, -⟩
          exact apart condition.1 (List.mem_map_of_mem member) last.1 (by simp) (same.trans here.symm)
        rw [if_pos here, or_iff_right fresh]
        simp [here, null, rendered, eq_comm]
      · rw [if_neg here, ih distinct first]
        simp [here]

theorem exists_conditionParams :
    (∃ params, conditionParams (conditions.map fun held => (.str held.1, held.2)) = .ok params) ↔
      Query.AreRendered conditions := by
  have of_null {value : Value} (null : value.isNull = true) :
      ∃ text, Query.valueText value = .ok text := by
    cases value with
    | null => exact ⟨_, rfl⟩
    | _ => cases null
  induction conditions using List.reverseRecOn with
  | nil => exact iff_of_true ⟨[], rfl⟩ (List.forall_mem_nil _)
  | append_singleton conditions last ih =>
    constructor
    · rintro ⟨params, done⟩
      obtain ⟨before, first, rest⟩ := conditionParams_fields_concat done
      refine List.forall_mem_append.mpr ⟨ih.mp ⟨before, first⟩, List.forall_mem_singleton.mpr ?_⟩
      rcases rest with ⟨null, -⟩ | ⟨-, text, rendered, -⟩
      · exact of_null null
      · exact ⟨text, rendered⟩
    · intro rendered
      obtain ⟨others, shown⟩ := List.forall_mem_append.mp rendered
      obtain ⟨before, first⟩ := ih.mpr others
      obtain ⟨text, shown⟩ := List.forall_mem_singleton.mp shown
      rw [List.map_append, List.map_singleton, conditionParams_concat, first, ok_bind, shown]
      split
      · exact ⟨_, rfl⟩
      · exact ⟨_, rfl⟩

/-- The options that a filter gives. An empty order counts as not given. -/
inductive Gives (filter : Filter) : Text → Value → Prop where
  | order : filter.orderBy.isTruthy = true → Gives filter "order_by" filter.orderBy
  | direction : filter.direction.isTruthy = true → Gives filter "order_dir" filter.direction
  | limit {text : Text} : filter.limit.isNull = false → filter.limit.text = .ok text →
      Gives filter "limit" (.str text)
  | offset {text : Text} : filter.offset.isNull = false → filter.offset.text = .ok text →
      Gives filter "offset" (.str text)

/-- Every value of the filter that becomes a text has one. -/
structure Renders (filter : Filter) (conditions : List (Text × Value)) : Prop where
  conditions : Query.AreRendered conditions
  limit : ∃ text, filter.limit.text = .ok text
  offset : ∃ text, filter.offset.text = .ok text

theorem lookup?_putIf (condition : Bool) (key name : Text) (value : Value) (params : Entries) :
    lookup? name (putIf condition key value params) =
      if condition = true ∧ key = name then some value else lookup? name params := by
  unfold putIf
  cases condition with
  | true => simp only [if_true, Value.lookup?_put, true_and]
  | false => simp

/-- `putCount` succeeds if and only if the count has a text, and holds that text. -/
theorem putCount_ok_iff {count : Value} {before : Entries} : putCount name count before = .ok params ↔
    ∃ text, count.text = .ok text ∧ params = putIf (!count.isNull) name (.str text) before := by
  unfold putCount putIf
  cases null : count.isNull with
  | true =>
    have written : count.text = .ok "None" := by
      cases count with
      | null => rfl
      | _ => cases null
    simp [written, eq_comm]
  | false => cases count.text <;> simp [Except.map, eq_comm]

theorem params_ok_iff (held : filter.conditions = .dict entries) : filter.params = .ok params ↔
    ∃ before limit offset, conditionParams entries = .ok before ∧ filter.limit.text = .ok limit ∧
      filter.offset.text = .ok offset ∧ params =
        (before
          |> putIf filter.orderBy.isTruthy "order_by" filter.orderBy
          |> putIf filter.direction.isTruthy "order_dir" filter.direction
          |> putIf (!filter.limit.isNull) "limit" (.str limit)
          |> putIf (!filter.offset.isNull) "offset" (.str offset)) := by
  rw [Filter.params, held]
  constructor
  · intro done
    obtain ⟨_, same, done⟩ := bind_ok done
    obtain rfl := Except.ok.inj same
    obtain ⟨before, first, done⟩ := bind_ok done
    obtain ⟨limited, second, done⟩ := bind_ok done
    obtain ⟨limit, written, rfl⟩ := putCount_ok_iff.mp second
    obtain ⟨offset, writtenToo, rfl⟩ := putCount_ok_iff.mp done
    exact ⟨before, limit, offset, first, written, writtenToo, rfl⟩
  · rintro ⟨before, limit, offset, first, written, writtenToo, rfl⟩
    have puts {name text : Text} {count : Value} (written : count.text = .ok text)
        (params : Entries) :
        putCount name count params = .ok (putIf (!count.isNull) name (.str text) params) :=
      putCount_ok_iff.mpr ⟨text, written, rfl⟩
    have entries_held : Value.entries (.dict entries) = .ok entries := rfl
    rw [entries_held, ok_bind, first, ok_bind]
    dsimp only
    rw [puts written, ok_bind, puts writtenToo]

theorem exists_params (held : filter.conditions = .ofFields conditions) :
    (∃ params, filter.params = .ok params) ↔ filter.Renders conditions := by
  constructor
  · rintro ⟨params, done⟩
    obtain ⟨before, limit, offset, first, written, writtenToo, -⟩ := (params_ok_iff held).mp done
    exact ⟨exists_conditionParams.mp ⟨before, first⟩, ⟨limit, written⟩, ⟨offset, writtenToo⟩⟩
  · rintro ⟨rendered, ⟨limit, written⟩, ⟨offset, writtenToo⟩⟩
    obtain ⟨before, first⟩ := exists_conditionParams.mpr rendered
    exact ⟨_, (params_ok_iff held).mpr ⟨before, limit, offset, first, written, writtenToo, rfl⟩⟩

theorem lookup?_given (held : filter.conditions = .dict entries) (done : filter.params = .ok params)
    (gives : filter.Gives name value) : lookup? name params = some value := by
  obtain ⟨before, limit, offset, -, written, writtenToo, rfl⟩ := (params_ok_iff held).mp done
  have apart {key other : Text} (different : key ≠ other) (condition : Bool) :
      ¬(condition = true ∧ key = other) := fun both => different both.2
  simp only [lookup?_putIf]
  cases gives with
  | order asked =>
    rw [if_neg (apart (by decide) _), if_neg (apart (by decide) _), if_neg (apart (by decide) _),
      if_pos ⟨asked, rfl⟩]
  | direction asked =>
    rw [if_neg (apart (by decide) _), if_neg (apart (by decide) _), if_pos ⟨asked, rfl⟩]
  | limit asked shown =>
    obtain rfl := Except.ok.inj (written.symm.trans shown)
    rw [if_neg (apart (by decide) _), if_pos ⟨by rw [asked]; rfl, rfl⟩]
  | offset asked shown =>
    obtain rfl := Except.ok.inj (writtenToo.symm.trans shown)
    rw [if_pos ⟨by rw [asked]; rfl, rfl⟩]

theorem lookup?_ungiven (held : filter.conditions = .dict entries)
    (done : filter.params = .ok params) (free : ∀ value, ¬filter.Gives name value) :
    ∃ before, conditionParams entries = .ok before ∧
      lookup? name params = lookup? name before := by
  obtain ⟨before, limit, offset, first, written, writtenToo, rfl⟩ := (params_ok_iff held).mp done
  refine ⟨before, first, ?_⟩
  simp only [lookup?_putIf]
  rw [if_neg, if_neg, if_neg, if_neg]
  · rintro ⟨asked, rfl⟩
    exact free _ (.order asked)
  · rintro ⟨asked, rfl⟩
    exact free _ (.direction asked)
  · rintro ⟨asked, rfl⟩
    exact free _ (.limit (by simpa using asked) written)
  · rintro ⟨asked, rfl⟩
    exact free _ (.offset (by simpa using asked) writtenToo)

/-- `Filter.params` succeeds if and only if the filter `Renders` its conditions. It holds everything
that the filter `Gives`, and a condition that is not null if and only if no option of its name gives
another text; nothing else is held. -/
theorem params_hold_iff (held : filter.conditions = .ofFields conditions)
    (distinct : (conditions.map Prod.fst).Nodup) :
    ((∃ params, filter.params = .ok params) ↔ filter.Renders conditions) ∧
    ∀ params, filter.params = .ok params →
      (∀ name value, filter.Gives name value → lookup? name params = some value) ∧
      (∀ condition ∈ conditions, condition.2.isNull = false →
        ∃ text, Query.valueText condition.2 = .ok text ∧
          (lookup? condition.1 params = some (.str text) ↔
            ∀ value, filter.Gives condition.1 value → value = .str text)) ∧
      ∀ name value, lookup? name params = some value → filter.Gives name value ∨
        ∃ condition ∈ conditions, condition.1 = name ∧ condition.2.isNull = false ∧
          ∃ text, Query.valueText condition.2 = .ok text ∧ value = .str text := by
  refine ⟨exists_params held, fun params done => ⟨fun name value => lookup?_given held done, ?_, ?_⟩⟩
  · intro condition member filled
    obtain ⟨text, rendered⟩ := ((exists_params held).mp ⟨params, done⟩).conditions condition member
    refine ⟨text, rendered, ?_⟩
    constructor
    · intro kept value gives
      exact Option.some.inj ((lookup?_given held done gives).symm.trans kept)
    · intro same
      by_cases given : ∃ value, filter.Gives condition.1 value
      · obtain ⟨value, gives⟩ := given
        rw [lookup?_given held done gives, same value gives]
      · obtain ⟨before, first, found⟩ := lookup?_ungiven held done (not_exists.mp given)
        rw [found]
        exact (lookup?_conditionParams distinct first).mpr
          ⟨condition, member, rfl, filled, text, rendered, rfl⟩
  · intro name value found
    by_cases given : ∃ value, filter.Gives name value
    · obtain ⟨other, gives⟩ := given
      rw [lookup?_given held done gives] at found
      obtain rfl := Option.some.inj found
      exact .inl gives
    · obtain ⟨before, first, same⟩ := lookup?_ungiven held done (not_exists.mp given)
      rw [same] at found
      exact .inr ((lookup?_conditionParams distinct first).mp found)

def sampleConditions : List (Text × Value) :=
  [("status", .ofText "active"), ("deleted_at", .null), ("limit", .int 5)]

/-- A filter with a condition on a column named `limit`, and a limit. -/
def sampleFilter : Filter :=
  { conditions := .ofFields sampleConditions, orderBy := .ofText "created_at", limit := .int 10 }

theorem params_hold_sample : sampleFilter.conditions = .ofFields sampleConditions ∧
    (sampleConditions.map Prod.fst).Nodup ∧ ∃ params, sampleFilter.params = .ok params ∧
      lookup? "order_by" params = some (.ofText "created_at") ∧
      lookup? "status" params = some (.ofText "active") ∧ lookup? "deleted_at" params = none := by
  have held : sampleFilter.conditions = .ofFields sampleConditions := rfl
  have distinct : (sampleConditions.map Prod.fst).Nodup := by decide
  have renders : sampleFilter.Renders sampleConditions := by
    refine ⟨fun condition member => ?_, ⟨_, rfl⟩, ⟨_, rfl⟩⟩
    simp only [sampleConditions, List.mem_cons, List.not_mem_nil, or_false] at member
    rcases member with rfl | rfl | rfl
    · exact ⟨_, rfl⟩
    · exact ⟨_, rfl⟩
    · exact ⟨_, rfl⟩
  obtain ⟨exact_iff, holds⟩ := params_hold_iff held distinct
  obtain ⟨params, done⟩ := exact_iff.mpr renders
  obtain ⟨given, kept, only⟩ := holds params done
  obtain ⟨text, rendered, status⟩ := kept ("status", .ofText "active") (.head _) rfl
  cases rendered
  refine ⟨held, distinct, params, done, given _ _ (.order rfl), status.mpr ?_, ?_⟩
  · intro value gives
    cases gives
  · rw [Option.eq_none_iff_forall_not_mem]
    intro value found
    rcases only _ _ found with gives | ⟨condition, member, named, filled, -⟩
    · cases gives
    · simp only [sampleConditions, List.mem_cons, List.not_mem_nil, or_false] at member
      rcases member with rfl | rfl | rfl
      · revert named
        decide
      · cases filled
      · revert named
        decide

/-- The option `limit` replaces the condition of that name. -/
theorem limit_replaces : ∃ params, sampleFilter.params = .ok params ∧
    ∃ condition ∈ sampleConditions, condition.2.isNull = false ∧
      ∃ text, Query.valueText condition.2 = .ok text ∧
        lookup? condition.1 params ≠ some (.str text) := by
  have done : ∃ params, sampleFilter.params = .ok params := ⟨_, rfl⟩
  obtain ⟨params, done⟩ := done
  refine ⟨params, done, ("limit", .int 5), by simp [sampleConditions], rfl, "5", rfl, ?_⟩
  rw [lookup?_given rfl done (.limit rfl rfl)]
  intro same
  have texts : "10".toList = "5".toList := Value.str.inj (Option.some.inj same)
  revert texts
  decide

/-- A mapping of texts. -/
def ofTexts (texts : List (Text × Text)) : Entries :=
  texts.map fun held => (.str held.1, .str held.2)

/-- `put` of a text preserves a mapping of texts. -/
theorem put_ofTexts (texts : List (Text × Text)) (name text : Text) :
    ∃ after, Value.put (ofTexts texts) (.str name) (.str text) = ofTexts after := by
  induction texts with
  | nil => exact ⟨[(name, text)], rfl⟩
  | cons held texts ih =>
    rw [ofTexts, List.map_cons, Value.put]
    split
    · exact ⟨(held.1, text) :: texts, rfl⟩
    · obtain ⟨after, done⟩ := ih
      refine ⟨held :: after, ?_⟩
      rw [← ofTexts, done]
      rfl

theorem conditionParams_texts
    (done : conditionParams (conditions.map fun held => (.str held.1, held.2)) = .ok params) :
    ∃ texts, params = ofTexts texts := by
  induction conditions using List.reverseRecOn generalizing params with
  | nil =>
    cases done
    exact ⟨[], rfl⟩
  | append_singleton conditions last ih =>
    obtain ⟨before, first, rest⟩ := conditionParams_fields_concat done
    obtain ⟨texts, rfl⟩ := ih first
    rcases rest with ⟨-, rfl⟩ | ⟨-, text, -, rfl⟩
    · exact ⟨texts, rfl⟩
    · exact put_ofTexts texts _ _

theorem putIf_texts {condition : Bool} (name : Text)
    (text : condition = true → value.isText = true) (texts : List (Text × Text)) :
    ∃ after, putIf condition name value (ofTexts texts) = ofTexts after := by
  unfold putIf
  split
  · rename_i asked
    cases value with
    | str held => exact put_ofTexts texts name held
    | _ => cases text asked
  · exact ⟨texts, rfl⟩

/-- `order_by` and `order_dir` are texts or null. -/
structure OrdersByText (filter : Filter) : Prop where
  order : filter.orderBy.isTruthy = true → filter.orderBy.isText = true
  direction : filter.direction.isTruthy = true → filter.direction.isText = true

theorem params_texts (held : filter.conditions = .ofFields conditions)
    (orders : filter.OrdersByText) (done : filter.params = .ok params) :
    ∃ texts, params = ofTexts texts := by
  obtain ⟨before, limit, offset, first, -, -, rfl⟩ := (params_ok_iff held).mp done
  have counted (condition : Bool) (text : Text) :
      condition = true → (Value.str text).isText = true := fun _ => rfl
  obtain ⟨texts, rfl⟩ := conditionParams_texts first
  obtain ⟨ordered, order⟩ := putIf_texts "order_by" orders.order texts
  obtain ⟨directed, direction⟩ := putIf_texts "order_dir" orders.direction ordered
  obtain ⟨limited, limit⟩ := putIf_texts "limit" (counted (!filter.limit.isNull) limit) directed
  obtain ⟨texts, offset⟩ := putIf_texts "offset" (counted (!filter.offset.isNull) offset) limited
  refine ⟨texts, ?_⟩
  rw [order, direction, limit, offset]

theorem ofParams_ofTexts (texts : List (Text × Text)) :
    Query.ofParams (ofTexts texts) = .ok texts := by
  induction texts with
  | nil => rfl
  | cons held texts ih =>
    rw [ofTexts, List.map_cons, ← ofTexts, Query.ofParams, ih]
    rfl

end Filter

section Asking

variable {α β : Type} {client : Client} {endpoint query : Text}

/-- The exchange sends one GET for the endpoint with the query appended, or nothing if the endpoint
has no address. -/
def Gets (client : Client) (endpoint query : Text) (exchange : Exchange α) : Prop :=
  ∀ service, (exchange service).2.events = service.events ++
    match client.urlFor endpoint [] with
    | .ok url => [.asked ⟨"GET", url ++ query, .null, .null, client.timeout⟩]
    | .error _ => []

theorem gets_get (client : Client) (endpoint : Text) {params : Entries}
    {said : List (Text × Text)} (done : Query.ofParams params = .ok said) :
    Gets client endpoint (Query.suffix said) (client.get endpoint params) := by
  intro service
  unfold Client.get Client.call
  rw [client.urlFor_params endpoint done]
  cases client.urlFor endpoint [] with
  | error fault => exact (List.append_nil _).symm
  | ok url => exact Client.events_send rfl service

theorem Gets.bind {first : Exchange α} {next : α → Exchange β}
    (gets : Gets client endpoint query first) (quiet : ∀ value, Quiet (next value)) :
    Gets client endpoint query (first >>= next) :=
  fun service => (events_bind quiet service).trans (gets service)

end Asking

namespace Rows

variable {filter : Filter} {params : Entries} {said : List (Text × Text)}

theorem gets_findAll (rows : Rows) (done : filter.params = .ok params)
    (encodes : Query.ofParams params = .ok said) :
    Gets rows.client rows.path (Query.suffix said) (rows.findAll filter) := by
  unfold findAll
  rw [done]
  exact (gets_get rows.client rows.path encodes).bind fun found => quiet_pure _

theorem gets_count (rows : Rows) (done : filter.params = .ok params)
    (encodes : Query.ofParams params = .ok said) :
    Gets rows.client (rows.path ++ "/count") (Query.suffix said) (rows.count filter) := by
  unfold count
  rw [done]
  refine (gets_get rows.client _ encodes).bind fun reply => ?_
  exact quiet_bind (quiet_lift _) fun entries => quiet_lift _

end Rows

theorem Client.urlOf_params (client : Client) (endpoint : Text) {params : List (Text × Value)}
    (rendered : Query.AreRendered params) : ∃ said, Query.SaidBy params said ∧
      client.urlOf (.str endpoint) (.ofFields params) =
        (client.urlOf (.str endpoint) .null).map (· ++ Query.suffix said) := by
  have bare : client.urlOf (.str endpoint) .null = client.urlFor endpoint [] := by
    change (client.urlFor endpoint [] >>= fun url => .ok url) = _
    cases client.urlFor endpoint [] <;> rfl
  obtain ⟨said, done, encodes⟩ := Query.ofParams_fields rendered
  exact ⟨said, encodes, by rw [bare]; exact client.urlFor_params endpoint done⟩

/-- The query that `urlOf` appends decodes by `Query.Tells` to the parameters that are not null, in
order, for all that `AreRendered`. For a filter that `Renders`, `findAll` and `count` send the same
query, which decodes to `Filter.params`. -/
theorem queries_decode :
    (∀ (client : Client) (endpoint : Text) (params : List (Text × Value)),
      Query.AreRendered params → ∃ said query,
        Query.SaidBy params said ∧ Query.Tells query said ∧
        client.urlOf (.str endpoint) (.ofFields params) =
          (client.urlOf (.str endpoint) .null).map (· ++ query)) ∧
    ∀ (rows : Rows) (filter : Filter) (conditions : List (Text × Value)),
      filter.conditions = .ofFields conditions → filter.OrdersByText →
      filter.Renders conditions →
      ∃ texts query, filter.params = .ok (Filter.ofTexts texts) ∧ Query.Tells query texts ∧
        Gets rows.client rows.path query (rows.findAll filter) ∧
        Gets rows.client (rows.path ++ "/count") query (rows.count filter) := by
  constructor
  · intro client endpoint params rendered
    obtain ⟨said, encodes, done⟩ := client.urlOf_params endpoint rendered
    exact ⟨said, _, encodes, Query.tells_suffix said, done⟩
  · intro rows filter conditions held orders renders
    obtain ⟨params, done⟩ := (Filter.exists_params held).mpr renders
    obtain ⟨texts, rfl⟩ := Filter.params_texts held orders done
    have encodes := Filter.ofParams_ofTexts texts
    exact ⟨texts, Query.suffix texts, done, Query.tells_suffix texts, rows.gets_findAll done encodes,
      rows.gets_count done encodes⟩

def sampleRows : Rows := .ofTable (.ofUrl "http://h/api/") "public" "users"

/-- Separators of form text in names and values. -/
def markedConditions : List (Text × Value) :=
  [("a&b=c", .ofText "d e+%é"), ([], .ofText ""), ("flag", .bool true), ("gone", .null)]

def markedFilter : Filter :=
  { conditions := .ofFields markedConditions, orderBy := .ofText "name",
    direction := .ofText "desc", limit := .int 10 }

def markedTexts : List (Text × Text) :=
  [("a&b=c", "d e+%é"), ([], []), ("flag", "true"), ("order_by", "name"), ("order_dir", "desc"),
    ("limit", "10")]

theorem queries_decode_marked :
    markedFilter.conditions = .ofFields markedConditions ∧ markedFilter.OrdersByText ∧
      markedFilter.Renders markedConditions ∧ ∃ query, Query.Tells query markedTexts ∧
        Gets sampleRows.client sampleRows.path query (sampleRows.findAll markedFilter) ∧
        Gets sampleRows.client (sampleRows.path ++ "/count") query
          (sampleRows.count markedFilter) := by
  have orders : markedFilter.OrdersByText := ⟨fun _ => rfl, fun _ => rfl⟩
  have renders : markedFilter.Renders markedConditions := by
    refine ⟨fun condition member => ?_, ⟨_, rfl⟩, ⟨_, rfl⟩⟩
    simp only [markedConditions, List.mem_cons, List.not_mem_nil, or_false] at member
    rcases member with rfl | rfl | rfl | rfl
    · exact ⟨_, rfl⟩
    · exact ⟨_, rfl⟩
    · exact ⟨_, rfl⟩
    · exact ⟨_, rfl⟩
  obtain ⟨texts, query, done, tells, asked⟩ :=
    queries_decode.2 sampleRows markedFilter markedConditions rfl orders renders
  have params : markedFilter.params = .ok (Filter.ofTexts markedTexts) := rfl
  have same := congrArg Query.ofParams (Except.ok.inj (done.symm.trans params))
  rw [Filter.ofParams_ofTexts, Filter.ofParams_ofTexts] at same
  cases same
  exact ⟨rfl, orders, renders, query, tells, asked⟩

end TypedCatalog
