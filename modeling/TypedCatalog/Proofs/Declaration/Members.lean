import Mathlib.Data.List.Nodup
import TypedCatalog.Proofs.Declaration.Decodable

/-! Names inside one declaration, decoded from its text. A query interface lists paging options and
columns in one name space, and `Name.enumMember` is not injective, so both kinds of names may
repeat. -/
namespace TypedCatalog.Declaration

open Catalog

/-- `readModule` of the text of a readable declaration is that declaration without comments. -/
theorem readModule_text {declaration : Declaration} (readable : declaration.IsReadable) :
    readModule declaration.text = some [bare declaration] := by
  have start : skip .blank declaration.text = some (declaration.text ++ []) := by
    rw [List.append_nil]
    exact (startsToken_text declaration).skip_eq
  exact (Lists.next readable start (.done rfl)).readModule_eq

/-- The names of the paging options. -/
def pagingNames : List Text := ["limit", "offset", "order_by", "order_dir"]

theorem names_ofQuery (table : Relation) :
    (pagination ++ table.columns.map filterProperty).map Property.name =
      pagingNames ++ table.columns.map Column.name := by
  rw [List.map_append, List.map_map]
  rfl

theorem nodup_pagingNames : pagingNames.Nodup := by decide

/-- The names decoded from a query interface are `pagingNames` followed by the column names. They
are pairwise different if and only if the column names are and none of them is a paging name. -/
theorem query_names_iff (table : Relation) : ∃ name properties,
    readModule (ofQuery table).text = some [interface name properties] ∧
      properties.map Property.name = pagingNames ++ table.columns.map Column.name ∧
      ((properties.map Property.name).Nodup ↔ (table.columns.map Column.name).Nodup ∧
        ∀ column ∈ table.columns, column.name ∉ pagingNames) := by
  have read := readModule_text (isReadable_ofQuery table)
  rw [bare_ofQuery] at read
  refine ⟨_, _, read, names_ofQuery table, ?_⟩
  rw [names_ofQuery, List.nodup_append_comm, List.nodup_append']
  constructor
  · rintro ⟨columns, -, apart⟩
    refine ⟨columns, fun column member option => ?_⟩
    exact apart (List.mem_map_of_mem member) option
  · rintro ⟨columns, apart⟩
    refine ⟨columns, nodup_pagingNames, fun name held option => ?_⟩
    obtain ⟨column, member, rfl⟩ := List.mem_map.mp held
    exact apart column member option

/-- A table with a column named `limit`. -/
def limited : Relation where
  name := "plans"
  schema := "s"
  columns := [{ name := "id", type := "int" }, { name := "limit", type := "int" }]

theorem limited_names : (limited.columns.map Column.name).Nodup ∧ ∃ name properties,
    readModule (ofQuery limited).text = some [interface name properties] ∧
      ¬(properties.map Property.name).Nodup := by
  have read := readModule_text (isReadable_ofQuery limited)
  rw [bare_ofQuery] at read
  refine ⟨by decide, _, _, read, ?_⟩
  rw [names_ofQuery]
  decide

theorem names_ofEnumeration (held : Enumeration) :
    (held.values.map fun value => (Name.enumMember value, value)).map Prod.fst =
      held.values.map Name.enumMember := List.map_map

/-- The members decoded from an enumeration carry its values in order. Their names are pairwise
different if and only if the values are and no two of them satisfy `Name.SharesMember`. -/
theorem member_names_iff (held : Enumeration) : ∃ name members,
    readModule (ofEnumeration held).text = some [enumeration name members] ∧
      members.map Prod.snd = held.values ∧
      ((members.map Prod.fst).Nodup ↔ held.values.Nodup ∧
        ∀ value ∈ held.values, ∀ other ∈ held.values, value ≠ other →
          ¬Name.SharesMember value other) := by
  refine ⟨_, _, readModule_text (isReadable_ofEnumeration held), ?_, ?_⟩
  · rw [List.map_map]
    exact List.map_id' held.values
  rw [names_ofEnumeration]
  constructor
  · intro distinct
    refine ⟨distinct.of_map, fun value member other memberToo different shares => ?_⟩
    exact different (List.inj_on_of_nodup_map distinct member memberToo
      (Name.enumMember_eq_iff.mpr shares))
  · rintro ⟨distinct, apart⟩
    refine distinct.map_on fun value member other memberToo same => ?_
    by_contra different
    exact apart value member other memberToo different (Name.enumMember_eq_iff.mp same)

/-- Two values that `Name.enumMember` identifies. -/
def dashed : Enumeration where
  name := "color"
  schema := "s"
  values := ["dark-red", "dark red"]

theorem dashed_members : dashed.values.Nodup ∧ ∃ name members,
    readModule (ofEnumeration dashed).text = some [enumeration name members] ∧
      ¬(members.map Prod.fst).Nodup := by
  refine ⟨by decide, _, _, readModule_text (isReadable_ofEnumeration dashed), ?_⟩
  rw [names_ofEnumeration]
  decide

end TypedCatalog.Declaration
