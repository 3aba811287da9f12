import WideColumn.Proofs.Collection.Dispatch
import WideColumn.Proofs.Numeral
/-!
# Limits of finding

The limit and the skipping of criteria are shared between the store, which is
asked for no more rows than are needed, and the collection, which drops the
first records and counts the others. `limit_is_invisible` says that the
sharing cannot be seen: a store that answers with as many of its rows as the
statement asks for leads to the same records as one that answers with all of
them.
-/

namespace WideColumn

open Operation

/-- As many items as a limit allows, all of them without one. -/
def upTo {α : Type} (limit : Option Nat) (items : List α) : List α :=
  match limit with
  | some n => items.take n
  | none => items

/-- What stands behind the limit of a select. -/
def Statement.ending (statement : Statement) : String :=
  (if statement.allowFiltering then " ALLOW FILTERING" else "") ++ ";"

namespace Schema

variable {schema : Schema} {criteria : Criteria} {statement : Statement}

/-- A select carries a limit if it is the select of all rows that criteria
mean, with the limit before its end. -/
def CarriesLimit (schema : Schema) (criteria : Criteria) (statement : Statement) (limit : Option Nat) : Prop :=
  ∃ whole front, schema.select { criteria with limit := none, skip := none } = .ok whole ∧
    whole.text = front ++ whole.ending ∧
    statement = { whole with text := front ++ limitText limit ++ whole.ending }

/-! ## The limit of a select -/

theorem limitText_inj {limit other : Option Nat} : limitText limit = limitText other ↔ limit = other := by
  have hne (n : Nat) : limitText none ≠ limitText (some n) := by
    intro h
    have hlength := congrArg String.length h
    rw [limitText, limitText, String.length_append] at hlength
    have hword : " LIMIT ".length = 7 := by decide
    rw [hword, String.length_empty] at hlength
    omega
  constructor
  · intro h
    cases limit with
    | none =>
      cases other with
      | none => rfl
      | some n => exact absurd h (hne n)
    | some m =>
      cases other with
      | none => exact absurd h.symm (hne m)
      | some n =>
        have hdigits := String.ofList_injective ((String.append_right_inj _).1 h)
        have hvalue := congrArg Numeral.value hdigits
        rw [Numeral.value_ofNat, Numeral.value_ofNat] at hvalue
        rw [hvalue]
  · rintro rfl
    rfl

/-- The text of a scan up to its limit. -/
def scanFront (head : String) (clause : Clause) (order : List String) : String :=
  head ++ (if clause.isEmpty then "" else " WHERE " ++ clause.text) ++
    (if order.isEmpty then "" else " ORDER BY " ++ ", ".intercalate order)

theorem text_scanStatement (head : String) (clause : Clause) (order : List String) (limit : Option Nat) :
    (scanStatement head clause order limit).text =
      scanFront head clause order ++ limitText limit ++ (scanStatement head clause order none).ending := by
  cases clause with
  | nil => simp [scanStatement, scanFront, Statement.ending, String.append_assoc]
  | cons comparison clause => simp [scanStatement, scanFront, Statement.ending, String.append_assoc]

theorem text_scanStatement_none (head : String) (clause : Clause) (order : List String) :
    (scanStatement head clause order none).text =
      scanFront head clause order ++ (scanStatement head clause order none).ending := by
  have h := text_scanStatement head clause order none
  rwa [limitText, String.append_empty] at h

/-- A text is a scan with a limit for one limit only. -/
theorem limit_of_scanStatement {head front : String} {clause : Clause} {order : List String}
    {limit other : Option Nat}
    (hfront : (scanStatement head clause order none).text =
      front ++ (scanStatement head clause order none).ending)
    (h : (scanStatement head clause order limit).text =
      front ++ limitText other ++ (scanStatement head clause order none).ending) : other = limit := by
  rw [text_scanStatement_none] at hfront
  rw [text_scanStatement, (String.append_left_inj _).1 hfront] at h
  exact (limitText_inj.1 ((String.append_right_inj _).1 ((String.append_left_inj _).1 h))).symm

theorem select_eq_query : schema.select criteria =
    schema.query ("SELECT " ++ schema.projection ++ " FROM " ++ schema.table) criteria criteria.sort criteria.window :=
  rfl

theorem window_of_unlimited : Criteria.window { criteria with limit := none, skip := none } = none := rfl

/-- The select of criteria that do not pin a key carries just one limit, the
number of rows to ask for. -/
theorem carriesLimit_iff (hp : schema.pinnedKey criteria = .ok none) (h : schema.select criteria = .ok statement)
    {limit : Option Nat} : schema.CarriesLimit criteria statement limit ↔ limit = criteria.window := by
  rcases query_eq_ok_iff.1 h with ⟨key, hkey, -⟩ | ⟨-, clause, order, hclause, horder, rfl⟩
  · cases hp.symm.trans hkey
  -- neither the clause nor the ordering looks at the limit
  have hwhole : schema.select { criteria with limit := none, skip := none } =
      .ok (scanStatement ("SELECT " ++ schema.projection ++ " FROM " ++ schema.table) clause order none) := by
    rw [select_eq_query, window_of_unlimited]
    exact query_eq_ok_iff.2 (.inr ⟨hp, clause, order, hclause, horder, rfl⟩)
  constructor
  · rintro ⟨whole, front, hother, hfront, hstatement⟩
    obtain rfl := Except.ok.inj (hwhole.symm.trans hother)
    exact limit_of_scanStatement hfront (congrArg Statement.text hstatement)
  · rintro rfl
    refine ⟨_, scanFront _ clause order, hwhole, text_scanStatement_none .., ?_⟩
    rw [← text_scanStatement]
    rfl

end Schema

/-! ## Pages of results -/

namespace Criteria

variable {α : Type} (criteria : Criteria)

theorem page_eq_upTo (results : List α) :
    criteria.page results =
      upTo (criteria.limit.map UInt64.toNat) (results.drop ((criteria.skip.map UInt64.toNat).getD 0)) := by
  unfold page upTo
  cases criteria.limit <;> rfl

/-- A page of results that fit into a count needs only those that are asked
for. -/
theorem page_upTo_window {results : List α} (h : results.length < UInt64.size) :
    criteria.page (upTo criteria.window results) = criteria.page results := by
  unfold window page
  cases criteria.limit with
  | none => rfl
  | some limit =>
    cases criteria.skip with
    | none => simp [upTo, List.take_take]
    | some skip =>
      -- at the greatest count the sum is cut off, but there are no more results than that
      have hall : results.take (min (limit.toNat + skip.toNat) maxCount) =
          results.take (limit.toNat + skip.toNat) := by
        have hmax : results.length ≤ maxCount := by
          unfold maxCount
          omega
        rw [List.take_eq_take_iff]
        omega
      simp only [upTo, hall, List.drop_take, Option.map_some, Option.getD_some, List.take_take]
      congr 1
      omega

end Criteria

namespace Collection

variable {collection : Collection} {criteria : Criteria} {σ : Type} {store : Store σ} {state : σ}

theorem upTo_map {α β : Type} (f : α → β) (limit : Option Nat) (items : List α) :
    upTo limit (items.map f) = (upTo limit items).map f := by
  cases limit with
  | none => rfl
  | some n => exact (List.map_take ..).symm

theorem result_find {statement : Statement} (h : collection.schema.select criteria = .ok statement)
    {pinned : Option PinnedKey} (hp : collection.schema.pinnedKey criteria = .ok pinned) {rows : List Row}
    (hrows : (store (.execute collection.session statement) state).1 = .ok rows) :
    result (collection.find criteria) store state =
      .ok (if pinned.isSome then rows.map collection.schema.decodeRow
        else criteria.page (rows.map collection.schema.decodeRow)) := by
  rw [find_of_ok h hp, result_bind_pure, result_ask, hrows]
  rfl

/-- Which rows a find takes is not seen to be shared with the store. If the
criteria pin no key, the statement carries one limit or none, and a store that
answers with just so many of its rows leads to the records of all rows without
those to skip, up to the limit of the criteria. If they pin a key, the limit
and the skipping make no difference to anything. -/
theorem limit_is_invisible (collection : Collection) (criteria : Criteria) (store : Store σ) (state : σ) :
    (collection.schema.pinnedKey criteria = .ok none →
      ∀ statement, collection.schema.select criteria = .ok statement →
        ∃ limit, (∀ other, collection.schema.CarriesLimit criteria statement other ↔ other = limit) ∧
          ∀ rows : List Row, rows.length < UInt64.size →
            (store (.execute collection.session statement) state).1 = .ok (upTo limit rows) →
              calls (collection.find criteria) store state = [.execute collection.session statement] ∧
              result (collection.find criteria) store state =
                .ok (upTo (criteria.limit.map UInt64.toNat)
                  ((rows.map collection.schema.decodeRow).drop ((criteria.skip.map UInt64.toNat).getD 0)))) ∧
    ∀ key, collection.schema.pinnedKey criteria = .ok (some key) →
      ∃ statement, (∀ limit skip, collection.schema.select { criteria with limit, skip } = .ok statement ∧
          collection.find { criteria with limit, skip } = collection.find criteria) ∧
        ∀ rows, (store (.execute collection.session statement) state).1 = .ok rows →
          calls (collection.find criteria) store state = [.execute collection.session statement] ∧
          result (collection.find criteria) store state = .ok (rows.map collection.schema.decodeRow) := by
  constructor
  · intro hp statement h
    refine ⟨criteria.window, fun other => Schema.carriesLimit_iff hp h, fun rows hlength hrows => ?_⟩
    refine ⟨(asksOnce_find h).calls_eq, ?_⟩
    have hfit : (rows.map collection.schema.decodeRow).length < UInt64.size := by
      rw [List.length_map]
      exact hlength
    rw [result_find h hp hrows, ← upTo_map, ← Criteria.page_eq_upTo]
    exact congrArg Except.ok (criteria.page_upTo_window hfit)
  · intro key hp
    let head := "SELECT " ++ collection.schema.projection ++ " FROM " ++ collection.schema.table
    have hselect (limit skip : Option UInt64) :
        collection.schema.select { criteria with limit, skip } = .ok (Schema.keyedStatement .select head key []) :=
      Schema.query_eq_ok_iff.2 (.inl ⟨key, hp, rfl⟩)
    refine ⟨_, fun limit skip => ⟨hselect limit skip, ?_⟩, fun rows hrows => ⟨?_, ?_⟩⟩
    · rw [find_of_ok (hselect limit skip) hp, find_of_ok (hselect criteria.limit criteria.skip) hp]
      rfl
    · exact (asksOnce_find (hselect criteria.limit criteria.skip)).calls_eq
    · exact result_find (hselect criteria.limit criteria.skip) hp hrows

/-- The second of two users is found by skipping one, though the number of
rows to ask for is cut off. A user whose key is given is found though the limit
is zero. -/
theorem limit_is_invisible_sample :
    let users : Collection := { schema := .sample, session := { id := 0, keyspace := none } }
    let row (name : String) : Row := [("id", .text name)]
    let store (rows : List Row) : ScriptedStore := { script := { replies := [.ok rows] } }
    let criteria : Criteria := { limit := some 18446744073709551615, skip := some 1 }
    let one : Criteria := { filter := some (.field "id" (.equals (.string "a"))), limit := some 0 }
    (∃ statement, Schema.sample.CarriesLimit criteria statement (some 18446744073709551615) ∧
      result (users.find criteria) ScriptedStore.answer (store [row "a", row "b"]) = .ok [[("id", .string "b")]]) ∧
    result (users.find one) ScriptedStore.answer (store [row "a"]) = .ok [[("id", .string "a")]] := by
  intro users row store criteria one
  constructor
  · have hp : users.schema.pinnedKey criteria = .ok none := rfl
    obtain ⟨hfind, -⟩ := limit_is_invisible users criteria ScriptedStore.answer (store [row "a", row "b"])
    obtain ⟨limit, hlimit, hrows⟩ := hfind hp _ rfl
    have hwindow : some 18446744073709551615 = limit := (hlimit _).1 (Schema.carriesLimit_iff hp rfl |>.2 rfl)
    subst hwindow
    obtain ⟨-, hresult⟩ := hrows [row "a", row "b"] (by decide) rfl
    exact ⟨_, (hlimit _).2 rfl, hresult⟩
  · have hp : users.schema.pinnedKey one = .ok (some [(Schema.sample.partition, .string "a")]) := rfl
    obtain ⟨-, hfind⟩ := limit_is_invisible users one ScriptedStore.answer (store [row "a"])
    obtain ⟨statement, hselect, hrows⟩ := hfind _ hp
    exact (hrows [row "a"] rfl).2

end Collection
end WideColumn
