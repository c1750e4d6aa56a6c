import WideColumn.Proofs.Session.BestEffort
import WideColumn.Proofs.Session.Native
import WideColumn.Proofs.Session.Tables

namespace WideColumn

open Outcome

namespace Projection

variable {naming : Naming} {projection : Projection} {fields : List ReturnField} {row : Row}
  {keys : List String} {column : String} {v : Value}

def resultName (naming : Naming) (projection : Projection) (field : ReturnField) : String :=
  match projection with
  | .native _ =>
    naming.normalize ((field.asName.map naming.normalize).getD (naming.normalize field.name))
  | .all | .deferred _ => RowMap.resultName naming field

def KeepsKeys (naming : Naming) (keys : List String) (projection : Projection) : Prop :=
  match projection with
  | .all => True
  | .native fields | .deferred fields => ∀ column ∈ keys,
      (∃ f ∈ fields, projection.resultName naming f = column) ∧
      ∀ f ∈ fields, projection.resultName naming f = column → naming.normalize f.name = column

instance : Decidable (projection.KeepsKeys naming keys) :=
  match projection with
  | .all => .isTrue trivial
  | .native _ | .deferred _ => inferInstanceAs (Decidable (∀ _ ∈ _, _ ∧ _))

theorem get?_of_entries {entries : List (String × Value)} {name : ReturnField → String}
    (hentries : ∀ e, e ∈ entries ↔
      ∃ f ∈ fields, row.get? (naming.normalize f.name) = some e.2 ∧ name f = e.1)
    (hreturned : ∃ f ∈ fields, name f = column)
    (hown : ∀ f ∈ fields, name f = column → naming.normalize f.name = column)
    (hv : row.get? column = some v) : (NamedValues.ofList entries).get? column = some v := by
  rw [NamedValues.get?_ofList]
  apply NamedValues.lookup_eq_some_of_forall
  · obtain ⟨f, hf, hname⟩ := hreturned
    have hmem : (column, v) ∈ entries :=
      (hentries _).mpr ⟨f, hf, by rw [hown f hf hname]; exact hv, hname⟩
    exact ⟨_, List.mem_reverse.mpr hmem, rfl⟩
  · intro e he hcolumn
    obtain ⟨f, hf, hget, hname⟩ := (hentries e).mp (List.mem_reverse.mp he)
    rw [hown f hf (hname.trans hcolumn), hv] at hget
    exact (Option.some.inj hget).symm

theorem get?_present (hrow : row.IsNative naming) (hkeeps : projection.KeepsKeys naming keys)
    (hcolumn : column ∈ keys) (hv : row.get? column = some v) :
    (projection.present naming row).get? column = some v := by
  cases projection with
  | all => exact (hrow.get?_ofRow column).trans hv
  | native fields =>
    obtain ⟨hreturned, hown⟩ := hkeeps column hcolumn
    refine get?_of_entries (fun e => ?_) hreturned hown hv
    simp only [Row.answer, List.mem_map, List.mem_filterMap, SelectPlan.selectItem,
      Option.map_eq_some_iff, Projection.resultName]
    constructor
    · rintro ⟨_, ⟨_, ⟨f, hf, rfl⟩, v, hv, rfl⟩, rfl⟩
      exact ⟨f, hf, hv, rfl⟩
    · rintro ⟨f, hf, hv, hname⟩
      exact ⟨_, ⟨_, ⟨f, hf, rfl⟩, e.2, hv, rfl⟩, by rw [hname]⟩
  | deferred fields =>
    obtain ⟨hreturned, hown⟩ := hkeeps column hcolumn
    refine get?_of_entries (fun e => ?_) hreturned hown hv
    simp only [List.mem_filterMap, Option.map_eq_some_iff, hrow.get?_ofRow, Projection.resultName]
    constructor
    · rintro ⟨f, hf, v, hv, rfl⟩
      exact ⟨f, hf, hv, rfl⟩
    · rintro ⟨f, hf, hv, hname⟩
      exact ⟨f, hf, e.2, hv, by rw [hname]⟩

end Projection

namespace Change

def bound (change : Change) (resource : String) (columns : List (String × Value))
    (keys : List String) (key : List Value) : Statement :=
  match change with
  | .update => .update resource columns (keys.zip key)
  | .delete => .delete resource (keys.zip key)

variable {change : Change} {resource : String} {columns : List (String × Value)}
  {keys : List String} {key key' : List Value} {value? : String → Option Value} {st : Statement}

theorem asks_given : change.Asks resource keys value? (.ok columns) st ↔
    keys ≠ [] ∧ (change = .update → columns ≠ []) ∧
      ∃ key : List Value, keys.map value? = key.map some ∧
        st = change.bound resource columns keys key := by
  rw [Asks]
  apply and_congr_right
  intro _
  rw [← exists_and_left]
  apply exists_congr
  intro key
  rw [and_left_comm]
  apply and_congr_right
  intro _
  cases change with
  | delete => simp [bound]
  | update => simp [bound]

theorem bound_inj (hkey : key.length = keys.length) (hkey' : key'.length = keys.length)
    (h : change.bound resource columns keys key = change.bound resource columns keys key') :
    key = key' := by
  have hzip : keys.zip key = keys.zip key' := by
    cases change with
    | update => exact (Statement.update.inj h).2.2
    | delete => exact (Statement.delete.inj h).2
  have hsnd := congrArg (List.map Prod.snd) hzip
  rwa [List.map_snd_zip (by omega), List.map_snd_zip (by omega)] at hsnd

def text (change : Change) (resource : String) (columns keys : List String) : String :=
  match change with
  | .update => Statement.updateText resource columns keys
  | .delete => Statement.deleteText resource keys

theorem cql_bound (change : Change) (hkey : key.length = keys.length) :
    (change.bound resource columns keys key).cql =
      change.text resource (columns.map Prod.fst) keys := by
  have hkeys : (keys.zip key).map Prod.fst = keys := List.map_fst_zip (by omega)
  cases change with
  | update => rw [bound, Statement.cql, hkeys, text]
  | delete => rw [bound, Statement.cql, hkeys, text]

theorem values_bound (hcolumns : change = .delete → columns = [])
    (hkey : key.length = keys.length) :
    (change.bound resource columns keys key).values =
      (columns.map Prod.snd ++ key).map Value.coerce := by
  have hvalues : (keys.zip key).map Prod.snd = key := List.map_snd_zip (by omega)
  cases change with
  | update => rw [bound, Statement.values, Statement.operands, hvalues]
  | delete =>
    rw [bound, Statement.values, Statement.operands, hvalues, hcolumns rfl]
    rfl

def Addresses (change : Change) (resource : String) (columns : List (String × Value))
    (keys : List String) (row : Row) (st : Statement) : Prop :=
  ∃ key : List Value, (keys.map fun column => (row.get? column).map Value.coerce) =
    (key.map fun v => some v.coerce) ∧ st = change.bound resource columns keys key

theorem Addresses.received {row : Row} (hcolumns : change = .delete → columns = [])
    (h : change.Addresses resource columns keys row st) :
    st.cql = change.text resource (columns.map Prod.fst) keys ∧
      ∃ key : List Value, (keys.map fun column => (row.get? column).map Value.coerce) =
        key.map some ∧ st.values = (columns.map fun e => e.2.coerce) ++ key := by
  obtain ⟨key, hkey, rfl⟩ := h
  have hlength : key.length = keys.length := by simpa using (congrArg List.length hkey).symm
  refine ⟨cql_bound change hlength, key.map Value.coerce, ?_, ?_⟩
  · rw [hkey, List.map_map]
    rfl
  · rw [values_bound hcolumns hlength, List.map_append, List.map_map]
    rfl

theorem Addresses.first {column name : String} {row : Row} {v : Value}
    {rest : List (String × Value)}
    (h : delete.Addresses resource [] (column :: keys) row
      (.delete resource ((name, v) :: rest))) :
    (row.get? column).map Value.coerce = some v.coerce := by
  obtain ⟨-, _ | ⟨u, key⟩, hkey, hvalues⟩ := h.received fun _ => rfl
  · contradiction
  · have hbound : v.coerce = u := (List.cons.inj hvalues).1
    rw [hbound]
    exact (List.cons.inj hkey).1

end Change

theorem map_coerce {keys : List String} {value? : String → Option Value} {key : List Value}
    (h : keys.map value? = key.map some) :
    (keys.map fun column => (value? column).map Value.coerce) =
      key.map fun v => some v.coerce := by
  have hcoerced := congrArg (List.map (Option.map Value.coerce)) h
  rw [List.map_map, List.map_map] at hcoerced
  exact hcoerced

theorem forall₂_filterMap_iff {α β : Type} {R : α → β → Prop} {f : α → Option β} {xs : List α} :
    List.Forall₂ R xs (xs.filterMap f) ↔ ∀ x ∈ xs, ∃ y, f x = some y ∧ R x y := by
  induction xs with
  | nil => simp
  | cons x xs ih =>
    rw [List.filterMap_cons, List.forall_mem_cons, ← ih]
    cases h : f x with
    | none =>
      refine iff_of_false (fun hall => ?_) (by simp)
      have hlength : xs.length + 1 = (xs.filterMap f).length := hall.length_eq
      have hle := List.length_filterMap_le f xs
      omega
    | some y => simp

structure Row.IsFull (naming : Naming) (keys : List String) (row : Row) : Prop
    extends Row.IsNative naming row where
  keyed : ∀ column ∈ keys, (Subject.nonNull (row.get? column)).isSome = true

theorem Row.isFull_of_columns {naming : Naming} {keys : List String} {row : Row}
    (hnormal : row.columns.all (fun e => naming.normalize e.1 == e.1) = true)
    (hdistinct : (row.columns.map Prod.fst).Nodup)
    (hkeyed : keys.all (fun k => (Subject.nonNull (row.get? k)).isSome) = true) :
    row.IsFull naming keys where
  normalized e he := eq_of_beq (List.all_eq_true.mp hnormal e he)
  distinct := hdistinct
  keyed := List.all_eq_true.mp hkeyed

namespace Session

variable {ω α : Type} {s : Session ω} {change : Change} {subject : Subject α}
  {mutation : Mutation α} {params : List Value} {q : Query} {plan : SelectPlan} {o : Opening}
  {resource : String} {row : Row} {map : RowMap}

def HasKeyOf (keys : List String) (row : Row) (map : RowMap) : Prop :=
  ∀ column ∈ keys, (Subject.nonNull (map.get? column)).map Value.coerce =
    (row.get? column).map Value.coerce

theorem rowStatement_addresses (hkeys : o.keys ≠ []) (hcolumns : change = .update → o.shared ≠ [])
    (hkeyed : ∀ column ∈ o.keys, (row.get? column).isSome = true) :
    (∃ st, (rowStatement change resource o map).toOption = some st ∧
      change.Addresses resource o.shared o.keys row st) ↔ HasKeyOf o.keys row map := by
  simp only [toOption_eq_some, rowStatement, rowKeys, Change.statement_eq_ok, Change.asks_given]
  constructor
  · rintro ⟨st, ⟨-, -, key, hkey, rfl⟩, key', hkey', hbound⟩
    have hlength : key.length = o.keys.length := by simpa using (congrArg List.length hkey).symm
    have hlength' : key'.length = o.keys.length := by simpa using (congrArg List.length hkey').symm
    obtain rfl := Change.bound_inj hlength hlength' hbound
    exact List.map_inj_left.mp ((map_coerce hkey).trans hkey'.symm)
  · intro h
    have hpresent : ∀ column ∈ o.keys,
        (Subject.nonNull (map.get? column)).isSome = true := by
      intro column hcolumn
      rw [← Option.isSome_map, h column hcolumn, Option.isSome_map]
      exact hkeyed column hcolumn
    obtain ⟨key, hkey⟩ := exists_map_eq_some.mpr hpresent
    refine ⟨_, ⟨hkeys, hcolumns, key, hkey, rfl⟩, key, ?_, rfl⟩
    rw [← List.map_congr_left h]
    exact map_coerce hkey

theorem keepsKeys_of_fields (hplan : s.selectPlan q params = .ok plan) (hfields : q.fields = [])
    (keys : List String) : plan.projection.KeepsKeys s.naming keys := by
  obtain ⟨_, pushdown, -, -, hprojection, -⟩ := selectPlan_eq_ok hplan
  rw [hprojection, hfields]
  exact trivial

theorem hasKeyOf_present {keys : List String} {projection : Projection}
    (hrow : row.IsFull s.naming keys) (hkeeps : projection.KeepsKeys s.naming keys) :
    HasKeyOf keys row (projection.present s.naming row) := by
  intro column hcolumn
  obtain ⟨v, hv⟩ := Option.isSome_iff_exists.mp (hrow.keyed column hcolumn)
  obtain ⟨hget, hnull⟩ := Option.filter_eq_some_iff.mp hv
  rw [Projection.get?_present hrow.toIsNative hkeeps hcolumn hget, hget, Subject.nonNull,
    Option.filter_some, hnull]
  rfl

variable {w w₀ w₁ : World ω} {call : Action ω (ResultSet α)} {stored : List Row} {outside : ω}

/-- One statement is sent for each row kept, in their order and under their own keys, if and only if
the rows come back with these keys. They do unless a return field drops or renames a key column. -/
theorem changeByQuery_ownKeys (h : s.Enters change params w mutation call subject w₀)
    (hitems : mutation.items = []) (hquery : mutation.query = some q)
    (hvalues : change = .update → mutation.values.isEmpty = false)
    (ho : (s.opening change subject.resource mutation.values).outcome w₀ = (.ok o, w₁))
    (hplan : s.selectPlan q params = .ok plan)
    (hstored : ∀ row ∈ stored, row.IsFull s.naming o.keys)
    (hanswer : s.transport.execute plan.statement w₁.outside = (.ok (stored.map fun row =>
      row.answer (SelectPlan.selectItems s.naming plan.projection)), outside)) :
    ∃ r w' changes, call.outcome w = (.ok r, w') ∧
      w'.statements = w.statements ++ plan.statement :: changes ∧
      changes = (s.keptRows q plan stored).filterMap (fun row =>
        (rowStatement change subject.resource o (plan.projection.present s.naming row)).toOption) ∧
      (List.Forall₂ (change.Addresses subject.resource o.shared o.keys)
          (s.keptRows q plan stored) changes ↔
        ∀ row ∈ s.keptRows q plan stored,
          HasKeyOf o.keys row (plan.projection.present s.naming row)) ∧
      (q.fields = [] ∨ plan.projection.KeepsKeys s.naming o.keys →
        List.Forall₂ (change.Addresses subject.resource o.shared o.keys)
          (s.keptRows q plan stored) changes) := by
  have hopens := opens_of_opening ho
  have hfetch := fetchMaps_native hplan (fun row hrow => (hstored row hrow).toIsNative) hanswer
  obtain ⟨r, w', hcall, hstatements⟩ := h.fetched hitems hquery hvalues ho hfetch
  have hkept : ∀ row ∈ s.keptRows q plan stored, row.IsFull s.naming o.keys :=
    fun row hrow => hstored row (keptRows_subset hrow)
  have hiff : List.Forall₂ (change.Addresses subject.resource o.shared o.keys)
      (s.keptRows q plan stored) ((s.keptRows q plan stored).filterMap fun row =>
        (rowStatement change subject.resource o (plan.projection.present s.naming row)).toOption) ↔
      ∀ row ∈ s.keptRows q plan stored,
        HasKeyOf o.keys row (plan.projection.present s.naming row) := by
    rw [forall₂_filterMap_iff]
    refine forall₂_congr fun row hrow => ?_
    apply rowStatement_addresses (hopens.keyed_of_values hvalues)
    · exact fun hupdate => hopens.columns hupdate (hvalues hupdate)
    · intro column hcolumn
      obtain ⟨v, hv⟩ := Option.isSome_iff_exists.mp ((hkept row hrow).keyed column hcolumn)
      rw [(Option.filter_eq_some_iff.mp hv).1]
      rfl
  refine ⟨r, w', _, hcall, ?_, rfl, hiff, fun hkeeps => hiff.mpr fun row hrow => ?_⟩
  · rw [hstatements, World.statements_of_trace rfl, (h.opened ho).1, List.filterMap_map]
    exact List.append_assoc ..
  · apply hasKeyOf_present (hkept row hrow)
    exact hkeeps.elim (fun hfields => keepsKeys_of_fields hplan hfields o.keys) id

def storedUsers : List Row :=
  [⟨[("id", .int 1), ("name", .text "A")]⟩, ⟨[("id", .int 2), ("name", .text "B")]⟩,
    ⟨[("id", .int 3), ("name", .text "C")]⟩]

def laterUsers : Query where
  resource := "user"
  filter := [.test ⟨"name", .notEqual, .value (.text "B")⟩]
  fields := [⟨"name", some "label"⟩, ⟨"id", none⟩]
  start := some 1

def storedSession : Session Nat :=
  { userSession with transport := answering storedUsers }

theorem changeByQuery_ownKeys_laterUsers : ∃ r w' changes,
    (storedSession.changeRows .delete { query := some laterUsers } []).outcome { outside := 0 } =
      (.ok r, w') ∧
      w'.statements = .select none "user" [] none :: changes ∧
      changes = [.delete "user" [("id", .int 3)]] ∧
      List.Forall₂ (Change.delete.Addresses "user" [] ["id"])
        [⟨[("id", .int 3), ("name", .text "C")]⟩] changes := by
  have hstored : ∀ row ∈ storedUsers, row.IsFull .identity ["id"] := by
    simp only [storedUsers, List.forall_mem_cons]
    exact ⟨Row.isFull_of_columns rfl (by decide) rfl, Row.isFull_of_columns rfl (by decide) rfl,
      Row.isFull_of_columns rfl (by decide) rfl, nofun⟩
  have hplan : ∃ plan, storedSession.selectPlan laterUsers [] = .ok plan ∧
      plan.statement = .select none "user" [] none ∧ plan.projection = .deferred laterUsers.fields ∧
      storedSession.keptRows laterUsers plan storedUsers =
        [⟨[("id", .int 3), ("name", .text "C")]⟩] := ⟨_, rfl, rfl, rfl, rfl⟩
  obtain ⟨plan, hplan, hstatement, hprojection, hkept⟩ := hplan
  have henters : storedSession.Enters .delete [] { outside := 0 } { query := some laterUsers }
      (storedSession.changeRows .delete { query := some laterUsers } [])
      (.untyped "user" .identity) { outside := 0 } := .rows _ rfl
  have hopening : ∃ w₁ : World Nat, (storedSession.opening .delete "user" {}).outcome
      { outside := 0 } = (.ok ⟨["id"], []⟩, w₁) ∧ w₁.outside = 0 := ⟨_, rfl, rfl⟩
  obtain ⟨w₁, ho, houtside⟩ := hopening
  have hanswer : storedSession.transport.execute plan.statement w₁.outside =
      (.ok (storedUsers.map fun row =>
        row.answer (SelectPlan.selectItems .identity plan.projection)), 1) := by
    rw [houtside, hprojection]
    rfl
  obtain ⟨r, w', changes, hcall, hstatements, hchanges, -, hown⟩ :=
    changeByQuery_ownKeys henters rfl rfl nofun ho hplan hstored hanswer
  rw [hkept] at hchanges hown
  rw [hstatement] at hstatements
  refine ⟨r, w', changes, hcall, hstatements, ?_, hown (.inr ?_)⟩
  · rw [hchanges, hprojection]
    rfl
  · rw [hprojection]
    decide

def pairTable : TableSchema :=
  ((bareTable "pair").withPartitionKey "a" .bigint).withClusteringKey "b" .bigint

def swappedPairs : Query where
  resource := "pair"
  fields := [⟨"a", some "b"⟩, ⟨"b", some "a"⟩]

def pair : Row := ⟨[("a", .int 1), ("b", .int 2)]⟩

/-- The key columns come back swapped, and another row is deleted. -/
theorem changeByQuery_swaps_keys : ∃ s : Session Nat, ∃ plan r w',
    pair.IsFull s.naming ["a", "b"] ∧ s.catalog.rowKeys "pair" = .ok ["a", "b"] ∧
      s.selectPlan swappedPairs [] = .ok plan ∧
      s.transport.execute plan.statement 0 =
        (.ok [pair.answer (SelectPlan.selectItems s.naming plan.projection)], 1) ∧
      (s.changeRows .delete { query := some swappedPairs } []).outcome { outside := 0 } =
        (.ok r, w') ∧
      w'.statements = [plan.statement, .delete "pair" [("a", .int 2), ("b", .int 1)]] ∧
      ¬ Change.delete.Addresses "pair" [] ["a", "b"] pair
        (.delete "pair" [("a", .int 2), ("b", .int 1)]) :=
  ⟨{ transport := answering [⟨[("b", .int 1), ("a", .int 2)]⟩]
     catalog := (MemoryCatalog.ofTables [pairTable]).toCatalog
     naming := .identity },
    _, _, _, Row.isFull_of_columns rfl (by decide) rfl, rfl, rfl, rfl, rfl, rfl,
    fun h => absurd h.first nofun⟩

end Session

end WideColumn
