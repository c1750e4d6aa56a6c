import WideColumn.Proofs.Record.Restored
import WideColumn.Proofs.Session.Failure
import WideColumn.Proofs.Session.OwnKeys

/-!
What a change hands to the store. It reads its rows, prepares the statement that they share and
sends those of single rows; these have the whole key and set only other columns of the table.
-/

namespace WideColumn

open Outcome

namespace Catalog

variable {catalog : Catalog} {resource column : String} {keys : List String}

def hasColumn (catalog : Catalog) (resource column : String) : Bool :=
  (catalog.columnExists resource column).toOption.getD false

theorem hasColumn_of_ok {found : Bool} (h : catalog.columnExists resource column = .ok found) :
    catalog.hasColumn resource column = found := by
  rw [hasColumn, h]
  rfl

theorem hasColumn_eq_true :
    catalog.hasColumn resource column = true ↔ catalog.columnExists resource column = .ok true := by
  rw [hasColumn]
  cases catalog.columnExists resource column <;> simp [Except.toOption]

theorem rowKeys_eq_ok : catalog.rowKeys resource = .ok keys ↔
    ∃ partition clustering, catalog.partitionKeys resource = .ok partition ∧
      catalog.clusteringKeys resource = .ok clustering ∧ keys = partition ++ clustering := by
  simp only [rowKeys, bind_eq_ok, pure_eq_ok]
  constructor
  · rintro ⟨partition, hpartition, clustering, hclustering, rfl⟩
    exact ⟨partition, clustering, hpartition, hclustering, rfl⟩
  · rintro ⟨partition, clustering, hpartition, hclustering, rfl⟩
    exact ⟨partition, hpartition, clustering, hclustering, rfl⟩

end Catalog

structure Holding (α : Type) where
  columns : α → List (String × Value)
  value? : α → String → Option Value

namespace Holding

variable {ρ α : Type}

/-- A record has a column for each field. Where fields share one the last counts. -/
def ofTable (table : ColumnTable ρ) : Holding ρ where
  columns record := table.columns.map fun e => (e.1, e.2.get record)
  value? record column :=
    (table.columns.map fun e => (e.1, e.2.get record)).reverse.lookup column

/-- The names of a row map are normalized. Where names become one column the first counts. -/
def ofNaming (naming : Naming) : Holding RowMap where
  columns map := map.entries.map fun e => (naming.normalize e.1, e.2)
  value? map column := (map.entries.map fun e => (naming.normalize e.1, e.2)).lookup column

def own (holding : Holding α) (item : α) : List (String × Value) :=
  (holding.columns item).filter fun e => !e.2.isNull

structure IsOf (holding : Holding α) (subject : Subject α) : Prop where
  columns : ∀ item, subject.columnValues item = holding.columns item
  value : ∀ item column,
    subject.keyValue? item column = Subject.nonNull (holding.value? item column)

theorem ofTable_isOf (table : ColumnTable ρ) (m : Materializer) :
    (ofTable table).IsOf (.typed table m) where
  columns _ := rfl
  value record column := by
    have hlookup : (ofTable table).value? record column =
        (table.field? column).map fun f => f.get record := by
      change (table.columns.map _).reverse.lookup column = _
      rw [← List.map_reverse]
      exact NamedValues.lookup_map fun f : FieldModel ρ => f.get record
    rw [hlookup]
    rfl

theorem ofNaming_isOf (resource : String) (naming : Naming) :
    (ofNaming naming).IsOf (.untyped resource naming) where
  columns _ := rfl
  value _ _ := congrArg Subject.nonNull NamedValues.lookup_map_name.symm

end Holding

namespace Session

open WideColumn.Action

variable {ω ρ α β : Type} {s : Session ω} {change : Change} {P : Effect → Prop}

theorem bestEffort_trace (skip : Error → Event) {attempt : α → Action ω β} {batch : List α}
    (hlogged : ∀ event, P (.logged event)) (hattempt : ∀ x ∈ batch, (attempt x).Emits P)
    (w : World ω) : ∃ added, ((bestEffort skip attempt batch).run w).2.trace = w.trace ++ added ∧
      ∀ e ∈ added, P e := by
  induction batch generalizing w with
  | nil => exact ⟨[], (List.append_nil w.trace).symm, List.forall_mem_nil _⟩
  | cons x xs ih =>
    obtain ⟨hx, hxs⟩ := List.forall_mem_cons.mp hattempt
    obtain ⟨first, hfirst, hadded⟩ := hx w
    rw [bestEffort_cons]
    rcases hr : (attempt x).outcome w with ⟨e | y, w₁⟩
    · rw [hr] at hfirst
      obtain ⟨rest, hrest, hadded'⟩ := ih hxs (World.record (.logged (skip e)) w₁)
      refine ⟨first ++ .logged (skip e) :: rest, ?_, ?_⟩
      · rw [hrest, World.record, hfirst]
        simp
      · have hrest' := List.forall_mem_cons.mpr ⟨hlogged (skip e), hadded'⟩
        exact List.forall_mem_append.mpr ⟨hadded, hrest'⟩
    · rw [hr] at hfirst
      obtain ⟨rest, hrest, hadded'⟩ := ih hxs w₁
      refine ⟨first ++ rest, ?_, List.forall_mem_append.mpr ⟨hadded, hadded'⟩⟩
      rw [hrest, hfirst, List.append_assoc]

theorem bestEffort_emits (skip : Error → Event) {attempt : α → Action ω β} {batch : List α}
    {γ : Type} (finish : List β → γ) (hlogged : ∀ event, P (.logged event))
    (hattempt : ∀ x ∈ batch, (attempt x).Emits P) :
    (do return finish (← bestEffort skip attempt batch) : Action ω γ).Emits P := by
  intro w
  rw [outcome_state]
  exact bestEffort_trace skip hlogged hattempt w

theorem attempt_emits {statement : Except Error Statement} {result : α × List Event}
    (hlogged : ∀ event, P (.logged event)) (hsent : ∀ st, statement = .ok st → P (.sent st)) :
    (s.attempt statement result).Emits P := by
  cases statement with
  | error e => exact emits_throw e
  | ok st =>
    rw [attempt, ofExcept_ok, pure_bind]
    have hexecute : (s.execute st).Emits P :=
      (execute_adds st).mono fun _ _ h => by
        rw [h, List.forall_mem_singleton]
        exact hsent st rfl
    exact hexecute.bind fun _ => emits_reporting hlogged

theorem fetchMaps_emits {q : Query} {params : List Value}
    (hread : ∀ st table, st.Reads table → P (.sent st)) : (s.fetchMaps q params).Emits P := by
  refine (fetchMaps_adds s q params).mono ?_
  rintro r added (⟨-, rfl⟩ | ⟨plan, hplan, rfl⟩)
  · exact List.forall_mem_nil _
  · rw [List.forall_mem_singleton]
    exact hread _ _ (selectPlan_reads hplan)

def givenColumns (s : Session ω) (values : NamedValues) : List (String × Value) :=
  values.entries.map fun e => (s.naming.normalize e.1, e.2)

def settableColumns (s : Session ω) (resource : String) (keys : List String)
    (offered : List (String × Value)) : List (String × Value) :=
  offered.filter fun e => !keys.contains e.1 && s.catalog.hasColumn resource e.1

theorem settable_eq_ok {resource : String} {keys : List String}
    {offered columns : List (String × Value)}
    (h : settable s.catalog resource keys offered = .ok columns) :
    columns = s.settableColumns resource keys offered := by
  induction offered generalizing columns with
  | nil => exact (Except.ok.inj h).symm
  | cons e rest ih =>
    rw [settable] at h
    rw [settableColumns, List.filter_cons]
    by_cases hkey : keys.contains e.1 = true
    · rw [if_pos hkey] at h
      simp only [hkey, Bool.not_true, Bool.false_and, Bool.false_eq_true, if_false]
      exact ih h
    · rw [if_neg hkey] at h
      obtain ⟨found, hfound, h⟩ := bind_eq_ok.mp h
      obtain ⟨more, hmore, h⟩ := bind_eq_ok.mp h
      rw [pure_eq_ok] at h
      rw [h, ih hmore, Catalog.hasColumn_of_ok hfound, eq_false_of_ne_true hkey]
      simp [settableColumns]

def columnsSet (s : Session ω) (change : Change) (resource : String) (keys : List String)
    (offered : List (String × Value)) : List (String × Value) :=
  match change with
  | .update => s.settableColumns resource keys offered
  | .delete => []

structure Targets (s : Session ω) (change : Change) (resource : String)
    (offered : List (String × Value)) (keys : List String) : Prop where
  rowKeys : s.catalog.rowKeys resource = .ok keys
  keyed : keys ≠ []
  columns : change = .update → s.settableColumns resource keys offered ≠ []

theorem targets_delete {resource : String} {keys : List String}
    (hkeys : s.catalog.rowKeys resource = .ok keys) (hkeyed : keys ≠ [])
    (offered : List (String × Value)) : s.Targets .delete resource offered keys where
  rowKeys := hkeys
  keyed := hkeyed
  columns h := by contradiction

/-- The row that a statement is for has this key, and these columns are offered for it: those of the
call or, if it gives none, those of the item itself. -/
inductive Concerns (s : Session ω) (holding : Holding α) (mutation : Mutation α)
    (found : RowMap → Prop) (keys : List String) : List (String × Value) → List Value → Prop where
  | given {item : α} {key : List Value} (hitem : item ∈ mutation.items)
      (hvalues : mutation.values.isEmpty = false)
      (hkey : keys.map (holding.value? item) = key.map some) :
      s.Concerns holding mutation found keys (s.givenColumns mutation.values) key
  | own {item : α} {key : List Value} (hitem : item ∈ mutation.items)
      (hvalues : mutation.values.isEmpty = true)
      (hkey : keys.map (holding.value? item) = key.map some) :
      s.Concerns holding mutation found keys (holding.own item) key
  | found {row : RowMap} {key : List Value} (hitems : mutation.items = []) (hrow : found row)
      (hkey : keys.map row.get? = key.map some) :
      s.Concerns holding mutation found keys (s.givenColumns mutation.values) key

def Finds (s : Session ω) (change : Change) (resource : String) (mutation : Mutation α)
    (params : List Value) (w : World ω) (row : RowMap) : Prop :=
  ∃ q o w₁ rows w₂, mutation.query = some q ∧
    (s.opening change resource mutation.values).outcome w = (.ok o, w₁) ∧
    (s.fetchMaps q params).outcome w₁ = (.ok rows, w₂) ∧ row ∈ rows

inductive Issues (s : Session ω) (change : Change) (resource : String) (holding : Holding α)
    (mutation : Mutation α) (found : RowMap → Prop) : Effect → Prop where
  | logged (event : Event) : s.Issues change resource holding mutation found (.logged event)
  | read {st : Statement} {table : String} (h : st.Reads table) :
      s.Issues change resource holding mutation found (.sent st)
  | prepared {keys : List String}
      (h : s.Targets change resource (s.givenColumns mutation.values) keys) :
      s.Issues change resource holding mutation found (.prepared (change.text resource
        ((s.columnsSet change resource keys (s.givenColumns mutation.values)).map Prod.fst) keys))
  | changed {offered : List (String × Value)} {keys : List String} {key : List Value}
      (hrow : s.Concerns holding mutation found keys offered key)
      (h : s.Targets change resource offered keys) (hnull : ∀ v ∈ key, v.isNull = false) :
      s.Issues change resource holding mutation found
        (.sent (change.bound resource (s.columnsSet change resource keys offered) keys key))

section Runs

variable {subject : Subject α} {holding : Holding α} {mutation : Mutation α}
  {params : List Value} {o : Opening} {offered : List (String × Value)} {st : Statement}
  {found : RowMap → Prop} {keys : List String} {key : List Value}

theorem Concerns.length_eq (h : s.Concerns holding mutation found keys offered key) :
    key.length = keys.length := by
  cases h with
  | given _ _ hkey | own _ _ hkey | found _ _ hkey =>
    simpa using (congrArg List.length hkey).symm

theorem present_of_nonNull {value? : String → Option Value}
    (h : (keys.map fun column => Subject.nonNull (value? column)) = key.map some) :
    keys.map value? = key.map some ∧ ∀ v ∈ key, v.isNull = false := by
  induction keys generalizing key with
  | nil =>
    rw [List.map_nil, eq_comm, List.map_eq_nil_iff] at h
    rw [h]
    exact ⟨rfl, List.forall_mem_nil _⟩
  | cons column keys ih =>
    cases key with
    | nil => contradiction
    | cons v key =>
      rw [List.map_cons, List.map_cons, List.cons.injEq] at h
      obtain ⟨hv, hkey⟩ := h
      obtain ⟨hvalue, hnull⟩ := Option.filter_eq_some_iff.mp hv
      obtain ⟨hvalues, hnulls⟩ := ih hkey
      rw [List.map_cons, List.map_cons, hvalue, hvalues]
      exact ⟨rfl, List.forall_mem_cons.mpr ⟨by simpa using hnull, hnulls⟩⟩

theorem issues_of_statement {owner : String} {value? : String → Option Value}
    {assigned : Except CatalogError (List (String × Value))}
    (hkeys : s.catalog.rowKeys subject.resource = .ok o.keys)
    (hrow : ∀ key : List Value, o.keys.map value? = key.map some →
      s.Concerns holding mutation found o.keys offered key)
    (hassigned : change = .update → ∀ columns, assigned = .ok columns →
      columns = s.settableColumns subject.resource o.keys offered)
    (h : change.statement subject.resource o.keys
      (keyValues owner (fun column => Subject.nonNull (value? column)) o.keys) assigned = .ok st) :
    s.Issues change subject.resource holding mutation found (.sent st) := by
  obtain ⟨hkeyed, key, hkey, hst⟩ := Change.statement_eq_ok.mp h
  obtain ⟨hvalues, hnull⟩ := present_of_nonNull hkey
  cases change with
  | update =>
    obtain ⟨columns, hcolumns, hne, rfl⟩ := hst
    obtain rfl := hassigned rfl columns hcolumns
    exact .changed (hrow key hvalues) ⟨hkeys, hkeyed, fun _ => hne⟩ hnull
  | delete =>
    subst hst
    exact .changed (hrow key hvalues) (targets_delete hkeys hkeyed offered) hnull

theorem itemStatement_issues {item : α} (hreads : holding.IsOf subject)
    (hitem : item ∈ mutation.items)
    (ho : s.Opens change subject.resource mutation.values o)
    (h : s.itemStatement change subject mutation.values o item = .ok st) :
    s.Issues change subject.resource holding mutation found (.sent st) := by
  have hvalue : subject.keyValue? item = fun column =>
      Subject.nonNull (holding.value? item column) := funext (hreads.value item)
  rw [itemStatement, itemKeys, hvalue] at h
  cases hvalues : mutation.values.isEmpty with
  | true =>
    refine issues_of_statement ho.keys (fun _ => .own hitem hvalues)
      (fun _ columns hcolumns => ?_) h
    rw [itemAssignments, if_pos hvalues, derivedAssignments, hreads.columns] at hcolumns
    exact settable_eq_ok hcolumns
  | false =>
    refine issues_of_statement ho.keys (fun _ => .given hitem hvalues)
      (fun hupdate columns hcolumns => ?_) h
    rw [itemAssignments, hvalues, if_neg Bool.false_ne_true] at hcolumns
    rw [← Except.ok.inj hcolumns]
    exact settable_eq_ok (ho.shared hupdate)

theorem rowStatement_issues {row : RowMap} (hitems : mutation.items = []) (hrow : found row)
    (ho : s.Opens change subject.resource mutation.values o)
    (h : rowStatement change subject.resource o row = .ok st) :
    s.Issues change subject.resource holding mutation found (.sent st) := by
  refine issues_of_statement ho.keys (fun _ => .found hitems hrow)
    (fun hupdate columns hcolumns => ?_) h
  rw [← Except.ok.inj hcolumns]
  exact settable_eq_ok (ho.shared hupdate)

theorem opening_issues : (s.opening change subject.resource mutation.values).Emits
    (s.Issues change subject.resource holding mutation found) := by
  have hprepare {cql : String}
      (h : s.Issues change subject.resource holding mutation found (.prepared cql)) :
      (s.prepare cql).Emits (s.Issues change subject.resource holding mutation found) :=
    (prepare_emits cql).imp fun e he => by
      rw [he]
      exact h
  refine (emits_ofExcept _).bind_of_outcome fun keys w w₁ hrun => ?_
  have hkeys := (outcome_ofExcept_eq_ok.mp hrun).1
  cases change with
  | update =>
    refine (emits_ofExcept _).bind_of_outcome fun explicit w w₁ hrun => ?_
    have hexplicit := settable_eq_ok (outcome_ofExcept_eq_ok.mp hrun).1
    refine Emits.bind ?_ fun _ => emits_pure _
    rw [sharedTemplate]
    split
    · exact emits_pure none
    · refine (emits_ofExcept _).bind_of_outcome fun template w w₁ hrun => ?_
      have hbuilt := (outcome_ofExcept_eq_ok.mp hrun).1
      obtain ⟨hcolumns, hkeyed⟩ := buildUpdate_ne_nil hbuilt
      refine Emits.bind (hprepare ?_) fun _ => emits_pure _
      have hcql : template.cql =
          Change.update.text subject.resource (explicit.map Prod.fst) keys := by
        simp only [buildUpdate, UpdateTemplate.build, List.map_eq_nil_iff, hcolumns, hkeyed,
          dite_false] at hbuilt
        rw [← Except.ok.inj hbuilt]
        rfl
      rw [hcql, hexplicit]
      exact .prepared ⟨hkeys, hkeyed, fun _ => hexplicit ▸ hcolumns⟩
  | delete =>
    refine (emits_ofExcept _).bind_of_outcome fun template w w₁ hrun => ?_
    have hbuilt := (outcome_ofExcept_eq_ok.mp hrun).1
    have hkeyed := deleteTemplate_ne_nil hbuilt
    refine Emits.bind (hprepare ?_) fun _ => emits_pure _
    have hcql : template.cql = Change.delete.text subject.resource
        (([] : List (String × Value)).map Prod.fst) keys := by
      simp only [DeleteTemplate.build, hkeyed, dite_false] at hbuilt
      rw [← Except.ok.inj hbuilt]
      rfl
    rw [hcql]
    exact .prepared (targets_delete hkeys hkeyed _)

theorem runChange_issues (hreads : holding.IsOf subject) (hscope : mutation.hasScope = true)
    (w : World ω) : (s.runChange change subject mutation params).EmitsFrom w
      (s.Issues change subject.resource holding mutation
        (s.Finds change subject.resource mutation params w)) := by
  by_cases hitems : mutation.items = []
  · obtain ⟨q, hquery⟩ := query_of_hasScope hscope hitems
    by_cases hvalues : change = .update → mutation.values.isEmpty = false
    · rw [runChange_query hitems hquery hvalues]
      refine EmitsFrom.bind (opening_issues w) fun o w₁ ho => ?_
      refine EmitsFrom.bind (fetchMaps_emits (fun _ _ h => .read h) w₁) fun rows w₂ hrows => ?_
      refine bestEffort_emits _ subject.finish .logged (fun row hrow => ?_) w₂
      exact attempt_emits .logged fun st => rowStatement_issues hitems
        ⟨q, o, w₁, rows, w₂, hquery, ho, hrows, hrow⟩ (opens_of_opening ho)
    · -- an update without values fails before anything is read
      obtain ⟨rfl, hempty⟩ := Classical.not_imp.mp hvalues
      rw [runChange_query_update hitems (Bool.not_eq_false _ ▸ hempty)]
      exact opening_issues.bind (fun _ => emits_throw _) w
  · rw [runChange_items hitems]
    refine EmitsFrom.bind (opening_issues w) fun o w₁ ho => ?_
    refine bestEffort_emits _ subject.finish .logged (fun item hitem => ?_) w₁
    exact attempt_emits .logged fun st =>
      itemStatement_issues hreads hitem (opens_of_opening ho)

variable {w w₀ : World ω} {call : Action ω (ResultSet α)}

theorem Enters.issues (h : s.Enters change params w mutation call subject w₀)
    (hreads : holding.IsOf subject) :
    call.EmitsFrom w (s.Issues change subject.resource holding mutation
      (s.Finds change subject.resource mutation params w₀)) := by
  cases hscope : mutation.hasScope with
  | true =>
    have hruns : (s.runChange change subject mutation params).EmitsFrom w₀ _ :=
      runChange_issues hreads hscope w₀
    obtain ⟨added, htrace, hadded⟩ := hruns
    refine ⟨added, ?_, hadded⟩
    rw [h.outcome hscope, htrace, h.trace]
  | false =>
    refine ⟨[], ?_, List.forall_mem_nil _⟩
    cases h with
    | records model => rw [changeRecords_eq, requireScope_bind hscope, List.append_nil]
    | rows _ _ => rw [changeRows_eq, requireScope_bind hscope, List.append_nil]

end Runs

section Texts

variable {holding : Holding α} {mutation : Mutation α} {found : RowMap → Prop} {resource : String}
  {offered : List (String × Value)} {keys : List String} {e : Effect}

/-- A text that addresses rows by the whole key of the table, partition columns first. An update
sets one column at least, each a column of the table and none of the key. -/
def KeyedText (s : Session ω) (change : Change) (resource : String) (columns keys : List String)
    (cql : String) : Prop :=
  (∃ partition clustering, s.catalog.partitionKeys resource = .ok partition ∧
      s.catalog.clusteringKeys resource = .ok clustering ∧ keys = partition ++ clustering) ∧
    keys ≠ [] ∧
    match change with
    | .update =>
      columns ≠ [] ∧
        (∀ c ∈ columns, s.catalog.columnExists resource c = .ok true ∧ c ∉ keys) ∧
        cql = "UPDATE " ++ resource ++ " SET " ++ ", ".intercalate (columns.map (· ++ " = ?")) ++
          " WHERE " ++ " AND ".intercalate (keys.map (· ++ " = ?")) ++ ";"
    | .delete =>
      columns = [] ∧
        cql = "DELETE FROM " ++ resource ++
          " WHERE " ++ " AND ".intercalate (keys.map (· ++ " = ?")) ++ ";"

/-- The statement is for one row. It binds the value offered for each column that it sets and then
the value of the row in each key column, which is not null, in the order of its text. -/
def KeyedStatement (s : Session ω) (change : Change) (resource : String) (holding : Holding α)
    (mutation : Mutation α) (found : RowMap → Prop) (st : Statement) : Prop :=
  ∃ (offered columns : List (String × Value)) (keys : List String) (key : List Value),
    s.Concerns holding mutation found keys offered key ∧
      columns = s.columnsSet change resource keys offered ∧
      s.KeyedText change resource (columns.map Prod.fst) keys st.cql ∧
      key.length = keys.length ∧ (∀ v ∈ key, v.coerce.isNull = false) ∧
      st.values = (columns.map Prod.snd ++ key).map Value.coerce

/-- An effect sends and prepares nothing but reads and keyed changes of the table. A text is
prepared for the columns that the call gives. -/
def KeyedEffect (s : Session ω) (change : Change) (resource : String) (holding : Holding α)
    (mutation : Mutation α) (found : RowMap → Prop) : Effect → Prop
  | .sent st => (∃ table, st.Reads table) ∨
      s.KeyedStatement change resource holding mutation found st
  | .prepared cql => ∃ columns keys,
      columns = s.columnsSet change resource keys (s.givenColumns mutation.values) ∧
        s.KeyedText change resource (columns.map Prod.fst) keys cql
  | .logged _ => True
  | .connecting => False

theorem mem_settableColumns {c : String} {v : Value}
    (h : (c, v) ∈ s.settableColumns resource keys offered) :
    s.catalog.columnExists resource c = .ok true ∧ c ∉ keys := by
  have hkept := (List.mem_filter.mp h).2
  rw [Bool.and_eq_true, Catalog.hasColumn_eq_true, Bool.not_eq_true'] at hkept
  obtain ⟨hkey, hexists⟩ := hkept
  refine ⟨hexists, fun hmem => ?_⟩
  rw [List.contains_iff_mem.mpr hmem] at hkey
  contradiction

theorem Targets.keyedText (h : s.Targets change resource offered keys) :
    s.KeyedText change resource ((s.columnsSet change resource keys offered).map Prod.fst) keys
      (change.text resource ((s.columnsSet change resource keys offered).map Prod.fst) keys) := by
  refine ⟨Catalog.rowKeys_eq_ok.mp h.rowKeys, h.keyed, ?_⟩
  cases change with
  | update =>
    refine ⟨mt List.map_eq_nil_iff.mp (h.columns rfl), ?_, rfl⟩
    rw [List.forall_mem_map]
    exact fun e he => mem_settableColumns he
  | delete => exact ⟨rfl, rfl⟩

theorem Issues.keyedEffect (h : s.Issues change resource holding mutation found e) :
    s.KeyedEffect change resource holding mutation found e := by
  cases h with
  | logged event => exact trivial
  | read h => exact .inl ⟨_, h⟩
  | prepared h => exact ⟨_, _, rfl, h.keyedText⟩
  | @changed offered keys key hrow h hnull =>
    have hlength := hrow.length_eq
    have hdelete : change = .delete → s.columnsSet change resource keys offered = [] := by
      rintro rfl
      rfl
    refine .inr ⟨offered, _, keys, key, hrow, rfl, ?_, hlength, ?_, ?_⟩
    · rw [Change.cql_bound change hlength]
      exact h.keyedText
    · intro v hv
      rw [Value.isNull_coerce, hnull v hv]
    · exact Change.values_bound hdelete hlength

end Texts

section Calls

variable {mutation : Mutation RowMap} {params : List Value} {w w₀ : World ω}

def mapResource (s : Session ω) (mutation : Mutation RowMap) : String :=
  s.naming.normalize
    (Text.trimBlank ((mutation.resource <|> mutation.query.map Query.resource).getD ""))

theorem mapResource_eq {subject : Subject RowMap} (h : s.untypedSubject mutation = .ok subject) :
    subject.resource = s.mapResource mutation := by
  obtain ⟨resource, hresource, -, rfl⟩ := untypedSubject_eq_ok.mp h
  rw [mapResource, hresource]
  rfl

theorem changeRows_untyped {e : SessionError} (h : s.untypedSubject mutation = .error e) :
    ((s.changeRows change mutation params).outcome w).2 = w := by
  rw [changeRows_eq]
  cases hscope : mutation.hasScope with
  | true =>
    rw [requireScope_eq_ok.mpr hscope, ofExcept_ok, pure_bind, h]
    rfl
  | false => rw [requireScope_bind hscope]

theorem changeRows_issues (s : Session ω) (change : Change) (mutation : Mutation RowMap)
    (params : List Value) (w : World ω) :
    (s.changeRows change mutation params).EmitsFrom w
      (s.Issues change (s.mapResource mutation) (.ofNaming s.naming) mutation
        (s.Finds change (s.mapResource mutation) mutation params w)) := by
  cases hsubject : s.untypedSubject mutation with
  | error e =>
    refine ⟨[], ?_, List.forall_mem_nil _⟩
    rw [changeRows_untyped hsubject, List.append_nil]
  | ok subject =>
    rw [← mapResource_eq hsubject]
    obtain ⟨resource, -, -, rfl⟩ := untypedSubject_eq_ok.mp hsubject
    exact (Enters.rows mutation hsubject).issues (Holding.ofNaming_isOf _ s.naming)

end Calls

/-- Whatever the call and the answers of the store, a change sends and prepares reads and keyed
changes of its own table only, each for an item of the call or a row that its query finds. -/
theorem change_keyed (s : Session ω) (change : Change) (params : List Value) (w : World ω) :
    (∀ {ρ : Type} (model : RecordModel ρ) (mutation : Mutation ρ),
      let table := (w.models.table model s.naming).1
      let found := s.Finds change table.resource mutation params
        { w with models := (w.models.table model s.naming).2 }
      ∃ added, ((s.changeRecords change model mutation params).outcome w).2.trace =
        w.trace ++ added ∧
      ∀ e ∈ added, s.KeyedEffect change table.resource (.ofTable table) mutation found e) ∧
    ∀ mutation : Mutation RowMap,
      let found := s.Finds change (s.mapResource mutation) mutation params w
      ∃ added, ((s.changeRows change mutation params).outcome w).2.trace = w.trace ++ added ∧
      ∀ e ∈ added,
        s.KeyedEffect change (s.mapResource mutation) (.ofNaming s.naming) mutation found e := by
  constructor
  · intro ρ model mutation table found
    have hreads : (Holding.ofTable table).IsOf (.typed table ⟨s.naming, w.types⟩) :=
      Holding.ofTable_isOf table _
    obtain ⟨added, htrace, hadded⟩ := (Enters.records (w := w) model mutation).issues hreads
    exact ⟨added, htrace, fun e he => (hadded e he).keyedEffect⟩
  · intro mutation found
    obtain ⟨added, htrace, hadded⟩ := changeRows_issues s change mutation params w
    exact ⟨added, htrace, fun e he => (hadded e he).keyedEffect⟩

def relabeled : Mutation RowMap where
  query := some laterUsers
  values := .ofList [("id", .int 9), ("name", .text "X")]

theorem change_keyed_renamedUsers :
    let found := userSession.Finds .update "user" renamedUsers [] { outside := 0 }
    (∃ added,
      ((userSession.changeRows .update renamedUsers []).outcome { outside := 0 }).2.trace = added ∧
      (added.filterMap Effect.statement?).map (fun st => (st.cql, st.values)) = [
        ("UPDATE user SET name = ? WHERE id = ?;", [.text "A", .int 1]),
        ("UPDATE user SET name = ? WHERE id = ?;", [.text "C", .int 3]),
        ("UPDATE user SET name = ? WHERE id = ?;", [.text "D", .int 4])] ∧
      ∀ e ∈ added,
        userSession.KeyedEffect .update "user" (.ofNaming .identity) renamedUsers found e) ∧
    userSession.Concerns (.ofNaming .identity) renamedUsers found ["id"]
      [("id", .int 1), ("name", .text "A")] [.int 1] ∧
    userSession.columnsSet .update "user" ["id"] [("id", .int 1), ("name", .text "A")] =
      [("name", .text "A")] ∧
    ∃ added,
      ((storedSession.changeRows .update relabeled []).outcome { outside := 0 }).2.trace = added ∧
      (added.filterMap Effect.statement?).map (fun st => (st.cql, st.values)) = [
        ("SELECT * FROM user;", []),
        ("UPDATE user SET name = ? WHERE id = ?;", [.text "X", .int 3])] ∧
      ∀ e ∈ added, storedSession.KeyedEffect .update "user" (.ofNaming .identity) relabeled
        (storedSession.Finds .update "user" relabeled [] { outside := 0 }) e := by
  intro found
  obtain ⟨added, htrace, hadded⟩ :=
    (change_keyed userSession .update [] { outside := 0 }).2 renamedUsers
  obtain ⟨fetched, hfetched, hkeyed⟩ :=
    (change_keyed storedSession .update [] { outside := 0 }).2 relabeled
  have hrow : userSession.Concerns (.ofNaming .identity) renamedUsers found ["id"]
      ((Holding.ofNaming .identity).own (.ofList [("id", .int 1), ("name", .text "A")])) [.int 1] :=
    .own List.mem_cons_self rfl rfl
  refine ⟨⟨added, htrace, ?_, hadded⟩, hrow, rfl, fetched, hfetched, ?_, hkeyed⟩
  · have heffects : added = _ := htrace.symm
    rw [heffects]
    rfl
  · have heffects : fetched = _ := hfetched.symm
    rw [heffects]
    rfl

end Session

end WideColumn
