import WideColumn.Proofs.Session.Issued
import WideColumn.Proofs.Session.PlannedTable

namespace WideColumn

open Outcome

namespace Statement

def written : Statement → List String
  | insert _ columns => columns.map Prod.fst
  | update _ assignments _ => assignments.map Prod.fst
  | select .. | delete .. | literal .. => []

def insertable (catalog : Catalog) (naming : Naming) (resource : String)
    (entries : List (String × Value)) : List (String × Value) :=
  entries.filter fun e => !e.2.isNull && catalog.hasColumn resource (naming.normalize e.1)

variable {catalog : Catalog} {naming : Naming} {resource : String}
  {entries columns : List (String × Value)} {st : Statement}

theorem insertColumns_eq_ok (h : insertColumns catalog naming resource entries = .ok columns) :
    columns = (insertable catalog naming resource entries).map fun e =>
      (naming.normalize e.1, e.2) := by
  induction entries generalizing columns with
  | nil => exact (Except.ok.inj h).symm
  | cons e rest ih =>
    rw [insertColumns] at h
    rw [insertable, List.filter_cons]
    cases hnull : e.2.isNull with
    | true =>
      rw [hnull, if_pos rfl] at h
      exact ih h
    | false =>
      rw [hnull, if_neg Bool.false_ne_true] at h
      obtain ⟨found, hfound, h⟩ := bind_eq_ok.mp h
      obtain ⟨more, hmore, h⟩ := bind_eq_ok.mp h
      rw [pure_eq_ok] at h
      rw [h, ih hmore, Catalog.hasColumn_of_ok hfound]
      cases found <;> rfl

theorem buildInsert_eq_ok {values : NamedValues}
    (h : buildInsert resource values catalog naming = .ok st) :
    st = .insert resource ((insertable catalog naming resource values.entries).map fun e =>
      (naming.normalize e.1, e.2)) := by
  obtain ⟨columns, hcolumns, h⟩ := bind_eq_ok.mp h
  rw [mapError_eq_ok] at hcolumns
  rw [← insertColumns_eq_ok hcolumns]
  cases hempty : columns.isEmpty with
  | true =>
    rw [hempty] at h
    contradiction
  | false =>
    rw [hempty] at h
    exact (Except.ok.inj h).symm

end Statement

namespace Naming

def Separates (naming : Naming) (entries : List (String × Value)) : Prop :=
  ∀ e ∈ entries, ∀ e' ∈ entries, naming.normalize e.1 = naming.normalize e'.1 → e.1 = e'.1

theorem nodup_normalize_iff {naming : Naming} {entries : List (String × Value)}
    (hnames : (entries.map Prod.fst).Nodup) :
    (entries.map fun e => naming.normalize e.1).Nodup ↔ naming.Separates entries := by
  have hmap : (entries.map fun e => naming.normalize e.1) =
      (entries.map Prod.fst).map naming.normalize := by
    rw [List.map_map]
    rfl
  rw [hmap, List.nodup_map_iff_inj_on hnames]
  simp only [List.forall_mem_map, Separates]

end Naming

structure Statement.Writes (naming : Naming) (entries : List (String × Value)) (st : Statement) :
    Prop where
  columns : st.written = entries.map fun e => naming.normalize e.1
  nodup_iff : st.written.Nodup ↔ naming.Separates entries

theorem Statement.writes_of_columns {naming : Naming} {values : NamedValues}
    {p : String × Value → Bool} {st : Statement}
    (h : st.written = (values.entries.filter p).map fun e => naming.normalize e.1) :
    st.Writes naming (values.entries.filter p) := by
  refine ⟨h, ?_⟩
  rw [h]
  exact Naming.nodup_normalize_iff (values.nodup.sublist (List.filter_sublist.map Prod.fst))

namespace Session

variable {ω ρ : Type} {s : Session ω} {w w₀ : World ω}

theorem writes_of_buildInsert {resource : String} {values : NamedValues} {st : Statement}
    (h : Statement.buildInsert resource values s.catalog s.naming = .ok st) :
    st.Writes s.naming
      (Statement.insertable s.catalog s.naming resource values.entries) := by
  apply Statement.writes_of_columns
  rw [Statement.buildInsert_eq_ok h, Statement.written, List.map_map]
  rfl

def InsertsColumns (s : Session ω) (resource : String) (values : NamedValues) (w w' : World ω) :
    Prop :=
  ∃ sent, w'.statements = w.statements ++ sent ∧ sent.length ≤ 1 ∧
    ∀ st ∈ sent, st.Writes s.naming
      (Statement.insertable s.catalog s.naming resource values.entries)

theorem Plans.insertsColumns {α : Type} {call : Action ω (ResultSet α)}
    {planned : Except Error Statement} {resource : String} {values : NamedValues}
    (h : s.Plans w call planned w₀)
    (hplanned : ∀ st, planned = .ok st →
      Statement.buildInsert resource values s.catalog s.naming = .ok st) :
    s.InsertsColumns resource values w (call.outcome w).2 := by
  cases planned with
  | error e =>
    refine ⟨[], ?_, Nat.zero_le 1, List.forall_mem_nil _⟩
    rw [h.failed, h.statements_start, List.append_nil]
  | ok st =>
    refine ⟨[st], h.sent, le_refl 1, ?_⟩
    rw [List.forall_mem_singleton]
    exact writes_of_buildInsert (hplanned st rfl)

def settableEntries (s : Session ω) (resource : String) (keys : List String)
    (entries : List (String × Value)) : List (String × Value) :=
  entries.filter fun e =>
    !keys.contains (s.naming.normalize e.1) &&
      s.catalog.hasColumn resource (s.naming.normalize e.1)

def settableFields (s : Session ω) (table : ColumnTable ρ) (keys : List String) (record : ρ) :
    List (String × FieldModel ρ) :=
  table.columns.filter fun f =>
    !(f.2.get record).isNull && (!keys.contains f.1 && s.catalog.hasColumn table.resource f.1)

def SetsFields (s : Session ω) (table : ColumnTable ρ) (mutation : Mutation ρ) (st : Statement) :
    Prop :=
  ∃ keys, s.catalog.rowKeys table.resource = .ok keys ∧
    (st.Writes s.naming (s.settableEntries table.resource keys mutation.values.entries) ∨
      mutation.values.isEmpty = true ∧ ∃ record ∈ mutation.items,
        st.written = (s.settableFields table keys record).map Prod.fst ∧
        (st.written.Nodup ↔
          (s.settableFields table keys record).Pairwise fun f g => f.1 ≠ g.1))

def SetsEntries (s : Session ω) (mutation : Mutation RowMap) (st : Statement) : Prop :=
  ∃ keys, s.catalog.rowKeys (s.mapResource mutation) = .ok keys ∧
    (st.Writes s.naming
        (s.settableEntries (s.mapResource mutation) keys mutation.values.entries) ∨
      mutation.values.isEmpty = true ∧ ∃ map ∈ mutation.items,
        st.Writes s.naming (s.settableEntries (s.mapResource mutation) keys
          (map.entries.filter fun e => !e.2.isNull)))

section Updates

variable {α : Type} {holding : Holding α} {mutation : Mutation α} {found : RowMap → Prop}
  {st : Statement} {resource : String} {keys : List String}

theorem Issues.written (h : s.Issues .update resource holding mutation found (.sent st)) :
    (∃ table, st.Reads table) ∨ ∃ offered keys key,
      s.Concerns holding mutation found keys offered key ∧ s.catalog.rowKeys resource = .ok keys ∧
      st.written = (s.settableColumns resource keys offered).map Prod.fst := by
  cases h with
  | read h => exact .inl ⟨_, h⟩
  | changed hrow h hnull => exact .inr ⟨_, _, _, hrow, h.rowKeys, rfl⟩

theorem settableColumns_normalized (s : Session ω) (resource : String) (keys : List String)
    (entries : List (String × Value)) :
    (s.settableColumns resource keys (entries.map fun e => (s.naming.normalize e.1, e.2))).map
        Prod.fst =
      (s.settableEntries resource keys entries).map fun e => s.naming.normalize e.1 := by
  rw [settableColumns, settableEntries, List.filter_map, List.map_map]
  rfl

theorem writes_given {values : NamedValues}
    (h : st.written =
      (s.settableColumns resource keys (s.givenColumns values)).map Prod.fst) :
    st.Writes s.naming (s.settableEntries resource keys values.entries) := by
  apply Statement.writes_of_columns
  rw [h, givenColumns, settableColumns_normalized]
  rfl

theorem writes_own {map : RowMap}
    (h : st.written = (s.settableColumns resource keys
      ((Holding.ofNaming s.naming).own map)).map Prod.fst) :
    st.Writes s.naming
      (s.settableEntries resource keys (map.entries.filter fun e => !e.2.isNull)) := by
  have hown : (Holding.ofNaming s.naming).own map =
      (map.entries.filter fun e => !e.2.isNull).map fun e => (s.naming.normalize e.1, e.2) := by
    rw [Holding.own, Holding.ofNaming, List.filter_map]
    rfl
  rw [hown, settableColumns_normalized] at h
  rw [settableEntries, List.filter_filter] at h ⊢
  exact Statement.writes_of_columns h

theorem written_fields {table : ColumnTable ρ} {record : ρ}
    (h : st.written = (s.settableColumns table.resource keys
      ((Holding.ofTable table).own record)).map Prod.fst) :
    st.written = (s.settableFields table keys record).map Prod.fst := by
  rw [h, settableColumns, Holding.own, Holding.ofTable, List.filter_map, List.filter_map,
    List.filter_filter, List.map_map, settableFields]
  simp only [Function.comp_def, Bool.and_comm]

end Updates

theorem statements_of_issues {α : Type} {call : Action ω (ResultSet α)} {change : Change}
    {resource : String} {holding : Holding α} {mutation : Mutation α} {found : RowMap → Prop}
    {P : Statement → Prop}
    (h : call.EmitsFrom w (s.Issues change resource holding mutation found))
    (hP : ∀ st, s.Issues change resource holding mutation found (.sent st) → P st) :
    ∃ sent, (call.outcome w).2.statements = w.statements ++ sent ∧ ∀ st ∈ sent, P st := by
  obtain ⟨added, htrace, hadded⟩ := h
  refine ⟨_, World.statements_of_trace htrace, fun st hst => ?_⟩
  obtain ⟨e, he, hsent⟩ := List.mem_filterMap.mp hst
  have hissued := hadded e he
  cases e with
  | sent st' =>
    cases hsent
    exact hP st hissued
  | prepared | logged | connecting => contradiction

theorem update_setsFields (model : RecordModel ρ) (mutation : Mutation ρ) (params : List Value) :
    ∃ sent, ((s.update model mutation params).outcome w).2.statements = w.statements ++ sent ∧
      ∀ st ∈ sent, (∃ table, st.Reads table) ∨
        s.SetsFields (w.models.table model s.naming).1 mutation st := by
  have henters : s.Enters .update params w mutation (s.update model mutation params) _ _ :=
    .records model mutation
  refine statements_of_issues (henters.issues (Holding.ofTable_isOf _ _)) fun st hissued => ?_
  obtain hread | ⟨offered, keys, key, hrow, hkeys, hwritten⟩ := hissued.written
  · exact .inl hread
  · refine .inr ⟨keys, hkeys, ?_⟩
    cases hrow with
    | given | found => exact .inl (writes_given hwritten)
    | own hitem hvalues =>
      have hfields := written_fields hwritten
      refine .inr ⟨hvalues, _, hitem, hfields, ?_⟩
      rw [hfields]
      exact List.pairwise_map

theorem updateRows_setsEntries (mutation : Mutation RowMap) (params : List Value) :
    ∃ sent, ((s.updateRows mutation params).outcome w).2.statements = w.statements ++ sent ∧
      ∀ st ∈ sent, (∃ table, st.Reads table) ∨ s.SetsEntries mutation st := by
  refine statements_of_issues (changeRows_issues s .update mutation params w) fun st hissued => ?_
  obtain hread | ⟨offered, keys, key, hrow, hkeys, hwritten⟩ := hissued.written
  · exact .inl hread
  · refine .inr ⟨keys, hkeys, ?_⟩
    cases hrow with
    | given | found => exact .inl (writes_given hwritten)
    | own hitem hvalues => exact .inr ⟨hvalues, _, hitem, writes_own hwritten⟩

/-- A statement writes each of its columns once if and only if no two of the names it takes its
values from normalize to one column. -/
theorem written_nodup_iff (s : Session ω) (w : World ω) :
    (∀ {ρ : Type} (model : RecordModel ρ) (record : ρ),
      s.InsertsColumns (w.models.table model s.naming).1.resource
        (.ofList (model.fieldValues record)) w ((s.insert model record).outcome w).2) ∧
    (∀ resource values, s.InsertsColumns (s.naming.normalize (Text.trimBlank resource)) values w
      ((s.insertValues resource values).outcome w).2) ∧
    (∀ {ρ : Type} (model : RecordModel ρ) (mutation : Mutation ρ) params, ∃ sent,
      ((s.update model mutation params).outcome w).2.statements = w.statements ++ sent ∧
      ∀ st ∈ sent, (∃ table, st.Reads table) ∨
        s.SetsFields (w.models.table model s.naming).1 mutation st) ∧
    ∀ mutation params, ∃ sent,
      ((s.updateRows mutation params).outcome w).2.statements = w.statements ++ sent ∧
      ∀ st ∈ sent, (∃ table, st.Reads table) ∨ s.SetsEntries mutation st := by
  refine ⟨fun model record => ?_, fun resource values => ?_, update_setsFields,
    updateRows_setsEntries⟩
  · exact (Plans.insert model record).insertsColumns fun st h => h
  · refine (Plans.insertValues resource values).insertsColumns fun st h => ?_
    obtain ⟨name, hname, h⟩ := bind_eq_ok.mp h
    rw [mapError_eq_ok] at hname
    rw [← (resourceName_eq_ok.mp hname).2]
    exact h

theorem written_nodup_iff_user : ∃ sent,
    ((snakeSession.insertValues "user" (.ofList [("id", .int 1), ("Name", .text "A")])).outcome
        { outside := 0 }).2.statements = sent ∧
      sent = [.insert "user" [("id", .int 1), ("name", .text "A")]] ∧
      ∀ st ∈ sent, st.Writes .snakeCase [("id", .int 1), ("Name", .text "A")] ∧
        st.written.Nodup := by
  obtain ⟨-, hvalues, -, -⟩ := written_nodup_iff snakeSession { outside := 0 }
  obtain ⟨sent, hsent, -, hwrites⟩ :=
    hvalues "user" (.ofList [("id", .int 1), ("Name", .text "A")])
  obtain rfl : sent = [.insert "user" [("id", .int 1), ("name", .text "A")]] := hsent.symm
  refine ⟨_, hsent, rfl, fun st hst => ?_⟩
  have hwrite := hwrites st hst
  refine ⟨hwrite, ?_⟩
  rw [hwrite.columns]
  decide

def namedTwice : NamedValues :=
  .ofList [("id", .int 1), ("name", .text "A"), ("Name", .text "B")]

theorem insertValues_writes_twice : ∃ st,
    ((snakeSession.insertValues "user" namedTwice).outcome { outside := 0 }).2.statements = [st] ∧
      st = .insert "user" [("id", .int 1), ("name", .text "A"), ("name", .text "B")] ∧
      ¬ st.written.Nodup ∧
      ((snakeSession.updateRows { resource := some "user", items := [namedTwice] } []).outcome
        { outside := 0 }).2.statements =
        [.update "user" [("name", .text "A"), ("name", .text "B")] [("id", .int 1)]] := by
  exact ⟨_, rfl, rfl, by decide, rfl⟩

end Session

end WideColumn
