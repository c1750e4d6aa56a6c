import WideColumn.Proofs.Naming.Padding
import WideColumn.Proofs.Session.Planned
import WideColumn.Proofs.Session.Tables

namespace WideColumn

open Outcome

theorem Statement.reads_iff {items : Option (List SelectItem)} {table other : String}
    {conditions : List Fragment} {limit : Option UInt32} :
    (select items table conditions limit).Reads other ↔ table = other := Iff.rfl

theorem MemoryCatalog.mem_of_table {m : MemoryCatalog} {resource : String} {t : TableSchema}
    (h : m.table resource = .ok t) : t ∈ m.tables ∧ t.name = resource := by
  rw [table] at h
  cases hfound : m.tables.find? fun t => t.name == resource with
  | none => simp [hfound] at h
  | some found =>
    rw [hfound] at h
    cases h
    exact ⟨List.mem_of_find?_eq_some hfound, by simpa using List.find?_some hfound⟩

theorem KeyLayout.declared_of_resolve {m : MemoryCatalog} {resource : String} {keys : KeyLayout}
    (h : resolve m.toCatalog resource = .ok keys) : ∃ t ∈ m.tables, t.name = resource := by
  obtain ⟨partition, hpartition, -⟩ := bind_eq_ok.mp h
  obtain ⟨t, ht, -⟩ := bind_eq_ok.mp hpartition
  exact ⟨t, MemoryCatalog.mem_of_table ht⟩

namespace Session

variable {ω α : Type} {s : Session ω} {q : Query} {params : List Value} {w w₀ : World ω}

structure ReadsFor (s : Session ω) (q : Query) (params : List Value) (table : String)
    (keys : KeyLayout) (st : Statement) : Prop where
  name : table = s.naming.normalize (Text.trimBlank q.resource)
  resolved : KeyLayout.resolve s.catalog table = .ok keys
  planned : ∃ plan, SelectPlan.build q keys s.naming params = .ok plan ∧ plan.statement = st
  reads : st.Reads (s.naming.normalize q.resource)
  same : st.Reads table ↔
    s.naming.normalize q.resource = s.naming.normalize (Text.trimBlank q.resource)
  snakeCase : s.naming = .snakeCase → (st.Reads table ↔ Text.trimBlank q.resource = q.resource)
  declared : ∀ m : MemoryCatalog, s.catalog = m.toCatalog → ∃ t ∈ m.tables, t.name = table

theorem readsFor_of_selectPlan {plan : SelectPlan} (h : s.selectPlan q params = .ok plan) :
    ∃ table keys, s.ReadsFor q params table keys plan.statement := by
  have hreads := selectPlan_reads h
  obtain ⟨_, _, -, -, -, hstatement⟩ := selectPlan_eq_ok h
  obtain ⟨table, htable, h⟩ := bind_eq_ok.mp h
  obtain ⟨keys, hkeys, h⟩ := bind_eq_ok.mp h
  rw [mapError_eq_ok] at htable hkeys h
  obtain ⟨-, hname⟩ := resourceName_eq_ok.mp htable
  have hsame : plan.statement.Reads table ↔
      s.naming.normalize q.resource = s.naming.normalize (Text.trimBlank q.resource) := by
    rw [hstatement, hname]
    exact Statement.reads_iff
  refine ⟨table, keys, hname, hkeys, ⟨plan, h, rfl⟩, hreads, hsame, ?_, ?_⟩
  · intro hnaming
    rw [hsame, hnaming]
    exact SnakeCase.normalize_trimBlank_iff q.resource
  · rintro m hcatalog
    exact KeyLayout.declared_of_resolve (hcatalog ▸ hkeys)

def SelectsFor (s : Session ω) (q : Query) (params : List Value) (call : Action ω α)
    (w : World ω) : Prop :=
  ∃ sent, (call.outcome w).2.statements = w.statements ++ sent ∧
    ((∃ e, s.selectPlan q params = .error e ∧ sent = []) ∨
      ∃ st table keys, s.ReadsFor q params table keys st ∧ sent = [st])

theorem Plans.selectsFor {call : Action ω (ResultSet α)}
    (h : s.Plans w call ((s.selectPlan q params).map SelectPlan.statement) w₀) :
    s.SelectsFor q params call w := by
  cases hplan : s.selectPlan q params with
  | error e =>
    rw [hplan] at h
    refine ⟨[], ?_, .inl ⟨e, hplan, rfl⟩⟩
    rw [h.failed, h.statements_start, List.append_nil]
  | ok plan =>
    rw [hplan] at h
    obtain ⟨table, keys, hreads⟩ := readsFor_of_selectPlan hplan
    exact ⟨[plan.statement], h.sent, .inr ⟨_, table, keys, hreads, rfl⟩⟩

/-- A select reads the table whose keys it was planned with if and only if the padding of the name
does not show in it. -/
theorem select_readsPlannedTable (s : Session ω) (q : Query) (params : List Value) (w : World ω) :
    (∀ {ρ : Type} (model : RecordModel ρ), s.SelectsFor q params (s.select model q params) w) ∧
      s.SelectsFor q params (s.selectRows q params) w :=
  ⟨fun model => (Plans.select model q params).selectsFor, (Plans.selectRows q params).selectsFor⟩

def snakeSession : Session Nat :=
  { userSession with naming := .snakeCase }

theorem select_readsPlannedTable_user : ∃ st table keys,
    (snakeSession.selectRows { resource := "user" } []).outcome { outside := 0 } =
        (.ok (.mapRows []), World.record (.sent st) { outside := 1 }) ∧
      snakeSession.ReadsFor { resource := "user" } [] table keys st ∧ st.Reads "user" ∧
      st.Reads table := by
  obtain ⟨-, sent, hsent, ⟨e, herror, -⟩ | ⟨st, table, keys, hreads, rfl⟩⟩ :=
    select_readsPlannedTable snakeSession { resource := "user" } [] { outside := 0 }
  · contradiction
  · cases hsent
    have htrim : Text.trimBlank "user" = "user" := by decide
    exact ⟨_, table, keys, rfl, hreads, hreads.reads, (hreads.snakeCase rfl).mpr htrim⟩

theorem select_readsPaddedTable : ∃ st table keys,
    ((snakeSession.selectRows { resource := " user" } []).outcome { outside := 0 }).2.statements =
        [st] ∧
      snakeSession.ReadsFor { resource := " user" } [] table keys st ∧ table = "user" ∧
      keys = { partition := ["id"] } ∧ st = .select none " user" [] none ∧ ¬ st.Reads table ∧
      ¬ ∃ t ∈ [userTable], t.name = " user" := by
  have hplan : ∃ plan, snakeSession.selectPlan { resource := " user" } [] = .ok plan ∧
      plan.statement = .select none " user" [] none := ⟨_, rfl, rfl⟩
  obtain ⟨plan, hplan, hstatement⟩ := hplan
  obtain ⟨table, keys, hreads⟩ := readsFor_of_selectPlan hplan
  obtain rfl : table = "user" := hreads.name.trans rfl
  obtain rfl : keys = { partition := ["id"] } := Except.ok.inj (hreads.resolved.symm.trans rfl)
  rw [hstatement] at hreads
  refine ⟨_, _, _, rfl, hreads, rfl, rfl, rfl, ?_, by decide⟩
  rw [Statement.reads_iff]
  decide

end Session

end WideColumn
