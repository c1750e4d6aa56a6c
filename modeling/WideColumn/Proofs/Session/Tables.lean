import WideColumn.Proofs.Session.BestEffort
import WideColumn.Record.Declared

namespace WideColumn

namespace Statement

def Reads (table : String) : Statement → Prop
  | select _ t _ _ => t = table
  | _ => False

def Changes (table : String) : Statement → Prop
  | update t _ _ | delete t _ => t = table
  | _ => False

def table? : Statement → Option String
  | insert t _ | select _ t _ _ | update t _ _ | delete t _ => some t
  | literal _ _ => none

variable {table : String} {st : Statement}

theorem Reads.table? (h : st.Reads table) : st.table? = some table := by
  cases st with
  | select _ t _ _ => exact congrArg some h
  | insert | update | delete | literal => contradiction

theorem Changes.table? (h : st.Changes table) : st.table? = some table := by
  cases st with
  | update t _ _ => exact congrArg some h
  | delete t _ => exact congrArg some h
  | insert | select | literal => contradiction

def OneTable (sent : List Statement) : Prop :=
  ∀ st ∈ sent, ∀ st' ∈ sent, st.table? = st'.table?

theorem oneTable_iff {read changed : String} {select : Statement} {changes : List Statement}
    (hselect : select.Reads read) (hchanges : ∀ st ∈ changes, st.Changes changed) :
    OneTable (select :: changes) ↔ read = changed ∨ changes = [] := by
  constructor
  · intro h
    cases changes with
    | nil => exact .inr rfl
    | cons change changes =>
      have hsame := h select List.mem_cons_self change (List.mem_cons_of_mem _ List.mem_cons_self)
      rw [hselect.table?, (hchanges change List.mem_cons_self).table?] at hsame
      exact .inl (Option.some.inj hsame)
  · rintro (rfl | rfl)
    · have htable : ∀ st ∈ select :: changes, st.table? = some read :=
        List.forall_mem_cons.mpr ⟨hselect.table?, fun st hst => (hchanges st hst).table?⟩
      intro st hst st' hst'
      rw [htable st hst, htable st' hst']
    · intro st hst st' hst'
      rw [List.mem_singleton.mp hst, List.mem_singleton.mp hst']

end Statement

open Outcome

namespace Change

theorem changes_of_statement {change : Change} {resource : String} {keys : List String}
    {owner : String} {value? : String → Option Value} {st : Statement}
    {assigned : Except CatalogError (List (String × Value))}
    (h : change.statement resource keys (Session.keyValues owner value? keys) assigned = .ok st) :
    st.Changes resource := by
  obtain ⟨-, key, -, hst⟩ := statement_eq_ok.mp h
  cases change with
  | update =>
    obtain ⟨columns, -, -, rfl⟩ := hst
    exact rfl
  | delete =>
    subst hst
    exact rfl

end Change

namespace Session

open WideColumn.Action (outcome_bind outcome_state)

variable {ω α : Type}

def ReadsThenChanges (x : Action ω α) (w : World ω) (read changed : String) : Prop :=
  ∃ sent, (x.outcome w).2.statements = w.statements ++ sent ∧
    (sent = [] ∨ ∃ select changes, sent = select :: changes ∧ select.Reads read ∧
      ∀ st ∈ changes, st.Changes changed) ∧
    (Statement.OneTable sent ↔ read = changed ∨ sent.length ≤ 1)

section Runs

variable {s : Session ω} {change : Change} {subject : Subject α} {mutation : Mutation α}
  {params : List Value} {q : Query} {w w₀ : World ω} {read changed : String}

theorem readsThenChanges_nothing {x : Action ω α} (h : (x.outcome w).2.statements = w.statements) :
    ReadsThenChanges x w read changed := by
  refine ⟨[], h.trans (List.append_nil _).symm, .inl rfl, iff_of_true ?_ (.inr (Nat.zero_le 1))⟩
  exact fun st hst => absurd hst List.not_mem_nil

theorem readsThenChanges_of_statements {x : Action ω α} {select : Statement}
    {changes : List Statement}
    (h : (x.outcome w).2.statements = w.statements ++ select :: changes)
    (hselect : select.Reads read) (hchanges : ∀ st ∈ changes, st.Changes changed) :
    ReadsThenChanges x w read changed := by
  refine ⟨_, h, .inr ⟨select, changes, rfl, hselect, hchanges⟩, ?_⟩
  rw [Statement.oneTable_iff hselect hchanges]
  simp

theorem selectPlan_reads {plan : SelectPlan} (h : s.selectPlan q params = .ok plan) :
    plan.statement.Reads (s.naming.normalize q.resource) := by
  obtain ⟨_, _, -, -, -, hstatement⟩ := selectPlan_eq_ok h
  rw [hstatement]
  exact rfl

theorem runChange_statements (hq : Quiet subject) (hitems : mutation.items = [])
    (hquery : mutation.query = some q) :
    ((s.runChange change subject mutation params).outcome w).2.statements = w.statements ∨
      ∃ plan, ∃ rows : List RowMap, ∃ o, s.selectPlan q params = .ok plan ∧
        ((s.runChange change subject mutation params).outcome w).2.statements =
          w.statements ++ plan.statement :: rows.filterMap fun row =>
            (rowStatement change subject.resource o row).toOption := by
  by_cases hvalues : change = .update → mutation.values.isEmpty = false
  · rw [runChange_query hitems hquery hvalues, outcome_bind]
    rcases ho : (s.opening change subject.resource mutation.values).outcome w with ⟨e | o, w₁⟩
    · exact .inl (opening_quiet ho).1
    have hopened := (opening_quiet ho).1
    dsimp only
    rw [outcome_bind]
    rcases hrows : (s.fetchMaps q params).outcome w₁ with ⟨e | rows, w₂⟩
    · obtain ⟨-, htrace⟩ | ⟨plan, hplan, htrace⟩ := fetchMaps_trace hrows
      · left
        rw [← hopened, World.statements_eq, World.statements_eq, htrace]
      · refine .inr ⟨plan, [], o, hplan, ?_⟩
        rw [← hopened]
        exact World.statements_of_trace htrace
    · obtain ⟨plan, hplan, htrace⟩ := fetchMaps_eq_ok hrows
      obtain ⟨accepted, skipped, hsettles, -⟩ :=
        changeFetched_answer s change o hq rows w₂
      refine .inr ⟨plan, rows, o, hplan, ?_⟩
      dsimp only
      rw [outcome_state, hsettles.statements, World.statements_of_trace htrace, hopened]
      simp
  · -- an update without values fails before anything is read
    obtain ⟨rfl, hempty⟩ := Classical.not_imp.mp hvalues
    rw [runChange_query_update hitems (Bool.not_eq_false _ ▸ hempty), outcome_bind]
    rcases ho : (s.opening .update subject.resource mutation.values).outcome w with ⟨e | o, w₁⟩
    · exact .inl (opening_quiet ho).1
    · exact .inl (opening_quiet ho).1

theorem runChange_tables (s : Session ω) (change : Change) (params : List Value) (w : World ω)
    (hq : Quiet subject) (hitems : mutation.items = [])
    (hquery : mutation.query = some q) :
    ReadsThenChanges (s.runChange change subject mutation params) w
      (s.naming.normalize q.resource) subject.resource := by
  obtain h | ⟨plan, rows, o, hplan, h⟩ := runChange_statements (s := s) hq hitems hquery
  · exact readsThenChanges_nothing h
  · refine readsThenChanges_of_statements h (selectPlan_reads hplan) ?_
    intro st hst
    obtain ⟨row, -, hrow⟩ := List.mem_filterMap.mp hst
    exact Change.changes_of_statement (toOption_eq_some.mp hrow)

variable {call : Action ω (ResultSet α)}

theorem Enters.tables (h : s.Enters change params w mutation call subject w₀)
    (hitems : mutation.items = []) (hquery : mutation.query = some q) :
    ReadsThenChanges call w (s.naming.normalize q.resource) subject.resource := by
  have hscope := hasScope_of_query hquery
  obtain ⟨sent, hsent, hshape, htable⟩ :=
    runChange_tables s change params w₀ h.quiet hitems hquery
  refine ⟨sent, ?_, hshape, htable⟩
  rw [h.outcome hscope, hsent, h.statements]

theorem changeRows_tables (s : Session ω) (change : Change) (params : List Value) (w : World ω)
    {mutation : Mutation RowMap} (hitems : mutation.items = []) (hquery : mutation.query = some q) :
    ReadsThenChanges (s.changeRows change mutation params) w (s.naming.normalize q.resource)
      (s.naming.normalize (Text.trimBlank (mutation.resource.getD q.resource))) := by
  have hscope := hasScope_of_query hquery
  cases hsubject : s.untypedSubject mutation with
  | error e =>
    apply readsThenChanges_nothing
    rw [changeRows_eq, requireScope_eq_ok.mpr hscope, Action.ofExcept_ok, pure_bind, hsubject,
      Action.ofExcept_error, Action.throw_bind]
    rfl
  | ok subject =>
    obtain ⟨resource, hresource, -, rfl⟩ := untypedSubject_eq_ok.mp hsubject
    have hgiven : mutation.resource.getD q.resource = resource := by
      rw [hquery] at hresource
      cases hnamed : mutation.resource <;> simp_all
    rw [hgiven]
    exact (Enters.rows mutation hsubject).tables hitems hquery

end Runs

/-- A change by query stays on the table it reads if and only if its own resource is that table.
So do row maps whose resource is the query's. -/
theorem changeByQuery_tables (s : Session ω) (change : Change) (params : List Value) (w : World ω)
    (q : Query) :
    (∀ {ρ : Type} (model : RecordModel ρ) (mutation : Mutation ρ), mutation.items = [] →
      mutation.query = some q →
      ReadsThenChanges (s.changeRecords change model mutation params) w
        (s.naming.normalize q.resource) (w.models.table model s.naming).1.resource) ∧
    ∀ mutation : Mutation RowMap, mutation.items = [] → mutation.query = some q →
      ReadsThenChanges (s.changeRows change mutation params) w (s.naming.normalize q.resource)
        (s.naming.normalize (Text.trimBlank (mutation.resource.getD q.resource))) ∧
      (mutation.resource = none → Text.trimBlank q.resource = q.resource →
        ∃ sent, ((s.changeRows change mutation params).outcome w).2.statements =
          w.statements ++ sent ∧ Statement.OneTable sent) := by
  refine ⟨fun model mutation => (Enters.records model mutation).tables,
    fun mutation hitems hquery => ?_⟩
  have htables := changeRows_tables s change params w hitems hquery
  refine ⟨htables, fun hresource htrim => ?_⟩
  obtain ⟨sent, hsent, -, htable⟩ := htables
  refine ⟨sent, hsent, htable.mpr (.inl ?_)⟩
  rw [hresource, Option.getD_none, htrim]

def answering (rows : List Row) : Transport Nat where
  execute _ n := (.ok (if n = 0 then rows else []), n + 1)

def logTable : TableSchema :=
  (bareTable "log").withPartitionKey "id" .bigint

def loggedSession : Session Nat where
  transport := answering [⟨[("id", .int 1), ("name", .text "A")]⟩]
  catalog := (MemoryCatalog.ofTables [userTable, logTable]).toCatalog
  naming := .identity

def userModel : RecordModel (DeclaredRecord [.plain "id" .int64, .plain "name" .text]) :=
  .declare "User" "user" _

theorem changeByQuery_tables_user : ∃ sent,
    ((loggedSession.changeRows .delete { query := some { resource := "user" } } []).outcome
      { outside := 0 }).2.statements = sent ∧
      sent = [.select none "user" [] none, .delete "user" [("id", .int 1)]] ∧
      Statement.OneTable sent ∧
      ReadsThenChanges (loggedSession.changeRecords .delete userModel
        { query := some { resource := "log" } } []) { outside := 0 } "log" "user" := by
  obtain ⟨hrecords, hrows⟩ :=
    changeByQuery_tables loggedSession .delete [] { outside := 0 } { resource := "user" }
  obtain ⟨sent, hsent, htable⟩ :=
    (hrows { query := some { resource := "user" } } rfl rfl).2 rfl rfl
  have hlog := (changeByQuery_tables loggedSession .delete [] { outside := 0 }
    { resource := "log" }).1 userModel { query := some { resource := "log" } } rfl rfl
  exact ⟨sent, hsent, hsent.symm.trans rfl, htable, hlog⟩

/-- Records are deleted from their own table by the keys of another one. -/
theorem changeByQuery_leaves_table : ∃ sent,
    ((loggedSession.changeRecords .delete userModel { query := some { resource := "log" } }
      []).outcome { outside := 0 }).2.statements = sent ∧
      sent = [.select none "log" [] none, .delete "user" [("id", .int 1)]] ∧
      ¬ Statement.OneTable sent := by
  refine ⟨_, rfl, rfl, fun h => ?_⟩
  have hsame := h _ List.mem_cons_self _ (List.mem_cons_of_mem _ List.mem_cons_self)
  exact absurd hsame (by decide)

end Session

end WideColumn
