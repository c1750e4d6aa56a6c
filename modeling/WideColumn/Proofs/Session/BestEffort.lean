import WideColumn.Catalog.Memory
import WideColumn.Proofs.Session.Batch
import WideColumn.Proofs.Session.Calls
import WideColumn.Proofs.Session.Fetch

namespace WideColumn.Session

open WideColumn.Action (outcome_bind outcome_bind_eq_ok outcome_bind_of_ok outcome_state)

variable {ω α β : Type}

def Answers (s : Session ω) (subject : Subject α) (statement : β → Except Error Statement)
    (result : β → α × List Event) (skip : Error → Event) (batch : List β) (w w' : World ω)
    (r : ResultSet α) : Prop :=
  ∃ accepted skipped, s.Settles statement skip batch w w' accepted skipped ∧
    r = subject.finish (accepted.map fun x => (result x).1)

/-- What a change needs of an item: the table has a key column, the item a value for each of them
and, when the call gives no values to set, a column to update. -/
structure Changeable (s : Session ω) (change : Change) (subject : Subject α)
    (values : NamedValues) (o : Opening) (item : α) : Prop where
  keyed : o.keys ≠ []
  key : ∀ column ∈ o.keys, (subject.keyValue? item column).isSome = true
  derived : change = .update → values.isEmpty = true →
    ∃ columns, s.derivedAssignments subject o.keys item = .ok columns ∧ columns ≠ []

def IsKeyed (keys : List String) (row : RowMap) : Prop :=
  ∀ column ∈ keys, (Subject.nonNull (row.get? column)).isSome = true

theorem exists_map_eq_some {keys : List String} {value? : String → Option Value} :
    (∃ key : List Value, keys.map value? = key.map some) ↔
      ∀ column ∈ keys, (value? column).isSome = true := by
  constructor
  · rintro ⟨key, hkey⟩ column hcolumn
    have hmem : value? column ∈ key.map some := hkey ▸ List.mem_map_of_mem hcolumn
    obtain ⟨v, -, hv⟩ := List.mem_map.mp hmem
    rw [← hv]
    rfl
  · intro h
    induction keys with
    | nil => exact ⟨[], rfl⟩
    | cons column keys ih =>
      obtain ⟨v, hv⟩ := Option.isSome_iff_exists.mp (h column List.mem_cons_self)
      obtain ⟨key, hkey⟩ := ih fun c hc => h c (List.mem_cons_of_mem column hc)
      exact ⟨v :: key, by rw [List.map_cons, List.map_cons, hv, hkey]⟩

section Statements

variable {s : Session ω} {change : Change} {subject : Subject α} {values : NamedValues}
  {o : Opening}

theorem itemStatement_isOk (ho : s.Opens change subject.resource values o) (item : α) :
    (∃ st, s.itemStatement change subject values o item = .ok st) ↔
      s.Changeable change subject values o item := by
  simp only [itemStatement, itemKeys, Change.statement_eq_ok, Change.Asks]
  constructor
  · rintro ⟨st, hkeyed, key, hkey, hst⟩
    refine ⟨hkeyed, exists_map_eq_some.mp ⟨key, hkey⟩, ?_⟩
    rintro rfl hvalues
    obtain ⟨columns, hcolumns, hne, -⟩ := hst
    rw [itemAssignments, if_pos hvalues] at hcolumns
    exact ⟨columns, hcolumns, hne⟩
  · intro h
    obtain ⟨key, hkey⟩ := exists_map_eq_some.mpr h.key
    cases change with
    | delete => exact ⟨_, h.keyed, key, hkey, rfl⟩
    | update =>
      rw [itemAssignments]
      cases hvalues : values.isEmpty with
      | true =>
        obtain ⟨columns, hcolumns, hne⟩ := h.derived rfl hvalues
        exact ⟨_, h.keyed, key, hkey, columns, hcolumns, hne, rfl⟩
      | false => exact ⟨_, h.keyed, key, hkey, o.shared, rfl, ho.columns rfl hvalues, rfl⟩

theorem rowStatement_isOk (ho : s.Opens change subject.resource values o)
    (hvalues : change = .update → values.isEmpty = false) (row : RowMap) :
    (∃ st, rowStatement change subject.resource o row = .ok st) ↔ IsKeyed o.keys row := by
  simp only [rowStatement, rowKeys, Change.statement_eq_ok, Change.Asks]
  constructor
  · rintro ⟨st, -, key, hkey, -⟩
    exact exists_map_eq_some.mp ⟨key, hkey⟩
  · intro h
    obtain ⟨key, hkey⟩ := exists_map_eq_some.mpr h
    have hkeyed := ho.keyed_of_values hvalues
    cases change with
    | delete => exact ⟨_, hkeyed, key, hkey, rfl⟩
    | update =>
      exact ⟨_, hkeyed, key, hkey, o.shared, rfl, ho.columns rfl (hvalues rfl), rfl⟩

end Statements

section Runs

variable {s : Session ω} {change : Change} {subject : Subject α} {mutation : Mutation α}
  {params : List Value} {o : Opening} {w w₀ w₁ w₂ w' : World ω} {r : ResultSet α}

theorem itemResult_events {P : Event → Prop} (values : NamedValues) (item : α)
    (h : ∀ columns, ∀ event ∈ (subject.assign item columns).2, P event) :
    ∀ event ∈ (itemResult change subject values o item).2, P event := by
  have hnone : ∀ event ∈ (item, ([] : List Event)).2, P event := List.forall_mem_nil _
  cases change with
  | delete => exact hnone
  | update =>
    rw [itemResult]
    split
    · exact hnone
    · exact h o.shared

theorem rowResult_events {P : Event → Prop} (row : RowMap)
    (h : ∀ map, ∀ event ∈ (subject.ofRow map).2, P event) :
    ∀ event ∈ (rowResult change subject o row).2, P event := by
  cases change with
  | delete => exact h row
  | update => exact h _

def ItemsAnswer (s : Session ω) (change : Change) (subject : Subject α) (mutation : Mutation α)
    (o : Opening) (w w' : World ω) (r : ResultSet α) : Prop :=
  s.Answers subject (s.itemStatement change subject mutation.values o)
    (itemResult change subject mutation.values o) (.skipped .item change subject.resource)
    mutation.items w w' r

def RowsAnswer (s : Session ω) (change : Change) (subject : Subject α) (rows : List RowMap)
    (o : Opening) (w w' : World ω) (r : ResultSet α) : Prop :=
  s.Answers subject (rowStatement change subject.resource o) (rowResult change subject o)
    (.skipped .row change subject.resource) rows w w' r

theorem runChange_items_answer (params : List Value) (hq : Quiet subject)
    (hitems : mutation.items ≠ [])
    (ho : (s.opening change subject.resource mutation.values).outcome w₀ = (.ok o, w₁)) :
    ∃ r w', (s.runChange change subject mutation params).outcome w₀ = (.ok r, w') ∧
      s.ItemsAnswer change subject mutation o w₁ w' r := by
  obtain ⟨accepted, skipped, w', hrun, hsettles⟩ :=
    bestEffort_settles s (.skipped .item change subject.resource)
      (s.itemStatement change subject mutation.values o)
      (itemResult change subject mutation.values o) mutation.items (fun _ => rfl)
      (fun item => itemResult_events mutation.values item (hq.assign item)) w₁
  refine ⟨_, w', ?_, accepted, skipped, hsettles, rfl⟩
  rw [runChange_items hitems, outcome_bind_of_ok ho, changeItems, outcome_state, hrun]

theorem changeFetched_answer (s : Session ω) (change : Change) (o : Opening)
    (hq : Quiet subject) (rows : List RowMap) (w : World ω) :
    s.RowsAnswer change subject rows o w ((s.changeFetched change subject rows o).run w).2
      (subject.finish ((s.changeFetched change subject rows o).run w).1) := by
  obtain ⟨accepted, skipped, w', hrun, hsettles⟩ :=
    bestEffort_settles s (.skipped .row change subject.resource)
      (rowStatement change subject.resource o) (rowResult change subject o) rows (fun _ => rfl)
      (fun row => rowResult_events row hq.ofRow) w
  rw [changeFetched, hrun]
  exact ⟨accepted, skipped, hsettles, rfl⟩

theorem runChange_query_answer {q : Query} (hq : Quiet subject) (hitems : mutation.items = [])
    (hquery : mutation.query = some q)
    (hvalues : change = .update → mutation.values.isEmpty = false)
    (ho : (s.opening change subject.resource mutation.values).outcome w₀ = (.ok o, w₁))
    (h : (s.runChange change subject mutation params).outcome w₀ = (.ok r, w')) :
    ∃ rows w₂, (s.fetchMaps q params).outcome w₁ = (.ok rows, w₂) ∧
      s.RowsAnswer change subject rows o w₂ w' r := by
  rw [runChange_query hitems hquery hvalues, outcome_bind_of_ok ho] at h
  obtain ⟨rows, w₂, hrows, hbatch⟩ := outcome_bind_eq_ok.mp h
  rw [outcome_state] at hbatch
  cases hbatch
  exact ⟨rows, w₂, hrows, changeFetched_answer s change o hq rows w₂⟩

theorem values_of_answer (hitems : mutation.items = [])
    (h : (s.runChange change subject mutation params).outcome w₀ = (.ok r, w')) :
    change = .update → mutation.values.isEmpty = false := by
  rintro rfl
  by_contra hvalues
  rw [Bool.not_eq_false] at hvalues
  rw [runChange_query_update hitems hvalues] at h
  obtain ⟨_, _, -, hthrow⟩ := outcome_bind_eq_ok.mp h
  exact absurd hthrow nofun

/-- An instance-mode call: which items have a statement, what became of each, and that none of them
depends on the others. -/
structure ItemsTried (s : Session ω) (change : Change) (params : List Value)
    (mutation : Mutation α) (subject : Subject α) (o : Opening) (w w₀ w₁ w' : World ω)
    (r : ResultSet α) : Prop where
  changeable : ∀ item, (∃ st, s.itemStatement change subject mutation.values o item = .ok st) ↔
    s.Changeable change subject mutation.values o item
  answer : s.ItemsAnswer change subject mutation o w₁ w' r
  alone : ∀ item call, s.Enters change params w { mutation with items := [item] } call subject w₀ →
    ∃ r₁ w₂, call.outcome w = (.ok r₁, w₂) ∧ w₂.statements = w.statements ++
      (s.itemStatement change subject mutation.values o item).toOption.toList

structure RowsTried (s : Session ω) (change : Change) (subject : Subject α) (rows : List RowMap)
    (o : Opening) (w w' : World ω) (r : ResultSet α) : Prop where
  keyed : ∀ row, (∃ st, rowStatement change subject.resource o row = .ok st) ↔
    IsKeyed o.keys row
  answer : s.RowsAnswer change subject rows o w w' r
  alone : ∀ row, ((s.changeFetched change subject [row] o).run w).2.statements = w.statements ++
    (rowStatement change subject.resource o row).toOption.toList

theorem statements_of_singleton {statement : β → Except Error Statement}
    {result : β → α × List Event} {skip : Error → Event} {x : β}
    (h : s.Answers subject statement result skip [x] w w' r) :
    w'.statements = w.statements ++ (statement x).toOption.toList := by
  obtain ⟨accepted, skipped, hsettles, -⟩ := h
  rw [hsettles.statements, List.filterMap_cons, List.filterMap_nil]
  cases (statement x).toOption <;> rfl

variable {call : Action ω (ResultSet α)}

theorem runChange_failed {e : Error} (hscope : mutation.hasScope = true)
    (h : (s.runChange change subject mutation params).outcome w = (.error e, w')) :
    ∃ opened w₁, (s.opening change subject.resource mutation.values).outcome w = (opened, w₁) ∧
      (w'.trace = w₁.trace ∨ ∃ q plan, mutation.items = [] ∧ mutation.query = some q ∧
        s.selectPlan q params = .ok plan ∧ w'.trace = w₁.trace ++ [.sent plan.statement]) := by
  rcases ho : (s.opening change subject.resource mutation.values).outcome w with ⟨opened, w₁⟩
  refine ⟨opened, w₁, rfl, ?_⟩
  by_cases hitems : mutation.items = []
  · obtain ⟨q, hquery⟩ := query_of_hasScope hscope hitems
    by_cases hvalues : change = .update → mutation.values.isEmpty = false
    · rw [runChange_query hitems hquery hvalues, outcome_bind, ho] at h
      cases opened with
      | error e' =>
        cases h
        exact .inl rfl
      | ok o =>
        dsimp only at h
        rw [outcome_bind] at h
        rcases hrows : (s.fetchMaps q params).outcome w₁ with ⟨e' | rows, w₂⟩
        · rw [hrows] at h
          cases h
          obtain ⟨-, htrace⟩ | ⟨plan, hplan, htrace⟩ := fetchMaps_trace hrows
          · exact .inl htrace
          · exact .inr ⟨q, plan, hitems, hquery, hplan, htrace⟩
        · rw [hrows] at h
          dsimp only at h
          rw [outcome_state] at h
          cases h
    · obtain ⟨rfl, hempty⟩ := Classical.not_imp.mp hvalues
      rw [runChange_query_update hitems (Bool.not_eq_false _ ▸ hempty), outcome_bind, ho] at h
      cases opened <;> cases h <;> exact .inl rfl
  · rw [runChange_items hitems, outcome_bind, ho] at h
    cases opened with
    | error e' =>
      cases h
      exact .inl rfl
    | ok o =>
      dsimp only at h
      rw [outcome_state] at h
      cases h

theorem Enters.unsent {e : Error} (h : s.Enters change params w mutation call subject w₀)
    (hitems : mutation.items ≠ []) (hcall : call.outcome w = (.error e, w')) :
    w'.statements = w.statements := by
  have hscope : mutation.hasScope = true := by simp [Mutation.hasScope, hitems]
  rw [h.outcome hscope] at hcall
  obtain ⟨opened, w₁, ho, htrace | ⟨_, _, hnil, -⟩⟩ := runChange_failed hscope hcall
  · rw [World.statements_eq, htrace, ← World.statements_eq, (opening_quiet ho).1, h.statements]
  · exact absurd hnil hitems

theorem Enters.itemsTried (h : s.Enters change params w mutation call subject w₀)
    (hitems : mutation.items ≠ []) (hcall : call.outcome w = (.ok r, w')) :
    ∃ o w₁, (s.opening change subject.resource mutation.values).outcome w₀ = (.ok o, w₁) ∧
      s.ItemsTried change params mutation subject o w w₀ w₁ w' r := by
  have hrun := h.run hcall
  obtain ⟨o, w₁, ho, -⟩ := outcome_bind_eq_ok.mp
    ((congrArg (Action.outcome · w₀) (runChange_items hitems)).symm.trans hrun)
  obtain ⟨r', w'', hrun', hanswer⟩ := runChange_items_answer params h.quiet hitems ho
  rw [hrun] at hrun'
  cases hrun'
  refine ⟨o, w₁, ho, itemStatement_isOk (opens_of_opening ho), hanswer, fun item call' hcall' => ?_⟩
  have hne : ({ mutation with items := [item] } : Mutation α).items ≠ [] :=
    List.cons_ne_nil item []
  obtain ⟨r₁, w₂, halone, hanswer'⟩ := runChange_items_answer params h.quiet hne ho
  refine ⟨r₁, w₂, (hcall'.outcome rfl).trans halone, ?_⟩
  rw [statements_of_singleton hanswer', (h.opened ho).1]

theorem rowsTried (hq : Quiet subject)
    (hvalues : change = .update → mutation.values.isEmpty = false)
    (ho : s.Opens change subject.resource mutation.values o) {rows : List RowMap}
    (hanswer : s.RowsAnswer change subject rows o w w' r) :
    s.RowsTried change subject rows o w w' r where
  keyed := rowStatement_isOk ho hvalues
  answer := hanswer
  alone row := statements_of_singleton (changeFetched_answer s change o hq [row] w)

theorem Enters.fetched {q : Query} {rows : List RowMap}
    (h : s.Enters change params w mutation call subject w₀) (hitems : mutation.items = [])
    (hquery : mutation.query = some q)
    (hvalues : change = .update → mutation.values.isEmpty = false)
    (ho : (s.opening change subject.resource mutation.values).outcome w₀ = (.ok o, w₁))
    (hrows : (s.fetchMaps q params).outcome w₁ = (.ok rows, w₂)) :
    ∃ r w', call.outcome w = (.ok r, w') ∧ w'.statements = w₂.statements ++
      rows.filterMap fun row => (rowStatement change subject.resource o row).toOption := by
  have hscope := hasScope_of_query hquery
  obtain ⟨accepted, skipped, hsettles, -⟩ :=
    changeFetched_answer s change o h.quiet rows w₂
  refine ⟨subject.finish ((s.changeFetched change subject rows o).run w₂).1, _, ?_,
    hsettles.statements⟩
  rw [h.outcome hscope, runChange_query hitems hquery hvalues, outcome_bind_of_ok ho,
    outcome_bind_of_ok hrows, outcome_state]

theorem change_bestEffort (h : s.Enters change params w mutation call subject w₀)
    (hcall : call.outcome w = (.ok r, w')) :
    ∃ o w₁, (s.opening change subject.resource mutation.values).outcome w₀ = (.ok o, w₁) ∧
      s.Opens change subject.resource mutation.values o ∧
      w₁.statements = w.statements ∧ w₁.skips = w.skips ∧
      (mutation.items ≠ [] → s.ItemsTried change params mutation subject o w w₀ w₁ w' r) ∧
      (mutation.items = [] → ∃ q plan rows w₂, mutation.query = some q ∧
        s.selectPlan q params = .ok plan ∧ (s.fetchMaps q params).outcome w₁ = (.ok rows, w₂) ∧
        w₂.statements = w.statements ++ [plan.statement] ∧ w₂.skips = w.skips ∧
        s.RowsTried change subject rows o w₂ w' r) := by
  have hrun := h.run hcall
  have hscope := h.hasScope hcall
  -- items that are given take precedence over a query
  by_cases hitems : mutation.items = []
  · have hvalues := values_of_answer hitems hrun
    obtain ⟨q, hquery⟩ := query_of_hasScope hscope hitems
    obtain ⟨o, w₁, ho, -⟩ := outcome_bind_eq_ok.mp
      ((congrArg (Action.outcome · w₀) (runChange_query hitems hquery hvalues)).symm.trans hrun)
    obtain ⟨rows, w₂, hrows, hanswer⟩ :=
      runChange_query_answer h.quiet hitems hquery hvalues ho hrun
    obtain ⟨plan, hplan, htrace⟩ := fetchMaps_eq_ok hrows
    have hopened := opens_of_opening ho
    obtain ⟨hstatements, hskips⟩ := h.opened ho
    refine ⟨o, w₁, ho, hopened, hstatements, hskips, fun hne => absurd hitems hne, fun _ => ?_⟩
    refine ⟨q, plan, rows, w₂, hquery, hplan, hrows, ?_, ?_,
      rowsTried h.quiet hvalues hopened hanswer⟩
    · rw [World.statements_of_trace htrace, hstatements]
      rfl
    · rw [World.skips_of_trace htrace, hskips]
      exact List.append_nil _
  · obtain ⟨o, w₁, ho, htried⟩ := h.itemsTried hitems hcall
    obtain ⟨hstatements, hskips⟩ := h.opened ho
    exact ⟨o, w₁, ho, opens_of_opening ho, hstatements, hskips, fun _ => htried,
      fun hnil => absurd hnil hitems⟩

end Runs

def refusingSecond : Transport Nat where
  execute _ n := (if n = 1 then .error (.rejected "full") else .ok [], n + 1)

def bareTable (name : String) : TableSchema :=
  { name }

def userTable : TableSchema :=
  ((bareTable "user").withPartitionKey "id" .bigint).withColumn "name" .text

def userSession : Session Nat where
  transport := refusingSecond
  catalog := (MemoryCatalog.ofTables [userTable]).toCatalog
  naming := .identity

def renamedUsers : Mutation RowMap where
  resource := some "user"
  items := [.ofList [("id", .int 1), ("name", .text "A")], .ofList [("name", .text "B")],
    .ofList [("id", .int 3), ("name", .text "C")], .ofList [("id", .int 4), ("name", .text "D")],
    .ofList [("id", .int 5)]]
  values := .empty

theorem change_bestEffort_renamedUsers : ∃ r w' o w₁,
    (userSession.changeRows .update renamedUsers []).outcome { outside := 0 } = (.ok r, w') ∧
      w'.statements = [
        .update "user" [("name", .text "A")] [("id", .int 1)],
        .update "user" [("name", .text "C")] [("id", .int 3)],
        .update "user" [("name", .text "D")] [("id", .int 4)]] ∧
      r.rows.map NamedValues.entries =
        [[("id", .int 1), ("name", .text "A")], [("id", .int 4), ("name", .text "D")]] ∧
      w'.skips.length = 3 ∧
      userSession.ItemsTried .update [] renamedUsers (.untyped "user" .identity) o
        { outside := 0 } { outside := 0 } w₁ w' r := by
  have hrun : ∃ r w', (userSession.changeRows .update renamedUsers []).outcome { outside := 0 } =
      (.ok r, w') := ⟨_, _, rfl⟩
  obtain ⟨r, w', h⟩ := hrun
  have henters : userSession.Enters .update [] { outside := 0 } renamedUsers
      (userSession.changeRows .update renamedUsers []) (.untyped "user" .identity)
      { outside := 0 } := .rows _ rfl
  obtain ⟨o, w₁, -, -, -, -, hitems, -⟩ := change_bestEffort henters h
  cases h
  exact ⟨_, _, o, w₁, rfl, rfl, rfl, rfl, hitems (List.cons_ne_nil _ _)⟩

def noteTable : TableSchema :=
  (bareTable "note").withColumn "text" .text

theorem change_skips_unkeyed : ∃ s : Session Nat, ∃ item r w',
    s.catalog.rowKeys "note" = .ok [] ∧
      s.derivedAssignments (.untyped "note" .identity) [] item = .ok [("text", .text "A")] ∧
      (s.changeRows .update { resource := some "note", items := [item] } []).outcome
        { outside := 0 } = (.ok r, w') ∧
      w'.statements = [] ∧ r.rows = [] ∧ w'.skips.length = 1 :=
  ⟨{ userSession with catalog := (MemoryCatalog.ofTables [noteTable]).toCatalog },
    .ofList [("text", .text "A")], _, _, rfl, rfl, rfl, rfl, rfl, rfl⟩

end WideColumn.Session
