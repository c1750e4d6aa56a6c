import WideColumn.Proofs.Record.Restored
import WideColumn.Proofs.Session.Updated

/-!
Modes of an update. Given the record of a row, an update answers it with the set columns assigned;
given a query that finds the row, it answers a record made anew. They are the same record unless a
field that is set to null, or to a value that it refuses, was not blank before.
-/

namespace WideColumn

variable {ω ρ α : Type}

namespace Materializer

def ReadsKey (m : Materializer) (table : ColumnTable ρ) (keys : List String) (row : Row) : Prop :=
  ∀ column ∈ keys, ∃ f v u, table.field? column = some f ∧ row.get? column = some v ∧
    m.readBack f v table.model.blank = some u ∧ u.isNull = false

variable {m : Materializer} {table : ColumnTable ρ} {keys : List String} {row : Row}

theorem isNull_of_readBack {f : FieldModel ρ} {v u : Value} {record : ρ}
    (h : m.readBack f v record = some u) : v.isNull = false := by
  rw [readBack] at h
  split at h
  · contradiction
  · next hv => exact eq_false_of_ne_true hv

theorem ReadsKey.isKeyed (h : m.ReadsKey table keys row) (hrow : row.IsNative m.naming) :
    Session.IsKeyed keys (.ofRow m.naming row) := by
  intro column hcolumn
  obtain ⟨f, v, u, -, hv, hu, -⟩ := h column hcolumn
  rw [hrow.get?_ofRow, hv, Subject.nonNull, Option.filter_some, isNull_of_readBack hu]
  rfl

theorem ReadsKey.keyValue_isSome (h : m.ReadsKey table keys row) (hrow : row.IsNative m.naming)
    (hlaw : table.model.Lawful) {column : String} (hcolumn : column ∈ keys) :
    ((Subject.typed table m).keyValue? (m.ofRow table row) column).isSome = true := by
  obtain ⟨f, v, u, hf, hv, hu, hnull⟩ := h column hcolumn
  have hheld : table.value? (m.ofRow table row) column = some u := by
    rw [value?_ofRow hlaw, held, hf, Option.map_some, filed_row hrow, hv, Option.bind_some, hu]
    rfl
  have hvalue : (Subject.typed table m).keyValue? (m.ofRow table row) column =
      Subject.nonNull (table.value? (m.ofRow table row) column) := rfl
  rw [hvalue, hheld, Subject.nonNull, Option.filter_some, hnull]
  rfl

end Materializer

namespace Session

variable {s : Session ω} {params : List Value} {o : Opening} {w w₀ w₁ w₂ : World ω}
  {q : Query} {plan : SelectPlan} {row : Row} {outside : ω}

section Single

variable {change : Change} {subject : Subject α} {mutation : Mutation α}
  {call : Action ω (ResultSet α)} {st : Statement} {rows : List Row}

theorem Enters.answers_item (h : s.Enters change params w mutation call subject w₀) {item : α}
    (hitems : mutation.items = [item])
    (ho : (s.opening change subject.resource mutation.values).outcome w₀ = (.ok o, w₁))
    (hst : s.itemStatement change subject mutation.values o item = .ok st)
    (haccepted : s.transport.execute st w₁.outside = (.ok rows, outside)) :
    ∃ w', call.outcome w =
      (.ok (subject.finish [(itemResult change subject mutation.values o item).1]), w') := by
  have hne : mutation.items ≠ [] := hitems ▸ List.cons_ne_nil item []
  have hscope : mutation.hasScope = true := by simp [Mutation.hasScope, hitems]
  rw [h.outcome hscope, runChange_items hne, Action.outcome_bind_of_ok ho, Action.outcome_state,
    changeItems, hitems, bestEffort_cons, hst, attempt_accepted haccepted]
  exact ⟨_, rfl⟩

theorem Enters.answers_row (h : s.Enters change params w mutation call subject w₀)
    {map : RowMap} (hitems : mutation.items = []) (hquery : mutation.query = some q)
    (hvalues : change = .update → mutation.values.isEmpty = false)
    (ho : (s.opening change subject.resource mutation.values).outcome w₀ = (.ok o, w₁))
    (hfetch : (s.fetchMaps q params).outcome w₁ = (.ok [map], w₂))
    (hst : rowStatement change subject.resource o map = .ok st)
    (haccepted : s.transport.execute st w₂.outside = (.ok rows, outside)) :
    ∃ w', call.outcome w = (.ok (subject.finish [(rowResult change subject o map).1]), w') := by
  rw [h.outcome (hasScope_of_query hquery), runChange_query hitems hquery hvalues,
    Action.outcome_bind_of_ok ho, Action.outcome_bind_of_ok hfetch, Action.outcome_state,
    changeFetched, bestEffort_cons, hst, attempt_accepted haccepted]
  exact ⟨_, rfl⟩

end Single

def Accepts (s : Session ω) (outside : ω) (statement : Except Error Statement) : Prop :=
  ∀ st, statement = .ok st → ∃ rows outside', s.transport.execute st outside = (.ok rows, outside')

theorem fetchMaps_row (hplan : s.selectPlan q params = .ok plan) (hfields : q.fields = [])
    (hrow : row.IsNative s.naming) (hkept : s.keptRows q plan [row] = [row])
    (hanswer : s.transport.execute plan.statement w.outside = (.ok [row], outside)) :
    ∃ w', (s.fetchMaps q params).outcome w = (.ok [.ofRow s.naming row], w') ∧
      w'.outside = outside := by
  have hprojection : plan.projection = .all := by
    obtain ⟨_, pushdown, -, -, hprojection, -⟩ := selectPlan_eq_ok hplan
    rw [hprojection, hfields]
    rfl
  have hstored : ∀ row' ∈ [row], row'.IsNative s.naming := List.forall_mem_singleton.mpr hrow
  have hfetch := fetchMaps_native (o := outside) hplan hstored
    (by rw [hanswer, hprojection]; rfl)
  rw [hkept, hprojection] at hfetch
  exact ⟨_, hfetch, rfl⟩

variable {model : RecordModel ρ} {table : ColumnTable ρ} {m : Materializer} {mutation : Mutation ρ}
  {call : Action ω (ResultSet ρ)} {values : NamedValues}

theorem update_item (hlaw : table.model.Lawful) (hrow : row.IsNative m.naming)
    (h : s.Enters .update params w mutation call (.typed table m) w₀)
    (hitems : mutation.items = [m.ofRow table row]) (hvalues : mutation.values.isEmpty = false)
    (ho : (s.opening .update table.resource mutation.values).outcome w₀ = (.ok o, w₁))
    (hkey : m.ReadsKey table o.keys row)
    (haccepts : s.Accepts w₁.outside
      (s.itemStatement .update (.typed table m) mutation.values o (m.ofRow table row))) :
    ∃ w', call.outcome w = (.ok (.collection [m.assigned table row o.shared]), w') := by
  have hopens : s.Opens .update (Subject.typed table m).resource mutation.values o :=
    opens_of_opening ho
  have hchangeable : s.Changeable .update (.typed table m) mutation.values o (m.ofRow table row) :=
    { keyed := hopens.keyed (.inr hvalues)
      key := fun _ hcolumn => hkey.keyValue_isSome hrow hlaw hcolumn
      derived := fun _ hempty => absurd (hvalues.symm.trans hempty) Bool.false_ne_true }
  obtain ⟨st, hst⟩ := (itemStatement_isOk hopens _).mpr hchangeable
  obtain ⟨rows, outside, haccepted⟩ := haccepts st hst
  obtain ⟨w', hcall⟩ := h.answers_item hitems ho hst haccepted
  rw [itemResult, hvalues] at hcall
  exact ⟨w', hcall⟩

theorem update_row (hrow : row.IsNative m.naming)
    (h : s.Enters .update params w mutation call (.typed table m) w₀) (hitems : mutation.items = [])
    (hquery : mutation.query = some q) (hvalues : mutation.values.isEmpty = false)
    (ho : (s.opening .update table.resource mutation.values).outcome w₀ = (.ok o, w₁))
    (hkey : m.ReadsKey table o.keys row)
    (hfetch : (s.fetchMaps q params).outcome w₁ = (.ok [.ofRow m.naming row], w₂))
    (haccepts : s.Accepts w₂.outside
      (rowStatement .update table.resource o (.ofRow m.naming row))) :
    ∃ w', call.outcome w = (.ok (.collection [m.remade table row o.shared]), w') := by
  have hopens : s.Opens .update (Subject.typed table m).resource mutation.values o :=
    opens_of_opening ho
  obtain ⟨st, hst⟩ := (rowStatement_isOk hopens (fun _ => hvalues) _).mpr (hkey.isKeyed hrow)
  obtain ⟨rows, outside, haccepted⟩ := haccepts st hst
  exact h.answers_row hitems hquery (fun _ => hvalues) ho hfetch hst haccepted

theorem enters_records (htable : (s.table model).outcome w = (.ok table, w₀))
    (hm : s.materializer.outcome w₀ = (.ok m, w₀)) (change : Change) (mutation : Mutation ρ) :
    s.Enters change params w mutation (s.changeRecords change model mutation params)
      (.typed table m) w₀ := by
  cases htable
  cases hm
  exact .records model mutation

/-- Both updates answer one record. It holds what was written wherever the field takes it, and the
two are the same if and only if the assigned record is blank wherever a field does not. -/
theorem updates_agree_iff (hlaw : model.Lawful)
    (hdistinct : (ColumnNames.ofModel model s.naming).columns.Nodup)
    (htable : (s.table model).outcome w = (.ok table, w₀)) (hnames : table.IsOf model s.naming)
    (hm : s.materializer.outcome w₀ = (.ok m, w₀))
    (ho : (s.opening .update table.resource values).outcome w₀ = (.ok o, w₁))
    (hvalues : values.isEmpty = false) (hcolumns : ∀ e ∈ o.shared, s.naming.normalize e.1 = e.1)
    (hplan : s.selectPlan q params = .ok plan) (hfields : q.fields = [])
    (hrow : row.IsNative s.naming) (hkey : m.ReadsKey table o.keys row)
    (hkept : s.keptRows q plan [row] = [row])
    (hanswer : s.transport.execute plan.statement w₁.outside = (.ok [row], outside))
    (hitem : s.Accepts w₁.outside
      (s.itemStatement .update (.typed table m) values o (m.ofRow table row)))
    (hfetched : s.Accepts outside (rowStatement .update table.resource o (.ofRow s.naming row))) :
    let assigned := m.assigned table row o.shared
    let remade := m.remade table row o.shared
    let column (f : FieldModel ρ) := s.naming.normalize f.name
    (∃ w', (s.changeRecords .update model { items := [m.ofRow table row], values } params).outcome
      w = (.ok (.collection [assigned]), w')) ∧
    (∃ w', (s.changeRecords .update model { query := some q, values } params).outcome
      w = (.ok (.collection [remade]), w')) ∧
    (∀ f ∈ model.fields, ∀ v, row.updated o.shared (column f) = some v →
      f.get remade = (m.readBack f v model.blank).getD (f.get model.blank) ∧
      ∀ u, m.readBack f v model.blank = some u → f.get assigned = u) ∧
    (∀ f ∈ model.fields, f.get assigned = f.get remade ↔
      m.Clears table o.shared (column f) f assigned) ∧
    ((∀ r r', (∀ f ∈ model.fields, f.get r = f.get r') → r = r') →
      (assigned = remade ↔ ∀ f ∈ model.fields, m.Clears table o.shared (column f) f assigned)) := by
  intro assigned remade column
  -- both calls work on one subject and open alike, before the first row
  have henters (mutation : Mutation ρ) :
      s.Enters .update params w mutation (s.changeRecords .update model mutation params)
        (.typed table m) w₀ := enters_records htable hm .update mutation
  obtain rfl : ⟨s.naming, w₀.types⟩ = m := by
    cases hm
    rfl
  have hnative : row.IsNative (Materializer.mk s.naming w₀.types).naming := hrow
  have htablelaw : table.model.Lawful := hnames.model_eq ▸ hlaw
  have hfield {f : FieldModel ρ} (hf : f ∈ model.fields) : table.field? (column f) = some f :=
    hnames.field?_eq hdistinct hf
  have hagree (f : FieldModel ρ) (hf : f ∈ model.fields) :=
    Materializer.get_assigned_eq_iff hnative hcolumns htablelaw (hfield hf)
  obtain ⟨w₂, hfetch, rfl⟩ := fetchMaps_row hplan hfields hrow hkept hanswer
  refine ⟨?_, ?_, fun f hf v hv => ?_, hagree, fun hdetermined => ?_⟩
  · exact update_item htablelaw hnative (henters _) rfl hvalues ho hkey hitem
  · exact update_row hnative (henters _) rfl rfl hvalues ho hkey hfetch hfetched
  · rw [← hnames.model_eq]
    constructor
    · rw [Materializer.get_remade hnative hcolumns htablelaw (hfield hf), hv, Option.bind_some]
    · intro u hu
      exact Materializer.get_assigned_of_readBack hnative hcolumns htablelaw (hfield hf) hv hu
  · constructor
    · intro hsame f hf
      exact (hagree f hf).mp (congrArg f.get hsame)
    · intro hclears
      exact hdetermined _ _ fun f hf => (hagree f hf).mpr (hclears f hf)

def updatingSession : Session Nat :=
  { userSession with transport := answering [firstUser] }

def everyUser : Query :=
  { resource := "user" }

def nameSet (name : Value) : NamedValues :=
  .ofList [("name", name)]

def recordNamed (name : Value) :
    Mutation (DeclaredRecord [.plain "id" .int64, .plain "name" .text]) :=
  { items := [((1 : Int64), "A", ())], values := nameSet name }

def rowNamed (name : Value) :
    Mutation (DeclaredRecord [.plain "id" .int64, .plain "name" .text]) :=
  { query := some everyUser, values := nameSet name }

theorem updates_agree_iff_renamed : ∃ record w' w'', record = ((1 : Int64), "B", ()) ∧
    (updatingSession.changeRecords .update userModel (recordNamed (.text "B")) []).outcome
      { outside := 0 } = (.ok (.collection [record]), w') ∧
    (updatingSession.changeRecords .update userModel (rowNamed (.text "B")) []).outcome
      { outside := 0 } = (.ok (.collection [record]), w'') := by
  let table := ColumnTable.build userModel .identity
  let shared := [("name", Value.text "B")]
  have hfull : firstUser.IsFull .identity ["id"] := Row.isFull_of_columns rfl (by decide) rfl
  have hkey : Materializer.ReadsKey ⟨.identity, {}⟩ table ["id"] firstUser := by
    intro column hcolumn
    rw [List.mem_singleton.mp hcolumn]
    exact ⟨_, .int 1, .int 1, rfl, rfl, rfl, rfl⟩
  have hmodel : userModel.Restorable .identity {} ((1 : Int64), "B", ()) :=
    RecordModel.restorable_declare (by decide) ⟨.plain _ _ _ rfl, .plain _ _ _ rfl, trivial⟩
  have hplan : ∃ plan, updatingSession.selectPlan everyUser [] = .ok plan ∧
      updatingSession.keptRows everyUser plan [firstUser] = [firstUser] := ⟨_, rfl, rfl⟩
  obtain ⟨plan, hplan, hkept⟩ := hplan
  have hopening : ∃ w₁ : World Nat,
      (updatingSession.opening .update "user" (nameSet (.text "B"))).outcome
        { outside := 0, models := (ModelRegistry.table {} userModel .identity).2 } =
          (.ok ⟨["id"], shared⟩, w₁) ∧ w₁.outside = 0 := ⟨_, rfl, rfl⟩
  obtain ⟨w₁, ho, houtside⟩ := hopening
  have hanswer : updatingSession.transport.execute plan.statement w₁.outside =
      (.ok [firstUser], 1) := by
    rw [houtside]
    rfl
  obtain ⟨⟨w', hitem⟩, ⟨w'', hrow⟩, -, -, hsame⟩ :=
    updates_agree_iff (w := { outside := 0 }) hmodel.lawful hmodel.distinct rfl ⟨rfl, rfl⟩ rfl ho
      rfl (by decide) hplan rfl hfull.toIsNative hkey hkept hanswer
      (fun _ _ => ⟨_, _, rfl⟩) fun _ _ => ⟨_, _, rfl⟩
  have hclears : ∀ f ∈ userModel.fields, Materializer.Clears ⟨.identity, {}⟩ table shared f.name f
      (Materializer.assigned ⟨.identity, {}⟩ table firstUser shared) := by
    intro f hf v hset hnone
    rcases List.mem_cons.mp hf with rfl | hf
    · contradiction
    · rw [List.mem_singleton.mp hf] at hset hnone
      cases hset
      contradiction
  rw [← (hsame hmodel.determined).mpr hclears] at hrow
  exact ⟨_, w', w'', rfl, hitem, hrow⟩

/-- A name that is set to null stays in the record given, though it is gone from the store and from
a record made anew. -/
theorem updates_differ : ∃ plan w' w'',
    firstUser.IsNative .identity ∧
      (recordNamed .null).items =
        [Materializer.ofRow ⟨.identity, {}⟩ (.build userModel .identity) firstUser] ∧
      updatingSession.selectPlan everyUser [] = .ok plan ∧
      updatingSession.transport.execute plan.statement 0 = (.ok [firstUser], 1) ∧
      (updatingSession.changeRecords .update userModel (recordNamed .null) []).outcome
        { outside := 0 } = (.ok (.collection [((1 : Int64), "A", ())]), w') ∧
      (updatingSession.changeRecords .update userModel (rowNamed .null) []).outcome
        { outside := 0 } = (.ok (.collection [((1 : Int64), "", ())]), w'') ∧
      w'.statements = [.update "user" [("name", .null)] [("id", .int 1)]] ∧
      w''.statements = plan.statement :: w'.statements := by
  have hfull : firstUser.IsFull .identity ["id"] := Row.isFull_of_columns rfl (by decide) rfl
  exact ⟨_, _, _, hfull.toIsNative, rfl, rfl, rfl, rfl, rfl, rfl, rfl⟩

end Session

end WideColumn
