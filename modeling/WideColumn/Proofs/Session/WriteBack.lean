import WideColumn.Proofs.Session.OwnKeys
import WideColumn.Proofs.Session.Records
import WideColumn.Proofs.Session.Registry

namespace WideColumn

open Outcome

theorem Change.bound_of_asks {change : Change} {resource : String} {keys : List String}
    {value? : String → Option Value} {assigned : Except CatalogError (List (String × Value))}
    {st : Statement} (h : change.Asks resource keys value? assigned st) :
    ∃ columns, ∃ key : List Value, keys.map value? = key.map some ∧
      st = change.bound resource columns keys key := by
  obtain ⟨-, key, hkey, hst⟩ := h
  cases change with
  | update =>
    obtain ⟨columns, -, -, rfl⟩ := hst
    exact ⟨columns, key, hkey, rfl⟩
  | delete => exact ⟨[], key, hkey, hst⟩

def ColumnTable.value? {ρ : Type} (t : ColumnTable ρ) (record : ρ) (column : String) :
    Option Value :=
  (t.field? column).map fun f => f.get record

namespace Materializer

variable {ρ : Type} {m : Materializer} {table : ColumnTable ρ} {column : String}

def held (m : Materializer) (table : ColumnTable ρ) (columns : List (String × Value))
    (column : String) : Option Value :=
  (table.field? column).map fun f =>
    (m.filed f table.model.blank column columns).getD (f.get table.model.blank)

theorem value?_ofRow (hlaw : table.model.Lawful) (row : Row) :
    table.value? (m.ofRow table row) column = m.held table row.columns column := by
  rw [held, ColumnTable.value?]
  cases hf : table.field? column with
  | none => rfl
  | some f => exact congrArg some (get_record hlaw hf row.columns)

def TakesKey (m : Materializer) (table : ColumnTable ρ) (keys : List String) (row : Row) : Prop :=
  ∀ column ∈ keys, ∃ f v u, table.field? column = some f ∧ row.get? column = some v ∧
    m.readBack f v table.model.blank = some u ∧ u.coerce = v.coerce

end Materializer

def Projection.AnswersKeys (naming : Naming) (keys : List String) (projection : Projection) :
    Prop :=
  ∀ fields, projection = .native fields → projection.KeepsKeys naming keys

def OnlyValue (naming : Naming) (columns : List (String × Value)) (column : String) (v : Value) :
    Prop :=
  (∃ e ∈ columns, naming.normalize e.1 = column) ∧
    ∀ e ∈ columns, naming.normalize e.1 = column → e.2 = v

section Answers

variable {naming : Naming} {row : Row} {projection : Projection} {keys : List String}
  {column : String} {v : Value}

theorem Row.Spells.onlyValue (h : row.Spells naming column) (hv : row.get? column = some v) :
    OnlyValue naming row.columns column v := by
  obtain ⟨before, after, hcolumns, -⟩ := List.lookup_eq_some_iff.mp hv
  have hmem : (column, v) ∈ row.columns := hcolumns ▸ by simp
  refine ⟨⟨_, hmem, (h.own _ hmem).mpr rfl⟩, fun e he hcolumn => ?_⟩
  exact h.single e he _ hmem ((h.own e he).mp hcolumn) rfl

theorem Row.IsNative.onlyValue (h : row.IsNative naming) (hv : row.get? column = some v) :
    OnlyValue naming row.columns column v :=
  (h.spells column).onlyValue hv

theorem Row.IsNative.onlyValue_answer (h : row.IsNative naming)
    (hkeys : projection.AnswersKeys naming keys) (hcolumn : column ∈ keys)
    (hv : row.get? column = some v) :
    OnlyValue naming (row.answer (SelectPlan.selectItems naming projection)).columns column v := by
  cases projection with
  | all => exact h.onlyValue hv
  | deferred fields => exact h.onlyValue hv
  | native fields =>
    obtain ⟨⟨f, hf, hname⟩, hown⟩ := hkeys fields rfl column hcolumn
    have hvalue : row.get? (naming.normalize f.name) = some v := by rw [hown f hf hname, hv]
    constructor
    · let item := SelectPlan.selectItem naming f
      have hanswered : (row.get? item.column).map (fun v => (item.asName.getD item.column, v)) =
          some (item.asName.getD item.column, v) := congrArg (Option.map _) hvalue
      exact ⟨_, List.mem_filterMap.mpr ⟨item, List.mem_map_of_mem hf, hanswered⟩, hname⟩
    · intro e he hcolumn
      obtain ⟨_, hitem, he⟩ := List.mem_filterMap.mp he
      obtain ⟨g, hg, rfl⟩ := List.mem_map.mp hitem
      obtain ⟨u, hu, rfl⟩ := Option.map_eq_some_iff.mp he
      rw [SelectPlan.selectItem, hown g hg hcolumn, hv] at hu
      exact (Option.some.inj hu).symm

end Answers

namespace Session

variable {ω α : Type} {s : Session ω} {change : Change} {subject : Subject α}
  {values : NamedValues} {o : Opening} {item : α}

theorem itemStatement_key (s : Session ω) (change : Change) (subject : Subject α)
    (values : NamedValues) (o : Opening) (item : α) :
    (∃ column ∈ o.keys, subject.keyValue? item column = none ∧
      s.itemStatement change subject values o item =
        .error (SessionError.keyMissing subject.resource column).toError) ∨
    ∃ key : List Value, o.keys.map (subject.keyValue? item) = key.map some ∧
      ∀ st, s.itemStatement change subject values o item = .ok st →
        ∃ columns, st = change.bound subject.resource columns o.keys key := by
  cases hkeys : itemKeys subject item o.keys with
  | error e =>
    obtain ⟨column, hcolumn, hnone, rfl⟩ := keyValues_eq_error hkeys
    refine .inl ⟨column, hcolumn, hnone, ?_⟩
    rw [itemStatement, hkeys]
    rfl
  | ok key =>
    have hkey := keyValues_eq_ok.mp hkeys
    refine .inr ⟨key, hkey, fun st hst => ?_⟩
    obtain ⟨columns, key', hkey', rfl⟩ := Change.bound_of_asks (Change.statement_eq_ok.mp hst)
    have hsame : key = key' :=
      List.map_injective_iff.mpr (Option.some_injective _) (hkey.symm.trans hkey')
    exact ⟨columns, by rw [hsame]⟩

variable {ρ : Type} {model : RecordModel ρ} {q : Query} {params : List Value} {plan : SelectPlan}
  {stored : List Row} {w w' : World ω} {found : ResultSet ρ} {outside : ω} {row : Row}

/-- What becomes of a record of a row: a key value is missing, or the statement is bound to what the
record holds in its key fields, and then to the key of the row where that is `own`. -/
def WritesBack (statement : Except Error Statement) (change : Change) (resource : String)
    (keys : List String) (held : String → Option Value) (row : Row) (own : Prop) : Prop :=
  (∃ column ∈ keys, Subject.nonNull (held column) = none ∧
    statement = .error (SessionError.keyMissing resource column).toError) ∨
  ∃ key : List Value, keys.map held = key.map some ∧
    (∀ st, statement = .ok st → ∃ columns, st = change.bound resource columns keys key) ∧
    (own → (keys.map fun column => (row.get? column).map Value.coerce) =
      key.map fun v => some v.coerce)

theorem itemStatement_writesBack {table : ColumnTable ρ} {m m' : Materializer} {answered : Row}
    {own : Prop}
    (hown : own → table.model.Lawful ∧ m.TakesKey table o.keys row ∧ ∀ column ∈ o.keys, ∀ v,
      row.get? column = some v → OnlyValue m.naming answered.columns column v) :
    WritesBack (s.itemStatement change (.typed table m') values o (m.ofRow table answered)) change
      table.resource o.keys (table.value? (m.ofRow table answered)) row own := by
  have hvalue (column : String) :
      (Subject.typed table m').keyValue? (m.ofRow table answered) column =
        Subject.nonNull (table.value? (m.ofRow table answered) column) := rfl
  obtain ⟨column, hcolumn, hnone, hstatement⟩ | ⟨key, hkey, hstatement⟩ :=
    itemStatement_key s change (.typed table m') values o (m.ofRow table answered)
  · exact .inl ⟨column, hcolumn, hnone, hstatement⟩
  · have hheld : o.keys.map (table.value? (m.ofRow table answered)) = key.map some := by
      rw [← hkey]
      apply List.map_congr_left
      intro column hcolumn
      have hsome := exists_map_eq_some.mp ⟨key, hkey⟩ column hcolumn
      obtain ⟨v, hv⟩ := Option.isSome_iff_exists.mp hsome
      rw [hv]
      exact (Option.filter_eq_some_iff.mp ((hvalue column).symm.trans hv)).1
    refine .inr ⟨key, hheld, hstatement, fun h => ?_⟩
    obtain ⟨hlaw, htakes, honly⟩ := hown h
    refine Eq.trans (List.map_congr_left fun column hcolumn => ?_) (map_coerce hheld)
    obtain ⟨f, v, u, hf, hv, hu, hsame⟩ := htakes column hcolumn
    obtain ⟨hmem, hall⟩ := honly column hcolumn v hv
    have hfield : table.value? (m.ofRow table answered) column = some u := by
      rw [Materializer.value?_ofRow hlaw, Materializer.held, hf, Option.map_some,
        Materializer.filed_eq_some hmem hall hu]
      rfl
    rw [hfield, hv, Option.map_some, Option.map_some, hsame]

theorem select_writesBack (hplan : s.selectPlan q params = .ok plan)
    (hstored : ∀ row ∈ stored, row.IsNative s.naming)
    (hanswer : s.transport.execute plan.statement w.outside = (.ok (stored.map fun row =>
      row.answer (SelectPlan.selectItems s.naming plan.projection)), outside))
    (hselect : (s.select model q params).outcome w = (.ok found, w')) :
    let table := (w.models.table model s.naming).1
    let m : Materializer := ⟨s.naming, w.types⟩
    let answered (row : Row) := row.answer (SelectPlan.selectItems s.naming plan.projection)
    ∃ kept : List Row, kept.Sublist stored ∧
      found.items = kept.map (fun row => m.ofRow table (answered row)) ∧
      ∀ row ∈ kept, ∀ (s' : Session ω) change mutation args u, Later w' u →
        m.ofRow table (answered row) ∈ mutation.items →
        (∀ e u', (s'.changeRecords change model mutation args).outcome u = (.error e, u') →
          u'.statements = u.statements) ∧
        ∀ r u', (s'.changeRecords change model mutation args).outcome u = (.ok r, u') →
        ∃ o w₁, s'.Opens change table.resource mutation.values o ∧
          w₁.statements = u.statements ∧
          s'.ItemsAnswer change (.typed table ⟨s'.naming, u.types⟩) mutation o w₁ u' r ∧
          WritesBack
            (s'.itemStatement change (.typed table ⟨s'.naming, u.types⟩) mutation.values o
              (m.ofRow table (answered row)))
            change table.resource o.keys (table.value? (m.ofRow table (answered row))) row
            (model.Lawful ∧ plan.projection.AnswersKeys s.naming o.keys ∧
              m.TakesKey table o.keys row) ∧
          (model.Lawful → ∀ column, table.value? (m.ofRow table (answered row)) column =
            m.held table (answered row).columns column) := by
  intro table m answered
  obtain ⟨hmodels, rows, hsublist, hfound⟩ := select_outcome hplan hanswer hselect
  obtain ⟨kept, hkept, rfl⟩ := List.sublist_map_iff.mp hsublist
  refine ⟨kept, hkept, by rw [hfound, List.map_map]; rfl, ?_⟩
  intro row hrow s' change mutation args u hlater hmem
  have hitems := List.ne_nil_of_mem hmem
  have henters : s'.Enters change args u mutation
      (s'.changeRecords change model mutation args) _ _ := .records model mutation
  refine ⟨fun e u' hcall => henters.unsent hitems hcall, fun r u' hcall => ?_⟩
  have hnative := hstored row (hkept.subset hrow)
  have hlawful (hlaw : model.Lawful) : table.model.Lawful :=
    ModelRegistry.table_model (r := w.models) ▸ hlaw
  -- the registry forgets nothing, so the later call has the table of the select
  have hsame : (u.models.table model s'.naming).1 = table :=
    ModelRegistry.table_of_extends (hmodels ▸ hlater.extends)
  obtain ⟨o, w₁, ho, htried⟩ := henters.itemsTried hitems hcall
  have hopens := opens_of_opening ho
  have hanswer := htried.answer
  rw [hsame] at hopens hanswer
  refine ⟨o, w₁, hopens, (henters.opened ho).1, hanswer, itemStatement_writesBack ?_,
    fun hlaw column => Materializer.value?_ofRow (hlawful hlaw) _⟩
  rintro ⟨hlaw, hkeys, htakes⟩
  exact ⟨hlawful hlaw, htakes,
    fun column hcolumn v hv => hnative.onlyValue_answer hkeys hcolumn hv⟩

def idsOnly : Query where
  resource := "user"
  fields := [⟨"id", none⟩]

def firstUser : Row := ⟨[("id", .int 1), ("name", .text "A")]⟩

def idSession : Session Nat :=
  { userSession with transport := answering [⟨[("id", .int 1)]⟩] }

theorem select_writesBack_firstUser : ∃ found w' record r u',
    (idSession.select userModel idsOnly []).outcome { outside := 0 } = (.ok found, w') ∧
      found.items = [record] ∧
      (idSession.changeRecords .delete userModel { items := [record] } []).outcome w' =
        (.ok r, u') ∧
      u'.statements = w'.statements ++ [.delete "user" [("id", .int 1)]] ∧
      Change.delete.Addresses "user" [] ["id"] firstUser (.delete "user" [("id", .int 1)]) := by
  refine ⟨_, _, _, _, _, rfl, rfl, rfl, rfl, ?_⟩
  have hstored : ∀ row ∈ [firstUser], row.IsNative .identity := by
    intro row hrow
    have hfull : firstUser.IsFull .identity ["id"] := Row.isFull_of_columns rfl (by decide) rfl
    rw [List.mem_singleton.mp hrow]
    exact hfull.toIsNative
  have hplan : ∃ plan, idSession.selectPlan idsOnly [] = .ok plan ∧
      plan.projection = .native idsOnly.fields := ⟨_, rfl, rfl⟩
  obtain ⟨plan, hplan, hprojection⟩ := hplan
  have hanswer : idSession.transport.execute plan.statement 0 = (.ok ([firstUser].map fun row =>
      row.answer (SelectPlan.selectItems .identity plan.projection)), 1) := by
    rw [hprojection]
    rfl
  have hselected {found : ResultSet _} {w' : World Nat}
      (hselect : (idSession.select userModel idsOnly []).outcome { outside := 0 } =
        (.ok found, w')) :=
    select_writesBack hplan hstored hanswer hselect
  obtain ⟨kept, hkept, hfound, hlater⟩ := hselected rfl
  have hlength : 1 = kept.length := (congrArg List.length hfound).trans (List.length_map _)
  have hrow : firstUser ∈ kept := by
    rw [hkept.eq_of_length hlength.symm]
    exact List.mem_singleton_self firstUser
  have hkeys : idSession.catalog.rowKeys "user" = .ok ["id"] := rfl
  obtain ⟨-, hanswers⟩ := hlater firstUser hrow idSession .delete { items := [_] } [] _ (.refl _)
    List.mem_cons_self
  obtain ⟨⟨keys, shared⟩, w₁, hopens, -, -, hwrites, -⟩ := hanswers _ _ rfl
  obtain rfl : keys = ["id"] := Except.ok.inj (hopens.keys.symm.trans hkeys)
  rw [hprojection] at hwrites
  obtain ⟨column, hcolumn, hnone, -⟩ | ⟨key, -, hstatement, hown⟩ := hwrites
  · rw [List.mem_singleton.mp hcolumn] at hnone
    contradiction
  · have hkeeps : (Projection.native idsOnly.fields).KeepsKeys .identity ["id"] := by decide
    obtain ⟨columns, hbound⟩ := hstatement _ rfl
    refine ⟨key, hown ⟨RecordModel.lawful_declare _ _ _, fun _ _ => hkeeps, ?_⟩, hbound⟩
    intro column hcolumn
    rw [List.mem_singleton.mp hcolumn]
    exact ⟨_, .int 1, .int 1, rfl, rfl, rfl, rfl⟩

def sensorTable : TableSchema :=
  ((bareTable "sensor").withPartitionKey "id" .text).withClusteringKey "at" .timestamp

def sensorModel : RecordModel (DeclaredRecord [.plain "id" .text, .plain "at" .int64]) :=
  .declare "Sensor" "sensor" _

def reading : Row := ⟨[("id", .text "a"), ("at", .timestamp 5)]⟩

/-- The partition key is not asked for, and the timestamp is an integer in the record: another row
is deleted. -/
theorem select_loses_key : ∃ s : Session Nat, ∃ q plan found w' record r u',
    reading.IsFull s.naming ["id", "at"] ∧ s.catalog.rowKeys "sensor" = .ok ["id", "at"] ∧
      s.selectPlan q [] = .ok plan ∧
      s.transport.execute plan.statement 0 =
        (.ok [reading.answer (SelectPlan.selectItems s.naming plan.projection)], 1) ∧
      (s.select sensorModel q []).outcome { outside := 0 } = (.ok found, w') ∧
      found.items = [record] ∧
      (s.changeRecords .delete sensorModel { items := [record] } []).outcome w' = (.ok r, u') ∧
      u'.statements =
        w'.statements ++ [.delete "sensor" [("id", .text ""), ("at", .int 5)]] ∧
      ¬ Change.delete.Addresses "sensor" [] ["id", "at"] reading
        (.delete "sensor" [("id", .text ""), ("at", .int 5)]) := by
  refine ⟨{
    transport := answering [⟨[("at", .timestamp 5)]⟩]
    catalog := (MemoryCatalog.ofTables [sensorTable]).toCatalog
    naming := .identity }, { resource := "sensor", fields := [⟨"at", none⟩] }, _, _, _, _, _, _,
    Row.isFull_of_columns rfl (by decide) rfl, rfl, rfl, rfl, rfl, rfl, rfl, rfl,
    fun h => absurd (Value.text.inj (Option.some.inj h.first)) (by decide)⟩

end Session

end WideColumn
