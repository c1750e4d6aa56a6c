import WideColumn.Proofs.Record.Restored
import WideColumn.Proofs.Session.BestEffort
import WideColumn.Proofs.Session.Planned

namespace WideColumn

open Outcome

variable {ρ : Type}

namespace Statement

def writtenRow : Statement → List (String × Value)
  | st@(insert _ columns) => (columns.map Prod.fst).zip st.values
  | _ => []

theorem writtenRow_insert (table : String) (columns : List (String × Value)) :
    (insert table columns).writtenRow = columns.map fun e => (e.1, e.2.coerce) := by
  rw [writtenRow, values, operands, List.map_map]
  exact List.zip_map'

variable {catalog : Catalog} {naming : Naming} {resource : String}

theorem insertColumns_eq {es : List (String × Value)}
    (h : ∀ e ∈ es, catalog.columnExists resource (naming.normalize e.1) = .ok true) :
    insertColumns catalog naming resource es =
      .ok ((es.filter fun e => !e.2.isNull).map fun e => (naming.normalize e.1, e.2)) := by
  induction es with
  | nil => rfl
  | cons e es ih =>
    have ih := ih fun d hd => h d (List.mem_cons_of_mem e hd)
    rw [insertColumns, List.filter_cons]
    cases hv : e.2.isNull with
    | true => exact ih
    | false =>
      have hfound := h e List.mem_cons_self
      exact bind_eq_ok.mpr ⟨true, hfound, bind_eq_ok.mpr ⟨_, ih, rfl⟩⟩

theorem buildInsert_record {model : RecordModel ρ} {record : ρ}
    (hdistinct : (ColumnNames.ofModel model naming).columns.Nodup)
    (hcolumns : ∀ f ∈ model.fields,
      catalog.columnExists resource (naming.normalize f.name) = .ok true)
    (hvalue : ∃ f ∈ model.fields, (f.get record).isNull = false) :
    buildInsert resource (.ofList (model.fieldValues record)) catalog naming =
      .ok (.insert resource (model.columnValues naming record)) := by
  have hnames : ((model.fieldValues record).map Prod.fst).Nodup := by
    rw [RecordModel.fieldValues, List.map_map]
    apply List.Nodup.of_map naming.normalize
    rw [List.map_map]
    exact hdistinct
  have hinsert : insertColumns catalog naming resource (model.fieldValues record) =
      .ok (model.columnValues naming record) := by
    rw [insertColumns_eq, RecordModel.fieldValues, List.filter_map, List.map_map]
    · rfl
    · intro e he
      obtain ⟨f, hf, rfl⟩ := List.mem_map.mp he
      exact hcolumns f hf
  have hsome : (model.columnValues naming record).isEmpty = false := by
    obtain ⟨f, hf, hv⟩ := hvalue
    rw [← Bool.not_eq_true'] at hv
    rw [List.isEmpty_eq_false_iff]
    exact List.ne_nil_of_mem (List.mem_map_of_mem (List.mem_filter.mpr ⟨hf, hv⟩))
  rw [buildInsert, NamedValues.entries_ofList hnames, hinsert]
  refine bind_eq_ok.mpr ⟨_, rfl, ?_⟩
  rw [hsome]
  rfl

end Statement

namespace Session

variable {ω : Type} {s : Session ω} {model : RecordModel ρ} {record : ρ} {types : TypeRegistry}
  {w : World ω}

theorem insert_readsBack (hmodel : model.Restorable s.naming types record)
    (hcolumns : ∀ f ∈ model.fields, s.catalog.columnExists
      (w.models.table model s.naming).1.resource (s.naming.normalize f.name) = .ok true)
    (hvalue : ∃ f ∈ model.fields, (f.get record).isNull = false) :
    let st := Statement.insert (w.models.table model s.naming).1.resource
      (model.columnValues s.naming record)
    ((s.insert model record).outcome w).2.statements = w.statements ++ [st] ∧
      ∀ table : ColumnTable ρ, table.IsOf model s.naming →
        let restored := Materializer.record ⟨s.naming, types⟩ table st.writtenRow
        (∀ f ∈ model.fields,
          (∀ e ∈ st.writtenRow, s.naming.normalize e.1 ≠ s.naming.normalize f.name) →
            f.get restored.1 = f.get model.blank) ∧
        ((∀ e ∈ st.writtenRow, s.naming.normalize e.1 = e.1) → restored = (record, [])) := by
  intro st
  let m : Materializer := ⟨s.naming, types⟩
  have hplans := Plans.insert (s := s) (w := w) model record
  rw [Statement.buildInsert_record hmodel.distinct hcolumns hvalue] at hplans
  refine ⟨hplans.sent, fun table htable => ?_⟩
  rw [Statement.writtenRow_insert]
  exact ⟨fun f hf => Materializer.get_record_of_forall_ne (m := m) hmodel htable hf,
    Materializer.record_written (m := m) hmodel htable⟩

def levels : EnumType String where
  model := ⟨"Level", ["LOW", "HIGH"]⟩
  label := id
  ofLabel? label := if label ∈ ["LOW", "HIGH"] then some label else none

def accountFields : List FieldDeclaration :=
  [.plain "accountId" .int64, .plain "tags" (.set .text), .enum "level" levels,
    .plain "handler" (.option .typeName) .typeName, .plain "nickname" (.option .text)]

def accountModel : RecordModel (DeclaredRecord accountFields) :=
  .declare "Account" "account" accountFields

def account : DeclaredRecord accountFields :=
  ((7 : Int64), SortedSet.ofList ["b", "a"], some "HIGH", some (⟨"Handler"⟩ : TypeName), none, ())

def accountTable : TableSchema :=
  (((((bareTable "account").withPartitionKey "account_id" .bigint).withColumn "tags"
    (.set .text)).withColumn "level" .text).withColumn "handler" .text).withColumn "nickname" .text

def accountSession : Session Nat where
  transport := refusingSecond
  catalog := (MemoryCatalog.ofTables [accountTable]).toCatalog
  naming := .snakeCase

def accountTypes : TypeRegistry :=
  ⟨[⟨"Handler"⟩]⟩

theorem restorable_account : accountModel.Restorable .snakeCase accountTypes account :=
  RecordModel.restorable_declare (by decide)
    ⟨.plain _ _ _ rfl, .plain _ _ _ rfl,
      .enum _ _ _ (fun _ _ h => h) (by rintro _ ⟨⟩; rfl) (by rintro _ ⟨⟩; rfl),
      .typeName _ _ (by rintro _ ⟨⟩; exact List.mem_singleton_self _), .plain _ _ _ rfl, trivial⟩

def accountRow : List (String × Value) :=
  [("account_id", .int 7), ("tags", .set [.text "a", .text "b"]), ("level", .text "HIGH"),
    ("handler", .text "Handler")]

theorem insert_readsBack_account : ∃ st,
    ((accountSession.insert accountModel account).outcome { outside := 0 }).2.statements = [st] ∧
      st.writtenRow = accountRow ∧
      Materializer.record ⟨.snakeCase, accountTypes⟩ (.build accountModel .snakeCase) accountRow =
        (account, []) := by
  have hcolumns : ∀ f ∈ accountModel.fields, accountSession.catalog.columnExists
      "account" (accountSession.naming.normalize f.name) = .ok true := by
    have hnames : ∀ name ∈ accountModel.fields.map FieldModel.name,
        accountSession.catalog.columnExists "account" (SnakeCase.normalize name) = .ok true := by
      decide
    exact fun f hf => hnames _ (List.mem_map_of_mem hf)
  have hvalue : ∃ f ∈ accountModel.fields, (f.get account).isNull = false :=
    ⟨_, List.mem_cons_self, rfl⟩
  obtain ⟨hsent, hrestored⟩ := insert_readsBack (s := accountSession) (w := { outside := 0 })
    restorable_account hcolumns hvalue
  have hrow : (Statement.insert "account"
      (accountModel.columnValues .snakeCase account)).writtenRow = accountRow := rfl
  have hown : ∀ e ∈ accountRow, SnakeCase.normalize e.1 = e.1 := by decide
  refine ⟨_, hsent, hrow, ?_⟩
  rw [← hrow]
  exact (hrestored _ ⟨rfl, rfl⟩).2 (hrow ▸ hown)

def sampleFields : List FieldDeclaration :=
  [.plain "inℝ" .bool]

def sampleModel : RecordModel (DeclaredRecord sampleFields) :=
  .declare "Sample" "sample" sampleFields

def sampleSession : Session Nat :=
  { accountSession with
    catalog := (MemoryCatalog.ofTables
      [(bareTable "sample").withPartitionKey "in_ℝ" .boolean]).toCatalog }

/-- Snake case gives the column of `inℝ` another underscore when it comes back, so that the flag is
lost. -/
theorem insert_losesFlag :
    sampleModel.Restorable .snakeCase {} (true, ()) ∧
      (∃ f ∈ sampleModel.fields, (f.get (true, ())).isNull = false) ∧
      (∀ f ∈ sampleModel.fields, sampleSession.catalog.columnExists "sample"
        (sampleSession.naming.normalize f.name) = .ok true) ∧
      ((sampleSession.insert sampleModel (true, ())).outcome { outside := 0 }).2.statements =
        [.insert "sample" [("in_ℝ", .bool true)]] ∧
      Materializer.record ⟨.snakeCase, {}⟩ (.build sampleModel .snakeCase)
        (Statement.insert "sample" [("in_ℝ", .bool true)]).writtenRow = ((false, ()), []) :=
  ⟨RecordModel.restorable_declare (by decide) ⟨.plain _ _ _ rfl, trivial⟩,
    ⟨_, List.mem_cons_self, rfl⟩, List.forall_mem_singleton.mpr rfl, rfl, rfl⟩

end Session

end WideColumn
