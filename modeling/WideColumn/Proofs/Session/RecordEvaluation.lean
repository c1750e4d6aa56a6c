import WideColumn.Proofs.Session.PostEvaluation
import WideColumn.Proofs.Session.ReadBack

namespace WideColumn

variable {ρ : Type}

namespace FieldModel

variable {types : TypeRegistry} {blank record : ρ} {f : FieldModel ρ}

theorem Restorable.coerce_coerce (h : f.Restorable types blank record) :
    (f.get record).coerce.coerce = (f.get record).coerce := by
  cases h with
  | plain name t get put hplain hput =>
    have hvalue : ((ofType name t get put).get record).coerce =
        (ofType name t get put).get record := FieldType.coerce_encode hplain _
    rw [hvalue, hvalue]
  | enum name t get put =>
    simp only [ofEnum]
    cases get record <;> rfl
  | typeName name get put =>
    simp only [ofType]
    cases get record <;> rfl

end FieldModel

namespace Materializer

variable {m : Materializer} {table : ColumnTable ρ} {filter : List Predicate} {row : Row}

def testedColumns (naming : Naming) (filter : List Predicate) : List String :=
  (Predicate.leavesOf filter).map fun t => naming.normalize t.field

/-- A row whose tested columns lose nothing in their fields: each is there, not null, and what the
field takes of it and gives back has the same coerced form. -/
structure Preserves (m : Materializer) (table : ColumnTable ρ) (filter : List Predicate)
    (row : Row) : Prop where
  native : row.IsNative m.naming
  takes : m.TakesKey table (testedColumns m.naming filter) row

theorem preserves_of_restorable (hrow : row.IsNative m.naming)
    (h : ∀ column ∈ testedColumns m.naming filter, ∃ f record, table.field? column = some f ∧
      f.Restorable m.types table.model.blank record ∧ (f.get record).isNull = false ∧
      row.get? column = some (f.get record).coerce) : m.Preserves table filter row where
  native := hrow
  takes column hcolumn := by
    obtain ⟨f, record, hf, hrestorable, hnull, hstored⟩ := h column hcolumn
    exact ⟨f, _, _, hf, hstored, readBack_coerce hrestorable hnull _,
      hrestorable.coerce_coerce.symm⟩

def ReadsBack (m : Materializer) (table : ColumnTable ρ) (filter : List Predicate) (row : Row) :
    Prop :=
  Predicate.ReadAlike (.ofRow m.naming row) (.ofRecord m.naming table (m.ofRow table row))
    (Predicate.leavesOf filter)

theorem readsBack_of_preserves (hlaw : table.model.Lawful) (h : m.Preserves table filter row) :
    m.ReadsBack table filter row := by
  intro t ht
  obtain ⟨f, v, u, hf, hv, hu, hsame⟩ :=
    h.takes (m.naming.normalize t.field) (List.mem_map_of_mem ht)
  obtain ⟨hmem, hall⟩ := h.native.onlyValue hv
  have hfield : f.get (m.ofRow table row) = u := by
    rw [ofRow, get_record hlaw hf, filed_eq_some hmem hall hu]
    rfl
  rw [FieldSource.ofRow, FieldSource.ofRecord, hv, hf, Option.map_some, Option.map_some,
    Option.map_some, hfield, hsame]

def recordVerdict (m : Materializer) (table : ColumnTable ρ) (filter : List Predicate)
    (post : PostEvaluation) (row : Row) : Bool :=
  match post with
  | .rawRows => Predicate.accepts (.ofRow m.naming row) filter
  | .materialized => Predicate.accepts (.ofRecord m.naming table (m.ofRow table row)) filter

theorem recordVerdict_agree {rows : List Row}
    (h : (ResultSet.shaped ((rows.filter (m.recordVerdict table filter .rawRows)).map
        (m.ofRow table))) =
      .shaped ((rows.filter (m.recordVerdict table filter .materialized)).map (m.ofRow table))) :
    ∀ row ∈ rows, m.recordVerdict table filter .rawRows row =
      m.recordVerdict table filter .materialized row := by
  have hitems := congrArg ResultSet.items h
  rw [ResultSet.items_shaped, ResultSet.items_shaped] at hitems
  refine agree_of_map_filter_eq (fun row row' hrecord => ?_) hitems
  exact congrArg (fun record => Predicate.accepts (.ofRecord m.naming table record) filter) hrecord

end Materializer

namespace Session

open WideColumn.Action (outcome_bind outcome_bind_of_ok)

variable {ω : Type} {s : Session ω} {model : RecordModel ρ} {q : Query} {params : List Value}
  {plan : SelectPlan} {rows : List Row} {w w' : World ω}

def presentRecords (m : Materializer) (table : ColumnTable ρ) (q : Query) (kept : List Row) :
    List ρ :=
  (Window.apply q.start q.limit kept).map (m.ofRow table)

def tabled (s : Session ω) (model : RecordModel ρ) (w : World ω) : World ω :=
  { w with models := (w.models.table model s.naming).2 }

theorem selected_evaluating {table : ColumnTable ρ} (post : PostEvaluation)
    (hbound : Predicate.IsBound plan.pushdown.residual.filter)
    (hcheck : Predicate.checkFieldsOf s.naming table plan.pushdown.residual.filter = .ok ())
    (rows : List Row) (w : World ω) :
    let m : Materializer := ⟨s.naming, w.types⟩
    (((s.evaluating post).selected table q plan rows).outcome w).1 = .ok (.shaped (presentRecords m
      table q (rows.filter (m.recordVerdict table plan.pushdown.residual.filter post)))) := by
  intro m
  have hmaterializer : (s.evaluating post).materializer.outcome w = (.ok m, w) := rfl
  have hpost : (s.evaluating post).postEvaluation = post := rfl
  have hnaming : (s.evaluating post).naming = s.naming := rfl
  rw [selected, outcome_bind_of_ok hmaterializer]
  cases post with
  | rawRows =>
    simp only [hpost, hnaming, keepMatching_eq hbound, Action.ofExcept_ok, pure_bind]
    rw [presentRecords, ← Materializer.records_eq]
    rfl
  | materialized =>
    obtain ⟨w', -, hkeep⟩ :=
      keepRecords_outcome (s := s.evaluating .materialized) hbound m table rows w
    simp only [hpost, hnaming, hcheck, Action.ofExcept_ok, pure_bind]
    rw [outcome_bind_of_ok hkeep, presentRecords, ← Window.apply_map]
    rfl

theorem select_evaluating (post : PostEvaluation) :
    ((s.evaluating post).select model q params).outcome w =
      (s.runSelect q params >>= fun found => (s.evaluating post).selected
        (w.models.table model s.naming).1 q found.1 found.2).outcome (s.tabled model w) := by
  have htable : (s.table model).outcome w =
      (.ok (w.models.table model s.naming).1, s.tabled model w) := rfl
  have hselect : (s.evaluating post).select model q params = (do
      let table ← s.table model
      let found ← s.runSelect q params
      (s.evaluating post).selected table q found.1 found.2) := rfl
  rw [hselect, outcome_bind_of_ok htable]

/-- Records are the same wherever the filter runs if the verdicts on every row are, and without a
window only then. They are if the records hold what is tested in their rows, as they do where each
field alone gives back what it took, which is so of the values that records of the type write. -/
theorem select_strategies (s : Session ω) (model : RecordModel ρ) (q : Query) (params : List Value)
    (w : World ω) :
    let table := (w.models.table model s.naming).1
    (∀ e w', (s.runSelect q params).outcome (s.tabled model w) = (.error e, w') → ∀ post,
      ((s.evaluating post).select model q params).outcome w = (.error e, w')) ∧
    ∀ plan rows w', (s.runSelect q params).outcome (s.tabled model w) = (.ok (plan, rows), w') →
      let filter := plan.pushdown.residual.filter
      Predicate.checkFieldsOf s.naming table filter = .ok () →
      let m : Materializer := ⟨s.naming, w'.types⟩
      let verdict := m.recordVerdict table filter
      let answer (post : PostEvaluation) := (((s.evaluating post).select model q params).outcome w).1
      (∀ post, answer post =
        .ok (.shaped (presentRecords m table q (rows.filter (verdict post))))) ∧
      ((∀ row ∈ rows, verdict .rawRows row = verdict .materialized row) →
        answer .rawRows = answer .materialized) ∧
      (q.start = none → q.limit = none → answer .rawRows = answer .materialized →
        ∀ row ∈ rows, verdict .rawRows row = verdict .materialized row) ∧
      ((∀ row ∈ rows, m.ReadsBack table filter row) → answer .rawRows = answer .materialized) ∧
      (model.Lawful → ∀ row, m.Preserves table filter row → m.ReadsBack table filter row) ∧
      ∀ row : Row, row.IsNative s.naming →
        (∀ column ∈ Materializer.testedColumns s.naming filter, ∃ f record,
          table.field? column = some f ∧ f.Restorable m.types model.blank record ∧
          (f.get record).isNull = false ∧ row.get? column = some (f.get record).coerce) →
        m.Preserves table filter row := by
  intro table
  have hmodel : table.model = model := ModelRegistry.table_model
  refine ⟨fun e w' h post => ?_, fun plan rows w' h => ?_⟩
  · rw [select_evaluating, outcome_bind, h]
  intro filter hcheck m verdict answer
  have hbound := isBound_of_selectPlan (runSelect_eq_ok h)
  have hanswer (post : PostEvaluation) : answer post =
      .ok (.shaped (presentRecords m table q (rows.filter (verdict post)))) := by
    have hrun : ((s.evaluating post).select model q params).outcome w = _ := select_evaluating post
    rw [outcome_bind_of_ok h] at hrun
    exact (congrArg Prod.fst hrun).trans (selected_evaluating post hbound hcheck rows w')
  have hsame (hverdict : ∀ row ∈ rows, verdict .rawRows row = verdict .materialized row) :
      answer .rawRows = answer .materialized := by
    rw [hanswer, hanswer, List.filter_congr hverdict]
  refine ⟨hanswer, hsame, fun hstart hlimit heq => ?_, fun hrows => ?_, fun hlaw row hrow => ?_,
    fun row hrow h => ?_⟩
  · have hrecords (kept : List Row) : presentRecords m table q kept = kept.map (m.ofRow table) := by
      rw [presentRecords, hstart, hlimit]
      rfl
    rw [hanswer, hanswer, hrecords, hrecords, Except.ok.injEq] at heq
    exact Materializer.recordVerdict_agree heq
  · exact hsame fun row hrow => Predicate.accepts_congr (hrows row hrow)
  · exact Materializer.readsBack_of_preserves (hmodel.symm ▸ hlaw) hrow
  · rw [← hmodel] at h
    exact Materializer.preserves_of_restorable hrow h

def taggedAccounts : Query where
  resource := "account"
  filter := [.test ⟨"level", .compare .eq, .value (.enum ⟨"HIGH", some "Level"⟩)⟩,
    .test ⟨"tags", .within, .value (.list [.text "b"])⟩]

def accountsSession : Session Nat :=
  { accountSession with transport := answering [⟨accountRow⟩] }

theorem select_strategies_account : ∃ plan w',
    (accountsSession.runSelect taggedAccounts []).outcome
        (accountsSession.tabled accountModel { outside := 0, types := accountTypes }) =
        (.ok (plan, [⟨accountRow⟩]), w') ∧
      (((accountsSession.evaluating .rawRows).select accountModel taggedAccounts []).outcome
          { outside := 0, types := accountTypes }).1 =
        (((accountsSession.evaluating .materialized).select accountModel taggedAccounts []).outcome
          { outside := 0, types := accountTypes }).1 ∧
      (((accountsSession.evaluating .rawRows).select accountModel taggedAccounts []).outcome
          { outside := 0, types := accountTypes }).1 = .ok (.single account) := by
  have hrun : ∃ plan w', (accountsSession.runSelect taggedAccounts []).outcome
      (accountsSession.tabled accountModel { outside := 0, types := accountTypes }) =
        (.ok (plan, [⟨accountRow⟩]), w') ∧ w'.types = accountTypes ∧
      plan.pushdown.residual.filter = taggedAccounts.filter := ⟨_, _, rfl, rfl, rfl⟩
  obtain ⟨plan, w', hrun, htypes, hfilter⟩ := hrun
  obtain ⟨-, hstrategies⟩ := select_strategies accountsSession accountModel taggedAccounts []
    { outside := 0, types := accountTypes }
  have hcheck : Predicate.checkFieldsOf .snakeCase (.build accountModel .snakeCase)
      plan.pushdown.residual.filter = .ok () := by
    rw [hfilter]
    rfl
  obtain ⟨-, -, -, hreads, hpreserved, hwritten⟩ := hstrategies plan _ w' hrun hcheck
  refine ⟨plan, w', hrun, hreads fun row hrow =>
    hpreserved (RecordModel.lawful_declare _ _ _) row ?_, rfl⟩
  have hfull : (⟨accountRow⟩ : Row).IsFull .snakeCase ["account_id"] :=
    Row.isFull_of_columns rfl (by decide) rfl
  have hown (column : String) {f : FieldModel (DeclaredRecord accountFields)}
      (hf : (ColumnTable.build accountModel .snakeCase).field? column = some f) :
      f.Restorable w'.types accountModel.blank account := by
    rw [htypes]
    exact restorable_account.fields f (ColumnTable.mem_fields hf)
  rw [List.mem_singleton.mp hrow]
  refine hwritten _ hfull.toIsNative fun column hcolumn => ?_
  rw [hfilter] at hcolumn
  have hcolumn : column ∈ ["level", "tags"] := hcolumn
  rcases List.mem_pair.mp hcolumn with rfl | rfl
  · exact ⟨_, account, rfl, hown "level" rfl, rfl, rfl⟩
  · exact ⟨_, account, rfl, hown "tags" rfl, rfl, rfl⟩

def readingTable : TableSchema :=
  ((bareTable "sensor").withPartitionKey "id" .text).withColumn "at" .timestamp

def readingsAtFive : Query where
  resource := "sensor"
  filter := [.test ⟨"at", .compare .eq, .value (.timestamp 5)⟩]

/-- The record has the timestamp as an integer, and an integer is equal to no timestamp. -/
theorem select_strategies_differ : ∃ s : Session Nat, ∃ record changed w w',
    reading.IsFull s.naming ["id"] ∧ s.transport = answering [reading] ∧
      Predicate.checkFieldsOf s.naming (.build sensorModel s.naming) readingsAtFive.filter =
        .ok () ∧
      (∃ f, (ColumnTable.build sensorModel s.naming).field? "at" = some f ∧
        Materializer.setLifted ⟨s.naming, {}⟩ f (.timestamp 5) sensorModel.blank = .ok changed) ∧
      ((s.evaluating .rawRows).select sensorModel readingsAtFive []).outcome { outside := 0 } =
        (.ok (.single record), w) ∧
      ((s.evaluating .materialized).select sensorModel readingsAtFive []).outcome
        { outside := 0 } = (.ok .empty, w') :=
  ⟨{
    transport := answering [reading]
    catalog := (MemoryCatalog.ofTables [readingTable]).toCatalog
    naming := .identity }, _, _, _, _,
    Row.isFull_of_columns rfl (by decide) rfl, rfl, rfl, ⟨_, rfl, rfl⟩,
    rfl, rfl⟩

end Session

end WideColumn
