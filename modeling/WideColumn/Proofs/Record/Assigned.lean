import WideColumn.Proofs.Record.Materialized

namespace WideColumn

open Outcome

variable {ρ : Type}

namespace Materializer

section Definitions

variable (m : Materializer) (table : ColumnTable ρ) (record : ρ)

/-- The field that a column is for. A null is for none. -/
def target? (column : String × Value) : Option (FieldModel ρ) :=
  if column.2.isNull then none else table.field? (m.naming.normalize column.1)

def take? (column : String × Value) : Option ρ :=
  (m.target? table column).bind fun f => (m.setLifted f column.2 record).toOption

def refusal? (column : String × Value) : Option Event :=
  (m.target? table column).bind fun f =>
    match m.setLifted f column.2 record with
    | .ok _ => none
    | .error e => some (.fieldUnset table.resource f.name e)

def arrivals (columns : List (String × Value)) : List (ρ × (String × Value)) :=
  columns.mapIdx fun i column => ((m.assign table record (columns.take i)).1, column)

def taken (columns : List (String × Value)) : List ((String × Value) × ρ) :=
  (m.arrivals table record columns).filterMap fun e =>
    (m.take? table e.1 e.2).map fun changed => (e.2, changed)

def refusals (columns : List (String × Value)) : List Event :=
  (m.arrivals table record columns).filterMap fun e => m.refusal? table e.1 e.2

end Definitions

variable {m : Materializer} {table : ColumnTable ρ} {column : String} {f : FieldModel ρ}

theorem assignColumn_eq (record : ρ) (e : String × Value) :
    m.assignColumn table record e =
      ((m.take? table record e).getD record, (m.refusal? table record e).toList) := by
  rw [assignColumn, take?, refusal?, target?]
  split
  · rfl
  cases table.field? (m.naming.normalize e.1) with
  | none => rfl
  | some f =>
    simp only [Option.bind_some]
    cases m.setLifted f e.2 record <;> rfl

theorem arrivals_cons (record : ρ) (e : String × Value) (columns : List (String × Value)) :
    m.arrivals table record (e :: columns) =
      (record, e) :: m.arrivals table (m.assignColumn table record e).1 columns := by
  rw [arrivals, List.mapIdx_cons]
  rfl

theorem taken_cons (record : ρ) (e : String × Value) (columns : List (String × Value)) :
    m.taken table record (e :: columns) =
      ((m.take? table record e).map fun changed => (e, changed)).toList ++
        m.taken table (m.assignColumn table record e).1 columns := by
  rw [taken, arrivals_cons, List.filterMap_cons]
  dsimp only
  cases m.take? table record e <;> rfl

theorem refusals_cons (record : ρ) (e : String × Value) (columns : List (String × Value)) :
    m.refusals table record (e :: columns) =
      (m.refusal? table record e).toList ++
        m.refusals table (m.assignColumn table record e).1 columns := by
  rw [refusals, arrivals_cons, List.filterMap_cons]
  dsimp only
  cases m.refusal? table record e <;> rfl

theorem assign_warns (record : ρ) (columns : List (String × Value)) :
    (m.assign table record columns).2 = m.refusals table record columns := by
  induction columns generalizing record with
  | nil => rfl
  | cons e columns ih => rw [assign_cons, refusals_cons, ih, assignColumn_eq]

theorem refusal?_eq_none {record changed : ρ} {e : String × Value}
    (h : m.take? table record e = some changed) : m.refusal? table record e = none := by
  obtain ⟨f, hf, hset⟩ := Option.bind_eq_some_iff.mp h
  rw [toOption_eq_some] at hset
  rw [refusal?, hf, Option.bind_some, hset]

theorem assign_taken (record : ρ) (columns : List (String × Value)) :
    m.assign table record ((m.taken table record columns).map Prod.fst) =
      ((m.assign table record columns).1, []) := by
  induction columns generalizing record with
  | nil => rfl
  | cons e columns ih =>
    rw [taken_cons, assign_cons, assignColumn_eq]
    cases htake : m.take? table record e with
    | none => exact ih record
    | some changed =>
      have hcolumn : m.assignColumn table record e = (changed, []) := by
        rw [assignColumn_eq, htake, refusal?_eq_none htake]
        rfl
      have hrest := ih changed
      rw [Option.map_some, Option.toList_some, List.singleton_append, List.map_cons, assign_cons,
        hcolumn]
      exact Prod.ext (congrArg Prod.fst hrest) (congrArg Prod.snd hrest)

theorem target?_eq_some {e : String × Value} :
    m.target? table e = some f ↔
      e.2.isNull = false ∧ table.field? (m.naming.normalize e.1) = some f := by
  rw [target?]
  cases e.2.isNull <;> simp

theorem readBack_of_take? {record changed : ρ} {e : String × Value}
    (h : m.take? table record e = some changed)
    (hf : table.field? (m.naming.normalize e.1) = some f) :
    m.readBack f e.2 record = some (f.get changed) := by
  obtain ⟨g, hg, hset⟩ := Option.bind_eq_some_iff.mp h
  obtain ⟨hnull, hg⟩ := target?_eq_some.mp hg
  cases hf.symm.trans hg
  rw [toOption_eq_some] at hset
  rw [readBack, hnull, if_neg Bool.false_ne_true, hset]
  rfl

theorem getLast?_cons_elim {α β : Type} (g : α → β) (x : α) (xs : List α) (d : β) :
    (x :: xs).getLast?.elim d g = xs.getLast?.elim (g x) g := by
  rw [List.getLast?_cons]
  cases xs.getLast? <;> rfl

section Shown

variable (hfields : table.model.fields.Pairwise FieldModel.Independent)

include hfields

theorem get_assign_taken (hf : table.field? column = some f) (record : ρ)
    (columns : List (String × Value)) :
    f.get (m.assign table record columns).1 =
      ((m.taken table record columns).filter fun t =>
        m.naming.normalize t.1.1 == column).getLast?.elim (f.get record) fun t => f.get t.2 := by
  induction columns generalizing record with
  | nil => rfl
  | cons e columns ih =>
    rw [assign_cons, ih, taken_cons, List.filter_append]
    cases htake : m.take? table record e with
    | none =>
      rw [assignColumn_eq, htake]
      rfl
    | some changed =>
      have hchanged : (m.assignColumn table record e).1 = changed := by
        rw [assignColumn_eq, htake]
        rfl
      rw [hchanged, Option.map_some, Option.toList_some, List.filter_cons, List.filter_nil]
      by_cases hown : m.naming.normalize e.1 = column
      · rw [if_pos (beq_iff_eq.mpr hown), List.singleton_append, getLast?_cons_elim]
      · have hspared := get_assignColumn_spared (m := m) hfields (ColumnTable.mem_columns hf)
          (fun _ => hown) record
        rw [if_neg (mt beq_iff_eq.mp hown), List.nil_append, ← hspared, hchanged]

end Shown

section ByValue

variable (hown : ∀ f ∈ table.model.fields, ∀ v r r', f.readBack v r = f.readBack v r')

include hown

theorem isSome_take?_congr (e : String × Value) (r r' : ρ) :
    (m.take? table r e).isSome = (m.take? table r' e).isSome := by
  rw [take?, take?]
  cases htarget : m.target? table e with
  | none => rfl
  | some f =>
    obtain ⟨hnull, hf⟩ := target?_eq_some.mp htarget
    have hread := readBack_congr (m := m) (hown f (ColumnTable.mem_fields hf)) e.2 r r'
    rw [readBack, readBack, hnull, if_neg Bool.false_ne_true, if_neg Bool.false_ne_true] at hread
    have hsome (x : Except FieldError ρ) : (x.map f.get).toOption.isSome = x.toOption.isSome := by
      cases x <;> rfl
    rw [Option.bind_some, Option.bind_some, ← hsome, hread, hsome]

theorem map_taken (record r : ρ) (columns : List (String × Value)) :
    (m.taken table record columns).map Prod.fst =
      columns.filter fun e => (m.take? table r e).isSome := by
  induction columns generalizing record with
  | nil => rfl
  | cons e columns ih =>
    rw [taken_cons, List.map_append, ih, List.filter_cons, isSome_take?_congr hown e r record]
    cases m.take? table record e <;> rfl

theorem readBack_of_mem_taken {record r : ρ} {columns : List (String × Value)}
    {t : (String × Value) × ρ} (ht : t ∈ m.taken table record columns)
    (hf : table.field? (m.naming.normalize t.1.1) = some f) :
    m.readBack f t.1.2 r = some (f.get t.2) := by
  obtain ⟨e, -, he⟩ := List.mem_filterMap.mp ht
  obtain ⟨changed, htake, rfl⟩ := Option.map_eq_some_iff.mp he
  rw [readBack_congr (hown f (ColumnTable.mem_fields hf)) _ r e.1]
  exact readBack_of_take? htake hf

end ByValue

structure ConfinesFailures (m : Materializer) (table : ColumnTable ρ) (record : ρ)
    (columns : List (String × Value)) : Prop where
  onlyTaken : m.assign table record ((m.taken table record columns).map Prod.fst) =
    ((m.assign table record columns).1, [])
  warns : (m.assign table record columns).2 = m.refusals table record columns
  shown : ∀ column f, table.field? column = some f →
    f.get (m.assign table record columns).1 =
      ((m.taken table record columns).filter fun t =>
        m.naming.normalize t.1.1 == column).getLast?.elim (f.get record) fun t => f.get t.2
  hidden : ∀ column f, (column, f) ∈ table.columns → table.field? column ≠ some f →
    f.get (m.assign table record columns).1 = f.get record
  /-- Where a field takes the same values into all records, and holds the same of them, the columns
  that are taken can be told by their values, and so can what they leave. -/
  byValue : (∀ f ∈ table.model.fields, ∀ v r r', f.readBack v r = f.readBack v r') → ∀ r,
    (m.taken table record columns).map Prod.fst =
        (columns.filter fun e => (m.take? table r e).isSome) ∧
      ∀ t ∈ m.taken table record columns, ∀ f,
        table.field? (m.naming.normalize t.1.1) = some f →
          m.readBack f t.1.2 r = some (f.get t.2)

/-- If no field changes with another, a failure leaves no trace in the record but that its own
column is missing, and it is reported once. -/
theorem assign_confinesFailures (hfields : table.model.fields.Pairwise FieldModel.Independent)
    (record : ρ) (columns : List (String × Value)) : m.ConfinesFailures table record columns where
  onlyTaken := assign_taken record columns
  warns := assign_warns record columns
  shown _ _ hf := get_assign_taken hfields hf record columns
  hidden _ _ hmem hhidden := get_assign_spared hfields hmem (fun hown => absurd hown hhidden) record
  byValue hown r := ⟨map_taken hown record r columns, fun _ ht _ => readBack_of_mem_taken hown ht⟩

def parcelStates : EnumType String where
  model := ⟨"State", ["OPEN", "SENT"]⟩
  label := id
  ofLabel? label := if label ∈ ["OPEN", "SENT"] then some label else none

def parcelFields : List FieldDeclaration :=
  [.plain "weight" .int32, .enum "state" parcelStates]

def parcelTable : ColumnTable (DeclaredRecord parcelFields) :=
  .build (.declare "Parcel" "parcel" parcelFields) .snakeCase

def snakeCased : Materializer := ⟨.snakeCase, {}⟩

def sentParcel : DeclaredRecord parcelFields := ((1 : Int32), some "SENT", ())

def parcelColumns : List (String × Value) :=
  [("state", .text "LOST"), ("weight", .int 5), ("Weight", .text "heavy"), ("colour", .text "red"),
    ("state", .text "OPEN"), ("weight", .null), ("weight", .int 7), ("state", .int 1)]

theorem assign_confinesFailures_parcel :
    parcelTable.model.fields.Pairwise FieldModel.Independent ∧
      snakeCased.assign parcelTable sentParcel
          [("weight", .int 5), ("state", .text "OPEN"), ("weight", .int 7)] =
        ((snakeCased.assign parcelTable sentParcel parcelColumns).1, []) ∧
      (snakeCased.assign parcelTable sentParcel parcelColumns).2 =
        [.fieldUnset "parcel" "state" (.unknownVariant "state" "State" "LOST"),
          .fieldUnset "parcel" "weight" (.typeMismatch "weight" "i32" (.text "heavy")),
          .fieldUnset "parcel" "state" (.typeMismatch "state" "enum label" (.int 1))] ∧
      (snakeCased.assign parcelTable sentParcel parcelColumns).1 =
        ((7 : Int32), some "OPEN", ()) := by
  have hfields : parcelTable.model.fields.Pairwise FieldModel.Independent :=
    (RecordModel.lawful_declare "Parcel" "parcel" parcelFields).independent
  have h := assign_confinesFailures (m := snakeCased) hfields sentParcel parcelColumns
  have htaken : (snakeCased.taken parcelTable sentParcel parcelColumns).map Prod.fst =
      [("weight", .int 5), ("state", .text "OPEN"), ("weight", .int 7)] := by rfl
  have hrefusals : snakeCased.refusals parcelTable sentParcel parcelColumns =
      [.fieldUnset "parcel" "state" (.unknownVariant "state" "State" "LOST"),
        .fieldUnset "parcel" "weight" (.typeMismatch "weight" "i32" (.text "heavy")),
        .fieldUnset "parcel" "state" (.typeMismatch "state" "enum label" (.int 1))] := by rfl
  exact ⟨hfields, htaken ▸ h.onlyTaken, h.warns.trans hrefusals, rfl⟩

end Materializer

end WideColumn
