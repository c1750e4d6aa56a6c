import Mathlib.Data.List.Pairwise
import WideColumn.Materialize
import WideColumn.Proofs.Record.Lawful

namespace WideColumn

open Outcome

variable {ρ : Type}

namespace ColumnTable

variable {t : ColumnTable ρ} {c d : String} {f g : FieldModel ρ}

theorem mem_columns (h : t.field? c = some f) : (c, f) ∈ t.columns := by
  obtain ⟨before, after, hcolumns, -⟩ := List.lookup_eq_some_iff.mp h
  apply List.mem_reverse.mp
  rw [hcolumns]
  simp

theorem mem_fields (h : t.field? c = some f) : f ∈ t.model.fields :=
  (List.of_mem_zip (mem_columns h)).2

theorem pairwise_zip {α β : Type} {R : β → β → Prop} {xs : List α} {ys : List β}
    (h : ys.Pairwise R) : (xs.zip ys).Pairwise fun a b => R a.2 b.2 := by
  induction h generalizing xs with
  | nil => simp
  | cons hy _ ih =>
    cases xs with
    | nil => exact .nil
    | cons x xs => exact .cons (fun e he => hy e.2 (List.of_mem_zip he).2) ih

theorem independent_of_mem (hfields : t.model.fields.Pairwise FieldModel.Independent)
    (hf : (c, f) ∈ t.columns) (hg : (d, g) ∈ t.columns) (hne : (c, f) ≠ (d, g)) :
    f.Independent g := by
  have hpairwise : t.columns.Pairwise fun a b => a.2.Independent b.2 := pairwise_zip hfields
  have : Std.Symm fun a b : String × FieldModel ρ => a.2.Independent b.2 := ⟨fun _ _ h => h.symm⟩
  exact hpairwise.forall hf hg hne

end ColumnTable

namespace Materializer

variable {m : Materializer} {table : ColumnTable ρ} {column : String} {f : FieldModel ρ}

theorem assign_cons (record : ρ) (e : String × Value) (columns : List (String × Value)) :
    m.assign table record (e :: columns) =
      ((m.assign table (m.assignColumn table record e).1 columns).1,
        (m.assignColumn table record e).2 ++
          (m.assign table (m.assignColumn table record e).1 columns).2) :=
  rfl

def readBack (m : Materializer) (f : FieldModel ρ) (v : Value) (record : ρ) : Option Value :=
  if v.isNull then none else ((m.setLifted f v record).map f.get).toOption

def filedOf (m : Materializer) (f : FieldModel ρ) (record : ρ) (column : String)
    (e : String × Value) : Option Value :=
  if m.naming.normalize e.1 = column then m.readBack f e.2 record else none

def filed (m : Materializer) (f : FieldModel ρ) (record : ρ) (column : String)
    (columns : List (String × Value)) : Option Value :=
  (columns.filterMap (m.filedOf f record column)).getLast?

theorem filed_cons (record : ρ) (e : String × Value) (columns : List (String × Value)) :
    m.filed f record column (e :: columns) =
      (m.filed f record column columns).or (m.filedOf f record column e) := by
  rw [filed, filed, List.filterMap_cons]
  cases m.filedOf f record column e with
  | none => exact Option.or_none.symm
  | some v =>
    rw [List.getLast?_cons]
    cases (columns.filterMap (m.filedOf f record column)).getLast? <;> rfl

theorem readBack_congr (hown : ∀ v r r', f.readBack v r = f.readBack v r') (v : Value)
    (record record' : ρ) : m.readBack f v record = m.readBack f v record' := by
  have hlifted (r : ρ) : ((m.setLifted f v r).map f.get).toOption =
      (lift m.types f.name f.kind v).toOption.bind fun u => f.readBack u r := by
    rw [setLifted]
    cases lift m.types f.name f.kind v <;> rfl
  rw [readBack, readBack, hlifted, hlifted]
  simp only [hown _ record record']

section Spared

variable (hfields : table.model.fields.Pairwise FieldModel.Independent)
  (hf : (column, f) ∈ table.columns)

include hfields hf

theorem get_assignColumn_spared {e : String × Value}
    (h : table.field? column = some f → m.naming.normalize e.1 ≠ column) (record : ρ) :
    f.get (m.assignColumn table record e).1 = f.get record := by
  rw [assignColumn]
  split
  · rfl
  cases hg : table.field? (m.naming.normalize e.1) with
  | none => rfl
  | some g =>
    -- a refused value leaves the record as it was
    cases hset : m.setLifted g e.2 record with
    | error _ => simp only [hset]
    | ok changed =>
      obtain ⟨v, -, hv⟩ := bind_eq_ok.mp hset
      have hne : (m.naming.normalize e.1, g) ≠ (column, f) := by
        intro heq
        obtain ⟨hcolumn, rfl⟩ := Prod.mk.inj heq
        exact h (hcolumn ▸ hg) hcolumn
      simp only [hset]
      exact (ColumnTable.independent_of_mem hfields (ColumnTable.mem_columns hg) hf hne).1
        v record changed hv

theorem get_assign_spared {columns : List (String × Value)}
    (h : table.field? column = some f → ∀ e ∈ columns, m.naming.normalize e.1 ≠ column)
    (record : ρ) : f.get (m.assign table record columns).1 = f.get record := by
  induction columns generalizing record with
  | nil => rfl
  | cons e columns ih =>
    rw [assign_cons, ih fun hown d hd => h hown d (List.mem_cons_of_mem e hd),
      get_assignColumn_spared hfields hf fun hown => h hown e List.mem_cons_self]

end Spared

theorem get_assignColumn (hlaw : table.model.Lawful) (hf : table.field? column = some f)
    (blank record : ρ) (e : String × Value) :
    f.get (m.assignColumn table record e).1 =
      (m.filedOf f blank column e).getD (f.get record) := by
  by_cases hcolumn : m.naming.normalize e.1 = column
  · have hown := hlaw.own f (ColumnTable.mem_fields hf)
    rw [filedOf, if_pos hcolumn, readBack_congr hown e.2 blank record, readBack, assignColumn]
    by_cases hnull : e.2.isNull = true
    · rw [if_pos hnull, if_pos hnull]
      rfl
    · rw [if_neg hnull, if_neg hnull, hcolumn, hf]
      dsimp only
      cases m.setLifted f e.2 record <;> rfl
  · rw [filedOf, if_neg hcolumn,
      get_assignColumn_spared hlaw.independent (ColumnTable.mem_columns hf) fun _ => hcolumn]
    rfl

theorem get_assign (hlaw : table.model.Lawful) (hf : table.field? column = some f)
    (blank record : ρ) (columns : List (String × Value)) :
    f.get (m.assign table record columns).1 =
      (m.filed f blank column columns).getD (f.get record) := by
  induction columns generalizing record with
  | nil => rfl
  | cons e columns ih =>
    rw [assign_cons, ih, get_assignColumn hlaw hf blank, filed_cons]
    cases m.filed f blank column columns <;> rfl

theorem get_record (hlaw : table.model.Lawful) (hf : table.field? column = some f)
    (columns : List (String × Value)) :
    f.get (m.record table columns).1 =
      (m.filed f table.model.blank column columns).getD (f.get table.model.blank) :=
  get_assign hlaw hf _ _ columns

theorem filed_eq_some {columns : List (String × Value)} {record : ρ} {v u : Value}
    (hmem : ∃ e ∈ columns, m.naming.normalize e.1 = column)
    (hall : ∀ e ∈ columns, m.naming.normalize e.1 = column → e.2 = v)
    (hu : m.readBack f v record = some u) : m.filed f record column columns = some u := by
  have hsame : ∀ x ∈ columns.filterMap (m.filedOf f record column), x = u := by
    intro x hx
    obtain ⟨e, he, hfiled⟩ := List.mem_filterMap.mp hx
    rw [filedOf] at hfiled
    split at hfiled
    · next hcolumn =>
      rw [hall e he hcolumn, hu] at hfiled
      exact (Option.some.inj hfiled).symm
    · contradiction
  obtain ⟨e, he, hcolumn⟩ := hmem
  have hfiled : m.filedOf f record column e = some u := by
    rw [filedOf, if_pos hcolumn, hall e he hcolumn, hu]
  have hne := List.ne_nil_of_mem (List.mem_filterMap.mpr ⟨e, he, hfiled⟩)
  rw [filed, List.getLast?_eq_some_getLast hne, hsame _ (List.getLast_mem hne)]

theorem filed_eq_none {columns : List (String × Value)} {record : ρ}
    (h : ∀ e ∈ columns, m.naming.normalize e.1 ≠ column) :
    m.filed f record column columns = none := by
  have hnone : columns.filterMap (m.filedOf f record column) = [] :=
    List.filterMap_eq_nil_iff.mpr fun e he => if_neg (h e he)
  rw [filed, hnone, List.getLast?_nil]

theorem filed_eq_readBack {columns : List (String × Value)} {record : ρ} {v : Value}
    (hmem : ∃ e ∈ columns, m.naming.normalize e.1 = column)
    (hall : ∀ e ∈ columns, m.naming.normalize e.1 = column → e.2 = v) :
    m.filed f record column columns = m.readBack f v record := by
  cases hu : m.readBack f v record with
  | some u => exact filed_eq_some hmem hall hu
  | none =>
    have hnone : columns.filterMap (m.filedOf f record column) = [] := by
      rw [List.filterMap_eq_nil_iff]
      intro e he
      rw [filedOf]
      split
      · next hcolumn => rw [hall e he hcolumn, hu]
      · rfl
    rw [filed, hnone, List.getLast?_nil]

theorem get_record_spared (hlaw : table.model.Lawful) (hf : (column, f) ∈ table.columns)
    {columns : List (String × Value)}
    (h : table.field? column = some f → ∀ e ∈ columns, m.naming.normalize e.1 ≠ column) :
    f.get (m.record table columns).1 = f.get table.model.blank :=
  get_assign_spared hlaw.independent hf h table.model.blank

end Materializer

end WideColumn
