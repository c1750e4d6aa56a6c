import WideColumn.Proofs.Layer.Begin

namespace WideColumn

variable {ω ρ α β : Type}

namespace ModelRegistry

def Extends (r r' : ModelRegistry) : Prop :=
  ∀ name names, r.known.lookup name = some names → r'.known.lookup name = some names

variable {r r' r'' : ModelRegistry} {model : RecordModel ρ} {naming naming' : Naming}

theorem Extends.refl (r : ModelRegistry) : r.Extends r := fun _ _ h => h

theorem Extends.trans (h : r.Extends r') (h' : r'.Extends r'') : r.Extends r'' :=
  fun name names hknown => h' name names (h name names hknown)

theorem known_table (r : ModelRegistry) (model : RecordModel ρ) (naming : Naming)
    (name : String) : (r.table model naming).2.known.lookup name =
      (r.known.lookup name).or
        (if model.typeName = name then some (.ofModel model naming) else none) := by
  rw [table]
  cases hknown : r.known.lookup model.typeName with
  | some names =>
    by_cases hname : model.typeName = name
    · rw [← hname, hknown]
      rfl
    · rw [if_neg hname, Option.or_none]
  | none =>
    by_cases hname : model.typeName = name
    · rw [if_pos hname, ← hname, hknown]
      exact List.lookup_cons_self
    · rw [if_neg hname, Option.or_none]
      simp only [List.lookup_cons, beq_false_of_ne (Ne.symm hname)]

theorem table_eq (r : ModelRegistry) (model : RecordModel ρ) (naming : Naming) :
    (r.table model naming).1 =
      ⟨model, (r.known.lookup model.typeName).getD (.ofModel model naming)⟩ := by
  rw [table]
  cases r.known.lookup model.typeName <;> rfl

theorem extends_table (r : ModelRegistry) (model : RecordModel ρ) (naming : Naming) :
    r.Extends (r.table model naming).2 := by
  intro name names h
  rw [known_table, h]
  rfl

theorem lookup_table (r : ModelRegistry) (model : RecordModel ρ) (naming : Naming) :
    (r.table model naming).2.known.lookup model.typeName = some (r.table model naming).1.names := by
  rw [known_table, table_eq, if_pos rfl]
  cases r.known.lookup model.typeName <;> rfl

theorem table_model : (r.table model naming).1.model = model :=
  congrArg ColumnTable.model (r.table_eq model naming)

theorem table_of_extends (h : (r.table model naming).2.Extends r') :
    (r'.table model naming').1 = (r.table model naming).1 := by
  have hknown := h _ _ (lookup_table r model naming)
  rw [table_eq r', hknown, table_eq r]
  rfl

end ModelRegistry

namespace Action

def Remembers (x : Action ω α) : Prop :=
  ∀ w : World ω, w.models.Extends (x.outcome w).2.models

theorem Steady.remembers {x : Action ω α} (h : x.Steady) : x.Remembers :=
  fun w => (h w).models ▸ .refl _

end Action

theorem TypedCall.perform_remembers (s : Session ω) (model : RecordModel ρ) (call : TypedCall ρ) :
    (call.perform s model).Remembers := by
  intro w
  rw [(call.perform_frame s model w).1]
  split
  · exact w.models.extends_table model s.naming
  · exact .refl _

namespace Session

inductive IsCall : {α : Type} → Action ω α → Prop where
  | begin (l : Layer ω) : IsCall l.beginSession
  | select (s : Session ω) {ρ : Type} (model : RecordModel ρ) (q : Query) (params : List Value) :
      IsCall (s.select model q params)
  | selectRows (s : Session ω) (q : Query) (params : List Value) : IsCall (s.selectRows q params)
  | insert (s : Session ω) {ρ : Type} (model : RecordModel ρ) (record : ρ) :
      IsCall (s.insert model record)
  | insertValues (s : Session ω) (resource : String) (values : NamedValues) :
      IsCall (s.insertValues resource values)
  | changeRecords (s : Session ω) (change : Change) {ρ : Type} (model : RecordModel ρ)
      (mutation : Mutation ρ) (params : List Value) :
      IsCall (s.changeRecords change model mutation params)
  | changeRows (s : Session ω) (change : Change) (mutation : Mutation RowMap)
      (params : List Value) : IsCall (s.changeRows change mutation params)

theorem IsCall.remembers {x : Action ω α} (h : IsCall x) : x.Remembers := by
  cases h with
  | begin l => exact fun w => (l.begins_outcome w).models ▸ .refl _
  | select s model q params => exact (TypedCall.select q params).perform_remembers s model
  | selectRows s q params => exact ((UntypedCall.select q params).perform_steady s).remembers
  | insert s model record => exact (TypedCall.insert record).perform_remembers s model
  | insertValues s resource values =>
    exact ((UntypedCall.insert resource values).perform_steady s).remembers
  | changeRecords s change model mutation params =>
    exact (TypedCall.mutate change mutation params).perform_remembers s model
  | changeRows s change mutation params =>
    exact ((UntypedCall.mutate change mutation params).perform_steady s).remembers

inductive Later : World ω → World ω → Prop where
  | refl (w : World ω) : Later w w
  | call {w u : World ω} {α : Type} {x : Action ω α} (h : Later w u) (hx : IsCall x) :
      Later w (x.outcome u).2
  | meanwhile {w u u' : World ω} (h : Later w u) (hmodels : u'.models = u.models) : Later w u'

theorem Later.extends {w u : World ω} (h : Later w u) : w.models.Extends u.models := by
  induction h with
  | refl => exact .refl _
  | call _ hx ih => exact ih.trans (hx.remembers _)
  | meanwhile _ hmodels ih => exact hmodels ▸ ih

end Session

end WideColumn
