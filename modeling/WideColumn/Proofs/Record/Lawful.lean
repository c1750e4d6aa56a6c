import WideColumn.Proofs.Outcome
import WideColumn.Record.Declared

namespace WideColumn

open Outcome

variable {ρ : Type}

namespace FieldModel

def readBack (f : FieldModel ρ) (v : Value) (record : ρ) : Option Value :=
  ((f.set v record).map f.get).toOption

def Spares (f g : FieldModel ρ) : Prop :=
  ∀ v record changed, f.set v record = .ok changed → g.get changed = g.get record

def Independent (f g : FieldModel ρ) : Prop :=
  f.Spares g ∧ g.Spares f

theorem Independent.symm {f g : FieldModel ρ} (h : f.Independent g) : g.Independent f :=
  And.symm h

end FieldModel

structure RecordModel.Lawful (m : RecordModel ρ) : Prop where
  own : ∀ f ∈ m.fields, ∀ v record record', f.readBack v record = f.readBack v record'
  independent : m.fields.Pairwise FieldModel.Independent

namespace FieldDeclaration

variable {d : FieldDeclaration} {get : ρ → d.Carrier} {put : d.Carrier → ρ → ρ}

theorem set_model {v : Value} {record changed : ρ}
    (h : (d.model get put).set v record = .ok changed) : ∃ x, changed = put x record := by
  cases d with
  | plain name type kind =>
    obtain ⟨x, -, hx⟩ := bind_eq_ok.mp h
    exact ⟨x, pure_eq_ok.mp hx⟩
  | enum name type kind =>
    obtain ⟨x, -, hx⟩ := bind_eq_ok.mp h
    exact ⟨some x, pure_eq_ok.mp hx⟩

theorem get_model {record record' : ρ} (h : get record = get record') :
    (d.model get put).get record = (d.model get put).get record' := by
  cases d with
  | plain name type kind => exact congrArg type.encode h
  | enum name type kind => exact congrArg (fun x => (x.map type.encode).getD .null) h

theorem readBack_model (hput : ∀ x record, get (put x record) = x) (v : Value)
    (record record' : ρ) :
    (d.model get put).readBack v record = (d.model get put).readBack v record' := by
  cases d with
  | plain name type kind =>
    simp only [FieldModel.readBack, model, FieldModel.ofType]
    cases type.decodeField name v with
    | error e => rfl
    | ok x => exact congrArg (fun x => some (type.encode x)) ((hput _ _).trans (hput _ _).symm)
  | enum name type kind =>
    simp only [FieldModel.readBack, model, FieldModel.ofEnum]
    cases type.decodeField name v with
    | error e => rfl
    | ok x =>
      exact congrArg (fun x => some ((x.map type.encode).getD .null))
        ((hput _ _).trans (hput _ _).symm)

end FieldDeclaration

namespace DeclaredRecord

variable {ds : List FieldDeclaration} {get : ρ → DeclaredRecord ds}
  {put : DeclaredRecord ds → ρ → ρ} {f : FieldModel ρ}

theorem get_fields (hf : f ∈ fields ds get put) {record record' : ρ}
    (h : get record = get record') : f.get record = f.get record' := by
  induction ds with
  | nil => exact absurd hf List.not_mem_nil
  | cons d ds ih =>
    rcases List.mem_cons.mp hf with rfl | hf
    · exact FieldDeclaration.get_model (congrArg Prod.fst h)
    · exact ih hf (congrArg Prod.snd h)

theorem set_fields (hf : f ∈ fields ds get put) {v : Value} {record changed : ρ}
    (h : f.set v record = .ok changed) : ∃ x, changed = put x record := by
  induction ds with
  | nil => exact absurd hf List.not_mem_nil
  | cons d ds ih =>
    rcases List.mem_cons.mp hf with rfl | hf
    · obtain ⟨x, hx⟩ := FieldDeclaration.set_model h
      exact ⟨_, hx⟩
    · obtain ⟨xs, hxs⟩ := ih hf
      exact ⟨_, hxs⟩

theorem readBack_fields (hput : ∀ x record, get (put x record) = x) (hf : f ∈ fields ds get put)
    (v : Value) (record record' : ρ) : f.readBack v record = f.readBack v record' := by
  induction ds with
  | nil => exact absurd hf List.not_mem_nil
  | cons d ds ih =>
    rcases List.mem_cons.mp hf with rfl | hf
    · exact FieldDeclaration.readBack_model (fun _ _ => congrArg Prod.fst (hput _ _)) v _ _
    · exact ih (fun _ _ => congrArg Prod.snd (hput _ _)) hf

theorem independent_fields (hput : ∀ x record, get (put x record) = x) :
    (fields ds get put).Pairwise FieldModel.Independent := by
  induction ds with
  | nil => exact .nil
  | cons d ds ih =>
    refine List.pairwise_cons.mpr ⟨fun f hf => ⟨?_, ?_⟩, ?_⟩
    · intro v record changed h
      obtain ⟨x, rfl⟩ := FieldDeclaration.set_model h
      have hrest := congrArg Prod.snd (hput (x, (get record).2) record)
      exact get_fields hf hrest
    · intro v record changed h
      obtain ⟨xs, rfl⟩ := set_fields hf h
      have hfirst := congrArg Prod.fst (hput ((get record).1, xs) record)
      exact FieldDeclaration.get_model hfirst
    · exact ih fun _ _ => congrArg Prod.snd (hput _ _)

end DeclaredRecord

theorem RecordModel.lawful_declare (typeName resource : String) (ds : List FieldDeclaration) :
    (declare typeName resource ds).Lawful where
  own _ hf := DeclaredRecord.readBack_fields (fun _ _ => rfl) hf
  independent := DeclaredRecord.independent_fields fun _ _ => rfl

end WideColumn
