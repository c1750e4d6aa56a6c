import WideColumn.Proofs.Query.Reduction

namespace WideColumn

open Outcome

def FieldTest.IsBound (t : FieldTest) : Prop :=
  ∃ v, t.operand = .value v

theorem FieldTest.isBound_bind {params : List Value} {t s : FieldTest} (h : t.bind params = .ok s) :
    s.IsBound := by
  obtain ⟨v, -, hs⟩ := bind_eq_ok.mp h
  rw [pure_eq_ok] at hs
  exact ⟨v, by rw [hs]⟩

theorem FieldTest.holds_congr {source source' : FieldSource} {t : FieldTest}
    (h : (source t.field).map Value.coerce = (source' t.field).map Value.coerce) :
    t.holds source = t.holds source' := by
  rw [holds, holds]
  cases hv : source t.field with
  | none =>
    rw [hv, Option.map_none, eq_comm, Option.map_eq_none_iff] at h
    rw [h]
  | some v =>
    rw [hv, Option.map_some, eq_comm] at h
    obtain ⟨v', hv', hcoerce⟩ := Option.map_eq_some_iff.mp h
    simp only [hv', hcoerce]

namespace Predicate

def IsBound (filter : List Predicate) : Prop :=
  ∀ t ∈ leavesOf filter, t.IsBound

section Binding

variable {params : List Value}

mutual

theorem isBound_bind : ∀ (p : Predicate) {b : Predicate}, p.bind params = .ok b →
    ∀ t ∈ leaves b, t.IsBound
  | test _, _, h => by
    obtain ⟨s, hs, rfl⟩ := bind_test_eq_ok.mp h
    intro t ht
    rw [List.mem_singleton.mp ht]
    exact FieldTest.isBound_bind hs
  | all parts, _, h => by
    obtain ⟨bs, hbs, rfl⟩ := bind_all_eq_ok.mp h
    exact isBound_bindAll parts hbs
  | any parts, _, h => by
    obtain ⟨bs, hbs, rfl⟩ := bind_any_eq_ok.mp h
    exact isBound_bindAll parts hbs

theorem isBound_bindAll : ∀ (ps : List Predicate) {bs : List Predicate},
    bindAll params ps = .ok bs → IsBound bs
  | [], _, h => by
    cases h
    exact fun t ht => absurd ht List.not_mem_nil
  | p :: ps, _, h => by
    obtain ⟨c, cs, hc, hcs, rfl⟩ := bindAll_cons_eq_ok.mp h
    intro t ht
    rcases List.mem_append.mp ht with ht | ht
    · exact isBound_bind p hc t ht
    · exact isBound_bindAll ps hcs t ht

end

end Binding

theorem Pruned.leaves_subset {pushed : List LeafId} {n : Nat} {ps rs : List Predicate}
    (h : Pruned pushed n ps rs) : leavesOf rs ⊆ leavesOf ps := by
  induction h with
  | nil => exact List.Subset.refl _
  | dropped _ _ ih => exact List.subset_cons_of_subset _ ih
  | kept _ _ ih => exact List.cons_subset_cons _ ih
  | emptied _ _ _ ih => exact List.subset_append_of_subset_right _ ih
  | group _ _ _ ihi ih =>
    exact List.append_subset.mpr ⟨List.subset_append_of_subset_left _ ihi,
      List.subset_append_of_subset_right _ ih⟩
  | any _ ih =>
    exact List.append_subset.mpr ⟨List.subset_append_left _ _,
      List.subset_append_of_subset_right _ ih⟩

theorem isBound_cons {p : Predicate} {ps : List Predicate} (h : IsBound (p :: ps)) :
    (∀ t ∈ leaves p, t.IsBound) ∧ IsBound ps :=
  ⟨fun t ht => h t (List.mem_append_left _ ht), fun t ht => h t (List.mem_append_right _ ht)⟩

section Verdict

variable (source : FieldSource)

mutual

theorem exists_holds : ∀ p : Predicate, (∀ t ∈ leaves p, t.IsBound) → ∃ b, p.holds source = .ok b
  | test t, h => by
    obtain ⟨v, hv⟩ := h t List.mem_cons_self
    rw [holds, FieldTest.holds, hv]
    cases source t.field with
    | none => exact ⟨false, rfl⟩
    | some actual => exact ⟨_, rfl⟩
  | all parts, h => exists_allHold parts h
  | any parts, h => exists_anyHold parts h

theorem exists_allHold : ∀ ps : List Predicate, IsBound ps → ∃ b, allHold source ps = .ok b
  | [], _ => ⟨true, rfl⟩
  | p :: ps, h => by
    obtain ⟨hp, hps⟩ := isBound_cons h
    obtain ⟨b, hb⟩ := exists_holds p hp
    rw [allHold, hb]
    cases b with
    | true => exact exists_allHold ps hps
    | false => exact ⟨false, rfl⟩

theorem exists_anyHold : ∀ ps : List Predicate, IsBound ps → ∃ b, anyHold source ps = .ok b
  | [], _ => ⟨false, rfl⟩
  | p :: ps, h => by
    obtain ⟨hp, hps⟩ := isBound_cons h
    obtain ⟨b, hb⟩ := exists_holds p hp
    rw [anyHold, hb]
    cases b with
    | true => exact ⟨true, rfl⟩
    | false => exact exists_anyHold ps hps

end

end Verdict

def ReadAlike (source source' : FieldSource) (tests : List FieldTest) : Prop :=
  ∀ t ∈ tests, (source t.field).map Value.coerce = (source' t.field).map Value.coerce

section Congruence

variable {source source' : FieldSource}

mutual

theorem holds_congr : ∀ p : Predicate, ReadAlike source source' (leaves p) →
    p.holds source = p.holds source'
  | test t, h => FieldTest.holds_congr (h t List.mem_cons_self)
  | all parts, h => allHold_congr parts h
  | any parts, h => anyHold_congr parts h

theorem allHold_congr : ∀ ps : List Predicate, ReadAlike source source' (leavesOf ps) →
    allHold source ps = allHold source' ps
  | [], _ => rfl
  | p :: ps, h => by
    have hp := holds_congr p fun t ht => h t (List.mem_append_left _ ht)
    have hps := allHold_congr ps fun t ht => h t (List.mem_append_right _ ht)
    rw [allHold, allHold, hp, hps]

theorem anyHold_congr : ∀ ps : List Predicate, ReadAlike source source' (leavesOf ps) →
    anyHold source ps = anyHold source' ps
  | [], _ => rfl
  | p :: ps, h => by
    have hp := holds_congr p fun t ht => h t (List.mem_append_left _ ht)
    have hps := anyHold_congr ps fun t ht => h t (List.mem_append_right _ ht)
    rw [anyHold, anyHold, hp, hps]

end

end Congruence

end Predicate

end WideColumn
