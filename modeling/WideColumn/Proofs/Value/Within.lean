import WideColumn.Proofs.Value.Coercion

namespace WideColumn.Value

def parts : Value → List Value
  | list items | set items => items
  | map entries => entries.flatMap fun e => [e.1, e.2]
  | _ => []

section Parts

variable {u v : Value} {entries : List (Value × Value)}

theorem mem_parts_map : u ∈ (map entries).parts ↔ ∃ e ∈ entries, u = e.1 ∨ u = e.2 := by
  simp [parts]

theorem sizeOf_lt_of_mem_parts (h : u ∈ v.parts) : sizeOf u < sizeOf v := by
  cases v with
  | list items | set items =>
    have hitems : sizeOf u < sizeOf items := List.sizeOf_lt_of_mem h
    simp only [list.sizeOf_spec, set.sizeOf_spec]
    omega
  | map entries =>
    obtain ⟨⟨k, w⟩, he, heq⟩ := mem_parts_map.mp h
    have hentry := List.sizeOf_lt_of_mem he
    rw [Prod.mk.sizeOf_spec] at hentry
    rw [map.sizeOf_spec]
    rcases heq with rfl | rfl <;> omega
  | _ => exact absurd h List.not_mem_nil

end Parts

@[elab_as_elim]
theorem induction_on_parts {motive : Value → Prop}
    (step : ∀ v, (∀ u ∈ v.parts, motive u) → motive v) (v : Value) : motive v :=
  step v fun u _ => induction_on_parts step u
termination_by v
decreasing_by exact sizeOf_lt_of_mem_parts ‹_›

inductive Within (u : Value) : Value → Prop where
  | self : Within u u
  | part {v w : Value} : w ∈ v.parts → Within u w → Within u v

namespace Within

variable {u v w : Value}

theorem trans (huv : u.Within v) (hvw : v.Within w) : u.Within w := by
  induction hvw with
  | self => exact huv
  | part hpart _ ih => exact .part hpart ih

theorem of_part (h : u ∈ v.parts) : u.Within v :=
  .part h .self

end Within

section Kinds

variable {u v : Value} {items : List Value} {entries : List (Value × Value)}

theorem within_iff : u.Within v ↔ u = v ∨ ∃ w ∈ v.parts, u.Within w := by
  constructor
  · intro h
    cases h with
    | self => exact .inl rfl
    | part hpart hu => exact .inr ⟨_, hpart, hu⟩
  · rintro (rfl | ⟨w, hw, hu⟩)
    · exact .self
    · exact .part hw hu

theorem within_scalar (hv : ¬v.isCollection = true) : u.Within v ↔ u = v := by
  have hparts : v.parts = [] := by cases v <;> first | exact absurd rfl hv | rfl
  rw [within_iff, hparts]
  simp

theorem within_list : u.Within (list items) ↔ u = list items ∨ ∃ w ∈ items, u.Within w :=
  within_iff

theorem within_set : u.Within (set items) ↔ u = set items ∨ ∃ w ∈ items, u.Within w :=
  within_iff

theorem within_map : u.Within (map entries) ↔
    u = map entries ∨ ∃ e ∈ entries, u.Within e.1 ∨ u.Within e.2 := by
  rw [within_iff]
  refine or_congr_right ⟨?_, ?_⟩
  · rintro ⟨w, hw, hu⟩
    obtain ⟨e, he, rfl | rfl⟩ := mem_parts_map.mp hw
    · exact ⟨e, he, .inl hu⟩
    · exact ⟨e, he, .inr hu⟩
  · rintro ⟨e, he, hu | hu⟩
    · exact ⟨e.1, mem_parts_map.mpr ⟨e, he, .inl rfl⟩, hu⟩
    · exact ⟨e.2, mem_parts_map.mpr ⟨e, he, .inr rfl⟩, hu⟩

end Kinds

theorem exists_of_mem_parts_coerce {u v : Value} (h : u ∈ v.coerce.parts) :
    ∃ w ∈ v.parts, w.coerce = u := by
  cases v with
  | list items =>
    rw [coerce_list] at h
    exact List.mem_map.mp h
  | set items =>
    rw [coerce_set] at h
    exact List.mem_map.mp (Insertion.mem_of_mem_distinctSort h)
  | map entries =>
    rw [coerce_map, mem_parts_map] at h
    obtain ⟨e, he, heq⟩ := h
    rw [canonicalEntries, (Insertion.sort_perm _ _).mem_iff] at he
    obtain ⟨d, hd, rfl⟩ := List.mem_map.mp he
    rcases heq with rfl | rfl
    · exact ⟨d.1, mem_parts_map.mpr ⟨d, hd, .inl rfl⟩, rfl⟩
    · exact ⟨d.2, mem_parts_map.mpr ⟨d, hd, .inr rfl⟩, rfl⟩
  | _ => exact absurd h List.not_mem_nil

theorem exists_of_within_coerce {u v : Value} (h : u.Within v.coerce) :
    ∃ w : Value, w.Within v ∧ w.coerce = u := by
  induction v using induction_on_parts with
  | step v ih =>
    cases h with
    | self => exact ⟨v, .self, rfl⟩
    | part hpart hu =>
      obtain ⟨x, hx, rfl⟩ := exists_of_mem_parts_coerce hpart
      obtain ⟨w, hw, hcoerce⟩ := ih x hx hu
      exact ⟨w, .part hx hw, hcoerce⟩

end WideColumn.Value
