import WideColumn.Value.Basic

namespace WideColumn

namespace NamedValues

def setEntry (name : String) (value : Value) : List (String × Value) → List (String × Value)
  | [] => [(name, value)]
  | e :: es => if e.1 = name then (name, value) :: es else e :: setEntry name value es

theorem names_setEntry (name : String) (value : Value) (es : List (String × Value)) :
    (setEntry name value es).map Prod.fst =
      if name ∈ es.map Prod.fst then es.map Prod.fst else es.map Prod.fst ++ [name] := by
  induction es with
  | nil => simp [setEntry]
  | cons e es ih =>
    by_cases h : e.1 = name
    · simp [setEntry, h]
    · have h' : ¬ name = e.1 := fun hn => h hn.symm
      simp only [setEntry, h, if_false, List.map_cons, ih, List.mem_cons, h', false_or]
      split <;> simp

theorem nodup_setEntry (name : String) (value : Value) {es : List (String × Value)}
    (h : (es.map Prod.fst).Nodup) : ((setEntry name value es).map Prod.fst).Nodup := by
  rw [names_setEntry]
  split
  · exact h
  · next hn =>
    refine List.nodup_append.mpr ⟨h, by simp, fun a ha b hb => ?_⟩
    rintro rfl
    exact hn (List.mem_singleton.mp hb ▸ ha)

end NamedValues

structure NamedValues where
  entries : List (String × Value) := []
  nodup : (entries.map Prod.fst).Nodup := by simp
deriving Repr

namespace NamedValues

def empty : NamedValues := {}

def set (m : NamedValues) (name : String) (value : Value) : NamedValues :=
  ⟨setEntry name value m.entries, nodup_setEntry name value m.nodup⟩

def get? (m : NamedValues) (name : String) : Option Value :=
  m.entries.lookup name

def ofList (entries : List (String × Value)) : NamedValues :=
  entries.foldl (fun m e => m.set e.1 e.2) empty

def length (m : NamedValues) : Nat :=
  m.entries.length

def isEmpty (m : NamedValues) : Bool :=
  m.entries.isEmpty

def names (m : NamedValues) : List String :=
  m.entries.map Prod.fst

/-- Files every value under a new name. Of names that come to coincide the first gives the place
and the last the value. -/
def mapNames (f : String → String) (m : NamedValues) : NamedValues :=
  ofList (m.entries.map fun e => (f e.1, e.2))

end NamedValues

end WideColumn
