import Mathlib.Data.List.Basic
import WideColumn.Plan.Pushdown

namespace WideColumn

structure ColumnLeaf where
  column : String
  kind : TestKind
  position : LeafId
  operand : Value

namespace ColumnLeaf

def ofLeaf? (keys : KeyLayout) (naming : Naming) (leaf : LeafId × FieldTest) : Option ColumnLeaf :=
  match leaf.2.operand with
  | .value v =>
    if leaf.2.kind.isPushable && keys.isPushdownKey (naming.normalize leaf.2.field) then
      some ⟨naming.normalize leaf.2.field, leaf.2.kind, leaf.1, v⟩
    else none
  | .parameter _ => none

def ofQuery (keys : KeyLayout) (naming : Naming) (q : Query) : List ColumnLeaf :=
  q.conjunctiveLeaves.filterMap (ofLeaf? keys naming)

theorem mem_ofQuery {keys : KeyLayout} {naming : Naming} {q : Query} {l : ColumnLeaf} :
    l ∈ ofQuery keys naming q ↔
      ∃ leaf ∈ q.conjunctiveLeaves, ofLeaf? keys naming leaf = some l := List.mem_filterMap

theorem ofLeaf?_eq_some {keys : KeyLayout} {naming : Naming} {leaf : LeafId × FieldTest}
    {l : ColumnLeaf} (h : ofLeaf? keys naming leaf = some l) :
    leaf.2.operand = .value l.operand ∧
      l = ⟨naming.normalize leaf.2.field, leaf.2.kind, leaf.1, l.operand⟩ := by
  rw [ofLeaf?] at h
  split at h
  · split at h
    · cases h
      exact ⟨‹_›, rfl⟩
    · contradiction
  · contradiction

theorem position_of_ofLeaf? {keys : KeyLayout} {naming : Naming} {leaf : LeafId × FieldTest}
    {l : ColumnLeaf} (h : ofLeaf? keys naming leaf = some l) : l.position = leaf.1 := by
  rw [(ofLeaf?_eq_some h).2]

def columns (ls : List ColumnLeaf) : List String :=
  (ls.map column).eraseDups

def onColumn (c : String) (ls : List ColumnLeaf) : List ColumnLeaf :=
  ls.filter fun l => l.column = c

def offColumn (c : String) (ls : List ColumnLeaf) : List ColumnLeaf :=
  ls.filter fun l => l.column ≠ c

theorem mem_columns {c : String} {ls : List ColumnLeaf} :
    c ∈ columns ls ↔ ∃ l ∈ ls, l.column = c := by
  rw [columns, List.mem_eraseDups, List.mem_map]

theorem mem_onColumn {c : String} {l : ColumnLeaf} {ls : List ColumnLeaf} :
    l ∈ onColumn c ls ↔ l ∈ ls ∧ l.column = c := by
  rw [onColumn, List.mem_filter, decide_eq_true_iff]

theorem columns_cons (l : ColumnLeaf) (ls : List ColumnLeaf) :
    columns (l :: ls) = l.column :: columns (offColumn l.column ls) := by
  have h : (fun m : ColumnLeaf => !m.column == l.column) = fun m => decide (m.column ≠ l.column) := by
    funext m
    by_cases hm : m.column = l.column <;> simp [hm]
  rw [columns, columns, List.map_cons, List.eraseDups_cons, List.filter_map]
  simp only [Function.comp_def, h, offColumn]

theorem length_offColumn (c : String) (ls : List ColumnLeaf) :
    (offColumn c ls).length ≤ ls.length := List.length_filter_le _ ls

theorem onColumn_offColumn {c d : String} (h : c ≠ d) (ls : List ColumnLeaf) :
    onColumn c (offColumn d ls) = onColumn c ls := by
  rw [onColumn, onColumn, offColumn, List.filter_filter]
  congr 1
  funext l
  by_cases hl : l.column = c <;> simp [hl, h]

end ColumnLeaf

namespace ColumnTests

open ColumnLeaf

def start (l : ColumnLeaf) : ColumnTests :=
  ⟨l.column, l.kind, [(l.position, l.operand)], true⟩

def join (g : ColumnTests) (l : ColumnLeaf) : ColumnTests :=
  if g.agree && g.kind == l.kind then { g with tests := g.tests ++ [(l.position, l.operand)] }
  else { g with agree := false }

def collect? : List ColumnLeaf → Option ColumnTests
  | [] => none
  | l :: ls => some (ls.foldl join (start l))

def addColumnLeaf (gs : List ColumnTests) (l : ColumnLeaf) : List ColumnTests :=
  add l.column l.kind l.position l.operand gs

theorem join_column (g : ColumnTests) (l : ColumnLeaf) : (g.join l).column = g.column := by
  rw [join]
  split <;> rfl

theorem join_kind (g : ColumnTests) (l : ColumnLeaf) : (g.join l).kind = g.kind := by
  rw [join]
  split <;> rfl

theorem foldl_addColumnLeaf_cons (ls : List ColumnLeaf) (g : ColumnTests) (gs : List ColumnTests) :
    ls.foldl addColumnLeaf (g :: gs) =
      (onColumn g.column ls).foldl join g :: (offColumn g.column ls).foldl addColumnLeaf gs := by
  induction ls generalizing g gs with
  | nil => rfl
  | cons l ls ih =>
    by_cases h : l.column = g.column
    · have hadd : addColumnLeaf (g :: gs) l = g.join l :: gs := by
        simp only [addColumnLeaf, add, h, if_true, join]
      rw [List.foldl_cons, hadd, ih, join_column]
      simp [onColumn, offColumn, h]
    · have hadd : addColumnLeaf (g :: gs) l = g :: addColumnLeaf gs l := by
        simp only [addColumnLeaf, add, Ne.symm h, if_false]
      rw [List.foldl_cons, hadd, ih]
      simp [onColumn, offColumn, h]

theorem collect?_first (l : ColumnLeaf) (ls : List ColumnLeaf) :
    collect? (onColumn l.column (l :: ls)) =
      some ((onColumn l.column ls).foldl join (start l)) := by
  simp [onColumn, collect?]

theorem collect?_later {l : ColumnLeaf} {ls : List ColumnLeaf} {c : String}
    (h : c ∈ columns (offColumn l.column ls)) :
    collect? (onColumn c (offColumn l.column ls)) = collect? (onColumn c (l :: ls)) := by
  obtain ⟨m, hm, rfl⟩ := mem_columns.mp h
  have hne : m.column ≠ l.column := by simpa using (List.mem_filter.mp hm).2
  rw [onColumn_offColumn hne]
  simp [onColumn, Ne.symm hne]

-- The recursion is on the leaves of the other columns, so it is not structural.
theorem foldl_addColumnLeaf (ls : List ColumnLeaf) : ls.foldl addColumnLeaf [] =
    (columns ls).filterMap fun c => collect? (onColumn c ls) := by
  match ls with
  | [] => rfl
  | l :: ls =>
    have hlen := length_offColumn l.column ls
    have ih := foldl_addColumnLeaf (offColumn l.column ls)
    rw [List.filterMap_congr fun c hc => collect?_later hc] at ih
    have hadd : addColumnLeaf [] l = [start l] := rfl
    have hcolumn : (start l).column = l.column := rfl
    rw [List.foldl_cons, hadd, foldl_addColumnLeaf_cons, hcolumn, ih, columns_cons,
      List.filterMap_cons, collect?_first]
termination_by ls.length

theorem addLeaf_eq (keys : KeyLayout) (naming : Naming) (gs : List ColumnTests)
    (leaf : LeafId × FieldTest) :
    addLeaf keys naming gs leaf = ((ofLeaf? keys naming leaf).map (addColumnLeaf gs)).getD gs := by
  rw [addLeaf, ofLeaf?]
  cases leaf.2.operand with
  | parameter index => simp
  | value v => split <;> simp [addColumnLeaf, *]

theorem ofQuery_eq (keys : KeyLayout) (naming : Naming) (q : Query) :
    ofQuery keys naming q =
      (columns (ColumnLeaf.ofQuery keys naming q)).filterMap fun c =>
        collect? (onColumn c (ColumnLeaf.ofQuery keys naming q)) := by
  rw [← foldl_addColumnLeaf, ofQuery, ColumnLeaf.ofQuery, List.foldl_filterMap]
  congr 1
  funext gs leaf
  rw [addLeaf_eq]
  cases ofLeaf? keys naming leaf <;> rfl

theorem foldl_join_spoiled (ls : List ColumnLeaf) {g : ColumnTests} (hg : g.agree = false) :
    ls.foldl join g = g := by
  induction ls with
  | nil => rfl
  | cons l ls ih =>
    have hjoin : g.join l = g := by
      obtain ⟨column, kind, tests, agree⟩ := g
      subst hg
      rfl
    rw [List.foldl_cons, hjoin, ih]

theorem foldl_join_agreeing {ls : List ColumnLeaf} {g : ColumnTests} (hg : g.agree = true)
    (hk : ∀ l ∈ ls, l.kind = g.kind) :
    ls.foldl join g = { g with tests := g.tests ++ ls.map fun l => (l.position, l.operand) } := by
  induction ls generalizing g with
  | nil => simp
  | cons l ls ih =>
    obtain ⟨hl, hls⟩ := List.forall_mem_cons.mp hk
    have hjoin : g.join l = { g with tests := g.tests ++ [(l.position, l.operand)] } := by
      simp [join, hg, hl]
    have hrest := ih (g := { g with tests := g.tests ++ [(l.position, l.operand)] }) hg hls
    rw [List.foldl_cons, hjoin, hrest]
    simp

theorem foldl_join_differing {ls : List ColumnLeaf} {g : ColumnTests}
    (hk : ¬∀ l ∈ ls, l.kind = g.kind) : (ls.foldl join g).agree = false := by
  induction ls generalizing g with
  | nil => simp at hk
  | cons l ls ih =>
    rw [List.foldl_cons]
    by_cases hl : l.kind = g.kind
    · apply ih
      rw [join_kind]
      exact fun hls => hk (List.forall_mem_cons.mpr ⟨hl, hls⟩)
    · have hjoin : g.join l = { g with agree := false } := by
        simp [join, Ne.symm hl]
      rw [hjoin, foldl_join_spoiled ls rfl]

def ofLeaves (l : ColumnLeaf) (ls : List ColumnLeaf) : ColumnTests :=
  ⟨l.column, l.kind, (l :: ls).map fun m => (m.position, m.operand), true⟩

theorem collect?_agreeing {l : ColumnLeaf} {ls : List ColumnLeaf}
    (hk : ∀ m ∈ ls, m.kind = l.kind) : collect? (l :: ls) = some (ofLeaves l ls) := by
  rw [collect?, foldl_join_agreeing (g := start l) rfl hk]
  rfl

theorem collect?_differing {l : ColumnLeaf} {ls : List ColumnLeaf}
    (hk : ¬∀ m ∈ ls, m.kind = l.kind) :
    ∃ g, collect? (l :: ls) = some g ∧ g.agree = false :=
  ⟨_, rfl, foldl_join_differing (g := start l) hk⟩

end ColumnTests

namespace Query

open ColumnLeaf

variable {keys : KeyLayout} {naming : Naming} {q : Query} {c : String} {l : ColumnLeaf}

def testedColumns (keys : KeyLayout) (naming : Naming) (q : Query) : List String :=
  columns (ofQuery keys naming q)

def testsOn (keys : KeyLayout) (naming : Naming) (q : Query) (c : String) : List ColumnLeaf :=
  onColumn c (ofQuery keys naming q)

theorem mem_testsOn :
    l ∈ q.testsOn keys naming c ↔ l ∈ ofQuery keys naming q ∧ l.column = c := mem_onColumn

theorem testsOn_ne_nil (h : c ∈ q.testedColumns keys naming) : q.testsOn keys naming c ≠ [] := by
  obtain ⟨l, hl, hcolumn⟩ := mem_columns.mp h
  exact List.ne_nil_of_mem (mem_testsOn.mpr ⟨hl, hcolumn⟩)

end Query

end WideColumn
