import WideColumn.Proofs.Plan.Failures

/-!
The conditions of a plan, as the store reads them: the text of each and the values that it binds,
read off the filter column by column.
-/

namespace WideColumn

open Outcome

namespace Value

def members : Value → List Value
  | list items | set items => items
  | v => [v]

theorem asSequence_getD (v : Value) : v.asSequence.getD [v] = v.members := by
  cases v <;> rfl

theorem HasElements.elements_eq {v : Value} (h : v.HasElements) : v.elements = v.members := by
  obtain ⟨items, rfl | rfl⟩ := h <;> rfl

end Value

namespace Fragment

def condition (f : Fragment) : String × List Value :=
  (f.text, f.values)

theorem condition_compare (c : String) (op : Comparison) (v : Value) :
    (compare c op v).condition = (c ++ (" " ++ op.symbol ++ " ?"), [v]) := by
  rw [condition, text, values, String.append_assoc, String.append_assoc, String.append_assoc]

theorem condition_oneOf (c : String) (vs : List Value) : (oneOf c vs).condition =
    (c ++ " IN (" ++ ", ".intercalate (vs.map fun _ => "?") ++ ")", vs) := by
  rw [condition, text, values, placeholders, List.map_const']

end Fragment

namespace ColumnLeaf

open WideColumn.Membership (intersection)

def oneOfCondition (c : String) : List Value → List (String × List Value)
  | [] => []
  | values => [(c ++ " IN (" ++ ", ".intercalate (values.map fun _ => "?") ++ ")", values)]

/-- The conditions for the leaves of one column, each with the values it binds: none if two of the
leaves differ in kind. -/
def conditions (keys : KeyLayout) (c : String) : List ColumnLeaf → List (String × List Value)
  | [] => []
  | l :: ls =>
    if ∀ m ∈ ls, m.kind = l.kind then
      match l.kind with
      | .compare .eq => [(c ++ " = ?", [l.operand])]
      | .compare .gt => (l :: ls).map fun m => (c ++ " > ?", [m.operand])
      | .compare .ge => (l :: ls).map fun m => (c ++ " >= ?", [m.operand])
      | .compare .lt => (l :: ls).map fun m => (c ++ " < ?", [m.operand])
      | .compare .le => (l :: ls).map fun m => (c ++ " <= ?", [m.operand])
      | .within =>
        if c ∈ keys.collections then
          (l :: ls).flatMap fun m => m.operand.members.map fun e => (c ++ " CONTAINS ?", [e])
        else oneOfCondition c (intersection ((l :: ls).map fun m => m.operand.members))
      | .notEqual | .notWithin => []
    else []

/-- The conditions of the column answer the leaf. The one for an equality is its first leaf, and
answers those loosely equal to it. -/
structure IsAnswered (keys : KeyLayout) (c : String) (ls : List ColumnLeaf) (l : ColumnLeaf) :
    Prop where
  mem : l ∈ ls
  asked : conditions keys c ls ≠ []
  equal : l.kind = .compare .eq →
    ∃ first, ls.head? = some first ∧ first.operand.looseEq l.operand = true

section Conditions

variable {keys : KeyLayout} {c : String} {l : ColumnLeaf} {ls : List ColumnLeaf}

theorem map_oneOf (values : List Value) :
    (oneOf c values).map Fragment.condition = oneOfCondition c values := by
  cases values with
  | nil => rfl
  | cons v vs => exact congrArg (fun e => [e]) (Fragment.condition_oneOf c (v :: vs))

def Listed (keys : KeyLayout) (c : String) (ls : List ColumnLeaf) : Prop :=
  (∀ m ∈ ls, m.kind = .within) → keys.isCollection c = false → ∀ m ∈ ls, m.operand.HasElements

theorem map_fragments (h : Listed keys c ls) :
    (fragments keys c ls).map Fragment.condition = conditions keys c ls := by
  cases ls with
  | nil => rfl
  | cons l ls =>
    rw [fragments, conditions]
    by_cases hk : ∀ m ∈ ls, m.kind = l.kind
    · rw [if_pos hk, if_pos hk]
      cases hl : l.kind with
      | compare op =>
        cases op <;> simp only [List.map_map, List.map_cons, List.map_nil, Function.comp_def,
          Fragment.condition_compare] <;> rfl
      | within =>
        by_cases hc : c ∈ keys.collections
        · have hcollection : keys.isCollection c = true := List.contains_iff_mem.mpr hc
          simp only [hcollection, if_true, if_pos hc, List.map_flatMap, List.map_map,
            Value.asSequence_getD]
          rfl
        · have hscalar : keys.isCollection c = false := by
            rw [← Bool.not_eq_true]
            exact mt List.contains_iff_mem.mp hc
          have hwithin : ∀ m ∈ l :: ls, m.kind = .within :=
            List.forall_mem_cons.mpr ⟨hl, fun m hm => (hk m hm).trans hl⟩
          have helements : (l :: ls).map (fun m => m.operand.elements) =
              (l :: ls).map fun m => m.operand.members :=
            List.map_congr_left fun m hm => (h hwithin hscalar m hm).elements_eq
          simp only [hscalar, Bool.false_eq_true, if_false, if_neg hc, helements]
          exact map_oneOf _
      | notEqual | notWithin => rfl
    · rw [if_neg hk, if_neg hk]
      rfl

theorem mem_answered (h : Listed keys c ls) :
    l ∈ answered keys c ls ↔ IsAnswered keys c ls l := by
  have hempty : (fragments keys c ls).isEmpty = true ↔ conditions keys c ls = [] := by
    rw [← map_fragments h, List.isEmpty_iff, List.map_eq_nil_iff]
  cases ls with
  | nil => exact iff_of_false List.not_mem_nil fun h => List.not_mem_nil h.mem
  | cons first ls =>
    rw [answered]
    split
    · rename_i hnone
      exact iff_of_false List.not_mem_nil fun h => h.asked (hempty.mp hnone)
    · rename_i hsome
      have hconditions : conditions keys c (first :: ls) ≠ [] := mt hempty.mpr hsome
      -- conditions are given for leaves of one kind only
      have hk : ∀ m ∈ first :: ls, m.kind = first.kind := by
        by_contra hdiffer
        rw [List.forall_mem_cons, and_iff_right rfl] at hdiffer
        exact hconditions (if_neg hdiffer)
      split
      · rename_i heq
        rw [List.mem_filter]
        constructor
        · rintro ⟨hl, hloose⟩
          exact ⟨hl, hconditions, fun _ => ⟨first, rfl, hloose⟩⟩
        · intro hanswered
          obtain ⟨_, hfirst, hloose⟩ := hanswered.equal ((hk l hanswered.mem).trans heq)
          cases hfirst
          exact ⟨hanswered.mem, hloose⟩
      · rename_i hother
        constructor
        · exact fun hl => ⟨hl, hconditions, fun heq => absurd ((hk l hl).symm.trans heq) hother⟩
        · exact IsAnswered.mem

end Conditions

end ColumnLeaf

namespace Query

open ColumnLeaf

variable {q b : Query} {keys : KeyLayout} {naming : Naming} {params : List Value} {p : Pushdown}
  {c : String} {l : ColumnLeaf}

theorem listed_of_plan (h : q.plan keys naming params = .ok p) (hb : q.bind params = .ok b)
    (c : String) : Listed keys c (b.testsOn keys naming c) := by
  intro hwithin hc m hm
  by_contra hmalformed
  cases hls : b.testsOn keys naming c with
  | nil =>
    rw [hls] at hm
    contradiction
  | cons l ls =>
    rw [hls] at hwithin hm
    obtain ⟨hl, hrest⟩ := List.forall_mem_cons.mp hwithin
    have hk : ∀ n ∈ ls, n.kind = l.kind := fun n hn => (hrest n hn).trans hl.symm
    obtain ⟨e, he⟩ := plan_of_misasks (misasks_of_testsOn hb hls hk hl hc hm hmalformed)
    rw [h] at he
    contradiction

end Query

/-- A positive test on a column that could be asked natively. It stands in the filter of a query
under no disjunction, and its operand is given or supplied. -/
structure ColumnLeaf.IsAskedBy (keys : KeyLayout) (naming : Naming) (params : List Value)
    (q : Query) (l : ColumnLeaf) : Prop where
  place : ∃ field operand, Predicate.ConjoinedAt q.filter l.position ⟨field, l.kind, operand⟩ ∧
    naming.normalize field = l.column ∧
    (operand = .value l.operand ∨ ∃ i, operand = .parameter i ∧ params[i]? = some l.operand)
  positive : l.kind ≠ .notEqual ∧ l.kind ≠ .notWithin
  key : l.column ∈ keys.partition ∨ l.column ∈ keys.clustering ∨ l.column ∈ keys.indexed

namespace ColumnLeaf

variable {q b : Query} {keys : KeyLayout} {naming : Naming} {params : List Value}
  {l : ColumnLeaf}

theorem resolve_eq_ok {o : Operand} {v : Value} : o.resolve params = .ok v ↔
    o = .value v ∨ ∃ i, o = .parameter i ∧ params[i]? = some v := by
  cases o with
  | value u => simp [Operand.resolve]
  | parameter i => cases hi : params[i]? <;> simp [Operand.resolve, hi]

theorem isPushable_iff {kind : TestKind} :
    kind.isPushable = true ↔ kind ≠ .notEqual ∧ kind ≠ .notWithin := by
  cases kind <;> simp [TestKind.isPushable]

theorem isPushdownKey_iff {c : String} : keys.isPushdownKey c = true ↔
    c ∈ keys.partition ∨ c ∈ keys.clustering ∨ c ∈ keys.indexed := by
  simp [KeyLayout.isPushdownKey, KeyLayout.isRowKey, or_assoc]

theorem mem_ofQuery_iff (hb : q.bind params = .ok b) :
    l ∈ ofQuery keys naming b ↔ l.IsAskedBy keys naming params q := by
  have htests : l ∈ ofQuery keys naming b ↔ l ∈ b.testsOn keys naming l.column := by
    rw [Query.mem_testsOn, and_iff_left rfl]
  rw [htests, Query.mem_testsOn_of_bind hb]
  constructor
  · rintro ⟨hkey, ⟨i, field, kind, operand⟩, hleaf, v, hv, hl⟩
    obtain ⟨hmem, hpushable, hcolumn⟩ := Query.mem_pushableOn.mp hleaf
    rw [hl] at hcolumn hkey ⊢
    exact {
      place := ⟨field, operand, Predicate.mem_conjunctiveLeavesOf.mp hmem, hcolumn,
        resolve_eq_ok.mp hv⟩
      positive := isPushable_iff.mp hpushable
      key := isPushdownKey_iff.mp hkey }
  · rintro ⟨⟨field, operand, hplace, hcolumn, hoperand⟩, hpositive, hkey⟩
    refine ⟨isPushdownKey_iff.mpr hkey, (l.position, ⟨field, l.kind, operand⟩), ?_, l.operand,
      resolve_eq_ok.mpr hoperand, rfl⟩
    exact Query.mem_pushableOn.mpr ⟨Predicate.mem_conjunctiveLeavesOf.mpr hplace,
      isPushable_iff.mpr hpositive, hcolumn⟩

theorem ofQuery_ascending (keys : KeyLayout) (naming : Naming) (b : Query) :
    ((ofQuery keys naming b).map position).Pairwise (· < ·) := by
  have hleaves := Predicate.conjunctiveLeavesOf_ascending 0 b.filter
  rw [List.pairwise_map] at hleaves ⊢
  apply hleaves.filterMap
  intro leaf leaf' hlt l hl l' hl'
  rw [position_of_ofLeaf? hl, position_of_ofLeaf? hl']
  exact hlt

end ColumnLeaf

def Query.columnConditions (keys : KeyLayout) (naming : Naming) (b : Query) :
    List (String × List Value) :=
  (b.testedColumns keys naming).flatMap fun c =>
    ColumnLeaf.conditions keys c (b.testsOn keys naming c)

/-- A plan is read off the leaves of the filter that could be asked natively, column by column in
order of first occurrence: each column gives its conditions, and the leaves that these answer are
the ones that leave the query. -/
structure Pushdown.IsPerColumn (keys : KeyLayout) (naming : Naming) (params : List Value)
    (q b : Query) (p : Pushdown) : Prop where
  leaves : ∀ l, l ∈ ColumnLeaf.ofQuery keys naming b ↔ l.IsAskedBy keys naming params q
  inOrder : ((ColumnLeaf.ofQuery keys naming b).map ColumnLeaf.position).Pairwise (· < ·)
  texts : p.fragments.map Fragment.text = (b.columnConditions keys naming).map Prod.fst
  values : p.values = (b.columnConditions keys naming).flatMap Prod.snd
  ascending : p.pushed.Pairwise (· < ·)
  pushed : ∀ id, id ∈ p.pushed ↔ ∃ c l,
    ColumnLeaf.IsAnswered keys c (b.testsOn keys naming c) l ∧ l.position = id
  residual : p.residual = b.reduce p.pushed
  partition : (Predicate.leavesOf q.filter).length =
    p.pushed.length + (Predicate.leavesOf p.residual.filter).length

namespace Query

open ColumnLeaf

variable {q b : Query} {keys : KeyLayout} {naming : Naming} {params : List Value} {p : Pushdown}

theorem length_filter_contains {ids : List LeafId} (leaves : List (LeafId × FieldTest)) :
    (leaves.filter fun leaf =>
        ((leaves.map Prod.fst).filter ids.contains).contains leaf.1).length =
      ((leaves.map Prod.fst).filter ids.contains).length := by
  rw [List.filter_map, List.length_map]
  congr 1
  apply List.filter_congr
  intro leaf hleaf
  have hmem : leaf.1 ∈ leaves.map Prod.fst := List.mem_map_of_mem hleaf
  rw [← List.filter_map, Bool.eq_iff_iff, List.contains_iff_mem, List.mem_filter,
    and_iff_right hmem]
  rfl

theorem conditions_of_plan (h : q.plan keys naming params = .ok p) (hb : q.bind params = .ok b)
    (hfragments : p.fragments = (b.testedColumns keys naming).flatMap fun c =>
      ColumnLeaf.fragments keys c (b.testsOn keys naming c)) :
    p.fragments.map Fragment.condition = b.columnConditions keys naming := by
  rw [hfragments, List.map_flatMap, columnConditions]
  exact List.flatMap_congr fun c _ => map_fragments (listed_of_plan h hb c)

theorem length_leavesOf_pushed {ids : List LeafId} (hb : q.bind params = .ok b)
    (hpushed : p.pushed = (b.conjunctiveLeaves.map Prod.fst).filter ids.contains)
    (hresidual : p.residual = b.reduce p.pushed) : (Predicate.leavesOf q.filter).length =
      p.pushed.length + (Predicate.leavesOf p.residual.filter).length := by
  obtain ⟨bs, hbs, hfilter⟩ := bind_eq_ok.mp hb
  have hcount : Predicate.leafCountOf b.filter = Predicate.leafCountOf q.filter := by
    rw [hfilter]
    exact Predicate.leafCountOf_bindAll _ hbs
  have hlength : (b.conjunctiveLeaves.filter fun leaf => p.pushed.contains leaf.1).length =
      p.pushed.length := by
    rw [hpushed]
    exact length_filter_contains _
  have hleaves := (b.reduce_pruned p.pushed).leafCount
  rw [← hresidual] at hleaves
  rw [conjunctiveLeaves] at hlength
  rw [Predicate.length_leavesOf, Predicate.length_leavesOf]
  omega

theorem plan_perColumn (h : q.plan keys naming params = .ok p) :
    ∃ b, q.bind params = .ok b ∧ p.IsPerColumn keys naming params q b := by
  obtain ⟨b, hb, hfragments, hpushed, hresidual⟩ := plan_eq_ok h
  have hconditions := conditions_of_plan h hb hfragments
  refine ⟨b, hb, ?_⟩
  constructor
  case leaves => exact fun l => mem_ofQuery_iff hb
  case inOrder => exact ofQuery_ascending keys naming b
  case texts =>
    rw [← hconditions, List.map_map]
    rfl
  case values =>
    rw [← hconditions, List.flatMap_map]
    rfl
  case ascending =>
    rw [hpushed]
    exact (Predicate.conjunctiveLeavesOf_ascending 0 b.filter).filter _
  case pushed =>
    intro id
    rw [hpushed, mem_pushed]
    simp only [mem_answers]
    constructor
    · rintro ⟨l, ⟨c, hc, hl⟩, rfl⟩
      exact ⟨c, l, (mem_answered (listed_of_plan h hb c)).mp hl, rfl⟩
    · rintro ⟨c, l, hl, rfl⟩
      obtain ⟨hquery, hcolumn⟩ := mem_testsOn.mp hl.mem
      refine ⟨l, ⟨c, mem_columns.mpr ⟨l, hquery, hcolumn⟩, ?_⟩, rfl⟩
      exact (mem_answered (listed_of_plan h hb c)).mpr hl
  case residual => exact hresidual
  case partition => exact length_leavesOf_pushed hb hpushed hresidual

def scattered : Query :=
  { resource := "user"
    filter := [
      .all [.test ⟨"status", .within, .value (.list [.text "A", .text "B"])⟩,
        .any [.test ⟨"status", .compare .eq, .value .null⟩]],
      .test ⟨"age", .compare .gt, .parameter 0⟩,
      .test ⟨"status", .within, .value (.list [.text "B", .text "C", .text "B", .text "A"])⟩,
      .all [.test ⟨"age", .compare .gt, .value (.int 3)⟩, .test ⟨"name", .within, .value .null⟩],
      .test ⟨"tags", .within, .value (.set [.text "x", .text "y"])⟩,
      .test ⟨"tags", .within, .value (.text "z")⟩,
      .test ⟨"name", .compare .eq, .value (.text "A")⟩,
      .test ⟨"id", .compare .eq, .parameter 1⟩,
      .test ⟨"id", .compare .eq, .value (.int 8)⟩,
      .test ⟨"ratio", .compare .le, .value (.int 1)⟩] }

def scatteredKeys : KeyLayout where
  partition := ["id", "status"]
  clustering := ["age", "ratio"]
  indexed := ["tags", "name"]
  collections := ["tags"]

theorem plan_perColumn_scattered : ∃ p b,
    scattered.plan scatteredKeys .identity [.int 7, .int 9] = .ok p ∧
      scattered.bind [.int 7, .int 9] = .ok b ∧
      p.fragments.map Fragment.text = ["status IN (?, ?)", "age > ?", "age > ?",
        "tags CONTAINS ?", "tags CONTAINS ?", "tags CONTAINS ?", "id = ?", "ratio <= ?"] ∧
      p.values = [.text "A", .text "B", .int 7, .int 3, .text "x", .text "y", .text "z", .int 9,
        .int 1] ∧
      p.pushed = [0, 2, 3, 4, 6, 7, 9, 11] ∧
      b.columnConditions scatteredKeys .identity = [("status IN (?, ?)", [.text "A", .text "B"]),
        ("age > ?", [.int 7]), ("age > ?", [.int 3]), ("tags CONTAINS ?", [.text "x"]),
        ("tags CONTAINS ?", [.text "y"]), ("tags CONTAINS ?", [.text "z"]), ("id = ?", [.int 9]),
        ("ratio <= ?", [.int 1])] ∧
      p.IsPerColumn scatteredKeys .identity [.int 7, .int 9] scattered b := by
  have hplan : ∃ p, scattered.plan scatteredKeys .identity [.int 7, .int 9] = .ok p ∧
      p.fragments.map Fragment.text = ["status IN (?, ?)", "age > ?", "age > ?",
        "tags CONTAINS ?", "tags CONTAINS ?", "tags CONTAINS ?", "id = ?", "ratio <= ?"] ∧
      p.values = [.text "A", .text "B", .int 7, .int 3, .text "x", .text "y", .text "z", .int 9,
        .int 1] ∧
      p.pushed = [0, 2, 3, 4, 6, 7, 9, 11] := ⟨_, rfl, rfl, rfl, rfl⟩
  obtain ⟨p, hp, htexts, hvalues, hpushed⟩ := hplan
  obtain ⟨b, hb, h⟩ := plan_perColumn hp
  cases hb
  exact ⟨p, _, hp, rfl, htexts, hvalues, hpushed, rfl, h⟩

end Query

end WideColumn
