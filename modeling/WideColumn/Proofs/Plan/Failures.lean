import WideColumn.Proofs.Plan.PerColumn

namespace WideColumn

open Outcome

section Resolving

variable {params : List Value} {o : Operand} {t s : FieldTest} {e : QueryError}

theorem Operand.resolve_eq_error (h : o.resolve params = .error e) :
    ∃ i, o = .parameter i ∧ params.length ≤ i ∧ e = .parameterNotBound i params.length := by
  cases o with
  | value v => contradiction
  | parameter i =>
    rw [resolve] at h
    cases hi : params[i]? with
    | some v =>
      rw [hi] at h
      contradiction
    | none =>
      rw [hi] at h
      exact ⟨i, rfl, List.getElem?_eq_none_iff.mp hi, (Except.error.inj h).symm⟩

theorem Operand.lt_of_resolve {i : Nat} {v : Value}
    (h : (Operand.parameter i).resolve params = .ok v) : i < params.length := by
  rw [resolve] at h
  by_contra hi
  rw [List.getElem?_eq_none (Nat.le_of_not_lt hi)] at h
  contradiction

theorem FieldTest.bind_iff_resolve :
    t.bind params = .ok s ↔
      ∃ v, t.operand.resolve params = .ok v ∧ s = { t with operand := .value v } := by
  simp only [FieldTest.bind, Outcome.bind_eq_ok, pure_eq_ok]

theorem FieldTest.resolve_eq_error (h : t.bind params = .error e) :
    t.operand.resolve params = .error e := by
  rcases Outcome.bind_eq_error.mp h with h | ⟨v, -, h⟩
  · exact h
  · contradiction

end Resolving

namespace Predicate

variable {params : List Value} {e : QueryError}

mutual

theorem unresolved_of_bind : ∀ p : Predicate, p.bind params = .error e →
    ∃ t ∈ leaves p, t.operand.resolve params = .error e
  | test t, h => by
    rcases Outcome.bind_eq_error.mp h with h | ⟨s, -, h⟩
    · exact ⟨t, List.mem_cons_self, FieldTest.resolve_eq_error h⟩
    · contradiction
  | all parts, h => by
    rcases Outcome.bind_eq_error.mp h with h | ⟨bs, -, h⟩
    · exact unresolved_of_bindAll parts h
    · contradiction
  | any parts, h => by
    rcases Outcome.bind_eq_error.mp h with h | ⟨bs, -, h⟩
    · exact unresolved_of_bindAll parts h
    · contradiction

theorem unresolved_of_bindAll : ∀ ps : List Predicate, bindAll params ps = .error e →
    ∃ t ∈ leavesOf ps, t.operand.resolve params = .error e
  | [], h => by contradiction
  | p :: ps, h => by
    rcases Outcome.bind_eq_error.mp h with h | ⟨b, -, h⟩
    · obtain ⟨t, ht, herror⟩ := unresolved_of_bind p h
      exact ⟨t, List.mem_append_left _ ht, herror⟩
    · rcases Outcome.bind_eq_error.mp h with h | ⟨bs, -, h⟩
      · obtain ⟨t, ht, herror⟩ := unresolved_of_bindAll ps h
        exact ⟨t, List.mem_append_right _ ht, herror⟩
      · contradiction

end

mutual

theorem resolves_of_bind : ∀ (p : Predicate) {b : Predicate}, p.bind params = .ok b →
    ∀ t ∈ leaves p, ∃ v, t.operand.resolve params = .ok v
  | test t, _, h => by
    obtain ⟨s, hs, -⟩ := bind_test_eq_ok.mp h
    obtain ⟨v, hv, -⟩ := FieldTest.bind_iff_resolve.mp hs
    intro u hu
    rw [List.mem_singleton.mp hu]
    exact ⟨v, hv⟩
  | all parts, _, h => by
    obtain ⟨bs, hbs, -⟩ := bind_all_eq_ok.mp h
    exact resolves_of_bindAll parts hbs
  | any parts, _, h => by
    obtain ⟨bs, hbs, -⟩ := bind_any_eq_ok.mp h
    exact resolves_of_bindAll parts hbs

theorem resolves_of_bindAll : ∀ (ps : List Predicate) {bs : List Predicate},
    bindAll params ps = .ok bs → ∀ t ∈ leavesOf ps, ∃ v, t.operand.resolve params = .ok v
  | [], _, _ => List.forall_mem_nil _
  | p :: ps, _, h => by
    obtain ⟨c, cs, hc, hcs, -⟩ := bindAll_cons_eq_ok.mp h
    exact List.forall_mem_append.mpr ⟨resolves_of_bind p hc, resolves_of_bindAll ps hcs⟩

end

def bindLeaf (params : List Value) (leaf : LeafId × FieldTest) :
    LeafId × Except QueryError FieldTest :=
  (leaf.1, leaf.2.bind params)

mutual

theorem map_conjunctiveLeaves_bind (n : Nat) :
    ∀ (p : Predicate) {b : Predicate}, p.bind params = .ok b →
      (conjunctiveLeaves n p).map (bindLeaf params) =
        (conjunctiveLeaves n b).map fun leaf => (leaf.1, .ok leaf.2)
  | test t, _, h => by
    obtain ⟨s, hs, rfl⟩ := bind_test_eq_ok.mp h
    simp [conjunctiveLeaves, bindLeaf, hs]
  | all parts, _, h => by
    obtain ⟨bs, hbs, rfl⟩ := bind_all_eq_ok.mp h
    exact map_conjunctiveLeavesOf_bindAll n parts hbs
  | any parts, _, h => by
    obtain ⟨bs, hbs, rfl⟩ := bind_any_eq_ok.mp h
    rfl

theorem map_conjunctiveLeavesOf_bindAll (n : Nat) :
    ∀ (ps : List Predicate) {bs : List Predicate}, bindAll params ps = .ok bs →
      (conjunctiveLeavesOf n ps).map (bindLeaf params) =
        (conjunctiveLeavesOf n bs).map fun leaf => (leaf.1, .ok leaf.2)
  | [], _, h => by
    cases h
    rfl
  | p :: ps, _, h => by
    obtain ⟨c, cs, hc, hcs, rfl⟩ := bindAll_cons_eq_ok.mp h
    rw [conjunctiveLeavesOf, conjunctiveLeavesOf, List.map_append, List.map_append,
      map_conjunctiveLeaves_bind n p hc, leafCount_bind p hc,
      map_conjunctiveLeavesOf_bindAll (n + leafCount p) ps hcs]

end

end Predicate

def Value.HasElements (v : Value) : Prop :=
  ∃ items, v = .list items ∨ v = .set items

theorem Value.asSequence_eq_none {v : Value} : v.asSequence = none ↔ ¬ v.HasElements := by
  cases v <;> simp [asSequence, HasElements]

namespace Membership

variable {c : String} {operands : List Value} {e : QueryError}

theorem lists_eq_error (h : lists c operands = .error e) :
    ∃ v ∈ operands, ¬ v.HasElements ∧ e = .membershipNeedsList c v := by
  induction operands with
  | nil => contradiction
  | cons v vs ih =>
    rw [lists] at h
    cases hv : v.asSequence with
    | none =>
      rw [hv] at h
      exact ⟨v, List.mem_cons_self, Value.asSequence_eq_none.mp hv, (Except.error.inj h).symm⟩
    | some items =>
      rw [hv] at h
      rcases bind_eq_error.mp h with h | ⟨ls, -, h⟩
      · obtain ⟨w, hw, hmalformed⟩ := ih h
        exact ⟨w, List.mem_cons_of_mem v hw, hmalformed⟩
      · contradiction

theorem hasElements_of_lists {ls : List (List Value)} (h : lists c operands = .ok ls) :
    ∀ v ∈ operands, v.HasElements := by
  intro v hv
  by_contra hnone
  rw [← Value.asSequence_eq_none] at hnone
  have hmem : none ∈ operands.map Value.asSequence := hnone ▸ List.mem_map_of_mem hv
  rw [lists_eq_ok.mp h] at hmem
  obtain ⟨items, -, hitems⟩ := List.mem_map.mp hmem
  contradiction

end Membership

namespace ColumnTests

open ColumnLeaf

variable {keys : KeyLayout} {naming : Naming} {b : Query} {l : ColumnLeaf} {ls : List ColumnLeaf}
  {g : ColumnTests} {gs : List ColumnTests} {e : QueryError}

theorem emit_ofLeaves_eq_error (h : (ofLeaves l ls).emit keys = .error e) :
    l.kind = .within ∧ keys.isCollection l.column = false ∧
      ∃ m ∈ l :: ls, ¬ m.operand.HasElements ∧ e = .membershipNeedsList l.column m.operand := by
  have hkind : (ofLeaves l ls).kind = l.kind := rfl
  have hcolumn : (ofLeaves l ls).column = l.column := rfl
  simp only [emit, ofLeaves_operands, ofLeaves_positions, hkind, hcolumn] at h
  cases hl : l.kind with
  | compare op => cases op <;> simp [hl] at h
  | notEqual | notWithin => simp [hl] at h
  | within =>
    simp only [hl] at h
    split at h
    · split at h <;> contradiction
    · rename_i hc
      rcases bind_eq_error.mp h with h | ⟨lists, -, h⟩
      · obtain ⟨v, hv, hmalformed, rfl⟩ := Membership.lists_eq_error h
        obtain ⟨m, hm, rfl⟩ := List.mem_map.mp hv
        exact ⟨rfl, eq_false_of_ne_true hc, m, hm, hmalformed, rfl⟩
      · split at h <;> contradiction

theorem hasElements_of_emit {r : List Fragment × List LeafId}
    (h : (ofLeaves l ls).emit keys = .ok r) (hl : l.kind = .within)
    (hc : keys.isCollection l.column = false) : ∀ m ∈ l :: ls, m.operand.HasElements := by
  have hkind : (ofLeaves l ls).kind = .within := hl
  have hcolumn : (ofLeaves l ls).column = l.column := rfl
  simp only [emit, ofLeaves_operands, ofLeaves_positions, hkind, hcolumn, hc] at h
  obtain ⟨lists, hlists, -⟩ := bind_eq_ok.mp h
  exact fun m hm => Membership.hasElements_of_lists hlists _ (List.mem_map_of_mem hm)

theorem emitAll_eq_error (h : emitAll keys gs = .error e) :
    ∃ g ∈ gs, g.agree = true ∧ g.emit keys = .error e := by
  induction gs with
  | nil => contradiction
  | cons g gs ih =>
    rw [emitAll] at h
    split at h
    · rename_i hagree
      rcases bind_eq_error.mp h with h | ⟨r, -, h⟩
      · exact ⟨g, List.mem_cons_self, hagree, h⟩
      · rcases bind_eq_error.mp h with h | ⟨rs, -, h⟩
        · obtain ⟨g', hg', hfails⟩ := ih h
          exact ⟨g', List.mem_cons_of_mem g hg', hfails⟩
        · contradiction
    · obtain ⟨g', hg', hfails⟩ := ih h
      exact ⟨g', List.mem_cons_of_mem g hg', hfails⟩

theorem emit_of_emitAll {r : List Fragment × List LeafId} (h : emitAll keys gs = .ok r)
    (hg : g ∈ gs) (hagree : g.agree = true) : ∃ r, g.emit keys = .ok r := by
  induction gs generalizing r with
  | nil => contradiction
  | cons g' gs ih =>
    rw [emitAll] at h
    split at h
    · obtain ⟨r', hr', h⟩ := bind_eq_ok.mp h
      obtain ⟨rs, hrs, -⟩ := bind_eq_ok.mp h
      rcases List.mem_cons.mp hg with rfl | hg
      · exact ⟨r', hr'⟩
      · exact ih hrs hg
    · rename_i hspoiled
      rcases List.mem_cons.mp hg with rfl | hg
      · contradiction
      · exact ih h hg

theorem mem_ofQuery_agreeing : g ∈ ofQuery keys naming b ∧ g.agree = true ↔
    ∃ c l ls, b.testsOn keys naming c = l :: ls ∧ (∀ m ∈ ls, m.kind = l.kind) ∧
      g = ofLeaves l ls := by
  rw [ofQuery_eq, List.mem_filterMap]
  constructor
  · rintro ⟨⟨c, -, hg⟩, hagree⟩
    cases hc : onColumn c (ColumnLeaf.ofQuery keys naming b) with
    | nil =>
      rw [hc] at hg
      contradiction
    | cons l ls =>
      rw [hc] at hg
      by_cases hk : ∀ m ∈ ls, m.kind = l.kind
      · rw [collect?_agreeing hk] at hg
        exact ⟨c, l, ls, hc, hk, (Option.some.inj hg).symm⟩
      · obtain ⟨g', hg', hspoiled⟩ := collect?_differing hk
        rw [hg'] at hg
        cases hg
        rw [hagree] at hspoiled
        contradiction
  · rintro ⟨c, l, ls, hc, hk, rfl⟩
    have hl : l ∈ b.testsOn keys naming c := hc ▸ List.mem_cons_self
    obtain ⟨hquery, hcolumn⟩ := Query.mem_testsOn.mp hl
    refine ⟨⟨c, mem_columns.mpr ⟨l, hquery, hcolumn⟩, ?_⟩, rfl⟩
    rw [Query.testsOn] at hc
    rw [hc, collect?_agreeing hk]

end ColumnTests

namespace Query

open ColumnLeaf

def LacksParameter (q : Query) (params : List Value) (i : Nat) : Prop :=
  params.length ≤ i ∧ ∃ t ∈ Predicate.leavesOf q.filter, t.operand = .parameter i

def pushableOn (naming : Naming) (q : Query) (c : String) : List (LeafId × FieldTest) :=
  q.conjunctiveLeaves.filter fun leaf =>
    leaf.2.kind.isPushable && naming.normalize leaf.2.field == c

/-- On a scalar column that could be pushed, nothing but membership is asked, and once in a value
without elements. -/
structure Misasks (keys : KeyLayout) (naming : Naming) (params : List Value) (q : Query)
    (c : String) (v : Value) : Prop where
  key : keys.isPushdownKey c = true
  scalar : keys.isCollection c = false
  memberships : ∀ leaf ∈ q.pushableOn naming c, leaf.2.kind = .within
  operand : ∃ leaf ∈ q.pushableOn naming c, leaf.2.operand.resolve params = .ok v
  malformed : ¬ v.HasElements

variable {q b : Query} {keys : KeyLayout} {naming : Naming} {params : List Value} {c : String}
  {v : Value} {l : ColumnLeaf} {leaf : LeafId × FieldTest} {e : QueryError}

theorem mem_pushableOn : leaf ∈ q.pushableOn naming c ↔
    leaf ∈ q.conjunctiveLeaves ∧ leaf.2.kind.isPushable = true ∧
      naming.normalize leaf.2.field = c := by
  rw [pushableOn, List.mem_filter, Bool.and_eq_true, beq_iff_eq]

theorem lacks_of_bind (h : q.bind params = .error e) :
    ∃ i, q.LacksParameter params i ∧ e = .parameterNotBound i params.length := by
  rcases Outcome.bind_eq_error.mp h with h | ⟨bs, -, h⟩
  · obtain ⟨t, ht, herror⟩ := Predicate.unresolved_of_bindAll q.filter h
    obtain ⟨i, hi, hlength, he⟩ := Operand.resolve_eq_error herror
    exact ⟨i, ⟨hlength, t, ht, hi⟩, he⟩
  · contradiction

theorem not_lacks_of_bind (hb : q.bind params = .ok b) (i : Nat) : ¬ q.LacksParameter params i := by
  rintro ⟨hlength, t, ht, hi⟩
  obtain ⟨bs, hbs, -⟩ := bind_eq_ok.mp hb
  obtain ⟨v, hv⟩ := Predicate.resolves_of_bindAll q.filter hbs t ht
  rw [hi] at hv
  have hlt := Operand.lt_of_resolve hv
  omega

theorem mem_conjunctiveLeaves_of_bind (hb : q.bind params = .ok b) :
    leaf ∈ b.conjunctiveLeaves ↔ ∃ m ∈ q.conjunctiveLeaves, ∃ v,
      m.2.operand.resolve params = .ok v ∧
        leaf = (m.1, { m.2 with operand := .value v }) := by
  obtain ⟨bs, hbs, rfl⟩ := bind_eq_ok.mp hb
  have hleaves := Predicate.map_conjunctiveLeavesOf_bindAll 0 q.filter hbs
  have hbound : leaf ∈ Predicate.conjunctiveLeavesOf 0 bs ↔
      (leaf.1, Except.ok leaf.2) ∈ (conjunctiveLeaves q).map (Predicate.bindLeaf params) := by
    rw [conjunctiveLeaves, hleaves, List.mem_map]
    constructor
    · exact fun hleaf => ⟨leaf, hleaf, rfl⟩
    · rintro ⟨⟨id, t⟩, hm, heq⟩
      cases heq
      exact hm
  rw [conjunctiveLeaves, hbound, List.mem_map]
  constructor
  · rintro ⟨m, hm, heq⟩
    obtain ⟨hid, ht⟩ := Prod.ext_iff.mp heq
    obtain ⟨v, hv, hs⟩ := FieldTest.bind_iff_resolve.mp ht
    exact ⟨m, hm, v, hv, Prod.ext hid.symm hs⟩
  · rintro ⟨m, hm, v, hv, rfl⟩
    exact ⟨m, hm, Prod.ext rfl (FieldTest.bind_iff_resolve.mpr ⟨v, hv, rfl⟩)⟩

theorem mem_testsOn_of_bind (hb : q.bind params = .ok b) :
    l ∈ b.testsOn keys naming c ↔ keys.isPushdownKey c = true ∧
      ∃ leaf ∈ q.pushableOn naming c, ∃ v, leaf.2.operand.resolve params = .ok v ∧
        l = ⟨c, leaf.2.kind, leaf.1, v⟩ := by
  rw [mem_testsOn, mem_ofQuery]
  constructor
  · rintro ⟨⟨_, hleaf, hl⟩, rfl⟩
    obtain ⟨m, hm, v, hv, rfl⟩ := (mem_conjunctiveLeaves_of_bind hb).mp hleaf
    simp only [ofLeaf?, Option.ite_none_right_eq_some, Bool.and_eq_true, Option.some.injEq] at hl
    obtain ⟨⟨hpushable, hkey⟩, rfl⟩ := hl
    exact ⟨hkey, m, mem_pushableOn.mpr ⟨hm, hpushable, rfl⟩, v, hv, rfl⟩
  · rintro ⟨hkey, m, hm, v, hv, rfl⟩
    obtain ⟨hleaf, hpushable, rfl⟩ := mem_pushableOn.mp hm
    refine ⟨⟨_, (mem_conjunctiveLeaves_of_bind hb).mpr ⟨m, hleaf, v, hv, rfl⟩, ?_⟩, rfl⟩
    simp [ofLeaf?, hpushable, hkey]

theorem misasks_of_testsOn {ls : List ColumnLeaf} (hb : q.bind params = .ok b)
    (hls : b.testsOn keys naming c = l :: ls) (hk : ∀ m ∈ ls, m.kind = l.kind)
    (hl : l.kind = .within) (hc : keys.isCollection c = false) {m : ColumnLeaf} (hm : m ∈ l :: ls)
    (hmalformed : ¬ m.operand.HasElements) : q.Misasks keys naming params c m.operand := by
  have hwithin : ∀ n ∈ b.testsOn keys naming c, n.kind = .within := by
    rw [hls]
    exact List.forall_mem_cons.mpr ⟨hl, fun n hn => (hk n hn).trans hl⟩
  obtain ⟨hkey, leaf, hleaf, v, hv, rfl⟩ := (mem_testsOn_of_bind hb).mp (hls ▸ hm)
  refine ⟨hkey, hc, ?_, ⟨leaf, hleaf, hv⟩, hmalformed⟩
  intro n hn
  obtain ⟨bs, hbs, -⟩ := bind_eq_ok.mp hb
  have hplace := (mem_pushableOn.mp hn).1
  obtain ⟨i, -, hi⟩ := Predicate.conjunctiveLeavesOf_place 0 q.filter n.1 n.2 hplace
  obtain ⟨w, hw⟩ := Predicate.resolves_of_bindAll q.filter hbs n.2 (List.mem_of_getElem? hi)
  exact hwithin _ ((mem_testsOn_of_bind hb).mpr ⟨hkey, n, hn, w, hw, rfl⟩)

theorem Misasks.testsOn (h : q.Misasks keys naming params c v) (hb : q.bind params = .ok b) :
    ∃ l ls, b.testsOn keys naming c = l :: ls ∧ (∀ m ∈ l :: ls, m.kind = .within) ∧
      l.column = c ∧ ∃ m ∈ l :: ls, m.operand = v := by
  obtain ⟨leaf, hleaf, hv⟩ := h.operand
  have hmem := (mem_testsOn_of_bind hb).mpr ⟨h.key, leaf, hleaf, v, hv, rfl⟩
  cases hls : b.testsOn keys naming c with
  | nil =>
    rw [hls] at hmem
    contradiction
  | cons l ls =>
    refine ⟨l, ls, rfl, ?_, (mem_testsOn.mp (hls ▸ List.mem_cons_self)).2, _, hls ▸ hmem, rfl⟩
    intro m hm
    obtain ⟨-, n, hn, w, -, rfl⟩ := (mem_testsOn_of_bind hb).mp (hls ▸ hm)
    exact h.memberships n hn

theorem plan_of_bind_error (h : q.bind params = .error e) :
    q.plan keys naming params = .error e := Outcome.bind_eq_error.mpr (.inl h)

theorem plan_eq_error (h : q.plan keys naming params = .error e) :
    (∃ i, q.LacksParameter params i ∧ e = .parameterNotBound i params.length) ∨
      (¬ ∃ i, q.LacksParameter params i) ∧
        ∃ c v, q.Misasks keys naming params c v ∧ e = .membershipNeedsList c v := by
  rcases Outcome.bind_eq_error.mp h with h | ⟨b, hb, h⟩
  · exact .inl (lacks_of_bind h)
  · refine .inr ⟨fun ⟨i, hi⟩ => not_lacks_of_bind hb i hi, ?_⟩
    rcases Outcome.bind_eq_error.mp h with h | ⟨r, -, h⟩
    · obtain ⟨g, hg, hagree, herror⟩ := ColumnTests.emitAll_eq_error h
      obtain ⟨c, l, ls, hls, hk, rfl⟩ := ColumnTests.mem_ofQuery_agreeing.mp ⟨hg, hagree⟩
      obtain ⟨hl, hc, m, hm, hmalformed, rfl⟩ := ColumnTests.emit_ofLeaves_eq_error herror
      obtain rfl : l.column = c := (mem_testsOn.mp (hls ▸ List.mem_cons_self)).2
      exact ⟨l.column, m.operand, misasks_of_testsOn hb hls hk hl hc hm hmalformed, rfl⟩
    · contradiction

theorem plan_of_misasks (h : q.Misasks keys naming params c v) :
    ∃ e, q.plan keys naming params = .error e := by
  cases hplan : q.plan keys naming params with
  | error e => exact ⟨e, rfl⟩
  | ok p =>
    obtain ⟨b, hb, hplan⟩ := Outcome.bind_eq_ok.mp hplan
    obtain ⟨r, hemit, -⟩ := Outcome.bind_eq_ok.mp hplan
    obtain ⟨l, ls, hls, hwithin, rfl, m, hm, rfl⟩ := h.testsOn hb
    obtain ⟨hl, hrest⟩ := List.forall_mem_cons.mp hwithin
    have hk : ∀ n ∈ ls, n.kind = l.kind := fun n hn => (hrest n hn).trans hl.symm
    obtain ⟨hg, hagree⟩ := ColumnTests.mem_ofQuery_agreeing.mpr ⟨l.column, l, ls, hls, hk, rfl⟩
    obtain ⟨r, hr⟩ := ColumnTests.emit_of_emitAll hemit hg hagree
    exact absurd (ColumnTests.hasElements_of_emit hr hl h.scalar m hm) h.malformed

/-- A membership test that cannot make a plan fail, whatever its operand. -/
def Tolerates (keys : KeyLayout) (naming : Naming) (q : Query) (t : FieldTest) : Prop :=
  keys.isPushdownKey (naming.normalize t.field) = false ∨
    keys.isCollection (naming.normalize t.field) = true ∨
    ∃ leaf ∈ q.pushableOn naming (naming.normalize t.field), leaf.2.kind ≠ .within

/-- Planning fails if and only if a parameter is missing anywhere in the filter or a scalar column
is asked, by membership alone, for something without elements. The error names the cause; tests
inside a disjunction, on other columns and on columns of mixed kinds never are one. -/
theorem plan_fails_iff (q : Query) (keys : KeyLayout) (naming : Naming) (params : List Value) :
    ((∃ e, q.plan keys naming params = .error e) ↔
      (∃ i, q.LacksParameter params i) ∨
        (¬ ∃ i, q.LacksParameter params i) ∧ ∃ c v, q.Misasks keys naming params c v) ∧
    (∀ e, q.plan keys naming params = .error e →
      e.toError.category = .configuration ∧ e.toError.origin = .planner ∧
        ((∃ i, q.LacksParameter params i ∧ e = .parameterNotBound i params.length) ∨
          (¬ ∃ i, q.LacksParameter params i) ∧
            ∃ c v, q.Misasks keys naming params c v ∧ e = .membershipNeedsList c v)) ∧
    ((¬ ∃ i, q.LacksParameter params i) →
      (∀ leaf ∈ q.conjunctiveLeaves, leaf.2.kind = .within → ∀ v,
        leaf.2.operand.resolve params = .ok v → ¬ v.HasElements → q.Tolerates keys naming leaf.2) →
      ∃ p, q.plan keys naming params = .ok p) := by
  refine ⟨⟨?_, ?_⟩, fun e h => ⟨rfl, rfl, plan_eq_error h⟩, ?_⟩
  · rintro ⟨e, h⟩
    rcases plan_eq_error h with ⟨i, hi, -⟩ | ⟨hsupplied, c, v, hmisasks, -⟩
    · exact .inl ⟨i, hi⟩
    · exact .inr ⟨hsupplied, c, v, hmisasks⟩
  · rintro (⟨i, hi⟩ | ⟨-, c, v, hmisasks⟩)
    · cases hb : q.bind params with
      | error e => exact ⟨e, plan_of_bind_error hb⟩
      | ok b => exact absurd hi (not_lacks_of_bind hb i)
    · exact plan_of_misasks hmisasks
  · intro hsupplied htolerated
    cases hplan : q.plan keys naming params with
    | ok p => exact ⟨p, rfl⟩
    | error e =>
      rcases plan_eq_error hplan with ⟨i, hi, -⟩ | ⟨-, c, v, hmisasks, -⟩
      · exact absurd ⟨i, hi⟩ hsupplied
      · obtain ⟨leaf, hleaf, hv⟩ := hmisasks.operand
        have hwithin := hmisasks.memberships leaf hleaf
        obtain ⟨hmem, -, rfl⟩ := mem_pushableOn.mp hleaf
        rcases htolerated leaf hmem hwithin v hv hmisasks.malformed with h | h | ⟨n, hn, hkind⟩
        · exact absurd (h.symm.trans hmisasks.key) Bool.false_ne_true
        · exact absurd (hmisasks.scalar.symm.trans h) Bool.false_ne_true
        · exact absurd (hmisasks.memberships n hn) hkind

def mixedKinds : Query :=
  { resource := "user"
    filter := [
      .any [.test ⟨"status", .within, .value (.int 1)⟩],
      .test ⟨"name", .within, .value (.int 1)⟩,
      .test ⟨"age", .within, .value (.int 1)⟩,
      .all [.test ⟨"age", .compare .gt, .value (.int 1)⟩],
      .test ⟨"status", .within, .parameter 0⟩] }

theorem plan_fails_iff_mixedKinds :
    (∃ p, mixedKinds.plan { partition := ["status", "age"] } .identity [.list []] = .ok p) ∧
      (∃ e, mixedKinds.plan { partition := ["status", "age"] } .identity [.int 7] = .error e ∧
        e = .membershipNeedsList "status" (.int 7) ∧ e.toError.origin = .planner) ∧
      ∃ e, mixedKinds.plan { partition := ["status", "age"] } .identity [] = .error e ∧
        e = .parameterNotBound 0 0 ∧ e.toError.category = .configuration := by
  refine ⟨?_, ?_, ?_⟩
  · apply (plan_fails_iff mixedKinds { partition := ["status", "age"] } .identity [.list []]).2.2
    · have hb : ∃ b, mixedKinds.bind [.list []] = .ok b := ⟨_, rfl⟩
      obtain ⟨b, hb⟩ := hb
      exact fun ⟨i, hi⟩ => not_lacks_of_bind hb i hi
    · have hleaves : mixedKinds.conjunctiveLeaves =
          [(1, ⟨"name", .within, .value (.int 1)⟩), (2, ⟨"age", .within, .value (.int 1)⟩),
            (3, ⟨"age", .compare .gt, .value (.int 1)⟩),
            (4, ⟨"status", .within, .parameter 0⟩)] := rfl
      simp only [hleaves, List.forall_mem_cons]
      refine ⟨?name, ?age, ?compared, ?status, List.forall_mem_nil _⟩
      case name => exact fun _ _ _ _ => .inl rfl
      case age =>
        refine fun _ _ _ _ => .inr (.inr ⟨(3, ⟨"age", .compare .gt, .value (.int 1)⟩), ?_, nofun⟩)
        exact mem_pushableOn.mpr ⟨by simp [hleaves], rfl, rfl⟩
      case compared => exact nofun
      case status =>
        intro _ v hv hmalformed
        cases hv
        exact absurd ⟨[], .inl rfl⟩ hmalformed
  · refine ⟨_, rfl, rfl, ?_⟩
    exact ((plan_fails_iff mixedKinds { partition := ["status", "age"] } .identity [.int 7]).2.1 _
      rfl).2.1
  · refine ⟨_, rfl, rfl, ?_⟩
    exact ((plan_fails_iff mixedKinds { partition := ["status", "age"] } .identity []).2.1 _
      rfl).1

end Query

end WideColumn
