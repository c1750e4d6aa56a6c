import WideColumn.Proofs.Plan.PerColumn
import WideColumn.Proofs.Session.WrittenColumns
import WideColumn.Statement.Select
import WideColumn.Statement.Template

/-!
Inlined statements. The marks of a statement take its values one by one, so that rendering writes
beside each column the value meant for it. A value that contains a mark is not read again.
-/

namespace WideColumn

open Outcome

namespace Value

def inlined (v : Value) : String :=
  v.coerce.display

end Value

namespace Fragment

def inlined : Fragment → String
  | compare column op value => column ++ " " ++ op.symbol ++ " " ++ value.inlined
  | contains column value => column ++ " CONTAINS " ++ value.inlined
  | oneOf column values => column ++ " IN (" ++ ", ".intercalate (values.map Value.inlined) ++ ")"

end Fragment

namespace Statement

def equationInlined (e : String × Value) : String :=
  e.1 ++ " = " ++ e.2.inlined

def insertInlined (table : String) (columns : List (String × Value)) : String :=
  "INSERT INTO " ++ table ++ " (" ++ ", ".intercalate (columns.map Prod.fst) ++ ") VALUES (" ++
    ", ".intercalate (columns.map fun e => e.2.inlined) ++ ") IF NOT EXISTS;"

def whereInlined : List Fragment → String
  | [] => ""
  | conditions => " WHERE " ++ " AND ".intercalate (conditions.map Fragment.inlined)

def selectInlined (items : Option (List SelectItem)) (table : String) (conditions : List Fragment)
    (limit : Option UInt32) : String :=
  "SELECT " ++ itemsText items ++ " FROM " ++ table ++ whereInlined conditions ++
    limitText limit ++ ";"

def updateInlined (table : String) (assignments keys : List (String × Value)) : String :=
  "UPDATE " ++ table ++ " SET " ++ ", ".intercalate (assignments.map equationInlined) ++
    " WHERE " ++ " AND ".intercalate (keys.map equationInlined) ++ ";"

def deleteInlined (table : String) (keys : List (String × Value)) : String :=
  "DELETE FROM " ++ table ++ " WHERE " ++ " AND ".intercalate (keys.map equationInlined) ++ ";"

def Unmarked (text : String) : Prop :=
  '?' ∉ text.toList

instance (text : String) : Decidable (Unmarked text) :=
  inferInstanceAs (Decidable ('?' ∉ text.toList))

theorem Unmarked.append {s t : String} (hs : Unmarked s) (ht : Unmarked t) : Unmarked (s ++ t) := by
  rw [Unmarked, String.toList_append, List.mem_append, not_or]
  exact ⟨hs, ht⟩

/-- The marks of a text take the values given, and with these in their place it reads `inlined`,
whatever text and values follow. -/
structure Takes (text : String) (given : List Value) (inlined : String) : Prop where
  marks : text.toList.count '?' = given.length
  fill : ∀ cs vs, fill (text.toList ++ cs) (given.map Value.coerce ++ vs) =
    inlined.toList ++ fill cs vs

theorem fill_unmarked {cs : List Char} (h : '?' ∉ cs) (rest : List Char) (vs : List Value) :
    fill (cs ++ rest) vs = cs ++ fill rest vs := by
  induction cs with
  | nil => rfl
  | cons c cs ih =>
    rw [List.mem_cons, not_or] at h
    rw [List.cons_append, fill, ih h.2, List.cons_append]
    exact fun _ _ _ hc => h.1 hc.symm

theorem unmarked_comma : Unmarked ", " := by decide

theorem unmarked_and : Unmarked " AND " := by decide

namespace Takes

variable {text text' inlined inlined' separator : String} {given given' : List Value}

theorem unmarked (h : Unmarked text) : Takes text [] text where
  marks := List.count_eq_zero.mpr h
  fill := fill_unmarked h

theorem mark (v : Value) : Takes "?" [v] v.inlined where
  marks := rfl
  fill _ _ := rfl

theorem append (h : Takes text given inlined) (h' : Takes text' given' inlined') :
    Takes (text ++ text') (given ++ given') (inlined ++ inlined') where
  marks := by
    rw [String.toList_append, List.count_append, h.marks, h'.marks, List.length_append]
  fill cs vs := by
    rw [String.toList_append, String.toList_append, List.map_append, List.append_assoc,
      List.append_assoc, List.append_assoc, h.fill, h'.fill]

theorem before (h : Takes text given inlined) (h' : Unmarked text') :
    Takes (text ++ text') given (inlined ++ text') := by
  have htakes := h.append (unmarked h')
  rwa [List.append_nil] at htakes

theorem after (h : Unmarked text) (h' : Takes text' given' inlined') :
    Takes (text ++ text') given' (text ++ inlined') := (unmarked h).append h'

theorem intercalate {α : Type} {xs : List α} {textOf inlinedOf : α → String}
    {givenOf : α → List Value} (hsep : Unmarked separator)
    (h : ∀ x ∈ xs, Takes (textOf x) (givenOf x) (inlinedOf x)) :
    Takes (separator.intercalate (xs.map textOf)) (xs.flatMap givenOf)
      (separator.intercalate (xs.map inlinedOf)) := by
  induction xs with
  | nil => exact unmarked List.not_mem_nil
  | cons x xs ih =>
    obtain ⟨hx, hxs⟩ := List.forall_mem_cons.mp h
    cases xs with
    | nil => simpa using hx
    | cons y ys =>
      simp only [List.map_cons, String.intercalate_cons_cons] at ih ⊢
      exact (hx.before hsep).append (ih hxs)

theorem placeholders (values : List Value) :
    Takes (placeholders values.length) values (", ".intercalate (values.map Value.inlined)) := by
  have hmarks : ∀ v ∈ values, Takes "?" [v] v.inlined := fun v _ => mark v
  have h := intercalate unmarked_comma hmarks
  rwa [List.map_const', List.flatMap_singleton'] at h

end Takes

theorem unmarked_intercalate {separator : String} {names : List String}
    (hsep : Unmarked separator) (h : ∀ name ∈ names, Unmarked name) :
    Unmarked (separator.intercalate names) := by
  have hnames : ∀ name ∈ names, Takes (id name) [] (id name) :=
    fun name hname => .unmarked (h name hname)
  have htakes := Takes.intercalate hsep hnames
  simpa [Unmarked, List.count_eq_zero] using htakes.marks

theorem unmarked_repr (n : Nat) : Unmarked (toString n) := by
  intro h
  have hrepr : (toString n).toList = Nat.toDigits 10 n := by
    rw [Nat.toString_eq_repr, Nat.repr_eq_ofList_toDigits, String.toList_ofList]
  rw [hrepr] at h
  have hdigit := Nat.isDigit_of_mem_toDigits (by decide) (by decide) h
  contradiction

theorem unmarked_limitText (limit : Option UInt32) : Unmarked (limitText limit) := by
  cases limit with
  | none => decide
  | some limit => exact .append (by decide) (unmarked_repr limit.toNat)

theorem unmarked_symbol (op : Comparison) : Unmarked op.symbol := by
  cases op <;> decide

theorem equationText (column : String) : column ++ " = ?" = column ++ " = " ++ "?" := by
  rw [String.append_assoc]
  rfl

def names : Statement → List String
  | insert table columns => table :: columns.map Prod.fst
  | select items table conditions _ =>
    table :: (items.getD []).flatMap (fun item => item.column :: item.asName.toList) ++
      conditions.map Fragment.column
  | update table assignments keys => table :: (assignments ++ keys).map Prod.fst
  | delete table keys => table :: keys.map Prod.fst
  | literal _ _ => []

namespace Takes

variable {columns : List (String × Value)}

theorem equations {separator : String} (hsep : Unmarked separator)
    (h : ∀ e ∈ columns, Unmarked e.1) :
    Takes (separator.intercalate (equations (columns.map Prod.fst))) (columns.map Prod.snd)
      (separator.intercalate (columns.map equationInlined)) := by
  have hequation : ∀ e ∈ columns, Takes (e.1 ++ " = ?") [e.2] (equationInlined e) := by
    intro e he
    rw [equationText]
    exact after ((h e he).append (by decide)) (mark e.2)
  have htakes := intercalate hsep hequation
  rw [← List.map_eq_flatMap] at htakes
  rwa [Statement.equations, List.map_map]

theorem fragment {f : Fragment} (h : Unmarked f.column) : Takes f.text f.values f.inlined := by
  cases f with
  | compare column op v =>
    have htext : column ++ " " ++ op.symbol ++ " ?" = column ++ " " ++ op.symbol ++ " " ++ "?" := by
      rw [@String.append_assoc _ " " "?"]
      rfl
    rw [Fragment.text, htext]
    exact after (((h.append (by decide)).append (unmarked_symbol op)).append (by decide)) (mark v)
  | contains column v =>
    have htext : column ++ " CONTAINS ?" = column ++ " CONTAINS " ++ "?" := by
      rw [String.append_assoc]
      rfl
    rw [Fragment.text, htext]
    exact after (h.append (by decide)) (mark v)
  | oneOf column values =>
    exact (after (h.append (by decide)) (placeholders values)).before (by decide)

theorem whereText {conditions : List Fragment} (h : ∀ f ∈ conditions, Unmarked f.column) :
    Takes (whereText conditions) (conditions.flatMap Fragment.values)
      (whereInlined conditions) := by
  cases conditions with
  | nil => exact unmarked List.not_mem_nil
  | cons f fs => exact after (by decide) (intercalate (by decide) fun g hg => fragment (h g hg))

end Takes

theorem unmarked_itemsText {items : Option (List SelectItem)}
    (h : ∀ name ∈ (items.getD []).flatMap fun item => item.column :: item.asName.toList,
      Unmarked name) : Unmarked (itemsText items) := by
  cases items with
  | none => decide
  | some items =>
    apply unmarked_intercalate (by decide)
    intro text htext
    obtain ⟨⟨column, asName⟩, hitem, rfl⟩ := List.mem_map.mp htext
    have hcolumn := h column (List.mem_flatMap.mpr ⟨_, hitem, List.mem_cons_self⟩)
    cases asName with
    | none => exact hcolumn
    | some name =>
      have hname := h name (List.mem_flatMap.mpr ⟨_, hitem, by simp⟩)
      exact (hcolumn.append (by decide)).append hname

/-- The statement binds these values, one for each mark, and is rendered as this text. -/
structure LinesUp (st : Statement) (given : List Value) (inlined : String) : Prop where
  values : st.values = given.map Value.coerce
  marks : st.cql.toList.count '?' = st.values.length
  render : st.render = inlined

variable {table : String} {columns assignments keys : List (String × Value)}

theorem Takes.linesUp (st : Statement) {inlined : String} (h : Takes st.cql st.operands inlined) :
    st.LinesUp st.operands inlined where
  values := rfl
  marks := by rw [h.marks, values, List.length_map]
  render := by
    have hfill := h.fill [] []
    rw [List.append_nil, List.append_nil, Statement.fill, List.append_nil] at hfill
    rw [render, values, hfill, String.ofList_toList]

theorem insert_linesUp (h : ∀ name ∈ (insert table columns).names, Unmarked name) :
    (insert table columns).LinesUp (columns.map Prod.snd) (insertInlined table columns) := by
  obtain ⟨htable, hcolumns⟩ := List.forall_mem_cons.mp h
  have hnames := unmarked_intercalate unmarked_comma hcolumns
  have hlead := ((((show Unmarked "INSERT INTO " by decide).append htable).append
    (show Unmarked " (" by decide)).append hnames).append (show Unmarked ") VALUES (" by decide)
  have hvalues := Takes.placeholders (columns.map Prod.snd)
  have hlength : (columns.map Prod.snd).length = (columns.map Prod.fst).length := by simp
  rw [hlength, List.map_map] at hvalues
  have htext : Takes (insertText table (columns.map Prod.fst)) (columns.map Prod.snd)
      (insertInlined table columns) := (Takes.after hlead hvalues).before (by decide)
  exact Takes.linesUp (insert table columns) htext

theorem select_linesUp {items : Option (List SelectItem)} {conditions : List Fragment}
    {limit : Option UInt32}
    (h : ∀ name ∈ (select items table conditions limit).names, Unmarked name) :
    (select items table conditions limit).LinesUp (conditions.flatMap Fragment.values)
      (selectInlined items table conditions limit) := by
  obtain ⟨htable, hnames⟩ := List.forall_mem_cons.mp h
  obtain ⟨hitems, hconditions⟩ := List.forall_mem_append.mp hnames
  rw [List.forall_mem_map] at hconditions
  have hlead := (((show Unmarked "SELECT " by decide).append (unmarked_itemsText hitems)).append
    (show Unmarked " FROM " by decide)).append htable
  have htext : Takes (selectText items table conditions limit)
      (conditions.flatMap Fragment.values) (selectInlined items table conditions limit) :=
    ((Takes.after hlead (.whereText hconditions)).before (unmarked_limitText limit)).before
      (by decide)
  exact Takes.linesUp (select items table conditions limit) htext

theorem update_linesUp (h : ∀ name ∈ (update table assignments keys).names, Unmarked name) :
    (update table assignments keys).LinesUp (assignments.map Prod.snd ++ keys.map Prod.snd)
      (updateInlined table assignments keys) := by
  obtain ⟨htable, hnames⟩ := List.forall_mem_cons.mp h
  rw [List.forall_mem_map, List.forall_mem_append] at hnames
  have hlead := ((show Unmarked "UPDATE " by decide).append htable).append
    (show Unmarked " SET " by decide)
  have hset := Takes.equations unmarked_comma hnames.1
  have hkeys := Takes.equations unmarked_and hnames.2
  have htext : Takes (updateText table (assignments.map Prod.fst) (keys.map Prod.fst))
      (assignments.map Prod.snd ++ keys.map Prod.snd) (updateInlined table assignments keys) :=
    (((Takes.after hlead hset).before (by decide)).append hkeys).before (by decide)
  exact Takes.linesUp (update table assignments keys) htext

theorem delete_linesUp (h : ∀ name ∈ (delete table keys).names, Unmarked name) :
    (delete table keys).LinesUp (keys.map Prod.snd) (deleteInlined table keys) := by
  obtain ⟨htable, hnames⟩ := List.forall_mem_cons.mp h
  rw [List.forall_mem_map] at hnames
  have hlead := ((show Unmarked "DELETE FROM " by decide).append htable).append
    (show Unmarked " WHERE " by decide)
  have hkeys := Takes.equations unmarked_and hnames
  have htext : Takes (deleteText table (keys.map Prod.fst)) (keys.map Prod.snd)
      (deleteInlined table keys) := (Takes.after hlead hkeys).before (by decide)
  exact Takes.linesUp (delete table keys) htext

end Statement

def Query.conditions (keys : KeyLayout) (naming : Naming) (b : Query) : List Fragment :=
  (b.testedColumns keys naming).flatMap fun c =>
    ColumnLeaf.fragments keys c (b.testsOn keys naming c)

theorem SelectPlan.statement_of_build {q : Query} {keys : KeyLayout} {naming : Naming}
    {params : List Value} {plan : SelectPlan} (h : build q keys naming params = .ok plan) :
    ∃ b, q.bind params = .ok b ∧
      plan.statement = .select (selectItems naming plan.projection) (naming.normalize q.resource)
        (b.conditions keys naming) plan.pushdown.nativeLimit := by
  obtain ⟨p, hp, h⟩ := bind_eq_ok.mp h
  obtain ⟨b, hb, hfragments, -⟩ := Query.plan_eq_ok hp
  cases h
  exact ⟨b, hb, by rw [hfragments]; rfl⟩

namespace Statement

/-- In every statement that is built, as far as the names in it hold no mark, there is one mark for
each value, and rendering writes each column's own value there. -/
theorem built_linesUp :
    (∀ (resource : String) (values : NamedValues) (catalog : Catalog) (naming : Naming) st,
      buildInsert resource values catalog naming = .ok st → (∀ name ∈ st.names, Unmarked name) →
        ∃ columns, columns = (insertable catalog naming resource values.entries).map
            (fun e => (naming.normalize e.1, e.2)) ∧
          st.LinesUp (columns.map Prod.snd) (insertInlined resource columns)) ∧
    (∀ (q : Query) (keys : KeyLayout) (naming : Naming) (params : List Value) plan,
      SelectPlan.build q keys naming params = .ok plan →
      (∀ name ∈ plan.statement.names, Unmarked name) →
        ∃ b, q.bind params = .ok b ∧
          plan.statement.LinesUp ((b.conditions keys naming).flatMap Fragment.values)
            (selectInlined (SelectPlan.selectItems naming plan.projection)
              (naming.normalize q.resource) (b.conditions keys naming)
              plan.pushdown.nativeLimit)) ∧
    (∀ (t : UpdateTemplate) (setValues keyValues : List Value) st,
      t.bind setValues keyValues = .ok st → (∀ name ∈ st.names, Unmarked name) →
        st.LinesUp (setValues ++ keyValues)
          (updateInlined t.resource (t.setColumns.zip setValues) (t.keyColumns.zip keyValues))) ∧
    ∀ (t : DeleteTemplate) (keyValues : List Value) st,
      t.bind keyValues = .ok st → (∀ name ∈ st.names, Unmarked name) →
        st.LinesUp keyValues (deleteInlined t.resource (t.keyColumns.zip keyValues)) := by
  refine ⟨?insert, ?select, ?update, ?delete⟩
  case insert =>
    intro resource values catalog naming st h hnames
    obtain rfl := buildInsert_eq_ok h
    exact ⟨_, rfl, insert_linesUp hnames⟩
  case select =>
    intro q keys naming params plan h hnames
    obtain ⟨b, hb, hstatement⟩ := SelectPlan.statement_of_build h
    rw [hstatement] at hnames ⊢
    exact ⟨b, hb, select_linesUp hnames⟩
  case update =>
    intro t setValues keyValues st h hnames
    rw [UpdateTemplate.bind] at h
    split at h
    · rename_i hlengths
      cases h
      have hlinesUp := update_linesUp hnames
      rwa [List.map_snd_zip hlengths.1.le, List.map_snd_zip hlengths.2.le] at hlinesUp
    · contradiction
  case delete =>
    intro t keyValues st h hnames
    rw [DeleteTemplate.bind] at h
    split at h
    · rename_i hlength
      cases h
      have hlinesUp := delete_linesUp hnames
      rwa [List.map_snd_zip hlength.le] at hlinesUp
    · contradiction

def askedUsers : Query :=
  { resource := "user"
    filter := [.test ⟨"name", .within, .value (.list [.text "who?", .text "Ann"])⟩,
      .test ⟨"id", .compare .gt, .parameter 0⟩]
    limit := some 5 }

def renamingTemplate : UpdateTemplate := ⟨"user", ["name"], ["id"], by simp, by simp⟩

def removingTemplate : DeleteTemplate := ⟨"user", ["name", "id"], by simp⟩

theorem built_linesUp_askedUsers :
    (∃ st, buildInsert "user" (.ofList [("id", .int 1), ("name", .text "who?")])
        (MemoryCatalog.ofTables [Session.userTable]).toCatalog .identity = .ok st ∧
      (∀ name ∈ st.names, Unmarked name) ∧
      st.render = "INSERT INTO user (id, name) VALUES (1, 'who?') IF NOT EXISTS;") ∧
    (∃ plan, SelectPlan.build askedUsers { partition := ["id"], indexed := ["name"] } .identity
        [.int 7] = .ok plan ∧
      (∀ name ∈ plan.statement.names, Unmarked name) ∧
      plan.statement.render =
        "SELECT * FROM user WHERE name IN ('who?', 'Ann') AND id > 7 LIMIT 5;") ∧
    (∃ st, renamingTemplate.bind [.text "who?"] [.int 1] = .ok st ∧
      (∀ name ∈ st.names, Unmarked name) ∧
      st.render = "UPDATE user SET name = 'who?' WHERE id = 1;") ∧
    ∃ st, removingTemplate.bind [.text "who?", .int 1] = .ok st ∧
      (∀ name ∈ st.names, Unmarked name) ∧
      st.render = "DELETE FROM user WHERE name = 'who?' AND id = 1;" := by
  refine ⟨⟨_, rfl, by decide, ?insert⟩, ⟨_, rfl, by decide, ?select⟩,
    ⟨_, rfl, by decide, ?update⟩, _, rfl, by decide, ?delete⟩
  case insert =>
    obtain ⟨columns, rfl, h⟩ := built_linesUp.1 "user"
      (.ofList [("id", .int 1), ("name", .text "who?")])
      (MemoryCatalog.ofTables [Session.userTable]).toCatalog .identity _ rfl (by decide)
    exact h.render.trans (by decide +kernel)
  case select =>
    obtain ⟨b, hb, h⟩ := built_linesUp.2.1 askedUsers { partition := ["id"], indexed := ["name"] }
      .identity [.int 7] _ rfl (by decide)
    cases hb
    exact h.render.trans (by decide +kernel)
  case update =>
    have h := built_linesUp.2.2.1 renamingTemplate [.text "who?"] [.int 1] _ rfl (by decide)
    exact h.render.trans (by decide +kernel)
  case delete =>
    have h := built_linesUp.2.2.2 removingTemplate [.text "who?", .int 1] _ rfl (by decide)
    exact h.render.trans (by decide +kernel)

end Statement

end WideColumn
