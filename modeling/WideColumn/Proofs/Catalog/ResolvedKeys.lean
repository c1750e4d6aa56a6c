import WideColumn.Catalog.Memory
import WideColumn.Plan.KeyLayout
import WideColumn.Proofs.Outcome

/-!
Keys as the planner and the catalog see them. Both take them from what the tables were declared
with, each on its own, and they agree. The planner has no keys of a table if one of its indexes
covers a column that was never declared.
-/

namespace WideColumn

open Outcome

section AppendMissing

variable {keys columns : List String} {c : String}

theorem mem_appendMissing : c ∈ appendMissing keys columns ↔ c ∈ keys ∨ c ∈ columns := by
  induction columns generalizing keys with
  | nil => simp [appendMissing]
  | cons d ds ih =>
    rw [appendMissing, ih, List.mem_cons]
    split
    · next hd =>
      rw [List.contains_iff_mem] at hd
      constructor
      · exact Or.imp_right .inr
      · rintro (hc | rfl | hc)
        · exact .inl hc
        · exact .inl hd
        · exact .inr hc
    · rw [List.mem_append, List.mem_singleton, or_assoc]

theorem find?_appendMissing (p : String → Bool) :
    (appendMissing keys columns).find? p = (keys.find? p).or (columns.find? p) := by
  induction columns generalizing keys with
  | nil => exact Option.or_none.symm
  | cons d ds ih =>
    rw [appendMissing, ih]
    split
    · next hd =>
      rw [List.contains_iff_mem] at hd
      cases hp : p d with
      | true =>
        -- then the keys have an earlier one
        obtain ⟨k, hk⟩ := Option.isSome_iff_exists.mp (List.find?_isSome.mpr ⟨d, hd, hp⟩)
        rw [hk]
        rfl
      | false => rw [List.find?_cons, hp]
    · rw [List.find?_append, Option.or_assoc, ← List.find?_append, List.singleton_append]

end AppendMissing

namespace KeyLayout

section Members

variable {keys : KeyLayout} {c : String}

theorem isRowKey_iff : keys.isRowKey c = true ↔ c ∈ keys.rowKeys := by
  rw [isRowKey, rowKeys, Bool.or_eq_true, List.contains_iff_mem, List.contains_iff_mem,
    List.mem_append]

theorem isPushdownKey_iff : keys.isPushdownKey c = true ↔ c ∈ keys.pushdownKeys := by
  rw [isPushdownKey, pushdownKeys, Bool.or_eq_true, isRowKey_iff, List.contains_iff_mem,
    mem_appendMissing]

end Members

section Resolved

variable {catalog : Catalog} {resource : String} {keys : KeyLayout}

theorem resolve_eq_ok : resolve catalog resource = .ok keys ↔
    catalog.partitionKeys resource = .ok keys.partition ∧
      catalog.clusteringKeys resource = .ok keys.clustering ∧
      catalog.indexedColumns resource = .ok keys.indexed ∧
      collectionsAmong catalog resource keys.pushdownKeys = .ok keys.collections := by
  simp only [resolve, bind_eq_ok, pure_eq_ok]
  constructor
  · rintro ⟨partition, hpartition, clustering, hclustering, indexed, hindexed, collections,
      hcollections, rfl⟩
    exact ⟨hpartition, hclustering, hindexed, hcollections⟩
  · rintro ⟨hpartition, hclustering, hindexed, hcollections⟩
    exact ⟨_, hpartition, _, hclustering, _, hindexed, _, hcollections, rfl⟩

theorem rowKeys_of_resolve (h : resolve catalog resource = .ok keys) :
    catalog.rowKeys resource = .ok keys.rowKeys := by
  obtain ⟨hpartition, hclustering, -, -⟩ := resolve_eq_ok.mp h
  rw [Catalog.rowKeys, hpartition, hclustering]
  rfl

theorem pushdownKeys_of_resolve (h : resolve catalog resource = .ok keys) :
    catalog.pushdownKeys resource = .ok keys.pushdownKeys := by
  obtain ⟨-, -, hindexed, -⟩ := resolve_eq_ok.mp h
  rw [Catalog.pushdownKeys, rowKeys_of_resolve h, hindexed]
  rfl

end Resolved

end KeyLayout

namespace TableSchema

variable {t : TableSchema} {c : String}

theorem isNone_columnType? :
    (t.columnType? c).isNone = true ↔ c ∉ t.columns.map Prod.fst := by
  rw [Option.isNone_iff_eq_none, columnType?, List.lookup_eq_none_iff, List.mem_map]
  constructor
  · rintro h ⟨e, he, rfl⟩
    simpa using h e he
  · intro h e he
    rw [bne_iff_ne]
    rintro rfl
    exact h ⟨e, he, rfl⟩

def keyLayout (t : TableSchema) : KeyLayout where
  partition := t.partitionKeys
  clustering := t.clusteringKeys
  indexed := t.indexes
  collections := (appendMissing (t.partitionKeys ++ t.clusteringKeys) t.indexes).filter fun c =>
    (t.columnType? c).any ColumnType.isCollection

theorem isCollection_keyLayout : t.keyLayout.isCollection c = true ↔
    c ∈ t.keyLayout.pushdownKeys ∧ ∃ type, t.columnType? c = some type ∧
      type.isCollection = true := by
  rw [KeyLayout.isCollection, List.contains_iff_mem, ← Option.any_eq_true]
  exact List.mem_filter

end TableSchema

namespace MemoryCatalog

variable {m : MemoryCatalog} {resource : String} {t : TableSchema}

section Known

variable (ht : m.table resource = .ok t)

include ht

theorem table_bind {α : Type} (f : TableSchema → Except CatalogError α) :
    (m.table resource >>= f) = f t := by
  rw [ht]
  rfl

theorem columnType_eq (c : String) : m.toCatalog.columnType resource c =
    (t.columnType? c).elim (.error (.columnNotFound resource c)) .ok := by
  refine (table_bind ht _).trans ?_
  cases t.columnType? c <;> rfl

theorem collectionsAmong_eq (cs : List String) :
    KeyLayout.collectionsAmong m.toCatalog resource cs =
      (cs.find? fun c => (t.columnType? c).isNone).elim
        (.ok (cs.filter fun c => (t.columnType? c).any ColumnType.isCollection))
        fun c => .error (.columnNotFound resource c) := by
  induction cs with
  | nil => rfl
  | cons c cs ih =>
    rw [KeyLayout.collectionsAmong, columnType_eq ht, ih, List.find?_cons, List.filter_cons]
    cases t.columnType? c with
    | none => rfl
    | some type =>
      cases cs.find? fun c => (t.columnType? c).isNone with
      | some d => rfl
      | none =>
        rw [Option.any_some]
        rfl

theorem resolve_eq : KeyLayout.resolve m.toCatalog resource =
    (t.indexes.find? fun c => (t.columnType? c).isNone).elim (.ok t.keyLayout)
      fun c => .error (.columnNotFound resource c) := by
  have hpartition : m.toCatalog.partitionKeys resource = .ok t.partitionKeys := table_bind ht _
  have hclustering : m.toCatalog.clusteringKeys resource = .ok t.clusteringKeys := table_bind ht _
  have hindexed : m.toCatalog.indexedColumns resource = .ok t.indexes := table_bind ht _
  have hkeys : (t.partitionKeys ++ t.clusteringKeys).find?
      (fun c => (t.columnType? c).isNone) = none := by
    rw [List.find?_eq_none]
    intro c hc hnone
    exact TableSchema.isNone_columnType?.mp hnone (t.keys_declared c hc)
  rw [KeyLayout.resolve, hpartition, hclustering, hindexed]
  change (KeyLayout.collectionsAmong m.toCatalog resource
    (appendMissing (t.partitionKeys ++ t.clusteringKeys) t.indexes) >>= _) = _
  rw [collectionsAmong_eq ht, find?_appendMissing, hkeys, Option.none_or]
  cases t.indexes.find? fun c => (t.columnType? c).isNone <;> rfl

end Known

end MemoryCatalog

inductive Declaration where
  | column (name : String) (type : ColumnType)
  | partitionKey (name : String) (type : ColumnType)
  | clusteringKey (name : String) (type : ColumnType)
  | index (target : String)
deriving DecidableEq, Repr

namespace Declaration

def column? : Declaration → Option (String × ColumnType)
  | column name type | partitionKey name type | clusteringKey name type => some (name, type)
  | index _ => none

def partitionKey? : Declaration → Option String
  | partitionKey name _ => some name
  | _ => none

def clusteringKey? : Declaration → Option String
  | clusteringKey name _ => some name
  | _ => none

def indexed? : Declaration → Option String
  | index target => some (IndexTarget.column target)
  | _ => none

def columns (ds : List Declaration) : List (String × ColumnType) :=
  ds.filterMap column?

def undeclared? (ds : List Declaration) : Option String :=
  (ds.filterMap indexed?).find? fun c => c ∉ (columns ds).map Prod.fst

def CoversColumns (ds : List Declaration) : Prop :=
  ∀ target, .index target ∈ ds → IndexTarget.column target ∈ (columns ds).map Prod.fst

theorem mem_indexed_iff {ds : List Declaration} {c : String} :
    c ∈ ds.filterMap indexed? ↔ ∃ target, .index target ∈ ds ∧ IndexTarget.column target = c := by
  rw [List.mem_filterMap]
  constructor
  · rintro ⟨d, hd, hc⟩
    cases d with
    | index target => exact ⟨target, hd, Option.some.inj hc⟩
    | column | partitionKey | clusteringKey => cases hc
  · rintro ⟨target, htarget, rfl⟩
    exact ⟨_, htarget, rfl⟩

theorem undeclared?_eq_none_iff {ds : List Declaration} :
    undeclared? ds = none ↔ CoversColumns ds := by
  simp only [undeclared?, CoversColumns, List.find?_eq_none, mem_indexed_iff, decide_eq_true_iff,
    Decidable.not_not]
  constructor
  · exact fun h target htarget => h _ ⟨target, htarget, rfl⟩
  · rintro h _ ⟨target, htarget, rfl⟩
    exact h target htarget

end Declaration

namespace TableSchema

def declare (t : TableSchema) : Declaration → TableSchema
  | .column name type => t.withColumn name type
  | .partitionKey name type => t.withPartitionKey name type
  | .clusteringKey name type => t.withClusteringKey name type
  | .index target => t.withIndex target

theorem noKeys_declared :
    ∀ k ∈ ([] ++ [] : List String), k ∈ ([] : List (String × ColumnType)).map Prod.fst :=
  List.forall_mem_nil _

def ofDeclarations (name : String) (ds : List Declaration) : TableSchema :=
  ds.foldl declare { name, keys_declared := noKeys_declared }

theorem declare_parts (t : TableSchema) (d : Declaration) :
    (t.declare d).columns = t.columns ++ d.column?.toList ∧
      (t.declare d).partitionKeys = t.partitionKeys ++ d.partitionKey?.toList ∧
      (t.declare d).clusteringKeys = t.clusteringKeys ++ d.clusteringKey?.toList ∧
      (t.declare d).indexes = t.indexes ++ d.indexed?.toList := by
  cases d <;> simp [declare, withColumn, withPartitionKey, withClusteringKey, withIndex,
    Declaration.column?, Declaration.partitionKey?, Declaration.clusteringKey?,
    Declaration.indexed?]

theorem foldl_declare {α : Type} {part : TableSchema → List α} {added? : Declaration → Option α}
    (h : ∀ t d, part (declare t d) = part t ++ (added? d).toList) (t : TableSchema)
    (ds : List Declaration) : part (ds.foldl declare t) = part t ++ ds.filterMap added? := by
  induction ds generalizing t with
  | nil => exact (List.append_nil _).symm
  | cons d ds ih =>
    rw [List.foldl_cons, ih, h, List.append_assoc, List.filterMap_cons]
    cases added? d <;> rfl

section OfDeclarations

variable (name : String) (ds : List Declaration)

theorem ofDeclarations_name : (ofDeclarations name ds).name = name := by
  have hkeeps (t : TableSchema) : (ds.foldl declare t).name = t.name := by
    induction ds generalizing t with
    | nil => rfl
    | cons d ds ih => cases d <;> exact ih _
  exact hkeeps _

theorem ofDeclarations_columns : (ofDeclarations name ds).columns = Declaration.columns ds :=
  foldl_declare (fun t d => (declare_parts t d).1) _ ds

theorem ofDeclarations_partitionKeys :
    (ofDeclarations name ds).partitionKeys = ds.filterMap Declaration.partitionKey? :=
  foldl_declare (fun t d => (declare_parts t d).2.1) _ ds

theorem ofDeclarations_clusteringKeys :
    (ofDeclarations name ds).clusteringKeys = ds.filterMap Declaration.clusteringKey? :=
  foldl_declare (fun t d => (declare_parts t d).2.2.1) _ ds

theorem ofDeclarations_indexes :
    (ofDeclarations name ds).indexes = ds.filterMap Declaration.indexed? :=
  foldl_declare (fun t d => (declare_parts t d).2.2.2) _ ds

end OfDeclarations

end TableSchema

namespace MemoryCatalog

def describe (tables : List (String × List Declaration)) : MemoryCatalog :=
  ofTables (tables.map fun e => .ofDeclarations e.1 e.2)

theorem ofTables_tables (tables : List TableSchema) :
    (ofTables tables).tables = tables.reverse := by
  have hfold (m : MemoryCatalog) : (tables.foldl insert m).tables = tables.reverse ++ m.tables := by
    induction tables generalizing m with
    | nil => rfl
    | cons t tables ih => simp [ih, insert]
  rw [ofTables, hfold, List.append_nil]

theorem find?_declared (resource : String) (tables : List (String × List Declaration)) :
    (tables.map fun e => TableSchema.ofDeclarations e.1 e.2).find? (fun t => t.name == resource) =
      (tables.lookup resource).map (TableSchema.ofDeclarations resource) := by
  induction tables with
  | nil => rfl
  | cons e tables ih =>
    rw [List.map_cons, List.find?_cons, TableSchema.ofDeclarations_name, List.lookup_cons, ih,
      BEq.comm]
    cases h : resource == e.1 with
    | false => rfl
    | true =>
      rw [beq_iff_eq] at h
      rw [h]
      rfl

theorem table_describe (tables : List (String × List Declaration)) (resource : String) :
    (describe tables).table resource =
      (tables.reverse.lookup resource).elim (.error (.resourceNotFound resource))
        fun ds => .ok (.ofDeclarations resource ds) := by
  rw [table, describe, ofTables_tables, ← List.map_reverse, find?_declared]
  cases tables.reverse.lookup resource <;> rfl

end MemoryCatalog

/-- The planner has the keys that the calls declared. They are the catalog's, and a key holds a
collection if the type it was first declared with does. -/
structure KeyLayout.Agrees (keys : KeyLayout) (catalog : Catalog) (resource : String)
    (ds : List Declaration) : Prop where
  partition : keys.partition = ds.filterMap Declaration.partitionKey?
  clustering : keys.clustering = ds.filterMap Declaration.clusteringKey?
  indexed : keys.indexed = ds.filterMap Declaration.indexed?
  rowKeys : catalog.rowKeys resource = .ok keys.rowKeys
  pushdownKeys : catalog.pushdownKeys resource = .ok keys.pushdownKeys
  isRowKey : ∀ c, keys.isRowKey c = true ↔ c ∈ keys.rowKeys
  isPushdownKey : ∀ c, keys.isPushdownKey c = true ↔ c ∈ keys.pushdownKeys
  isCollection : ∀ c, keys.isCollection c = true ↔ c ∈ keys.pushdownKeys ∧
    ∃ type, (Declaration.columns ds).lookup c = some type ∧ type.isCollection = true

namespace MemoryCatalog

variable {tables : List (String × List Declaration)} {resource : String} {ds : List Declaration}

theorem resolve_undescribed (h : tables.reverse.lookup resource = none) :
    KeyLayout.resolve (describe tables).toCatalog resource =
      .error (.resourceNotFound resource) := by
  have htable := table_describe tables resource
  rw [h] at htable
  have hpartition : (describe tables).toCatalog.partitionKeys resource =
      .error (.resourceNotFound resource) := by
    change ((describe tables).table resource >>= _) = _
    rw [htable]
    rfl
  rw [KeyLayout.resolve, hpartition]
  rfl

theorem resolve_described (h : tables.reverse.lookup resource = some ds) :
    KeyLayout.resolve (describe tables).toCatalog resource =
      (Declaration.undeclared? ds).elim (.ok (TableSchema.ofDeclarations resource ds).keyLayout)
        fun c => .error (.columnNotFound resource c) := by
  have htable := table_describe tables resource
  rw [h] at htable
  have hundeclared : ((TableSchema.ofDeclarations resource ds).indexes.find? fun c =>
      ((TableSchema.ofDeclarations resource ds).columnType? c).isNone) =
        Declaration.undeclared? ds := by
    rw [TableSchema.ofDeclarations_indexes, Declaration.undeclared?]
    congr 1
    funext c
    rw [Bool.eq_iff_iff, TableSchema.isNone_columnType?, TableSchema.ofDeclarations_columns,
      decide_eq_true_iff]
  rw [resolve_eq htable, hundeclared]

theorem agrees_of_resolve
    (h : KeyLayout.resolve (describe tables).toCatalog resource =
      .ok (TableSchema.ofDeclarations resource ds).keyLayout) :
    (TableSchema.ofDeclarations resource ds).keyLayout.Agrees (describe tables).toCatalog resource
      ds where
  partition := TableSchema.ofDeclarations_partitionKeys resource ds
  clustering := TableSchema.ofDeclarations_clusteringKeys resource ds
  indexed := TableSchema.ofDeclarations_indexes resource ds
  rowKeys := KeyLayout.rowKeys_of_resolve h
  pushdownKeys := KeyLayout.pushdownKeys_of_resolve h
  isRowKey := fun _ => KeyLayout.isRowKey_iff
  isPushdownKey := fun _ => KeyLayout.isPushdownKey_iff
  isCollection := fun c => by
    rw [TableSchema.isCollection_keyLayout, TableSchema.columnType?,
      TableSchema.ofDeclarations_columns]

/-- The planner resolves the keys of a table if there is one and its indexes cover columns of it,
in any order of declaration. If not, it reports what is missing. -/
theorem resolve_agrees (tables : List (String × List Declaration)) (resource : String) :
    let catalog := (describe tables).toCatalog
    let declared := tables.reverse.lookup resource
    ((∃ keys, KeyLayout.resolve catalog resource = .ok keys) ↔
      ∃ ds, declared = some ds ∧ Declaration.CoversColumns ds) ∧
    (∀ keys, KeyLayout.resolve catalog resource = .ok keys →
      ∃ ds, declared = some ds ∧ keys.Agrees catalog resource ds) ∧
    ∀ e, KeyLayout.resolve catalog resource = .error e →
      e.toError.category = .schema ∧ e.toError.origin = .catalog ∧
        (declared = none ∧ e = .resourceNotFound resource ∨
          ∃ ds c, declared = some ds ∧ Declaration.undeclared? ds = some c ∧
            e = .columnNotFound resource c) := by
  intro catalog declared
  cases hdeclared : declared with
  | none =>
    have hresolve : KeyLayout.resolve catalog resource = _ := resolve_undescribed hdeclared
    rw [hresolve]
    refine ⟨⟨nofun, nofun⟩, nofun, ?_⟩
    rintro _ ⟨⟩
    exact ⟨rfl, rfl, .inl ⟨rfl, rfl⟩⟩
  | some ds =>
    have hresolve : KeyLayout.resolve catalog resource = _ := resolve_described hdeclared
    cases hmissing : Declaration.undeclared? ds with
    | none =>
      rw [hmissing, Option.elim_none] at hresolve
      refine ⟨⟨fun _ => ?_, fun _ => ⟨_, hresolve⟩⟩, fun keys hkeys => ?_, ?_⟩
      · exact ⟨ds, rfl, Declaration.undeclared?_eq_none_iff.mp hmissing⟩
      · obtain rfl := Except.ok.inj (hresolve.symm.trans hkeys)
        exact ⟨ds, rfl, agrees_of_resolve hresolve⟩
      · rw [hresolve]
        nofun
    | some c =>
      rw [hmissing, Option.elim_some] at hresolve
      rw [hresolve]
      refine ⟨⟨nofun, ?_⟩, nofun, ?_⟩
      · rintro ⟨_, ⟨⟩, hcovers⟩
        rw [Declaration.undeclared?_eq_none_iff.mpr hcovers] at hmissing
        cases hmissing
      · rintro _ ⟨⟩
        exact ⟨rfl, rfl, .inr ⟨ds, c, rfl, hmissing, rfl⟩⟩

def parcels : List (String × List Declaration) := [
  ("parcel", [.column "id" .uuid, .index "lost"]),
  ("depot", [.partitionKey "id" .uuid, .index " keys(shelf) "]),
  ("parcel", [.index "values( tags )", .partitionKey "id" .uuid, .column "tags" (.set .text),
    .index "id", .clusteringKey "tags" .text, .index "tags", .index "full(tags)"])]

theorem resolve_agrees_parcels :
    (∃ keys, KeyLayout.resolve (describe parcels).toCatalog "parcel" = .ok keys ∧
      (describe parcels).toCatalog.pushdownKeys "parcel" = .ok ["id", "tags"] ∧
      keys.isPushdownKey "tags" = true ∧ keys.isCollection "tags" = true ∧
      keys.isCollection "id" = false) ∧
    (∃ e, KeyLayout.resolve (describe parcels).toCatalog "depot" = .error e ∧
      e.toError.message = "column not found: depot.shelf" ∧ e.toError.category = .schema) ∧
    ∃ e, KeyLayout.resolve (describe parcels).toCatalog "shelf" = .error e ∧
      e.toError.message = "resource not found: shelf" ∧ e.toError.category = .schema := by
  obtain ⟨hok, hagrees, -⟩ := resolve_agrees parcels "parcel"
  refine ⟨?_, ⟨_, rfl, rfl, ?_⟩, ⟨_, rfl, rfl, ?_⟩⟩
  · obtain ⟨keys, hresolve⟩ := hok.mpr ⟨_, rfl, Declaration.undeclared?_eq_none_iff.mp rfl⟩
    obtain ⟨ds, hds, agrees⟩ := hagrees keys hresolve
    cases hds
    have hpushdown : (describe parcels).toCatalog.pushdownKeys "parcel" = .ok ["id", "tags"] := rfl
    have hkeys : keys.pushdownKeys = ["id", "tags"] :=
      Except.ok.inj (agrees.pushdownKeys.symm.trans hpushdown)
    refine ⟨keys, hresolve, hpushdown, ?_, ?_, ?_⟩
    · exact (agrees.isPushdownKey "tags").mpr (by simp [hkeys])
    · exact (agrees.isCollection "tags").mpr ⟨by simp [hkeys], .set .text, rfl, rfl⟩
    · rw [Bool.eq_false_iff, Ne, agrees.isCollection]
      rintro ⟨-, _, ⟨⟩, ⟨⟩⟩
  · exact ((resolve_agrees parcels "depot").2.2 _ rfl).1
  · exact ((resolve_agrees parcels "shelf").2.2 _ rfl).1

end MemoryCatalog

end WideColumn
