import WideColumn.Catalog.Basic

namespace WideColumn

structure KeyLayout where
  partition : List String := []
  clustering : List String := []
  indexed : List String := []
  collections : List String := []
deriving DecidableEq, Repr

namespace KeyLayout

def rowKeys (k : KeyLayout) : List String :=
  k.partition ++ k.clustering

def pushdownKeys (k : KeyLayout) : List String :=
  appendMissing k.rowKeys k.indexed

def isRowKey (k : KeyLayout) (column : String) : Bool :=
  k.partition.contains column || k.clustering.contains column

def isPushdownKey (k : KeyLayout) (column : String) : Bool :=
  k.isRowKey column || k.indexed.contains column

def isCollection (k : KeyLayout) (column : String) : Bool :=
  k.collections.contains column

def collectionsAmong (catalog : Catalog) (resource : String) :
    List String → Except CatalogError (List String)
  | [] => .ok []
  | c :: cs => do
    let type ← catalog.columnType resource c
    let rest ← collectionsAmong catalog resource cs
    return if type.isCollection then c :: rest else rest

def resolve (catalog : Catalog) (resource : String) : Except CatalogError KeyLayout := do
  let partition ← catalog.partitionKeys resource
  let clustering ← catalog.clusteringKeys resource
  let indexed ← catalog.indexedColumns resource
  let keys : KeyLayout := { partition, clustering, indexed }
  return { keys with collections := ← collectionsAmong catalog resource keys.pushdownKeys }

end KeyLayout

end WideColumn
