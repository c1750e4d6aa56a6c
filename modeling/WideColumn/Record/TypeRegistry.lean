import WideColumn.Value.Basic

namespace WideColumn

structure TypeRegistry where
  types : List TypeName := []
deriving Repr

namespace TypeRegistry

def register (r : TypeRegistry) (t : TypeName) : TypeRegistry :=
  if r.types.contains t then r else ⟨r.types ++ [t]⟩

def resolve? (r : TypeRegistry) (name : String) : Option TypeName :=
  r.types.find? fun t => t.name == name

end TypeRegistry

end WideColumn
