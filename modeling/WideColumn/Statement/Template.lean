import WideColumn.Statement.Basic
import WideColumn.Statement.Error

namespace WideColumn

structure UpdateTemplate where
  resource : String
  setColumns : List String
  keyColumns : List String
  setColumns_ne_nil : setColumns ≠ []
  keyColumns_ne_nil : keyColumns ≠ []
deriving Repr

namespace UpdateTemplate

def build (resource : String) (setColumns keyColumns : List String) :
    Except StatementError UpdateTemplate :=
  if hs : setColumns = [] then .error (.nothingToSet resource)
  else if hk : keyColumns = [] then .error (.updateWithoutKey resource)
  else .ok ⟨resource, setColumns, keyColumns, hs, hk⟩

def cql (t : UpdateTemplate) : String :=
  Statement.updateText t.resource t.setColumns t.keyColumns

def bind (t : UpdateTemplate) (setValues keyValues : List Value) :
    Except StatementError Statement :=
  if setValues.length = t.setColumns.length ∧ keyValues.length = t.keyColumns.length then
    .ok (.update t.resource (t.setColumns.zip setValues) (t.keyColumns.zip keyValues))
  else
    .error (.updateArity t.setColumns.length t.keyColumns.length setValues.length keyValues.length)

end UpdateTemplate

structure DeleteTemplate where
  resource : String
  keyColumns : List String
  keyColumns_ne_nil : keyColumns ≠ []
deriving Repr

namespace DeleteTemplate

def build (resource : String) (keyColumns : List String) : Except StatementError DeleteTemplate :=
  if h : keyColumns = [] then .error (.deleteWithoutKey resource)
  else .ok ⟨resource, keyColumns, h⟩

def cql (t : DeleteTemplate) : String :=
  Statement.deleteText t.resource t.keyColumns

def bind (t : DeleteTemplate) (keyValues : List Value) : Except StatementError Statement :=
  if keyValues.length = t.keyColumns.length then
    .ok (.delete t.resource (t.keyColumns.zip keyValues))
  else .error (.deleteArity t.keyColumns.length keyValues.length)

end DeleteTemplate

end WideColumn
