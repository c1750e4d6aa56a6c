import WideColumn.Record.Accessor

namespace WideColumn

inductive FieldDeclaration where
  | plain (name : String) (type : FieldType) (kind : FieldKind := .scalar)
  | enum (name : String) (type : EnumType String) (kind : FieldKind := .enum type.model)

namespace FieldDeclaration

abbrev Carrier : FieldDeclaration → Type
  | plain _ type _ => type.Carrier
  | enum _ _ _ => Option String

def blank : (d : FieldDeclaration) → d.Carrier
  | plain _ type _ => type.blank
  | enum _ _ _ => none

def model {ρ : Type} :
    (d : FieldDeclaration) → (ρ → d.Carrier) → (d.Carrier → ρ → ρ) → FieldModel ρ
  | plain name type kind, get, put => .ofType name type get put kind
  | enum name type kind, get, put => .ofEnum name type get put kind

end FieldDeclaration

def DeclaredRecord : List FieldDeclaration → Type
  | [] => Unit
  | d :: ds => d.Carrier × DeclaredRecord ds

namespace DeclaredRecord

def blank : (ds : List FieldDeclaration) → DeclaredRecord ds
  | [] => ()
  | d :: ds => (d.blank, blank ds)

def fields {ρ : Type} :
    (ds : List FieldDeclaration) → (ρ → DeclaredRecord ds) → (DeclaredRecord ds → ρ → ρ) →
      List (FieldModel ρ)
  | [], _, _ => []
  | d :: ds, get, put =>
    d.model (fun r => (get r).1) (fun x r => put (x, (get r).2) r) ::
      fields ds (fun r => (get r).2) (fun xs r => put ((get r).1, xs) r)

end DeclaredRecord

def RecordModel.declare (typeName resource : String) (ds : List FieldDeclaration) :
    RecordModel (DeclaredRecord ds) where
  typeName
  resource
  blank := .blank ds
  fields := DeclaredRecord.fields ds id fun record _ => record

end WideColumn
