import Bindwright.Source.Reader

namespace Bindwright.Source

open Text

mutual

/-- A type as written. Forms that bindings do not look into keep their tokens. -/
inductive TypeForm where
  | path (absolute : Bool) (segments : List Segment)
  -- A path through a type, `<T as Trait>::Name`, by its last segment.
  | qualified (last : Segment) (text : String)
  | reference (mutable : Bool) (target : TypeForm)
  | pointer (mutable : Bool) (target : TypeForm)
  | parenthesized (inner : TypeForm)
  | unit
  | function (text : String)
  | other (text : String)

inductive Segment where
  | plain (name : String)
  | applied (name : String) (types : List TypeForm)
  | callable (name : String)

end

instance : Inhabited TypeForm := ⟨.unit⟩

def Segment.name : Segment → String
  | plain name | applied name _ | callable name => name

inductive AttributeBody where
  | none
  | list (content : List Tree)
  | value (content : List Tree)

structure Attribute where
  absolute : Bool
  path : List String
  body : AttributeBody
  position : Position

inductive ImportTree where
  | under (name : String) (rest : ImportTree)
  | name (name : String)
  | renamed (name new : String)
  | group (trees : List ImportTree)
  | all

structure Head where
  attributes : List Attribute
  isPublic : Bool
  name : Name

structure Signature where
  name : Name
  takesNothing : Bool
  parameters : List TypeForm
  result : Option TypeForm

inductive AssociatedItem where
  | function (isPublic : Bool) (signature : Signature)
  | constant (name : String)
  | other

inductive Item where
  | imports (tree : ImportTree)
  | structure (head : Head)
  | enumeration (head : Head)
  | behaviour (head : Head)
  | synonym (head : Head) (target : TypeForm)
  | nested (name : String) (items : List Item)
  | implementation (target : TypeForm) (items : List AssociatedItem)
  | constant (head : Head) (type : TypeForm) (value : Option Int)
  | function (head : Head) (signature : Signature) (value : Option Int)
  | other

end Bindwright.Source
