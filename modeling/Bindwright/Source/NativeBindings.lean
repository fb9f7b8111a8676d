import Bindwright.Source.ItemGrammar
import Bindwright.Source.Scope
import Bindwright.Binding.Basic
import Bindwright.Diagnostic

/-!
Native bindings as a source file declares them.

A public structure is a native type; the public functions of its implementations are its
accessors, and an associated constant `LAYOUT` says that it has a layout. In the header's module,
constants and functions without parameters are the header's constants, but a constant whose type is
a layout is the layout of an array element.
-/

namespace Bindwright.Source

def layoutConstant : String := "LAYOUT"

structure Addition where
  path : String
  accessors : List Accessor
  hasLayout : Bool

structure Declared where
  types : List (String × NativeType) := []
  functionPointers : List (String × FunctionPointer) := []
  constants : List HeaderConstant := []
  layouts : List LayoutConstant := []
  additions : List Addition := []
  -- The header's module as last met.
  headerModule : Option String := none

instance : Append Declared where
  append a b :=
    ⟨a.types ++ b.types, a.functionPointers ++ b.functionPointers, a.constants ++ b.constants,
      a.layouts ++ b.layouts, a.additions ++ b.additions, b.headerModule.or a.headerModule⟩

structure Place where
  file : Option String
  header : String
  module : String
  names : Names

namespace Place

def location (p : Place) (name : Name) : Location :=
  ⟨p.file, some name.position.line, some name.position.column⟩

def path (p : Place) (name : String) : String := ItemPath.join p.module name

def enter (p : Place) (name : String) (items : List Item) : Place :=
  let module := p.path name
  { p with module, names := p.names.within module items }

def nativeType (p : Place) (head : Head) : NativeType :=
  let (text, line) := documentation head.attributes
  { name := head.name.text
    path := p.path head.name.text
    documentation := text
    documentationLine := line.getD head.name.position.line
    accessors := []
    hasLayout := false
    location := p.location head.name }

def accessor? (p : Place) : AssociatedItem → Option Accessor
  | .function true s =>
    some ⟨s.name.text, s.parameters.map (·.printed p.names), s.result.map (·.printed p.names),
      p.location s.name⟩
  | _ => none

def addition (p : Place) (name : String) (items : List AssociatedItem) : Addition where
  path := p.path name
  accessors := items.filterMap p.accessor?
  hasLayout := items.any fun
    | .constant name => name = layoutConstant
    | _ => false

def element? (type : TypeForm) : Option ArrayElement :=
  if type.name? = some "AddressLayout" then some .address
  else
    match type.last? with
    | some (.applied "ValueLayout" types) =>
      types.findSome? fun
        | .path false [.plain name] => some (.value name)
        | _ => none
    | _ => none

def headerConstant (p : Place) (head : Head) (type : TypeForm) (value : Option Int)
    (form : ConstantForm) : HeaderConstant where
  name := head.name.text
  module := p.module
  typeName := type.printed p.names
  value := value
  documentation := (documentation head.attributes).1
  form := form
  location := p.location head.name

def declaredInHeader (p : Place) : Item → Declared
  | .constant head type value =>
    if head.isPublic then
      match element? type with
      | some element =>
        { layouts := [⟨head.name.text, p.path head.name.text, element⟩] }
      | none => { constants := [p.headerConstant head type value .const] }
    else {}
  | .function head signature value =>
    match signature.result with
    | some type =>
      if head.isPublic && signature.takesNothing then
        { constants := [p.headerConstant head type value .function] }
      else {}
    | none => {}
  | _ => {}

mutual

def declared (p : Place) : Item → Declared
  | .structure head =>
    if head.isPublic then { types := [(p.module, p.nativeType head)] } else {}
  | .implementation target items =>
    match target.name? with
    | some name => { additions := [p.addition name items] }
    | none => {}
  | .synonym head target =>
    if head.isPublic && target.isFunctionPointer then
      let name := head.name.text
      { functionPointers := [(p.module, ⟨name, p.path name, p.location head.name⟩)] }
    else {}
  | .nested name items =>
    let inner := p.enter name items
    if name = p.header then
      (items.map inner.declaredInHeader).foldl (· ++ ·) { headerModule := some inner.module }
    else declaredBy inner items
  | _ => {}

def declaredBy (p : Place) : List Item → Declared
  | [] => {}
  | item :: items => declared p item ++ declaredBy p items

end
end Place

/-- Adds to each type what its implementations declare. Of types with one path the first gets
all. -/
def complete (additions : List Addition) :
    (earlier : List String) → List (String × NativeType) → List (String × NativeType)
  | _, [] => []
  | earlier, (module, type) :: rest =>
    let own := if earlier.contains type.path then [] else additions.filter (·.path = type.path)
    (module, { type with
      accessors := own.flatMap (·.accessors)
      hasLayout := own.any (·.hasLayout) }) :: complete additions (type.path :: earlier) rest

def bindingsOf (items : List Item) (module header : String) (file : Option String) : Bindings :=
  let place : Place := ⟨file, header, module, Names.within .empty module items⟩
  let found := place.declaredBy items
  { types := complete found.additions [] found.types
    functionPointers := found.functionPointers
    constants := found.constants
    layouts := found.layouts
    headerModule := found.headerModule.getD (ItemPath.join module header)
    separator := '_' }

def readBindings (text module header : String) (file : Option String) : Except Failure Bindings :=
  match SourceFile.items? text with
  | some items => .ok (bindingsOf items module header file)
  | none => .error (.unreadableSource (file.getD "") "not a source file")

end Bindwright.Source
