import Bindwright.Source.Item
import Bindwright.ItemPath
import Bindwright.Table

namespace Bindwright.Source

abbrev Names := Table String String

/-- An imported path seen from the root. `self` in front is the module itself, and each `super`
in front its parent; any other path is kept as it is. -/
def qualify (module : String) : List String → String
  | "self" :: rest => "::".intercalate (ItemPath.segments module ++ rest)
  | "super" :: rest =>
    let above := (rest.takeWhile (· = "super")).length + 1
    let segments := ItemPath.segments module
    "::".intercalate (segments.take (segments.length - above) ++ rest.dropWhile (· = "super"))
  | path => "::".intercalate path

mutual

/-- What a tree brings in under the path `front`. A `self` by itself names the end of that path. -/
def ImportTree.names (module : String) (front : List String) : ImportTree → List (String × String)
  | .under name rest => rest.names module (front ++ [name])
  | .name "self" => (front.getLast?.map fun last => (last, qualify module front)).toList
  | .name name => [(name, qualify module (front ++ [name]))]
  | .renamed name new => [(new, qualify module (front ++ [name]))]
  | .group trees => groupNames module front trees
  | .all => []

def groupNames (module : String) (front : List String) : List ImportTree → List (String × String)
  | [] => []
  | t :: ts => t.names module front ++ groupNames module front ts

end

/-- The names known in a module: those known around it, and those that its items import. Of two
imports of a name the later counts. -/
def Names.within (inherited : Names) (module : String) (items : List Item) : Names :=
  let imported := items.flatMap fun
    | .imports tree => tree.names module []
    | _ => []
  imported.foldl (fun names (name, path) => names.insert name path) inherited

mutual

/-- The text of a type. The first name of a path is spelled out, and of a name's arguments only
the types are kept. -/
def TypeForm.printed (names : Names) : TypeForm → String
  | .path absolute segments => "::".intercalate (segmentTexts names (!absolute) segments)
  | .reference mutable target => (if mutable then "&mut " else "&") ++ target.printed names
  | .pointer mutable target => (if mutable then "*mut " else "*const ") ++ target.printed names
  | .parenthesized inner => inner.printed names
  | .unit => "()"
  | .qualified _ text | .function text | .other text => text

def segmentTexts (names : Names) (leads : Bool) : List Segment → List String
  | [] => []
  | s :: ss => s.printed names leads :: segmentTexts names false ss

def Segment.printed (names : Names) (leads : Bool) : Segment → String
  | .plain name | .callable name => spelledOut name
  | .applied name types =>
    spelledOut name ++
      match typeTexts names types with
      | [] => ""
      | texts => "<" ++ ", ".intercalate texts ++ ">"
where
  spelledOut (name : String) : String := if leads then (names.find? name).getD name else name

def typeTexts (names : Names) : List TypeForm → List String
  | [] => []
  | t :: ts => t.printed names :: typeTexts names ts

end

namespace TypeForm

def last? : TypeForm → Option Segment
  | .path _ segments => segments.getLast?
  | .qualified last _ => some last
  | _ => none

def name? (type : TypeForm) : Option String := type.last?.map Segment.name

def isFunctionPointer : TypeForm → Bool
  | .function _ => true
  | .parenthesized inner => inner.isFunctionPointer
  | type =>
    match type.last? with
    | some (.applied "Option" types) => types.any fun | .function _ => true | _ => false
    | _ => false

end TypeForm

namespace Attribute

def documentation? (a : Attribute) : Option String :=
  match a.absolute, a.path, a.body with
  | false, ["doc"], .value [.literal (.text s) _ _] =>
    some (match s.toList with
      | ' ' :: cs => String.ofList cs
      | _ => s)
  | _, _, _ => none

end Attribute

/-- The documentation that attributes spell out, and the line on which it begins. -/
def documentation (attributes : List Attribute) : String × Option Nat :=
  let lines := attributes.filterMap fun a => a.documentation?.map fun s => (s, a.position.line)
  ("\n".intercalate (lines.map (·.1)), lines.head?.map (·.2))

end Bindwright.Source
