import Bindwright.Source.ItemGrammar
import Bindwright.ItemPath
import Bindwright.Diagnostic
import Bindwright.Files.Tree

namespace Bindwright

structure ScannedMapping where
  key : String
  path : String
  location : Location
  deriving DecidableEq, Repr

namespace Source

open Text

def mappingAttribute : String := "map_structure"

structure ExistingTypes where
  materialized : List String := []
  mappings : List ScannedMapping := []
  files : List String := []
  failure : Option Failure := none

namespace ExistingTypes

def andThen (a b : ExistingTypes) : ExistingTypes :=
  match a.failure with
  | some _ => a
  | none =>
    ⟨a.materialized ++ b.materialized, a.mappings ++ b.mappings, a.files ++ b.files, b.failure⟩

instance : Append ExistingTypes := ⟨andThen⟩

def failed (file : Option String) (detail : String) : ExistingTypes :=
  { failure := some (.unreadableSource (file.getD "") detail) }

def ofAttribute (file : Option String) (path : String) (a : Attribute) : ExistingTypes :=
  if a.path.getLast? = some mappingAttribute then
    match a.body with
    | .list [.literal (.text key) _ _] =>
      { mappings := [⟨key, path, ⟨file, some a.position.line, some a.position.column⟩⟩] }
    | _ => failed file ("invalid #[" ++ mappingAttribute ++ "] on " ++ path)
  else {}

def ofHead (file : Option String) (module : String) (head : Head) : ExistingTypes :=
  let path := ItemPath.join module head.name.text
  (head.attributes.map (ofAttribute file path)).foldl (· ++ ·) {} ++
    { materialized := if head.isPublic then [path] else [] }

mutual

def ofItem (file : Option String) (module : String) : Item → ExistingTypes
  | .structure head | .enumeration head | .behaviour head | .synonym head _ =>
    ofHead file module head
  | .nested name items => ofItems file (ItemPath.join module name) items
  | _ => {}

def ofItems (file : Option String) (module : String) : List Item → ExistingTypes
  | [] => {}
  | item :: items => ofItem file module item ++ ofItems file module items

end

def ofText (text module : String) (file : Option String) : ExistingTypes :=
  match SourceFile.items? text with
  | some items => ofItems file module items
  | none => failed file "not a source file"

end ExistingTypes

def below? : (root file : List Files.Component) → Option (List Files.Component)
  | [], file => some file
  | r :: root, f :: file => if r = f then below? root file else none
  | _ :: _, [] => none

def plainName? : Files.Component → Option String
  | .normal name => some name
  | _ => none

/-- The module that a file below a crate's source directory is. The crate itself is in `lib.rs` or
`main.rs`, and a directory's module in its `mod.rs`. -/
def modulePath? (root file : String) : Option String := do
  let names ← (← below? (Files.components root) (Files.components file)).mapM plainName?
  let stem ← beforeSuffix? ".rs".toList (← names.getLast?).toList
  let stem := String.ofList stem
  let directories := names.dropLast
  let segments ←
    if directories.isEmpty ∧ (stem = "lib" ∨ stem = "main") then some []
    else if stem = "mod" then if directories.isEmpty then none else some directories
    else some (directories ++ [stem])
  return "::".intercalate ("crate" :: segments)

namespace ExistingTypes

def ofFile (tree : FileTree) (root file : String) : ExistingTypes :=
  match modulePath? root file with
  | none => {}
  | some module =>
    match tree.read? file with
    | some text => ofText text module (some file) ++ { files := [file] }
    | none => { failure := some (.inputOutput ("cannot read " ++ file)) }

def below (tree : FileTree) (roots : List String) : ExistingTypes :=
  let inRoot (root : String) : List ExistingTypes :=
    ((tree.filesBelow root).filter fun file => Files.extension? file = some "rs").map
      (ofFile tree root)
  (roots.flatMap inRoot).foldl (· ++ ·) {}

end ExistingTypes
end Source
end Bindwright
