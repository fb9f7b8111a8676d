import Bindwright.ItemPath

/-!
The imports of a generated file. Paths are collected before the file's body is written, so that
each name in the body is known to be imported or not. A name belongs to the first path that asks
for it, or to an item of the file itself.
-/

namespace Bindwright

structure ImportTable where
  imported : List String
  -- Simple names with the paths that own them.
  owners : List (String × String)

namespace ImportTable

def empty : ImportTable := ⟨[], []⟩

/-- A path that an import can name: plain names joined by `::`. -/
def isImportable (path : String) : Bool :=
  (ItemPath.splitLast? path).isSome &&
    path.toList.all fun c => c.isAlphanum || c = '_' || c = ':'

def localPath (name : String) : String := ItemPath.join "self" name

def reserve (t : ImportTable) (name : String) : ImportTable :=
  match t.owners.lookup name with
  | some _ => t
  | none => { t with owners := t.owners ++ [(name, localPath name)] }

/-- Imports a path, unless its simple name is another's. -/
def require (t : ImportTable) (path : String) : ImportTable :=
  if !isImportable path || t.imported.contains path then t
  else
    let name := ItemPath.simpleName path
    match t.owners.lookup name with
    | some owner => if owner = path then { t with imported := t.imported ++ [path] } else t
    | none => ⟨t.imported ++ [path], t.owners ++ [(name, path)]⟩

def requireAll (t : ImportTable) (paths : List String) : ImportTable := paths.foldl require t

def name (t : ImportTable) (path : String) : String :=
  if t.imported.contains path then ItemPath.simpleName path else path

/-- What the body calls an item of a module that may be imported. -/
def member (t : ImportTable) (path : String) : String :=
  match ItemPath.splitLast? path with
  | some (module, item) =>
    if t.imported.contains module then ItemPath.join (t.name module) item else path
  | none => path

inductive Group where
  | standard
  | external
  | local
  deriving DecidableEq

def groupOf (path : String) : Group :=
  let first := String.ofList (ItemPath.splitFirst path.toList).1
  if ["std", "core", "alloc"].contains first then .standard
  else if ["crate", "super", "self"].contains first then .local
  else .external

def byParent (paths : List String) : List (String × List String) :=
  let split := paths.filterMap ItemPath.splitLast?
  (split.map (·.1)).eraseDups.map fun parent =>
    (parent, (split.filter (·.1 = parent)).map (·.2))

def useLine : String × List String → String
  | (parent, [item]) => "use " ++ ItemPath.join parent item ++ ";"
  | (parent, items) =>
    "use " ++ ItemPath.join parent ("\x7b" ++ ", ".intercalate items ++ "\x7d") ++ ";"

def groupBlock (paths : List String) : String :=
  "\n".intercalate ((byParent paths).map useLine)

def render (t : ImportTable) : String :=
  let sorted := t.imported.mergeSort (fun a b => decide (a ≤ b))
  "\n\n".intercalate <|
    ([Group.standard, .external, .local].map fun g => sorted.filter (groupOf · = g)).filterMap
      fun paths => if paths.isEmpty then none else some (groupBlock paths)

end ImportTable
end Bindwright
