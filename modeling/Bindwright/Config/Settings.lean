import Bindwright.Config.Toml
import Bindwright.Diagnostic
import Bindwright.Files.Tree

namespace Bindwright

structure Override where
  native : String
  target : String
  deriving DecidableEq, Repr

structure Directive where
  source : String
  destination : String
  deriving DecidableEq, Repr

namespace Config

structure HeaderSettings where
  module : String := "vulkan_h"
  destination : Option String := none

structure Settings where
  bindings : String
  bindingsModule : String := "crate::sys"
  header : HeaderSettings := {}
  directives : List Directive := []
  overrides : List Override := []
  existingSources : List String := []
  outDirectory : Option String := none

namespace Node

def text? : Node → Option String
  | .text s => some s
  | _ => none

def elements? : Node → Option (List Node)
  | .list elements => some elements
  | .tables elements => some (elements.map (.table .header))
  | _ => none

end Node

namespace Entries

def hasOnly (keys : List String) (entries : Entries) : Bool := entries.keys.all keys.contains

def optional? {α : Type} (read : Node → Option α) (key : String) (entries : Entries) :
    Option (Option α) :=
  match entries.find? key with
  | none => some none
  | some node => (read node).map some

end Entries

open Entries

def pair? (first second : String) : Node → Option (String × String)
  | .table _ entries => do
    if !hasOnly [first, second] entries then none
    return (← (← entries.find? first).text?, ← (← entries.find? second).text?)
  | .list (.text a :: .text b :: _) => some (a, b)
  | _ => none

def HeaderSettings.ofNode? : Node → Option HeaderSettings
  | .table _ entries => do
    if !hasOnly ["module", "destination"] entries then none
    let module ← optional? Node.text? "module" entries
    return { module := module.getD "vulkan_h"
             destination := ← optional? Node.text? "destination" entries }
  | .list (.text module :: .text destination :: _) => some ⟨module, some destination⟩
  | _ => none

namespace Settings

def keys : List String :=
  ["bindings", "bindings_module", "header", "generate", "mapping", "existing_sources", "out_dir"]

def ofEntries? (entries : Entries) : Option Settings := do
  if !hasOnly keys entries then none
  let pairs (key first second : String) : Option (List (String × String)) := do
    let read (node : Node) := do (← node.elements?).mapM (pair? first second)
    return (← optional? read key entries).getD []
  let texts (node : Node) := do (← node.elements?).mapM Node.text?
  let bindings ← (← entries.find? "bindings").text?
  let bindingsModule ← optional? Node.text? "bindings_module" entries
  let header ← optional? HeaderSettings.ofNode? "header" entries
  let directives ← pairs "generate" "source" "destination"
  let overrides ← pairs "mapping" "native" "target"
  let existing ← optional? texts "existing_sources" entries
  return { bindings
           bindingsModule := bindingsModule.getD "crate::sys"
           header := header.getD {}
           directives := directives.map fun (source, destination) => ⟨source, destination⟩
           overrides := overrides.map fun (native, target) => ⟨native, target⟩
           existingSources := existing.getD []
           outDirectory := ← optional? Node.text? "out_dir" entries }

def ofToml (text : String) : Except Failure Settings :=
  match (Toml.entries? text).bind ofEntries? with
  | some settings => .ok settings
  | none => .error (.invalidConfiguration "not a configuration")

def relativeTo (directory : String) (s : Settings) : Settings :=
  let join := Files.join directory
  { s with
    bindings := join s.bindings
    existingSources := s.existingSources.map join
    outDirectory := s.outDirectory.map join }

def ofFile (tree : FileTree) (path : String) : Except Failure Settings :=
  match tree.read? path with
  | none => .error (.inputOutput ("cannot read " ++ path))
  | some text => do
    let settings ← ofToml text
    return match Files.parent? path with
      | some directory => settings.relativeTo directory
      | none => settings

end Settings
end Config
end Bindwright
