import Bindwright.Emit.Code
import Bindwright.Files.Path

namespace Bindwright

structure Artifact where
  native : String
  module : String
  exports : List String
  path : String
  deriving DecidableEq, Repr

def moduleDirectory (module : String) : String :=
  ((ItemPath.segments module).dropWhile (· = "crate")).foldl Files.join ""

namespace Index

def artifactsOf (module : String) (artifacts : List Artifact) : List Artifact :=
  (artifacts.filter (·.module = module)).mergeSort fun a b =>
    Files.comparePaths a.path b.path != .gt

def exportLine (stem : String) : List String → String
  | [] => ""
  | [name] => "pub use self::" ++ stem ++ "::" ++ name ++ ";\n"
  | names => "pub use self::" ++ stem ++ "::\x7b" ++ ", ".intercalate names ++ "\x7d;\n"

def entry (a : Artifact) : String :=
  match Files.fileStem? a.path with
  | none => ""
  | some stem =>
    "\n#[path = " ++ Text.quoted a.path ++ "]\nmod " ++ stem ++ ";\n" ++ exportLine stem a.exports

def text (module : String) (artifacts : List Artifact) : String :=
  "// @generated by " ++ generatorName ++ " for \x60" ++ module ++ "\x60. Do not edit.\n" ++
    String.join ((artifactsOf module artifacts).map entry)

end Index
end Bindwright
