import Bindwright.Location

namespace Bindwright

inductive Failure where
  | malformedDeclaration (type detail : String) (location : Location)
  | missingBinding (type member detail : String) (location : Location)
  | duplicateAccessor (type member : String) (location : Location)
  | duplicateMapping (name detail : String)
  | ambiguousOwner (constant : String) (found : Nat) (location : Location)
  | unresolvedMember (type member typeName declarator : String) (location : Location)
  | missingLayout (type member typeName : String) (location : Location)
  | noDeclaration (type : String) (location : Location)
  | missingVariable (name : String)
  | invalidConfiguration (detail : String)
  | unreadableSource (file detail : String)
  | inputOutput (detail : String)
  deriving DecidableEq, Repr

namespace Failure

private def tick (s : String) : String := "\x60" ++ s ++ "\x60"

def message : Failure → String
  | malformedDeclaration type detail location =>
    "Parse error in " ++ type ++ " at " ++ location.text ++ ": " ++ detail
  | missingBinding type member detail _ =>
    "Missing binding for " ++ type ++ "." ++ member ++ ": " ++ detail
  | duplicateAccessor type member _ => "Duplicate accessor for " ++ type ++ "." ++ member
  | duplicateMapping name detail => "Duplicate mapping for " ++ name ++ ": " ++ detail
  | ambiguousOwner constant found _ =>
    "Ambiguous owner for " ++ constant ++ ": found " ++ Nat.repr found ++ " owner references"
  | unresolvedMember type member typeName declarator _ =>
    "Unresolved member " ++ type ++ "." ++ member ++ ": no shape for " ++ tick typeName ++
      " declared as " ++ declarator
  | missingLayout type member typeName _ =>
    "Missing layout constant " ++ tick typeName ++ " for " ++ type ++ "." ++ member
  | noDeclaration type _ => "No declaration of " ++ type ++ " found in its documentation"
  | missingVariable name => "Environment variable not set: " ++ name
  | invalidConfiguration detail => "Configuration error: " ++ detail
  | unreadableSource file detail => "Failed to parse " ++ file ++ ": " ++ detail
  | inputOutput detail => "IO error: " ++ detail

def isFatal : Failure → Bool
  | missingVariable _ | invalidConfiguration _ | unreadableSource _ _ | inputOutput _ => true
  | _ => false

def code : Failure → String
  | malformedDeclaration .. => "W0001"
  | missingBinding .. => "W0002"
  | duplicateAccessor .. => "W0003"
  | duplicateMapping .. => "W0004"
  | ambiguousOwner .. => "W0005"
  | unresolvedMember .. => "W0006"
  | missingLayout .. => "W0007"
  | noDeclaration .. => "W0008"
  | missingVariable _ | invalidConfiguration _ | unreadableSource _ _ | inputOutput _ => "F0001"

def location? : Failure → Option Location
  | malformedDeclaration _ _ l | missingBinding _ _ _ l | duplicateAccessor _ _ l
  | ambiguousOwner _ _ l | unresolvedMember _ _ _ _ l | missingLayout _ _ _ l
  | noDeclaration _ l => some l
  | _ => none

end Failure
inductive Severity where
  | error
  | warning
  | note
  deriving DecidableEq, Repr

def Severity.text : Severity → String
  | error => "error"
  | warning => "warning"
  | note => "note"

structure Diagnostic where
  severity : Severity
  message : String
  location : Location
  code : Option String
  deriving DecidableEq, Repr

namespace Diagnostic

def plain (severity : Severity) (message : String) : Diagnostic := ⟨severity, message, .unknown, none⟩

def ofFailure (f : Failure) : Diagnostic :=
  ⟨.error, f.message, f.location?.getD .unknown, some f.code⟩

def text (d : Diagnostic) : String :=
  (if d.location.file.isSome then d.location.text ++ ": " else "") ++ d.severity.text ++
    (match d.code with
      | some code => "[" ++ code ++ "]"
      | none => "") ++ ": " ++ d.message

def withSeverity (s : Severity) (ds : List Diagnostic) : List Diagnostic :=
  ds.filter (·.severity = s)

end Diagnostic
end Bindwright
