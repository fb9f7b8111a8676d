import Bindwright.Emit.ConstantsFile
import Bindwright.Emit.StructureFile
import Bindwright.Proofs.Emit.Mentions

/-!
# What a generated file relies on

The code of a file uses some names of the prelude by itself, and others in the types and paths that
it takes over. All of them stand in its text (`GeneratedFile.mentions_of_relies`).
-/

namespace Bindwright

def inFull (called path : String) : List String := if called = path then [path] else []

theorem mem_inFull {called path other : String} :
    other ∈ inFull called path ↔ called = path ∧ other = path := by
  unfold inFull
  split <;> simp [*]

namespace StandsIn

variable {name type : String}

theorem cast {c : Code} {source target : String} (differ : source ≠ target)
    (stands : StandsIn name target) : StandsIn name (c.cast source target).render := by
  rw [Code.cast, if_neg differ, Code.render_append, Code.render_text, ← String.append_assoc]
  exact stands.behind (by decide) _

theorem set {site : MemberSite} {value : Code} (stands : StandsIn name value.render)
    (destination : String) : StandsIn name (site.set destination value).render := by
  have set_off : Mentions name (", " ++ value.render ++ ")") :=
    stands.mentions (by decide)
  refine (set_off.of_contains (.of_eq (site.native ++ "::" ++
    setterName site.member site.separator ++ "(" ++ destination) ";" ?_)).stands
  simp only [MemberSite.set, Code.render_append, Code.render, String.append_assoc]

end StandsIn

namespace MemberShape

def ownPrelude : MemberShape → List String
  | nextChain => ["Vec", "Box"]
  | text => ["String"]
  | primitiveArray .. | mappedArray _ | handleArray _ => ["Vec"]
  | _ => []

theorem ownPrelude_subset (s : MemberShape) : s.ownPrelude ⊆ preludeNames := by
  cases s <;> simp [ownPrelude, preludeNames]

/-- The types and paths that the member's code takes over as they are. -/
def given (s : MemberShape) (site : MemberSite) : List String :=
  let name := site.imports.name
  match s with
  | functionPointer path | mappedValue path | mappedArray path | scalar path =>
    inFull (name path) path
  | flagSet target | flagBit target =>
    inFull (name target) target ++
      if site.rawType = "u32" then [] else inFull (name site.rawType) site.rawType
  | enumValue target valueType =>
    inFull (name target) target ++
      if site.rawType = valueType then []
      else valueType :: inFull (name site.rawType) site.rawType
  | primitiveArray element layout => element :: inFull (site.imports.member layout) layout
  | handleArray layout => inFull (site.imports.member layout) layout
  | _ => []

variable {s : MemberShape} {site : MemberSite} {name type : String}

theorem stands_write {number : String} {value : Code} (stands : StandsIn name type)
    (given : type ∈ if site.rawType = number then []
      else inFull (site.imports.name site.rawType) site.rawType) :
    StandsIn name (site.set "destination" (value.cast number
      (site.imports.name site.rawType))).render := by
  split at given
  · cases given
  · rename_i differ
    obtain ⟨kept, rfl⟩ := mem_inFull.1 given
    rw [kept]
    exact (stands.cast (Ne.symm differ)).set _

theorem stands_of_mem_given (given : type ∈ s.given site)
    (stands : StandsIn name type) (method : String) :
    StandsIn name (s.valueType site) ∨ StandsIn name (s.read site "raw").render ∨
      StandsIn name (s.write site "destination" "allocator").render ∨
      ∃ code, s.extraMethod? site method = some code ∧ StandsIn name code := by
  -- Each shape puts what it takes over in one place, and there something sets it off.
  cases s with
  | functionPointer path =>
    obtain ⟨kept, rfl⟩ := mem_inFull.1 given
    refine .inr (.inr (.inr ⟨_, rfl, ?_⟩))
    have returned : StandsIn name
        ("pub unsafe fn " ++ method ++ "(&self) -> " ++ type ++ " \x7b") :=
      (stands.behind (by decide) _).append (by decide)
    refine returned.intercalate ?_
    simp only [kept, List.mem_cons, true_or, or_true]
  | mappedValue path | scalar path =>
    obtain ⟨kept, rfl⟩ := mem_inFull.1 given
    exact .inl (by rwa [valueType, kept])
  | mappedArray path =>
    obtain ⟨kept, rfl⟩ := mem_inFull.1 given
    refine .inl ?_
    rw [valueType, kept]
    exact (stands.mentions (by decide)).stands
  | flagSet target =>
    rcases List.mem_append.1 given with target | raw
    · obtain ⟨kept, rfl⟩ := mem_inFull.1 target
      refine .inl ?_
      rw [valueType, kept]
      exact (stands.behind (by decide) _).append (by decide)
    · exact .inr (.inr (.inl (stands_write stands raw)))
  | flagBit target =>
    rcases List.mem_append.1 given with target | raw
    · obtain ⟨kept, rfl⟩ := mem_inFull.1 target
      exact .inl (by rwa [valueType, kept])
    · exact .inr (.inr (.inl (stands_write stands raw)))
  | enumValue target number =>
    rcases List.mem_append.1 given with target | numbers
    · obtain ⟨kept, rfl⟩ := mem_inFull.1 target
      exact .inl (by rwa [valueType, kept])
    · by_cases same : site.rawType = number
      · rw [if_pos same] at numbers
        cases numbers
      · rw [if_neg same] at numbers
        rcases List.mem_cons.1 numbers with rfl | raw
        · refine .inr (.inl ?_)
          simp only [read, Code.render_append, Code.render_text]
          exact ((stands.cast same).behind (by decide) _).append (by decide)
        · exact .inr (.inr (.inl (stands_write stands (by rwa [if_neg same]))))
  | primitiveArray element layout =>
    rcases List.mem_cons.1 given with rfl | given
    · exact .inl (stands.mentions (by decide)).stands
    · obtain ⟨kept, rfl⟩ := mem_inFull.1 given
      refine .inr (.inl ?_)
      simp only [read, Code.render_append, Code.render_text, kept]
      have set_off : Mentions name (".to_vec(" ++ type ++ ")") := stands.mentions (by decide)
      exact (set_off.of_contains ((Contains.refl _).append_left _)).stands
  | handleArray layout =>
    obtain ⟨kept, rfl⟩ := mem_inFull.1 given
    refine .inr (.inl ?_)
    simp only [read, Code.render_append, Code.render_text, kept]
    have set_off : Mentions name (".to_addresses(" ++ type ++ ")") :=
      stands.mentions (by decide)
    exact (set_off.of_contains ((Contains.refl _).append_left _)).stands
  | _ => cases given

end MemberShape

namespace ConstantsFile

section Text

variable (f : ConstantsFile)

def requirements : List String :=
  [Support.generated, Support.rawError] ++
    (match f.group with
      | .flags => [Support.bitFlag, Support.flagFromBit]
      | .values => []) ++
    f.constants.map (·.module)

def given : List String :=
  (match f.group with
    | .flags => []
    | .values => [f.valueType]) ++
    (f.constants.filter (!f.imports.imported.contains ·.module)).map
      (ItemPath.simpleName ·.module)

theorem contains_result : Contains ") -> Result<Self, " f.text := by
  have methods : Contains ") -> Result<Self, " f.methods := by
    unfold methods
    cases f.group with
    | flags =>
      have piece : Contains ") -> Result<Self, " "    pub fn of_bit(bit: u32) -> Result<Self, " :=
        .of_eq "    pub fn of_bit(bit: u32" "" (by decide)
      delta flagMethods
      dsimp only
      repeat first
        | with_reducible exact piece.append_left _
        | with_reducible apply Contains.append_right
    | values =>
      delta valueMethods
      dsimp only
      repeat first
        | with_reducible exact (Contains.refl _).append_left _
        | with_reducible apply Contains.append_right
  exact methods.append_left _

end Text

variable {f : ConstantsFile} {name : String}

theorem mentions_of_stands_valueType (values : f.group = .values)
    (stands : StandsIn name f.valueType) : Mentions name f.text := by
  have set_off : Mentions name ("    pub fn value(self) -> " ++ f.valueType ++ " \x7b\n") :=
    stands.mentions (by decide)
  have methods : Contains ("    pub fn value(self) -> " ++ f.valueType ++ " \x7b\n") f.methods := by
    unfold methods
    rw [values]
    delta valueMethods
    dsimp only
    repeat first
      | with_reducible exact .behind _
      | with_reducible apply Contains.append_right
  exact set_off.of_contains (methods.append_left _)

theorem zip_variants (f : ConstantsFile) : f.variants.zip f.constants =
    f.constants.map fun c => (f.group.variantName f.name c.name, c) := by
  rw [variants, variantNames]
  induction f.constants with
  | nil => rfl
  | cons c cs ih => rw [List.map_cons, List.zip_cons_cons, ih, List.map_cons]

theorem contains_arms (f : ConstantsFile) : Contains f.arms f.text := by
  have methods : Contains f.arms f.methods := by
    unfold methods
    cases f.group with
    | flags =>
      delta flagMethods
      dsimp only
      repeat first
        | with_reducible exact (Contains.refl _).append_left _
        | with_reducible apply Contains.append_right
    | values =>
      delta valueMethods
      dsimp only
      repeat first
        | with_reducible exact (Contains.refl _).append_left _
        | with_reducible apply Contains.append_right
  exact methods.append_left _

theorem mentions_of_stands_module {c : HeaderConstant} (listed : c ∈ f.constants)
    (stands : StandsIn name (ItemPath.simpleName c.module)) : Mentions name f.text := by
  have expression : StandsIn name c.expression := stands.before (by decide) _
  have number : StandsIn name (f.number c) := by
    unfold number
    split
    · exact expression
    · exact expression.before (by decide) _
  have set_off : Mentions name (" => " ++ f.number c ++ ",\n") := number.mentions (by decide)
  have listed : (f.group.variantName f.name c.name, c) ∈ f.variants.zip f.constants :=
    f.zip_variants ▸ List.mem_map_of_mem listed
  refine set_off.of_contains (Contains.trans ?_ f.contains_arms)
  refine Contains.trans ?_ (Contains.join (List.mem_map_of_mem listed))
  exact .behind _

theorem mentions_of_mem_given {type : String} (given : type ∈ f.given)
    (stands : StandsIn name type) : Mentions name f.text := by
  rcases List.mem_append.1 given with number | module
  · cases group : f.group with
    | flags =>
      rw [group] at number
      cases number
    | values =>
      rw [group] at number
      cases List.mem_singleton.1 number
      exact mentions_of_stands_valueType group stands
  · obtain ⟨c, listed, rfl⟩ := List.mem_map.1 module
    exact mentions_of_stands_module (List.mem_filter.1 listed).1 stands

end ConstantsFile

namespace StructureFile

section Text

variable (f : StructureFile)

def given : List String :=
  inFull (f.imports.name f.native.path) f.native.path ++
    f.members.flatMap fun m => m.shape.given (f.site m)

theorem contains_conversions : Contains f.conversions f.text := by
  unfold text
  iterate 4 apply Contains.append_right
  exact (Contains.refl _).append_left _

theorem contains_result : Contains "<'_>) -> Result<Self, " f.text := by
  refine Contains.trans ?_ f.contains_conversions
  delta conversions
  dsimp only
  repeat first
    | with_reducible exact (Contains.refl _).append_left _
    | with_reducible apply Contains.append_right

theorem contains_ok : Contains "        Ok(Self \x7b\n" f.text := by
  refine Contains.trans ?_ f.contains_conversions
  delta conversions
  dsimp only
  repeat first
    | with_reducible exact (Contains.refl _).append_left _
    | with_reducible apply Contains.append_right

theorem contains_err (chained : f.chainItem?.isSome) :
    Contains "            return Err(" f.text := by
  obtain ⟨item, found⟩ := Option.isSome_iff_exists.1 chained
  have inside : Contains "            return Err(" item := by
    obtain ⟨chain, -, rest⟩ := Option.bind_eq_some_iff.1 found
    obtain ⟨type, -, rest⟩ := Option.bind_eq_some_iff.1 rest
    obtain ⟨discriminant, -, written⟩ := Option.bind_eq_some_iff.1 rest
    rw [← Option.some.inj written]
    repeat first
      | with_reducible exact (Contains.refl _).append_left _
      | with_reducible apply Contains.append_right
  unfold text
  rw [found]
  iterate 2 apply Contains.append_right
  exact (inside.append_right _).append_left _

theorem contains_fieldType {m : ClassifiedMember} (member : m ∈ f.members) :
    Contains (": " ++ m.shape.valueType (f.site m) ++ ",\n") f.text := by
  let line := "    pub " ++ m.field ++ (": " ++ m.shape.valueType (f.site m) ++ ",\n")
  have listed : line ∈ f.fields.map fun field =>
      "    pub " ++ field.1 ++ ": " ++ field.2 ++ ",\n" := by
    rw [fields, List.map_map]
    exact List.mem_map.2 ⟨m, member, by simp only [line, Function.comp_apply, String.append_assoc]⟩
  have struct : Contains line f.valueStruct := ((Contains.join listed).append_left _).append_right _
  have whole : Contains line f.text := by
    unfold text
    iterate 8 apply Contains.append_right
    exact struct.append_left _
  exact ((Contains.refl _).append_left _).trans whole

theorem mentions_ownPrelude {name : String} {m : ClassifiedMember} (member : m ∈ f.members)
    (own : name ∈ m.shape.ownPrelude) : Mentions name f.text := by
  refine Mentions.of_contains ?_ (f.contains_fieldType member)
  have vec : Mentions "Vec" (": " ++ "Vec<") := .of_cut ": " "<" (by decide) (by decide)
  cases shape : m.shape with
  | nextChain =>
    rw [shape] at own
    simp only [MemberShape.ownPrelude, List.mem_cons, List.not_mem_nil, or_false] at own
    simp only [MemberShape.valueType, ← String.append_assoc]
    have type : Contains (": " ++ "Vec<Box<dyn ") (": " ++ "Vec<Box<dyn " ++
        nextTraitName (f.site m).owner ++ ">>" ++ ",\n") := by
      iterate 3 apply Contains.append_right
      exact .refl _
    refine Mentions.of_contains ?_ type
    rcases own with rfl | rfl
    · exact .of_cut ": " "<Box<dyn " (by decide) (by decide)
    · exact .of_cut ": Vec<" "<dyn " (by decide) (by decide)
  | text =>
    rw [shape] at own
    cases List.mem_singleton.1 own
    simp only [MemberShape.valueType]
    exact .of_cut ": " ",\n" (by decide) rfl
  | primitiveArray | mappedArray | handleArray =>
    rw [shape] at own
    cases List.mem_singleton.1 own
    simp only [MemberShape.valueType, ← String.append_assoc]
    refine vec.of_contains ?_
    iterate 3 apply Contains.append_right
    exact .refl _
  | _ =>
    rw [shape] at own
    cases own

end Text

variable {f : StructureFile} {m : ClassifiedMember} {name : String}

theorem mentions_of_stands_read (member : m ∈ f.members) (prelude : name ∈ preludeNames)
    (stands : StandsIn name (m.shape.read (f.site m) "raw").render) : Mentions name f.text := by
  let line := "            " ++ m.field ++ ": " ++
    Text.indentTail 12 (m.shape.read (f.site m) "raw").render ++
      (if m.shape.isFallible then "?" else "") ++ ",\n"
  have indented : StandsIn name (Text.indentTail 12 (m.shape.read (f.site m) "raw").render ++
      if m.shape.isFallible then "?" else "") := by
    refine (stands.indentTail 12 prelude).append ?_
    split <;> decide
  have inside : Mentions name line := by
    have set_off : Mentions name (": " ++ (Text.indentTail 12
        (m.shape.read (f.site m) "raw").render ++ if m.shape.isFallible then "?" else "") ++
          ",\n") := indented.mentions (by decide)
    refine set_off.of_contains (.of_eq ("            " ++ m.field) "" ?_)
    simp only [line, String.append_assoc, String.append_empty]
  have reads : Contains f.fieldReads f.conversions := by
    delta conversions
    dsimp only
    repeat first
      | with_reducible exact (Contains.refl _).append_left _
      | with_reducible apply Contains.append_right
  refine inside.of_contains (Contains.trans ?_ (reads.trans f.contains_conversions))
  exact Contains.join (List.mem_map_of_mem member)

theorem mentions_of_stands_write (member : m ∈ f.members) (prelude : name ∈ preludeNames)
    (stands : StandsIn name (m.shape.write (f.site m) "destination" "allocator").render) :
    Mentions name f.text := by
  let indented (m : ClassifiedMember) : String :=
    Text.indent 8 (m.shape.write (f.site m) "destination" "allocator").render
  have lines : f.fieldWrites = String.join ((f.members.map indented).map (· ++ "\n")) := by
    rw [List.map_map]
    rfl
  have inside : StandsIn name f.fieldWrites := by
    rw [lines]
    exact (stands.indent 8 prelude).join (List.mem_map_of_mem (f := indented) member)
  have set_off : Mentions name ("> \x7b\n" ++ f.fieldWrites ++ "        Ok(())\n") :=
    inside.mentions (by decide)
  refine set_off.of_contains (Contains.trans ?_ f.contains_conversions)
  delta conversions
  dsimp only
  iterate 2 apply Contains.append_right
  exact .behind _

theorem mentions_of_stands_method {code : String} (member : m ∈ f.members)
    (prelude : name ∈ preludeNames)
    (method : m.shape.extraMethod? (f.site m) (Naming.functionAccessorName m.member.name) =
      some code) (stands : StandsIn name code) : Mentions name f.text := by
  have listed : "\n" ++ Text.indent 4 code ++ "\n" ∈ f.extraMethods.map fun method =>
      "\n" ++ Text.indent 4 method ++ "\n" :=
    List.mem_map_of_mem (List.mem_filterMap.2 ⟨m, member, method⟩)
  have set_off : Mentions name ("\n" ++ Text.indent 4 code ++ "\n") :=
    (stands.indent 4 prelude).mentions (by decide)
  refine (set_off.of_contains (Contains.join listed)).of_contains ?_
  have methods : Contains (String.join (f.extraMethods.map fun method =>
      "\n" ++ Text.indent 4 method ++ "\n")) f.inherentImpl :=
    ((Contains.refl _).append_left _).append_right _
  unfold text
  iterate 6 apply Contains.append_right
  exact methods.append_left _

theorem mentions_of_stands_path (stands : StandsIn name (f.imports.name f.native.path)) :
    Mentions name f.text := by
  have set_off : Mentions name ("        " ++ f.imports.name f.native.path ++ "::LAYOUT\n") :=
    stands.mentions (by decide)
  refine set_off.of_contains (Contains.trans ?_ f.contains_conversions)
  delta conversions
  dsimp only
  repeat first
    | with_reducible exact .behind _
    | with_reducible apply Contains.append_right

theorem mentions_of_mem_given {type : String} (prelude : name ∈ preludeNames)
    (given : type ∈ f.given) (stands : StandsIn name type) : Mentions name f.text := by
  rcases List.mem_append.1 given with path | ofMember
  · obtain ⟨kept, rfl⟩ := mem_inFull.1 path
    exact mentions_of_stands_path (by rwa [kept])
  · obtain ⟨m, member, given⟩ := List.mem_flatMap.1 ofMember
    rcases MemberShape.stands_of_mem_given given stands
        (Naming.functionAccessorName m.member.name) with
      field | reads | writes | ⟨code, method, inside⟩
    · have set_off : Mentions name (": " ++ m.shape.valueType (f.site m) ++ ",\n") :=
        field.mentions (by decide)
      exact set_off.of_contains (f.contains_fieldType member)
    · exact mentions_of_stands_read member prelude reads
    · exact mentions_of_stands_write member prelude writes
    · exact mentions_of_stands_method member prelude method inside

end StructureFile

inductive GeneratedFile where
  | constants (f : ConstantsFile)
  | wrapper (f : StructureFile)

namespace GeneratedFile

def name : GeneratedFile → String
  | constants f => f.name
  | wrapper f => f.name

def text : GeneratedFile → String
  | constants f => f.text
  | wrapper f => f.text

def exports : GeneratedFile → List String
  | constants f => f.exports
  | wrapper f => f.exports

def imports : GeneratedFile → ImportTable
  | constants f => f.imports
  | wrapper f => f.imports

def requirements : GeneratedFile → List String
  | constants f => f.requirements
  | wrapper f => f.requirements

def ownPrelude : GeneratedFile → List String
  | constants _ => ["Result"]
  | wrapper f =>
    ["Result", "Ok"] ++ (if f.chainItem?.isSome then ["Err"] else []) ++
      f.members.flatMap (·.shape.ownPrelude)

def given : GeneratedFile → List String
  | constants f => f.given
  | wrapper f => f.given

/-- The code uses the name without a path: by itself, or in what it takes over as it is. -/
def Relies (f : GeneratedFile) (name : String) : Prop :=
  name ∈ f.ownPrelude ∨ ∃ type ∈ f.given, Mentions name (" " ++ type ++ " ")

variable {f : GeneratedFile} {name : String}

theorem mem_ownPrelude (own : name ∈ f.ownPrelude) :
    name ∈ preludeNames ∧ Mentions name f.text := by
  cases f with
  | constants f =>
    cases List.mem_singleton.1 own
    have mentions : Mentions "Result" ") -> Result<Self, " :=
      .of_cut ") -> " "<Self, " (by decide) (by decide)
    exact ⟨by decide, mentions.of_contains f.contains_result⟩
  | wrapper f =>
    rcases List.mem_append.1 own with fixed | field
    · rcases List.mem_append.1 fixed with always | chained
      · simp only [List.mem_cons, List.not_mem_nil, or_false] at always
        rcases always with rfl | rfl
        · have mentions : Mentions "Result" "<'_>) -> Result<Self, " :=
            .of_cut "<'_>) -> " "<Self, " (by decide) (by decide)
          exact ⟨by decide, mentions.of_contains f.contains_result⟩
        · have mentions : Mentions "Ok" "        Ok(Self \x7b\n" :=
            .of_cut "        " "(Self \x7b\n" (by decide) (by decide)
          exact ⟨by decide, mentions.of_contains f.contains_ok⟩
      · split at chained
        · rename_i item
          cases List.mem_singleton.1 chained
          have mentions : Mentions "Err" "            return Err(" :=
            .of_cut "            return " "(" (by decide) (by decide)
          exact ⟨by decide, mentions.of_contains (f.contains_err item)⟩
        · cases chained
    · obtain ⟨m, member, own⟩ := List.mem_flatMap.1 field
      exact ⟨m.shape.ownPrelude_subset own, f.mentions_ownPrelude member own⟩

theorem mentions_of_relies (prelude : name ∈ preludeNames) (relies : f.Relies name) :
    Mentions name f.text := by
  rcases relies with own | ⟨type, given, mentions⟩
  · exact (mem_ownPrelude own).2
  · have stands := StandsIn.of_blanks prelude mentions
    cases f with
    | constants f => exact f.mentions_of_mem_given given stands
    | wrapper f => exact f.mentions_of_mem_given prelude given stands

end GeneratedFile
end Bindwright
