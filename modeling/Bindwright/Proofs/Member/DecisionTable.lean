import Bindwright.Member.Classified

/-!
# The decision table of member shapes

The table has thirteen rows over a member's declarator, its type and name, what the registry has
for the type and for the type with the name, and the layout of the type's elements. The first row
that matches decides; without one the member cannot be read (`shapeOf_eq_firstRow`).
-/

namespace Bindwright

namespace Mapping

inductive Existing : Mapping → String → Prop where
  | existing (native path : String) : Existing (.existing native path) path
  | replacement (native path : String) (replaced : Mapping) :
      Existing (.replacement native path replaced) path

inductive Structure : Mapping → String → Prop where
  | existing {mapping : Mapping} {path : String} (known : mapping.Existing path) :
      Structure mapping path
  | pending {q : Request} (wrapper : q.product = .wrapper) :
      Structure (.pending q) q.destination.path

inductive Target : Mapping → String → Prop where
  | existing {mapping : Mapping} {path : String} (known : mapping.Existing path) :
      Target mapping path
  | pending (q : Request) : Target (.pending q) q.destination.path

variable {mapping : Mapping} {path : String}

theorem existingPath?_eq_some_iff : mapping.existingPath? = some path ↔ mapping.Existing path := by
  constructor
  · intro known
    cases mapping <;> cases known <;> constructor
  · rintro (_ | _) <;> rfl

theorem structurePath?_eq_some_iff :
    mapping.structurePath? = some path ↔ mapping.Structure path := by
  constructor
  · intro known
    unfold structurePath? at known
    split at known
    · cases known
      exact .existing (.existing _ _)
    · cases known
      exact .existing (.replacement _ _ _)
    · cases known
      exact .pending rfl
    · cases known
  · rintro (⟨_ | _⟩ | wrapper)
    · rfl
    · rfl
    · rename_i q
      obtain ⟨_, _, _, product, _⟩ := q
      cases wrapper
      rfl

@[simp] theorem structure_pending_iff {q : Request} :
    (pending q).Structure path ↔ q.product = .wrapper ∧ q.destination.path = path := by
  constructor
  · rintro (known | wrapper)
    · cases known
    · exact ⟨wrapper, rfl⟩
  · rintro ⟨wrapper, rfl⟩
    exact .pending wrapper

@[simp] theorem not_structure_flagBits {native flags : String} :
    ¬(flagBits native flags).Structure path := by
  rintro ⟨known⟩
  cases known

theorem Existing.unique {other : String} (known : mapping.Existing path)
    (known' : mapping.Existing other) : path = other := by
  cases known <;> cases known' <;> rfl

theorem Structure.unique {other : String} (known : mapping.Structure path)
    (known' : mapping.Structure other) : path = other :=
  Option.some.inj ((structurePath?_eq_some_iff.2 known).symm.trans
    (structurePath?_eq_some_iff.2 known'))

theorem Target.unique {other : String} (known : mapping.Target path)
    (known' : mapping.Target other) : path = other := by
  cases known with
  | existing known =>
    cases known' with
    | existing known' => exact known.unique known'
    | pending => cases known
  | pending =>
    cases known' with
    | existing known' => cases known'
    | pending => rfl

end Mapping

namespace Member

/-- A row of the table, by its number, and the shape that it gives the member. A value of a type
without an entry matches row 5: every entry is of a kind that the rows before it name. Bits of flags
match row 4 if the flags have a type to name, and otherwise no row. -/
inductive Row (m : Member) (rawType : String) (r : Registry) (b : Bindings) :
    Nat → MemberShape → Prop where
  | functionPointer {native path : String} (value : m.declarator = .value)
      (type : r.get? m.typeName = some (.functionPointer native path)) :
      Row m rawType r b 1 (.functionPointer path)
  | mappedValue {mapping : Mapping} {path : String} (value : m.declarator = .value)
      (type : r.get? m.typeName = some mapping) (target : mapping.Structure path) :
      Row m rawType r b 2 (.mappedValue path)
  | flagSet {q : Request} {flags : List HeaderConstant} {valueType : String}
      (value : m.declarator = .value) (type : r.get? m.typeName = some (.pending q))
      (product : q.product = .constants .flags flags valueType) :
      Row m rawType r b 3 (.flagSet q.destination.path)
  | enumValue {q : Request} {values : List HeaderConstant} {valueType : String}
      (value : m.declarator = .value) (type : r.get? m.typeName = some (.pending q))
      (product : q.product = .constants .values values valueType) :
      Row m rawType r b 4 (.enumValue q.destination.path valueType)
  | flagBit {native flags path : String} {mapping : Mapping} (value : m.declarator = .value)
      (type : r.get? m.typeName = some (.flagBits native flags))
      (flagType : r.get? flags = some mapping) (target : mapping.Target path) :
      Row m rawType r b 4 (.flagBit path)
  | scalar (value : m.declarator = .value) (type : r.get? m.typeName = none) :
      Row m rawType r b 5 (.scalar rawType)
  | nextChain (pointer : m.declarator = .pointer .value) (type : m.typeName = "void")
      (name : m.name = "pNext") : Row m rawType r b 6 .nextChain
  | pointer {inner : Declarator} (pointer : m.declarator = .pointer inner) :
      Row m rawType r b 7 .opaqueHandle
  | function {returned : Declarator} (function : m.declarator = .function returned) :
      Row m rawType r b 7 .opaqueHandle
  | text (array : m.declarator = .array .value) (type : m.typeName = "char") :
      Row m rawType r b 8 .text
  | floats (array : m.declarator = .array .value) (type : m.typeName = "float") :
      Row m rawType r b 9 (.primitiveArray "f32" Support.f32Layout)
  | doubles (array : m.declarator = .array .value) (type : m.typeName = "double") :
      Row m rawType r b 9 (.primitiveArray "f64" Support.f64Layout)
  | mappedWhole {mapping : Mapping} {path : String} (array : m.declarator = .array .value)
      (own : r.get? (m.typeName ++ " " ++ m.name) = some mapping) (target : mapping.Existing path) :
      Row m rawType r b 10 (.mappedValue path)
  | mappedArray {mapping : Mapping} {path : String} (array : m.declarator = .array .value)
      (type : r.get? m.typeName = some mapping) (target : mapping.Structure path) :
      Row m rawType r b 11 (.mappedArray path)
  | handleArray {layout : LayoutConstant} (array : m.declarator = .array .value)
      (type : b.layout? m.typeName = some layout) (element : layout.element = .address) :
      Row m rawType r b 12 (.handleArray layout.path)
  | primitiveArray {layout : LayoutConstant} {number : String}
      (array : m.declarator = .array .value) (type : b.layout? m.typeName = some layout)
      (element : layout.element = .value number) :
      Row m rawType r b 13 (.primitiveArray number layout.path)

def FirstRow (m : Member) (rawType : String) (r : Registry) (b : Bindings) (shape : MemberShape) :
    Prop :=
  ∃ n, m.Row rawType r b n shape ∧ ∀ earlier < n, ∀ other, ¬m.Row rawType r b earlier other

variable {m : Member} {rawType : String} {r : Registry} {b : Bindings} {n : Nat}
  {shape other : MemberShape}

theorem Row.unique (row : m.Row rawType r b n shape) (row' : m.Row rawType r b n other) :
    shape = other := by
  cases row with
  | mappedValue _ type target =>
    cases row' with | mappedValue _ type' target' =>
    obtain rfl := Option.some.inj (type.symm.trans type')
    exact congrArg _ (target.unique target')
  | flagBit _ type flagType target =>
    cases row' with
    | enumValue _ type' _ => simp_all
    | flagBit _ type' flagType' target' =>
      cases Option.some.inj (type.symm.trans type')
      obtain rfl := Option.some.inj (flagType.symm.trans flagType')
      exact congrArg _ (target.unique target')
  | mappedWhole _ own target =>
    cases row' with | mappedWhole _ own' target' =>
    obtain rfl := Option.some.inj (own.symm.trans own')
    exact congrArg _ (target.unique target')
  | mappedArray _ type target =>
    cases row' with | mappedArray _ type' target' =>
    obtain rfl := Option.some.inj (type.symm.trans type')
    exact congrArg _ (target.unique target')
  | _ => cases row' <;> simp_all

theorem FirstRow.unique (first : m.FirstRow rawType r b shape)
    (first' : m.FirstRow rawType r b other) : shape = other := by
  obtain ⟨n, row, least⟩ := first
  obtain ⟨k, row', least'⟩ := first'
  rcases Nat.lt_trichotomy n k with less | rfl | less
  · exact absurd row (least' n less shape)
  · exact row.unique row'
  · exact absurd row' (least k less other)

theorem Row.first (row : m.Row rawType r b n shape)
    (least : ∀ k other, m.Row rawType r b k other → n ≤ k) : m.FirstRow rawType r b shape :=
  ⟨n, row, fun k less other row' => Nat.not_le_of_gt less (least k other row')⟩

end Member

namespace NativeType

open Member (Row FirstRow)

/-- The failure of a member that no row matches. It names the file of the type, the line on which
the member stands if the documentation is a run of lines, and the member's column. -/
def noRow (t : NativeType) (m : Member) : Failure :=
  if m.declarator = .array .value then
    .missingLayout t.name m.name m.typeName
      ⟨t.location.file, some (t.documentationLine + (m.position.line - 1)), some m.position.column⟩
  else
    .unresolvedMember t.name m.name m.typeName m.declarator.toString
      ⟨t.location.file, some (t.documentationLine + (m.position.line - 1)), some m.position.column⟩

theorem noRow_of_eq {t : NativeType} {m : Member} (array : m.declarator = .array .value) :
    t.noRow m =
      .missingLayout t.name m.name m.typeName (t.documentationLocation m.position) := if_pos array

theorem noRow_of_ne {t : NativeType} {m : Member} (other : m.declarator ≠ .array .value) :
    t.noRow m = t.unresolved m := if_neg other

/-- What the table says of a member. -/
inductive Decided (t : NativeType) (m : Member) (rawType : String) (r : Registry) (b : Bindings) :
    Except Failure MemberShape → Prop where
  | row {shape : MemberShape} (first : m.FirstRow rawType r b shape) :
      Decided t m rawType r b (.ok shape)
  | none (unmatched : ∀ n shape, ¬m.Row rawType r b n shape) :
      Decided t m rawType r b (.error (t.noRow m))

variable {t : NativeType} {m : Member} {rawType : String} {r : Registry} {b : Bindings}

theorem decided_of_row {n : Nat} {shape : MemberShape} (row : m.Row rawType r b n shape)
    (least : ∀ k other, m.Row rawType r b k other → n ≤ k) :
    t.Decided m rawType r b (.ok shape) :=
  .row (row.first least)

theorem mappedShape_decided {mapping : Mapping} (value : m.declarator = .value)
    (type : r.get? m.typeName = some mapping) :
    t.Decided m rawType r b (t.mappedShape m r mapping) := by
  cases mapping with
  | functionPointer native path =>
    refine decided_of_row (.functionPointer value type) fun k other row => ?_
    cases row <;> simp_all
  | existing native path =>
    refine decided_of_row (.mappedValue value type (.existing (.existing _ _)))
      fun k other row => ?_
    cases row <;> simp_all
  | replacement native path replaced =>
    refine decided_of_row (.mappedValue value type (.existing (.replacement _ _ _)))
      fun k other row => ?_
    cases row <;> simp_all
  | pending q =>
    cases product : q.product with
    | wrapper =>
      simp only [mappedShape, product]
      refine decided_of_row (.mappedValue value type (.pending product)) fun k other row => ?_
      cases row <;> simp_all
    | constants group members valueType =>
      cases group with
      | flags =>
        simp only [mappedShape, product]
        refine decided_of_row (.flagSet value type product) fun k other row => ?_
        cases row <;> simp_all
      | «values» =>
        simp only [mappedShape, product]
        refine decided_of_row (.enumValue value type product) fun k other row => ?_
        cases row <;> simp_all
  | flagBits native flags =>
    -- Only row 4 can match, and what the name of the flags stands for decides whether it does.
    have least {k : Nat} {other : MemberShape} (row : m.Row rawType r b k other) :
        k = 4 ∧ ∃ found path, r.get? flags = some found ∧ found.Target path := by
      cases row with
      | flagBit _ type' flagType target =>
        cases Option.some.inj (type.symm.trans type')
        exact ⟨rfl, _, _, flagType, target⟩
      | _ => simp_all
    have matched {found : Mapping} {path : String} (flagType : r.get? flags = some found)
        (target : found.Target path) : t.Decided m rawType r b (.ok (.flagBit path)) :=
      decided_of_row (.flagBit value type flagType target)
        fun k other row => Nat.le_of_eq (least row).1.symm
    have unmatched (none : ∀ found path, r.get? flags = some found → ¬found.Target path) :
        t.Decided m rawType r b (.error (t.unresolved m)) := by
      rw [← noRow_of_ne (by simp [value])]
      refine .none fun n shape row => ?_
      obtain ⟨-, found, path, flagType, target⟩ := least row
      exact none found path flagType target
    simp only [mappedShape]
    cases flagType : r.get? flags with
    | none => exact unmatched fun found path known => by simp [flagType] at known
    | some found =>
      cases found with
      | pending q => exact matched flagType (.pending q)
      | existing _ path => exact matched flagType (.existing (.existing _ path))
      | replacement _ path replaced => exact matched flagType (.existing (.replacement _ path _))
      | functionPointer _ path =>
        refine unmatched fun found path known target => ?_
        cases Option.some.inj (flagType.symm.trans known)
        cases target with | existing known => cases known
      | flagBits _ others =>
        refine unmatched fun found path known target => ?_
        cases Option.some.inj (flagType.symm.trans known)
        cases target with | existing known => cases known

theorem arrayShape_decided (array : m.declarator = .array .value) :
    t.Decided m rawType r b (t.arrayShape m r b) := by
  -- The tests are made in the order of the rows, and each case keeps what failed before it.
  unfold arrayShape
  split
  · rename_i char
    refine decided_of_row (.text array char) fun k other row => ?_
    cases row <;> simp_all
  rename_i noChar
  split
  · rename_i float
    refine decided_of_row (.floats array float) fun k other row => ?_
    cases row <;> simp_all
  rename_i noFloat
  split
  · rename_i double
    refine decided_of_row (.doubles array double) fun k other row => ?_
    cases row <;> simp_all
  rename_i noDouble
  split
  · rename_i path own
    obtain ⟨mapping, own, known⟩ := Option.bind_eq_some_iff.1 own
    refine decided_of_row (.mappedWhole array own (Mapping.existingPath?_eq_some_iff.1 known))
      fun k other row => ?_
    cases row <;> simp_all
  rename_i noOwn
  have noOwn (mapping : Mapping) (path : String)
      (own : r.get? (m.typeName ++ " " ++ m.name) = some mapping) : ¬mapping.Existing path := by
    intro known
    rw [own, Option.bind_some, Mapping.existingPath?_eq_some_iff.2 known] at noOwn
    cases noOwn
  split
  · rename_i path target
    obtain ⟨mapping, type, known⟩ := Option.bind_eq_some_iff.1 target
    refine decided_of_row (.mappedArray array type (Mapping.structurePath?_eq_some_iff.1 known))
      fun k other row => ?_
    cases row <;> simp_all
  rename_i noStructure
  have noStructure (mapping : Mapping) (path : String) (type : r.get? m.typeName = some mapping) :
      ¬mapping.Structure path := by
    intro known
    rw [type, Option.bind_some, Mapping.structurePath?_eq_some_iff.2 known] at noStructure
    cases noStructure
  cases type : b.layout? m.typeName with
  | none =>
    rw [← noRow_of_eq array]
    refine .none fun n shape row => ?_
    cases row <;> simp_all
  | some layout =>
    dsimp only
    cases element : layout.element with
    | address =>
      refine decided_of_row (.handleArray array type element) fun k other row => ?_
      cases row <;> simp_all
    | value number =>
      refine decided_of_row (.primitiveArray array type element) fun k other row => ?_
      cases row <;> simp_all

theorem shapeOf_decided (t : NativeType) (m : Member) (rawType : String) (r : Registry)
    (b : Bindings) : t.Decided m rawType r b (t.shapeOf m rawType r b) := by
  unfold shapeOf
  cases declarator : m.declarator with
  | value =>
    dsimp only
    cases type : r.get? m.typeName with
    | none =>
      refine decided_of_row (.scalar declarator type) fun k other row => ?_
      cases row <;> simp_all
    | some mapping => exact mappedShape_decided declarator type
  | pointer inner =>
    dsimp only
    split
    · rename_i chain
      obtain ⟨rfl, void, next⟩ := chain
      refine decided_of_row (.nextChain declarator void next) fun k other row => ?_
      cases row <;> simp_all
    · rename_i plain
      refine decided_of_row (.pointer declarator) fun k other row => ?_
      cases row <;> simp_all [nextMember]
  | function returned =>
    refine decided_of_row (.function declarator) fun k other row => ?_
    cases row <;> simp_all
  | array inner =>
    cases inner with
    | value => exact arrayShape_decided declarator
    | pointer inner | array inner | function inner =>
      dsimp only
      rw [← noRow_of_ne (by simp [declarator])]
      refine .none fun n shape row => ?_
      cases row <;> simp_all

/-- A member has the shape that the first matching row of the table gives it, and none if no row
matches: then it lacks a layout, if it is an array of values, or cannot be resolved. -/
theorem shapeOf_eq_firstRow (t : NativeType) (m : Member) (rawType : String) (r : Registry)
    (b : Bindings) :
    (∀ shape, t.shapeOf m rawType r b = .ok shape ↔ m.FirstRow rawType r b shape) ∧
    ∀ failure, t.shapeOf m rawType r b = .error failure ↔
      (∀ n shape, ¬m.Row rawType r b n shape) ∧ failure = t.noRow m := by
  have decided := t.shapeOf_decided m rawType r b
  generalize t.shapeOf m rawType r b = result at decided
  cases decided with
  | row first =>
    refine ⟨fun shape => ⟨fun same => ?_, fun first' => congrArg _ (first.unique first')⟩,
      fun failure => iff_of_false nofun fun none => ?_⟩
    · cases same
      exact first
    · obtain ⟨n, row, -⟩ := first
      exact none.1 n _ row
  | none unmatched =>
    refine ⟨fun shape => iff_of_false nofun fun first => ?_, fun failure => ?_⟩
    · obtain ⟨n, row, -⟩ := first
      exact unmatched n shape row
    · exact ⟨fun same => ⟨unmatched, (Except.error.inj same).symm⟩,
        fun none => congrArg _ none.2.symm⟩

end NativeType
end Bindwright
