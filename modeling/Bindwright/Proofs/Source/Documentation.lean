import Bindwright.Proofs.Source.Declarations
import Bindwright.Proofs.Text.Pieces

namespace Bindwright.Source

def Head.documenting (head : Head) : List Attribute :=
  head.attributes.filter (·.documentation?.isSome)

/-- The documentation stands on consecutive lines, with nothing between them. -/
def Head.Unbroken (head : Head) : Prop :=
  head.documenting.IsChain fun above below => below.position.line = above.position.line + 1

def LinesFound (head : Head) (type : NativeType) : Prop :=
  ∀ (i column : Nat) (line : Attribute), head.documenting[i]? = some line →
    (type.documentationLocation ⟨i + 1, column⟩).line = some line.position.line

structure DocumentedBy (head : Head) (type : NativeType) : Prop where
  lines : head.documenting ≠ [] →
    (∀ line ∈ head.documenting, ∀ text ∈ line.documentation?, '\n' ∉ text.toList) →
    (Text.splitAll '\n' type.documentation.toList).map (fun line => some (String.ofList line)) =
      head.documenting.map Attribute.documentation?
  counted : ∀ first ∈ head.documenting.head?, ∀ i column : Nat,
    (type.documentationLocation ⟨i + 1, column⟩).line = some (first.position.line + i)
  found_iff : LinesFound head type ↔ head.Unbroken

theorem map_some_texts (attributes : List Attribute) :
    (attributes.filterMap Attribute.documentation?).map some =
      (attributes.filter (·.documentation?.isSome)).map Attribute.documentation? := by
  rw [List.map_filterMap_some_eq_filter_map_isSome, List.filter_map]
  rfl

theorem documentation_text (attributes : List Attribute) :
    (documentation attributes).1 =
      "\n".intercalate (attributes.filterMap Attribute.documentation?) := by
  have texts : (documentation attributes).1 = "\n".intercalate
      ((attributes.filterMap fun a => a.documentation?.map fun s => (s, a.position.line)).map
        (·.1)) := rfl
  rw [texts, List.map_filterMap]
  congr
  funext a
  cases a.documentation? <;> rfl

theorem documentation_line (attributes : List Attribute) :
    (documentation attributes).2 =
      (attributes.filter (·.documentation?.isSome)).head?.map (·.position.line) := by
  have first : (documentation attributes).2 =
      (attributes.filterMap fun a => a.documentation?.map fun s => (s, a.position.line)).head?.map
        (·.2) := rfl
  rw [first]
  induction attributes with
  | nil => rfl
  | cons a attributes ih =>
    cases read : a.documentation? with
    | none => simpa [read] using ih rfl
    | some text => simp [read]

section Lines

variable {head : Head} {type : NativeType}

theorem lines_documentation (written : type.documentation = (documentation head.attributes).1)
    (inhabited : head.documenting ≠ [])
    (plain : ∀ line ∈ head.documenting, ∀ text ∈ line.documentation?, '\n' ∉ text.toList) :
    (Text.splitAll '\n' type.documentation.toList).map (fun line => some (String.ofList line)) =
      head.documenting.map Attribute.documentation? := by
  have texts := map_some_texts head.attributes
  rw [← Head.documenting] at texts
  have split : Text.splitAll '\n' type.documentation.toList =
      (head.attributes.filterMap Attribute.documentation?).map String.toList := by
    rw [written, documentation_text, String.toList_intercalate]
    refine Text.splitAll_intercalate ?_ ?_
    · intro empty
      rw [List.map_eq_nil_iff.1 empty] at texts
      exact inhabited (List.map_eq_nil_iff.1 texts.symm)
    · intro piece member
      obtain ⟨text, listed, rfl⟩ := List.mem_map.1 member
      have listed := texts ▸ List.mem_map_of_mem (f := some) listed
      obtain ⟨line, own, text'⟩ := List.mem_map.1 listed
      exact plain line own text text'
  rw [split, ← texts, List.map_map]
  exact List.map_congr_left fun text _ => congrArg some String.ofList_toList

theorem found_iff_unbroken
    (counted : ∀ first ∈ head.documenting.head?, ∀ i column : Nat,
      (type.documentationLocation ⟨i + 1, column⟩).line = some (first.position.line + i)) :
    LinesFound head type ↔ head.Unbroken := by
  rw [Head.Unbroken, List.isChain_iff_getElem]
  cases lines : head.documenting with
  | nil => simp [LinesFound, lines]
  | cons first rest =>
    rw [lines] at counted
    have counted := counted first rfl
    constructor
    · intro found i later
      rw [LinesFound, lines] at found
      have here := found i 1 _ (List.getElem?_eq_getElem (by omega))
      have next := found (i + 1) 1 _ (List.getElem?_eq_getElem later)
      rw [counted, Option.some_inj] at here next
      omega
    · intro chain i column line own
      rw [lines] at own
      rw [counted]
      -- Each line is found one behind the line before it.
      induction i generalizing line with
      | zero =>
        obtain rfl : first = line := by simpa using own
        rfl
      | succ i ih =>
        obtain ⟨later, rfl⟩ := List.getElem?_eq_some_iff.1 own
        have here := ih _ (List.getElem?_eq_getElem (by omega))
        rw [Option.some_inj] at here
        rw [chain i later, ← here, Nat.add_assoc]

end Lines

theorem documentedBy {head : Head} {type : NativeType} {otherwise : Nat}
    (text : type.documentation = (documentation head.attributes).1)
    (line : type.documentationLine = (documentation head.attributes).2.getD otherwise) :
    DocumentedBy head type := by
  have counted : ∀ first ∈ head.documenting.head?, ∀ i column : Nat,
      (type.documentationLocation ⟨i + 1, column⟩).line = some (first.position.line + i) := by
    intro first leads i column
    rw [documentation_line, ← Head.documenting, leads] at line
    rw [NativeType.documentationLocation, line]
    rfl
  exact ⟨lines_documentation text, counted, found_iff_unbroken counted⟩

theorem documentation_found_iff (items : List Item) (module header : String)
    (file : Option String) :
    List.Forall₂ (fun (declared : String × Head) (type : String × NativeType) =>
        type.1 = declared.1 ∧ type.2.name = declared.2.name.text ∧ DocumentedBy declared.2 type.2)
      (structuresAmong header module items) (bindingsOf items module header file).types := by
  refine (bindingsOf_types items module header file).imp ?_
  rintro declared type ⟨own, -, -, completed⟩
  rw [completed]
  exact ⟨rfl, rfl, documentedBy rfl rfl⟩

/-- An ordinary comment stands between two lines of documentation; the second line is looked for
where the comment stands. -/
theorem documentation_around_comment :
    let text := "/// A size.\n// The width comes first.\n/// In pixels.\npub struct VkExtent;\n"
    ((SourceFile.items? text).map fun items =>
        (structuresAmong "vulkan_h" "crate::sys" items).map fun declared =>
          declared.2.documenting.map (·.position.line)) = some [[1, 3]] ∧
      ((readBindings text "crate::sys" "vulkan_h" none).toOption.map fun bindings =>
        bindings.types.map fun type =>
          [1, 2].map fun line => (type.2.documentationLocation ⟨line, 1⟩).line) =
        some [[some 1, some 2]] := by
  decide +kernel

end Bindwright.Source
