import Mathlib.Data.List.Basic
import Bindwright.Files.Path

namespace Bindwright

namespace Files

open Text

def PlainName (name : String) : Prop :=
  name ≠ "" ∧ name ≠ "." ∧ name ≠ ".." ∧ '/' ∉ name.toList

instance : DecidablePred PlainName := fun _ => inferInstanceAs (Decidable (_ ∧ _))

def OnlyNames (path : String) : Prop := ∀ c ∈ components path, ∃ name, c = .normal name

def leading (first : List Char) : List Component :=
  if first = [] then [.root] else if first = ['.'] then [.current] else ofPiece first

variable {path base rest : String} {first : List Char} {pieces more more' : List (List Char)}

theorem components_of_split (inhabited : path ≠ "")
    (split : splitAll '/' path.toList = first :: pieces) :
    components path = leading first ++ pieces.flatMap ofPiece := by
  have filled : path.isEmpty = false := by simpa using inhabited
  simp only [components, split, filled, leading, Bool.false_eq_true, if_false]

theorem components_of_splits (inhabited : base ≠ "") (inhabited' : path ≠ "")
    (split : splitAll '/' base.toList = first :: (pieces ++ more))
    (split' : splitAll '/' path.toList = first :: (pieces ++ more'))
    (empty : more.flatMap ofPiece = []) :
    components path = components base ++ more'.flatMap ofPiece := by
  rw [components_of_split inhabited split, components_of_split inhabited' split',
    List.flatMap_append, List.flatMap_append, empty, List.append_nil, List.append_assoc]

theorem components_of_plain (plain : PlainName path) : components path = [.normal path] := by
  obtain ⟨inhabited, dot, dots, slash⟩ := plain
  have list {text : String} (differ : path ≠ text) : path.toList ≠ text.toList := fun same =>
    differ (String.toList_inj.1 same)
  have unlike : path.toList ≠ [] := list inhabited
  have unlike' : path.toList ≠ ['.'] := list dot
  have unlike'' : path.toList ≠ ['.', '.'] := list dots
  rw [components_of_split inhabited (splitAll_of_not_mem slash), leading, if_neg unlike,
    if_neg unlike', ofPiece, if_neg (not_or.2 ⟨unlike, unlike'⟩), if_neg unlike'',
    String.ofList_toList]
  rfl

theorem PlainName.onlyNames (plain : PlainName path) : OnlyNames path := by
  rw [OnlyNames, components_of_plain plain]
  exact fun c member => ⟨path, List.mem_singleton.1 member⟩

namespace OnlyNames

variable (names : OnlyNames path)

include names

theorem root_not_mem : .root ∉ components path := fun member => by
  obtain ⟨name, impossible⟩ := names .root member
  cases impossible

theorem current_not_mem : .current ∉ components path := fun member => by
  obtain ⟨name, impossible⟩ := names .current member
  cases impossible

theorem flatMap_ofPiece : (splitAll '/' path.toList).flatMap ofPiece = components path := by
  by_cases empty : path = ""
  · subst empty
    decide
  obtain ⟨first, pieces, split⟩ := exists_splitAll '/' path.toList
  have root := names.root_not_mem
  have current := names.current_not_mem
  rw [components_of_split empty split, List.mem_append, not_or] at root current
  have inhabited : first ≠ [] := by
    rintro rfl
    exact root.1 (List.mem_singleton_self _)
  have undotted : first ≠ ['.'] := by
    rintro rfl
    exact current.1 (List.mem_singleton_self _)
  rw [components_of_split empty split, split, List.flatMap_cons, leading, if_neg inhabited,
    if_neg undotted]

theorem relative : startsWith ['/'] path.toList = false := by
  rw [Bool.eq_false_iff]
  intro absolute
  obtain ⟨rest, found⟩ := Option.isSome_iff_exists.1 absolute
  have text := eq_append_of_afterPrefix? found
  have inhabited : path ≠ "" := by
    rintro rfl
    cases text
  obtain ⟨first, pieces, split⟩ := exists_splitAll '/' rest
  have split' : splitAll '/' path.toList = [] :: first :: pieces := by
    rw [text, List.singleton_append, splitAll_cons split, if_pos rfl]
  refine names.root_not_mem ?_
  rw [components_of_split inhabited split']
  exact List.mem_append_left _ (List.mem_singleton_self _)

end OnlyNames

theorem append_ne_empty (inhabited : base ≠ "") (rest : String) : base ++ rest ≠ "" := fun empty =>
  inhabited (String.append_eq_empty_iff.1 empty).1

theorem components_append_slash (inhabited : base ≠ "") (rest : String) :
    components (base ++ "/" ++ rest) =
      components base ++ (splitAll '/' rest.toList).flatMap ofPiece := by
  obtain ⟨first, pieces, split⟩ := exists_splitAll '/' base.toList
  have before : splitAll '/' base.toList = first :: (pieces ++ []) := by rw [List.append_nil, split]
  have joined : splitAll '/' (base ++ ("/" ++ rest)).toList =
      first :: (pieces ++ splitAll '/' rest.toList) := by
    have slash : "/".toList = ['/'] := rfl
    rw [String.toList_append, String.toList_append, slash, List.singleton_append, splitAll_append,
      split, List.cons_append]
  rw [String.append_assoc]
  exact components_of_splits inhabited (append_ne_empty inhabited _) before joined rfl

theorem components_append_of_endsWith (inhabited : base ≠ "")
    (closed : endsWith ['/'] base.toList = true) (rest : String) :
    components (base ++ rest) =
      components base ++ (splitAll '/' rest.toList).flatMap ofPiece := by
  obtain ⟨front, found⟩ := Option.isSome_iff_exists.1 closed
  have text := eq_append_of_beforeSuffix? found
  obtain ⟨first, pieces, split⟩ := exists_splitAll '/' front
  have before : splitAll '/' base.toList = first :: (pieces ++ [[]]) := by
    rw [text, splitAll_append, split, List.cons_append]
    rfl
  have joined : splitAll '/' (base ++ rest).toList =
      first :: (pieces ++ splitAll '/' rest.toList) := by
    rw [String.toList_append, text, List.append_assoc, List.singleton_append, splitAll_append,
      split, List.cons_append]
  exact components_of_splits inhabited (append_ne_empty inhabited _) before joined rfl

theorem components_join (names : OnlyNames rest) (base : String) :
    components (join base rest) = components base ++ components rest := by
  rw [join, names.relative]
  by_cases empty : base = ""
  · subst empty
    rfl
  have filled : base.isEmpty = false := by simpa using empty
  rw [filled, ← names.flatMap_ofPiece]
  simp only [Bool.or_self, Bool.false_eq_true, if_false]
  split
  · rename_i closed
    exact components_append_of_endsWith empty closed rest
  · exact components_append_slash empty rest

theorem components_foldl_join {names : List String} (plain : ∀ name ∈ names, PlainName name)
    (base : String) :
    components (names.foldl join base) = components base ++ names.map .normal := by
  induction names generalizing base with
  | nil => rw [List.foldl_nil, List.map_nil, List.append_nil]
  | cons name names ih =>
    obtain ⟨here, later⟩ := List.forall_mem_cons.1 plain
    rw [List.foldl_cons, ih later, components_join here.onlyNames, components_of_plain here,
      List.map_cons, List.append_assoc, List.singleton_append]

end Files
end Bindwright
