import Mathlib.Data.List.Basic
import Bindwright.Naming.Casing

namespace Bindwright.Naming

open Text

def capitals : List Char := "ABCDEFGHIJKLMNOPQRSTUVWXYZ".toList

def smallLetters : List Char := "abcdefghijklmnopqrstuvwxyz".toList

def small : List Char := smallLetters ++ "0123456789".toList

structure Word where
  capital : Char
  second : Char
  rest : List Char
  capital_mem : capital ∈ capitals
  second_mem : second ∈ smallLetters
  rest_mem : ∀ c ∈ rest, c ∈ small

namespace Word

def tail (w : Word) : List Char := w.second :: w.rest

def chars (w : Word) : List Char := w.capital :: w.tail

def lowered (w : Word) : List Char := w.capital.toLower :: w.tail

def last (w : Word) : Char := w.rest.getLastD w.second

end Word

def IsCamelCase (name : String) : Prop :=
  ∃ words : List Word, name.toList = words.flatMap Word.chars

theorem capital_spec : ∀ c ∈ capitals, isUppercase c = true ∧ lowerOf c = [c.toLower] ∧
    upperOf c.toLower = [c] ∧ c.toLower ∈ small :=
  List.forall_iff_forall_mem.1 (by decide)

theorem small_spec : ∀ c ∈ small, isUppercase c = false ∧ lowerOf c = [c] ∧ c ≠ 'Σ' ∧
    (isLowercase c = true ∨ c.isDigit = true) :=
  List.forall_iff_forall_mem.1 (by decide)

theorem isLowercase_of_mem_smallLetters : ∀ c ∈ smallLetters, isLowercase c = true :=
  List.forall_iff_forall_mem.1 (by decide)

theorem not_mem_small : '_' ∉ small ∧ '/' ∉ small := by decide

namespace Word

variable (w : Word)

theorem second_mem_small : w.second ∈ small := List.mem_append_left _ w.second_mem

theorem tail_mem : ∀ c ∈ w.tail, c ∈ small :=
  List.forall_mem_cons.2 ⟨w.second_mem_small, w.rest_mem⟩

theorem lowered_mem : ∀ c ∈ w.lowered, c ∈ small :=
  List.forall_mem_cons.2 ⟨(capital_spec _ w.capital_mem).2.2.2, w.tail_mem⟩

theorem last_mem : w.last ∈ small := by
  unfold last
  cases rest : w.rest.getLast? with
  | none => rw [List.getLastD_eq_getLast?, rest]; exact w.second_mem_small
  | some c =>
    rw [List.getLastD_eq_getLast?, rest]
    exact w.rest_mem c (List.mem_of_getLast? rest)

end Word

theorem snakeAfter_small {cs : List Char} (all : ∀ c ∈ cs, c ∈ small) (previous : Char)
    (rest : List Char) :
    snakeAfter previous (cs ++ rest) = cs ++ snakeAfter (cs.getLastD previous) rest := by
  induction cs generalizing previous with
  | nil => rfl
  | cons c cs ih =>
    obtain ⟨here, later⟩ := List.forall_mem_cons.1 all
    obtain ⟨uncapital, own, -, -⟩ := small_spec c here
    rw [List.cons_append, snakeAfter, startsWord, uncapital, Bool.false_and, if_neg Bool.false_ne_true,
      own, ih later, List.getLastD_cons]
    rfl

theorem snakeAfter_tail (w : Word) (rest : List Char) :
    snakeAfter w.capital (w.tail ++ rest) = w.tail ++ snakeAfter w.last rest := by
  rw [snakeAfter_small w.tail_mem, Word.tail, List.getLastD_cons]
  rfl

theorem snakeAfter_word {previous : Char} (before : previous ∈ small) (w : Word)
    (rest : List Char) :
    snakeAfter previous (w.chars ++ rest) = '_' :: w.lowered ++ snakeAfter w.last rest := by
  obtain ⟨capital, lower, -, -⟩ := capital_spec _ w.capital_mem
  have starts : startsWord previous w.capital (some w.second) = true := by
    have second := isLowercase_of_mem_smallLetters _ w.second_mem
    obtain ⟨-, -, -, letter | digit⟩ := small_spec _ before
    · rw [startsWord, capital, letter]
      rfl
    · rw [startsWord, capital, digit, Option.any_some, second]
      simp only [Bool.or_true, Bool.and_true]
  -- The word starts at its capital, since a small letter follows.
  have head : (w.tail ++ rest).head? = some w.second := rfl
  rw [Word.chars, List.cons_append, snakeAfter, head, if_pos starts, lower, snakeAfter_tail]
  rfl

theorem snakeAfter_words {previous : Char} (before : previous ∈ small) (words : List Word) :
    snakeAfter previous (words.flatMap Word.chars) =
      words.flatMap fun w => '_' :: w.lowered := by
  induction words generalizing previous with
  | nil => rfl
  | cons w words ih =>
    rw [List.flatMap_cons, snakeAfter_word before, ih w.last_mem, List.flatMap_cons]

theorem snakeChars_words (w : Word) (words : List Word) :
    snakeChars ((w :: words).flatMap Word.chars) =
      w.lowered ++ words.flatMap fun w => '_' :: w.lowered := by
  obtain ⟨-, lower, -, -⟩ := capital_spec _ w.capital_mem
  rw [List.flatMap_cons, Word.chars, List.cons_append, snakeChars, lower, snakeAfter_tail,
    snakeAfter_words w.last_mem]
  rfl

theorem splitAll_words (w : Word) (words : List Word) :
    splitAll '_' (w.lowered ++ words.flatMap fun w => '_' :: w.lowered) =
      (w :: words).map Word.lowered := by
  have single (w : Word) : splitAll '_' w.lowered = [w.lowered] :=
    splitAll_of_not_mem fun member => not_mem_small.1 (w.lowered_mem _ member)
  induction words generalizing w with
  | nil => rw [List.flatMap_nil, List.append_nil, single, List.map_singleton]
  | cons v words ih =>
    rw [List.flatMap_cons, List.cons_append, splitAll_append, ih, single]
    rfl

theorem lowercaseAfter_small {cs : List Char} (all : ∀ c ∈ cs, c ∈ small) (before : List Char) :
    lowercaseAfter before cs = cs := by
  induction cs generalizing before with
  | nil => rfl
  | cons c cs ih =>
    obtain ⟨here, later⟩ := List.forall_mem_cons.1 all
    obtain ⟨-, own, sigma, -⟩ := small_spec c here
    rw [lowercaseAfter, if_neg sigma, own, ih later]
    rfl

theorem capitalize_lowered (w : Word) : capitalize w.lowered = w.chars := by
  obtain ⟨-, -, upper, -⟩ := capital_spec _ w.capital_mem
  rw [Word.lowered, capitalize, upper, lowercase, lowercaseAfter_small w.tail_mem]
  rfl

theorem upperCamelCase_snakeCase {name : String} (camel : IsCamelCase name) :
    upperCamelCase (snakeCase name) = name := by
  obtain ⟨words, spelled⟩ := camel
  rw [snakeCase, upperCamelCase, String.toList_ofList, ← String.toList_inj, String.toList_ofList,
    spelled]
  cases words with
  | nil => rfl
  | cons w words =>
    rw [snakeChars_words, splitAll_words, List.flatMap_map]
    exact List.flatMap_congr fun w _ => capitalize_lowered w

theorem slash_not_mem_snakeCase {name : String} (camel : IsCamelCase name) :
    '/' ∉ (snakeCase name).toList := by
  obtain ⟨words, spelled⟩ := camel
  rw [snakeCase, String.toList_ofList, spelled]
  cases words with
  | nil => exact List.not_mem_nil
  | cons w words =>
    have lowered (w : Word) : '/' ∉ w.lowered := fun member =>
      not_mem_small.2 (w.lowered_mem _ member)
    rw [snakeChars_words, List.mem_append, List.mem_flatMap, not_or]
    refine ⟨lowered w, ?_⟩
    rintro ⟨v, -, member⟩
    exact lowered v ((List.mem_cons.1 member).resolve_left (by decide))

end Bindwright.Naming
