import Bindwright.Naming.Native
import Bindwright.Proofs.Naming.Casing
import Bindwright.Proofs.Text.Case
import Mathlib.Data.List.Induction
import Mathlib.Data.List.Infix

namespace Bindwright.Naming

open Text

structure LetterWord where
  capital : Char
  letters : List Char
  capital_mem : capital ∈ capitals
  letters_ne_nil : letters ≠ []
  isLowercase_of_mem : ∀ c ∈ letters, isLowercase c = true

namespace LetterWord

def chars (w : LetterWord) : List Char := w.capital :: w.letters

def flag : LetterWord := ⟨'F', "lag".toList, by decide, by decide, List.all_eq_true.1 (by decide)⟩

def flags : LetterWord := ⟨'F', "lags".toList, by decide, by decide, List.all_eq_true.1 (by decide)⟩

theorem isUppercase_of_mem (w : LetterWord) : ∀ c ∈ w.letters, isUppercase c = false :=
  fun c member => isUppercase_of_isLowercase (w.isLowercase_of_mem c member)

end LetterWord

def joined (words : List LetterWord) : List Char := words.flatMap LetterWord.chars

def underscored (words : List LetterWord) : List Char :=
  words.flatMap fun w => uppercase w.chars ++ ['_']

theorem replaceAll_of_not_mem {pattern cs : List Char} {d : Char} (there : d ∈ pattern)
    (absent : d ∉ cs) (new : List Char) : replaceAll pattern new cs = cs := by
  unfold replaceAll
  induction cs with
  | nil => rfl
  | cons c cs ih =>
    have other : startsWith pattern (c :: cs) = false := by
      rw [startsWith, Option.isSome_eq_false_iff, Option.isNone_iff_eq_none,
        Option.eq_none_iff_forall_ne_some]
      intro rest found
      exact absent (eq_append_of_afterPrefix? found ▸ List.mem_append_left rest there)
    rw [replaceAllFrom, other, if_neg Bool.false_ne_true,
      ih fun member => absent (List.mem_cons_of_mem c member)]

theorem trimEndWhile_of_getLast? {p : Char → Bool} {cs : List Char}
    (last : ∀ c ∈ cs.getLast?, p c = false) : trimEndWhile p cs = cs := by
  rw [← List.head?_reverse] at last
  unfold trimEndWhile
  cases mirrored : cs.reverse with
  | nil => rw [List.reverse_eq_nil_iff.1 mirrored]; rfl
  | cons c rest =>
    rw [mirrored] at last
    rw [List.dropWhile_cons_of_neg (by simp [last c rfl]), ← mirrored, List.reverse_reverse]

theorem structureNameChars_of_plain {cs : List Char}
    (free : ∀ e ∈ respellings, ∃ d ∈ e.1, d ∉ cs)
    (last : ∀ c ∈ cs.getLast?, isUppercase c = false) :
    structureNameChars (typePrefix ++ cs) = cs := by
  have kept := List.foldlRecOn (motive := (· = cs)) respellings
    (fun cs e => replaceAll e.1 e.2 cs) rfl fun bare same e member => by
      obtain ⟨d, there, absent⟩ := free e member
      rw [same, replaceAll_of_not_mem there absent]
  unfold structureNameChars
  rw [afterPrefix?_append, Option.getD_some]
  exact (congrArg _ kept).trans (trimEndWhile_of_getLast? last)

section Words

variable {words : List LetterWord}

theorem joined_append (words more : List LetterWord) :
    joined (words ++ more) = joined words ++ joined more := List.flatMap_append

theorem not_mem_joined {d : Char} (other : d ∉ capitals) (other' : isLowercase d = false) :
    d ∉ joined words := by
  intro member
  obtain ⟨w, -, inside⟩ := List.mem_flatMap.1 member
  rcases List.mem_cons.1 inside with rfl | letter
  · exact other w.capital_mem
  · exact Bool.false_ne_true (other'.symm.trans (w.isLowercase_of_mem d letter))

theorem isUppercase_getLast_joined : ∀ c ∈ (joined words).getLast?, isUppercase c = false := by
  intro c last
  induction words using List.reverseRecOn with
  | nil => cases last
  | append_singleton words w =>
    have tail : joined (words ++ [w]) = (joined words ++ [w.capital]) ++ w.letters := by
      simp [joined, LetterWord.chars]
    rw [tail, List.getLast?_append_of_ne_nil _ w.letters_ne_nil] at last
    exact w.isUppercase_of_mem c (List.mem_of_getLast? last)

theorem structureNameChars_joined (words : List LetterWord) :
    structureNameChars (typePrefix ++ joined words) = joined words := by
  have digits : (respellings.all fun e =>
      e.1.any fun d => !capitals.contains d && !isLowercase d) = true := by
    decide
  refine structureNameChars_of_plain (fun e member => ?_) isUppercase_getLast_joined
  obtain ⟨d, there, digit⟩ := List.any_eq_true.1 (List.all_eq_true.1 digits e member)
  rw [Bool.and_eq_true, Bool.not_eq_true', Bool.not_eq_true', List.contains_eq_mem,
    decide_eq_false_iff_not] at digit
  exact ⟨d, there, not_mem_joined digit.1 digit.2⟩

theorem structureName_joined (words : List LetterWord) :
    structureName ("Vk" ++ String.ofList (joined words)) = String.ofList (joined words) := by
  have row : ("Vk" ++ String.ofList (joined words)).toList = typePrefix ++ joined words := by
    rw [String.toList_append, String.toList_ofList (l := joined words)]
    rfl
  rw [structureName, row, structureNameChars_joined]

theorem flagName_joined (words : List LetterWord) :
    flagName ("Vk" ++ String.ofList (joined words) ++ "Flags") =
      String.ofList (joined (words ++ [.flag])) := by
  have row : ("Vk" ++ String.ofList (joined words) ++ "Flags").toList =
      typePrefix ++ joined (words ++ [.flags]) := by
    rw [String.toList_append, String.toList_append, String.toList_ofList (l := joined words),
      List.append_assoc, joined_append]
    rfl
  have flags : joined (words ++ [.flags]) = joined words ++ "Flags".toList := joined_append _ _
  rw [flagName, row, structureNameChars_joined, flags, beforeSuffix?_append, Option.getD_some,
    joined_append]
  rfl

theorem recase_append {cs : List Char} (some_ : cs ≠ []) (ds : List Char) :
    recase (cs ++ ds) =
      recase cs ++ ds.flatMap fun d => if isUppercase d then '_' :: upperOf d else upperOf d := by
  cases cs with
  | nil => exact absurd rfl some_
  | cons c cs => rw [List.cons_append, recase, recase, List.flatMap_append, List.append_assoc]

theorem flatMap_letters (w : LetterWord) :
    (w.letters.flatMap fun d => if isUppercase d then '_' :: upperOf d else upperOf d) =
      uppercase w.letters :=
  List.flatMap_congr fun d member => by
    rw [w.isUppercase_of_mem d member, if_neg Bool.false_ne_true]

theorem recase_chars (w : LetterWord) : recase w.chars = uppercase w.chars := by
  rw [LetterWord.chars, recase, flatMap_letters]
  rfl

theorem flatMap_joined (words : List LetterWord) :
    ((joined words).flatMap fun d => if isUppercase d then '_' :: upperOf d else upperOf d) =
      words.flatMap fun w => '_' :: uppercase w.chars := by
  rw [joined, List.flatMap_assoc]
  refine List.flatMap_congr fun w _ => ?_
  rw [LetterWord.chars, List.flatMap_cons, flatMap_letters,
    if_pos (capital_spec _ w.capital_mem).1]
  rfl

theorem flatMap_underscore_append (words : List LetterWord) :
    (words.flatMap fun w => '_' :: uppercase w.chars) ++ ['_'] = '_' :: underscored words := by
  induction words with
  | nil => rfl
  | cons w words ih =>
    rw [List.flatMap_cons, List.append_assoc, ih, underscored, underscored, List.flatMap_cons]
    simp

theorem recase_joined (some_ : words ≠ []) : recase (joined words) ++ ['_'] = underscored words := by
  cases words with
  | nil => exact absurd rfl some_
  | cons w words =>
    have row : joined (w :: words) = w.chars ++ joined words := List.flatMap_cons
    have word : w.chars ≠ [] := List.cons_ne_nil _ _
    rw [row, recase_append word, recase_chars, flatMap_joined, List.append_assoc,
      flatMap_underscore_append, underscored, underscored, List.flatMap_cons, List.append_assoc]
    rfl

theorem constantPrefix_structureName (some_ : words ≠ []) :
    ConstantGroup.values.constantPrefix
      (structureName ("Vk" ++ String.ofList (joined words))) =
        "VK_" ++ String.ofList (underscored words) := by
  simp only [structureName_joined, ConstantGroup.constantPrefix, String.toList_ofList,
    recase_joined some_, String.ofList_append]
  rfl

theorem constantPrefix_flagName (words : List LetterWord) :
    ConstantGroup.flags.constantPrefix
      (flagName ("Vk" ++ String.ofList (joined words) ++ "Flags")) =
        "VK_" ++ String.ofList (underscored words) := by
  have flag : recase (joined (words ++ [.flag])) = underscored words ++ "FLAG".toList := by
    have whole : recase (joined (words ++ [.flag])) ++ ['_'] = underscored (words ++ [.flag]) :=
      recase_joined (by simp)
    have last : uppercase LetterWord.flag.chars = "FLAG".toList := by decide
    rw [underscored, List.flatMap_append, List.flatMap_singleton, last, ← List.append_assoc] at whole
    exact List.append_cancel_right whole
  simp only [flagName_joined, ConstantGroup.constantPrefix, String.toList_ofList, flag,
    beforeSuffix?_append, Option.getD_some, String.ofList_append]
  rfl

end Words

theorem constantMemberName_of_beginning {constant start residual : String}
    (cut : (beforeSuffix? bitSuffix constant.toList).getD constant.toList =
      start.toList ++ residual.toList) :
    constantMemberName constant start = spellLeadingDigits residual := by
  simp only [constantMemberName, cut, afterPrefix?_append, Option.getD_some, String.ofList_toList]

theorem constantMemberName_bit (start residual : String) :
    constantMemberName (start ++ residual ++ "_BIT") start = spellLeadingDigits residual := by
  refine constantMemberName_of_beginning ?_
  rw [String.toList_append, String.toList_append]
  exact congrArg (Option.getD · _) (beforeSuffix?_append _ _)

theorem beforeSuffix?_bit_eq_none {start residual : List Char}
    (other : residual ≠ "BIT".toList) (free : ¬ bitSuffix <:+ residual) :
    beforeSuffix? bitSuffix (start ++ ['_'] ++ residual) = none := by
  rw [Option.eq_none_iff_forall_ne_some]
  intro front found
  have whole := eq_append_of_beforeSuffix? found
  have tail : bitSuffix <:+ start ++ ['_'] ++ residual := ⟨front, whole.symm⟩
  rcases List.suffix_or_suffix_of_suffix tail (List.suffix_append _ residual) with long | ⟨p, split⟩
  · exact free long
  -- What of the suffix stands before the residual ends the beginning.
  rw [← split, ← List.append_assoc] at whole
  have last := congrArg List.getLast? (List.append_cancel_right whole)
  have pieces : ∀ p ∈ bitSuffix.inits, p = [] ∨ p = ['_'] ∨ p ≠ [] ∧ p.getLast? ≠ some '_' := by
    decide
  rcases pieces p ((List.mem_inits _ _).2 ⟨residual, split⟩) with rfl | rfl | ⟨some_, ends⟩
  · exact free (split ▸ List.suffix_refl _)
  · exact other (List.cons.inj split).2
  · rw [List.getLast?_concat, List.getLast?_append_of_ne_nil _ some_] at last
    exact ends last.symm

theorem constantMemberName_value {words : List LetterWord} (some_ : words ≠ []) {residual : String}
    (other : residual ≠ "BIT") (free : ¬ bitSuffix <:+ residual.toList) :
    constantMemberName ("VK_" ++ String.ofList (underscored words) ++ residual)
      ("VK_" ++ String.ofList (underscored words)) = spellLeadingDigits residual := by
  obtain ⟨start, underscore⟩ : ∃ start, ("VK_" ++ String.ofList (underscored words)).toList =
      start ++ ['_'] := by
    refine ⟨Naming.constantPrefix ++ recase (joined words), ?_⟩
    rw [List.append_assoc, recase_joined some_, String.toList_append,
      String.toList_ofList (l := underscored words)]
    rfl
  have other' : residual.toList ≠ "BIT".toList := fun same => other (String.toList_inj.1 same)
  have whole : beforeSuffix? bitSuffix (start ++ ['_'] ++ residual.toList) = none :=
    beforeSuffix?_bit_eq_none other' free
  rw [← underscore, ← String.toList_append] at whole
  refine constantMemberName_of_beginning ?_
  rw [whole, Option.getD_none, String.toList_append]

/-- What the constants of a type begin with is made of the words of its native name, and what
follows it in a constant is what the flag or value is called. -/
theorem constant_names_agree (words : List LetterWord) (some_ : words ≠ []) (residual : String) :
    let native := "Vk" ++ String.ofList (joined words)
    let start := "VK_" ++ String.ofList (underscored words)
    ConstantGroup.flags.constantPrefix (flagName (native ++ "Flags")) = start ∧
    constantMemberName (start ++ residual ++ "_BIT") start = spellLeadingDigits residual ∧
    ConstantGroup.values.constantPrefix (structureName native) = start ∧
    (residual ≠ "BIT" → ¬ "_BIT".toList <:+ residual.toList →
      constantMemberName (start ++ residual) start = spellLeadingDigits residual) := by
  intro native start
  exact ⟨constantPrefix_flagName words, constantMemberName_bit start residual,
    constantPrefix_structureName some_, constantMemberName_value some_⟩

theorem constant_names_agree_flag_flags :
    let native := "Vk" ++ String.ofList (joined [.flag, .flags])
    [LetterWord.flag, .flags] ≠ [] ∧ native = "VkFlagFlags" ∧
    ConstantGroup.flags.constantPrefix (flagName (native ++ "Flags")) = "VK_FLAG_FLAGS_" ∧
    ConstantGroup.values.constantPrefix (structureName native) = "VK_FLAG_FLAGS_" ∧
    constantMemberName "VK_FLAG_FLAGS_64_BIT" "VK_FLAG_FLAGS_" = spellLeadingDigits "64" ∧
    constantMemberName "VK_FLAG_FLAGS_2D" "VK_FLAG_FLAGS_" = spellLeadingDigits "2D" := by
  intro native
  have some_ : [LetterWord.flag, .flags] ≠ [] := List.cons_ne_nil _ _
  have start : "VK_" ++ String.ofList (underscored [.flag, .flags]) = "VK_FLAG_FLAGS_" := by
    decide
  obtain ⟨flags, bit, values, -⟩ := constant_names_agree [.flag, .flags] some_ "64"
  obtain ⟨-, -, -, value⟩ := constant_names_agree [.flag, .flags] some_ "2D"
  rw [start] at flags bit values value
  exact ⟨some_, by decide, flags, values, bit, value (by decide) (by decide)⟩

end Bindwright.Naming
