namespace Bindwright.Text

def afterPrefix? : (start cs : List Char) → Option (List Char)
  | [], cs => some cs
  | _ :: _, [] => none
  | p :: ps, c :: cs => if p = c then afterPrefix? ps cs else none

theorem afterPrefix?_append (start cs : List Char) : afterPrefix? start (start ++ cs) = some cs := by
  induction start with
  | nil => rfl
  | cons p ps ih => simp [afterPrefix?, ih]

theorem eq_append_of_afterPrefix? {start cs rest : List Char} (h : afterPrefix? start cs = some rest) :
    cs = start ++ rest := by
  fun_induction afterPrefix? start cs with
  | case1 => simp_all
  | case2 => simp at h
  | case3 _ _ _ ih => simp [ih h]
  | case4 => simp at h

def beforeSuffix? (tail cs : List Char) : Option (List Char) :=
  (afterPrefix? tail.reverse cs.reverse).map List.reverse

theorem beforeSuffix?_append (cs tail : List Char) : beforeSuffix? tail (cs ++ tail) = some cs := by
  simp [beforeSuffix?, afterPrefix?_append]

theorem eq_append_of_beforeSuffix? {tail cs front : List Char}
    (h : beforeSuffix? tail cs = some front) : cs = front ++ tail := by
  obtain ⟨r, hr, rfl⟩ := Option.map_eq_some_iff.1 h
  have := eq_append_of_afterPrefix? hr
  simpa using congrArg List.reverse this

def startsWith (start cs : List Char) : Bool := (afterPrefix? start cs).isSome

def endsWith (tail cs : List Char) : Bool := (beforeSuffix? tail cs).isSome

def trimEndWhile (p : Char → Bool) (cs : List Char) : List Char :=
  (cs.reverse.dropWhile p).reverse

theorem eq_false_of_getLast?_trimEndWhile {p : Char → Bool} {cs : List Char} {c : Char}
    (h : (trimEndWhile p cs).getLast? = some c) : p c = false := by
  have stops := List.head?_dropWhile_not p cs.reverse
  rw [trimEndWhile, List.getLast?_reverse] at h
  rw [h] at stops
  exact stops

def splitFirst? (c : Char) : List Char → Option (List Char × List Char)
  | [] => none
  | d :: ds => if d = c then some ([], ds) else (splitFirst? c ds).map fun (a, b) => (d :: a, b)

theorem eq_append_of_splitFirst? {c : Char} {cs before after : List Char}
    (h : splitFirst? c cs = some (before, after)) : cs = before ++ c :: after := by
  induction cs generalizing before with
  | nil => cases h
  | cons d ds ih =>
    rw [splitFirst?] at h
    split at h
    · cases h
      simp_all
    · obtain ⟨⟨a, b⟩, hr, e⟩ := Option.map_eq_some_iff.1 h
      cases e
      simp [ih hr]

theorem splitFirst?_append {c : Char} {before : List Char} (absent : c ∉ before)
    (after : List Char) : splitFirst? c (before ++ c :: after) = some (before, after) := by
  induction before with
  | nil => simp [splitFirst?]
  | cons d ds ih =>
    simp only [List.mem_cons, not_or] at absent
    simp [splitFirst?, ih absent.2, Ne.symm absent.1]

def splitLast? (c : Char) (cs : List Char) : Option (List Char × List Char) :=
  (splitFirst? c cs.reverse).map fun (a, b) => (b.reverse, a.reverse)

theorem eq_append_of_splitLast? {c : Char} {cs before after : List Char}
    (h : splitLast? c cs = some (before, after)) : cs = before ++ c :: after := by
  obtain ⟨⟨a, b⟩, hr, e⟩ := Option.map_eq_some_iff.1 h
  cases e
  have := congrArg List.reverse (eq_append_of_splitFirst? hr)
  simpa using this

theorem splitLast?_append {c : Char} {after : List Char} (absent : c ∉ after)
    (before : List Char) : splitLast? c (before ++ c :: after) = some (before, after) := by
  have mirrored : (before ++ c :: after).reverse = after.reverse ++ c :: before.reverse := by simp
  have absent' : c ∉ after.reverse := by simpa using absent
  simp [splitLast?, mirrored, splitFirst?_append absent']

def splitAll (c : Char) : List Char → List (List Char)
  | [] => [[]]
  | d :: ds =>
    match splitAll c ds with
    | [] => [[]]
    | p :: ps => if d = c then [] :: p :: ps else (d :: p) :: ps

theorem splitAll_cons {c d : Char} {cs p : List Char} {ps : List (List Char)}
    (h : splitAll c cs = p :: ps) :
    splitAll c (d :: cs) = if d = c then [] :: p :: ps else (d :: p) :: ps := by
  rw [splitAll, h]

theorem exists_splitAll (c : Char) (cs : List Char) : ∃ p ps, splitAll c cs = p :: ps := by
  induction cs with
  | nil => exact ⟨[], [], rfl⟩
  | cons d cs ih =>
    obtain ⟨p, ps, h⟩ := ih
    rw [splitAll_cons h]
    split
    · exact ⟨_, _, rfl⟩
    · exact ⟨_, _, rfl⟩

theorem splitAll_append (c : Char) (cs ds : List Char) :
    splitAll c (cs ++ c :: ds) = splitAll c cs ++ splitAll c ds := by
  induction cs with
  | nil =>
    obtain ⟨p, ps, h⟩ := exists_splitAll c ds
    rw [List.nil_append, splitAll_cons h, if_pos rfl, h]
    rfl
  | cons d cs ih =>
    obtain ⟨p, ps, h⟩ := exists_splitAll c cs
    rw [h] at ih
    rw [List.cons_append, splitAll_cons ih, splitAll_cons h]
    split <;> rfl

theorem splitAll_of_not_mem {c : Char} {cs : List Char} (absent : c ∉ cs) :
    splitAll c cs = [cs] := by
  induction cs with
  | nil => rfl
  | cons d cs ih =>
    simp only [List.mem_cons, not_or] at absent
    rw [splitAll_cons (ih absent.2), if_neg (Ne.symm absent.1)]

/-- Replaces `pattern` from left to right; `pending` counts the characters of a match that are
still to be passed. -/
def replaceAllFrom (pattern new : List Char) : (pending : Nat) → List Char → List Char
  | _, [] => []
  | n + 1, _ :: cs => replaceAllFrom pattern new n cs
  | 0, c :: cs =>
    if startsWith pattern (c :: cs) then new ++ replaceAllFrom pattern new (pattern.length - 1) cs
    else c :: replaceAllFrom pattern new 0 cs

def replaceAll (pattern new cs : List Char) : List Char := replaceAllFrom pattern new 0 cs

private def dropReturn (line : List Char) : List Char := (beforeSuffix? ['\r'] line).getD line

def lines (s : String) : List String :=
  let pieces := splitAll '\n' s.toList
  let ended := pieces.dropLast.map dropReturn
  let last := (pieces.getLast?.getD [])
  (ended ++ if last.isEmpty then [] else [last]).map String.ofList

theorem exists_mem_lines {s : String} {piece : List Char} (member : piece ∈ splitAll '\n' s.toList)
    (filled : piece ≠ []) :
    ∃ line, String.ofList line ∈ lines s ∧ (piece = line ∨ piece = line ++ ['\r']) := by
  obtain ⟨front, last, cut⟩ := (splitAll '\n' s.toList).eq_nil_or_concat.resolve_left
    (List.ne_nil_of_mem member)
  simp only [lines, cut, List.concat_eq_append, List.mem_append, List.mem_singleton,
    List.dropLast_concat, List.getLast?_concat, Option.getD_some] at member ⊢
  rcases member with ended | rfl
  · refine ⟨dropReturn piece, ?_, ?_⟩
    · exact List.mem_map_of_mem (List.mem_append_left _ (List.mem_map_of_mem ended))
    · unfold dropReturn
      cases returns : beforeSuffix? ['\r'] piece with
      | none => exact .inl rfl
      | some line => exact .inr (eq_append_of_beforeSuffix? returns)
  · refine ⟨piece, List.mem_map_of_mem (List.mem_append_right _ ?_), .inl rfl⟩
    rw [if_neg (by simpa using filled)]
    exact List.mem_singleton_self piece

def spaces (width : Nat) : String := String.ofList (List.replicate width ' ')

def indentLine (width : Nat) (line : String) : String :=
  if line.isEmpty then "" else spaces width ++ line

def indent (width : Nat) (s : String) : String :=
  "\n".intercalate ((lines s).map (indentLine width))

def indentTail (width : Nat) (s : String) : String :=
  match lines s with
  | [] => ""
  | first :: rest => "\n".intercalate (first :: rest.map (indentLine width))

end Bindwright.Text
