import Bindwright.Proofs.Declaration.Locality

namespace Bindwright.Declaration

open Text Outcome

variable {stop stop' p : Position} {all ts more : List Token}

theorem declarators_cons (isTypedef : Bool) (name? : Option String) (t : Token) (ts : List Token) :
    declarators stop isTypedef name? (t :: ts) = (do
      let read ← declarator stop (t :: ts)
      if isTypedef && name?.isSome then .error ⟨.secondTypedefName, t.position⟩
      else do
        let name? := if isTypedef then some read.1 else name?
        let value ← passExpressionAfter stop '=' read.2.2.1
        afterComma name? (declarators stop isTypedef name?)
          ⟨value.1, Nat.lt_of_le_of_lt value.2 read.2.2.2⟩) := by
  rw [declarators]
  congr 1
  funext read
  obtain ⟨name, _, rest, h⟩ := read
  dsimp only
  split_ifs
  · rfl
  · rfl
  all_goals
    congr 1
    funext value
    obtain ⟨rest, h'⟩ := value
    cases rest <;> rfl

theorem declarators_local (isTypedef : Bool) (name? : Option String) (ts : List Token)
    (inside : ts <:+ all) :
    Local stop all ts more (fun _ => True) (declarators stop isTypedef name? ts)
      (declarators stop' isTypedef name? (ts ++ more)) := by
  cases ts with
  | nil =>
    rw [declarators]
    exact .fault (.inl rfl)
  | cons t ts =>
    rw [List.cons_append, declarators_cons, declarators_cons]
    refine (declarator_local (t :: ts) inside).bind ?_
    rintro ⟨name, _, us, shorter⟩ ⟨_, _, _, _⟩ suffix _ same behind
    cases same
    cases behind
    dsimp only
    split
    · exact .fault (.head inside)
    · refine (passExpressionAfter_local '=' us).bind ?_
      rintro ⟨vs, shorter'⟩ ⟨_, _⟩ suffix' _ _ behind
      cases behind
      refine afterComma_local trivial _ _ fun ws (less : ws.length < vs.length) suffix'' => ?_
      exact declarators_local isTypedef _ ws (suffix''.trans (suffix'.trans (suffix.trans inside)))
termination_by ts.length
decreasing_by subst_vars; simp at shorter ⊢; omega

def declarationHead (stop : Position) (ts : List Token) :
    Except Fault ((Specifiers × Option String) × NoLonger ts) := do
  let said ← specifiers stop true ts
  let named ← unlessAlone none (declarators stop said.1.isTypedef none said.2.1)
  return ((said.1, named.1), ⟨named.2.1, Nat.le_trans named.2.2 said.2.2⟩)

theorem declaration_eq (ts : List Token) :
    declaration stop ts = (do
      let head ← declarationHead stop ts
      let mark ← takeMark stop ';' head.2.1
      return (← declared head.1.1 head.1.2 mark.1,
        ⟨mark.2.1, Nat.lt_of_lt_of_le mark.2.2 head.2.2⟩)) := by
  rw [declaration, declarationHead, bind_assoc]
  congr 1
  funext said
  obtain ⟨said, rest, h⟩ := said
  dsimp only
  rw [unlessAlone]
  split_ifs
  · rfl
  · simp only [bind_assoc]
    rfl

theorem declarationHead_local (stop stop' : Position) (ts more : List Token) (inside : ts <:+ all) :
    Local stop all ts more (fun a => ∀ m ∈ a.1.1.members, m.ReadFrom stop all)
      (declarationHead stop ts) (declarationHead stop' (ts ++ more)) := by
  refine (specifiers_local true ts inside).bind ?_
  rintro ⟨said, us, _⟩ ⟨_, _, _⟩ suffix read same behind
  cases same
  cases behind
  refine (unlessAlone_local (declarators_local said.isTypedef none us (suffix.trans inside))
    trivial).bind ?_
  rintro ⟨_, _, _⟩ ⟨_, _, _⟩ _ _ same behind
  cases same
  exact .pure (List.suffix_refl _) read rfl behind

theorem position_of_declared {said : Specifiers} {name? : Option String} {f : Fault}
    (refused : declared said name? p = .error f) : f.position = p := by
  obtain ⟨isTypedef, type?⟩ := said
  cases isTypedef with
  | false => exact nomatch (show Except.ok _ = Except.error f from refused)
  | true =>
    cases name? with
    | none =>
      obtain rfl := Except.error.inj (show Except.error _ = Except.error f from refused)
      rfl
    | some name => exact nomatch (show Except.ok _ = Except.error f from refused)

theorem members_of_declared {said : Specifiers} {name? : Option String} {ds : List Declaration}
    (accepted : declared said name? p = .ok ds) : ∀ d ∈ ds, ∀ m ∈ d.members, m ∈ said.members := by
  obtain ⟨isTypedef, type?⟩ := said
  intro d member m among
  cases isTypedef with
  | false =>
    obtain rfl := Except.ok.inj (show Except.ok _ = Except.ok ds from accepted)
    split at member
    · rename_i body
      split at body
      · rename_i type
        cases body
        obtain rfl := List.mem_singleton.1 member
        cases type
        exact among
      · cases body
    · cases member
  | true =>
    cases name? with
    | none => exact nomatch (show Except.error _ = Except.ok ds from accepted)
    | some name =>
      obtain rfl := Except.ok.inj (show Except.ok _ = Except.ok ds from accepted)
      rcases List.mem_append.1 member with member | member
      · obtain ⟨⟨tag, members⟩, body, rfl⟩ :=
          Option.map_eq_some_iff.1 (Option.mem_toList.1 member)
        split at body
        · rename_i type
          cases body
          cases type
          exact among
        · cases body
      · obtain rfl := List.mem_singleton.1 member
        cases among

theorem declaration_local (stop stop' : Position) (ts more : List Token) (inside : ts <:+ all) :
    Local stop all ts more (fun a => ∀ d ∈ a.1, ∀ m ∈ d.members, m.ReadFrom stop all)
      (declaration stop ts) (declaration stop' (ts ++ more)) := by
  rw [declaration_eq, declaration_eq]
  refine (declarationHead_local stop stop' ts more inside).bind ?_
  rintro ⟨⟨said, name?⟩, us, _⟩ ⟨_, _, _⟩ suffix read same behind
  cases same
  cases behind
  refine (takeMark_local ';' (suffix.trans inside)).bind ?_
  rintro ⟨p, _, _⟩ ⟨_, _, _⟩ _ reportable same behind
  cases same
  refine .after (fun f refused => ?_) fun ds accepted => ?_
  · exact position_of_declared refused ▸ reportable
  · exact .pure (List.suffix_refl _)
      (fun d member m among => read m (members_of_declared accepted d member m among)) rfl behind

theorem takeMark_append (stop' : Position) (more : List Token) {c : Char} {rest : Shorter ts}
    (taken : takeMark stop c ts = .ok (p, rest)) :
    ts ≠ [] ∧ ∃ h, takeMark stop' c (ts ++ more) = .ok (p, ⟨rest.1 ++ more, h⟩) := by
  cases ts with
  | nil => cases taken
  | cons t ts =>
    refine ⟨List.cons_ne_nil t ts, ?_⟩
    rw [takeMark] at taken
    simp only [List.cons_append, takeMark]
    split_ifs at taken ⊢
    · cases taken
      exact ⟨by simp, rfl⟩

theorem declaration_append (stop' : Position) (more : List Token) {ds : List Declaration}
    {rest : Shorter ts} (accepted : declaration stop ts = .ok (ds, rest)) :
    ∃ h, declaration stop' (ts ++ more) = .ok (ds, ⟨rest.1 ++ more, h⟩) := by
  rw [declaration_eq] at accepted ⊢
  obtain ⟨⟨⟨said, name?⟩, us, within⟩, read, accepted⟩ := Traversal.bind_eq_ok_iff.1 accepted
  obtain ⟨⟨p, vs, shorter⟩, ended, accepted⟩ := Traversal.bind_eq_ok_iff.1 accepted
  obtain ⟨ds', added, accepted⟩ := Traversal.bind_eq_ok_iff.1 accepted
  cases accepted
  obtain ⟨left, _, ended'⟩ := takeMark_append stop' more ended
  have both := declarationHead_local stop stop' ts more (List.suffix_refl ts)
  rw [read] at both
  generalize read' : declarationHead stop' (ts ++ more) = y at both ⊢
  cases both with
  | @ok _ b' _ _ _ same behind onward =>
    obtain ⟨_, _, _⟩ := b'
    cases same
    cases behind
    have room : (vs ++ more).length < (ts ++ more).length := by
      simpa using Nat.lt_of_lt_of_le shorter within
    rw [onward left]
    exact ⟨room, Traversal.bind_eq_ok_iff.2 ⟨_, rfl, Traversal.bind_eq_ok_iff.2
      ⟨_, ended', Traversal.bind_eq_ok_iff.2 ⟨_, added, rfl⟩⟩⟩⟩

theorem reportable_of_declarations {f : Fault} (inside : ts <:+ all)
    (refused : declarations stop ts = .error f) : Reportable stop all f.position := by
  fun_induction declarations stop ts with
  | case1 => cases refused
  | case2 t ts separator ih => exact ih (suffix_of_cons inside) refused
  | case3 t ts separator ih =>
    have first := declaration_local stop stop (t :: ts) [] inside
    rcases Traversal.bind_eq_error_iff.1 refused with refused | ⟨⟨ds, rest⟩, read, refused⟩
    · rw [refused] at first
      exact first.reportable
    · rw [read] at first
      rcases Traversal.bind_eq_error_iff.1 refused with refused | ⟨_, _, refused⟩
      · exact ih rest (first.read.1.trans inside) refused
      · cases refused

theorem readFrom_of_declarations {ds : List Declaration} (inside : ts <:+ all)
    (accepted : declarations stop ts = .ok ds) :
    ∀ d ∈ ds, ∀ m ∈ d.members, m.ReadFrom stop all := by
  fun_induction declarations stop ts generalizing ds with
  | case1 =>
    cases accepted
    exact nofun
  | case2 t ts separator ih => exact ih (suffix_of_cons inside) accepted
  | case3 t ts separator ih =>
    have first := declaration_local stop stop (t :: ts) [] inside
    obtain ⟨⟨ds, rest⟩, read, accepted⟩ := Traversal.bind_eq_ok_iff.1 accepted
    obtain ⟨others, later, accepted⟩ := Traversal.bind_eq_ok_iff.1 accepted
    cases accepted
    rw [read] at first
    intro d member
    rcases List.mem_append.1 member with member | member
    · exact first.read.2 d member
    · exact ih rest (first.read.1.trans inside) later d member

theorem declarations_append (stop' : Position) (more : List Token) {ds : List Declaration}
    (accepted : declarations stop ts = .ok ds) :
    declarations stop' (ts ++ more) = (declarations stop' more).map (ds ++ ·) := by
  fun_induction declarations stop ts generalizing ds with
  | case1 =>
    cases accepted
    rw [List.nil_append]
    cases declarations stop' more <;> rfl
  | case2 t ts separator ih =>
    rw [List.cons_append, declarations, if_pos separator]
    exact ih accepted
  | case3 t ts separator ih =>
    obtain ⟨⟨first, rest⟩, read, accepted⟩ := Traversal.bind_eq_ok_iff.1 accepted
    obtain ⟨others, later, accepted⟩ := Traversal.bind_eq_ok_iff.1 accepted
    cases accepted
    obtain ⟨_, read⟩ := declaration_append stop' more read
    rw [List.cons_append, declarations, if_neg separator]
    change declaration stop' (t :: ts ++ more) >>= _ = _
    rw [read]
    change declarations stop' (rest.1 ++ more) >>= _ = _
    rw [ih _ later]
    cases declarations stop' more with
    | error f => rfl
    | ok ds => exact congrArg Except.ok (List.append_assoc first others ds).symm

theorem lastPosition_append (ts : List Token) (t : Token) (more : List Token) :
    lastPosition (ts ++ t :: more) = lastPosition (t :: more) := by
  rw [lastPosition, List.getLast?_append_of_ne_nil ts (List.cons_ne_nil t more), lastPosition]

theorem ofTokens_append {ds : List Declaration} (accepted : ofTokens ts = .ok ds)
    (more : List Token) : ofTokens (ts ++ more) = (ofTokens more).map (ds ++ ·) := by
  have append := declarations_append (lastPosition (ts ++ more)) more accepted
  rw [ofTokens, append, ofTokens]
  cases more with
  | nil => rw [declarations, declarations]
  | cons t more => rw [lastPosition_append]

theorem ofTokens_append_unfinished :
    ofTokens ([⟨.word "typedef", ⟨1, 0⟩⟩, ⟨.word "int", ⟨1, 8⟩⟩, ⟨.word "a", ⟨1, 12⟩⟩,
        ⟨.mark ';', ⟨1, 13⟩⟩] ++ [⟨.word "int", ⟨2, 0⟩⟩, ⟨.mark '*', ⟨2, 4⟩⟩]) =
      .error ⟨.unexpectedEnd, ⟨2, 4⟩⟩ := by
  have accepted : ofTokens [⟨.word "typedef", ⟨1, 0⟩⟩, ⟨.word "int", ⟨1, 8⟩⟩,
      ⟨.word "a", ⟨1, 12⟩⟩, ⟨.mark ';', ⟨1, 13⟩⟩] = .ok [typeName "a" "int"] := by
    decide +kernel
  have broken : ofTokens [⟨.word "int", ⟨2, 0⟩⟩, ⟨.mark '*', ⟨2, 4⟩⟩] =
      .error ⟨.unexpectedEnd, ⟨2, 4⟩⟩ := by
    decide +kernel
  rw [ofTokens_append accepted, broken]
  rfl

end Bindwright.Declaration
