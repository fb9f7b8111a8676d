import Bindwright.Declaration.Grammar
import Bindwright.Proofs.Traversal
import Mathlib.Tactic.SplitIfs

/-!
# Declarations are read from the front

A reader that leaves a token has looked at nothing behind it, and a fault is reported at a token or
where the tokens end (`Local`). The readers of a structure's body also say where each member was
read (`Member.ReadFrom`).
-/

namespace Bindwright

open Text

namespace Declaration

class Outcome (β : Type) (α : outParam Type) where
  value : β → α
  rest : β → List Token

namespace Outcome

instance {P : List Token → Prop} : Outcome (Subtype P) Unit := ⟨fun _ => (), Subtype.val⟩

instance {α β γ : Type} [Outcome β α] : Outcome (γ × β) (γ × α) :=
  ⟨fun b => (b.1, value b.2), fun b => rest b.2⟩

end Outcome

open Outcome

variable {α β β' γ δ δ' : Type} [Outcome β α] [Outcome β' α] [Outcome δ γ] [Outcome δ' γ]
  {stop stop' p : Position} {t : Token} {all ts us more : List Token} {Q : α → Prop}
  {R : γ → Prop}

def Reportable (stop : Position) (all : List Token) (p : Position) : Prop :=
  p = stop ∨ ∃ t ∈ all, t.position = p

theorem Reportable.head (inside : t :: ts <:+ all) : Reportable stop all t.position :=
  .inr ⟨t, inside.subset List.mem_cons_self, rfl⟩

theorem suffix_of_cons (inside : t :: ts <:+ all) : ts <:+ all :=
  (List.suffix_cons t ts).trans inside

/-- A reading of `ts` beside one of `ts` with `more` behind, which may report the end elsewhere.
They agree unless the first uses up all tokens. What is read meets `Q`. -/
inductive Local (stop : Position) (all ts more : List Token) (Q : α → Prop) :
    Except Fault β → Except Fault β' → Prop where
  | fault {f : Fault} {y : Except Fault β'} (reportable : Reportable stop all f.position) :
      Local stop all ts more Q (.error f) y
  | ok {b : β} (b' : β') {y : Except Fault β'} (suffix : rest b <:+ ts) (holds : Q (value b))
      (same : value b' = value b) (behind : rest b' = rest b ++ more)
      (onward : rest b ≠ [] → y = .ok b') : Local stop all ts more Q (.ok b) y

namespace Local

variable {x : Except Fault β} {y : Except Fault β'}

theorem pure {b : β} {b' : β'} (suffix : rest b <:+ ts) (holds : Q (value b))
    (same : value b' = value b) (behind : rest b' = rest b ++ more) :
    Local stop all ts more Q (Pure.pure b) (Pure.pure b') :=
  .ok b' suffix holds same behind fun _ => rfl

theorem last {b : β} (b' : β') (suffix : rest b <:+ ts) (holds : Q (value b))
    (same : value b' = value b) (behind : rest b' = rest b ++ more) (none : rest b = []) :
    Local stop all ts more Q (.ok b) y :=
  .ok b' suffix holds same behind fun left => absurd none left

theorem bind {f : β → Except Fault δ} {f' : β' → Except Fault δ'}
    (first : Local stop all ts more Q x y)
    (next : ∀ b b', rest b <:+ ts → Q (value b) → value b' = value b → rest b' = rest b ++ more →
      Local stop all (rest b) more R (f b) (f' b')) :
    Local stop all ts more R (x >>= f) (y >>= f') := by
  cases first with
  | fault reportable => exact .fault reportable
  | @ok b b' _ suffix holds same behind onward =>
    have step := next b b' suffix holds same behind
    change Local stop all ts more R (f b) (y >>= f')
    cases read : f b with
    | error fault =>
      rw [read] at step
      cases step with
      | fault reportable => exact .fault reportable
    | ok c =>
      rw [read] at step
      generalize out : f' b' = z at step
      cases step with
      | ok _ suffix' holds' same' behind' onward' =>
        refine .ok _ (suffix'.trans suffix) holds' same' behind' fun left => ?_
        -- If the second step leaves a token, so did the first.
        have left' : rest b ≠ [] := by
          intro empty
          rw [empty, List.suffix_nil] at suffix'
          exact left suffix'
        rw [onward left', ← onward' left, ← out]
        rfl

theorem reportable {f : Fault} (inner : Local stop all ts more Q (.error f : Except Fault β) y) :
    Reportable stop all f.position := by
  cases inner with
  | fault reportable => exact reportable

theorem read {b : β} (inner : Local stop all ts more Q (.ok b) y) :
    rest b <:+ ts ∧ Q (value b) := by
  cases inner with
  | ok _ suffix holds => exact ⟨suffix, holds⟩

theorem after {σ : Type} {z : Except Fault σ} {f : σ → Except Fault β} {f' : σ → Except Fault β'}
    (faults : ∀ e, z = .error e → Reportable stop all e.position)
    (next : ∀ s, z = .ok s → Local stop all ts more Q (f s) (f' s)) :
    Local stop all ts more Q (z >>= f) (z >>= f') := by
  cases z with
  | error e => exact .fault (faults e rfl)
  | ok s => exact next s rfl

theorem skip (inner : Local stop all us more Q x y) (suffix : us <:+ ts) :
    Local stop all ts more Q x y := by
  cases inner with
  | fault reportable => exact .fault reportable
  | ok _ suffix' holds same behind onward =>
    exact .ok _ (suffix'.trans suffix) holds same behind onward

theorem mono (Q' : α → Prop) (inner : Local stop all ts more Q x y)
    (weaker : ∀ b, x = .ok b → Q (value b) → Q' (value b)) : Local stop all ts more Q' x y := by
  cases inner with
  | fault reportable => exact .fault reportable
  | ok _ suffix holds same behind onward =>
    exact .ok _ suffix (weaker _ rfl holds) same behind onward

end Local

/-! ## Groups and expressions -/

theorem takeMark_local (c : Char) {ts : List Token} (inside : ts <:+ all) :
    Local stop all ts more (fun a => Reportable stop all a.1) (takeMark stop c ts)
      (takeMark stop' c (ts ++ more)) := by
  cases ts with
  | nil => exact .fault (.inl rfl)
  | cons t ts =>
    rw [List.cons_append, takeMark, takeMark]
    split_ifs
    · exact .pure (List.suffix_cons t ts) (.head inside) rfl rfl
    · exact .fault (.head inside)

theorem closeGroup_local (o c : Char) (depth : Nat) (ts : List Token) :
    Local stop all ts more (fun _ => True) (closeGroup stop o c depth ts)
      (closeGroup stop' o c depth (ts ++ more)) := by
  induction ts generalizing depth with
  | nil => exact .fault (.inl rfl)
  | cons t ts ih =>
    have inner (depth : Nat) := (ih depth).skip (List.suffix_cons t ts)
    rw [List.cons_append, closeGroup.eq_def, closeGroup.eq_def stop']
    dsimp only
    split_ifs
    · refine (inner _).bind ?_
      rintro ⟨_, _⟩ ⟨_, _⟩ _ _ _ behind
      exact .pure (List.suffix_refl _) trivial rfl behind
    · cases depth with
      | zero =>
        exact .ok ⟨ts ++ more, by simp⟩ (List.suffix_cons t ts) trivial rfl rfl fun _ => rfl
      | succ depth =>
        refine (inner _).bind ?_
        rintro ⟨_, _⟩ ⟨_, _⟩ _ _ _ behind
        exact .pure (List.suffix_refl _) trivial rfl behind
    · refine (inner _).bind ?_
      rintro ⟨_, _⟩ ⟨_, _⟩ _ _ _ behind
      exact .pure (List.suffix_refl _) trivial rfl behind

theorem passExpression_local (ts : List Token) :
    Local stop all ts more (fun _ => True) (passExpression stop ts)
      (passExpression stop' (ts ++ more)) := by
  cases ts with
  | nil =>
    rw [passExpression]
    exact .fault (.inl rfl)
  | cons t ts =>
    have others (us : List Token) (shorter : us.length ≤ ts.length) :
        Local stop all us more (fun _ => True) (passExpression stop us)
          (passExpression stop' (us ++ more)) := passExpression_local us
    rw [List.cons_append, passExpression, passExpression]
    split_ifs
    · exact .pure (List.suffix_refl _) trivial rfl rfl
    · cases groupOpenedBy t with
      | none =>
        refine ((others ts (Nat.le_refl _)).skip (List.suffix_cons t ts)).bind ?_
        rintro ⟨_, _⟩ ⟨_, _⟩ _ _ _ behind
        exact .pure (List.suffix_refl _) trivial rfl behind
      | some marks =>
        refine ((closeGroup_local marks.1 marks.2 0 ts).skip (List.suffix_cons t ts)).bind ?_
        rintro ⟨us, shorter⟩ ⟨_, _⟩ _ _ _ behind
        cases behind
        refine (others us (Nat.le_of_lt shorter)).bind ?_
        rintro ⟨_, _⟩ ⟨_, _⟩ _ _ _ behind
        exact .pure (List.suffix_refl _) trivial rfl behind
termination_by ts.length
decreasing_by simp; omega

theorem passExpressionAfter_local (c : Char) (ts : List Token) :
    Local stop all ts more (fun _ => True) (passExpressionAfter stop c ts)
      (passExpressionAfter stop' c (ts ++ more)) := by
  cases ts with
  | nil => exact .last ⟨more, Nat.le_refl _⟩ (List.suffix_refl _) trivial rfl rfl rfl
  | cons t ts =>
    rw [List.cons_append, passExpressionAfter, passExpressionAfter]
    split_ifs
    · refine ((passExpression_local ts).skip (List.suffix_cons t ts)).bind ?_
      rintro ⟨_, _⟩ ⟨_, _⟩ _ _ _ behind
      exact .pure (List.suffix_refl _) trivial rfl behind
    · exact .pure (List.suffix_refl _) trivial rfl rfl

/-! ## Declarators -/

theorem takePointers_suffix (afterStar : Bool) (ts : List Token) :
    (takePointers afterStar ts).2 <:+ ts := by
  induction ts generalizing afterStar with
  | nil => exact List.suffix_refl _
  | cons t ts ih =>
    rw [takePointers]
    split_ifs
    · exact (ih true).trans (List.suffix_cons t ts)
    · exact (ih true).trans (List.suffix_cons t ts)
    · exact List.suffix_refl _

theorem takePointers_append (more : List Token) (afterStar : Bool) (ts : List Token)
    (left : (takePointers afterStar ts).2 ≠ []) :
    takePointers afterStar (ts ++ more) =
      ((takePointers afterStar ts).1, (takePointers afterStar ts).2 ++ more) := by
  induction ts generalizing afterStar with
  | nil => exact absurd rfl left
  | cons t ts ih =>
    rw [List.cons_append, takePointers]
    rw [takePointers] at left ⊢
    split_ifs at left ⊢
    · rw [ih true left]
    · exact ih true left
    · rfl

theorem declaratorSuffixes_local (d : Declarator) (ts : List Token) :
    Local stop all ts more (fun _ => True) (declaratorSuffixes stop d ts)
      (declaratorSuffixes stop' d (ts ++ more)) := by
  cases ts with
  | nil =>
    rw [declaratorSuffixes]
    exact .last (d, ⟨more, Nat.le_refl _⟩) (List.suffix_refl _) trivial rfl rfl rfl
  | cons t ts =>
    have others (d : Declarator) (us : List Token) (shorter : us.length < ts.length) :
        Local stop all us more (fun _ => True) (declaratorSuffixes stop d us)
          (declaratorSuffixes stop' d (us ++ more)) := declaratorSuffixes_local d us
    rw [List.cons_append, declaratorSuffixes, declaratorSuffixes]
    split_ifs
    · refine ((closeGroup_local '[' ']' 0 ts).skip (List.suffix_cons t ts)).bind ?_
      rintro ⟨us, shorter⟩ ⟨_, _⟩ _ _ _ behind
      cases behind
      refine (others d.addArray us shorter).bind ?_
      rintro ⟨_, _, _⟩ ⟨_, _, _⟩ _ _ same behind
      exact .pure (List.suffix_refl _) trivial same behind
    · refine ((closeGroup_local '(' ')' 0 ts).skip (List.suffix_cons t ts)).bind ?_
      rintro ⟨us, shorter⟩ ⟨_, _⟩ _ _ _ behind
      cases behind
      refine (others d.addFunction us shorter).bind ?_
      rintro ⟨_, _, _⟩ ⟨_, _, _⟩ _ _ same behind
      exact .pure (List.suffix_refl _) trivial same behind
    · exact .pure (List.suffix_refl _) trivial rfl rfl
termination_by ts.length
decreasing_by simp; omega

mutual

theorem declarator_local (ts : List Token) (inside : ts <:+ all) :
    Local stop all ts more (fun _ => True) (declarator stop ts)
      (declarator stop' (ts ++ more)) := by
  have length := takePointers_length false ts
  have suffix := takePointers_suffix false ts
  have direct : Local stop all ts more (fun _ => True)
      (directDeclarator stop (takePointers false ts).2)
      (directDeclarator stop' (takePointers false (ts ++ more)).2) := by
    by_cases left : (takePointers false ts).2 = []
    · rw [left, directDeclarator]
      exact .fault (.inl rfl)
    · rw [takePointers_append more false ts left]
      exact (directDeclarator_local _ (suffix.trans inside)).skip suffix
  rw [declarator, declarator]
  refine direct.bind ?_
  rintro ⟨name, d, _, shorter⟩ ⟨_, _, _, _⟩ _ _ same behind
  cases same
  have left : (takePointers false ts).2 ≠ [] :=
    List.ne_nil_of_length_pos (Nat.zero_lt_of_lt shorter)
  have pointers := congrArg Prod.fst (takePointers_append more false ts left)
  exact .pure (List.suffix_refl _) trivial (by rw [pointers]; rfl) behind
termination_by 2 * ts.length + 1
decreasing_by omega

theorem directDeclarator_local (ts : List Token) (inside : ts <:+ all) :
    Local stop all ts more (fun _ => True) (directDeclarator stop ts)
      (directDeclarator stop' (ts ++ more)) := by
  cases ts with
  | nil =>
    rw [directDeclarator]
    exact .fault (.inl rfl)
  | cons t ts =>
    rw [List.cons_append, directDeclarator, directDeclarator]
    split_ifs
    · refine ((declarator_local ts (suffix_of_cons inside)).skip (List.suffix_cons t ts)).bind ?_
      rintro ⟨name, d, us, _⟩ ⟨_, _, _, _⟩ suffix _ same behind
      cases same
      cases behind
      refine (takeMark_local ')' (suffix.trans inside)).bind ?_
      rintro ⟨_, vs, _⟩ ⟨_, _, _⟩ _ _ _ behind
      cases behind
      refine (declaratorSuffixes_local d vs).bind ?_
      rintro ⟨_, _, _⟩ ⟨_, _, _⟩ _ _ same behind
      cases same
      exact .pure (List.suffix_refl _) trivial rfl behind
    · cases t.word? with
      | none => exact .fault (.head inside)
      | some name =>
        refine ((declaratorSuffixes_local .value ts).skip (List.suffix_cons t ts)).bind ?_
        rintro ⟨_, _, _⟩ ⟨_, _, _⟩ _ _ same behind
        cases same
        exact .pure (List.suffix_refl _) trivial rfl behind
termination_by 2 * ts.length
decreasing_by subst_vars; simp; omega

end

end Declaration

def Member.ReadFrom (m : Member) (stop : Position) (all : List Declaration.Token) : Prop :=
  ∃ t after, t :: after <:+ all ∧ t.position = m.position ∧
    ∃ rest, Declaration.declarator stop (t :: after) = .ok (m.name, m.declarator, rest)

namespace Declaration

open Outcome

variable {stop stop' p : Position} {t : Token} {all ts ts' us more : List Token}

/-! ## Members -/

def afterComma {σ : Type} (s : σ) (read : ∀ us, Except Fault (σ × Shorter us)) :
    Shorter ts → Except Fault (σ × Shorter ts)
  | ⟨[], h⟩ => pure (s, ⟨[], h⟩)
  | ⟨comma :: us, h⟩ =>
    if comma.isMark ',' then do
      let found ← read us
      return (found.1, ⟨found.2.1, Nat.lt_trans found.2.2 (Nat.lt_of_succ_lt h)⟩)
    else pure (s, ⟨comma :: us, h⟩)

theorem afterComma_local {σ : Type} {s : σ} {Q : σ × Unit → Prop}
    {read read' : ∀ us, Except Fault (σ × Shorter us)} (holds : Q (s, ()))
    (h : us.length < ts.length) (h' : (us ++ more).length < ts'.length)
    (inner : ∀ vs, vs.length < us.length → vs <:+ us →
      Local stop all vs more Q (read vs) (read' (vs ++ more))) :
    Local stop all us more Q (afterComma s read ⟨us, h⟩) (afterComma s read' ⟨us ++ more, h'⟩) := by
  cases us with
  | nil => exact .last (s, ⟨more, h'⟩) (List.suffix_refl _) holds rfl rfl rfl
  | cons comma us =>
    simp only [List.cons_append, afterComma]
    split_ifs
    · have suffix := List.suffix_cons comma us
      refine ((inner us (Nat.lt_succ_self _) suffix).skip suffix).bind ?_
      rintro ⟨_, _, _⟩ ⟨_, _, _⟩ _ read same behind
      cases same
      exact .pure (List.suffix_refl _) read rfl behind
    · exact .pure (List.suffix_refl _) holds rfl rfl

theorem noLonger_self (ts : List Token) : ts.length ≤ ts.length := Nat.le_refl _

theorem shorter_tail (t : Token) (ts : List Token) : ts.length < (t :: ts).length :=
  Nat.lt_succ_self _

def unlessAlone {σ : Type} (alone : σ) (read : Except Fault (σ × Shorter ts)) :
    Except Fault (σ × NoLonger ts) :=
  if startsWithMark ';' ts then pure (alone, ⟨ts, noLonger_self ts⟩)
  else do
    let found ← read
    return (found.1, ⟨found.2.1, Nat.le_of_lt found.2.2⟩)

theorem unlessAlone_local {σ : Type} {alone : σ} {Q : σ × Unit → Prop}
    {x : Except Fault (σ × Shorter ts)} {y : Except Fault (σ × Shorter (ts ++ more))}
    (inner : Local stop all ts more Q x y) (holds : Q (alone, ())) :
    Local stop all ts more Q (unlessAlone alone x) (unlessAlone alone y) := by
  cases ts with
  | nil =>
    cases inner with
    | fault reportable => exact .fault reportable
    | @ok b _ _ _ _ _ _ _ => exact absurd b.2.2 (Nat.not_lt_zero _)
  | cons t ts =>
    have head : startsWithMark ';' (t :: ts ++ more) = startsWithMark ';' (t :: ts) := rfl
    rw [unlessAlone, unlessAlone, head]
    split_ifs
    · exact .pure (List.suffix_refl _) holds rfl rfl
    · refine inner.bind ?_
      rintro ⟨_, _, _⟩ ⟨_, _, _⟩ _ read same behind
      cases same
      exact .pure (List.suffix_refl _) read rfl behind

theorem memberDeclarators_cons (typeName : String) (t : Token) (ts : List Token) :
    memberDeclarators stop typeName (t :: ts) =
      (if t.isMark ':' then do
        let width ← passExpression stop ts
        afterComma [] (memberDeclarators stop typeName)
          ⟨width.1, Nat.lt_succ_of_le width.2⟩
      else do
        let read ← declarator stop (t :: ts)
        let width ← passExpressionAfter stop ':' read.2.2.1
        afterComma [⟨read.1, typeName, read.2.1, t.position⟩] (fun us => do
          let others ← memberDeclarators stop typeName us
          return (⟨read.1, typeName, read.2.1, t.position⟩ :: others.1, others.2))
          ⟨width.1, Nat.lt_of_le_of_lt width.2 read.2.2.2⟩) := by
  rw [memberDeclarators]
  split_ifs
  · congr 1
    funext width
    obtain ⟨rest, h⟩ := width
    cases rest <;> rfl
  · congr 1
    funext read
    obtain ⟨name, d, rest, h⟩ := read
    dsimp only
    congr 1
    funext width
    obtain ⟨rest, h⟩ := width
    cases rest with
    | nil => rfl
    | cons comma rest =>
      rw [pure_bind]
      dsimp only [afterComma]
      split_ifs
      · rw [bind_assoc]
        rfl
      · rfl

theorem memberDeclarators_local (typeName : String) (ts : List Token) (inside : ts <:+ all) :
    Local stop all ts more (fun a => ∀ m ∈ a.1, m.ReadFrom stop all)
      (memberDeclarators stop typeName ts) (memberDeclarators stop' typeName (ts ++ more)) := by
  cases ts with
  | nil =>
    rw [memberDeclarators]
    exact .fault (.inl rfl)
  | cons t ts =>
    rw [List.cons_append, memberDeclarators_cons, memberDeclarators_cons]
    split_ifs
    · refine ((passExpression_local ts).skip (List.suffix_cons t ts)).bind ?_
      rintro ⟨us, shorter⟩ ⟨_, _⟩ suffix _ _ behind
      cases behind
      refine afterComma_local nofun _ _ fun vs (less : vs.length < us.length) suffix' => ?_
      exact memberDeclarators_local typeName vs (suffix'.trans (suffix.trans inside))
    · refine ((declarator_local (t :: ts) inside).mono
        (fun a => ∃ rest, declarator stop (t :: ts) = .ok (a.1, a.2.1, rest))
        fun b read _ => ⟨b.2.2, read⟩).bind ?_
      rintro ⟨name, d, us, shorter⟩ ⟨_, _, _, _⟩ suffix declares same behind
      cases same
      cases behind
      refine (passExpressionAfter_local ':' us).bind ?_
      rintro ⟨vs, shorter'⟩ ⟨_, _⟩ suffix' _ _ behind
      cases behind
      -- The member begins at `t`, the first token of its declarator.
      have first : Member.ReadFrom ⟨name, typeName, d, t.position⟩ stop all :=
        ⟨t, ts, inside, rfl, declares⟩
      refine afterComma_local (fun m member => List.mem_singleton.1 member ▸ first) _ _
        fun ws (less : ws.length < vs.length) suffix'' => ?_
      have others := memberDeclarators_local typeName ws
        (suffix''.trans (suffix'.trans (suffix.trans inside)))
      refine others.bind ?_
      rintro ⟨_, _, _⟩ ⟨_, _, _⟩ _ others same behind
      cases same
      exact .pure (List.suffix_refl _) (List.forall_mem_cons.2 ⟨first, others⟩) rfl behind
termination_by ts.length
decreasing_by
  · subst_vars; simp; omega
  · subst_vars; simp only [List.length_cons] at shorter ⊢; omega

theorem recordBody_cons_eq (t : Token) (ts : List Token) :
    recordBody stop (t :: ts) =
      (if t.isMark '\x7d' then pure ([], ⟨ts, shorter_tail t ts⟩)
      else do
        let said ← specifiers stop false (t :: ts)
        let declared ← unlessAlone [] (memberDeclarators stop said.1.typeName said.2.1)
        let mark ← takeMark stop ';' declared.2.1
        let others ← recordBody stop mark.2.1
        return (declared.1 ++ others.1, ⟨others.2.1, Nat.lt_trans others.2.2
          (Nat.lt_of_lt_of_le mark.2.2 (Nat.le_trans declared.2.2 said.2.2))⟩)) := by
  rw [recordBody]
  split_ifs
  · rfl
  · congr 1
    funext said
    obtain ⟨said, rest, h⟩ := said
    dsimp only
    rw [unlessAlone]
    split_ifs
    · rfl
    · rw [bind_assoc]

/-! ## Types -/

def TypeSpecifier.members : TypeSpecifier → List Member
  | .record _ (some members) => members
  | _ => []

namespace Specifiers

variable {said said' : Specifiers} {type : TypeSpecifier}

def members (said : Specifiers) : List Member := said.type?.elim [] TypeSpecifier.members

theorem position_of_addType {f : Fault} (refused : said.addType type p = .error f) :
    f.position = p := by
  unfold addType at refused
  split at refused
  · cases refused
  · cases refused
  · cases refused
    rfl

theorem forall_members_addType {P : Member → Prop} (added : said.addType type p = .ok said')
    (new : ∀ m ∈ type.members, P m) : ∀ m ∈ said'.members, P m := by
  unfold addType at added
  split at added
  · cases added
    exact new
  · cases added
    exact nofun
  · cases added

end Specifiers

theorem takeTag_append (ts more : List Token) :
    ∃ tag us h, takeTag ts = (tag, ⟨us, h⟩) ∧ us <:+ ts ∧
      (us ≠ [] → ∃ h', takeTag (ts ++ more) = (tag, ⟨us ++ more, h'⟩)) := by
  cases ts with
  | nil => exact ⟨none, [], Nat.le_refl _, rfl, List.suffix_refl _, absurd rfl⟩
  | cons t ts =>
    simp only [List.cons_append, takeTag]
    cases t.word? with
    | none =>
      exact ⟨none, t :: ts, Nat.le_refl _, rfl, List.suffix_refl _, fun _ => ⟨Nat.le_refl _, rfl⟩⟩
    | some tag =>
      exact ⟨some tag, ts, Nat.le_succ _, rfl, List.suffix_cons t ts, fun _ => ⟨Nat.le_succ _, rfl⟩⟩

theorem enumSpecifier_local (ts : List Token) :
    Local stop all ts more (fun _ => True) (enumSpecifier stop ts)
      (enumSpecifier stop' (ts ++ more)) := by
  obtain ⟨tag, us, _, tagged, suffix, tagged'⟩ := takeTag_append ts more
  rw [enumSpecifier, tagged]
  cases us with
  | nil => exact .last (tag, ⟨more, by simp⟩) suffix trivial rfl rfl rfl
  | cons u us =>
    obtain ⟨_, tagged'⟩ := tagged' (List.cons_ne_nil u us)
    rw [enumSpecifier, tagged']
    refine Local.skip ?_ suffix
    dsimp only [List.cons_append]
    split_ifs
    · refine ((closeGroup_local _ _ 0 us).skip (List.suffix_cons u us)).bind ?_
      rintro ⟨_, _⟩ ⟨_, _⟩ _ _ _ behind
      exact .pure (List.suffix_refl _) trivial rfl behind
    · exact .pure (List.suffix_refl _) trivial rfl rfl

mutual

theorem takeSpecifiers_local (topLevel : Bool) (said : Specifiers) (ts : List Token)
    (inside : ts <:+ all) (known : ∀ m ∈ said.members, m.ReadFrom stop all) :
    Local stop all ts more (fun a => ∀ m ∈ a.1.members, m.ReadFrom stop all)
      (takeSpecifiers stop topLevel said ts) (takeSpecifiers stop' topLevel said (ts ++ more)) := by
  cases ts with
  | nil =>
    rw [takeSpecifiers]
    exact .last (said, ⟨more, Nat.le_refl _⟩) (List.suffix_refl _) known rfl rfl rfl
  | cons t ts =>
    -- All that follow a specifier are read alike, whatever is left after it.
    have next (said : Specifiers) (known : ∀ m ∈ said.members, m.ReadFrom stop all)
        (us : List Token) (shorter : us.length ≤ ts.length) (inside : us <:+ all)
        (h : ∀ b : Specifiers × NoLonger us, b.2.1.length ≤ (t :: ts).length)
        (h' : ∀ b : Specifiers × NoLonger (us ++ more), b.2.1.length ≤ (t :: (ts ++ more)).length) :
        Local stop all us more (fun a => ∀ m ∈ a.1.members, m.ReadFrom stop all)
          (takeSpecifiers stop topLevel said us >>= fun b =>
            pure (b.1, (⟨b.2.1, h b⟩ : NoLonger (t :: ts))))
          (takeSpecifiers stop' topLevel said (us ++ more) >>= fun b =>
            pure (b.1, (⟨b.2.1, h' b⟩ : NoLonger (t :: (ts ++ more))))) := by
      refine (takeSpecifiers_local topLevel said us inside known).bind ?_
      rintro ⟨_, _, _⟩ ⟨_, _, _⟩ _ read same behind
      cases same
      exact .pure (List.suffix_refl _) read rfl behind
    have tail := suffix_of_cons inside
    rw [List.cons_append, takeSpecifiers, takeSpecifiers]
    cases t.word? with
    | none => exact .pure (List.suffix_refl _) known rfl rfl
    | some word =>
      have report {type : TypeSpecifier} (e : Fault)
          (refused : said.addType type t.position = .error e) : Reportable stop all e.position :=
        Specifiers.position_of_addType refused ▸ .head inside
      dsimp only
      split_ifs
      · exact .fault (.head inside)
      · exact .fault (.head inside)
      · exact (next { said with isTypedef := true } known ts (Nat.le_refl _) tail _ _).skip
          (List.suffix_cons t ts)
      · exact (next said known ts (Nat.le_refl _) tail _ _).skip (List.suffix_cons t ts)
      · refine .after report fun said' added => ?_
        have known' : ∀ m ∈ said'.members, m.ReadFrom stop all :=
          Specifiers.forall_members_addType added nofun
        exact (next _ known' ts (Nat.le_refl _) tail _ _).skip (List.suffix_cons t ts)
      · refine ((recordSpecifier_local ts tail).skip (List.suffix_cons t ts)).bind ?_
        rintro ⟨type, us, shorter⟩ ⟨_, _, _⟩ suffix new same behind
        cases same
        cases behind
        refine .after report fun said' added => ?_
        have known' : ∀ m ∈ said'.members, m.ReadFrom stop all :=
          Specifiers.forall_members_addType added new
        exact next _ known' us shorter (suffix.trans inside) _ _
      · refine ((enumSpecifier_local ts).skip (List.suffix_cons t ts)).bind ?_
        rintro ⟨tag, us, shorter⟩ ⟨_, _, _⟩ suffix _ same behind
        cases same
        cases behind
        refine .after report fun said' added => ?_
        have known' : ∀ m ∈ said'.members, m.ReadFrom stop all :=
          Specifiers.forall_members_addType added nofun
        exact next _ known' us shorter (suffix.trans inside) _ _
      · refine .after report fun said' added => ?_
        have known' : ∀ m ∈ said'.members, m.ReadFrom stop all :=
          Specifiers.forall_members_addType added nofun
        exact (next _ known' ts (Nat.le_refl _) tail _ _).skip (List.suffix_cons t ts)
      · exact .pure (List.suffix_refl _) known rfl rfl
termination_by 4 * ts.length
decreasing_by all_goals subst_vars; simp only [List.length_cons]; omega

theorem specifiers_local (topLevel : Bool) (ts : List Token) (inside : ts <:+ all) :
    Local stop all ts more (fun a => ∀ m ∈ a.1.members, m.ReadFrom stop all)
      (specifiers stop topLevel ts) (specifiers stop' topLevel (ts ++ more)) := by
  cases ts with
  | nil =>
    rw [specifiers]
    exact .fault (.inl rfl)
  | cons t ts =>
    rw [List.cons_append, specifiers, specifiers]
    refine (takeSpecifiers_local topLevel .none (t :: ts) inside nofun).bind ?_
    rintro ⟨said, _, _⟩ ⟨_, _, _⟩ _ read same behind
    cases same
    dsimp only
    split_ifs
    · exact .fault (.head inside)
    · exact .pure (List.suffix_refl _) read rfl behind
termination_by 4 * ts.length + 1

theorem recordSpecifier_local (ts : List Token) (inside : ts <:+ all) :
    Local stop all ts more (fun a => ∀ m ∈ a.1.members, m.ReadFrom stop all)
      (recordSpecifier stop ts) (recordSpecifier stop' (ts ++ more)) := by
  obtain ⟨tag, us, length, tagged, suffix, tagged'⟩ := takeTag_append ts more
  rw [recordSpecifier, tagged]
  cases us with
  | nil => exact .last (.record tag none, ⟨more, by simp⟩) suffix nofun rfl rfl rfl
  | cons u us =>
    obtain ⟨_, tagged'⟩ := tagged' (List.cons_ne_nil u us)
    rw [recordSpecifier, tagged']
    refine Local.skip ?_ suffix
    dsimp only [List.cons_append]
    split_ifs
    · refine ((recordBody_local us (suffix_of_cons (suffix.trans inside))).skip
        (List.suffix_cons u us)).bind ?_
      rintro ⟨_, _, _⟩ ⟨_, _, _⟩ _ read same behind
      cases same
      exact .pure (List.suffix_refl _) read rfl behind
    · exact .pure (List.suffix_refl _) nofun rfl rfl
termination_by 4 * ts.length + 3
decreasing_by simp only [List.length_cons] at length; omega

theorem recordBody_local (ts : List Token) (inside : ts <:+ all) :
    Local stop all ts more (fun a => ∀ m ∈ a.1, m.ReadFrom stop all)
      (recordBody stop ts) (recordBody stop' (ts ++ more)) := by
  cases ts with
  | nil =>
    rw [recordBody]
    exact .fault (.inl rfl)
  | cons t ts =>
    rw [List.cons_append, recordBody_cons_eq, recordBody_cons_eq]
    split_ifs
    · exact .pure (List.suffix_cons t ts) nofun rfl rfl
    · refine (specifiers_local false (t :: ts) inside).bind ?_
      rintro ⟨said, us, shorter⟩ ⟨_, _, _⟩ suffix _ same behind
      cases same
      cases behind
      refine (unlessAlone_local (memberDeclarators_local said.typeName us (suffix.trans inside))
        (by exact nofun)).bind ?_
      rintro ⟨declared, vs, shorter'⟩ ⟨_, _, _⟩ suffix' read same behind
      cases same
      cases behind
      refine (takeMark_local ';' (suffix'.trans (suffix.trans inside))).bind ?_
      rintro ⟨_, ws, less⟩ ⟨_, _, _⟩ suffix'' _ _ behind
      have less' : ws.length < vs.length := less
      cases behind
      refine (recordBody_local ws (suffix''.trans (suffix'.trans (suffix.trans inside)))).bind ?_
      rintro ⟨_, _, _⟩ ⟨_, _, _⟩ _ others same behind
      cases same
      refine .pure (List.suffix_refl _) (fun m member => ?_) rfl behind
      exact (List.mem_append.1 member).elim (read m) (others m)
termination_by 4 * ts.length + 2
decreasing_by
  · subst_vars; simp only [List.length_cons]; omega
  · subst_vars; simp only [List.length_cons] at shorter ⊢; omega

end

end Declaration
end Bindwright
