import Bindwright.Declaration.Grammar

/-!
The reader of declarators against their grammar. A declarator is written from its name outwards,
and read that way too: what stands next to the name is the outermost part of what is declared.
-/

namespace Bindwright

namespace Declarator

theorem fill_value (d : Declarator) : fill .value d = d := by
  induction d <;> simp_all [fill]

theorem addPointers_succ (d : Declarator) (n : Nat) :
    d.addPointers (n + 1) = (d.addPointers n).addPointer := by
  induction n generalizing d with
  | zero => rfl
  | succ n ih => exact ih d.addPointer

end Declarator

namespace Declaration

open Text

variable {stop : Position} {openMark closeMark c : Char} {name : String} {d d' : Declarator}
  {t : Token} {ts more rest : List Token} {lexemes : List Lexeme}

theorem Token.isMark_of_lexeme (ht : t.lexeme = .mark c) : t.isMark c = true := by
  simp [isMark, ht]

theorem Token.isMark_of_ne {c' : Char} (ht : t.lexeme = .mark c) (hne : c ≠ c') :
    t.isMark c' = false := by
  simp [isMark, ht, hne]

/-- Every mark that opens a group has the one that closes it. Other brackets do not count. -/
inductive Balanced (openMark closeMark : Char) : List Lexeme → Prop where
  | nil : Balanced openMark closeMark []
  | other {lexeme : Lexeme} {lexemes : List Lexeme} (notOpen : lexeme ≠ .mark openMark)
      (notClose : lexeme ≠ .mark closeMark) (h : Balanced openMark closeMark lexemes) :
      Balanced openMark closeMark (lexeme :: lexemes)
  | group {inner lexemes : List Lexeme} (h : Balanced openMark closeMark inner)
      (h' : Balanced openMark closeMark lexemes) :
      Balanced openMark closeMark (.mark openMark :: inner ++ .mark closeMark :: lexemes)

theorem closeGroup_step {depth depth' : Nat}
    (step : (t.isMark openMark = true ∧ depth' = depth + 1) ∨
      (t.isMark openMark = false ∧ t.isMark closeMark = true ∧ depth = depth' + 1) ∨
      (t.isMark openMark = false ∧ t.isMark closeMark = false ∧ depth' = depth))
    (hm : ∃ h, closeGroup stop openMark closeMark depth' ts = .ok ⟨rest, h⟩) :
    ∃ h, closeGroup stop openMark closeMark depth (t :: ts) = .ok ⟨rest, h⟩ := by
  obtain ⟨h, he⟩ := hm
  refine ⟨by simp at h ⊢; omega, ?_⟩
  rw [closeGroup.eq_def]
  rcases step with ⟨ho, rfl⟩ | ⟨ho, hc, rfl⟩ | ⟨ho, hc, rfl⟩
  · simp [ho, he, bind, Except.bind, pure, Except.pure]
  · simp [ho, hc, he, bind, Except.bind, pure, Except.pure]
  · simp [ho, hc, he, bind, Except.bind, pure, Except.pure]

theorem closeGroup_balanced (hne : openMark ≠ closeMark)
    (hb : Balanced openMark closeMark lexemes) (hts : ts.map Token.lexeme = lexemes) {depth : Nat}
    (hm : ∃ h, closeGroup stop openMark closeMark depth more = .ok ⟨rest, h⟩) :
    ∃ h, closeGroup stop openMark closeMark depth (ts ++ more) = .ok ⟨rest, h⟩ := by
  induction hb generalizing ts more depth with
  | nil =>
    obtain rfl := by simpa using hts
    exact hm
  | other notOpen notClose _ ih =>
    obtain ⟨t, us, rfl, rfl, hus⟩ := List.map_eq_cons_iff.1 hts
    exact closeGroup_step (.inr (.inr (by simp [Token.isMark, notOpen, notClose]))) (ih hus hm)
  | group _ _ ih ih' =>
    obtain ⟨t, us, rfl, ht, hus⟩ := List.map_eq_cons_iff.1 hts
    obtain ⟨inner, vs, rfl, hi, hvs⟩ := List.map_eq_append_iff.1 hus
    obtain ⟨u, others, rfl, hu, ho⟩ := List.map_eq_cons_iff.1 hvs
    have closed : ∃ h, closeGroup stop openMark closeMark (depth + 1) (u :: (others ++ more)) =
        .ok ⟨rest, h⟩ :=
      closeGroup_step (.inr (.inl ⟨u.isMark_of_ne hu hne.symm, u.isMark_of_lexeme hu, rfl⟩))
        (ih' ho hm)
    rw [List.cons_append, List.append_assoc, List.cons_append]
    exact closeGroup_step (.inl ⟨t.isMark_of_lexeme ht, rfl⟩) (ih hi closed)

theorem closeGroup_eq_ok (hne : openMark ≠ closeMark)
    (hb : Balanced openMark closeMark (ts.map Token.lexeme)) (ht : t.lexeme = .mark closeMark) :
    ∃ h, closeGroup stop openMark closeMark 0 (ts ++ t :: rest) = .ok ⟨rest, h⟩ := by
  refine closeGroup_balanced hne hb rfl ⟨by simp, ?_⟩
  simp [closeGroup, Token.isMark, ht, hne.symm]

/-- The lexemes declare `name`, and make of its base type what `d` says. A direct declarator may be
followed by bounds and parameters. -/
inductive Declares (name : String) : (direct : Bool) → Declarator → List Lexeme → Prop where
  | name : Declares name true .value [.word name]
  | parens {direct : Bool} {d : Declarator} {lexemes : List Lexeme}
      (h : Declares name direct d lexemes) :
      Declares name true d (.mark '(' :: lexemes ++ [.mark ')'])
  | array {d : Declarator} {lexemes bound : List Lexeme} (h : Declares name true d lexemes)
      (balanced : Balanced '[' ']' bound) :
      Declares name true d.addArray (lexemes ++ .mark '[' :: bound ++ [.mark ']'])
  | function {d : Declarator} {lexemes parameters : List Lexeme}
      (h : Declares name true d lexemes) (balanced : Balanced '(' ')' parameters) :
      Declares name true d.addFunction (lexemes ++ .mark '(' :: parameters ++ [.mark ')'])
  | pointer {direct : Bool} {d : Declarator} {lexemes : List Lexeme}
      (h : Declares name direct d lexemes) :
      Declares name false d.addPointer (.mark '*' :: lexemes)

def NoSuffix (ts : List Token) : Prop :=
  startsWithMark '[' ts = false ∧ startsWithMark '(' ts = false

theorem noSuffix_of_mark (ht : t.lexeme = .mark c) (hb : c ≠ '[') (hp : c ≠ '(') :
    NoSuffix (t :: ts) := by
  simp [NoSuffix, startsWithMark, Token.isMark, ht, hb, hp]

theorem declaratorSuffixes_of_noSuffix (h : NoSuffix ts) :
    ∃ h, declaratorSuffixes stop d ts = .ok (d, ⟨ts, h⟩) := by
  refine ⟨Nat.le_refl _, ?_⟩
  cases ts with
  | nil => rw [declaratorSuffixes]
  | cons t ts =>
    obtain ⟨h₁, h₂⟩ : t.isMark '[' = false ∧ t.isMark '(' = false := by
      simpa [NoSuffix, startsWithMark] using h
    rw [declaratorSuffixes, if_neg (by simp [h₁]), if_neg (by simp [h₂])]
    rfl

theorem declaratorSuffixes_array (ht : t.lexeme = .mark '[')
    (hg : ∃ h, closeGroup stop '[' ']' 0 ts = .ok ⟨more, h⟩)
    (hs : ∃ h, declaratorSuffixes stop d.addArray more = .ok (d', ⟨rest, h⟩)) :
    ∃ h, declaratorSuffixes stop d (t :: ts) = .ok (d', ⟨rest, h⟩) := by
  obtain ⟨hg, eg⟩ := hg
  obtain ⟨hs, es⟩ := hs
  refine ⟨by simp; omega, ?_⟩
  rw [declaratorSuffixes, if_pos (t.isMark_of_lexeme ht), eg]
  simp [es, bind, Except.bind, pure, Except.pure]

theorem declaratorSuffixes_function (ht : t.lexeme = .mark '(')
    (hg : ∃ h, closeGroup stop '(' ')' 0 ts = .ok ⟨more, h⟩)
    (hs : ∃ h, declaratorSuffixes stop d.addFunction more = .ok (d', ⟨rest, h⟩)) :
    ∃ h, declaratorSuffixes stop d (t :: ts) = .ok (d', ⟨rest, h⟩) := by
  obtain ⟨hg, eg⟩ := hg
  obtain ⟨hs, es⟩ := hs
  refine ⟨by simp; omega, ?_⟩
  rw [declaratorSuffixes, if_neg (by simp [Token.isMark, ht]),
    if_pos (t.isMark_of_lexeme ht), eg]
  simp [es, bind, Except.bind, pure, Except.pure]

theorem directDeclarator_name (ht : t.lexeme = .word name)
    (hs : ∃ h, declaratorSuffixes stop .value ts = .ok (d, ⟨rest, h⟩)) :
    ∃ h, directDeclarator stop (t :: ts) = .ok (name, d, ⟨rest, h⟩) := by
  obtain ⟨hs, es⟩ := hs
  refine ⟨by simp; omega, ?_⟩
  rw [directDeclarator, if_neg (by simp [Token.isMark, ht])]
  simp [Token.word?, ht, es, bind, Except.bind, pure, Except.pure]

theorem directDeclarator_parens (ht : t.lexeme = .mark '(') {u : Token}
    (hd : ∃ h, declarator stop ts = .ok (name, d, ⟨u :: more, h⟩)) (hu : u.lexeme = .mark ')')
    (hs : ∃ h, declaratorSuffixes stop d more = .ok (d', ⟨rest, h⟩)) :
    ∃ h, directDeclarator stop (t :: ts) = .ok (name, d', ⟨rest, h⟩) := by
  obtain ⟨hd, ed⟩ := hd
  obtain ⟨hs, es⟩ := hs
  refine ⟨by simp at hd ⊢; omega, ?_⟩
  rw [directDeclarator, if_pos (t.isMark_of_lexeme ht), ed]
  simp [takeMark, Token.isMark, hu, es, bind, Except.bind, pure, Except.pure]

theorem takePointers_star (ht : t.lexeme = .mark '*') {afterStar : Bool} :
    takePointers afterStar (t :: ts) =
      ((takePointers true ts).1 + 1, (takePointers true ts).2) := by
  rw [takePointers, if_pos (t.isMark_of_lexeme ht)]

theorem takePointers_true (h : ∀ word ∈ qualifiers, t.lexeme ≠ .word word) :
    takePointers true (t :: ts) = takePointers false (t :: ts) := by
  have unqualified : (t.word?.any qualifiers.contains) = false := by
    rw [Token.word?]
    cases ht : t.lexeme with
    | word word => simpa using fun hw => h word hw ht
    | _ => rfl
  simp [takePointers, unqualified]

theorem declarator_eq_ok_iff :
    (∃ h, declarator stop ts = .ok (name, d, ⟨rest, h⟩)) ↔
      ∃ d₀ : Declarator, d = d₀.addPointers (takePointers false ts).1 ∧
        ∃ h, directDeclarator stop (takePointers false ts).2 = .ok (name, d₀, ⟨rest, h⟩) := by
  have := takePointers_length false ts
  rw [declarator]
  constructor
  · rintro ⟨h, e⟩
    cases e₀ : directDeclarator stop (takePointers false ts).2 with
    | error fault => simp [e₀, bind, Except.bind] at e
    | ok read =>
      obtain ⟨name₀, d₀, rest₀, h₀⟩ := read
      obtain ⟨rfl, rfl, rfl⟩ := by simpa [e₀, bind, Except.bind, pure, Except.pure] using e
      exact ⟨d₀, rfl, h₀, rfl⟩
  · rintro ⟨d₀, rfl, h, e⟩
    exact ⟨by omega, by simp [e, bind, Except.bind, pure, Except.pure]⟩

namespace Declares

variable {direct : Bool}

theorem exists_cons (h : Declares name direct d lexemes) :
    ∃ first more, lexemes = first :: more ∧
      (first = .word name ∨ first = .mark '(' ∨ (direct = false ∧ first = .mark '*')) := by
  induction h with
  | name => exact ⟨_, _, rfl, .inl rfl⟩
  | parens => exact ⟨_, _, rfl, .inr (.inl rfl)⟩
  | array _ _ ih | function _ _ ih =>
    obtain ⟨first, more, rfl, hf⟩ := ih
    exact ⟨first, _, rfl, hf⟩
  | pointer => exact ⟨_, _, rfl, .inr (.inr ⟨rfl, rfl⟩)⟩

end Declares

def ReadsDirect (stop : Position) (name : String) (d : Declarator) (ts : List Token) : Prop :=
  ∀ ⦃more d' rest⦄, (∃ h, declaratorSuffixes stop d more = .ok (d', ⟨rest, h⟩)) →
    ∃ h, directDeclarator stop (ts ++ more) = .ok (name, d', ⟨rest, h⟩)

def Reads (stop : Position) (name : String) (d : Declarator) (ts : List Token) : Prop :=
  ∀ ⦃more⦄, NoSuffix more → ∃ h, declarator stop (ts ++ more) = .ok (name, d, ⟨more, h⟩)

theorem ReadsDirect.reads (h : ReadsDirect stop name d (t :: ts)) (ht : t.lexeme ≠ .mark '*') :
    Reads stop name d (t :: ts) := by
  intro more hm
  have noPointers : takePointers false (t :: ts ++ more) = (0, t :: ts ++ more) := by
    simp [takePointers, Token.isMark, ht]
  refine declarator_eq_ok_iff.2 ⟨d, ?_⟩
  rw [noPointers]
  exact ⟨rfl, h (declaratorSuffixes_of_noSuffix hm)⟩

theorem Reads.pointer {u : Token} (h : Reads stop name d (u :: ts)) (ht : t.lexeme = .mark '*')
    (hu : ∀ word ∈ qualifiers, u.lexeme ≠ .word word) :
    Reads stop name d.addPointer (t :: u :: ts) := by
  intro more hm
  obtain ⟨d₀, rfl, hd⟩ := declarator_eq_ok_iff.1 (h hm)
  have pointers : takePointers false (t :: u :: ts ++ more) =
      ((takePointers false (u :: ts ++ more)).1 + 1, (takePointers false (u :: ts ++ more)).2) := by
    simp only [List.cons_append, takePointers_star ht, takePointers_true hu]
  refine declarator_eq_ok_iff.2 ⟨d₀, ?_⟩
  rw [pointers]
  exact ⟨(d₀.addPointers_succ _).symm, hd⟩

theorem Reads.parens {u : Token} (h : Reads stop name d ts) (ht : t.lexeme = .mark '(')
    (hu : u.lexeme = .mark ')') : ReadsDirect stop name d (t :: ts ++ [u]) := by
  intro more d' rest hs
  have noSuffix : NoSuffix (u :: more) := noSuffix_of_mark hu (by decide) (by decide)
  rw [show t :: ts ++ [u] ++ more = t :: (ts ++ u :: more) by simp]
  exact directDeclarator_parens ht (h noSuffix) hu hs

theorem ReadsDirect.array {u : Token} {bound : List Token} (h : ReadsDirect stop name d ts)
    (ht : t.lexeme = .mark '[') (hb : Balanced '[' ']' (bound.map Token.lexeme))
    (hu : u.lexeme = .mark ']') : ReadsDirect stop name d.addArray (ts ++ t :: bound ++ [u]) := by
  intro more d' rest hs
  rw [show ts ++ t :: bound ++ [u] ++ more = ts ++ t :: (bound ++ u :: more) by simp]
  exact h (declaratorSuffixes_array ht (closeGroup_eq_ok (by decide) hb hu) hs)

theorem ReadsDirect.function {u : Token} {parameters : List Token}
    (h : ReadsDirect stop name d ts) (ht : t.lexeme = .mark '(')
    (hb : Balanced '(' ')' (parameters.map Token.lexeme)) (hu : u.lexeme = .mark ')') :
    ReadsDirect stop name d.addFunction (ts ++ t :: parameters ++ [u]) := by
  intro more d' rest hs
  rw [show ts ++ t :: parameters ++ [u] ++ more = ts ++ t :: (parameters ++ u :: more) by simp]
  exact h (declaratorSuffixes_function ht (closeGroup_eq_ok (by decide) hb hu) hs)

def ReadsAs (stop : Position) (name : String) : (direct : Bool) → Declarator → List Token → Prop
  | true => ReadsDirect stop name
  | false => Reads stop name

theorem ReadsAs.reads {direct : Bool} (h : ReadsAs stop name direct d ts)
    (declares : Declares name direct d (ts.map Token.lexeme)) : Reads stop name d ts := by
  cases direct with
  | false => exact h
  | true =>
    obtain ⟨first, more, hts, hf⟩ := declares.exists_cons
    obtain ⟨t, ts, rfl, rfl, -⟩ := List.map_eq_cons_iff.1 hts
    refine ReadsDirect.reads h fun star => ?_
    simp [star] at hf

theorem exists_tokens_of_group {inner : List Lexeme}
    (hts : ts.map Token.lexeme = lexemes ++ .mark openMark :: inner ++ [.mark closeMark]) :
    ∃ us t vs u, ts = us ++ t :: vs ++ [u] ∧ us.map Token.lexeme = lexemes ∧
      t.lexeme = .mark openMark ∧ vs.map Token.lexeme = inner ∧ u.lexeme = .mark closeMark := by
  obtain ⟨ws, xs, rfl, hws, hxs⟩ := List.map_eq_append_iff.1 hts
  obtain ⟨us, ys, rfl, hus, hys⟩ := List.map_eq_append_iff.1 hws
  obtain ⟨t, vs, rfl, ht, hvs⟩ := List.map_eq_cons_iff.1 hys
  obtain ⟨u, rfl, hu⟩ := List.map_eq_singleton_iff.1 hxs
  exact ⟨us, t, vs, u, rfl, hus, ht, hvs, hu⟩

theorem Declares.readsAs (hq : name ∉ qualifiers) {direct : Bool}
    (h : Declares name direct d lexemes) (hts : ts.map Token.lexeme = lexemes) :
    ReadsAs stop name direct d ts := by
  induction h generalizing ts with
  | name =>
    obtain ⟨t, rfl, ht⟩ := List.map_eq_singleton_iff.1 hts
    exact fun _ _ _ hs => directDeclarator_name ht hs
  | @parens direct d lexemes h ih =>
    obtain ⟨us, t, vs, u, rfl, hus, ht, rfl, hu⟩ :=
      exists_tokens_of_group (show _ = [] ++ .mark '(' :: lexemes ++ [.mark ')'] from hts)
    obtain rfl : us = [] := by simpa using hus
    exact ((ih rfl).reads h).parens ht hu
  | array h balanced ih =>
    obtain ⟨us, t, vs, u, rfl, rfl, ht, rfl, hu⟩ := exists_tokens_of_group hts
    exact ReadsDirect.array (ih rfl) ht balanced hu
  | function h balanced ih =>
    obtain ⟨us, t, vs, u, rfl, rfl, ht, rfl, hu⟩ := exists_tokens_of_group hts
    exact ReadsDirect.function (ih rfl) ht balanced hu
  | pointer h ih =>
    obtain ⟨t, us, rfl, ht, rfl⟩ := List.map_eq_cons_iff.1 hts
    have reads := (ih rfl).reads h
    obtain ⟨first, more, hus, hf⟩ := h.exists_cons
    obtain ⟨u, us, rfl, rfl, -⟩ := List.map_eq_cons_iff.1 hus
    refine reads.pointer ht fun word hw hu => hq ?_
    have : word = name := by simpa [hu] using hf
    exact this ▸ hw

theorem Declares.reads (hq : name ∉ qualifiers) {direct : Bool}
    (h : Declares name direct d (ts.map Token.lexeme)) : Reads stop name d ts :=
  (h.readsAs hq rfl).reads h

end Declaration
end Bindwright
