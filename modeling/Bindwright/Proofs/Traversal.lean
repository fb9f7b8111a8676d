import Mathlib.Data.List.Forall2

namespace Bindwright.Traversal

variable {α β ε : Type} {f : α → Except ε β}

theorem bind_eq_ok_iff {x : Except ε α} {b : β} :
    x >>= f = .ok b ↔ ∃ a, x = .ok a ∧ f a = .ok b := by
  cases x with
  | error e => simp [bind, Except.bind]
  | ok a => simp [bind, Except.bind]

theorem bind_eq_error_iff {x : Except ε α} {e : ε} :
    x >>= f = .error e ↔ x = .error e ∨ ∃ a, x = .ok a ∧ f a = .error e := by
  cases x with
  | error e' => simp [bind, Except.bind]
  | ok a => simp [bind, Except.bind]

theorem exists_of_isOk {x : Except ε α} (ok : x.isOk) : ∃ a, x = .ok a := by
  cases x with
  | error e => cases ok
  | ok a => exact ⟨a, rfl⟩

theorem mapM_eq_ok_iff {as : List α} {bs : List β} :
    as.mapM f = .ok bs ↔ List.Forall₂ (fun a b => f a = .ok b) as bs := by
  induction as generalizing bs with
  | nil =>
    rw [List.mapM_nil, List.forall₂_nil_left_iff]
    exact ⟨fun h => (Except.ok.inj h).symm, fun h => h ▸ rfl⟩
  | cons a as ih =>
    rw [List.mapM_cons, List.forall₂_cons_left_iff]
    constructor
    · intro accepted
      cases head : f a with
      | error e => simp [head, bind, Except.bind] at accepted
      | ok b =>
        cases tail : as.mapM f with
        | error e => simp [head, tail, bind, Except.bind] at accepted
        | ok bs' =>
          simp only [head, tail, bind, Except.bind, pure, Except.pure, Except.ok.injEq] at accepted
          exact ⟨b, bs', rfl, ih.1 tail, accepted.symm⟩
    · rintro ⟨b, bs', head, tail, rfl⟩
      rw [head, ih.2 tail]
      rfl

theorem exists_of_mem_mapM {as : List α} {bs : List β} {b : β} (ok : as.mapM f = .ok bs)
    (member : b ∈ bs) : ∃ a ∈ as, f a = .ok b := by
  induction mapM_eq_ok_iff.1 ok with
  | nil => cases member
  | cons head _ ih =>
    rcases List.mem_cons.1 member with rfl | later
    · exact ⟨_, List.mem_cons_self, head⟩
    · obtain ⟨a, member', same⟩ := ih (mapM_eq_ok_iff.2 ‹_›) later
      exact ⟨a, List.mem_cons_of_mem _ member', same⟩

theorem mapM_congr {g : α → Except ε β} {as : List α} (same : ∀ a ∈ as, f a = g a) :
    as.mapM f = as.mapM g := by
  induction as with
  | nil => rfl
  | cons a as ih =>
    rw [List.mapM_cons, List.mapM_cons, same a List.mem_cons_self,
      ih fun a' member => same a' (List.mem_cons_of_mem _ member)]

theorem mapM_eq_error {as : List α} {i : Nat} {a : α} {e : ε} (place : as[i]? = some a)
    (fails : f a = .error e) (earlier : ∀ j < i, ∀ a', as[j]? = some a' → ∃ b, f a' = .ok b) :
    as.mapM f = .error e := by
  induction as generalizing i with
  | nil => cases place
  | cons first as ih =>
    rw [List.mapM_cons]
    cases i with
    | zero =>
      rw [List.getElem?_cons_zero, Option.some.injEq] at place
      rw [place, fails]
      rfl
    | succ i =>
      obtain ⟨b, head⟩ := earlier 0 (Nat.zero_lt_succ i) first rfl
      have tail := ih place fun j before => earlier (j + 1) (Nat.succ_lt_succ before)
      rw [head, tail]
      rfl

theorem exists_first_of_mapM_error {as : List α} {e : ε} (fails : as.mapM f = .error e) :
    ∃ (i : Nat) (a : α), as[i]? = some a ∧ f a = .error e ∧
      ∀ j < i, ∀ a', as[j]? = some a' → ∃ b, f a' = .ok b := by
  induction as with
  | nil => cases fails
  | cons first as ih =>
    rw [List.mapM_cons] at fails
    rcases bind_eq_error_iff.1 fails with head | ⟨b, head, fails⟩
    · exact ⟨0, first, rfl, head, fun j before => absurd before (Nat.not_lt_zero j)⟩
    · rcases bind_eq_error_iff.1 fails with tail | ⟨_, _, done⟩
      · obtain ⟨i, a, place, fails, earlier⟩ := ih tail
        refine ⟨i + 1, a, place, fails, fun j before a' place' => ?_⟩
        cases j with
        | zero => exact ⟨b, Option.some.inj place' ▸ head⟩
        | succ j => exact earlier j (Nat.lt_of_succ_lt_succ before) a' place'
      · cases done

theorem exists_of_mapM_error {as : List α} {e : ε} (fails : as.mapM f = .error e) :
    ∃ a ∈ as, f a = .error e := by
  obtain ⟨i, a, place, fails, -⟩ := exists_first_of_mapM_error fails
  exact ⟨a, List.mem_of_getElem? place, fails⟩

end Bindwright.Traversal
