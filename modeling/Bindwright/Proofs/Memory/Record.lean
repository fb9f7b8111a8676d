import Bindwright.Proofs.Memory.Elements
import Bindwright.Proofs.Memory.Text

namespace Bindwright.Memory

variable {σ α : Type}

/-- What decides whether values and bytes of a structure can be turned into each other. -/
class Fitting (σ : Type) where
  -- The fault of the first member, in the order of declaration, that has no native form.
  fault : σ → Option ConversionError
  texts : List Window

abbrev Record.Lawful (σ : Type) [Record σ] [Fitting σ] : Prop :=
  Slot.Lawful (⟨Structure.read, Structure.write⟩ : Slot σ) 0 (Record.layout σ).size Fitting.fault
    (Fitting.texts σ)

theorem Slot.nested_lawful [Structure α] {size : Nat} {fault : α → Option ConversionError}
    {texts : List Window}
    (fills : Fills (⟨Structure.read, Structure.write⟩ : Slot α) size fault texts)
    (offset length : Nat) (whole : size = length) :
    (nested α offset length).Lawful offset length fault (texts.map (.shift offset)) :=
  whole ▸ within_lawful fills offset

def Window.InOrder (first : Nat) (places : List Window) (last : Nat) : Prop :=
  match places with
  | [] => first ≤ last
  | w :: places => first ≤ w.offset ∧ InOrder (w.offset + w.size) places last

instance Window.decidableInOrder (first : Nat) (places : List Window) (last : Nat) :
    Decidable (InOrder first places last) :=
  match places with
  | [] => inferInstanceAs (Decidable (first ≤ last))
  | w :: places =>
    have := decidableInOrder (w.offset + w.size) places last
    inferInstanceAs (Decidable (_ ∧ _))

theorem Window.InOrder.le {first last : Nat} {places : List Window}
    (order : InOrder first places last) : first ≤ last := by
  induction places generalizing first with
  | nil => exact order
  | cons w places ih => exact (order.1.trans (Nat.le_add_right _ _)).trans (ih order.2)

/-- Each part is written to its place. `Held` says that bytes read as a value of the parts. -/
structure LawfulParts (parts : List (Part σ)) (places : List Window)
    (fault : σ → Option ConversionError) (texts : List Window)
    (Held : σ → Segment → Contents → Prop) : Prop where
  inside {first last : Nat} : Window.InOrder first places last →
    ∀ w ∈ texts, first ≤ w.offset ∧ w.offset + w.size ≤ last
  stores {first last : Nat} : Window.InOrder first places last →
    ∀ s : Segment, last ≤ s.length → ∀ v,
      Stores (parts.forM fun part => part.write v s) (s.start + first) (s.start + last) (fault v)
        (texts.map s.at) (Held v s)

namespace LawfulParts

theorem nil : LawfulParts ([] : List (Part σ)) [] (fun _ => none) [] fun _ _ _ => True where
  inside _ := nofun
  stores order s _ _ := (Stores.nil _).mono (Nat.le_refl _) (Nat.add_le_add_left order s.start)

theorem part [Outlined α] {name : String} {slot : Slot α} {value : σ → α} {offset size : Nat}
    {fault : α → Option ConversionError} {texts texts' places : List Window}
    {parts : List (Part σ)} {fault' : σ → Option ConversionError}
    {Held : σ → Segment → Contents → Prop} (law : slot.Lawful offset size fault texts)
    (rest : LawfulParts parts places fault' texts' Held) :
    LawfulParts (.ofSlot name slot value :: parts) (⟨offset, size⟩ :: places)
      (fun v => (fault (value v)).or (fault' v)) (texts ++ texts')
      fun v s m => slot.read s m = .ok (value v) ∧ Held v s m where
  inside {first last} order w member := by
    obtain ⟨early, late⟩ := order
    have le := late.le
    rcases List.mem_append.1 member with here | after
    · have ends := law.inside w here
      exact ⟨early.trans ends.1, ends.2.trans le⟩
    · have ends := rest.inside late w after
      exact ⟨early.trans ((Nat.le_add_right _ _).trans ends.1), ends.2⟩
  stores {first last} order s room v := by
    obtain ⟨early, late⟩ := order
    have le : offset + size ≤ last := late.le
    have both := (law.stores s (le.trans room) (value v)).seq (rest.stores late s room v)
      (Nat.le_of_eq (Nat.add_assoc _ _ _))
    rw [List.map_append]
    exact both.mono (Nat.add_le_add_left early _) (Nat.le_refl _)

theorem congr {parts : List (Part σ)} {places texts texts' : List Window}
    {fault fault' : σ → Option ConversionError} {Held : σ → Segment → Contents → Prop}
    (laws : LawfulParts parts places fault texts Held) (faults : ∀ v, fault v = fault' v)
    (same : texts = texts') : LawfulParts parts places fault' texts' Held := by
  obtain rfl : fault = fault' := funext faults
  exact same ▸ laws

theorem record [Record σ] [Fitting σ] {places : List Window}
    {Held : σ → Segment → Contents → Prop}
    (laws : LawfulParts Record.parts places Fitting.fault (Fitting.texts σ) Held)
    (order : Window.InOrder 0 places (Record.layout σ).size)
    (read : ∀ s m (v : σ), Structure.read s m = .ok v ↔ Held v s m) : Record.Lawful σ where
  inside w member := by
    have ends := laws.inside order w member
    omega
  stores s room v := by
    rw [Nat.zero_add] at room
    exact (laws.stores order s room v).congr fun m => read s m v

end LawfulParts
end Bindwright.Memory
