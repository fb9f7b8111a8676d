import Bindwright.Memory.Fault

namespace Bindwright.Memory

def littleEndian : (width n : Nat) → List UInt8
  | 0, _ => []
  | width + 1, n => UInt8.ofNat n :: littleEndian width (n / 256)

def ofLittleEndian : List UInt8 → Nat
  | [] => 0
  | b :: bs => b.toNat + 256 * ofLittleEndian bs

def byteStrings : (width : Nat) → Nat
  | 0 => 1
  | width + 1 => 256 * byteStrings width

theorem byteStrings_pos (width : Nat) : 0 < byteStrings width := by
  induction width with
  | zero => decide
  | succ width ih => rw [byteStrings]; omega

@[simp] theorem length_littleEndian (width n : Nat) : (littleEndian width n).length = width := by
  induction width generalizing n with
  | zero => rfl
  | succ width ih => simp [littleEndian, ih]

theorem ofLittleEndian_littleEndian (width n : Nat) :
    ofLittleEndian (littleEndian width n) = n % byteStrings width := by
  induction width generalizing n with
  | zero => simp [littleEndian, ofLittleEndian, byteStrings, Nat.mod_one]
  | succ width ih =>
    rw [littleEndian, ofLittleEndian, ih, UInt8.toNat_ofNat', byteStrings, Nat.mod_mul]

theorem ofLittleEndian_lt (bs : List UInt8) : ofLittleEndian bs < byteStrings bs.length := by
  induction bs with
  | nil => decide
  | cons b bs ih =>
    have := b.toNat_lt
    simp only [ofLittleEndian, List.length_cons, byteStrings]
    omega

theorem littleEndian_ofLittleEndian (bs : List UInt8) :
    littleEndian bs.length (ofLittleEndian bs) = bs := by
  induction bs with
  | nil => rfl
  | cons b bs ih =>
    have := b.toNat_lt
    have quotient : (b.toNat + 256 * ofLittleEndian bs) / 256 = ofLittleEndian bs := by omega
    have lowest : UInt8.ofNat (b.toNat + 256 * ofLittleEndian bs) = b := by
      apply UInt8.toNat.inj
      rw [UInt8.toNat_ofNat']
      omega
    simp only [List.length_cons, littleEndian, ofLittleEndian, quotient, lowest, ih]

/-- Values that fill `width` bytes. Each has a number, and numbers wrap around where the lists of as
many bytes end. -/
class Scalar (α : Type) where
  name : String
  width : Nat
  toInt : α → Int
  ofInt : Int → α
  ofInt_toInt (a : α) : ofInt (toInt a % byteStrings width) = a
  toInt_ofInt (n : Int) : toInt (ofInt n) % byteStrings width = n % byteStrings width

namespace Scalar

variable {α : Type} [Scalar α]

def encode (a : α) : List UInt8 :=
  littleEndian (width α) (toInt a % byteStrings (width α)).toNat

def decode (bs : List UInt8) : α := ofInt (ofLittleEndian bs)

@[simp] theorem length_encode (a : α) : (encode a).length = width α := length_littleEndian ..

@[simp] theorem decode_encode (a : α) : decode (encode a) = a := by
  have positive : (0 : Int) < byteStrings (width α) := Int.ofNat_lt.2 (byteStrings_pos _)
  have nonneg := Int.emod_nonneg (toInt a) (Int.ne_of_gt positive)
  have lt := Int.emod_lt_of_pos (toInt a) positive
  rw [← Int.toNat_of_nonneg nonneg] at lt
  rw [decode, encode, ofLittleEndian_littleEndian, Nat.mod_eq_of_lt (Int.ofNat_lt.1 lt),
    Int.toNat_of_nonneg nonneg, ofInt_toInt]

theorem encode_decode {bs : List UInt8} (h : bs.length = width α) :
    encode (decode bs : α) = bs := by
  have lt := Int.ofNat_lt.2 (ofLittleEndian_lt bs)
  rw [h] at lt
  have whole := Int.emod_eq_of_lt (Int.natCast_nonneg (ofLittleEndian bs)) lt
  rw [encode, decode, toInt_ofInt, whole, Int.toNat_natCast, ← h, littleEndian_ofLittleEndian]

def layout (α : Type) [Scalar α] : Layout := ⟨width α, width α⟩

def layoutText (α : Type) [Scalar α] : String := "ValueLayout<" ++ name α ++ ">"

end Scalar

instance : Scalar UInt8 where
  name := "u8"
  width := 1
  toInt a := a.toNat
  ofInt n := UInt8.ofNat (n % 256).toNat
  ofInt_toInt a := UInt8.toNat.inj (by
    have := a.toNat_lt; simp only [byteStrings, UInt8.toNat_ofNat']; omega)
  toInt_ofInt n := by simp only [byteStrings, UInt8.toNat_ofNat']; omega

instance : Scalar UInt16 where
  name := "u16"
  width := 2
  toInt a := a.toNat
  ofInt n := UInt16.ofNat (n % 65536).toNat
  ofInt_toInt a := UInt16.toNat.inj (by
    have := a.toNat_lt; simp only [byteStrings, UInt16.toNat_ofNat']; omega)
  toInt_ofInt n := by simp only [byteStrings, UInt16.toNat_ofNat']; omega

instance : Scalar UInt32 where
  name := "u32"
  width := 4
  toInt a := a.toNat
  ofInt n := UInt32.ofNat (n % 4294967296).toNat
  ofInt_toInt a := UInt32.toNat.inj (by
    have := a.toNat_lt; simp only [byteStrings, UInt32.toNat_ofNat']; omega)
  toInt_ofInt n := by simp only [byteStrings, UInt32.toNat_ofNat']; omega

instance : Scalar UInt64 where
  name := "u64"
  width := 8
  toInt a := a.toNat
  ofInt n := UInt64.ofNat (n % 18446744073709551616).toNat
  ofInt_toInt a := UInt64.toNat.inj (by
    have := a.toNat_lt; simp only [byteStrings, UInt64.toNat_ofNat']; omega)
  toInt_ofInt n := by simp only [byteStrings, UInt64.toNat_ofNat']; omega

instance : Scalar Int8 where
  name := "i8"
  width := 1
  toInt := Int8.toInt
  ofInt := Int8.ofInt
  ofInt_toInt a := Int8.toInt.inj (by
    rw [Int8.toInt_ofInt]; exact (Int.emod_bmod _ _).trans a.toInt_bmod)
  toInt_ofInt n := by rw [Int8.toInt_ofInt]; exact Int.bmod_emod

instance : Scalar Int16 where
  name := "i16"
  width := 2
  toInt := Int16.toInt
  ofInt := Int16.ofInt
  ofInt_toInt a := Int16.toInt.inj (by
    rw [Int16.toInt_ofInt]; exact (Int.emod_bmod _ _).trans a.toInt_bmod)
  toInt_ofInt n := by rw [Int16.toInt_ofInt]; exact Int.bmod_emod

instance : Scalar Int32 where
  name := "i32"
  width := 4
  toInt := Int32.toInt
  ofInt := Int32.ofInt
  ofInt_toInt a := Int32.toInt.inj (by
    rw [Int32.toInt_ofInt]; exact (Int.emod_bmod _ _).trans a.toInt_bmod)
  toInt_ofInt n := by rw [Int32.toInt_ofInt]; exact Int.bmod_emod

instance : Scalar Int64 where
  name := "i64"
  width := 8
  toInt := Int64.toInt
  ofInt := Int64.ofInt
  ofInt_toInt a := Int64.toInt.inj (by
    rw [Int64.toInt_ofInt]; exact (Int.emod_bmod _ _).trans a.toInt_bmod)
  toInt_ofInt n := by rw [Int64.toInt_ofInt]; exact Int.bmod_emod

structure Single where
  bits : UInt32
  deriving DecidableEq, Repr

instance : Scalar Single where
  name := "f32"
  width := 4
  toInt a := Scalar.toInt a.bits
  ofInt n := ⟨Scalar.ofInt n⟩
  ofInt_toInt a := congrArg Single.mk (Scalar.ofInt_toInt a.bits)
  toInt_ofInt n := Scalar.toInt_ofInt (α := UInt32) n

structure Double where
  bits : UInt64
  deriving DecidableEq, Repr

instance : Scalar Double where
  name := "f64"
  width := 8
  toInt a := Scalar.toInt a.bits
  ofInt n := ⟨Scalar.ofInt n⟩
  ofInt_toInt a := congrArg Double.mk (Scalar.ofInt_toInt a.bits)
  toInt_ofInt n := Scalar.toInt_ofInt (α := UInt64) n

instance : Scalar Address where
  name := "address"
  width := 8
  toInt a := Scalar.toInt a.value
  ofInt n := ⟨Scalar.ofInt n⟩
  ofInt_toInt a := congrArg Address.mk (Scalar.ofInt_toInt a.value)
  toInt_ofInt n := Scalar.toInt_ofInt (α := UInt64) n

structure ScalarType where
  type : Type
  scalar : Scalar type

namespace ScalarType

instance (t : ScalarType) : Scalar t.type := t.scalar

def name (t : ScalarType) : String := Scalar.name t.type

def all : List ScalarType :=
  [⟨UInt8, inferInstance⟩, ⟨Int8, inferInstance⟩, ⟨UInt16, inferInstance⟩, ⟨Int16, inferInstance⟩,
    ⟨UInt32, inferInstance⟩, ⟨Int32, inferInstance⟩, ⟨UInt64, inferInstance⟩,
    ⟨Int64, inferInstance⟩, ⟨Single, inferInstance⟩, ⟨Double, inferInstance⟩,
    ⟨Address, inferInstance⟩]

def named? (name : String) : Option ScalarType :=
  let name := match name with
    | "usize" => "u64"
    | "isize" => "i64"
    | _ => name
  all.find? (·.name == name)

end ScalarType
end Bindwright.Memory
