/-! Numbers as bytes, least significant first.

At a fixed width the two directions are inverse to each other: `decode_encode` on the numbers below
`capacity`, `encode_decode` on all bytes. -/

set_option autoImplicit false
namespace LogRecord.LittleEndian

/-- The lowest `width` bytes of `number`. -/
def encode : Nat → Nat → List UInt8
  | 0, _ => []
  | width + 1, number => UInt8.ofNat number :: encode width (number / 256)

def decode : List UInt8 → Nat
  | [] => 0
  | byte :: rest => byte.toNat + 256 * decode rest

/-- How many numbers `width` bytes tell apart. -/
def capacity : Nat → Nat
  | 0 => 1
  | width + 1 => 256 * capacity width

@[simp] theorem length_encode (width number : Nat) : (encode width number).length = width := by
  induction width generalizing number with
  | zero => rfl
  | succ width ih => simp [encode, ih]

theorem decode_lt (bytes : List UInt8) : decode bytes < capacity bytes.length := by
  induction bytes with
  | nil => exact Nat.zero_lt_one
  | cons byte rest ih =>
    have := byte.toNat_lt
    simp only [decode, capacity, List.length_cons]
    omega

theorem decode_encode (width number : Nat) :
    decode (encode width number) = number % capacity width := by
  induction width generalizing number with
  | zero => exact (Nat.mod_one number).symm
  | succ width ih =>
    simp only [encode, decode, capacity, ih, UInt8.toNat_ofNat']
    exact Nat.mod_mul.symm

theorem decode_encode_of_lt {width number : Nat} (h : number < capacity width) :
    decode (encode width number) = number := by
  rw [decode_encode, Nat.mod_eq_of_lt h]

theorem encode_decode (bytes : List UInt8) : encode bytes.length (decode bytes) = bytes := by
  induction bytes with
  | nil => rfl
  | cons byte rest ih =>
    have bound := byte.toNat_lt
    have lowest : UInt8.ofNat (byte.toNat + 256 * decode rest) = byte := by
      apply UInt8.toNat_inj.mp
      simp only [UInt8.toNat_ofNat']
      omega
    have higher : (byte.toNat + 256 * decode rest) / 256 = decode rest := by omega
    simp only [List.length_cons, decode, encode, lowest, higher, ih]

end LogRecord.LittleEndian
