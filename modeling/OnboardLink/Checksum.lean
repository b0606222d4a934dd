import OnboardLink.Octets

/-! The 16-bit cyclic redundancy check with generator `x^16 + x^12 + x^5 + 1`, most significant bit
first, without reflection and without a final complement. The register takes a whole octet in one
step through a table of the 256 remainders of single octets. -/
namespace OnboardLink.Checksum

def generator : UInt16 := 0x1021

def initial : UInt16 := 0xFFFF

/-- Moves the register one place up. A one that leaves it takes the generator with it. -/
def shift (register : UInt16) : UInt16 :=
  if register &&& 0x8000 ≠ 0 then (register <<< 1) ^^^ generator else register <<< 1

def shifts : Nat → UInt16 → UInt16
  | 0, register => register
  | places + 1, register => shifts places (shift register)

/-- For each octet the register it leaves when it is shifted through on its own. -/
def table : Vector UInt16 256 := Vector.ofFn fun octet => shifts 8 (octet.val.toUInt16 <<< 8)

def step (register : UInt16) (octet : UInt8) : UInt16 :=
  (register <<< 8) ^^^ table.get ((register >>> 8).toUInt8 ^^^ octet).toFin

def absorb (register : UInt16) (octets : Octets) : UInt16 := octets.foldl step register

def of (octets : Octets) : UInt16 := absorb initial octets

theorem get_table (octet : UInt8) : table.get octet.toFin = shifts 8 (octet.toUInt16 <<< 8) := by
  rw [← UInt16.ofNat_uInt8ToNat]
  exact Vector.getElem_ofFn octet.toFin.isLt

@[simp] theorem absorb_nil (register : UInt16) : absorb register [] = register := rfl

/-- The register passes from one string to the next, so a checksum can be taken piece by piece. -/
theorem absorb_append (register : UInt16) (front back : Octets) :
    absorb register (front ++ back) = absorb (absorb register front) back := by
  simp [absorb]

structure Digest where
  register : UInt16 := initial
  deriving DecidableEq, Repr

def Digest.absorb (digest : Digest) (piece : Octets) : Digest :=
  ⟨Checksum.absorb digest.register piece⟩

end OnboardLink.Checksum
