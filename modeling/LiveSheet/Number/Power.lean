namespace LiveSheet.Number

/-! Powers of the two bases that numbers are written in.  A negative power
counts as zero, so that any power is the one over the other: `tenTo power`
over `tenTo (-power)`. -/

def twoTo (power : Int) : Nat :=
  Nat.pow 2 power.toNat

def tenTo (power : Int) : Nat :=
  Nat.pow 10 power.toNat

theorem twoTo_pos (power : Int) : 0 < twoTo power :=
  Nat.pow_pos (by decide)

theorem tenTo_pos (power : Int) : 0 < tenTo power :=
  Nat.pow_pos (by decide)

end LiveSheet.Number
