set_option autoImplicit false

/-! # Powers of whole numbers

Whatever other powers are declared elsewhere, `a ^ n` is the power of the core library for whole
numbers, so that what is shown of a number holds of the number that is computed. -/

namespace EntityStore

universe u

/-- The power of the core library comes before others. -/
@[default_instance 20000]
instance (priority := high) corePower {α : Type u} [NatPow α] : Pow α Nat := instPowNat

end EntityStore
