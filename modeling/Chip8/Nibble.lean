/-!
Numbers of four bits. They name the registers, the keys and the slots of the call stack.
-/

namespace Chip8

/-- The instance that all literals of four bits go through. -/
instance (priority := high) nibbleNeZero : @NeZero Nat Zero.ofOfNat0 16 := ⟨by decide⟩

/-- The register a nibble names. -/
abbrev Register := Fin 16

abbrev Keypad.Key := Fin 16

end Chip8
