import Chip8.Instruction.Encoding

/-!
# Faults

The ways in which an instruction can fail. A well-formed program never meets one, so each is final
for a run.
-/

namespace Chip8

/-- Why an instruction could not be carried out. -/
inductive Fault where
  /-- No instruction pattern fits the fetched word. -/
  | unknownOpcode (word : UInt16)
  /-- A fetch, or the access of an instruction, would leave memory at this place first. -/
  | outOfBounds (place : Nat)
  /-- A call with sixteen calls open. -/
  | stackOverflow (target : Address)
  /-- A return with no call open. -/
  | stackUnderflow
  deriving DecidableEq, Repr

/-- The fault in words. -/
def Fault.message : Fault → String
  | .unknownOpcode word => (DecodeError.unknownOpcode word).message
  | .outOfBounds place => "Address 0x" ++ Text.hex 4 place ++ " is out of bounds"
  | .stackOverflow target => "Stack overflow calling 0x" ++ Text.hex 3 target
  | .stackUnderflow => "Return with empty call stack"

end Chip8
