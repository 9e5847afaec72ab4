import Chip8.Main
import Chip8.Pacing.Deadline
import Chip8.Pacing.Worker
import Chip8.Proofs.CallStack
import Chip8.Proofs.Instruction.Patterns
import Chip8.Proofs.Instruction.Assembly
import Chip8.Proofs.Screen
import Chip8.Proofs.Processor.Faults
import Chip8.Proofs.Processor.StrictAccess
import Chip8.Proofs.Processor.Effect
import Chip8.Proofs.Processor.Run
import Chip8.Proofs.Processor.OpenCalls
import Chip8.Proofs.Processor.CounterBound
import Chip8.Proofs.Processor.Drawing
import Chip8.Proofs.Machine.Engine
import Chip8.Proofs.Machine.Halt
import Chip8.Proofs.Machine.Interleaving
import Chip8.Proofs.Machine.Work
import Chip8.Proofs.Machine.Renewal
import Chip8.Proofs.Machine.Frames
import Chip8.Proofs.Machine.Observers
import Chip8.Proofs.Machine.Lifecycle
import Chip8.Proofs.Machine.RandomBytes
import Chip8.Proofs.Window.Modes
import Chip8.Proofs.Processor.CallReturn
import Chip8.Proofs.Processor.Footprint
import Chip8.Proofs.Processor.IndexSum
import Chip8.Proofs.Processor.KeyWait
import Chip8.Proofs.Machine.TickSchedule
import Chip8.Proofs.Processor.Sprites
import Chip8.Proofs.Window.HeldKeys
import Chip8.Proofs.Machine.ProgramEnd
import Chip8.Proofs.Processor.RegisterTransfer
import Chip8.Proofs.Processor.Arithmetic
import Chip8.Proofs.Picture
import Chip8.Proofs.Pacing
