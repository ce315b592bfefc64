import Chip8.FileTree.Usual
import Chip8.Instruction.Encode
import Chip8.Main
import Chip8.Proofs.Guarded.Safety
import Chip8.Proofs.Fault
import Chip8.Proofs.FrameContract
import Chip8.Proofs.Breakpoint
import Chip8.Proofs.Playing
import Chip8.Proofs.Unshown
import Chip8.Proofs.Stepping
import Chip8.Proofs.Display
import Chip8.Proofs.Calls
import Chip8.Proofs.Sprites
import Chip8.Proofs.Loading
import Chip8.Proofs.ProgramImage
import Chip8.Proofs.EarlyStop
import Chip8.Proofs.Usage
import Chip8.Proofs.KeyWait
import Chip8.Proofs.DeadState
import Chip8.Proofs.Dialects
import Chip8.Proofs.HeldKeys
import Chip8.Proofs.Footprint
import Chip8.Proofs.Arithmetic
import Chip8.Proofs.FreshStart
import Chip8.Proofs.SingleSteps
import Chip8.Proofs.Collision
import Chip8.Proofs.Redrawing
import Chip8.Proofs.BlockTransfer
import Chip8.Proofs.Stutter
import Chip8.Proofs.ProgramSpace
import Chip8.Proofs.Assembly
import Chip8.Proofs.ListedWords
import Chip8.Proofs.Tracing
import Chip8.Proofs.Wrapping
import Chip8.Proofs.KeySet
import Chip8.Proofs.Rendering
import Chip8.Proofs.Pumping
import Chip8.Proofs.Numeral
