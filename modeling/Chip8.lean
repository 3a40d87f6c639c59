import Chip8.Main
import Chip8.Proofs.Cycle
import Chip8.Proofs.Run
import Chip8.Proofs.Diagnosis
import Chip8.Proofs.Frames
import Chip8.Proofs.KeyWait
import Chip8.Proofs.SessionFrame
import Chip8.Proofs.Agreement
import Chip8.Proofs.Calls
import Chip8.Proofs.Drawing
import Chip8.Proofs.Ticks
import Chip8.Proofs.Waiting
import Chip8.Proofs.Retrying
import Chip8.Proofs.Turns
import Chip8.Proofs.Playing
import Chip8.Proofs.Windows
import Chip8.Proofs.Observation
import Chip8.Proofs.RandomDraws
import Chip8.Proofs.Timekeeping
import Chip8.Proofs.Commuting
import Chip8.Proofs.Ownership
import Chip8.Proofs.Tracing
import Chip8.Proofs.TickedFrames
import Chip8.Proofs.Reporting
import Chip8.Proofs.Assembly
import Chip8.Proofs.Disassembly
import Chip8.Proofs.OpcodeTables
import Chip8.Proofs.BlockTransfer
import Chip8.Proofs.DrawingOrder
import Chip8.Proofs.ByteArithmetic
import Chip8.Proofs.Successor
import Chip8.Proofs.Alignment
import Chip8.Proofs.EndOfMemory
import Chip8.Proofs.Loading
import Chip8.Proofs.ProgressBar
import Chip8.Proofs.Rendering
import Chip8.Proofs.HeldKeys
import Chip8.Proofs.FaultMessages
import Chip8.Proofs.Journals
