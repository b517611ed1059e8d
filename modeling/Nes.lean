import Nes.Apu
import Nes.Apu.Dmc
import Nes.Apu.Envelope
import Nes.Apu.FrameSequencer
import Nes.Apu.LengthCounter
import Nes.Apu.Mixer
import Nes.Apu.Noise
import Nes.Apu.Pulse
import Nes.Apu.Resampler
import Nes.Apu.Timer
import Nes.Apu.Triangle
import Nes.Binary64
import Nes.Bus
import Nes.Cartridge
import Nes.Cartridge.Error
import Nes.Cartridge.Image
import Nes.CommandLine
import Nes.Config
import Nes.Console
import Nes.Controller
import Nes.Cpu
import Nes.Cpu.Action
import Nes.Cpu.Arithmetic
import Nes.Cpu.Instruction
import Nes.Cpu.Opcode
import Nes.Cpu.Operand
import Nes.Cpu.Registers
import Nes.Cpu.Status
import Nes.FlatMemory
import Nes.Hex
import Nes.Main
import Nes.Mirroring
import Nes.Ppu
import Nes.Ppu.Background
import Nes.Ppu.Frame
import Nes.Ppu.Nametable
import Nes.Ppu.Palette
import Nes.Ppu.Picture
import Nes.Ppu.ScrollLatch
import Nes.Ppu.Sprite
import Nes.Ppu.Tile
import Nes.Proofs.Apu.Bounds
import Nes.Proofs.Apu.CheckedArithmetic
import Nes.Proofs.Apu.FrameClocks
import Nes.Proofs.Apu.FrameSchedule
import Nes.Proofs.Apu.InterruptLine
import Nes.Proofs.Apu.Operations
import Nes.Proofs.Bus.CheckedAccess
import Nes.Proofs.Bus.Mirrors
import Nes.Proofs.Bus.ObjectCopy
import Nes.Proofs.Bus.OpenBus
import Nes.Proofs.Bus.OutputRate
import Nes.Proofs.Bus.Pictures
import Nes.Proofs.Bus.Rejection
import Nes.Proofs.Bus.StatusReads
import Nes.Proofs.Cartridge.AddressMap
import Nes.Proofs.Cartridge.ImageLayout
import Nes.Proofs.Cartridge.Offers
import Nes.Proofs.Checked
import Nes.Proofs.Console.Blanking
import Nes.Proofs.Console.Faults
import Nes.Proofs.Console.FrameCycles
import Nes.Proofs.Console.InterruptDelay
import Nes.Proofs.Console.Jam
import Nes.Proofs.Console.Moments
import Nes.Proofs.Console.PowerCycle
import Nes.Proofs.Console.SingleStep
import Nes.Proofs.Console.Slice
import Nes.Proofs.Console.SoundOutput
import Nes.Proofs.Console.Steady
import Nes.Proofs.Console.Timeline
import Nes.Proofs.Controller.ShiftProtocol
import Nes.Proofs.Cpu.Accesses
import Nes.Proofs.Cpu.Cycles
import Nes.Proofs.Cpu.DeviceMap
import Nes.Proofs.Cpu.EntryPoints
import Nes.Proofs.Cpu.InterruptReturn
import Nes.Proofs.Cpu.Undocumented
import Nes.Proofs.Memory
import Nes.Proofs.Ppu.BackgroundPicture
import Nes.Proofs.Ppu.Canvas
import Nes.Proofs.Ppu.CheckedDrawing
import Nes.Proofs.Ppu.Colors
import Nes.Proofs.Ppu.Composition
import Nes.Proofs.Ppu.Painting
import Nes.Proofs.Ppu.SpriteOverlap
import Nes.Proofs.Video.Aliasing
import Nes.Proofs.Video.CheckedAccess
import Nes.Proofs.Video.PlainBackground
import Nes.Proofs.Video.ScrollFields
import Nes.Proofs.Video.TileCache
import Nes.Ram
import Nes.Trace
import Nes.Transaction
import Nes.Video
import Nes.Word
import Nes.WorkRam
import Nes.Proofs.Cpu.BreakBit
import Nes.Proofs.Cpu.DecimalFlag
import Nes.Proofs.Apu.ChannelIsolation
import Nes.Proofs.Cpu.DataAccesses
import Nes.Proofs.Cpu.MultiByte
import Nes.Proofs.Cpu.Effects
import Nes.Proofs.Video.DataPort
import Nes.Proofs.Apu.Timers
import Nes.Proofs.Apu.SampleDrain
import Nes.Proofs.Apu.SampleStart
import Nes.Proofs.Apu.SweepRun
import Nes.Proofs.Apu.DisabledChannels
import Nes.Proofs.Apu.EnvelopeDecay
import Nes.Proofs.Apu.Pitch
import Nes.Proofs.Cpu.Stack
import Nes.Proofs.Bus.StackTraffic
