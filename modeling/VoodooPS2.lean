import VoodooPS2.Lib.Fifo
import VoodooPS2.Lib.Framing
import VoodooPS2.Lib.Overlay
import VoodooPS2.Lib.Dictionary
import VoodooPS2.Lib.Chain
import VoodooPS2.RingBuffer
import VoodooPS2.RingBufferFifo
import VoodooPS2.Device
import VoodooPS2.OSObject
import VoodooPS2.MiddleButton
import VoodooPS2.PacketRing
import VoodooPS2.PacketFraming
import VoodooPS2.Synaptics.Framing
import VoodooPS2.Synaptics.Config
import VoodooPS2.Synaptics.Pad
import VoodooPS2.Synaptics.Packet
import VoodooPS2.Synaptics.Touching
import VoodooPS2.Synaptics.Dispatch
import VoodooPS2.Synaptics.Frames
import VoodooPS2.Synaptics.Events
import VoodooPS2.Synaptics.TouchModes
import VoodooPS2.Mouse.Framing
import VoodooPS2.Mouse.Buttons
import VoodooPS2.Mouse.Led
import VoodooPS2.Mouse.Options
import VoodooPS2.RelativePackets
import VoodooPS2.Keyboard.Decoder
import VoodooPS2.Controller.Ports
import VoodooPS2.Controller.Program
import VoodooPS2.Controller.Request
import VoodooPS2.Controller.CommandByte
import VoodooPS2.Lib.Transition
import VoodooPS2.Controller.Interrupts
import VoodooPS2.Synaptics.Taps
import VoodooPS2.Synaptics.Buttons
import VoodooPS2.Synaptics.Disabling
import VoodooPS2.Synaptics.Attached
import VoodooPS2.Synaptics.DoubleTap
import VoodooPS2.Synaptics.Reenabling
import VoodooPS2.Synaptics.ExtendedW
import VoodooPS2.Synaptics.ScrollState
import VoodooPS2.Synaptics.Divisors
import VoodooPS2.Synaptics.Start
import VoodooPS2.Synaptics.ModeByte
import VoodooPS2.Synaptics.Programmed
import VoodooPS2.Synaptics.Live
import VoodooPS2.Synaptics.Timers
import VoodooPS2.Lib.Descent
import VoodooPS2.Synaptics.MomentumScroll
import VoodooPS2.Lib.Window
import VoodooPS2.Synaptics.SimpleAverage
import VoodooPS2.Lib.Ledger
import VoodooPS2.Lib.Reading
import VoodooPS2.Lib.PrefixFree
import VoodooPS2.Synaptics.Place
import VoodooPS2.Synaptics.Conservation
import VoodooPS2.Synaptics.Positions
import VoodooPS2.Synaptics.PrimaryFrame
import VoodooPS2.Lib.History
import VoodooPS2.Controller.Queue
import VoodooPS2.Controller.QueueInvariant
import VoodooPS2.Controller.QueueOrder
import VoodooPS2.Controller.Ownership
import VoodooPS2.Controller.OwnershipQueue
import VoodooPS2.Controller.OwnershipInvariant
import VoodooPS2.Controller.OwnershipLaw
import VoodooPS2.Controller.Composite
import VoodooPS2.Controller.Power
import VoodooPS2.Controller.Reset
import VoodooPS2.Controller.Translate
import VoodooPS2.Controller.Untranslated
import VoodooPS2.Controller.Configuration
import VoodooPS2.Controller.Profiles
import VoodooPS2.Controller.Links
import VoodooPS2.Controller.ConfigurationLaw
import VoodooPS2.Keyboard.Dispatch
import VoodooPS2.Keyboard.PressRelease
import VoodooPS2.Keyboard.StuckKeys
import VoodooPS2.Keyboard.Delivered
import VoodooPS2.Keyboard.ADBOptions
import VoodooPS2.Keyboard.Macros
import VoodooPS2.Keyboard.FunctionKeys
import VoodooPS2.Keyboard.Remap
import VoodooPS2.Keyboard.Actions
import VoodooPS2.Keyboard.RemapEffect
import VoodooPS2.Keyboard.MacroHistory
import VoodooPS2.Keyboard.Wake
import VoodooPS2.Keyboard.MacroMatch
import VoodooPS2.Lib.Delimited
import VoodooPS2.Alps.Framing
import VoodooPS2.Alps.Absolute
import VoodooPS2.Sentelic.Registers
import VoodooPS2.Sentelic.PacketSize
import VoodooPS2.Lib.Dialogue
import VoodooPS2.Controller.Live
import VoodooPS2.Controller.Converse
import VoodooPS2.PointingDevice
import VoodooPS2.TouchpadCommands
import VoodooPS2.TouchpadFaults
import VoodooPS2.Controller.Installed
import VoodooPS2.Controller.Lines
import VoodooPS2.Mouse.Commands
import VoodooPS2.Mouse.Negotiation
import VoodooPS2.Mouse.Live
import VoodooPS2.Keyboard.Live
import VoodooPS2.Sentelic.Live
import VoodooPS2.Probing
