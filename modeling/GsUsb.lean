import GsUsb.Driver.Balance
import GsUsb.Driver.Bittiming
import GsUsb.Driver.BittimingSearch
import GsUsb.Driver.BrpSweep
import GsUsb.Driver.CanId
import GsUsb.Driver.Concurrent
import GsUsb.Driver.Control
import GsUsb.Driver.Device
import GsUsb.Driver.ExactBitrate
import GsUsb.Driver.FailedStart
import GsUsb.Driver.FaithfulProbe
import GsUsb.Driver.Lifecycle
import GsUsb.Driver.Loopback
import GsUsb.Driver.ModeCommands
import GsUsb.Driver.Open
import GsUsb.Driver.OpenTrace
import GsUsb.Driver.Proto
import GsUsb.Driver.ReaderDeath
import GsUsb.Driver.ReaderThread
import GsUsb.Driver.RecvWait
import GsUsb.Driver.RxPacket
import GsUsb.Driver.RxQueue
import GsUsb.Driver.Send
import GsUsb.Driver.Settings
import GsUsb.Driver.StartWindow
import GsUsb.Driver.Traffic
import GsUsb.Driver.TsegSplit
import GsUsb.Lua.Binding
import GsUsb.Lua.Bit
import GsUsb.Lua.BusObject
import GsUsb.Lua.Dispatch
import GsUsb.Lua.Effects
import GsUsb.Lua.Frame
import GsUsb.Lua.Lifetime
import GsUsb.Lua.Log
import GsUsb.Lua.Marshal
import GsUsb.Lua.Print
import GsUsb.Lua.React
import GsUsb.Lua.RpmMonitor
import GsUsb.Lua.Sleep
import GsUsb.Math.BitField
import GsUsb.Math.Divider
import GsUsb.Math.DropOldest
import GsUsb.Math.Hex
import GsUsb.Math.Ledger
import GsUsb.Math.Lifetime
import GsUsb.Math.LittleEndian
import GsUsb.Math.LiveLoop
import GsUsb.Math.Printf
import GsUsb.Math.Rounding
import GsUsb.Math.Run
import GsUsb.Math.RunningBest
import GsUsb.Math.Traced
import GsUsb.Math.Window
import GsUsb.Math.Word
import GsUsb.Python.Bus
import GsUsb.Python.Frame
import GsUsb.Python.Listener
import GsUsb.Python.LoopedBus
import GsUsb.Python.NativeBus
import GsUsb.Python.OpenDevice
import GsUsb.Python.Pipeline
import GsUsb.Python.Print
import GsUsb.Python.PythonCan
import GsUsb.Python.React
import GsUsb.Python.RpmMonitor
import GsUsb.Python.SendPaths
import GsUsb.Python.Setup
import GsUsb.Python.SetupPaths
import GsUsb.Python.SoleConsumer
import GsUsb.Tools.Discovery
import GsUsb.Tools.Dump
import GsUsb.Tools.Libc
import GsUsb.Tools.ParseFrame
import GsUsb.Tools.React
import GsUsb.Tools.SendAndDump
import GsUsb.Tools.Transmit
