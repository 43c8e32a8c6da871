import Spsw.Interaction.Method
import Spsw.Interaction.Guarded
import Spsw.Interaction.Stateful
import Spsw.Sorting.Comparator
import Spsw.Escaping.Introducer
import Spsw.Flags.Word
import Spsw.Api.ByteBuffer
import Spsw.Api.Exceptions
import Spsw.Api.Settings
import Spsw.Api.PortnamesComparator
import Spsw.Api.PortnamesRuns
import Spsw.Api.PortnamesOrder
import Spsw.Jnhw.System
import Spsw.Jnhw.Socket
import Spsw.Jnhw.Write
import Spsw.Jnhw.Writers
import Spsw.Jnhw.Read
import Spsw.Jnhw.ReadObserved
import Spsw.Jnhw.ReadBuffer
import Spsw.Jnhw.ReadSingle
import Spsw.Jnhw.InputStream
import Spsw.Jnhw.ReadSession
import Spsw.Jnhw.Async
import Spsw.Jnhw.AsyncTransfer
import Spsw.Jnhw.AsyncPermits
import Spsw.Jnhw.AsyncForms
import Spsw.Jnhw.Termios
import Spsw.Jnhw.PosixConfiguration
import Spsw.Jnhw.Alterations
import Spsw.Jnhw.SetParams
import Spsw.Jnhw.ControlChars
import Spsw.Jnhw.SeparateSpeeds
import Spsw.Jni.Write
import Spsw.Jni.BitSet
import Spsw.Jni.TermiosSettings
import Spsw.Jni.SeparateSpeeds
import Spsw.Api.PortSettings
import Spsw.Interaction.Lockstep
import Spsw.Jnhw.GenericWinSerialPortSocket
import Spsw.Jnhw.WinSetParams
import Spsw.Jnhw.SettingsMachine
import Spsw.Interaction.Oracle
import Spsw.Jnhw.RawMode
import Spsw.Jni.TermiosCommon
import Spsw.Jni.SameTermios
import Spsw.Jni.SameReadings
import Spsw.Jnhw.Devices
import Spsw.Jnhw.AsyncClose
import Spsw.Interaction.Total
import Spsw.Jni.OutputStream
import Spsw.Jni.WriteCalls
import Spsw.Interaction.Interleaved
import Spsw.Jni.ClosingPort
import Spsw.Jni.WriteClosed
import Spsw.Jni.LostWakeup
import Spsw.Interaction.Answered
import Spsw.Jnhw.PosixSerialPortSocket
import Spsw.Jnhw.StoppedCalls
import Spsw.Jnhw.CloseProtocol
import Spsw.Jnhw.SocketOperations
import Spsw.Resources.Ledger
import Spsw.Jnhw.DescriptorAccounting
import Spsw.Api.SerialPortSocket
import Spsw.Logging.LogWriter
import Spsw.Logging.AsciiLog
import Spsw.Logging.LoggingSerialPortSocket
import Spsw.Logging.Transparent
import Spsw.Logging.Sessions
import Spsw.Api.PortnamesDistinct
import Spsw.Interaction.Matching
import Spsw.Jnhw.Deadline
import Spsw.Jnhw.TimedWaits
import Spsw.Jni.DeadlineOverflow
import Spsw.Jni.TermiosCalls
import Spsw.Jnhw.WriteProgress
import Spsw.Jni.WriteProgress
import Spsw.Jni.InputStream
import Spsw.Jni.ReadDelivered
import Spsw.Jni.StopsOnceRaised
import Spsw.Jni.EndOfStream
import Spsw.Api.PortnamesNumeric
import Spsw.Api.PortnamesSort
import Spsw.Jni.SerialPortSocketFactory
import Spsw.Loops.Collecting
import Spsw.Jni.PortListings
import Spsw.Jni.PortListingsAgree
import Spsw.Mock.HexPayloads
import Spsw.Mock.SerialPortSocket
import Spsw.Jni.WindowsPortNames
import Spsw.Mock.Conversation
import Spsw.Interaction.Counted
import Spsw.Jni.SendBreak
import Spsw.Jni.SameDCB
import Spsw.Jni.WinSettingsMachine
import Spsw.Jni.WinTimeouts
import Spsw.Jni.Handles
import Spsw.Jni.HandleLaws
import Spsw.Jni.HandleAccounting
import Spsw.Jni.HandleLives
import Spsw.Jni.HandleReports
import Spsw.Jni.TermiosSettingsMachine
import Spsw.Jnhw.OverlappedReports
import Spsw.Interaction.Embedding
import Spsw.Jni.TermiosDescriptors
import Spsw.Jni.TermiosLives
import Spsw.Jni.TermiosOpened
