import TzDriver.Platform
import TzDriver.Types
import TzDriver.Lib.Runs
import TzDriver.Lib.Dyadic
import TzDriver.Lib.Coalesced
import TzDriver.Lib.Ledger
import TzDriver.Lib.ListWalk
import TzDriver.Lib.Words
import TzDriver.Lib.Blocks
import TzDriver.Mailbox.Mempool
import TzDriver.Mailbox.Consistent
import TzDriver.Mailbox.Partition
import TzDriver.Mailbox.StrayFree
import TzDriver.Mailbox.Canonical
import TzDriver.Reserved.Mempool
import TzDriver.Reserved.Lockstep
import TzDriver.Reserved.StrayFree
import TzDriver.Client.Operation
import TzDriver.Client.KernelOperation
import TzDriver.Client.KernelEncode
import TzDriver.Client.Call
import TzDriver.Client.CopyOut
import TzDriver.Client.Balance
import TzDriver.Client.Trace
import TzDriver.Client.KernelDecode
import TzDriver.Client.CopyBack
import TzDriver.Client.SessionId
import TzDriver.Session.Tables
import TzDriver.Session.Threads
import TzDriver.Session.Book
import TzDriver.Session.ServiceMoves
import TzDriver.Session.Lifetime
import TzDriver.Session.LoginInfo
import TzDriver.Session.LoadImage
import TzDriver.Session.Framing
import TzDriver.Session.Ioctl
import TzDriver.Session.SessionKeys
import TzDriver.Session.Settled
import TzDriver.Session.Agreement
import TzDriver.Session.Pointers
import TzDriver.Smc.Queue
import TzDriver.Smc.SendFunc
import TzDriver.Smc.Release
import TzDriver.Smc.BufLock
import TzDriver.Smc.Timeout
import TzDriver.Smc.Schedule
import TzDriver.Login.Fields
import TzDriver.Login.Threads
import TzDriver.Login.Once
import TzDriver.Login.Hash
import TzDriver.LiteOs.LoadImage
import TzDriver.LiteOs.Login
import TzDriver.Agent.Node
import TzDriver.Agent.Register
import TzDriver.Agent.Close
import TzDriver.Agent.Threads
import TzDriver.Agent.References
import TzDriver.Agent.UniqueIds
import TzDriver.LiteOs.Agent
import TzDriver.LiteOs.SendFunc
import TzDriver.LiteOs.Close
import TzDriver.LiteOs.Call
import TzDriver.LiteOs.Ioctl
import TzDriver.LiteOs.Reported
import TzDriver.SharedMem.Mmap
import TzDriver.SharedMem.Settled
import TzDriver.SharedMem.Lifetime
import TzDriver.Lib.Walks
import TzDriver.Tlogger.Items
import TzDriver.Tlogger.Archive
import TzDriver.Tlogger.ArchiveSafe
import TzDriver.Tlogger.Layout
import TzDriver.Tlogger.LogPool
import TzDriver.Tlogger.PoolAppend
import TzDriver.Tlogger.Read
import TzDriver.Tlogger.Stream
import TzDriver.Tlogger.Linear
import TzDriver.Tlogger.Scan
import TzDriver.Agent.Handshake
import TzDriver.Agent.Answers
import TzDriver.Agent.LostRequest
import TzDriver.Session.SlotUuids
import TzDriver.Session.Points
import TzDriver.Session.UniqueIds
import TzDriver.Session.Reboot
import TzDriver.Spi.Notify
import TzDriver.Spi.Timer
import TzDriver.Spi.Pending
import TzDriver.Spi.Wake
import TzDriver.Monitor.CmdMonitor
import TzDriver.Rpmb.Driver
import TzDriver.Rpmb.Lock
import TzDriver.Tui.Memory
import TzDriver.Auth.TaskHash
import TzDriver.Auth.Uname
import TzDriver.Login.HashInput
import TzDriver.Rpmb.Pointers
import TzDriver.Client.SharedPages
import TzDriver.Login.Decode
import TzDriver.Lib.Orders
import TzDriver.LiteOs.MailboxOrder
import TzDriver.LiteOs.CpuAffinity
import TzDriver.Reserved.Sizing
import TzDriver.Monitor.Shutdown
import TzDriver.Smc.SiqServed
import TzDriver.Smc.SiqEnd
import TzDriver.Power.Hibernate
import TzDriver.Lib.SafeWalk
import TzDriver.Ion.Dynamic
import TzDriver.Tui.Drivers
import TzDriver.Tui.Returned
import TzDriver.Tui.DriverNames
import TzDriver.Smc.Shadow
import TzDriver.Smc.ShadowWake
import TzDriver.Tlogger.Dump
import TzDriver.Agent.Access
import TzDriver.Lib.Bitmap
import TzDriver.Client.DevFiles
import TzDriver.Lib.Progress
import TzDriver.Agent.Stop
import TzDriver.Tlogger.Wake
import TzDriver.Tui.Messages
