import AAAos.Apps.ControlSequences
import AAAos.Apps.EditorFiles
import AAAos.Apps.EditorKeys
import AAAos.Drivers.Input.KeyEvents
import AAAos.Drivers.Network.TransmitRing
import AAAos.Drivers.Storage.Ahci
import AAAos.Fs.Fat32.Durability
import AAAos.Fs.Fat32.Geometry
import AAAos.Fs.Fat32.ReadBounds
import AAAos.Fs.Vfs.Access
import AAAos.Fs.Vfs.ExclusiveOpen
import AAAos.Fs.Vfs.HandleLifetime
import AAAos.Fs.Vfs.Normalize
import AAAos.Fs.Vfs.ParentPath
import AAAos.Gui.TextBox
import AAAos.Gui.WindowStack
import AAAos.Kernel.Ipc.MessageClients
import AAAos.Kernel.Ipc.Waiters
import AAAos.Kernel.Mm.HeapLargeEnough
import AAAos.Kernel.Mm.HeapStats
import AAAos.Kernel.Mm.HeapValidate
import AAAos.Kernel.Mm.PmmFirstFit
import AAAos.Kernel.Mm.PmmMap
import AAAos.Kernel.Mm.VmmRanges
import AAAos.Kernel.Mm.VmmSpaces
import AAAos.Kernel.Proc.ElfReads
import AAAos.Kernel.Sched.CurrentProcess
import AAAos.Kernel.Sched.QueueRing
import AAAos.Kernel.Sched.ReadyQueue
import AAAos.Libc.Strings
import AAAos.Net.Arp.Freshness
import AAAos.Net.Dhcp.Options
import AAAos.Net.Dns.NameMap
import AAAos.Net.Dns.Response
import AAAos.Net.EphemeralPorts
import AAAos.Net.Ip.Packets
import AAAos.Net.Socket.ControlBlocks
import AAAos.Net.Socket.Descriptors
import AAAos.Net.Socket.Peek
import AAAos.Net.Tcp.EndToEnd
import AAAos.Net.Tcp.Handshake
import AAAos.Net.Tcp.ReceiveWindow
import AAAos.Net.Tcp.SendWindow
import AAAos.Security.Auth.HashFormat
import AAAos.Security.Auth.Membership
import AAAos.Security.Auth.Sessions
import AAAos.Security.Crypto.Sha256
