import AndroidTether.ProtoRndis
import AndroidTether.DhcpExchange
import AndroidTether.HostNet
import AndroidTether.IpcCommands
import AndroidTether.DhcpInspect
import AndroidTether.MainLoops
import AndroidTether.WatchState
import AndroidTether.Bridge
import AndroidTether.RxPath
import AndroidTether.RndisControl
import AndroidTether.SessionAddrs
import AndroidTether.IpcSend
import AndroidTether.IpcTable
import AndroidTether.UiClient
import AndroidTether.GatewayMac
import AndroidTether.UsbSearch
import AndroidTether.RndisData
import AndroidTether.Builders
import AndroidTether.DhcpServer
import AndroidTether.UsbPartner
import AndroidTether.UsbEndpoints
import AndroidTether.UsbBalance
import AndroidTether.ConfigLines
import AndroidTether.TxPath
import AndroidTether.Broadcasts
import AndroidTether.Shutdown
import AndroidTether.RndisSession
import AndroidTether.HostRuns
import AndroidTether.MenuApp
import AndroidTether.MenuFollows
import AndroidTether.RunSession
import AndroidTether.SessionStats
import AndroidTether.RxBridge
import AndroidTether.ArpTraffic
