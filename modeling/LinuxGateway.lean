import LinuxGateway.LibRuns
import LinuxGateway.LibBytes
import LinuxGateway.LibLayout
import LinuxGateway.LibRegistry
import LinuxGateway.LibFraming
import LinuxGateway.LibDecimal
import LinuxGateway.LibRegisters
import LinuxGateway.LibScript
import LinuxGateway.LibChannel
import LinuxGateway.LibKeyed
import LinuxGateway.LibHandshake
import LinuxGateway.DataRecord
import LinuxGateway.Mqtt
import LinuxGateway.JsonC
import LinuxGateway.TcpServer
import LinuxGateway.TcpServerTable
import LinuxGateway.TcpServerRecords
import LinuxGateway.TcpServerBounds
import LinuxGateway.TcpServerEvents
import LinuxGateway.TcpServerStrings
import LinuxGateway.EspRecord
import LinuxGateway.WifiProvision
import LinuxGateway.LoraReceive
import LinuxGateway.LoraRecord
import LinuxGateway.LoraDriver
import LinuxGateway.LoraSettings
import LinuxGateway.LoraModem
import LinuxGateway.LoraReception
import LinuxGateway.Uplinks
import LinuxGateway.NrfNode
import LinuxGateway.RfDriver
import LinuxGateway.RfSettings
import LinuxGateway.RfLink
import LinuxGateway.RfUplink
import LinuxGateway.UartStream
import LinuxGateway.UartLine
import LinuxGateway.RadioScheduler
import LinuxGateway.RadioSlots
import LinuxGateway.LoraSlots
import LinuxGateway.RadioDelivery
import LinuxGateway.SpiNode
import LinuxGateway.SpiCommands
import LinuxGateway.SpiAssembler
import LinuxGateway.SpiLink
import LinuxGateway.SpiStreams
import LinuxGateway.SpiWatchdog
import LinuxGateway.I2cNode
import LinuxGateway.I2cLink
import LinuxGateway.I2cBounds
import LinuxGateway.I2cScan
import LinuxGateway.I2cPresence
import LinuxGateway.WebServer
import LinuxGateway.PahoPacket
import LinuxGateway.PahoSocket
import LinuxGateway.PahoStreams
import LinuxGateway.PahoWrites
import LinuxGateway.PahoUtf8
import LinuxGateway.PahoClient
import LinuxGateway.PahoExchange
import LinuxGateway.PahoQueue
import LinuxGateway.PahoLine
