import FbossBsp.I2cPages
import FbossBsp.Interaction.Interleaving
import FbossBsp.I2cFraming
import FbossBsp.I2cCompletion
import FbossBsp.RegbitStores
import FbossBsp.AuxAddress
import FbossBsp.Interaction.Calls
import FbossBsp.MdioBus
import FbossBsp.MdioController
import FbossBsp.MdioPosted
import FbossBsp.FanDriver
import FbossBsp.FanCpld
import FbossBsp.FanReplacement
import FbossBsp.FanWatchdog
import FbossBsp.CpldTable
import FbossBsp.CpldDirectory
import FbossBsp.I2cSuccess
import FbossBsp.SpiMaster
import FbossBsp.FanConfigure
import FbossBsp.SpiChipSelect
import FbossBsp.SpiJournal
import FbossBsp.RegbitHandlers
import FbossBsp.RegbitVariables
import FbossBsp.CpldHandlers
import FbossBsp.CpldHistory
import FbossBsp.AuxBus
import FbossBsp.MdioHandshake
import FbossBsp.Interaction.History
import FbossBsp.MdioReset
import FbossBsp.MdioExclusion
import FbossBsp.Gpio
import FbossBsp.Interaction.Selector
import FbossBsp.PanelLeds
import FbossBsp.PortLeds
import FbossBsp.FanLeds
import FbossBsp.SmbTemperature
import FbossBsp.FanFailures
import FbossBsp.RackWatchdog
import FbossBsp.I2cBuffers
import FbossBsp.I2cPayload
import FbossBsp.I2cReassembly
import FbossBsp.I2cBlockRead
import FbossBsp.FanModes
import FbossBsp.AuxNames
import FbossBsp.CpldStrings
import FbossBsp.Interaction.CString
import FbossBsp.CpldVerdict
import FbossBsp.SmbThreshold
import FbossBsp.MdioIoctl
import FbossBsp.MdioResidue
import FbossBsp.SpiChunking
import FbossBsp.SpiFailures
import FbossBsp.FanRanges
import FbossBsp.RegbitNegate
import FbossBsp.RegbitCheck
import FbossBsp.RegbitInit
import FbossBsp.Tps1689
import FbossBsp.SpiTiming
import FbossBsp.Mspm0
import FbossBsp.BulkCopy
import FbossBsp.Interaction.Locked
import FbossBsp.PortLedSharing
import FbossBsp.FanSharing
import FbossBsp.MdioSharing
import FbossBsp.Interaction.Protocol
import FbossBsp.I2cProtocol
import FbossBsp.SpiProtocol
import FbossBsp.I2cClock
import FbossBsp.Interaction.Separation
import FbossBsp.AuxProbe
import FbossBsp.FpgaTasks
import FbossBsp.FpgaIsolation
import FbossBsp.Interaction.Atomic
import FbossBsp.CpldSharing
import FbossBsp.MdioMemory
import FbossBsp.PanelBringUp
import FbossBsp.PanelLamps
import FbossBsp.PanelSharing
