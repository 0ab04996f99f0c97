import TrustedFirmware.CTypes
import TrustedFirmware.ContextMgmt.Defs
import TrustedFirmware.ContextMgmt.Run
import TrustedFirmware.ContextMgmt.Frame
import TrustedFirmware.ContextMgmt.Store
import TrustedFirmware.ContextMgmt.Interleave
import TrustedFirmware.ContextMgmt.WorldSwitch
import TrustedFirmware.Psci.Defs
import TrustedFirmware.Psci.Spec
import TrustedFirmware.Psci.Walks
import TrustedFirmware.Psci.Smc32
import TrustedFirmware.Io.Semihosting
import TrustedFirmware.Io.Session
import TrustedFirmware.Psci.Results
import TrustedFirmware.Psci.Release
