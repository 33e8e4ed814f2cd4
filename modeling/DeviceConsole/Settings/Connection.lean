import DeviceConsole.Console
import DeviceConsole.Settings.Basic

/-! From a profile to a connection. -/
namespace DeviceConsole.Profile

/-- A certificate file counts only where certificates are checked. -/
def tls (p : Profile) (d : Defaults) : TlsVerification :=
  if p.insecure.getD d.insecure then .acceptInvalid
  else match p.caCert with
    | some path => .customCa path
    | none => .systemDefaults

/-- What a profile leaves open comes from the defaults. -/
def toConsoleConfig (p : Profile) (d : Defaults) : Except SettingsError ConsoleConfig :=
  match Url.parse p.server with
  | .error _ => .error (.invalid "server" s!"invalid URL: {p.server}")
  | .ok server =>
      if server.scheme = "http" || server.scheme = "https" then
        .ok
          { server, tls := p.tls d, timeout := p.timeout.getD d.timeout
            expansionCeiling := p.expansionCeiling.getD d.expansionCeiling
            diskCounter := p.diskCounter.getD DeviceConsole.diskCounter
            cpuCounter := p.cpuCounter.getD DeviceConsole.cpuCounter }
      else
        .error (.invalid "server"
          s!"unsupported scheme '{server.scheme}', expected http or https")

end DeviceConsole.Profile
