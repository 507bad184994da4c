/-
LintMend.Address.Loopback — which services may be asked.

Source code is only sent to a service on the own machine, unless the configuration allows others.

  `isLocalHost`      — hosts of the own machine
  `serviceAllowed`   — whether the service at an address may be asked
-/
import LintMend.Address.Web

namespace LintMend

/-- The schemes of services. -/
def serviceSchemes : List Text := ["http", "https"]

/-- A host that is the own machine: by its name, or by a numeric address. -/
def isLocalHost (host : Text) : Bool :=
  host == ("localhost" : Text) ||
    ((InternetAddress.ofText? host).map InternetAddress.isLoopback).getD false

/-- Whether a service may be asked: it has a host, which is local unless remote ones are allowed. -/
def WebAddress.isAllowed (allowRemote : Bool) (a : WebAddress) : Bool :=
  serviceSchemes.contains a.scheme && !a.host.isEmpty && (isLocalHost a.host || allowRemote)

/-- Whether the service at a written address may be asked. -/
def serviceAllowed (address : Text) (allowRemote : Bool) : Except AddressFault Bool :=
  if address.isEmpty then .ok false
  else (WebAddress.read address).map (·.isAllowed allowRemote)

end LintMend
