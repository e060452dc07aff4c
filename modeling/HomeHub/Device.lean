import HomeHub.Bytes
import HomeHub.Text.Hex
import HomeHub.Text.SipHash
import HomeHub.Text.Utf8

/-!
The description of the device that clients may ask for.
-/

namespace HomeHub

structure DeviceInfo where
  /-- A region code of two letters. -/
  region : String
  version : String
  /-- The hardware serial in hexadecimal. -/
  serial : String
  serviceType : UInt8
  network : String
  /-- Whether the watchdog caused the last start. -/
  watchdog : Bool
  deriving DecidableEq, Repr

namespace DeviceInfo

def currentVersion : String := "0.3.0"

def default : DeviceInfo := ⟨"PL", currentVersion, "0000000000000000", 0, "", false⟩

/-- The host name of a device that has none. -/
def defaultHost : String := "homewire"

/-- A serial of sixteen digits that depends on the host name only. -/
def hostSerial (host : String) : String :=
  let hash := SipHash.hash 0 0 (Utf8.ofString host ++ [0xFF])
  Hex.encode (Bytes.ofNatBE 8 hash.toNat)

end DeviceInfo

end HomeHub
