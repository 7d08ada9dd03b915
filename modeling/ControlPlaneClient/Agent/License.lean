import ControlPlaneClient.Agent.Credentials

/-!
# Licence deliveries

The licence the control plane delivers, and the file that keeps the latest one.
-/

namespace ControlPlaneClient

open FileSystem

structure LicenseDelivery where
  licenseJwt     : String
  orgSlug        : String
  refreshFailing : Bool
  deliveryProof  : String
  /-- The nonce sent when the Channel of the delivery was opened. -/
  channelNonce   : String
  /-- The instance uid that Channel was authenticated as. -/
  instanceUid    : String
  deriving DecidableEq, Encodable

variable (json : Codec LicenseDelivery Bytes)

def loadCached : FileM StateFile LicenseDelivery := do
  let bytes ← read .license
  match json.decode bytes with
  | some delivery => pure delivery
  | none          => failure

def saveCached (delivery : LicenseDelivery) : FileM StateFile Unit := do
  createDirAll
  write .licenseTmp (json.encode delivery)
  setPermissions .licenseTmp
  rename .licenseTmp .license

end ControlPlaneClient
