import FirmwareUpdate.Scene
import FirmwareUpdate.Retry

/-!
# Transport

The part of a platform that speaks TLS. None of its operations block: the handshake, sending
and receiving may ask to be tried again.
-/

namespace FirmwareUpdate

/-- Which server a session is for, and what it has to present. -/
structure Identity where
  host : String
  port : UInt16
  rootCertificate : String
  peerCertificate : String
deriving DecidableEq, Repr

/-- The identity that a configuration names. -/
def Config.identity (config : Config) : Identity :=
  ⟨config.serverHost, config.serverPort, config.rootCertificate, config.peerCertificate⟩

/-- The operations of a transport. `configure` sets up what all connections to a server share
and `reset` gives it back. `dial` opens a connection and `hangUp` closes it. `verifyChain`
checks the certificates of a finished handshake against the root, and `peerCertificate` is the
certificate that the peer has presented. `receive` gives at most as many bytes as the capacity
it is asked for, and none once the peer has closed the connection. -/
structure Transport (σ : Type) where
  configure : Identity → Op σ Outcome
  dial : String → UInt16 → Op σ Outcome
  handshake : Op σ (Progress Unit)
  verifyChain : Op σ Outcome
  peerCertificate : Op σ (Option Bytes)
  send : Bytes → Op σ (Progress Nat)
  receive : Nat → Op σ (Progress Bytes)
  hangUp : Op σ Unit
  reset : Op σ Unit

end FirmwareUpdate
