import FirmwareUpdate.Proofs.Metadata.Writing
import FirmwareUpdate.Proofs.Record.Object
import FirmwareUpdate.Record.ConfigRecord

/-!
# Reading back a configuration

The record of a configuration is an object with members for all the fields of the format, and each
of the fields reads its value back.
-/

namespace FirmwareUpdate

/-- The digits that stand for a port in a text. -/
theorem toList_toString_uint16 (n : UInt16) :
  (toString n).toList = Text.decimal n.toNat
  := Text.toList_repr n.toNat

namespace Config

open Record

/-- The texts of a configuration's values, and what they change in a draft. -/
def values (config : Config) : List (String × (Config → Config)) := [
  (Quoted.encode config.serverHost, fun draft => { draft with serverHost := config.serverHost }),
  (toString config.serverPort, fun draft =>
    { draft with serverPort := UInt16.ofNat config.serverPort.toNat }),
  (Quoted.encode config.rootCertificate, fun draft =>
    { draft with rootCertificate := config.rootCertificate }),
  (Quoted.encode config.peerCertificate, fun draft =>
    { draft with peerCertificate := config.peerCertificate }),
  (Quoted.encode config.metadataPath, fun draft =>
    { draft with metadataPath := config.metadataPath }),
  (Quoted.encode config.firmwarePath, fun draft =>
    { draft with firmwarePath := config.firmwarePath }),
  (toString config.pollingInterval, fun draft =>
    { draft with pollingInterval := UInt32.ofNat config.pollingInterval.toNat }),
  (toString config.autoReboot, fun draft => { draft with autoReboot := config.autoReboot })]

/-- The members of a configuration's record. -/
def members (config : Config) : List (Member Config) :=
  format.withValues config.values

theorem record_eq (config : Config) :
  config.record = Member.object config.members
  := rfl

/-- All fields change any configuration into the one that was written. -/
theorem applied_members (config draft : Config) :
  Member.applied config.members draft = config
  := by
  have hport : UInt16.ofNat config.serverPort.toNat = config.serverPort := UInt16.ofNat_toNat
  have hinterval : UInt32.ofNat config.pollingInterval.toNat = config.pollingInterval :=
    UInt32.ofNat_toNat
  change Config.mk _ (UInt16.ofNat _) _ _ _ _ (UInt32.ofNat _) _ = config
  rw [hport, hinterval]

theorem isRead_of_mem_members (config : Config) :
  ∀ member ∈ config.members, member.IsRead
  := by
  have htext (text : String) (rest : Bytes) (_ : EndsNumber rest) := yields_readText text rest
  have hport (rest : Bytes) (hrest : EndsNumber rest) :
      Reader.Yields (readNatural UInt16.size "u16") (utf8 (toString config.serverPort) ++ rest)
        config.serverPort.toNat rest := by
    rw [utf8, toList_toString_uint16]
    exact yields_readNatural (by decide) config.serverPort.toNat_lt hrest
  have hinterval (rest : Bytes) (hrest : EndsNumber rest) :
      Reader.Yields (readNatural UInt32.size "u32") (utf8 (toString config.pollingInterval) ++ rest)
        config.pollingInterval.toNat rest := by
    rw [utf8, toList_toString_uint32]
    exact yields_readNatural (by decide) config.pollingInterval.toNat_lt hrest
  have hflag (rest : Bytes) (_ : EndsNumber rest) := yields_readFlag config.autoReboot rest
  simp only [members, Format.withValues, values, format, List.zipWith_cons_cons,
    List.zipWith_nil_left, List.forall_mem_cons, List.not_mem_nil, false_implies, implies_true,
    and_true]
  refine ⟨?host, ?port, ?root, ?peer, ?metadata, ?firmware, ?interval, ?reboot⟩
  case port => exact Member.isRead_of rfl rfl hport
  case interval => exact Member.isRead_of rfl rfl hinterval
  case reboot => exact Member.isRead_of rfl rfl hflag
  all_goals exact Member.isRead_of rfl rfl (htext _)

/-- The record of a configuration describes it. -/
theorem describes_members (config : Config) :
  Format.Describes config.members format
  where
  fields_eq := rfl
  nodup := by decide
  isRead := config.isRead_of_mem_members

theorem ofRecord_record (config : Config) :
  ofRecord (utf8 config.record) = .ok config
  := by
  rw [record_eq, ofRecord, config.describes_members.readAll_eq, applied_members]

end Config

end FirmwareUpdate
