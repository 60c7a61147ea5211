import FirmwareUpdate.Pin
import FirmwareUpdate.Proofs.Bench.Download
import FirmwareUpdate.Proofs.Der
import FirmwareUpdate.Proofs.Pem
import FirmwareUpdate.Proofs.Session.Vetting

/-!
# Pins that can be met

A certificate meets a pin exactly if it carries the pinned key, and what a certificate carries is
one sequence. A pin that is taken from a certificate is what that certificate carries, so it can be
met; and a key on its own gives the same pin. But of a key on its own only the start is looked at:
if there are bytes behind its sequence, they are pinned as well, and no certificate meets the pin.

The main statement is `accepted_exact_iff`.
-/

namespace FirmwareUpdate

namespace Der

variable {bytes certificate key : Bytes}

/-- Bytes that are one sequence and nothing else. -/
def IsSequence (bytes : Bytes) : Prop :=
  ∃ e : Element, e.IsA sequenceTag ∧ bytes = e.raw

/-- Reading a sequence uses up all of its bytes. -/
theorem isSequence_iff :
  IsSequence bytes ↔ ∃ e, read bytes = .ok (e, []) ∧ e.tag = sequenceTag
  := by
  simp only [IsSequence, Element.IsA, read_eq_ok_iff, List.append_nil]
  constructor
  · rintro ⟨e, ⟨hformed, htag⟩, hbytes⟩
    exact ⟨e, ⟨hformed, hbytes⟩, htag⟩
  · rintro ⟨e, ⟨hformed, hbytes⟩, htag⟩
    exact ⟨e, ⟨hformed, htag⟩, hbytes⟩

/-- What a certificate carries is a sequence. -/
theorem Carries.isSequence (h : Carries certificate key) :
  IsSequence key
  := by
  obtain ⟨-, -, fields, -, -, -, -, -, -, -, -, -, hkey⟩ := h
  exact ⟨fields.key, fields.key_isA, hkey⟩

/-- Bytes that start with a sequence are one only if nothing follows it. -/
theorem isSequence_append_iff {e : Element} (h : e.IsA sequenceTag) (rest : Bytes) :
  IsSequence (e.raw ++ rest) ↔ rest = []
  := by
  constructor
  · intro hsequence
    obtain ⟨other, hother, -⟩ := isSequence_iff.mp hsequence
    have hread : read (e.raw ++ rest) = .ok (e, rest) := read_eq_ok_iff.mpr ⟨h.1, rfl⟩
    exact (Prod.mk.inj (Except.ok.inj (hread.symm.trans hother))).2
  · rintro rfl
    exact ⟨e, h, List.append_nil _⟩

end Der

namespace Pin

open Der (Carries Element IsSequence sequenceTag)

variable {pem : String} {pin : Pin} {block : Pem.Block} {certificate key content : Bytes}

/-- The label of a block with a certificate. -/
def certificateLabel : List Char := "CERTIFICATE".toList

/-- The label of a block with a key. -/
def keyLabel : List Char := "PUBLIC KEY".toList

theorem keyLabel_ne :
  keyLabel ≠ certificateLabel
  := by
  decide

theorem keyOfCertificate_eq_ok_iff :
  keyOfCertificate certificate = .ok key ↔ Carries certificate key
  := by
  rw [Der.carries_iff, keyOfCertificate, mapError_eq_ok_iff]

/-- A certificate meets a pin exactly if it carries the pinned key. -/
theorem verify_iff_carries :
  pin.verify certificate = .ok () ↔ Carries certificate pin.key
  := verify_eq_ok_iff.trans keyOfCertificate_eq_ok_iff

theorem ofPem_eq_ok_iff :
  ofPem pem = .ok pin ↔ ∃ block, Pem.decode pem.toList = .ok block ∧ ofBlock block = .ok pin
  := by
  simp only [ofPem, bind_eq_ok_iff, readBlock, mapError_eq_ok_iff]

/-- Where the pin of a block comes from. -/
theorem ofBlock_eq_ok_iff :
  ofBlock block = .ok pin
    ↔ (block.label = certificateLabel ∧ Carries block.content pin.key)
      ∨ (block.label = keyLabel ∧ block.content = pin.key
        ∧ ∃ (e : Element) (rest : Bytes), e.IsA sequenceTag ∧ pin.key = e.raw ++ rest)
  := by
  obtain ⟨label, content⟩ := block
  obtain ⟨key⟩ := pin
  rw [ofBlock]
  dsimp only
  split
  case isTrue hcertificate =>
    obtain rfl : label = certificateLabel := hcertificate
    simp only [map_eq_ok_iff, mk.injEq, exists_eq_right, keyOfCertificate_eq_ok_iff,
      keyLabel_ne.symm, true_and, false_and, or_false]
  case isFalse hcertificate =>
  replace hcertificate : label ≠ certificateLabel := hcertificate
  split
  case isTrue hkey =>
    obtain rfl : label = keyLabel := hkey
    simp only [hcertificate, false_and, true_and, false_or]
    constructor
    · intro h
      split at h
      case h_1 => cases h
      case h_2 read hread =>
        obtain ⟨rfl⟩ := h
        exact ⟨rfl, read.1, read.2, Der.expect_eq_ok_iff.mp hread⟩
    · rintro ⟨rfl, e, rest, hread⟩
      rw [Der.expect_eq_ok_iff.mpr hread]
  case isFalse hkey =>
    replace hkey : label ≠ keyLabel := hkey
    simp only [hcertificate, hkey, false_and, or_false, reduceCtorEq]

/-- A certificate and the key that it carries give the same pin. -/
theorem ofBlock_carries (h : Carries certificate key) :
  ofBlock ⟨certificateLabel, certificate⟩ = .ok ⟨key⟩ ∧ ofBlock ⟨keyLabel, key⟩ = .ok ⟨key⟩
  := by
  constructor
  · exact ofBlock_eq_ok_iff.mpr (.inl ⟨rfl, h⟩)
  · obtain ⟨e, he, hkey⟩ := h.isSequence
    exact ofBlock_eq_ok_iff.mpr (.inr ⟨rfl, rfl, e, [], he, hkey.trans (List.append_nil _).symm⟩)

/-- The text has a key on its own, and there are bytes behind the sequence that it starts with. -/
def HasSurplus (pem : String) : Prop :=
  ∃ (e : Element) (rest : Bytes), e.IsA sequenceTag ∧ rest ≠ []
    ∧ Pem.decode pem.toList = .ok ⟨keyLabel, e.raw ++ rest⟩

/-- What is pinned is one sequence unless there are bytes behind it. -/
theorem isSequence_iff_not_surplus (h : ofPem pem = .ok pin) :
  IsSequence pin.key ↔ ¬ HasSurplus pem
  := by
  obtain ⟨⟨label, content⟩, hdecode, hblock⟩ := ofPem_eq_ok_iff.mp h
  constructor
  · rintro hsequence ⟨e, rest, he, hne, hsurplus⟩
    obtain ⟨rfl, rfl⟩ := Pem.Block.mk.inj (Except.ok.inj (hdecode.symm.trans hsurplus))
    obtain ⟨hlabel, -⟩ | ⟨-, hcontent, -⟩ := ofBlock_eq_ok_iff.mp hblock
    · exact absurd hlabel keyLabel_ne
    · rw [← hcontent] at hsequence
      exact hne ((Der.isSequence_append_iff he rest).mp hsequence)
  · intro hexact
    obtain ⟨-, hcarries⟩ | ⟨rfl, hcontent, e, rest, he, hkey⟩ := ofBlock_eq_ok_iff.mp hblock
    · exact hcarries.isSequence
    · rw [hkey, Der.isSequence_append_iff he]
      by_contra hne
      apply hexact
      exact ⟨e, rest, he, hne, by rw [hdecode, ← hkey, ← hcontent]⟩

/-- A pin that is accepted is one sequence, which reading it uses up, exactly if it is not that of a
key with bytes behind it; with such bytes no certificate meets it. Every pin is met by exactly the
certificates that carry it. A certificate and the key that it carries give the same pin, which is
met by exactly the certificates that carry this key, byte for byte. -/
theorem accepted_exact_iff (h : ofPem pem = .ok pin) :
  ((∃ e, Der.read pin.key = .ok (e, []) ∧ e.tag = sequenceTag) ↔ ¬ HasSurplus pem)
    ∧ (HasSurplus pem → ∀ peer, pin.verify peer ≠ .ok ())
    ∧ (∀ peer, pin.verify peer = .ok () ↔ Der.publicKeyInfo peer = .ok pin.key)
    ∧ ∀ (certificate key : Bytes) (whole bare : String),
      Der.publicKeyInfo certificate = .ok key →
      Pem.decode whole.toList = .ok ⟨certificateLabel, certificate⟩ →
      Pem.decode bare.toList = .ok ⟨keyLabel, key⟩ →
      ofPem whole = .ok ⟨key⟩ ∧ ofPem bare = .ok ⟨key⟩
        ∧ ∀ peer, verify ⟨key⟩ peer = .ok () ↔ Der.publicKeyInfo peer = .ok key
  := by
  refine ⟨?_, ?_, ?_, ?_⟩
  · rw [← Der.isSequence_iff, isSequence_iff_not_surplus h]
  · intro hsurplus peer hmet
    have hsequence := (verify_iff_carries.mp hmet).isSequence
    exact (isSequence_iff_not_surplus h).mp hsequence hsurplus
  · intro peer
    rw [verify_iff_carries, Der.carries_iff]
  · intro certificate key whole bare hcarries hwhole hbare
    obtain ⟨hcertificate, hkey⟩ := ofBlock_carries (Der.carries_iff.mpr hcarries)
    refine ⟨ofPem_eq_ok_iff.mpr ⟨_, hwhole, hcertificate⟩, ofPem_eq_ok_iff.mpr ⟨_, hbare, hkey⟩, ?_⟩
    intro peer
    rw [verify_iff_carries, Der.carries_iff]

/-- The text of a key on its own. -/
def bareText (symbols : String) : String :=
  s!"-----BEGIN PUBLIC KEY-----\n{symbols}\n-----END PUBLIC KEY-----\n"

/-- The sample certificate and the key that it carries. -/
theorem accepted_exact_iff_sample :
  ofPem Bench.Rig.sampleText = .ok ⟨[0x30, 0]⟩
    ∧ (∃ e, Der.read [0x30, 0] = .ok (e, []) ∧ e.tag = sequenceTag)
    ∧ ofPem (bareText "MAA=") = .ok ⟨[0x30, 0]⟩
    ∧ verify ⟨[0x30, 0]⟩ Bench.Rig.sampleCertificate = .ok ()
  := by
  have hdecode : Pem.decode Bench.Rig.sampleText.toList
      = .ok ⟨certificateLabel, Bench.Rig.sampleCertificate⟩ := by
    decide +kernel
  have hbare : Pem.decode (bareText "MAA=").toList = .ok ⟨keyLabel, [0x30, 0]⟩ := by
    decide +kernel
  have hcarries : Der.publicKeyInfo Bench.Rig.sampleCertificate = .ok [0x30, 0] := by
    decide +kernel
  have hpem : ofPem Bench.Rig.sampleText = .ok ⟨[0x30, 0]⟩ := by
    decide +kernel
  obtain ⟨hexact, -, hmet, hsame⟩ := accepted_exact_iff hpem
  refine ⟨hpem, hexact.mpr ?_, (hsame _ _ _ _ hcarries hdecode hbare).2.1, (hmet _).mpr hcarries⟩
  rintro ⟨e, rest, -, -, hsurplus⟩
  cases (Pem.Block.mk.inj (Except.ok.inj (hdecode.symm.trans hsurplus))).1

/-- A key with a byte behind it is accepted, and the byte is pinned with it. -/
theorem surplus_accepted :
  ∃ pin, ofPem (bareText "MAAA") = .ok pin
    ∧ ¬ ∃ e, Der.read pin.key = .ok (e, []) ∧ e.tag = sequenceTag
  := by
  refine ⟨⟨[0x30, 0, 0]⟩, by decide +kernel, ?_⟩
  rintro ⟨e, hread, -⟩
  have hrest : Der.read [0x30, 0, 0] = .ok (⟨0x30, [0], []⟩, [0]) := by
    decide +kernel
  cases (Prod.mk.inj (Except.ok.inj (hrest.symm.trans hread))).2

end Pin

end FirmwareUpdate
