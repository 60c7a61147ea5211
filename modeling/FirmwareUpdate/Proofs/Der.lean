import FirmwareUpdate.Der
import FirmwareUpdate.Proofs.Attempts
import Mathlib.Data.List.Induction
import Mathlib.Data.Nat.Digits.Defs
import Mathlib.Tactic.Common

/-!
# The grammar of certificates

A byte sequence is read as the elements that it starts with, and only as these: an element can be
put in front of any bytes, and is read back with them as what is left. So the public key of a
certificate is found exactly if the bytes are put together as a certificate has to be, whatever the
other elements hold.

Elements may also be found by their positions in the bytes. Then every position that is looked at
lies within the bytes.

The main statement is `publicKeyInfo_eq_ok_iff`.
-/

namespace FirmwareUpdate.Der

variable {bytes rest spelling : Bytes} {e : Element} {tag : UInt8}

/-! ### Elements -/

/-- The ways to spell a length: one byte below 128, or a byte that tells how many of one to four
big-endian bytes follow. A number has spellings of several lengths. -/
inductive Spells : Bytes → Nat → Prop
  | short {b : UInt8} : b < 0x80 → Spells [b] b.toNat
  | long {first : UInt8} {digits : Bytes} :
      digits ≠ [] → digits.length ≤ 4 → first.toNat = 0x80 + digits.length →
      Spells (first :: digits) (Nat.ofDigits 256 (digits.map UInt8.toNat).reverse)

/-- The length bytes of an element spell the length of its content. -/
def Element.WellFormed (e : Element) : Prop :=
  Spells e.lengthBytes e.content.length

/-- A well-formed element with the given tag. -/
def Element.IsA (tag : UInt8) (e : Element) : Prop :=
  e.WellFormed ∧ e.tag = tag

theorem bigEndian_eq (digits : Bytes) :
  bigEndian digits = Nat.ofDigits 256 (digits.map UInt8.toNat).reverse
  := by
  induction digits using List.reverseRecOn with
  | nil => rfl
  | append_singleton digits b ih =>
      rw [List.map_append, List.reverse_append, List.map_singleton, List.reverse_singleton,
        List.singleton_append, Nat.ofDigits_cons, ← ih, bigEndian, List.foldl_append]
      change bigEndian digits * 256 + b.toNat = _
      rw [Nat.add_comm, Nat.mul_comm]

/-- A length is read exactly if the bytes start with a spelling of it. -/
theorem readLength_eq_ok_iff {n : Nat} :
  readLength bytes = .ok (spelling, n, rest) ↔ Spells spelling n ∧ bytes = spelling ++ rest
  := by
  constructor
  · intro h
    cases bytes with
    | nil => cases h
    | cons first tail =>
        rw [readLength] at h
        split at h
        case isTrue hshort =>
          obtain ⟨rfl, rfl, rfl⟩ : [first] = spelling ∧ first.toNat = n ∧ tail = rest := by
            simpa using h
          exact ⟨.short hshort, rfl⟩
        case isFalse hlong =>
          dsimp only at h
          split at h
          case isTrue => cases h
          case isFalse hcount =>
            split at h
            case isTrue => cases h
            case isFalse hthere =>
              obtain ⟨rfl, rfl, rfl⟩ : first :: tail.take (first.toNat - 0x80) = spelling
                  ∧ bigEndian (tail.take (first.toNat - 0x80)) = n
                  ∧ tail.drop (first.toNat - 0x80) = rest := by
                simpa using h
              have hlength : (tail.take (first.toNat - 0x80)).length = first.toNat - 0x80 :=
                List.length_take_of_le (Nat.le_of_not_lt hthere)
              simp only [Bool.or_eq_true, decide_eq_true_eq, not_or, Nat.not_lt] at hcount
              obtain ⟨hsome, hfew⟩ := hcount
              rw [bigEndian_eq]
              refine ⟨.long ?_ ?_ ?_, ?_⟩
              · rw [← List.length_pos_iff, hlength]
                omega
              · rwa [hlength]
              · rw [hlength]
                omega
              · rw [List.cons_append, List.take_append_drop]
  · rintro ⟨hspells, rfl⟩
    cases hspells with
    | short hshort => rw [List.singleton_append, readLength, if_pos hshort]
    | @long first digits hne hfew hfirst =>
        have hpos : 0 < digits.length := List.length_pos_iff.mpr hne
        have hlong : ¬ first < 0x80 := by
          rw [UInt8.lt_iff_toNat_lt, hfirst]
          change ¬ 0x80 + digits.length < 0x80
          omega
        have hcount : first.toNat - 0x80 = digits.length := by omega
        have hsupported : ¬ (digits.length = 0 || decide (4 < digits.length)) = true := by
          simp only [Bool.or_eq_true, decide_eq_true_eq]
          omega
        have hthere : ¬ (digits ++ rest).length < digits.length := by
          rw [List.length_append]
          omega
        rw [List.cons_append, readLength, if_neg hlong]
        dsimp only
        rw [hcount, if_neg hsupported, if_neg hthere, List.take_left, List.drop_left, bigEndian_eq]

/-- An element is read exactly if the bytes start with it. -/
theorem read_eq_ok_iff :
  read bytes = .ok (e, rest) ↔ e.WellFormed ∧ bytes = e.raw ++ rest
  := by
  constructor
  · intro h
    cases bytes with
    | nil => cases h
    | cons tag tail =>
        rw [read] at h
        obtain ⟨⟨spelling, n, tail⟩, hlength, hread⟩ := bind_eq_ok_iff.mp h
        obtain ⟨hspells, rfl⟩ := readLength_eq_ok_iff.mp hlength
        dsimp only at hread
        split at hread
        case isTrue => cases hread
        case isFalse hthere =>
          obtain ⟨rfl, rfl⟩ : ⟨tag, spelling, tail.take n⟩ = e ∧ tail.drop n = rest := by
            simpa using hread
          have hcontent : (tail.take n).length = n :=
            List.length_take_of_le (Nat.le_of_not_lt hthere)
          constructor
          · rw [Element.WellFormed, hcontent]
            exact hspells
          · simp only [Element.raw, List.cons_append, List.append_assoc, List.take_append_drop]
  · rintro ⟨hformed, rfl⟩
    have hlength : readLength (e.lengthBytes ++ (e.content ++ rest))
        = .ok (e.lengthBytes, e.content.length, e.content ++ rest) :=
      readLength_eq_ok_iff.mpr ⟨hformed, rfl⟩
    have hthere : ¬ (e.content ++ rest).length < e.content.length := by
      rw [List.length_append]
      omega
    simp only [Element.raw, List.cons_append, List.append_assoc]
    rw [read, hlength]
    change (if _ then _ else _) = _
    rw [if_neg hthere, List.take_left, List.drop_left]

-- The length may be spelled with more bytes than it needs.
example :
  read [0x04, 0x82, 0x00, 0x01, 0x07, 0x09] = .ok (⟨0x04, [0x82, 0x00, 0x01], [0x07]⟩, [0x09])
  := by
  decide

/-- An element that has to have a tag is read exactly if the bytes start with one that has it. -/
theorem expect_eq_ok_iff {role : String} :
  expect tag role bytes = .ok (e, rest) ↔ e.IsA tag ∧ bytes = e.raw ++ rest
  := by
  have hread : ∀ read : Element × Bytes,
      (if read.1.tag = tag then .ok read else .error (.unexpectedTag role tag read.1.tag))
        = (.ok (e, rest) : Except Defect (Element × Bytes))
      ↔ read = (e, rest) ∧ e.tag = tag := by
    intro read
    split
    case isTrue htag =>
      rw [Except.ok.injEq]
      constructor
      · rintro rfl
        exact ⟨rfl, htag⟩
      · exact And.left
    case isFalse htag =>
      simp only [reduceCtorEq, false_iff, not_and]
      rintro rfl
      exact htag
  rw [expect, bind_eq_ok_iff]
  simp only [hread, Element.IsA]
  constructor
  · rintro ⟨_, h, rfl, htag⟩
    obtain ⟨hformed, rfl⟩ := read_eq_ok_iff.mp h
    exact ⟨⟨hformed, htag⟩, rfl⟩
  · rintro ⟨⟨hformed, htag⟩, rfl⟩
    exact ⟨_, read_eq_ok_iff.mpr ⟨hformed, rfl⟩, rfl, htag⟩

/-! ### Certificates -/

/-- The fields of a certificate up to its key. The version may be absent, and the serial number may
have any tag. -/
structure Fields where
  version : Option Element
  serial : Element
  signature : Element
  issuer : Element
  validity : Element
  subject : Element
  key : Element
  version_isA : ∀ e ∈ version, e.IsA versionTag
  serial_wellFormed : serial.WellFormed
  signature_isA : signature.IsA sequenceTag
  issuer_isA : issuer.IsA sequenceTag
  validity_isA : validity.IsA sequenceTag
  subject_isA : subject.IsA sequenceTag
  key_isA : key.IsA sequenceTag

/-- The bytes of the fields. -/
def Fields.raw (fields : Fields) : Bytes :=
  fields.version.elim [] Element.raw ++ fields.serial.raw ++ fields.signature.raw
    ++ fields.issuer.raw ++ fields.validity.raw ++ fields.subject.raw ++ fields.key.raw

/-- A certificate starts with a sequence, whose content starts with another one, whose content
starts with the fields. There is a version exactly if the fields start with its tag. -/
def Carries (certificate key : Bytes) : Prop :=
  ∃ (outer signed : Element) (fields : Fields) (rest₁ rest₂ rest₃ : Bytes),
    outer.IsA sequenceTag ∧ certificate = outer.raw ++ rest₁
      ∧ signed.IsA sequenceTag ∧ outer.content = signed.raw ++ rest₂
      ∧ signed.content = fields.raw ++ rest₃
      ∧ (fields.version.isSome = true ↔ signed.content.head? = some versionTag)
      ∧ key = fields.key.raw

/-- The fields behind the version, if there is one. -/
def unversioned (fields : Bytes) : Except Defect Bytes :=
  if fields.head? = some versionTag then Prod.snd <$> read fields else .ok fields

theorem unversioned_eq_ok_iff :
  unversioned bytes = .ok rest
    ↔ ∃ version : Option Element, (version.isSome = true ↔ bytes.head? = some versionTag)
      ∧ (∀ e ∈ version, e.IsA versionTag) ∧ bytes = version.elim [] Element.raw ++ rest
  := by
  unfold unversioned
  split
  case isTrue hhead =>
    rw [map_eq_pure_bind, bind_eq_ok_iff]
    constructor
    · rintro ⟨⟨e, rest⟩, hread, ⟨rfl⟩⟩
      obtain ⟨hformed, rfl⟩ := read_eq_ok_iff.mp hread
      refine ⟨some e, by simpa using hhead, ?_, rfl⟩
      rintro _ ⟨rfl⟩
      exact ⟨hformed, Option.some.inj hhead⟩
    · rintro ⟨version, hsome, hversion, rfl⟩
      obtain ⟨e, rfl⟩ := Option.isSome_iff_exists.mp (hsome.mpr hhead)
      obtain ⟨hformed, -⟩ := hversion e rfl
      exact ⟨(e, rest), read_eq_ok_iff.mpr ⟨hformed, rfl⟩, rfl⟩
  case isFalse hhead =>
    constructor
    · rintro ⟨rfl⟩
      exact ⟨none, by simpa using hhead, by rintro _ ⟨⟩, rfl⟩
    · rintro ⟨version, hsome, -, rfl⟩
      obtain rfl : version = none := by
        rw [← Option.not_isSome_iff_eq_none, hsome]
        exact hhead
      rfl

/-- The key in the fields behind the version. -/
def keyInfo (fields : Bytes) : Except Defect Bytes := do
  let (_, fields) ← read fields
  let (_, fields) ← expect sequenceTag "signature" fields
  let (_, fields) ← expect sequenceTag "issuer" fields
  let (_, fields) ← expect sequenceTag "validity" fields
  let (_, fields) ← expect sequenceTag "subject" fields
  let (key, _) ← expect sequenceTag "subjectPublicKeyInfo" fields
  return key.raw

/-- The three levels of a certificate. -/
theorem publicKeyInfo_eq (certificate : Bytes) :
  publicKeyInfo certificate = (do
    let (certificate, _) ← expect sequenceTag "certificate" certificate
    let (signed, _) ← expect sequenceTag "tbsCertificate" certificate.content
    let fields ← unversioned signed.content
    keyInfo fields)
  := by
  unfold publicKeyInfo unversioned keyInfo
  refine bind_congr fun _ => bind_congr fun (signed, _) => ?_
  by_cases hhead : signed.content.head? = some versionTag
  · simp only [if_pos hhead, map_eq_pure_bind, bind_assoc, pure_bind]
  · simp only [if_neg hhead]
    rfl

/-- A key is found exactly in the certificates that carry it. -/
theorem carries_iff {certificate key : Bytes} :
  Carries certificate key ↔ publicKeyInfo certificate = .ok key
  := by
  simp only [publicKeyInfo_eq, keyInfo, bind_eq_ok_iff, Prod.exists, expect_eq_ok_iff,
    unversioned_eq_ok_iff, read_eq_ok_iff]
  constructor
  · rintro ⟨outer, signed, fields, rest₁, rest₂, rest₃, houter, rfl, hsigned, hcontent, hfields,
      hsome, rfl⟩
    simp only [Fields.raw, List.append_assoc] at hfields
    exact ⟨outer, rest₁, ⟨houter, rfl⟩, signed, rest₂, ⟨hsigned, hcontent⟩, _,
      ⟨fields.version, hsome, fields.version_isA, hfields⟩,
      fields.serial, _, ⟨fields.serial_wellFormed, rfl⟩,
      fields.signature, _, ⟨fields.signature_isA, rfl⟩, fields.issuer, _, ⟨fields.issuer_isA, rfl⟩,
      fields.validity, _, ⟨fields.validity_isA, rfl⟩, fields.subject, _, ⟨fields.subject_isA, rfl⟩,
      fields.key, rest₃, ⟨fields.key_isA, rfl⟩, rfl⟩
  · rintro ⟨outer, rest₁, ⟨houter, rfl⟩, signed, rest₂, ⟨hsigned, hcontent⟩, _,
      ⟨version, hsome, hversion, hfields⟩, serial, _, ⟨hserial, rfl⟩,
      signature, _, ⟨hsignature, rfl⟩, issuer, _, ⟨hissuer, rfl⟩, validity, _, ⟨hvalidity, rfl⟩,
      subject, _, ⟨hsubject, rfl⟩, found, rest₃, ⟨hfound, rfl⟩, ⟨rfl⟩⟩
    refine ⟨outer, signed, ⟨version, serial, signature, issuer, validity, subject, found, hversion,
      hserial, hsignature, hissuer, hvalidity, hsubject, hfound⟩, rest₁, rest₂, rest₃, houter, rfl,
      hsigned, hcontent, ?_, hsome, rfl⟩
    simpa only [Fields.raw, List.append_assoc] using hfields

/-! ### What does not matter -/

/-- Bytes that are the same but for the contents of some leading elements, as many as there are
before the key, and for what is behind the key. -/
inductive Alike : Nat → Bytes → Bytes → Prop
  | refl {n : Nat} {bytes : Bytes} : Alike n bytes bytes
  | behind {e : Element} {rest rest' : Bytes} :
      e.WellFormed → Alike 0 (e.raw ++ rest) (e.raw ++ rest')
  | element {n : Nat} {e e' : Element} {rest rest' : Bytes} :
      e.WellFormed → e'.WellFormed → e.tag = e'.tag → Alike n rest rest' →
      Alike (n + 1) (e.raw ++ rest) (e'.raw ++ rest')

/-- How many fields there are before the key. -/
def beforeKey (fields : Bytes) : Nat :=
  if fields.head? = some versionTag then 6 else 5

/-- Two certificates that differ at most in the contents of fields before the key, in what is behind
each of the three levels, and in how the lengths are spelled there. -/
def Similar (certificate certificate' : Bytes) : Prop :=
  ∃ (outer outer' signed signed' : Element) (rest₁ rest₁' rest₂ rest₂' : Bytes),
    outer.IsA sequenceTag ∧ outer'.IsA sequenceTag ∧ signed.IsA sequenceTag
      ∧ signed'.IsA sequenceTag
      ∧ certificate = outer.raw ++ rest₁ ∧ outer.content = signed.raw ++ rest₂
      ∧ certificate' = outer'.raw ++ rest₁' ∧ outer'.content = signed'.raw ++ rest₂'
      ∧ Alike (beforeKey signed.content) signed.content signed'.content

/-- A function of bytes that takes no notice of the contents of the first elements. -/
def Ignores {α : Type} (n : Nat) (f : Bytes → Except Defect α) : Prop :=
  ∀ ⦃bytes bytes' : Bytes⦄, Alike n bytes bytes' → f bytes = f bytes'

section Ignores

variable {α : Type} {n : Nat} {role : String}

theorem read_raw (hformed : e.WellFormed) :
  read (e.raw ++ rest) = .ok (e, rest)
  := read_eq_ok_iff.mpr ⟨hformed, rfl⟩

theorem expect_raw (hformed : e.WellFormed) :
  expect tag role (e.raw ++ rest)
    = if e.tag = tag then .ok (e, rest) else .error (.unexpectedTag role tag e.tag)
  := by
  rw [expect, read_raw hformed]
  rfl

theorem Ignores.read {next : Bytes → Except Defect α} (hnext : Ignores n next) :
  Ignores (n + 1) (fun bytes => do
    let (_, rest) ← read bytes
    next rest)
  := by
  intro _ _ halike
  cases halike with
  | refl => rfl
  | element hformed hformed' _ hrest =>
      simp only [read_raw hformed, read_raw hformed', ok_bind]
      exact hnext hrest

theorem Ignores.expect {next : Bytes → Except Defect α} (hnext : Ignores n next) :
  Ignores (n + 1) (fun bytes => do
    let (_, rest) ← expect tag role bytes
    next rest)
  := by
  intro _ _ halike
  cases halike with
  | refl => rfl
  | @element _ e e' _ _ hformed hformed' htag hrest =>
      simp only [expect_raw hformed, expect_raw hformed', htag]
      by_cases hexpected : e'.tag = tag
      · simp only [if_pos hexpected, ok_bind]
        exact hnext hrest
      · simp only [if_neg hexpected]

theorem Ignores.key :
  Ignores 0 (fun bytes => do
    let (key, _) ← Der.expect tag role bytes
    return key.raw)
  := by
  intro _ _ halike
  cases halike with
  | refl => rfl
  | @behind e rest rest' hformed =>
      simp only [expect_raw hformed]
      by_cases htag : e.tag = tag
      · simp only [if_pos htag, ok_bind]
      · simp only [if_neg htag]

end Ignores

theorem Alike.head?_eq {n : Nat} {bytes bytes' : Bytes} (halike : Alike n bytes bytes') :
  bytes.head? = bytes'.head?
  := by
  cases halike with
  | refl => rfl
  | behind _ => rfl
  | element _ _ htag _ => exact congrArg some htag

theorem keyInfo_ignores :
  Ignores 5 keyInfo
  := Ignores.key.expect.expect.expect.expect.read

theorem unversioned_keyInfo_congr {fields fields' : Bytes}
    (halike : Alike (beforeKey fields) fields fields') :
  (unversioned fields >>= keyInfo) = (unversioned fields' >>= keyInfo)
  := by
  by_cases hhead : fields.head? = some versionTag
  · have hhead' : fields'.head? = some versionTag := halike.head?_eq ▸ hhead
    have hread : ∀ fields : Bytes, fields.head? = some versionTag →
        (unversioned fields >>= keyInfo) = read fields >>= fun (_, rest) => keyInfo rest := by
      intro fields hhead
      rw [unversioned, if_pos hhead, map_eq_pure_bind, bind_assoc]
      rfl
    rw [beforeKey, if_pos hhead] at halike
    rw [hread _ hhead, hread _ hhead']
    exact keyInfo_ignores.read halike
  · have hhead' : ¬ fields'.head? = some versionTag := halike.head?_eq ▸ hhead
    rw [beforeKey, if_neg hhead] at halike
    rw [unversioned, if_neg hhead, unversioned, if_neg hhead', ok_bind, ok_bind]
    exact keyInfo_ignores halike

theorem publicKeyInfo_raw {outer signed : Element} {rest₁ rest₂ : Bytes}
    (houter : outer.IsA sequenceTag) (hsigned : signed.IsA sequenceTag)
    (hcontent : outer.content = signed.raw ++ rest₂) :
  publicKeyInfo (outer.raw ++ rest₁) = unversioned signed.content >>= keyInfo
  := by
  have hread : expect sequenceTag "certificate" (outer.raw ++ rest₁) = .ok (outer, rest₁) :=
    expect_eq_ok_iff.mpr ⟨houter, rfl⟩
  have hread' : expect sequenceTag "tbsCertificate" outer.content = .ok (signed, rest₂) :=
    expect_eq_ok_iff.mpr ⟨hsigned, hcontent⟩
  simp only [publicKeyInfo_eq, hread, hread', ok_bind]

/-- What does not matter has no influence, whether there is a key or a defect. -/
theorem publicKeyInfo_congr {certificate certificate' : Bytes}
    (hsimilar : Similar certificate certificate') :
  publicKeyInfo certificate = publicKeyInfo certificate'
  := by
  obtain ⟨outer, outer', signed, signed', _, _, _, _, houter, houter', hsigned, hsigned', rfl,
    hcontent, rfl, hcontent', halike⟩ := hsimilar
  rw [publicKeyInfo_raw houter hsigned hcontent, publicKeyInfo_raw houter' hsigned' hcontent']
  exact unversioned_keyInfo_congr halike

/-! ### Reading by positions -/

/-- A place in a sequence of bytes. -/
structure Cursor where
  data : Bytes
  position : Nat

/-- What is found at a place. -/
structure Found where
  tag : UInt8
  content : Bytes
  raw : Bytes

/-- A reading by positions. It may end with a defect, and it has no outcome at all if it takes bytes
from outside of the sequence. -/
abbrev Looking :=
  ExceptT Defect Option

/-- The bytes from one position to another one, if both are positions of the sequence. -/
def slice? (data : Bytes) (start stop : Nat) : Option Bytes :=
  if start ≤ stop ∧ stop ≤ data.length then some ((data.take stop).drop start) else none

namespace Cursor

/-- The length at a place, and the place behind it. -/
def readLength (cursor : Cursor) : Looking (Nat × Cursor) :=
  match cursor.data[cursor.position]? with
  | none => throw .truncatedBeforeLength
  | some first =>
    let behind := cursor.position + 1
    if first < 0x80 then pure (first.toNat, ⟨cursor.data, behind⟩)
    else
      let count := first.toNat - 0x80
      if count = 0 || 4 < count then throw .unsupportedLength
      else
        match slice? cursor.data behind (behind + count) with
        | none => throw .truncatedInLength
        | some digits => pure (bigEndian digits, ⟨cursor.data, behind + count⟩)

/-- The element at a place, and the place behind it. That the content and the whole element lie
within the bytes is taken for granted once the end has been compared with the length. -/
def read (cursor : Cursor) : Looking (Found × Cursor) :=
  match cursor.data[cursor.position]? with
  | none => throw .truncatedBeforeTag
  | some tag => do
    let (length, behind) ← readLength ⟨cursor.data, cursor.position + 1⟩
    let stop := behind.position + length
    if cursor.data.length < stop then throw .exceedsInput
    else do
      let content ← ExceptT.lift (slice? cursor.data behind.position stop)
      let raw ← ExceptT.lift (slice? cursor.data cursor.position stop)
      pure (⟨tag, content, raw⟩, ⟨cursor.data, stop⟩)

/-- The element at a place, which must have the given tag. -/
def expect (tag : UInt8) (role : String) (cursor : Cursor) : Looking (Found × Cursor) := do
  let (found, behind) ← read cursor
  if found.tag = tag then pure (found, behind)
  else throw (.unexpectedTag role tag found.tag)

/-- The place behind the version, if there is one. -/
def unversioned (fields : Cursor) : Looking Cursor :=
  if fields.data[fields.position]? = some versionTag then Prod.snd <$> read fields
  else pure fields

/-- The public key field of a certificate, found by positions. -/
def publicKeyInfo (certificate : Bytes) : Looking Bytes := do
  let (certificate, _) ← expect sequenceTag "certificate" ⟨certificate, 0⟩
  let (signed, _) ← expect sequenceTag "tbsCertificate" ⟨certificate.content, 0⟩
  let fields ← unversioned ⟨signed.content, 0⟩
  let (_, fields) ← read fields
  let (_, fields) ← expect sequenceTag "signature" fields
  let (_, fields) ← expect sequenceTag "issuer" fields
  let (_, fields) ← expect sequenceTag "validity" fields
  let (_, fields) ← expect sequenceTag "subject" fields
  let (key, _) ← expect sequenceTag "subjectPublicKeyInfo" fields
  return key.raw

end Cursor

/-- A reading by positions has an outcome, which goes with that of a reading from the front. -/
def Within {α β : Type} (goesWith : α → β → Prop) (looking : Looking α) :
    Except Defect β → Prop
  | .error defect => looking.run = some (.error defect)
  | .ok b => ∃ a, looking.run = some (.ok a) ∧ goesWith a b

section Within

variable {α α' β β' : Type} {goesWith : α → β → Prop} {goesWith' : α' → β' → Prop}

theorem Within.bind {looking : Looking α} {outcome : Except Defect β} {look : α → Looking α'}
    {next : β → Except Defect β'} (hfirst : Within goesWith looking outcome)
    (hnext : ∀ a b, outcome = .ok b → goesWith a b → Within goesWith' (look a) (next b)) :
  Within goesWith' (looking >>= look) (outcome >>= next)
  := by
  cases outcome with
  | error defect =>
      change (looking.run >>= _) = _
      rw [show looking.run = _ from hfirst]
      rfl
  | ok b =>
      obtain ⟨a, hrun, hgoes⟩ := hfirst
      have hbind : (looking >>= look) = look a := by
        change (looking.run >>= _) = _
        rw [hrun]
        rfl
      rw [hbind]
      exact hnext a b rfl hgoes

theorem Within.ok {a : α} {b : β} (hgoes : goesWith a b) :
  Within goesWith (pure a) (.ok b)
  := ⟨a, rfl, hgoes⟩

theorem Within.error {defect : Defect} :
  Within goesWith (throw defect) (.error defect)
  := rfl

end Within

/-- The place in front of the given bytes, whatever is before it. -/
def Cursor.Faces (cursor : Cursor) (bytes : Bytes) : Prop :=
  ∃ before : Bytes, cursor = ⟨before ++ bytes, before.length⟩

/-- What is found, for an element. -/
def Element.found (e : Element) : Found :=
  ⟨e.tag, e.content, e.raw⟩

theorem slice?_append (before middle rest : Bytes) :
  slice? (before ++ (middle ++ rest)) before.length (before.length + middle.length) = some middle
  := by
  have hwithin : before.length ≤ before.length + middle.length
      ∧ before.length + middle.length ≤ (before ++ (middle ++ rest)).length := by
    simp only [List.length_append]
    omega
  rw [slice?, if_pos hwithin, ← List.append_assoc, ← List.length_append, List.take_left,
    List.drop_left]

theorem slice?_beyond {data : Bytes} {start stop : Nat} (hbeyond : data.length < stop) :
  slice? data start stop = none
  := by
  rw [slice?, if_neg]
  omega

theorem Cursor.faces_start (bytes : Bytes) :
  Cursor.Faces ⟨bytes, 0⟩ bytes
  := ⟨[], rfl⟩

theorem Cursor.Faces.getElem? {cursor : Cursor} (hfaces : cursor.Faces bytes) :
  cursor.data[cursor.position]? = bytes.head?
  := by
  obtain ⟨before, rfl⟩ := hfaces
  rw [List.getElem?_append_right (Nat.le_refl _), Nat.sub_self, List.head?_eq_getElem?]

theorem Cursor.readLength_within {cursor : Cursor} (hfaces : cursor.Faces bytes) :
  Within (fun found read => found = (read.2.1, ⟨cursor.data, cursor.position + read.1.length⟩))
    cursor.readLength (Der.readLength bytes)
  := by
  rw [Cursor.readLength, hfaces.getElem?]
  obtain ⟨before, rfl⟩ := hfaces
  cases bytes with
  | nil => exact .error
  | cons first rest =>
      rw [Der.readLength]
      by_cases hshort : first < 0x80
      · simp only [List.head?_cons, if_pos hshort]
        exact .ok rfl
      · simp only [List.head?_cons, if_neg hshort]
        generalize first.toNat - 0x80 = count
        by_cases hcount : (count = 0 || 4 < count) = true
        · simp only [if_pos hcount]
          exact .error
        · simp only [if_neg hcount]
          by_cases hshort : rest.length < count
          · rw [slice?_beyond, if_pos hshort]
            · exact .error
            · simp only [List.length_append, List.length_cons]
              omega
          · have hdigits := slice?_append (before ++ [first]) (rest.take count) (rest.drop count)
            have hlength : (rest.take count).length = count :=
              List.length_take_of_le (Nat.le_of_not_lt hshort)
            rw [List.take_append_drop, hlength, List.length_append, List.length_singleton,
              List.append_assoc, List.singleton_append] at hdigits
            rw [hdigits, if_neg hshort]
            apply Within.ok
            rw [List.length_cons, hlength, Nat.add_comm count 1, ← Nat.add_assoc]

theorem Cursor.read_within {cursor : Cursor} (hfaces : cursor.Faces bytes) :
  Within (fun found read => found.1 = read.1.found ∧ found.2.Faces read.2)
    cursor.read (Der.read bytes)
  := by
  rw [Cursor.read, hfaces.getElem?]
  obtain ⟨before, rfl⟩ := hfaces
  cases bytes with
  | nil => exact .error
  | cons tag bytes =>
      simp only [List.head?_cons, Der.read]
      have hbehind : Cursor.Faces ⟨before ++ tag :: bytes, before.length + 1⟩ bytes :=
        ⟨before ++ [tag], by simp⟩
      refine (Cursor.readLength_within hbehind).bind ?_
      rintro _ ⟨spelling, length, rest⟩ hlength rfl
      obtain ⟨-, rfl⟩ := readLength_eq_ok_iff.mp hlength
      by_cases hshort : rest.length < length
      · have hexceeds : (before ++ tag :: (spelling ++ rest)).length
            < before.length + 1 + spelling.length + length := by
          simp only [List.length_append, List.length_cons]
          omega
        simp only [if_pos hshort, if_pos hexceeds]
        exact .error
      · obtain ⟨content, rest, rfl, rfl⟩ : ∃ content rest', rest = content ++ rest'
            ∧ length = content.length :=
          ⟨rest.take length, rest.drop length, (List.take_append_drop ..).symm,
            (List.length_take_of_le (Nat.le_of_not_lt hshort)).symm⟩
        have hwithin : ¬ (before ++ tag :: (spelling ++ (content ++ rest))).length
            < before.length + 1 + spelling.length + content.length := by
          simp only [List.length_append, List.length_cons]
          omega
        have hcontent : slice? (before ++ tag :: (spelling ++ (content ++ rest)))
            (before.length + 1 + spelling.length)
            (before.length + 1 + spelling.length + content.length) = some content := by
          simpa [Nat.add_assoc, Nat.add_comm 1] using
            slice?_append (before ++ tag :: spelling) content rest
        have hraw : slice? (before ++ tag :: (spelling ++ (content ++ rest))) before.length
            (before.length + 1 + spelling.length + content.length)
              = some (tag :: spelling ++ content) := by
          simpa [Nat.add_assoc, Nat.add_comm 1] using
            slice?_append before (tag :: spelling ++ content) rest
        simp only [if_neg hshort, if_neg hwithin, hcontent, hraw, List.take_left, List.drop_left]
        have hfaces : Cursor.Faces ⟨before ++ tag :: (spelling ++ (content ++ rest)),
            before.length + 1 + spelling.length + content.length⟩ rest :=
          ⟨before ++ tag :: (spelling ++ content), by simp [Nat.add_assoc, Nat.add_comm 1]⟩
        exact .ok ⟨rfl, hfaces⟩

theorem Cursor.expect_within {role : String} {cursor : Cursor} (hfaces : cursor.Faces bytes) :
  Within (fun found read => found.1 = read.1.found ∧ found.2.Faces read.2)
    (cursor.expect tag role) (Der.expect tag role bytes)
  := by
  refine (Cursor.read_within hfaces).bind ?_
  rintro ⟨_, behind⟩ ⟨e, rest⟩ - ⟨rfl, hbehind⟩
  change Within _ (if e.tag = tag then _ else _) (if e.tag = tag then _ else _)
  by_cases htag : e.tag = tag
  · rw [if_pos htag, if_pos htag]
    exact .ok ⟨rfl, hbehind⟩
  · rw [if_neg htag, if_neg htag]
    exact .error

theorem Cursor.unversioned_within {cursor : Cursor} (hfaces : cursor.Faces bytes) :
  Within Cursor.Faces cursor.unversioned (Der.unversioned bytes)
  := by
  rw [Cursor.unversioned, hfaces.getElem?, Der.unversioned]
  by_cases hhead : bytes.head? = some versionTag
  · rw [if_pos hhead, if_pos hhead, map_eq_pure_bind, map_eq_pure_bind]
    refine (Cursor.read_within hfaces).bind ?_
    rintro _ _ - ⟨-, hbehind⟩
    exact .ok hbehind
  · rw [if_neg hhead, if_neg hhead]
    exact .ok hfaces

/-- Looking for the key never leaves the bytes, and finds what reading from the front finds. -/
theorem Cursor.publicKeyInfo_run (certificate : Bytes) :
  (Cursor.publicKeyInfo certificate).run = some (Der.publicKeyInfo certificate)
  := by
  have hwithin : Within Eq (Cursor.publicKeyInfo certificate) (Der.publicKeyInfo certificate) := by
    rw [publicKeyInfo_eq]
    refine (Cursor.expect_within (Cursor.faces_start certificate)).bind ?_
    rintro ⟨_, _⟩ ⟨outer, _⟩ - ⟨rfl, -⟩
    refine (Cursor.expect_within (Cursor.faces_start outer.content)).bind ?_
    rintro ⟨_, _⟩ ⟨signed, _⟩ - ⟨rfl, -⟩
    refine (Cursor.unversioned_within (Cursor.faces_start signed.content)).bind ?_
    rintro _ _ - hfaces
    refine (Cursor.read_within hfaces).bind ?_
    rintro _ _ - ⟨-, hfaces⟩
    refine (Cursor.expect_within hfaces).bind ?_
    rintro _ _ - ⟨-, hfaces⟩
    refine (Cursor.expect_within hfaces).bind ?_
    rintro _ _ - ⟨-, hfaces⟩
    refine (Cursor.expect_within hfaces).bind ?_
    rintro _ _ - ⟨-, hfaces⟩
    refine (Cursor.expect_within hfaces).bind ?_
    rintro _ _ - ⟨-, hfaces⟩
    refine (Cursor.expect_within hfaces).bind ?_
    rintro _ _ - ⟨hkey, -⟩
    exact .ok (congrArg Found.raw hkey)
  cases houtcome : Der.publicKeyInfo certificate with
  | error defect =>
      rw [houtcome] at hwithin
      exact hwithin
  | ok key =>
      rw [houtcome] at hwithin
      obtain ⟨_, hrun, rfl⟩ := hwithin
      exact hrun

/-- A key is found exactly in the certificates that carry it. What else the elements and the rests
hold has no influence on what is found, and nothing outside of the certificate is looked at. -/
theorem publicKeyInfo_eq_ok_iff (certificate key : Bytes) :
  (publicKeyInfo certificate = .ok key ↔ Carries certificate key)
    ∧ (∀ certificate' : Bytes, Similar certificate certificate' →
      publicKeyInfo certificate' = publicKeyInfo certificate)
    ∧ (Cursor.publicKeyInfo certificate).run = some (publicKeyInfo certificate)
  :=
  ⟨carries_iff.symm, fun _ hsimilar => (publicKeyInfo_congr hsimilar).symm,
    Cursor.publicKeyInfo_run certificate⟩

end FirmwareUpdate.Der
