import FirmwareUpdate.Bench.Chip
import FirmwareUpdate.Device.Settings
import FirmwareUpdate.Proofs.Ensures
import FirmwareUpdate.Proofs.Record.ConfigRecord

/-!
# Settings that are saved and loaded

The record of settings is read back as the settings, so a device loads what it has saved as long as
the record is stored as it is. Loading goes on with something else in two cases. A record above the
size limit is saved without objection, and cannot be read; and settings without a password, as for
an open network, are given the network of the build.
-/

namespace FirmwareUpdate.Device.Settings

open Record

variable {κ : Type} {kit : Kit κ} {stored : κ → Option Bytes} {build : BuildSettings}
  {settings : Settings} {site : Site (Board κ)}

/-! ### Reading back a record -/

/-- The texts of the settings' values, and what they change in a draft. -/
def values (settings : Settings) : List (String × (Settings → Settings)) := [
  (Quoted.encode settings.ssid, fun draft => { draft with ssid := settings.ssid }),
  (Quoted.encode settings.password, fun draft => { draft with password := settings.password }),
  (settings.updater.record, fun draft => { draft with updater := settings.updater })]

/-- The members of the settings' record. -/
def members (settings : Settings) : List (Member Settings) :=
  format.withValues settings.values

theorem record_eq (settings : Settings) :
  settings.record = Member.object settings.members
  := rfl

theorem isRead_of_mem_members (settings : Settings) :
  ∀ member ∈ settings.members, member.IsRead
  := by
  have htext (text : String) (rest : Bytes) (_ : EndsNumber rest) := yields_readText text rest
  have hupdater (rest : Bytes) (_ : EndsNumber rest) :
      Reader.Yields (Config.format.read {}) (utf8 settings.updater.record ++ rest)
        settings.updater rest := by
    have hread := settings.updater.describes_members.yields_read {} rest
    rwa [Config.applied_members, ← Config.record_eq] at hread
  simp only [members, Format.withValues, values, format, List.zipWith_cons_cons,
    List.zipWith_nil_left, List.forall_mem_cons, List.not_mem_nil, false_implies, implies_true,
    and_true]
  exact ⟨Member.isRead_of rfl rfl (htext _), Member.isRead_of rfl rfl (htext _),
    Member.isRead_of rfl rfl hupdater⟩

/-- The record of the settings describes them. -/
theorem describes_members (settings : Settings) :
  Format.Describes settings.members format
  where
  fields_eq := rfl
  nodup := by decide
  isRead := settings.isRead_of_mem_members

theorem ofRecord_record (settings : Settings) :
  ofRecord (utf8 settings.record) = .ok settings
  := by
  rw [record_eq, ofRecord, settings.describes_members.readAll_eq]
  rfl

/-! ### Storing a record -/

/-- A kit that stores the record as it is given, unless writing fails, and gives it back if it does
not exceed the capacity that is asked for. -/
structure Stores (kit : Kit κ) (stored : κ → Option Bytes) : Prop where
  read_keeps (capacity : Nat) (state : κ) :
    stored (kit (.readRecord path capacity) state).2 = stored state
  read_fits {capacity : Nat} {state : κ} {record : Bytes} (h : stored state = some record)
    (hfits : record.length ≤ capacity) :
    (kit (.readRecord path capacity) state).1 = .ok (some record)
  read_long {capacity : Nat} {state : κ} {record : Bytes} (h : stored state = some record)
    (hlong : capacity < record.length) :
    ∃ message, (kit (.readRecord path capacity) state).1 = .error message
  write_ok {record : Bytes} {state : κ} (h : (kit (.writeRecord path record) state).1 = .ok ()) :
    stored (kit (.writeRecord path record) state).2 = some record
  write_error {record : Bytes} {state : κ} {message : String}
    (h : (kit (.writeRecord path record) state).1 = .error message) :
    stored (kit (.writeRecord path record) state).2 = stored state
      ∨ stored (kit (.writeRecord path record) state).2 = some record

/-- Whether the record of the settings is small enough to be loaded. -/
def Fits (settings : Settings) : Prop :=
  (utf8 settings.record).length ≤ capacity

instance (settings : Settings) : Decidable settings.Fits :=
  inferInstanceAs (Decidable (_ ≤ _))

/-- The settings do not fit if the path of the image alone does not. -/
theorem not_fits (h : capacity < settings.updater.firmwarePath.length) :
  ¬ settings.Fits
  := by
  have hpath : Quoted.encode settings.updater.firmwarePath
      ∈ settings.updater.members.map Member.value := by
    simp [Config.members, Format.withValues, Config.values, Config.format]
  have hupdater : settings.updater.record ∈ settings.members.map Member.value := by
    simp [members, Format.withValues, values, format]
  have hquoted := Quoted.length_le_encode settings.updater.firmwarePath
  have hrecord := Member.length_value_le hpath
  have hsettings := Member.length_value_le hupdater
  rw [← Config.record_eq] at hrecord
  rw [← record_eq] at hsettings
  rw [Fits]
  omega

/-- The settings that a device goes on with when a record of settings is stored. -/
def resumed (build : BuildSettings) (settings : Settings) : Settings :=
  if settings.Fits then (settings.withNetwork build).certified build else ofBuild build

theorem Stores.write (h : Stores kit stored) (record : Bytes) (state : κ) :
  stored (kit (.writeRecord path record) state).2 = stored state
    ∨ stored (kit (.writeRecord path record) state).2 = some record
  := by
  cases hanswer : (kit (.writeRecord path record) state).1 with
  | error message => exact h.write_error hanswer
  | ok => exact .inr (h.write_ok hanswer)

/-- Saving asks the kit to write the record, and nothing else. -/
theorem save_run (settings : Settings) (site : Site (Board κ)) :
  (save kit settings site).1 = (kit (.writeRecord path (utf8 settings.record)) site.state.kit).1
    ∧ (save kit settings site).2.state.kit
      = (kit (.writeRecord path (utf8 settings.record)) site.state.kit).2
  := by
  obtain ⟨answer, hanswer⟩ : ∃ answer : Except String Unit,
      (ask kit (.writeRecord path (utf8 settings.record)) site).1 = answer := ⟨_, rfl⟩
  have hkit : (kit (.writeRecord path (utf8 settings.record)) site.state.kit).1 = answer := hanswer
  rw [save, Op.bind_eq, hanswer, hkit]
  cases answer with
  | error message => exact ⟨rfl, rfl⟩
  | ok => exact ⟨rfl, rfl⟩

theorem saveOrReport_kit (what : String) (settings : Settings) (site : Site (Board κ)) :
  (saveOrReport kit what settings site).2.state.kit = (save kit settings site).2.state.kit
  := by
  rw [saveOrReport, Op.bind_eq]
  cases (save kit settings site).1 with
  | error message => rfl
  | ok => rfl

/-- Loading asks the kit to read the record, and nothing else. -/
theorem load_kit (site : Site (Board κ)) :
  (load kit site).2.state.kit = (kit (.readRecord path capacity) site.state.kit).2
  := by
  obtain ⟨answer, hanswer⟩ : ∃ answer : Except String (Option Bytes),
      (ask kit (.readRecord path capacity) site).1 = answer := ⟨_, rfl⟩
  rw [load, Op.bind_eq, hanswer]
  obtain message | _ | text := answer
  · rfl
  · rfl
  · dsimp only
    cases ofRecord text <;> rfl

/-- A record that fits is loaded as the settings that it was made from. -/
theorem load_of_fits (h : Stores kit stored)
    (hstored : stored site.state.kit = some (utf8 settings.record)) (hfits : settings.Fits) :
  (load kit site).1 = .ok settings
  := by
  have hread : (ask kit (.readRecord path capacity) site).1 = .ok (some (utf8 settings.record)) :=
    h.read_fits hstored hfits
  rw [load, Op.bind_eq, hread]
  dsimp only
  rw [ofRecord_record]
  rfl

/-- A record that does not fit is not read. -/
theorem load_of_long (h : Stores kit stored)
    (hstored : stored site.state.kit = some (utf8 settings.record)) (hlong : ¬ settings.Fits) :
  ∃ message, (load kit site).1 = .error message
  := by
  obtain ⟨message, hmessage⟩ := h.read_long hstored (Nat.lt_of_not_le hlong)
  have hread : (ask kit (.readRecord path capacity) site).1 = .error message := hmessage
  use message
  rw [load, Op.bind_eq, hread]
  rfl

theorem stored_save (h : Stores kit stored) (hsave : (save kit settings site).1 = .ok ()) :
  stored (save kit settings site).2.state.kit = some (utf8 settings.record)
  := by
  rw [(save_run settings site).2]
  apply h.write_ok
  rw [← (save_run settings site).1, hsave]

/-- After an attempt to save settings, their record is stored or the one that was there. -/
theorem stored_saveOrReport (h : Stores kit stored) (what : String) {record : Bytes}
    (hstored : stored site.state.kit = some record) :
  stored (saveOrReport kit what settings site).2.state.kit = some record
    ∨ stored (saveOrReport kit what settings site).2.state.kit = some (utf8 settings.record)
  := by
  rw [saveOrReport_kit, (save_run settings site).2, ← hstored]
  apply h.write

/-- What is loaded when the record of some settings is stored, and what is stored then. -/
theorem loadOrDefault_of_stored (build : BuildSettings) (h : Stores kit stored)
    (hstored : stored site.state.kit = some (utf8 settings.record)) :
  (loadOrDefault kit build site).1 = settings.resumed build
    ∧ (stored (loadOrDefault kit build site).2.state.kit = some (utf8 settings.record)
      ∨ stored (loadOrDefault kit build site).2.state.kit
        = some (utf8 (settings.resumed build).record))
  := by
  have hread : stored (load kit site).2.state.kit = some (utf8 settings.record) := by
    rw [load_kit, h.read_keeps, hstored]
  by_cases hfits : settings.Fits
  case pos =>
    rw [resumed, if_pos hfits, loadOrDefault, Op.bind_eq, load_of_fits h hstored hfits]
    dsimp only
    cases (!settings.hasNetwork || !settings.isCertified build) with
    | false => exact ⟨rfl, .inl hread⟩
    | true => exact ⟨rfl, stored_saveOrReport h _ hread⟩
  case neg =>
    obtain ⟨message, hmessage⟩ := load_of_long h hstored hfits
    rw [resumed, if_neg hfits, loadOrDefault, Op.bind_eq, hmessage]
    exact ⟨rfl, stored_saveOrReport h _ hread⟩

theorem certified_of_isCertified (h : settings.isCertified build = true) :
  settings.certified build = settings
  := by
  rw [isCertified, Bool.and_eq_true, beq_iff_eq, beq_iff_eq] at h
  rw [certified, ← h.1, ← h.2]

/-- Settings with a name for the network keep it if they have a password, too. -/
theorem withNetwork_eq_iff (hssid : settings.ssid ≠ "") :
  settings.withNetwork build = settings
    ↔ settings.password ≠ "" ∨ (settings.ssid = build.ssid ∧ build.password = "")
  := by
  obtain ⟨ssid, password, updater⟩ := settings
  by_cases hpassword : password = ""
  case pos =>
    subst hpassword
    have hmissing : ¬ hasNetwork ⟨ssid, "", updater⟩ = true := by simp [hasNetwork]
    rw [withNetwork, if_neg hmissing, Settings.mk.injEq]
    constructor
    · rintro ⟨hname, hopen, -⟩
      exact .inr ⟨hname.symm, hopen⟩
    · rintro (habsurd | ⟨hname, hopen⟩)
      · exact absurd rfl habsurd
      · exact ⟨hname.symm, hopen, rfl⟩
  case neg =>
    have hpresent : hasNetwork ⟨ssid, password, updater⟩ = true := by
      simpa [hasNetwork] using ⟨hssid, hpassword⟩
    rw [withNetwork, if_pos hpresent]
    exact ⟨fun _ => .inl hpassword, fun _ => rfl⟩

theorem resumed_eq_iff (hcert : settings.isCertified build = true) (hssid : settings.ssid ≠ "") :
  settings.resumed build = settings
    ↔ if settings.Fits then
        settings.password ≠ "" ∨ (settings.ssid = build.ssid ∧ build.password = "")
      else settings = ofBuild build
  := by
  rw [resumed]
  split
  case isTrue =>
    have hsame : (settings.withNetwork build).isCertified build = true := by
      rw [withNetwork]
      split <;> exact hcert
    rw [certified_of_isCertified hsame, withNetwork_eq_iff hssid]
  case isFalse => exact eq_comm

/-! ### Loading what was saved -/

/-- The states after a state in which settings have been saved: nothing but loading has changed the
stored record since. -/
inductive Later (kit : Kit κ) (stored : κ → Option Bytes) (build : BuildSettings)
    (start : Site (Board κ)) : Site (Board κ) → Prop
  | saved {site : Site (Board κ)} (h : stored site.state.kit = stored start.state.kit) :
    Later kit stored build start site
  | loaded {site after : Site (Board κ)} (h : Later kit stored build start site)
    (hafter : stored after.state.kit = stored (loadOrDefault kit build site).2.state.kit) :
    Later kit stored build start after

theorem Later.stored_eq {start : Site (Board κ)} (hlater : Later kit stored build start site)
    (h : Stores kit stored) (hstart : stored start.state.kit = some (utf8 settings.record))
    (hresumed : settings.resumed build = settings) :
  stored site.state.kit = some (utf8 settings.record)
  := by
  induction hlater with
  | saved hsame => rw [hsame, hstart]
  | loaded _ hafter ih =>
      rw [hafter]
      have hloaded := (loadOrDefault_of_stored build h ih).2
      rwa [hresumed, or_self] at hloaded

/-- Settings that have been saved can be read again exactly if their record fits. From then on they
are loaded every time exactly if they also have a password, or are of the build's network, which
has none. Settings that do not fit are loaded only if they are the defaults. -/
theorem kept_iff (h : Stores kit stored) (hsave : (save kit settings site).1 = .ok ()) :
  ((load kit (save kit settings site).2).1 = .ok settings ↔ settings.Fits)
    ∧ ∀ build : BuildSettings, settings.isCertified build = true → settings.ssid ≠ "" →
      ((∀ next, Later kit stored build (save kit settings site).2 next →
          (loadOrDefault kit build next).1 = settings)
        ↔ if settings.Fits then
            settings.password ≠ "" ∨ (settings.ssid = build.ssid ∧ build.password = "")
          else settings = ofBuild build)
  := by
  have hstored := stored_save h hsave
  constructor
  · constructor
    · intro hload
      by_contra hlong
      obtain ⟨message, hmessage⟩ := load_of_long h hstored hlong
      rw [hload] at hmessage
      cases hmessage
    · exact load_of_fits h hstored
  · intro build hcert hssid
    rw [← resumed_eq_iff hcert hssid]
    constructor
    · intro hloaded
      rw [← (loadOrDefault_of_stored build h hstored).1]
      exact hloaded _ (.saved rfl)
    · intro hresumed next hlater
      rw [(loadOrDefault_of_stored build h (hlater.stored_eq h hstored hresumed)).1, hresumed]

/-! ### Samples -/

/-- The chip for which nothing is laid down, as a kit. -/
def chip : Kit Bench.Chip :=
  Bench.Chip.answer none

/-- What the chip answers when the record is read. -/
theorem chip_read (capacity : Nat) (state : Bench.Chip) :
  chip (.readRecord path capacity) state
    = (match state.stored with
      | some record =>
        if capacity < record.length then .error "ESP_ERR_NVS_INVALID_LENGTH"
        else .ok (some record)
      | none => .ok none, state)
  := by
  obtain ⟨_, _, _, _, _, _, _, _, _, _, stored, _⟩ := state
  cases stored with
  | none => rfl
  | some record =>
      change ((if capacity < record.length then pure (.error "ESP_ERR_NVS_INVALID_LENGTH")
        else pure (.ok (some record)) : StateM Bench.Chip (Except String (Option Bytes))) _) = _
      by_cases hlong : capacity < record.length
      · rw [if_pos hlong]
        exact Prod.ext (if_pos hlong).symm rfl
      · rw [if_neg hlong]
        exact Prod.ext (if_neg hlong).symm rfl

theorem stores_chip :
  Stores chip Bench.Chip.stored
  where
  read_keeps capacity state := congrArg (fun answer => answer.2.stored) (chip_read capacity state)
  read_fits {capacity state record} h hfits := by
    have hread := congrArg Prod.fst (chip_read capacity state)
    rw [h] at hread
    exact hread.trans (if_neg (Nat.not_lt.mpr hfits))
  read_long {capacity state record} h hlong := by
    have hread := congrArg Prod.fst (chip_read capacity state)
    rw [h] at hread
    exact ⟨_, hread.trans (if_pos hlong)⟩
  write_ok _ := rfl
  write_error h := by cases h

/-- The texts of a build. -/
def sampleBuild : BuildSettings where
  ssid := "workshop"
  password := "secret"
  serverHost := "updates.example.com"
  serverPort := "443"
  metadataPath := "/ota/esp32.txt"
  pollingInterval := "3600"
  autoReboot := "true"
  rootCertificate := "root"
  peerCertificate := "peer"

/-- Settings for another network with the certificates of the build. -/
def sampleSettings (password firmwarePath : String) : Settings where
  ssid := "home"
  password
  updater := { sampleBuild.updater with firmwarePath, pollingInterval := 60 }

/-- A path with a given number of letters. -/
def samplePath (n : Nat) : String :=
  String.ofList (List.replicate n 'a')

theorem length_samplePath (n : Nat) :
  (samplePath n).length = n
  := by
  rw [samplePath, String.length_ofList, List.length_replicate]

/-- A board with the chip. -/
def sampleSite : Site (Board Bench.Chip) where
  state := { kit := {} }

/-- The chip saves whatever settings it is given, and this is reported. -/
theorem save_chip (settings : Settings) :
  (save chip settings sampleSite).1 = .ok ()
    ∧ (save chip settings sampleSite).2.notes = [⟨origin, .info, "Configuration saved to NVS"⟩]
  := ⟨rfl, rfl⟩

theorem kept_iff_sample :
  (load chip (save chip (sampleSettings "key" "/app.bin") sampleSite).2).1
      = .ok (sampleSettings "key" "/app.bin")
    ∧ ∀ next, Later chip Bench.Chip.stored sampleBuild
        (save chip (sampleSettings "key" "/app.bin") sampleSite).2 next →
      (loadOrDefault chip sampleBuild next).1 = sampleSettings "key" "/app.bin"
  := by
  obtain ⟨hsave, -⟩ := save_chip (sampleSettings "key" "/app.bin")
  have hfits : (sampleSettings "key" "/app.bin").Fits := by
    rw [Fits, Utf8.length_utf8]
    decide +kernel
  obtain ⟨hload, hkept⟩ := kept_iff stores_chip hsave
  refine ⟨hload.mpr hfits, (hkept sampleBuild (by decide) (by decide)).mpr ?_⟩
  rw [if_pos hfits]
  exact .inl (by decide)

/-- Settings with a name for the network and the certificates of the build are not kept if they have
no password, since the first loading gives them the network of the build; and if their path is too
long, they are reported as saved and cannot be read. -/
theorem not_kept :
  (∀ password firmwarePath, (sampleSettings password firmwarePath).isCertified sampleBuild = true
      ∧ (sampleSettings password firmwarePath).ssid ≠ "")
    ∧ ((save chip (sampleSettings "" "/app.bin") sampleSite).1 = .ok ()
      ∧ (loadOrDefault chip sampleBuild
          (save chip (sampleSettings "" "/app.bin") sampleSite).2).1
        = { sampleSettings "" "/app.bin" with ssid := "workshop", password := "secret" })
    ∧ (save chip (sampleSettings "key" (samplePath 9000)) sampleSite).1 = .ok ()
      ∧ (save chip (sampleSettings "key" (samplePath 9000)) sampleSite).2.notes
        = [⟨origin, .info, "Configuration saved to NVS"⟩]
      ∧ ∃ message,
        (load chip (save chip (sampleSettings "key" (samplePath 9000)) sampleSite).2).1
          = .error message
  := by
  obtain ⟨hsaved, hreported⟩ := save_chip (sampleSettings "key" (samplePath 9000))
  obtain ⟨hopen, -⟩ := save_chip (sampleSettings "" "/app.bin")
  have hname : "home" ≠ "" := by decide
  refine ⟨fun _ _ => ⟨rfl, hname⟩, ⟨hopen, ?_⟩, hsaved, hreported, ?_⟩
  · have hfits : (sampleSettings "" "/app.bin").Fits := by
      rw [Fits, Utf8.length_utf8]
      decide +kernel
    rw [(loadOrDefault_of_stored sampleBuild stores_chip (stored_save stores_chip hopen)).1,
      resumed, if_pos hfits]
    rfl
  · have hlong : ¬ (sampleSettings "key" (samplePath 9000)).Fits := by
      apply not_fits
      change capacity < (samplePath 9000).length
      rw [length_samplePath]
      decide
    exact load_of_long stores_chip (stored_save stores_chip hsaved) hlong

end FirmwareUpdate.Device.Settings
