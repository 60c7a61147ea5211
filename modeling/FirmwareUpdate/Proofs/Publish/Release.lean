import FirmwareUpdate.Proofs.Files.Tree
import FirmwareUpdate.Proofs.Publish.Announcement
import FirmwareUpdate.Proofs.Slot.Losses
import FirmwareUpdate.Publish.Publisher

/-!
# What a release leaves on a server

A release that is let through has its image copied below the root of the server and is announced
there. The paths of the image and of the announcement come from what the publisher was told, so that
they can lead to one file, or to the image itself. Then the image on the server is not the one that
is announced; otherwise it is, and a device that installs it reports what the publisher has printed.

The main statement is `publishRelease_serves`.
-/

namespace FirmwareUpdate.Publish

open FileTree

variable {α β : Type} {tree after : FileTree} {release : Release}

/-! ### Commands on a tree of files -/

/-- Where a command goes on from. -/
theorem run_bind_ok {act : ExceptT Failure (StateM FileTree) β}
    {next : β → ExceptT Failure (StateM FileTree) α} {b : β}
    (h : act.run tree = (.ok b, after)) :
  (act >>= next).run tree = (next b).run after
  := by
  rw [ExceptT.run_bind]
  change StateT.bind act.run _ tree = _
  unfold StateT.bind
  rw [h]
  rfl

/-- A command that fails in its first step leaves what that leaves. -/
theorem run_bind_error {act : ExceptT Failure (StateM FileTree) β}
    {next : β → ExceptT Failure (StateM FileTree) α} {failure : Failure}
    (h : act.run tree = (.error failure, after)) :
  (act >>= next).run tree = (.error failure, after)
  := by
  rw [ExceptT.run_bind]
  change StateT.bind act.run _ tree = _
  unfold StateT.bind
  rw [h]
  rfl

/-- A command that goes well goes well in each of its steps. -/
theorem exists_of_run_bind {act : ExceptT Failure (StateM FileTree) β}
    {next : β → ExceptT Failure (StateM FileTree) α} {a : α}
    (h : (act >>= next).run tree = (.ok a, after)) :
  ∃ b between, act.run tree = (.ok b, between) ∧ (next b).run between = (.ok a, after)
  := by
  cases hact : act.run tree with
  | mk result between =>
      cases result with
      | error failure =>
          rw [run_bind_error hact] at h
          cases h
      | ok b =>
          rw [run_bind_ok hact] at h
          exact ⟨b, between, rfl, h⟩

/-- A command that goes well has a result, and leaves a tree. -/
theorem exists_run_of_isOk {act : ExceptT Failure (StateM FileTree) α}
    (h : (act.run tree).1.isOk = true) :
  ∃ a after, act.run tree = (.ok a, after)
  := by
  cases hrun : act.run tree with
  | mk result after =>
      rw [hrun] at h
      cases result with
      | error _ => cases h
      | ok a => exact ⟨a, after, rfl⟩

/-- A command that does not change the tree. -/
def Reads (act : ExceptT Failure (StateM FileTree) α) : Prop :=
  ∀ tree : FileTree, (act.run tree).2 = tree

namespace Reads

theorem pure (a : α) :
  Reads (Pure.pure a)
  := fun _ => rfl

theorem throw_bind {failure : Failure} {next : β → ExceptT Failure (StateM FileTree) α} :
  Reads (throw failure >>= next)
  := fun _ => rfl

theorem bind {act : ExceptT Failure (StateM FileTree) β}
    {next : β → ExceptT Failure (StateM FileTree) α} (h : Reads act)
    (hnext : ∀ b, Reads (next b)) :
  Reads (act >>= next)
  := by
  intro tree
  have hact := h tree
  cases hrun : act.run tree with
  | mk result between =>
      rw [hrun] at hact
      obtain rfl : between = tree := hact
      cases result with
      | error failure => rw [run_bind_error hrun]
      | ok b =>
          rw [run_bind_ok hrun]
          exact hnext b between

end Reads

/-- An operation on files that goes well within a command goes well. -/
theorem onDisk_eq_ok {context : Option String}
    {operation : StateM FileTree (Except FileFault α)} {a : α}
    (h : (onDisk context operation).run tree = (.ok a, after)) :
  operation tree = (.ok a, after)
  := by
  change ((operation tree).1.mapError _, (operation tree).2) = _ at h
  cases hrun : operation tree with
  | mk result between =>
      rw [hrun] at h
      cases result with
      | error fault => cases h
      | ok b =>
          obtain ⟨⟨rfl⟩, rfl⟩ := Prod.mk.inj h
          rfl

/-- A step that touches no files goes well if its result is no error. -/
theorem orFail_eq_ok {ε : Type} {message : ε → String} {result : Except ε α} {a : α}
    (h : (orFail message result : ExceptT Failure (StateM FileTree) α).run tree = (.ok a, after)) :
  result = .ok a
  := by
  cases result with
  | error error => cases h
  | ok b =>
      obtain ⟨⟨rfl⟩, -⟩ := Prod.mk.inj h
      rfl

/-! ### What is let through -/

/-- Accepting a release changes no file. -/
theorem checkRelease_reads (release : Release) :
  Reads (checkRelease disk release)
  := by
  have hdigest : Reads (digestImage disk release.firmware) := by
    apply Reads.bind
    · exact fun _ => rfl
    intro _
    apply Reads.bind
    · exact fun _ => rfl
    · exact fun _ => .pure _
  unfold checkRelease
  apply Reads.bind
  · exact fun _ => rfl
  intro isThere
  dsimp only
  split
  · exact .throw_bind
  apply hdigest.bind
  rintro ⟨size, digest⟩
  dsimp only
  split
  · exact .throw_bind
  apply Reads.bind
  · exact fun _ => rfl
  · exact fun _ => .pure _

/-- What is accepted is an image, with its length and its digest, and what announces it. -/
theorem checkRelease_eq_ok {size : Nat} {digest : String} {m : Metadata}
    (h : (checkRelease disk release).run tree = (.ok (size, digest, m), after)) :
  ∃ image, tree.read release.firmware = .ok image ∧ image ≠ []
    ∧ size = image.length ∧ digest = Sha256.hex image
    ∧ announce release.version release.serverPath release.interval = .ok m ∧ after = tree
  := by
  have htree : after = tree := by
    have hreads := checkRelease_reads release tree
    rwa [h] at hreads
  unfold checkRelease at h
  obtain ⟨isThere, _, hthere, h⟩ := exists_of_run_bind h
  obtain ⟨-, rfl⟩ := Prod.mk.inj hthere
  dsimp only at h
  split at h
  · cases h
  obtain ⟨⟨length, hex⟩, _, hdigest, h⟩ := exists_of_run_bind h
  dsimp only at h
  split at h
  · cases h
  case isFalse hlength =>
  obtain ⟨metadata, _, hannounce, h⟩ := exists_of_run_bind h
  obtain ⟨⟨rfl⟩, -⟩ := Prod.mk.inj h
  unfold digestImage at hdigest
  obtain ⟨_, _, hopen, hdigest⟩ := exists_of_run_bind hdigest
  obtain ⟨-, rfl⟩ := Prod.mk.inj (onDisk_eq_ok hopen)
  obtain ⟨image, _, hread, hdigest⟩ := exists_of_run_bind hdigest
  obtain ⟨hcontent, -⟩ := Prod.mk.inj (onDisk_eq_ok hread)
  obtain ⟨⟨rfl⟩, -⟩ := Prod.mk.inj hdigest
  exact ⟨image, hcontent, mt List.length_eq_zero_iff.mpr hlength, rfl, rfl,
    orFail_eq_ok hannounce, htree⟩

/-- A release is let through if there is an image, and a version can be announced with its path. -/
def Release.IsAcceptable (release : Release) (tree : FileTree) : Prop :=
  ∃ image m, tree.read release.firmware = .ok image ∧ image ≠ []
    ∧ announce release.version release.serverPath release.interval = .ok m

/-- A release that is not let through fails and changes nothing. -/
theorem publishRelease_refuses (h : ¬ release.IsAcceptable tree) :
  ∃ failure, (publishRelease disk release).run tree = (.error failure, tree)
  := by
  cases hcheck : (checkRelease disk release).run tree with
  | mk result between =>
      cases result with
      | ok accepted =>
          obtain ⟨image, hread, hne, -, -, hannounce, -⟩ := checkRelease_eq_ok hcheck
          exact absurd ⟨image, _, hread, hne, hannounce⟩ h
      | error failure =>
          have hreads := checkRelease_reads release tree
          rw [hcheck] at hreads
          obtain rfl : between = tree := hreads
          exact ⟨failure, run_bind_error hcheck⟩

/-! ### What is published -/

/-- What a release that goes well has done, one step after the other. -/
theorem publishRelease_eq_ok {output : String}
    (h : (publishRelease disk release).run tree = (.ok output, after)) :
  ∃ (image : Bytes) (m : Metadata) (made copied laid : FileTree),
    tree.read release.firmware = .ok image ∧ image ≠ []
      ∧ announce release.version release.serverPath release.interval = .ok m
      ∧ tree.Grows made ∧ made.copy release.firmware release.imageTarget = .ok copied
      ∧ copied.Grows laid ∧ laid.write release.metadataTarget (utf8 m.render) = .ok after
      ∧ output = release.summary image.length (Sha256.hex image)
  := by
  unfold publishRelease at h
  obtain ⟨⟨size, digest, m⟩, same, hcheck, hrest⟩ := exists_of_run_bind h
  obtain ⟨image, hread, hne, hsize, hdigest, hannounce, hsame⟩ := checkRelease_eq_ok hcheck
  subst hsize hdigest hsame
  obtain ⟨_, made, hmade, hrest⟩ := exists_of_run_bind hrest
  obtain ⟨_, copied, hcopied, hrest⟩ := exists_of_run_bind hrest
  obtain ⟨_, laid, hlaid, hrest⟩ := exists_of_run_bind hrest
  obtain ⟨_, written, hwritten, hrest⟩ := exists_of_run_bind hrest
  obtain ⟨⟨rfl⟩, rfl⟩ := Prod.mk.inj hrest
  refine ⟨image, m, made, copied, laid, hread, hne, hannounce, ?_, ?_, ?_, ?_, rfl⟩
  · have hgrows := Adds.createDirectories (Path.directories release.imageTarget) same
    rwa [onDisk_eq_ok hmade] at hgrows
  · exact change_eq_ok (onDisk_eq_ok hcopied)
  · have hgrows := Adds.createDirectories (Path.directories release.metadataTarget) copied
    rwa [onDisk_eq_ok hlaid] at hgrows
  · exact change_eq_ok (onDisk_eq_ok hwritten)

/-- What the image of a release holds in the end: it is a copy, unless the copy emptied the image
itself, and the announcement is written over it if it is at the same place. -/
theorem read_imageTarget {image announcement : Bytes} {made copied laid : FileTree}
    (hread : tree.read release.firmware = .ok image) (hmade : tree.Grows made)
    (hcopied : made.copy release.firmware release.imageTarget = .ok copied)
    (hlaid : copied.Grows laid)
    (hwritten : laid.write release.metadataTarget announcement = .ok after) :
  after.read release.imageTarget = .ok
    (if tree.destination release.imageTarget = tree.destination release.metadataTarget then
      announcement
    else if tree.destination release.firmware = tree.destination release.imageTarget then []
    else image)
  := by
  have hcopy := read_copied hcopied (hmade.read hread)
  have hkeeps := (hmade.keepsPaths.trans (copy_keepsPaths hcopied)).trans hlaid.keepsPaths
  rw [read_write hwritten (hlaid.read hcopy), hkeeps.destination_eq, hkeeps.destination_eq,
    hmade.keepsPaths.destination_eq, hmade.keepsPaths.destination_eq]

/-- What devices read that ask for the announcement: the version, the path of its image, and the
interval. -/
def Release.IsReadFrom (release : Release) (announcement : Bytes) : Prop :=
  ∃ file : ImagePath, file.text = release.serverPath
    ∧ Metadata.parse announcement = ⟨some release.version, some file, release.interval⟩

/-- Devices that install an image report its length and its digest. -/
def IsReported (image : Bytes) : Prop :=
  ∀ {σ ω : Type} (s : Slots σ ω) (deeds : List Deed) (programmer : Programmer ω)
    (scene : Scene σ) (done : Installation), Programmed s deeds programmer scene →
    taken? deeds = some image → (programmer.commit s scene).1.2 = .ok done →
    done.size = image.length ∧ done.digest = Sha256.hex image

/-- The image on the server stays what it is if the announcement is elsewhere, or is the same bytes,
and if the image was not copied to itself. -/
def Release.IsApart (release : Release) (tree : FileTree) (image announcement : Bytes) : Prop :=
  if tree.destination release.imageTarget = tree.destination release.metadataTarget then
    announcement = image
  else tree.destination release.firmware ≠ tree.destination release.imageTarget

/-- A release that is not let through changes nothing. After one that goes well devices read from
the announcement what the publisher was told, and the publisher has printed the length and the
digest that are reported by devices that install the image. The image on the server has its bytes if
and only if its place is neither that of the image that was copied nor that of the announcement,
whose bytes it would otherwise have. -/
theorem publishRelease_serves (release : Release) (tree : FileTree) :
  (¬ release.IsAcceptable tree →
      ∃ failure, (publishRelease disk release).run tree = (.error failure, tree))
    ∧ ∀ output after, (publishRelease disk release).run tree = (.ok output, after) →
      ∃ image announcement : Bytes, tree.read release.firmware = .ok image
        ∧ after.read release.metadataTarget = .ok announcement
        ∧ release.IsReadFrom announcement
        ∧ output = release.summary image.length (Sha256.hex image) ∧ IsReported image
        ∧ (after.read release.imageTarget = .ok image
          ↔ release.IsApart tree image announcement)
  := by
  refine ⟨publishRelease_refuses, ?_⟩
  intro output after h
  obtain ⟨image, m, made, copied, laid, hread, hne, hannounce, hmade, hcopied, hlaid, hwritten,
    rfl⟩ := publishRelease_eq_ok h
  refine ⟨image, utf8 m.render, hread, read_written hwritten, ?_, rfl, ?_, ?_⟩
  · obtain ⟨file, hfile, hm, -, -⟩ := Metadata.announce_eq hannounce
    exact ⟨file, hfile, (Metadata.parse_render hannounce).trans hm⟩
  · intro _ _ s deeds programmer scene done hprogrammed hdata hcommit
    exact hprogrammed.reports_taken hdata hcommit
  · rw [read_imageTarget hread hmade hcopied hlaid hwritten, Release.IsApart, Except.ok.injEq]
    split
    · rfl
    split
    case isTrue hself =>
      constructor
      · rintro rfl
        exact absurd rfl hne
      · exact fun hapart => absurd hself hapart
    case isFalse hapart =>
      constructor
      · exact fun _ => hapart
      · exact fun _ => rfl

/-- The release of an image that is at a path. -/
def sampleRelease (firmware : String) : Release where
  firmware
  version := 4
  root := "www"
  imageDirectory := "/fw"
  metadata := "/ota.txt"
  interval := some 60

/-- Three bytes at a path. -/
def sampleFiles (firmware : String) : FileTree :=
  .ofFiles ["work"] [(firmware, [1, 2, 3])]

/-- An image that lies elsewhere is on the server after its release, and announced; without an image
nothing is done. -/
theorem publishRelease_serves_sample :
  (∃ failure, (publishRelease disk (sampleRelease "app.bin")).run {} = (.error failure, {}))
    ∧ ∃ output after announcement,
    (publishRelease disk (sampleRelease "app.bin")).run (sampleFiles "app.bin")
      = (.ok output, after)
      ∧ after.read "www/fw/v4.bin" = .ok [1, 2, 3]
      ∧ after.read "www/ota.txt" = .ok announcement
      ∧ (sampleRelease "app.bin").IsReadFrom announcement
  := by
  constructor
  · apply (publishRelease_serves (sampleRelease "app.bin") {}).1
    rintro ⟨_, _, ⟨⟩, -⟩
  obtain ⟨output, after, hrun⟩ : ∃ output after, (publishRelease disk (sampleRelease "app.bin")).run
      (sampleFiles "app.bin") = (.ok output, after) := exists_run_of_isOk (by decide +kernel)
  obtain ⟨image, announcement, hread, hannounced, hreads, -, -, himage⟩ :=
    (publishRelease_serves _ _).2 output after hrun
  obtain ⟨rfl⟩ : Except.ok [1, 2, 3] = Except.ok image := hread
  refine ⟨output, after, announcement, hrun, himage.mpr ?_, hannounced, hreads⟩
  unfold Release.IsApart
  rw [if_neg (by decide +kernel)]
  decide +kernel

/-- Nothing is left of an image that is released from where it is to be served: it is copied to
itself, and what is printed is the length and the digest that it had. -/
theorem publishRelease_empties :
  ∃ output after,
    (publishRelease disk (sampleRelease "www/fw/v4.bin")).run (sampleFiles "www/fw/v4.bin")
      = (.ok output, after)
      ∧ (sampleFiles "www/fw/v4.bin").read "www/fw/v4.bin" = .ok [1, 2, 3]
      ∧ (sampleRelease "www/fw/v4.bin").imageTarget = "www/fw/v4.bin"
      ∧ after.read "www/fw/v4.bin" = .ok []
      ∧ output = (sampleRelease "www/fw/v4.bin").summary 3 (Sha256.hex [1, 2, 3])
  := by
  obtain ⟨output, after, hrun⟩ : ∃ output after,
      (publishRelease disk (sampleRelease "www/fw/v4.bin")).run (sampleFiles "www/fw/v4.bin")
        = (.ok output, after) := exists_run_of_isOk (by decide +kernel)
  obtain ⟨image, m, made, copied, laid, hread, -, -, hmade, hcopied, hlaid, hwritten, rfl⟩ :=
    publishRelease_eq_ok hrun
  have himage := read_imageTarget hread hmade hcopied hlaid hwritten
  rw [if_neg (by decide +kernel), if_pos (by decide +kernel)] at himage
  obtain ⟨rfl⟩ : Except.ok [1, 2, 3] = Except.ok image := hread
  exact ⟨_, after, hrun, rfl, by decide +kernel, himage, rfl⟩

end FirmwareUpdate.Publish
