import DealDesk.Proofs.Vault.Drafts

/-!
# Replacing the file of a safe

A file that is there stands in a folder that is there, so nothing has to be made for a new
one.  Until the new one is moved over it the old one can still be read.  Whoever clears the
safe first has no old one any more, but the folder stays, and the safe can be used as before.

**Results.** `Safe.Writable.save`: into a safe that took one session any other one can be put.
`Safe.replaces_of_save`: the old file is there until the new one is.  `Safe.ready_of_read`: a
safe with a file that took a session is ready.  `Safe.clear_of_read`: it can be cleared, and
is then still writable.
-/

namespace DealDesk
namespace Vault

open Cipher

namespace Safe

variable {safe : Safe} {d : Disk}

/-- Into a safe that took one session any other one can be put. -/
theorem Writable.save (h : safe.Writable d) (nonce : Nonce) (s : Session) :
    (safe.save d nonce s).1 = .ok () := by
  obtain ⟨_, _, hsave⟩ := h
  obtain ⟨made, spot, hmade, hready⟩ := ready_of_save hsave
  obtain ⟨d', hd', -⟩ := hready.save nonce s
  rw [save_withFolder hmade hready, hd']

/-- The second disk has a new file in the place of the old one, which was there until then. -/
def Replaces (safe : Safe) (d d' : Disk) (nonce : Nonce) (s : Session) : Prop :=
  ∃ place staged, safe.stage d nonce s = (.ok place, staged)
    ∧ (∀ content, d.read safe.path = .ok content → staged.read safe.path = .ok content)
    ∧ safe.commit staged place = (.ok (), d')

/-- What is staged beside the file leaves it as it is. -/
theorem read_of_stage
    {nonce : Nonce} {s : Session} {place : Disk.Place} {staged : Disk} {content : List UInt8}
    (h : safe.stage d nonce s = (.ok place, staged)) (hread : d.read safe.path = .ok content) :
    staged.read safe.path = .ok content := by
  rw [stage_eq_lay] at h
  rcases safe.lay_cases d (safe.encoding nonce s) with ⟨e, hlay⟩ | ⟨ending, hfresh, hlay⟩
  · rw [hlay] at h
    cases h
  · rw [hlay] at h
    cases h
    have hmade := (safe.grown_withFolder d).spares (safe.path.target d.here)
    have hstaged := Disk.spares_put (Disk.not_hasFolder_of_none hfresh)
      (safe.stagedPlace_ne_target d.here ending).symm (safe.encoding nonce s) Disk.ownerMode
    exact (hmade.trans hstaged).read hread

/-- A save that succeeds replaces the file. -/
theorem replaces_of_save
    {nonce : Nonce} {s : Session} (h : (safe.save d nonce s).1 = .ok ()) :
    safe.Replaces d (safe.save d nonce s).2 nonce s := by
  rw [Safe.save] at h ⊢
  cases hstage : safe.stage d nonce s with
  | mk result staged =>
      rw [hstage] at h
      cases result with
      | error e => cases h
      | ok place =>
          exact ⟨place, staged, hstage, fun content => read_of_stage hstage, Prod.ext h rfl⟩

/-- The folders on the way to a file are there. -/
theorem isFolderAt_of_read
    {path folder : Disk.Path} {content : List UInt8} (hground : d.Grounded)
    (hparent : path.parent? = some folder) (hread : d.read path = .ok content) :
    d.isFolderAt (if folder.isAbsolute then [] else d.here) folder.names = true := by
  obtain ⟨hlocate, -⟩ := (Disk.read_eq_ok_iff d path content).1 hread
  obtain ⟨-, hway, -⟩ := (Disk.locate_eq_ok_iff d path _).1 hlocate
  have hstart : ∀ above, above <+: (if path.isAbsolute then [] else d.here) →
      d.HasFolder above := by
    intro above habove
    split at habove
    · rw [List.prefix_nil.1 habove]
      exact d.hasFolder_root
    · exact hground above habove
  obtain ⟨habsolute, hnames⟩ := Disk.Path.of_parent? hparent
  rw [habsolute, hnames]
  rcases List.eq_nil_or_concat path.names with hnil | ⟨names, last, hlast⟩
  · rw [hnil]
    exact (Disk.isFolderAt_iff d _ []).2 ⟨_, rfl, hstart _ List.prefix_rfl⟩
  · rw [List.concat_eq_append] at hlast
    rw [hlast] at hway ⊢
    rw [List.dropLast_concat]
    exact Disk.isFolderAt_of_walk hstart hway

/-- A safe that took a session is ready if its file is there. -/
theorem ready_of_read
    {content : List UInt8} (hground : d.Grounded) (hwritable : safe.Writable d)
    (hread : d.read safe.path = .ok content) :
    ∃ spot mode, safe.Ready d spot ∧ d.node? spot = some (.file content mode) := by
  obtain ⟨_, _, hsave⟩ := hwritable
  obtain ⟨made, spot, hmade, hready⟩ := ready_of_save hsave
  obtain ⟨hlocate, hbytes⟩ := (Disk.read_eq_ok_iff d safe.path content).1 hread
  obtain ⟨mode, hnode⟩ := (Disk.bytes?_eq_some_iff d _ content).1 hbytes
  -- The folder is there, since the way to the file goes through it, so none is made.
  have hsame : safe.withFolder d = (.ok (), d) := by
    rw [withFolder]
    cases hparent : safe.path.parent? with
    | none => rfl
    | some p =>
        have hfolders : d.HasFolders p :=
          ⟨(hready.folders p hparent).1, fun _ => isFolderAt_of_read hground hparent hread⟩
        simp only [Disk.makeFolders_of_hasFolders hfolders]
  rw [hsame] at hmade
  cases hmade
  have hspot := Disk.target_of_locate hready.locate
  exact ⟨spot, mode, hready, hspot ▸ hnode⟩

/-- A safe with a file can be cleared, and a session can be put into it as before. -/
theorem clear_of_read
    {content : List UInt8} (hground : d.Grounded) (hwritable : safe.Writable d)
    (hread : d.read safe.path = .ok content) :
    ∃ cleared, safe.clear d = (.ok (), cleared) ∧ cleared.read safe.path = .error .missing
      ∧ safe.Writable cleared := by
  obtain ⟨spot, mode, hready, hnode⟩ := ready_of_read hground hwritable hread
  obtain ⟨cleared, hclear, hready', hnode'⟩ := hready.clear hnode
  obtain ⟨nonce, s, -⟩ := hwritable
  obtain ⟨d', hsave, -⟩ := hready'.save nonce s
  exact ⟨cleared, hclear, hready'.read_of_none hnode', nonce, s, congrArg Prod.fst hsave⟩

/-- Only a file that is there can be corrupted. -/
theorem read_of_corrupted
    {c : Corruption} (h : safe.load d = .error (.corrupted safe.path c)) :
    ∃ content, d.read safe.path = .ok content := by
  rw [load] at h
  cases hread : d.read safe.path with
  | ok content => exact ⟨content, rfl⟩
  | error e =>
      rw [hread] at h
      cases e <;> cases h

end Safe
end Vault
end DealDesk
