import DealDesk.Proofs.Cipher.Base64
import DealDesk.Proofs.Disk.Files
import DealDesk.Proofs.Vault.Content
import DealDesk.Vault.Safe

/-!
# Safes that can be used

A safe is ready when the folder of its file is there and nothing but a file can
stand in the place of the file.  Saving and clearing leave the folders as they are,
so a safe that is ready stays ready; and a safe into which one session could be put
is ready as soon as its folder is made.

**Results.** `open?_encoding_iff`: what the bytes that are written for a session open to.
`Ready.save` and `Ready.clear`: what the two operations do with a safe that is ready.
`ready_of_save`: one session could be put into it.  `load_save_iff`: what was put into a
safe is loaded as it was exactly when it reads back.
-/

namespace DealDesk
namespace Vault

open Cipher Json

/-! ### What is written opens again -/

/-- What a sealed session is unlocked as. -/
theorem Protection.unlock_keep_iff
    (key : Key) (nonce : Nonce) (s t : Session) :
    unlock key (Base64.text nonce.bytes)
        (Base64.text (enclose key nonce (Text.bytes (Session.codec.text s)))) = .ok t
      ↔ s.Reread t := by
  rw [← Session.ofText_text_iff]
  simp only [unlock, Base64.decode_bytes_text, Nonce.ofBytes?_bytes, disclose?_enclose,
    Codec.ofBytes_bytes]
  cases Session.codec.ofText (Session.codec.text s) with
  | error e =>
      constructor
      · intro h
        cases h
      · intro h
        cases h
  | ok v => simp only [Except.ok.injEq]

namespace Safe

/-- What the bytes that are written for a session open to. -/
theorem open?_encoding_iff
    (safe : Safe) (nonce : Nonce) (s t : Session) :
    safe.open? (safe.encoding nonce s) = .ok t ↔ s.Reread t := by
  obtain ⟨path, protection⟩ := safe
  rw [open?, encoding, Codec.ofBytes_bytes]
  cases protection with
  | plain =>
      rw [← Content.gives_plain_iff, ← Content.ofText_indentedText_iff]
      simp only [Protection.keep]
      cases Content.codec.ofText (Content.codec.indentedText (.plain s)) with
      | error e =>
          constructor
          · intro h
            cases h
          · intro h
            cases h
      | ok c =>
          cases c with
          | plain v => simp [Protection.release]
          | sealed n t => simp [Protection.release]
  | sealed key =>
      have hcontent := (Content.ofText_indentedText_iff _ _).2
        (Content.readsBack_sealed (Base64.text nonce.bytes)
          (Base64.text (enclose key nonce (Text.bytes (Session.codec.text s)))))
      rw [← Protection.unlock_keep_iff key nonce s]
      simp only [Protection.keep, hcontent, Protection.release]
      cases Protection.unlock key (Base64.text nonce.bytes)
          (Base64.text (enclose key nonce (Text.bytes (Session.codec.text s)))) with
      | error e =>
          constructor
          · intro h
            cases h
          · intro h
            cases h
      | ok v => simp only [Except.ok.injEq]

/-! ### Ready safes -/

/-- A session can be put into the safe, and its file has its place at `spot`. -/
structure Ready (safe : Safe) (d : Disk) (spot : Disk.Place) : Prop where
  /-- The folder of the file is there. -/
  folders : ∀ p, safe.path.parent? = some p → d.HasFolders p
  /-- A file can be staged in the folder. -/
  folder : ∃ f, d.locate safe.folder = .ok f ∧ d.HasFolder f
  start : Disk.startFault? safe.stagedStart = none
  text : Disk.textFault? safe.path = none ∧ safe.path.text ≠ ""
  way : d.walk (if safe.path.isAbsolute then [] else d.here) safe.path.names = .ok spot
  /-- A file can be moved to where the path leads. -/
  free : safe.path.isFixed = false ∧ safe.path.wantsFolder = false
  noFolder : ¬ d.HasFolder spot

theorem endsInPoint_of_isFixed
    {p : Disk.Path} (h : p.isFixed = false) :
    p.endsInPoint = false := by
  rw [Disk.Path.isFixed] at h
  rw [Disk.Path.endsInPoint]
  cases hl : (p.parts.filter fun part => part ≠ []).getLast? with
  | none => rfl
  | some last =>
      simp only [hl, Bool.or_eq_false_iff, decide_eq_false_iff_not] at h
      simpa using h.1

namespace Ready

variable {safe : Safe} {d d' : Disk} {spot : Disk.Place}

/-- A safe stays ready while the folders stay. -/
theorem of_sameFolders
    (h : Disk.SameFolders d d') (hr : safe.Ready d spot) :
    safe.Ready d' spot where
  folders p hp := (hr.folders p hp).of_sameFolders h
  folder := by
    obtain ⟨f, hl, hf⟩ := hr.folder
    exact ⟨f, Disk.locate_of_sameFolders h hl hf, (h.2 f).2 hf⟩
  start := hr.start
  text := hr.text
  way := by
    rw [h.1]
    exact (Disk.walk_iff h).2 hr.way
  free := hr.free
  noFolder hf := hr.noFolder ((h.2 spot).1 hf)

theorem locate (hr : safe.Ready d spot) :
    d.locate safe.path = .ok spot := by
  refine (Disk.locate_eq_ok_iff d safe.path spot).2 ⟨hr.text, hr.way, ?_⟩
  cases hn : d.node? spot with
  | none => exact endsInPoint_of_isFixed hr.free.1
  | some n =>
      cases n with
      | folder mode => trivial
      | file content mode => exact hr.free.2

theorem read_of_none
    (hr : safe.Ready d spot) (hn : d.node? spot = none) :
    d.read safe.path = .error .missing := by
  simp only [Disk.read, hr.locate, hn]

theorem read_of_file
    (hr : safe.Ready d spot) {content : List UInt8} {mode : Nat}
    (hn : d.node? spot = some (.file content mode)) :
    d.read safe.path = .ok content := by
  simp only [Disk.read, hr.locate, hn]

theorem withFolder (hr : safe.Ready d spot) :
    safe.withFolder d = (.ok (), d) := by
  rw [Safe.withFolder]
  cases hp : safe.path.parent? with
  | none => rfl
  | some p => simp only [Disk.makeFolders_of_hasFolders (hr.folders p hp)]

/-- What was staged becomes the file. -/
theorem commit
    (hr : safe.Ready d spot) {place : Disk.Place} {n : Disk.Node}
    (hn : d.node? place = some n) :
    safe.commit d place = (.ok (), (d.cut place).put spot n) := by
  simp only [Safe.commit, Disk.commit, hr.locate, hn, hr.free.1, hr.free.2]
  cases hs : d.node? spot with
  | none => rfl
  | some n =>
      cases n with
      | folder mode => exact absurd ⟨mode, hs⟩ hr.noFolder
      | file content mode => rfl

/-- A session goes into the file, and the safe stays ready. -/
theorem save
    (hr : safe.Ready d spot) (nonce : Nonce) (s : Session) :
    ∃ d', safe.save d nonce s = (.ok (), d') ∧ safe.Ready d' spot
      ∧ d'.node? spot = some (.file (safe.encoding nonce s) Disk.ownerMode) := by
  obtain ⟨f, hl, mode, hf⟩ := hr.folder
  let place : Disk.Place := f ++ [d.freshName f safe.stagedStart]
  let staged : Disk := d.put place (.file (safe.encoding nonce s) Disk.ownerMode)
  have hfresh : d.node? place = none := d.node?_freshName f safe.stagedStart
  have hplace : place ≠ [] := by simp [place]
  have hstaged : safe.stage d nonce s = (.ok place, staged) := by
    simp only [stage, hr.withFolder, Disk.stage, hl, hf, hr.start, place, staged]
  have hnoFolder : ¬ d.HasFolder place := Disk.not_hasFolder_of_none hfresh
  have hsame : Disk.SameFolders d staged := Disk.sameFolders_put hnoFolder _ _
  have hready : safe.Ready staged spot := hr.of_sameFolders hsame
  have hnode : staged.node? place = some (.file (safe.encoding nonce s) Disk.ownerMode) :=
    Disk.node?_put_self d _ hplace
  have hstagedFile : ¬ staged.HasFolder place := fun h => hnoFolder ((hsame.2 place).1 h)
  have hcut : Disk.SameFolders staged (staged.cut place) := Disk.sameFolders_cut hstagedFile
  have hspot : ¬ (staged.cut place).HasFolder spot :=
    fun h => hready.noFolder ((hcut.2 spot).1 h)
  have hspotRoot : spot ≠ [] := Disk.ne_nil_of_not_hasFolder hr.noFolder
  have hcommit := hready.commit hnode
  refine ⟨(staged.cut place).put spot (.file (safe.encoding nonce s) Disk.ownerMode), ?_,
    of_sameFolders (Disk.sameFolders_put hspot _ _) (of_sameFolders hcut hready), ?_⟩
  · simp only [Safe.save, hstaged, hcommit]
  · exact Disk.node?_put_self _ _ hspotRoot

theorem clear
    (hr : safe.Ready d spot) {content : List UInt8} {mode : Nat}
    (hn : d.node? spot = some (.file content mode)) :
    ∃ d', safe.clear d = (.ok (), d') ∧ safe.Ready d' spot ∧ d'.node? spot = none := by
  refine ⟨d.cut spot, ?_, hr.of_sameFolders (Disk.sameFolders_cut hr.noFolder), ?_⟩
  · simp only [Safe.clear, Disk.remove, hr.locate, hn]
  · exact Disk.node?_cut_self d (Disk.ne_nil_of_not_hasFolder hr.noFolder)

/-- A safe that is ready can be emptied, whether it has a file or not. -/
theorem clear_eq_ok (hr : safe.Ready d spot) :
    (safe.clear d).1 = .ok () := by
  simp only [Safe.clear, Disk.remove, hr.locate]
  cases hn : d.node? spot with
  | none => rfl
  | some n =>
      cases n with
      | folder mode => exact absurd ⟨mode, hn⟩ hr.noFolder
      | file content mode => rfl

end Ready

/-- Nothing but the disk decides whether a session can be put into the safe. -/
theorem save_withFolder
    {safe : Safe} {d made : Disk} {spot : Disk.Place} (h : safe.withFolder d = (.ok (), made))
    (hr : safe.Ready made spot) (nonce : Nonce) (s : Session) :
    safe.save d nonce s = safe.save made nonce s := by
  simp only [Safe.save, stage, h, hr.withFolder]

/-- A safe that was emptied has no file. -/
theorem read_clear
    {safe : Safe} {d : Disk} (h : (safe.clear d).1 = .ok ()) :
    (safe.clear d).2.read safe.path = .error .missing := by
  rw [clear] at h ⊢
  cases hr : d.remove safe.path with
  | ok d' => exact Disk.read_of_remove hr
  | error e =>
      cases e with
      | missing => exact Disk.read_of_remove_eq_missing hr
      | _ =>
          rw [hr] at h
          cases h

theorem clear_of_missing
    {safe : Safe} {d : Disk} (h : d.read safe.path = .error .missing) :
    safe.clear d = (.ok (), d) := by
  rw [Disk.read] at h
  rw [Safe.clear, Disk.remove]
  cases hl : d.locate safe.path with
  | error e =>
      simp only [hl] at h
      cases h
      rfl
  | ok spot =>
      simp only [hl] at h ⊢
      cases hn : d.node? spot with
      | none => rfl
      | some n =>
          rw [hn] at h
          cases n with
          | folder mode => cases h
          | file content mode => cases h

theorem hasFolders_of_withFolder
    {safe : Safe} {d made : Disk} (h : safe.withFolder d = (.ok (), made)) :
    ∀ p, safe.path.parent? = some p → made.HasFolders p := by
  intro p hp
  simp only [withFolder, hp] at h
  cases hm : d.makeFolders p with
  | mk result d' =>
      rw [hm] at h
      cases result with
      | error e => cases h
      | ok u =>
          cases h
          exact Disk.hasFolders_of_makeFolders hm

/-- A file that could be staged stands in the folder of the safe, once that is made. -/
theorem of_stage
    {safe : Safe} {d staged : Disk} {nonce : Nonce} {s : Session} {place : Disk.Place}
    (h : safe.stage d nonce s = (.ok place, staged)) :
    ∃ made f, safe.withFolder d = (.ok (), made)
      ∧ (made.locate safe.folder = .ok f ∧ made.HasFolder f)
      ∧ Disk.startFault? safe.stagedStart = none
      ∧ place = f ++ [made.freshName f safe.stagedStart]
      ∧ staged = made.put place (.file (safe.encoding nonce s) Disk.ownerMode) := by
  rw [stage] at h
  cases hw : safe.withFolder d with
  | mk result made =>
      rw [hw] at h
      cases result with
      | error e => cases h
      | ok u =>
          simp only at h
          cases hd : made.stage safe.folder safe.stagedStart (safe.encoding nonce s) with
          | error e =>
              rw [hd] at h
              cases h
          | ok p =>
              rw [hd] at h
              cases h
              obtain ⟨f, hfolder, hstart, hplace, hstaged⟩ := Disk.stage_eq_ok hd
              exact ⟨made, f, rfl, hfolder, hstart, hplace, hstaged⟩

/-- A staged file that could be moved has a place to go to. -/
theorem of_commit
    {safe : Safe} {d d' : Disk} {place : Disk.Place}
    (h : safe.commit d place = (.ok (), d')) :
    ∃ spot, d.locate safe.path = .ok spot
      ∧ (safe.path.isFixed = false ∧ safe.path.wantsFolder = false) ∧ ¬ d.HasFolder spot := by
  rw [commit] at h
  cases hd : d.commit place safe.path with
  | error e =>
      rw [hd] at h
      cases h
  | ok d'' =>
      obtain ⟨n, -, hlocate, hfree, hnoFolder, -⟩ := Disk.commit_eq_ok hd
      exact ⟨safe.path.target d.here, hlocate, hfree, hnoFolder⟩

/-- A safe into which a session could be put is ready once its folder is made. -/
theorem ready_of_save
    {safe : Safe} {d : Disk} {nonce : Nonce} {s : Session}
    (h : (safe.save d nonce s).1 = .ok ()) :
    ∃ made spot, safe.withFolder d = (.ok (), made) ∧ safe.Ready made spot := by
  rw [Safe.save] at h
  cases hs : safe.stage d nonce s with
  | mk result staged =>
      rw [hs] at h
      cases result with
      | error e => cases h
      | ok place =>
          obtain ⟨made, f, hmade, hfolder, hstart, hplace, hstaged⟩ := of_stage hs
          cases hc : safe.commit staged place with
          | mk result d' =>
              simp only [hc] at h
              cases h
              obtain ⟨spot, hlocate, hfree, hnoFolder⟩ := of_commit hc
              have hsame : Disk.SameFolders made staged := by
                rw [hstaged, hplace]
                exact Disk.sameFolders_put
                  (Disk.not_hasFolder_of_none (made.node?_freshName f safe.stagedStart)) _ _
              obtain ⟨htext, hway, -⟩ := (Disk.locate_eq_ok_iff staged safe.path spot).1 hlocate
              rw [hsame.1] at hway
              exact ⟨made, spot, hmade,
                { folders := hasFolders_of_withFolder hmade
                  folder := ⟨f, hfolder⟩
                  start := hstart
                  text := htext
                  way := (Disk.walk_iff hsame).1 hway
                  free := hfree
                  noFolder := fun hf => hnoFolder ((hsame.2 spot).2 hf) }⟩

/-- A save that succeeds leaves the bytes of the session in the file. -/
theorem read_save
    {safe : Safe} {d : Disk} {nonce : Nonce} {s : Session}
    (h : (safe.save d nonce s).1 = .ok ()) :
    (safe.save d nonce s).2.read safe.path = .ok (safe.encoding nonce s) := by
  obtain ⟨made, spot, hmade, hready⟩ := ready_of_save h
  obtain ⟨d', hsave, hready', hnode⟩ := hready.save nonce s
  rw [save_withFolder hmade hready, hsave]
  exact hready'.read_of_file hnode

/-- A file that can be read gives a session, or is corrupted. -/
theorem load_cases
    (safe : Safe) {d : Disk} {content : List UInt8} (h : d.read safe.path = .ok content) :
    (∃ c, safe.load d = .error (.corrupted safe.path c)) ∨ ∃ t, safe.load d = .ok (some t) := by
  simp only [load, h, open?]
  cases Content.codec.ofBytes content with
  | error fault => exact .inl ⟨_, rfl⟩
  | ok c =>
      simp only
      cases safe.protection.release c with
      | error refusal => exact .inl ⟨_, rfl⟩
      | ok t => exact .inr ⟨t, rfl⟩

/-- What is loaded from the bytes of a session. -/
theorem load_encoding_iff
    {safe : Safe} {d : Disk} {nonce : Nonce} {s : Session}
    (h : d.read safe.path = .ok (safe.encoding nonce s)) (t : Session) :
    safe.load d = .ok (some t) ↔ s.Reread t := by
  rw [← open?_encoding_iff safe nonce s t]
  simp only [load, h]
  cases safe.open? (safe.encoding nonce s) with
  | error e => simp [Except.map]
  | ok v => simp [Except.map]

/-- The bytes of a session are corrupted exactly if its amounts cannot be read. -/
theorem corrupted_encoding_iff
    {safe : Safe} {d : Disk} {nonce : Nonce} {s : Session}
    (h : d.read safe.path = .ok (safe.encoding nonce s)) :
    (∃ c, safe.load d = .error (.corrupted safe.path c)) ↔ ¬ s.Readable := by
  rw [s.readable_iff]
  constructor
  · rintro ⟨c, hc⟩ ⟨t, ht⟩
    rw [(load_encoding_iff h t).2 ht] at hc
    cases hc
  · intro hnone
    rcases safe.load_cases h with ⟨c, hc⟩ | ⟨t, ht⟩
    · exact ⟨c, hc⟩
    · exact absurd ⟨t, (load_encoding_iff h t).1 ht⟩ hnone

/-- After a save that succeeds the session is loaded as it was exactly when it reads back. -/
theorem load_save_iff
    {safe : Safe} {d : Disk} {nonce : Nonce} {s : Session}
    (h : (safe.save d nonce s).1 = .ok ()) :
    safe.load (safe.save d nonce s).2 = .ok (some s) ↔ s.Exact := by
  rw [← s.reread_self_iff]
  exact load_encoding_iff (read_save h) s

end Safe
end Vault
end DealDesk
