import DealDesk.Proofs.Vault.Drafts

/-!
# Many writers of one safe

The file of a safe is described by a slot: the draft that was committed last, or nothing
once it was cleared.  A move preserves that description (`Bench.Sound.move`), and so does a
row of moves, whoever makes them.

**Results.** `Bench.shows_last_commit`: in every state that is reached from a safe without
a file, the file is missing or has all the bytes of the draft in the slot, and what is
loaded is what these are read as; no other move than one that fills or empties the slot
changes either.  `Bench.load_not_exact`: what is loaded need not be the session that was
committed.
-/

namespace DealDesk
namespace Vault

open Cipher

namespace Safe

variable {safe : Safe} {d : Disk}

/-! ### What is seen of a safe -/

/-- There is no file, but a session can be put into the safe. -/
def Vacant (safe : Safe) (d : Disk) : Prop :=
  d.read safe.path = .error .missing ∧ safe.Writable d

/-- Once its folder is made, a vacant safe is ready. -/
theorem Vacant.ready (h : safe.Vacant d) :
    ∃ made, safe.withFolder d = (.ok (), made) ∧ safe.Ready made (safe.path.target d.here) := by
  obtain ⟨-, nonce, s, hsave⟩ := h
  obtain ⟨made, spot, hmade, hready⟩ := ready_of_save hsave
  have htarget := Disk.target_of_locate hready.locate
  have hhere := (safe.grown_withFolder d).here
  rw [hmade] at hhere
  rw [← hhere, htarget]
  exact ⟨made, hmade, hready⟩

/--
The file is that of the draft in the slot, and is missing if the slot is empty; what is
loaded is what the bytes of the draft are read as.
-/
structure Shows (safe : Safe) (d : Disk) (slot : Option Draft) : Prop where
  bytes : d.bytes? (safe.path.target d.here) = slot.map safe.bytes
  empty : slot = none →
    safe.load d = .ok none ∨ ∃ e, safe.load d = .error (.disk .readFile safe.path e)
  full : ∀ f, slot = some f →
    (∀ t, safe.load d = .ok (some t) ↔ f.session.Reread t)
    ∧ (safe.load d = .ok (some f.session) ↔ f.session.Exact)
    ∧ ((∃ c, safe.load d = .error (.corrupted safe.path c)) ↔ ¬ f.session.Readable)

end Safe

namespace Bench

/-! ### The slot describes the file -/

/--
The drafts are whole and beside the file, and the file is that of the slot.  One that was
moved into its place can be read there; to a place without a file no way need be open.
-/
structure Sound (safe : Safe) (here : Disk.Place) (b : Bench) (slot : Option Draft) : Prop where
  home : b.disk.here = here
  drafts : ∀ f ∈ b.drafts,
    f.place ≠ safe.path.target here ∧ b.disk.bytes? f.place = some (safe.bytes f)
  empty : slot = none → b.disk.bytes? (safe.path.target here) = none
  full : ∀ f, slot = some f → b.disk.read safe.path = .ok (safe.bytes f)

namespace Sound

variable {safe : Safe} {here : Disk.Place} {b : Bench} {slot : Option Draft}

/-- The bytes in the place of the file, whether it can be read or not. -/
theorem bytes (h : Sound safe here b slot) :
    b.disk.bytes? (safe.path.target here) = slot.map safe.bytes := by
  cases slot with
  | none => exact h.empty rfl
  | some f =>
      have hread := ((Disk.read_eq_ok_iff _ _ _).1 (h.full f rfl)).2
      rw [h.home] at hread
      exact hread

/-- A change that spares the file and the drafts that are still held. -/
theorem of_spares
    (h : Sound safe here b slot) {d : Disk} {drafts : List Draft}
    (hfile : Disk.Spares (safe.path.target here) b.disk d)
    (hdrafts : ∀ f ∈ drafts, f ∈ b.drafts ∧ Disk.Spares f.place b.disk d) :
    Sound safe here ⟨d, drafts⟩ slot where
  home := hfile.here.trans h.home
  drafts f hf := by
    obtain ⟨hmem, hspares⟩ := hdrafts f hf
    obtain ⟨hne, hbytes⟩ := h.drafts f hmem
    exact ⟨hne, hspares.bytes.trans hbytes⟩
  empty hs := hfile.bytes.trans (h.empty hs)
  full f hf := by
    rw [← h.home] at hfile
    exact hfile.read (h.full f hf)

theorem withFolder (h : Sound safe here b slot) :
    Sound safe here { b with disk := (safe.withFolder b.disk).2 } slot := by
  have hgrown := safe.grown_withFolder b.disk
  exact h.of_spares (hgrown.spares _) fun f hf => ⟨hf, hgrown.spares _⟩

/-- Bytes that are laid beside the file are all in their place. -/
theorem lay
    (h : Sound safe here b slot) (content : List UInt8) :
    Sound safe here { b with disk := (safe.lay b.disk content).2 } slot
    ∧ ∀ place, (safe.lay b.disk content).1 = .ok place →
      (place ≠ safe.path.target here ∧ ∀ f ∈ b.drafts, f.place ≠ place)
      ∧ (safe.lay b.disk content).2.bytes? place = some content := by
  rcases safe.lay_cases b.disk content with ⟨e, hlay⟩ | ⟨ending, hfresh, hlay⟩
  · rw [hlay]
    refine ⟨h.withFolder, fun place hplace => ?_⟩
    cases hplace
  · rw [h.home] at hfresh hlay
    rw [hlay]
    have hmade := h.withFolder
    have hnoFolder := Disk.not_hasFolder_of_none hfresh
    have hbeside := safe.stagedPlace_ne_target here ending
    have hapart : ∀ f ∈ b.drafts, f.place ≠ safe.stagedPlace here ending := by
      intro f hf hplace
      obtain ⟨mode, hnode⟩ := (Disk.bytes?_eq_some_iff _ _ _).1 (hmade.drafts f hf).2
      rw [hplace] at hnode
      cases hfresh.symm.trans hnode
    constructor
    · exact hmade.of_spares (Disk.spares_put hnoFolder hbeside.symm _ _) fun f hf =>
        ⟨hf, Disk.spares_put hnoFolder (hapart f hf) _ _⟩
    · intro place hplace
      obtain rfl : safe.stagedPlace here ending = place := Except.ok.inj hplace
      exact ⟨⟨hbeside, hapart⟩, Disk.bytes?_put_self _ (List.concat_ne_nil _ _) _ _⟩

/-- Bytes that were laid and are removed again leave the file and the drafts. -/
theorem cut_lay
    (h : Sound safe here b slot) {content : List UInt8} {place : Disk.Place}
    (hplace : (safe.lay b.disk content).1 = .ok place) :
    Sound safe here { b with disk := (safe.lay b.disk content).2.cut place } slot := by
  obtain ⟨hsound, hlaid⟩ := h.lay content
  obtain ⟨⟨hbeside, hapart⟩, hbytes⟩ := hlaid place hplace
  have hnoFolder := Disk.not_hasFolder_of_bytes? hbytes
  exact hsound.of_spares (Disk.spares_cut hnoFolder hbeside.symm) fun f hf =>
    ⟨hf, Disk.spares_cut hnoFolder (hapart f hf)⟩

theorem stage
    (h : Sound safe here b slot) (nonce : Nonce) (s : Session) (r : Refusals) :
    Sound safe here (move safe b (.stage nonce s r)).2 slot := by
  rw [move]
  rcases safe.stageOn_cases r b.disk nonce s with
    ⟨e, hs⟩ | ⟨e, hs⟩ | ⟨e, place, hplace, hs⟩ | hs
  · rw [hs]
    exact h
  · rw [hs]
    exact h.withFolder
  · rw [hs]
    exact h.cut_lay hplace
  · obtain ⟨hsound, hlaid⟩ := h.lay (safe.encoding nonce s)
    rw [hs]
    rw [← Safe.stage_eq_lay] at hsound hlaid
    cases hstage : safe.stage b.disk nonce s with
    | mk result d =>
        rw [hstage] at hsound hlaid
        cases result with
        | error e => exact hsound
        | ok place =>
            obtain ⟨⟨hbeside, -⟩, hbytes⟩ := hlaid place rfl
            exact { hsound with
              drafts := List.forall_mem_cons.2 ⟨⟨hbeside, hbytes⟩, hsound.drafts⟩ }

/-- A staged file that is removed leaves the file of the safe and the other drafts. -/
theorem cut
    (h : Sound safe here b slot) {place : Disk.Place} {f : Draft}
    (hf : b.held? place = some f) :
    Sound safe here ⟨b.disk.cut place, b.others place⟩ slot
      ∧ Disk.SameFolders b.disk (b.disk.cut place) := by
  obtain ⟨hmem, rfl⟩ := mem_of_held? hf
  obtain ⟨hbeside, hbytes⟩ := h.drafts f hmem
  have hnoFolder := Disk.not_hasFolder_of_bytes? hbytes
  refine ⟨h.of_spares (Disk.spares_cut hnoFolder hbeside.symm) fun g hg => ?_,
    Disk.sameFolders_cut hnoFolder⟩
  obtain ⟨hgmem, hne⟩ := mem_others hg
  exact ⟨hgmem, Disk.spares_cut hnoFolder hne⟩

/-- A draft that is moved over the file is in the slot, and the folders stay. -/
theorem commit
    (h : Sound safe here b slot) {place : Disk.Place} {f : Draft}
    (hf : b.held? place = some f) {d : Disk} (hd : b.disk.commit place safe.path = .ok d) :
    Sound safe here ⟨d, b.others place⟩ (some f) ∧ Disk.SameFolders b.disk d := by
  obtain ⟨n, hn, hlocate, hfree, hnoFolder, rfl⟩ := Disk.commit_eq_ok hd
  rw [h.home] at hlocate hnoFolder ⊢
  obtain ⟨hcut, hsame⟩ := h.cut hf
  obtain ⟨hmem, rfl⟩ := mem_of_held? hf
  obtain ⟨mode, hfile⟩ := (Disk.bytes?_eq_some_iff _ _ _).1 (h.drafts f hmem).2
  rw [hn] at hfile
  cases hfile
  have hnoFolder' : ¬ (b.disk.cut f.place).HasFolder (safe.path.target here) :=
    fun hfolder => hnoFolder ((hsame.2 _).1 hfolder)
  have hfolders := hsame.trans (Disk.sameFolders_put hnoFolder' (safe.bytes f) mode)
  refine ⟨⟨h.home, fun g hg => ?_, (fun hs => by cases hs), fun g hg => ?_⟩, hfolders⟩
  · obtain ⟨hbeside, hbytes⟩ := hcut.drafts g hg
    exact ⟨hbeside, (Disk.spares_put hnoFolder' hbeside _ _).bytes.trans hbytes⟩
  · cases hg
    obtain ⟨htext, hway, -⟩ := (Disk.locate_eq_ok_iff _ _ _).1 hlocate
    rw [h.home] at hway
    have hroot := Disk.ne_nil_of_not_hasFolder hnoFolder
    have hhere : ((b.disk.cut f.place).put (safe.path.target here)
        (.file (safe.bytes f) mode)).here = here := h.home
    refine (Disk.read_eq_ok_iff _ _ _).2 ?_
    rw [hhere]
    refine ⟨(Disk.locate_eq_ok_iff _ _ _).2 ⟨htext, ?_, ?_⟩, Disk.bytes?_put_self _ hroot _ _⟩
    · rw [hhere]
      exact (Disk.walk_iff hfolders).2 hway
    · rw [Disk.node?_put_self _ _ hroot]
      exact hfree.2

/-- A file that is removed, or was missing, leaves the slot empty. -/
theorem clear
    (h : Sound safe here b slot) {r : Refusals} (hc : (safe.clearOn r b.disk).1 = .ok ()) :
    Sound safe here { b with disk := (safe.clearOn r b.disk).2 } none := by
  rcases safe.clearOn_cases r b.disk with ⟨d, hd, hclear⟩ | ⟨hmissing, hclear⟩ | ⟨e, hclear⟩
  · rw [hclear]
    obtain ⟨-, hnoFolder, rfl⟩ := Disk.remove_eq_ok hd
    rw [h.home] at hnoFolder ⊢
    refine ⟨h.home, fun f hf => ?_, fun _ => ?_, fun f hf => by cases hf⟩
    · obtain ⟨hbeside, hbytes⟩ := h.drafts f hf
      exact ⟨hbeside, (Disk.spares_cut hnoFolder hbeside).bytes.trans hbytes⟩
    · exact Disk.bytes?_cut_self _ (Disk.ne_nil_of_not_hasFolder hnoFolder)
  · rw [hclear]
    refine ⟨h.home, h.drafts, fun _ => ?_, fun f hf => by cases hf⟩
    cases slot with
    | none => exact h.empty rfl
    | some f =>
        have hread := h.full f rfl
        rw [Disk.read_of_remove_eq_missing hmissing] at hread
        cases hread
  · rw [hclear] at hc
    cases hc

/-- One move. -/
theorem move
    (h : Sound safe here b slot) (m : Move) :
    Sound safe here (b.move safe m).2
      (after slot ⟨b, m, (b.move safe m).1, (b.move safe m).2⟩) := by
  cases m with
  | stage nonce s r =>
      exact h.stage nonce s r
  | breakOff nonce s left =>
      cases left with
      | none => exact h.withFolder
      | some n => exact (h.lay _).1
  | commit place r =>
      simp only [Bench.move, after]
      cases hf : b.held? place with
      | none => simpa [hf] using h
      | some f =>
          rcases safe.commitOn_cases r b.disk place with ⟨e, hcommit⟩ | ⟨d, hd, hcommit⟩
          · simpa [hcommit] using (h.cut hf).1
          · simpa [hcommit, hf] using (h.commit hf hd).1
  | drop place =>
      simp only [Bench.move, after]
      cases hf : b.held? place with
      | none => simpa using h
      | some f => simpa using (h.cut hf).1
  | forget place =>
      exact h.of_spares (.refl _ _) fun f hf => ⟨(mem_others hf).1, .refl _ _⟩
  | clear r =>
      simp only [Bench.move, after]
      rcases safe.clearOn_cases r b.disk with ⟨d, -, hclear⟩ | ⟨-, hclear⟩ | ⟨e, hclear⟩
      · have hempty := h.clear (by rw [hclear])
        simpa only [hclear] using hempty
      · have hempty := h.clear (by rw [hclear])
        simpa only [hclear] using hempty
      · simpa only [hclear] using h
  | load r => exact h

/-- A row of moves. -/
theorem finish
    (h : Sound safe here b slot) (moves : List Move) :
    Sound safe here (Course.finish (Bench.move safe) b moves)
      ((Course.moments (Bench.move safe) b moves).foldl after slot) := by
  induction moves generalizing b slot with
  | nil => exact h
  | cons m moves ih => exact ih (h.move m)

/-- What is seen of a safe whose file is described by the slot. -/
theorem shows (h : Sound safe here b slot) : safe.Shows b.disk slot where
  bytes := by
    rw [h.home]
    exact h.bytes
  empty hs := by
    have hbytes := h.empty hs
    rw [Safe.load]
    cases hr : b.disk.read safe.path with
    | ok content =>
        have hread := ((Disk.read_eq_ok_iff _ _ _).1 hr).2
        rw [h.home, hbytes] at hread
        cases hread
    | error e =>
        cases e with
        | missing => exact .inl rfl
        | _ => exact .inr ⟨_, rfl⟩
  full f hf := by
    have hread := h.full f hf
    exact ⟨Safe.load_encoding_iff hread,
      (Safe.load_encoding_iff hread f.session).trans f.session.reread_self_iff,
      Safe.corrupted_encoding_iff hread⟩

end Sound

theorem sound_of_absent
    {safe : Safe} {d : Disk} (h : d.bytes? (safe.path.target d.here) = none) :
    Sound safe d.here ⟨d, []⟩ none :=
  ⟨rfl, fun _ hf => absurd hf List.not_mem_nil, fun _ => h, fun _ hf => by cases hf⟩

/-! ### What fills the slot -/

/-- The draft becomes the file of the safe at the moment. -/
def Commits (m : Course.Moment Bench Move Reply) (f : Draft) : Prop :=
  (∃ r, m.input = .commit f.place r) ∧ m.before.held? f.place = some f
    ∧ m.answer = .done (.ok ())

theorem commits_of_after
    {slot : Option Draft} {m : Course.Moment Bench Move Reply} {f : Draft}
    (h : after slot m = some f) :
    slot = some f ∨ Commits m f := by
  obtain ⟨b, input, answer, b'⟩ := m
  rw [after] at h
  split at h
  · rename_i place r hinput hanswer
    rcases Option.or_eq_some_iff.1 h with hf | ⟨-, hslot⟩
    · obtain ⟨-, rfl⟩ := mem_of_held? hf
      exact .inr ⟨⟨r, hinput⟩, hf, hanswer⟩
    · exact .inl hslot
  · cases h
  · exact .inl h

theorem commits_of_foldl
    {ms : List (Course.Moment Bench Move Reply)} {slot : Option Draft} {f : Draft}
    (h : ms.foldl after slot = some f) :
    slot = some f ∨ ∃ m ∈ ms, Commits m f := by
  induction ms generalizing slot with
  | nil => exact .inl h
  | cons m ms ih =>
      rcases ih h with hafter | ⟨m', hm', hcommits⟩
      · rcases commits_of_after hafter with hslot | hcommits
        · exact .inl hslot
        · exact .inr ⟨m, List.mem_cons_self, hcommits⟩
      · exact .inr ⟨m', List.mem_cons_of_mem m hm', hcommits⟩

/-- A draft that is held in the course of moves was staged in it. -/
theorem staged_of_mem
    {safe : Safe} {b : Bench} {moves : List Move} {m : Course.Moment Bench Move Reply}
    (hm : m ∈ Course.moments (move safe) b moves) {f : Draft} (hf : f ∈ m.before.drafts) :
    f ∈ b.drafts ∨ ∃ r, Move.stage f.nonce f.session r ∈ moves := by
  induction moves generalizing b with
  | nil => exact absurd hm List.not_mem_nil
  | cons first moves ih =>
      rcases List.mem_cons.1 hm with rfl | hm
      · exact .inl hf
      · rcases ih hm with hdraft | ⟨r, hstaged⟩
        · rcases drafts_move hdraft with hbefore | ⟨r, rfl⟩
          · exact .inl hbefore
          · exact .inr ⟨r, List.mem_cons_self⟩
        · exact .inr ⟨r, List.mem_cons_of_mem first hstaged⟩

/-! ### Safes that can be used -/

/-- Bytes can be laid beside the file of a safe that is ready when its folder is made. -/
theorem lay_of_ready
    {safe : Safe} {d made : Disk} {spot : Disk.Place} (hmade : safe.withFolder d = (.ok (), made))
    (hr : safe.Ready made spot) (content : List UInt8) :
    ∃ place d', safe.lay d content = (.ok place, d') ∧ safe.Ready d' spot := by
  obtain ⟨f, hlocate, mode, hn⟩ := hr.folder
  have hfresh := made.node?_freshName f safe.stagedStart
  have hsame := Disk.sameFolders_put (Disk.not_hasFolder_of_none hfresh) content Disk.ownerMode
  refine ⟨f ++ [made.freshName f safe.stagedStart], _, ?_, hr.of_sameFolders hsame⟩
  simp only [Safe.lay, hmade, Disk.stage, hlocate, hn, hr.start]

/-- Nothing was done yet, or a session can be put into the safe. -/
def Usable (safe : Safe) (d : Disk) (b : Bench) : Prop :=
  b = ⟨d, []⟩ ∨ safe.Ready b.disk (safe.path.target d.here)

namespace Usable

variable {safe : Safe} {d : Disk} {b : Bench} {slot : Option Draft}

/-- The folder is there once it is made. -/
theorem made (h : Usable safe d b) (hv : safe.Vacant d) :
    ∃ made, safe.withFolder b.disk = (.ok (), made)
      ∧ safe.Ready made (safe.path.target d.here) := by
  rcases h with rfl | h
  · exact hv.ready
  · exact ⟨b.disk, h.withFolder, h⟩

/-- Nobody holds a draft before something was done. -/
theorem ready_of_held
    (h : Usable safe d b) {place : Disk.Place} {f : Draft} (hf : b.held? place = some f) :
    safe.Ready b.disk (safe.path.target d.here) := by
  rcases h with rfl | h
  · cases hf
  · exact h

/-- A safe can still be used after staging, whether or not it was refused. -/
theorem stage
    (h : Usable safe d b) (hs : Sound safe d.here b slot) (hv : safe.Vacant d)
    (nonce : Nonce) (s : Session) (r : Refusals) :
    Usable safe d (b.move safe (.stage nonce s r)).2 := by
  obtain ⟨made, hmade, hready⟩ := h.made hv
  obtain ⟨place, d', hlay, hready'⟩ := lay_of_ready hmade hready (safe.encoding nonce s)
  rw [Bench.move]
  rcases safe.stageOn_cases r b.disk nonce s with
    ⟨e, hstage⟩ | ⟨e, hstage⟩ | ⟨e, place', hplace, hstage⟩ | hstage
  · rw [hstage]
    exact h
  · rw [hstage, hmade]
    exact .inr hready
  · obtain ⟨-, hbytes⟩ := (hs.lay (safe.encoding nonce s)).2 place' hplace
    rw [hlay] at hbytes
    rw [hstage, hlay]
    exact .inr (hready'.of_sameFolders
      (Disk.sameFolders_cut (Disk.not_hasFolder_of_bytes? hbytes)))
  · rw [hstage, Safe.stage_eq_lay, hlay]
    exact .inr hready'

theorem clear
    (h : Usable safe d b) (hv : safe.Vacant d) (r : Refusals) :
    Usable safe d (b.move safe (.clear r)).2 := by
  rcases h with rfl | h
  · rw [Bench.move, Safe.clearOn]
    cases r .removeFile with
    | some e => exact .inl rfl
    | none =>
        simp only [Safe.clear_of_missing hv.1]
        exact .inl rfl
  · exact .inr (h.of_sameFolders (safe.sameFolders_clearOn r b.disk))

/-- After any move the safe can still be used. -/
theorem move
    (h : Usable safe d b) (hs : Sound safe d.here b slot) (hv : safe.Vacant d) (m : Move) :
    Usable safe d (b.move safe m).2 := by
  cases m with
  | stage nonce s r => exact h.stage hs hv nonce s r
  | breakOff nonce s left =>
      obtain ⟨made, hmade, hready⟩ := h.made hv
      cases left with
      | none =>
          simp only [Bench.move, hmade]
          exact .inr hready
      | some n =>
          obtain ⟨place, d', hlay, hready'⟩ :=
            lay_of_ready hmade hready ((safe.encoding nonce s).take n)
          simp only [Bench.move, hlay]
          exact .inr hready'
  | commit place r =>
      rw [Bench.move]
      cases hf : b.held? place with
      | none => exact h
      | some f =>
          have hready := h.ready_of_held hf
          rcases safe.commitOn_cases r b.disk place with ⟨e, hcommit⟩ | ⟨d', hd, hcommit⟩
          · simp only [hcommit]
            exact .inr (hready.of_sameFolders (hs.cut hf).2)
          · simp only [hcommit]
            exact .inr (hready.of_sameFolders (hs.commit hf hd).2)
  | drop place =>
      rw [Bench.move]
      cases hf : b.held? place with
      | none => exact h
      | some f => exact .inr ((h.ready_of_held hf).of_sameFolders (hs.cut hf).2)
  | forget place =>
      rcases h with rfl | h
      · exact .inl rfl
      · exact .inr h
  | clear r => exact h.clear hv r
  | load r => exact h

/-- No move fails unless the machine refuses something. -/
theorem not_fails
    (h : Usable safe d b) (hs : Sound safe d.here b slot) (hv : safe.Vacant d) {m : Move}
    (hm : m.refusals = Safe.granted) :
    ¬ (b.move safe m).1.Fails := by
  obtain ⟨made, hmade, hready⟩ := h.made hv
  cases m with
  | stage nonce s r =>
      obtain rfl : r = Safe.granted := hm
      obtain ⟨place, d', hlay, -⟩ := lay_of_ready hmade hready (safe.encoding nonce s)
      rw [Bench.move, Safe.stageOn_granted, Safe.stage_eq_lay, hlay]
      exact id
  | breakOff nonce s left =>
      cases left with
      | none => exact id
      | some n => exact id
  | commit place r =>
      obtain rfl : r = Safe.granted := hm
      rw [Bench.move]
      cases hf : b.held? place with
      | none => exact id
      | some f =>
          obtain ⟨hmem, rfl⟩ := mem_of_held? hf
          obtain ⟨mode, hn⟩ := (Disk.bytes?_eq_some_iff _ _ _).1 (hs.drafts f hmem).2
          simp only [Safe.commitOn_granted, (h.ready_of_held hf).commit hn]
          exact id
  | drop place =>
      rw [Bench.move]
      cases b.held? place with
      | none => exact id
      | some f => exact id
  | forget place => exact id
  | clear r =>
      obtain rfl : r = Safe.granted := hm
      rw [Bench.move, Safe.clearOn_granted]
      rcases h with rfl | h
      · rw [Safe.clear_of_missing hv.1]
        exact id
      · rw [h.clear_eq_ok]
        exact id
  | load r => exact id

theorem finish
    (h : Usable safe d b) (hs : Sound safe d.here b slot) (hv : safe.Vacant d)
    (moves : List Move) :
    Usable safe d (Course.finish (Bench.move safe) b moves) := by
  induction moves generalizing b slot with
  | nil => exact h
  | cons m moves ih => exact ih (h.move hs hv m) (hs.move m)

/-- A safe that can be used, and has no file, is empty. -/
theorem load
    (h : Usable safe d b) (hs : Sound safe d.here b none) (hv : safe.Vacant d) :
    safe.load b.disk = .ok none := by
  rcases h with rfl | h
  · exact Safe.load_of_missing hv.1
  · have hempty := hs.empty rfl
    refine Safe.load_of_missing (h.read_of_none ?_)
    rw [Disk.bytes?] at hempty
    cases hn : b.disk.node? (safe.path.target d.here) with
    | none => rfl
    | some n =>
        cases n with
        | folder mode => exact absurd ⟨mode, hn⟩ h.noFolder
        | file content mode =>
            rw [hn] at hempty
            cases hempty

end Usable

/-! ### The state after a row of moves -/

/-- The state after moves of those who hold the safe, of whom nobody held a draft before. -/
def reached (safe : Safe) (d : Disk) (moves : List Move) : Bench :=
  Course.finish (move safe) ⟨d, []⟩ moves

/-- The draft that was committed last in the moves, unless the safe was cleared since. -/
def lastKept (safe : Safe) (d : Disk) (moves : List Move) : Option Draft :=
  kept (Course.moments (move safe) ⟨d, []⟩ moves)

/-- The move is neither a commit nor a clear, or it fails. -/
def Passive (safe : Safe) (b : Bench) (m : Move) : Prop :=
  (b.move safe m).1.Fails ∨ ((∀ r, m ≠ .clear r) ∧ ∀ place r, m ≠ .commit place r)

theorem after_of_passive
    {safe : Safe} {b : Bench} {m : Move} (h : Passive safe b m) (slot : Option Draft) :
    after slot ⟨b, m, (b.move safe m).1, (b.move safe m).2⟩ = slot := by
  rcases h with hfails | ⟨hclear, hcommit⟩
  · cases hr : (b.move safe m).1 with
    | found result =>
        rw [hr] at hfails
        exact hfails.elim
    | done result =>
        cases result with
        | ok u =>
            rw [hr] at hfails
            exact hfails.elim
        | error e => simp only [after]
  · cases m with
    | clear r => exact absurd rfl (hclear r)
    | commit place r => exact absurd rfl (hcommit place r)
    | _ => rfl

section Reached

variable {safe : Safe} {d : Disk}
  (habsent : d.bytes? (safe.path.target d.here) = none) (moves : List Move)
include habsent

theorem sound_reached :
    Sound safe d.here (reached safe d moves) (lastKept safe d moves) :=
  (sound_of_absent habsent).finish moves

theorem usable_reached (hv : safe.Vacant d) :
    Usable safe d (reached safe d moves) :=
  Usable.finish (.inl rfl) (sound_of_absent habsent) hv moves

/-- A move that is no commit and no clear leaves what is seen of the safe. -/
theorem seen_of_passive
    {m : Move} (hm : Passive safe (reached safe d moves) m) :
    ((reached safe d moves).move safe m).2.disk.bytes? (safe.path.target d.here)
        = (reached safe d moves).disk.bytes? (safe.path.target d.here)
      ∧ (lastKept safe d moves ≠ none ∨ safe.Vacant d →
        safe.load ((reached safe d moves).move safe m).2.disk
          = safe.load (reached safe d moves).disk) := by
  have hsound := sound_reached habsent moves
  have hnext := hsound.move m
  rw [after_of_passive hm] at hnext
  refine ⟨hnext.bytes.trans hsound.bytes.symm, fun h => ?_⟩
  cases hslot : lastKept safe d moves with
  | some f =>
      rw [Safe.load, Safe.load, hnext.full f hslot, hsound.full f hslot]
  | none =>
      rw [hslot] at h hsound hnext
      obtain hv : safe.Vacant d := h.resolve_left fun hne => hne rfl
      have husable := usable_reached habsent moves hv
      rw [husable.load hsound hv, (husable.move hsound hv m).load hnext hv]

end Reached

/--
Those who hold a safe stage and commit sessions, give up what they staged or are gone with
it, clear and load, in any order, and the machine refuses them whatever it will.  At first
there is no file.  Then after every row of moves the place of the file has no file, or all
the bytes of the draft that was committed last, if the safe was not cleared since.  That
draft was staged whole.  What is loaded is read from those bytes: the session itself exactly
if its amounts and its expiry read back, some session exactly if its amounts can be read.  No
other move, and none that fails, changes the file or what is loaded.  If a session could be
put into the safe at first, no move fails at which the machine refuses nothing.
-/
theorem shows_last_commit
    (safe : Safe) (d : Disk) (habsent : d.bytes? (safe.path.target d.here) = none)
    (moves : List Move) :
    safe.Shows (reached safe d moves).disk (lastKept safe d moves)
    ∧ (∀ f, lastKept safe d moves = some f →
      (∃ r, Move.stage f.nonce f.session r ∈ moves)
      ∧ ∃ m ∈ Course.moments (move safe) ⟨d, []⟩ moves, Commits m f)
    ∧ (safe.Vacant d →
      (lastKept safe d moves = none → safe.load (reached safe d moves).disk = .ok none)
      ∧ ∀ m, m.refusals = Safe.granted → ¬ ((reached safe d moves).move safe m).1.Fails)
    ∧ ∀ m, Passive safe (reached safe d moves) m →
      ((reached safe d moves).move safe m).2.disk.bytes? (safe.path.target d.here)
          = (reached safe d moves).disk.bytes? (safe.path.target d.here)
        ∧ (lastKept safe d moves ≠ none ∨ safe.Vacant d →
          safe.load ((reached safe d moves).move safe m).2.disk
            = safe.load (reached safe d moves).disk) := by
  have hsound := sound_reached habsent moves
  refine ⟨hsound.shows, ?_, ?_, ?_⟩
  · intro f hf
    rcases commits_of_foldl hf with hnone | ⟨m, hm, hcommits⟩
    · cases hnone
    · refine ⟨?_, m, hm, hcommits⟩
      rcases staged_of_mem hm (mem_of_held? hcommits.2.1).1 with hdraft | hstaged
      · exact absurd hdraft List.not_mem_nil
      · exact hstaged
  · intro hv
    have husable := usable_reached habsent moves hv
    refine ⟨fun hnone => ?_, fun m hm => husable.not_fails hsound hv hm⟩
    rw [hnone] at hsound
    exact husable.load hsound hv
  · intro m hm
    exact seen_of_passive habsent moves hm

/-- A session that can be put into the safe can be staged and committed. -/
theorem lastKept_of_save
    {safe : Safe} {d : Disk} {nonce : Nonce} {s : Session}
    (h : (safe.save d nonce s).1 = .ok ()) :
    ∃ place, lastKept safe d [.stage nonce s Safe.granted, .commit place Safe.granted]
      = some ⟨place, nonce, s⟩ := by
  rw [Safe.save] at h
  cases hs : safe.stage d nonce s with
  | mk result staged =>
      rw [hs] at h
      cases result with
      | error e => cases h
      | ok place =>
          simp only at h
          refine ⟨place, ?_⟩
          simp [lastKept, kept, Course.moments, move, hs, held?, after, h]

section Specimen

/-- A safe in the open under a path that is one name. -/
def specimen : Safe := ⟨⟨"session.json"⟩, .plain⟩

theorem bytes?_specimen :
    (⟨[], []⟩ : Disk).bytes? (specimen.path.target []) = none := by
  decide +kernel

theorem vacant_specimen : specimen.Vacant ⟨[], []⟩ :=
  Vault.fresh_specimen .plain

theorem save_specimen (s : Session) :
    (specimen.save ⟨[], []⟩ (Vault.blank.nonces 0) s).1 = .ok () :=
  ((Vault.fresh_specimen .plain).keeps_none.save s).1

theorem shows_last_commit_specimen :
    (⟨[], []⟩ : Disk).bytes? (specimen.path.target []) = none
    ∧ ∃ place, specimen.load (reached specimen ⟨[], []⟩
        [.stage (Vault.blank.nonces 0) .specimen Safe.granted, .commit place Safe.granted]).disk
      = .ok (some .specimen) := by
  obtain ⟨place, hkept⟩ := lastKept_of_save (save_specimen .specimen)
  obtain ⟨hshows, -⟩ := shows_last_commit specimen ⟨[], []⟩ bytes?_specimen
    [.stage (Vault.blank.nonces 0) .specimen Safe.granted, .commit place Safe.granted]
  refine ⟨bytes?_specimen, place, ?_⟩
  exact (hshows.full _ hkept).2.1.2 Session.exact_specimen

/-- What is loaded need not be the session that was committed last. -/
theorem load_not_exact :
    ¬ ∀ (safe : Safe) (d : Disk) (moves : List Move), safe.Vacant d →
      d.bytes? (safe.path.target d.here) = none → ∀ f, lastKept safe d moves = some f →
        safe.load (reached safe d moves).disk = .ok (some f.session) := by
  intro h
  let s : Session := Session.specimen.withBalance ⟨Session.oddAmount, 0, 0, 0⟩
  obtain ⟨place, hkept⟩ := lastKept_of_save (save_specimen s)
  have hload := h specimen ⟨[], []⟩ _ vacant_specimen bytes?_specimen _ hkept
  have hsound := sound_reached bytes?_specimen
    [.stage (Vault.blank.nonces 0) s Safe.granted, .commit place Safe.granted]
  have hexact := (hsound.shows.full _ hkept).2.1.1 hload
  exact Session.not_faithful_of_oddAmount List.mem_cons_self hexact.1

end Specimen

end Bench
end Vault
end DealDesk
