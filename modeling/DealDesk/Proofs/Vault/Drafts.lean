import DealDesk.Proofs.Course
import DealDesk.Proofs.Disk.Files
import DealDesk.Proofs.Vault.Calls

/-!
# Drafts

A safe is nothing but a path and a protection, so those who hold it in several hands hold
the same one.  Each of them puts a session into it in two moves: it is staged in a file of
its own beside the file of the safe, and that is then moved over it.  Between the two, and
in the middle of the first, anything may happen: others stage, commit, clear and load, the
staged file is given up, or the one who held it is gone and leaves it behind, whole or in
part.  The machine may refuse any step of any move.  A bench is the disk with all drafts that
are held, and a move is made on it.

**Results.** `Safe.stageOn_cases`, `Safe.lay_cases`, `Safe.commitOn_cases` and
`Safe.clearOn_cases`: what the moves do to the disk, whatever the machine refuses.
`Safe.stagedPlace_ne_target`: a staged file never stands in the place of the file of the
safe.  `Bench.drafts_move`: only staging adds a draft.
-/

namespace DealDesk
namespace Vault

open Cipher

/-! ### Drafts and moves -/

/-- A staged file that someone holds, and the session that was written into it. -/
structure Draft where
  place : Disk.Place
  nonce : Nonce
  session : Session

/-- A disk with the staged files on it that are held. -/
structure Bench where
  disk : Disk
  drafts : List Draft

/-- What one of those who hold the safe does. -/
inductive Move where
  | stage (nonce : Nonce) (s : Session) (r : Refusals)
  /-- Staging ends with the process; so many bytes are left if a file is. -/
  | breakOff (nonce : Nonce) (s : Session) (left : Option Nat)
  | commit (place : Disk.Place) (r : Refusals)
  /-- A staged file is dropped, as it is when it cannot be moved. -/
  | drop (place : Disk.Place)
  /-- The one who held a staged file is gone, and the file stays. -/
  | forget (place : Disk.Place)
  | clear (r : Refusals)
  | load (r : Refusals)

/-- What the machine refuses at the move. -/
def Move.refusals : Move → Refusals
  | .stage _ _ r => r
  | .commit _ r => r
  | .clear r => r
  | .load r => r
  | .breakOff _ _ _ => Safe.granted
  | .drop _ => Safe.granted
  | .forget _ => Safe.granted

/-- Something could not be done. -/
def Reply.Fails : Reply → Prop
  | .done (.error _) => True
  | .done (.ok ()) => False
  | .found _ => False

namespace Safe

/-- The bytes of the file that a draft becomes. -/
def bytes (safe : Safe) (f : Draft) : List UInt8 :=
  safe.encoding f.nonce f.session

/-- Bytes are written into a new file beside that of the safe. -/
def lay (safe : Safe) (d : Disk) (content : List UInt8) : Except Fault Disk.Place × Disk :=
  match safe.withFolder d with
  | (.error e, d) => (.error e, d)
  | (.ok (), d) =>
      match d.stage safe.folder safe.stagedStart content with
      | .error e => (.error (.disk .stageFile safe.folder e), d)
      | .ok (staged, d) => (.ok staged, d)

theorem stage_eq_lay (safe : Safe) (d : Disk) (nonce : Nonce) (s : Session) :
    safe.stage d nonce s = safe.lay d (safe.encoding nonce s) := rfl

end Safe

namespace Bench

/-- The draft that is held in a place. -/
def held? (b : Bench) (place : Disk.Place) : Option Draft :=
  b.drafts.find? fun f => f.place = place

/-- The drafts in other places. -/
def others (b : Bench) (place : Disk.Place) : List Draft :=
  b.drafts.filter fun f => f.place ≠ place

/-- One move.  Nobody commits or drops what nobody holds. -/
def move (safe : Safe) (b : Bench) : Move → Reply × Bench
  | .stage nonce s r =>
      match safe.stageOn r b.disk nonce s with
      | (.error e, d) => (.done (.error e), { b with disk := d })
      | (.ok place, d) => (.done (.ok ()), ⟨d, ⟨place, nonce, s⟩ :: b.drafts⟩)
  | .breakOff _ _ none => (.done (.ok ()), { b with disk := (safe.withFolder b.disk).2 })
  | .breakOff nonce s (some n) =>
      (.done (.ok ()), { b with disk := (safe.lay b.disk ((safe.encoding nonce s).take n)).2 })
  | .commit place r =>
      match b.held? place with
      | none => (.done (.ok ()), b)
      | some _ =>
          (.done (safe.commitOn r b.disk place).1,
            ⟨(safe.commitOn r b.disk place).2, b.others place⟩)
  | .drop place =>
      match b.held? place with
      | none => (.done (.ok ()), b)
      | some _ => (.done (.ok ()), ⟨b.disk.cut place, b.others place⟩)
  | .forget place => (.done (.ok ()), { b with drafts := b.others place })
  | .clear r => (.done (safe.clearOn r b.disk).1, { b with disk := (safe.clearOn r b.disk).2 })
  | .load r => (.found (safe.loadOn r b.disk), b)

/-- The slot after the moment, in which a draft may become the file or the file be removed. -/
def after (slot : Option Draft) (m : Course.Moment Bench Move Reply) : Option Draft :=
  match m.input, m.answer with
  | .commit place _, .done (.ok ()) => (m.before.held? place).or slot
  | .clear _, .done (.ok ()) => none
  | _, _ => slot

/-- The draft that was committed last, unless the safe was cleared since. -/
def kept (ms : List (Course.Moment Bench Move Reply)) : Option Draft :=
  ms.foldl after none

end Bench

/-! ### What the operations do to the disk -/

namespace Safe

variable {safe : Safe} {d : Disk}

theorem grown_withFolder (safe : Safe) (d : Disk) :
    Disk.Grown d (safe.withFolder d).2 := by
  rw [withFolder]
  cases safe.path.parent? with
  | none => exact .refl d
  | some p =>
      have h := Disk.grown_makeFolders d p
      simp only
      cases hm : d.makeFolders p with
      | mk result made =>
          rw [hm] at h
          cases result with
          | error e => exact h
          | ok u => exact h

/-- The place of a staged file with some ending, in the folder of the file. -/
def stagedPlace (safe : Safe) (here : Disk.Place) (ending : String) : Disk.Place :=
  safe.folder.target here ++ [safe.stagedStart ++ ending]

/-- A file under a path that ends in no name would lie no deeper than the folder. -/
theorem length_target_le
    {safe : Safe} (h : safe.path.name? = none) (here : Disk.Place) :
    (safe.path.target here).length ≤ (safe.folder.target here).length := by
  have hpoint : (⟨"."⟩ : Disk.Path).target here = here := rfl
  rw [folder]
  cases hparent : safe.path.parent? with
  | none =>
      simp only [hpoint]
      rw [Disk.Path.target, Disk.Path.names_eq_nil_of_parent? hparent, Disk.along]
      split
      · exact Nat.zero_le _
      · exact le_refl _
  | some p =>
      have hle := Disk.Path.length_target_le hparent h here
      obtain ⟨text⟩ := p
      by_cases hempty : text = ""
      · subst hempty
        exact hle
      · simp only [if_neg hempty]
        exact hle

/--
No staged file is in the place of the file: its name is longer than that of the file, and
without a name the file would lie higher.
-/
theorem stagedPlace_ne_target (safe : Safe) (here : Disk.Place) (ending : String) :
    safe.stagedPlace here ending ≠ safe.path.target here := by
  intro heq
  rw [stagedPlace] at heq
  cases h : safe.path.name? with
  | none =>
      have hle := length_target_le h here
      rw [← heq, List.length_append, List.length_singleton] at hle
      omega
  | some name =>
      have hlast := Disk.Path.getLast?_target h here
      rw [← heq, List.getLast?_concat, Option.some.injEq] at hlast
      have hlength := congrArg String.length hlast
      rw [stagedStart, h] at hlength
      simp only [Option.getD_some, String.length_append] at hlength
      have hpoint : ".".length = 1 := rfl
      omega

/-- Bytes are laid in a fresh place, or nothing is done but for the folder. -/
theorem lay_cases (safe : Safe) (d : Disk) (content : List UInt8) :
    (∃ e, safe.lay d content = (.error e, (safe.withFolder d).2))
    ∨ ∃ ending,
      (safe.withFolder d).2.node? (safe.stagedPlace d.here ending) = none
      ∧ safe.lay d content
        = (.ok (safe.stagedPlace d.here ending),
          (safe.withFolder d).2.put (safe.stagedPlace d.here ending)
            (.file content Disk.ownerMode)) := by
  have hhere := (safe.grown_withFolder d).here
  rw [lay]
  cases hmade : safe.withFolder d with
  | mk result made =>
      rw [hmade] at hhere
      cases result with
      | error e => exact .inl ⟨e, rfl⟩
      | ok u =>
          simp only
          cases hs : made.stage safe.folder safe.stagedStart content with
          | error e => exact .inl ⟨_, rfl⟩
          | ok p =>
              obtain ⟨folder, ⟨hlocate, -⟩, -, hplace, hd⟩ := Disk.stage_eq_ok hs
              obtain ⟨ending, hname⟩ := made.freshName_eq_append folder safe.stagedStart
              have hfolder := Disk.target_of_locate hlocate
              rw [hhere] at hfolder
              rw [hname, ← hfolder] at hplace
              refine .inr ⟨ending, ?_, ?_⟩
              · rw [stagedPlace, hfolder, ← hname]
                exact made.node?_freshName folder safe.stagedStart
              · rw [stagedPlace, ← hplace, ← hd]

/-- Staging is refused before a file is made or after it, or is done as the disk has it. -/
theorem stageOn_cases (r : Refusals) (safe : Safe) (d : Disk) (nonce : Nonce) (s : Session) :
    (∃ e, safe.stageOn r d nonce s = (.error e, d))
    ∨ (∃ e, safe.stageOn r d nonce s = (.error e, (safe.withFolder d).2))
    ∨ (∃ e place, (safe.lay d (safe.encoding nonce s)).1 = .ok place
      ∧ safe.stageOn r d nonce s
        = (.error e, (safe.lay d (safe.encoding nonce s)).2.cut place))
    ∨ safe.stageOn r d nonce s = safe.stage d nonce s := by
  rw [stageOn, withFolderOn, lay, stage]
  cases safe.path.parent?.bind fun p => (r .createFolder).map (Fault.disk .createFolder p) with
  | some fault => exact .inl ⟨fault, rfl⟩
  | none =>
      cases safe.withFolder d with
      | mk result made =>
          cases result with
          | error e => exact .inr (.inr (.inr rfl))
          | ok u =>
              simp only
              cases r .stageFile with
              | some e => exact .inr (.inl ⟨_, rfl⟩)
              | none =>
                  cases made.stage safe.folder safe.stagedStart (safe.encoding nonce s) with
                  | error e => exact .inr (.inr (.inr rfl))
                  | ok p =>
                      cases r .writeFile with
                      | some e => exact .inr (.inr (.inl ⟨_, p.1, rfl, rfl⟩))
                      | none => exact .inr (.inr (.inr rfl))

/-- A staged file is moved to the place of the file, or removed. -/
theorem commitOn_cases (r : Refusals) (safe : Safe) (d : Disk) (place : Disk.Place) :
    (∃ e, safe.commitOn r d place = (.error e, d.cut place))
    ∨ ∃ d', d.commit place safe.path = .ok d' ∧ safe.commitOn r d place = (.ok (), d') := by
  rw [commitOn]
  cases r .replaceFile with
  | some e => exact .inl ⟨_, rfl⟩
  | none =>
      simp only [commit]
      cases d.commit place safe.path with
      | error e => exact .inl ⟨_, rfl⟩
      | ok d' => exact .inr ⟨d', rfl, rfl⟩

/-- The file is removed, or was missing, or everything stays as it is. -/
theorem clearOn_cases (r : Refusals) (safe : Safe) (d : Disk) :
    (∃ d', d.remove safe.path = .ok d' ∧ safe.clearOn r d = (.ok (), d'))
    ∨ (d.remove safe.path = .error .missing ∧ safe.clearOn r d = (.ok (), d))
    ∨ ∃ e, safe.clearOn r d = (.error e, d) := by
  rw [clearOn]
  cases r .removeFile with
  | some e => exact .inr (.inr ⟨_, rfl⟩)
  | none =>
      simp only [clear]
      cases d.remove safe.path with
      | ok d' => exact .inl ⟨d', rfl, rfl⟩
      | error e =>
          cases e with
          | missing => exact .inr (.inl ⟨rfl, rfl⟩)
          | _ => exact .inr (.inr ⟨_, rfl⟩)

theorem sameFolders_clearOn (r : Refusals) (safe : Safe) (d : Disk) :
    Disk.SameFolders d (safe.clearOn r d).2 := by
  rcases safe.clearOn_cases r d with ⟨d', hd, hclear⟩ | ⟨-, hclear⟩ | ⟨e, hclear⟩
  · rw [hclear]
    obtain ⟨-, hfile, rfl⟩ := Disk.remove_eq_ok hd
    exact Disk.sameFolders_cut hfile
  · rw [hclear]
    exact .refl d
  · rw [hclear]
    exact .refl d

end Safe

namespace Bench

theorem mem_of_held?
    {b : Bench} {place : Disk.Place} {f : Draft} (h : b.held? place = some f) :
    f ∈ b.drafts ∧ f.place = place :=
  ⟨List.mem_of_find?_eq_some h, by simpa using List.find?_some h⟩

theorem mem_others
    {b : Bench} {place : Disk.Place} {f : Draft} (h : f ∈ b.others place) :
    f ∈ b.drafts ∧ f.place ≠ place := by
  simpa [others] using h

/-- Only staging adds a draft. -/
theorem drafts_move
    {safe : Safe} {b : Bench} {m : Move} {f : Draft} (hf : f ∈ (b.move safe m).2.drafts) :
    f ∈ b.drafts ∨ ∃ r, m = .stage f.nonce f.session r := by
  cases m with
  | stage nonce s r =>
      rw [move] at hf
      cases hs : safe.stageOn r b.disk nonce s with
      | mk result d =>
          rw [hs] at hf
          cases result with
          | error e => exact .inl hf
          | ok place =>
              rcases List.mem_cons.1 hf with rfl | hf
              · exact .inr ⟨r, rfl⟩
              · exact .inl hf
  | breakOff nonce s left =>
      cases left with
      | none => exact .inl hf
      | some n => exact .inl hf
  | commit place r =>
      rw [move] at hf
      cases hheld : b.held? place with
      | none =>
          rw [hheld] at hf
          exact .inl hf
      | some g =>
          rw [hheld] at hf
          exact .inl (mem_others hf).1
  | drop place =>
      rw [move] at hf
      cases hheld : b.held? place with
      | none =>
          rw [hheld] at hf
          exact .inl hf
      | some g =>
          rw [hheld] at hf
          exact .inl (mem_others hf).1
  | forget place => exact .inl (mem_others hf).1
  | clear r => exact .inl hf
  | load r => exact .inl hf

end Bench
end Vault
end DealDesk
