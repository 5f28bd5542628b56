import DealDesk.Proofs.Course
import DealDesk.Proofs.Vault.Safe
import DealDesk.Vault.Basic

/-!
# Calls of a vault

A vault is called to load, to save and to clear.  What it keeps is described by a
slot, which is empty or holds a session; in memory that slot is the vault itself, and
in a safe it is what the file of the safe opens to.  Each call has one lemma that says
what it does to the slot.

**Results.** `Keeps.load`, `Keeps.save`, `Keeps.clear`: the three calls in terms of the
slot.  `Alike.answers`: vaults that keep the same give the same answers to every row of
calls, wherever they keep it.
-/

namespace DealDesk

namespace Vault

/-- A session can be put into the safe. -/
def Safe.Writable (safe : Safe) (d : Disk) : Prop :=
  ∃ nonce s, (safe.save d nonce s).1 = .ok ()

/-- The safe keeps what the slot holds. -/
def Safe.Keeps (safe : Safe) (d : Disk) : Option Session → Prop
  | none =>
      d.read safe.path = .error .missing
        ∧ ∃ made spot, safe.withFolder d = (.ok (), made) ∧ safe.Ready made spot
  | some s =>
      ∃ spot nonce mode, safe.Ready d spot
        ∧ d.node? spot = some (.file (safe.encoding nonce s) mode)

/-- The vault keeps what the slot holds. -/
def Keeps (v : Vault) (slot : Option Session) : Prop :=
  match v.store with
  | .memory kept => kept = slot
  | .file safe => safe.Keeps v.disk slot

/-- A vault from which nothing was saved yet: its file is missing, but can be written. -/
def Fresh (v : Vault) : Prop :=
  match v.store with
  | .memory kept => kept = none
  | .file safe => v.disk.read safe.path = .error .missing ∧ safe.Writable v.disk

theorem Fresh.keeps_none
    {v : Vault} (h : v.Fresh) :
    v.Keeps none := by
  rw [Fresh] at h
  rw [Keeps]
  cases hs : v.store with
  | memory kept =>
      rw [hs] at h
      exact h
  | file safe =>
      simp only [hs] at h
      obtain ⟨hmissing, nonce, s, hsave⟩ := h
      exact ⟨hmissing, Safe.ready_of_save hsave⟩

namespace Keeps

variable {v : Vault} {slot : Option Session}

/-- What is loaded is what the slot holds, if that reads back. -/
theorem load
    (h : v.Keeps slot) (hf : ∀ s, slot = some s → s.Exact) :
    v.load = .ok slot := by
  rw [Keeps] at h
  rw [Vault.load]
  cases hs : v.store with
  | memory kept =>
      simp only [hs] at h
      rw [h]
  | file safe =>
      simp only [hs] at h
      cases slot with
      | none => exact Safe.load_of_missing h.1
      | some s =>
          obtain ⟨spot, nonce, mode, hready, hnode⟩ := h
          have hopen := (safe.open?_encoding_iff nonce s s).2 (s.reread_self_iff.2 (hf s rfl))
          simp only [Safe.load, hready.read_of_file hnode, hopen]
          rfl

theorem save
    (h : v.Keeps slot) (s : Session) :
    (v.save s).1 = .ok () ∧ (v.save s).2.Keeps (some s) := by
  rw [Keeps] at h
  rw [Vault.save, Keeps]
  cases hs : v.store with
  | memory kept => exact ⟨rfl, rfl⟩
  | file safe =>
      simp only [hs] at h
      cases slot with
      | none =>
          obtain ⟨-, made, spot, hmade, hready⟩ := h
          obtain ⟨d', hsave, hready', hnode⟩ := hready.save (v.nonces v.drawn) s
          rw [← Safe.save_withFolder hmade hready] at hsave
          simp only [hsave]
          exact ⟨trivial, spot, v.nonces v.drawn, Disk.ownerMode, hready', hnode⟩
      | some s' =>
          obtain ⟨spot, -, -, hready, -⟩ := h
          obtain ⟨d', hsave, hready', hnode⟩ := hready.save (v.nonces v.drawn) s
          simp only [hsave]
          exact ⟨trivial, spot, v.nonces v.drawn, Disk.ownerMode, hready', hnode⟩

theorem clear (h : v.Keeps slot) :
    v.clear.1 = .ok () ∧ v.clear.2.Keeps none := by
  rw [Keeps] at h
  rw [Vault.clear, Keeps]
  cases hs : v.store with
  | memory kept => exact ⟨rfl, rfl⟩
  | file safe =>
      simp only [hs] at h
      cases slot with
      | none =>
          simp only [Safe.clear_of_missing h.1]
          exact ⟨trivial, h⟩
      | some s =>
          obtain ⟨spot, nonce, mode, hready, hnode⟩ := h
          obtain ⟨d', hclear, hready', hnode'⟩ := hready.clear hnode
          simp only [hclear]
          exact ⟨trivial, hready'.read_of_none hnode', d', spot, hready'.withFolder, hready'⟩

end Keeps

def blank : Vault where
  store := .memory none
  disk := ⟨[], []⟩
  nonces n := ⟨List.replicate 24 (UInt8.ofNat n), List.length_replicate⟩
  drawn := 0

theorem fresh_blank : blank.Fresh := rfl

/-- A vault with a safe on an empty disk, under a path that is one name. -/
def specimen (protection : Protection) : Vault :=
  { blank with store := .file ⟨⟨"session.json"⟩, protection⟩ }

theorem fresh_specimen (protection : Protection) :
    (specimen protection).Fresh := by
  have hparent : (Disk.Path.mk "session.json").parent? = some ⟨""⟩ := by decide +kernel
  have hfolder : (Safe.mk ⟨"session.json"⟩ protection).folder = ⟨"."⟩ := by
    simp only [Safe.folder, hparent, if_true]
  have hready : Safe.Ready ⟨⟨"session.json"⟩, protection⟩ ⟨[], []⟩ ["session.json"] :=
    { folders := by
        intro p hp
        rw [hparent] at hp
        cases hp
        exact Disk.hasFolders_of_makeFolders (d := ⟨[], []⟩) rfl
      folder := by
        rw [hfolder]
        exact ⟨[], rfl, Disk.hasFolder_root _⟩
      start := by
        change Disk.startFault? (Safe.mk ⟨"session.json"⟩ .plain).stagedStart = none
        decide +kernel
      text := by
        change Disk.textFault? ⟨"session.json"⟩ = none ∧ "session.json" ≠ ""
        decide +kernel
      way := by
        have hnames : (Disk.Path.mk "session.json").names = ["session.json"] := by decide +kernel
        rw [ite_self, hnames]
        rfl
      free := by
        change (Disk.Path.mk "session.json").isFixed = false
          ∧ (Disk.Path.mk "session.json").wantsFolder = false
        decide +kernel
      noFolder := by
        rintro ⟨mode, hn⟩
        cases hn }
  obtain ⟨d', hsave, -⟩ := hready.save ((specimen protection).nonces 0) Session.specimen
  exact ⟨hready.read_of_none rfl, _, Session.specimen, congrArg Prod.fst hsave⟩

/-- The vault keeps its session in memory. -/
def InMemory (v : Vault) : Prop :=
  ∃ slot, v.store = .memory slot

theorem not_inMemory_of_file
    {v : Vault} {safe : Safe} (h : v.store = .file safe) :
    ¬ v.InMemory := by
  rintro ⟨slot, hslot⟩
  rw [h] at hslot
  cases hslot

/-- The slot in memory, or the file of the safe, is that of the session. -/
def Stores (v : Vault) (s : Session) : Prop :=
  match v.store with
  | .memory slot => slot = some s
  | .file safe => ∃ nonce, v.disk.read safe.path = .ok (safe.encoding nonce s)

/-- What a save that succeeds leaves behind. -/
theorem stores_save
    {v : Vault} {s : Session} (h : (v.save s).1 = .ok ()) :
    (v.save s).2.Stores s := by
  rw [Stores]
  cases hs : v.store with
  | memory slot => simp only [save, hs]
  | file safe =>
      simp only [save, hs] at h ⊢
      exact ⟨v.nonces v.drawn, Safe.read_save h⟩

/-- A session that was saved is loaded from memory, and from a file if it reads back. -/
theorem load_save_iff
    {v : Vault} {s : Session} (h : (v.save s).1 = .ok ()) :
    (v.save s).2.load = .ok (some s) ↔ v.InMemory ∨ s.Exact := by
  cases hs : v.store with
  | memory slot =>
      have hmemory : v.InMemory := ⟨slot, hs⟩
      simp only [load_save_memory hs s, hmemory, true_or]
  | file safe =>
      simp only [save, hs] at h
      simp only [load, save, hs, Safe.load_save_iff h, not_inMemory_of_file hs, false_or]

/-- A vault that was cleared is empty, whatever was in it before. -/
theorem load_clear
    {v : Vault} (h : v.clear.1 = .ok ()) :
    v.clear.2.load = .ok none := by
  cases hs : v.store with
  | memory slot => exact load_clear_memory hs
  | file safe =>
      simp only [clear, hs] at h
      simp only [load, clear, hs]
      exact safe.load_of_missing (Safe.read_clear h)

/-- What a vault is asked to do. -/
inductive Call where
  | load
  | save (s : Session)
  | clear

/-- What a vault answers: what it found, or whether it did what it was asked. -/
inductive Reply where
  | found (result : Except Fault (Option Session))
  | done (result : Except Fault Unit)

def call (v : Vault) : Call → Reply × Vault
  | .load => (.found v.load, v)
  | .save s => (.done (v.save s).1, (v.save s).2)
  | .clear => (.done v.clear.1, v.clear.2)

/-- The vaults keep the same, and it can be read back. -/
def Alike (v w : Vault) : Prop :=
  ∃ slot, (∀ s, slot = some s → s.Exact) ∧ v.Keeps slot ∧ w.Keeps slot

theorem Fresh.alike
    {v w : Vault} (hv : v.Fresh) (hw : w.Fresh) :
    v.Alike w :=
  ⟨none, fun _ h => (by cases h), hv.keeps_none, hw.keeps_none⟩

namespace Alike

variable {v w : Vault}

theorem load (h : v.Alike w) :
    v.load = w.load := by
  obtain ⟨slot, hf, hv, hw⟩ := h
  rw [hv.load hf, hw.load hf]

theorem saves
    (h : v.Alike w) (s : Session) :
    (v.save s).1 = .ok () ∧ (w.save s).1 = .ok () := by
  obtain ⟨slot, -, hv, hw⟩ := h
  exact ⟨(hv.save s).1, (hw.save s).1⟩

theorem save
    (h : v.Alike w) {s : Session} (hs : s.Exact) :
    ((v.save s).1 = .ok () ∧ (w.save s).1 = .ok ()) ∧ (v.save s).2.Alike (w.save s).2 := by
  obtain ⟨slot, -, hv, hw⟩ := h
  obtain ⟨hv1, hv2⟩ := hv.save s
  obtain ⟨hw1, hw2⟩ := hw.save s
  refine ⟨⟨hv1, hw1⟩, some s, ?_, hv2, hw2⟩
  rintro _ ⟨⟩
  exact hs

theorem clear (h : v.Alike w) :
    (v.clear.1 = .ok () ∧ w.clear.1 = .ok ()) ∧ v.clear.2.Alike w.clear.2 := by
  obtain ⟨slot, -, hv, hw⟩ := h
  obtain ⟨hv1, hv2⟩ := hv.clear
  obtain ⟨hw1, hw2⟩ := hw.clear
  exact ⟨⟨hv1, hw1⟩, none, fun _ h => (by cases h), hv2, hw2⟩

theorem call
    (h : v.Alike w) {c : Call} (hc : ∀ s, c = .save s → s.Exact) :
    (v.call c).1 = (w.call c).1 ∧ (v.call c).2.Alike (w.call c).2 := by
  cases c with
  | load => exact ⟨congrArg Reply.found h.load, h⟩
  | save s =>
      obtain ⟨⟨hv, hw⟩, hafter⟩ := h.save (hc s rfl)
      exact ⟨by simp only [Vault.call, hv, hw], hafter⟩
  | clear =>
      obtain ⟨⟨hv, hw⟩, hafter⟩ := h.clear
      exact ⟨by simp only [Vault.call, hv, hw], hafter⟩

/-- A row of calls of vaults that keep the same. -/
theorem answers
    (h : v.Alike w) {calls : List Call} (hc : ∀ s, Call.save s ∈ calls → s.Exact) :
    Course.answers Vault.call v calls = Course.answers Vault.call w calls := by
  refine (Course.answers_eq_of_related (R := Alike)
    (P := fun m => ∀ s, m.input = Call.save s → s.Exact)
    ?_ h ?_).1
  · intro v w c hP halike
    exact halike.call hP
  · intro m hm s hs
    exact hc s (hs ▸ Course.input_mem hm)

end Alike

end Vault
end DealDesk
