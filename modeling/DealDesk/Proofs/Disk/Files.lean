import DealDesk.Proofs.Disk.Folders
import DealDesk.Proofs.Disk.Places

/-!
# What a path reads

What is read under a path are the bytes of the file in its place, if the way to it is
open.  So what happens in other places is not read there, and neither are folders that are
made; they only open ways.

**Results.** `read_eq_ok_iff`: what is read under a path.  `grown_makeFolders`: making
the folders on a path adds folders and nothing else.  `Spares.read`: a file is still read
after a change that spares its place.  `commit_eq_ok`: what moving a staged file does.
`read_of_write`: what is written is read.
-/

namespace DealDesk
namespace Disk

/-! ### What stands in the place of a path -/

theorem along_of_walk
    {d : Disk} {spot place : Place} {names : List String} (h : d.walk spot names = .ok place) :
    along spot names = place := by
  induction names generalizing spot with
  | nil => exact Except.ok.inj h
  | cons name r ih =>
      rw [walk] at h
      rw [along]
      by_cases hup : name = ".."
      · rw [if_pos hup] at h ⊢
        exact ih h
      · rw [if_neg hup] at h ⊢
        by_cases hlong : nameLimit < (Text.bytes name).length
        · rw [if_pos hlong] at h
          cases h
        · rw [if_neg hlong] at h
          by_cases hr : r = []
          · rw [if_pos hr] at h
            subst hr
            exact Except.ok.inj h
          · rw [if_neg hr] at h
            cases hn : d.node? (spot ++ [name]) with
            | none =>
                rw [hn] at h
                cases h
            | some n =>
                rw [hn] at h
                cases n with
                | file content mode => cases h
                | folder mode => exact ih h

theorem target_of_locate
    {d : Disk} {p : Path} {spot : Place} (h : d.locate p = .ok spot) :
    p.target d.here = spot :=
  along_of_walk ((locate_eq_ok_iff d p spot).1 h).2.1

/-- The bytes of the file in a place. -/
def bytes? (d : Disk) (place : Place) : Option (List UInt8) :=
  match d.node? place with
  | some (.file content _) => some content
  | _ => none

theorem bytes?_eq_some_iff
    (d : Disk) (place : Place) (content : List UInt8) :
    d.bytes? place = some content ↔ ∃ mode, d.node? place = some (.file content mode) := by
  rw [bytes?]
  cases d.node? place with
  | none => simp
  | some n => cases n <;> simp

/-- What is read under a path are the bytes in its place. -/
theorem read_eq_ok_iff
    (d : Disk) (p : Path) (content : List UInt8) :
    d.read p = .ok content
      ↔ d.locate p = .ok (p.target d.here) ∧ d.bytes? (p.target d.here) = some content := by
  rw [read]
  cases hl : d.locate p with
  | error e => simp
  | ok spot =>
      rw [target_of_locate hl, bytes?]
      cases hn : d.node? spot with
      | none => simp [hn]
      | some n => cases n <;> simp [hn]

/-! ### Changes that spare a place -/

/-- The second disk still has the folders of the first, and the same bytes in a place. -/
structure Spares (place : Place) (d d' : Disk) : Prop where
  here : d'.here = d.here
  folders : ∀ spot, d.HasFolder spot → d'.HasFolder spot
  bytes : d'.bytes? place = d.bytes? place

namespace Spares

variable {place : Place} {a b c : Disk}

theorem refl (place : Place) (d : Disk) : Spares place d d :=
  ⟨rfl, fun _ h => h, rfl⟩

theorem trans (h : Spares place a b) (h' : Spares place b c) : Spares place a c :=
  ⟨h'.here.trans h.here, fun spot hs => h'.folders spot (h.folders spot hs),
    h'.bytes.trans h.bytes⟩

/-- A file that stays in its place is still read. -/
theorem read
    {p : Path} (h : Spares (p.target a.here) a b) {content : List UInt8}
    (hr : a.read p = .ok content) :
    b.read p = .ok content := by
  obtain ⟨hl, hb⟩ := (read_eq_ok_iff a p content).1 hr
  obtain ⟨ht, hw, hadmits⟩ := (locate_eq_ok_iff a p _).1 hl
  obtain ⟨mode, hn⟩ := (bytes?_eq_some_iff a _ content).1 hb
  have hb' : b.bytes? (p.target a.here) = some content := h.bytes.trans hb
  obtain ⟨mode', hn'⟩ := (bytes?_eq_some_iff b _ content).1 hb'
  refine (read_eq_ok_iff b p content).2 ?_
  rw [h.here]
  refine ⟨(locate_eq_ok_iff b p _).2 ⟨ht, ?_, ?_⟩, hb'⟩
  · rw [h.here]
    exact walk_of_folders h.folders hw
  · rw [hn] at hadmits
    rw [hn']
    exact hadmits

end Spares

theorem bytes?_put_self
    (d : Disk) {place : Place} (h : place ≠ []) (content : List UInt8) (mode : Nat) :
    (d.put place (.file content mode)).bytes? place = some content := by
  rw [bytes?, node?_put_self d _ h]

theorem bytes?_cut_self (d : Disk) {place : Place} (h : place ≠ []) :
    (d.cut place).bytes? place = none := by
  rw [bytes?, node?_cut_self d h]

theorem spares_put
    {d : Disk} {spot place : Place} (hs : ¬ d.HasFolder spot) (hne : place ≠ spot)
    (content : List UInt8) (mode : Nat) :
    Spares place d (d.put spot (.file content mode)) where
  here := rfl
  folders other h := ((sameFolders_put hs content mode).2 other).2 h
  bytes := by rw [bytes?, bytes?, node?_put_of_ne d _ hne]

theorem spares_cut
    {d : Disk} {spot place : Place} (hs : ¬ d.HasFolder spot) (hne : place ≠ spot) :
    Spares place d (d.cut spot) where
  here := rfl
  folders other h := ((sameFolders_cut hs).2 other).2 h
  bytes := by rw [bytes?, bytes?, node?_cut_of_ne d hne]

theorem not_hasFolder_of_bytes?
    {d : Disk} {place : Place} {content : List UInt8} (h : d.bytes? place = some content) :
    ¬ d.HasFolder place := by
  obtain ⟨mode, hn⟩ := (bytes?_eq_some_iff d place content).1 h
  exact not_hasFolder_of_file hn

/-! ### Making folders -/

/-- The second disk has folders where the first has nothing, and is otherwise the same. -/
structure Grown (d d' : Disk) : Prop where
  here : d'.here = d.here
  kept : ∀ place n, d.node? place = some n → d'.node? place = some n
  added : ∀ place n, d'.node? place = some n → d.node? place = some n ∨ n.isFolder = true

namespace Grown

variable {a b c : Disk}

theorem refl (d : Disk) : Grown d d :=
  ⟨rfl, fun _ _ h => h, fun _ _ h => .inl h⟩

theorem trans (h : Grown a b) (h' : Grown b c) : Grown a c where
  here := h'.here.trans h.here
  kept place n hn := h'.kept place n (h.kept place n hn)
  added place n hn := by
    rcases h'.added place n hn with hb | hf
    · exact h.added place n hb
    · exact .inr hf

theorem spares (h : Grown a b) (place : Place) : Spares place a b where
  here := h.here
  folders spot := fun ⟨mode, hn⟩ => ⟨mode, h.kept spot _ hn⟩
  bytes := by
    refine Option.ext fun content => ?_
    rw [bytes?_eq_some_iff, bytes?_eq_some_iff]
    constructor
    · rintro ⟨mode, hn⟩
      rcases h.added place _ hn with ha | hf
      · exact ⟨mode, ha⟩
      · cases hf
    · rintro ⟨mode, hn⟩
      exact ⟨mode, h.kept place _ hn⟩

end Grown

theorem grown_makeFolder
    {d d' : Disk} {spot : Place} {names : List String} (h : d.makeFolder spot names = .ok d') :
    Grown d d' := by
  rw [makeFolder] at h
  cases hw : d.walk spot names with
  | error e =>
      rw [hw] at h
      cases h
  | ok place =>
      simp only [hw] at h
      cases hn : d.node? place with
      | some n =>
          rw [hn] at h
          cases h
      | none =>
          have hplace : place ≠ [] := by
            rintro rfl
            cases hn
          simp only [hn] at h
          cases hp : d.node? place.dropLast with
          | none =>
              rw [hp] at h
              cases h
          | some n =>
              rw [hp] at h
              cases n with
              | file content mode => cases h
              | folder mode =>
                  cases h
                  refine ⟨rfl, fun other m hm => ?_, fun other m hm => ?_⟩
                  · have hne : other ≠ place := by
                      rintro rfl
                      rw [hn] at hm
                      cases hm
                    rw [node?_put_of_ne d _ hne, hm]
                  · by_cases hother : other = place
                    · subst hother
                      rw [node?_put_self d _ hplace] at hm
                      cases hm
                      exact .inr rfl
                    · rw [node?_put_of_ne d _ hother] at hm
                      exact .inl hm

theorem grown_ensureFolder
    {d d' : Disk} {spot : Place} {names : List String} (h : d.ensureFolder spot names = .ok d') :
    Grown d d' := by
  rw [ensureFolder] at h
  cases hm : d.makeFolder spot names with
  | ok made =>
      rw [hm] at h
      cases h
      exact grown_makeFolder hm
  | error e =>
      rw [hm] at h
      cases hf : d.isFolderAt spot names with
      | false =>
          simp only [hf] at h
          cases h
      | true =>
          simp only [hf, if_true] at h
          cases h
          exact .refl d

theorem grown_ensureAll
    (d : Disk) (spot : Place) (names : List String) :
    Grown d (d.ensureAll spot names).2 := by
  fun_induction ensureAll d spot names with
  | case1 names d' h => exact grown_ensureFolder h
  | case2 names e h hc e' d' ha ih =>
      rw [ha] at ih
      exact ih
  | case3 names e h hc d' ha d'' h' ih =>
      rw [ha] at ih
      exact ih.trans (grown_ensureFolder h')
  | case4 names e h hc d' ha e' h' ih =>
      rw [ha] at ih
      exact ih
  | case5 names e h hc => exact .refl d

/-- Making the folders on a path adds folders and nothing else, also where it fails. -/
theorem grown_makeFolders (d : Disk) (p : Path) :
    Grown d (d.makeFolders p).2 := by
  rw [makeFolders]
  cases textFault? p with
  | some e => exact .refl d
  | none =>
      by_cases hp : p.text = ""
      · simp only [if_pos hp]
        exact .refl d
      · simp only [if_neg hp]
        exact grown_ensureAll d _ _

/-! ### Staged files -/

/-- The name of a staged file begins with the start that was asked for. -/
theorem freshName_eq_append (d : Disk) (spot : Place) (start : String) :
    ∃ ending, d.freshName spot start = start ++ ending := by
  simp only [freshName]
  cases h : ((List.range (d.nodes.length + 1)).map fun n =>
      start ++ String.ofList (natText n)).find? fun name => (d.node? (spot ++ [name])).isNone with
  | none => exact ⟨"", by simp⟩
  | some name =>
      obtain ⟨n, -, hname⟩ := List.mem_map.1 (List.mem_of_find?_eq_some h)
      exact ⟨String.ofList (natText n), hname.symm⟩

/-- What staging a file does, and where it is done. -/
theorem stage_eq_ok
    {d d' : Disk} {folder : Path} {start : String} {content : List UInt8} {place : Place}
    (h : d.stage folder start content = .ok (place, d')) :
    ∃ spot, (d.locate folder = .ok spot ∧ d.HasFolder spot)
      ∧ startFault? start = none
      ∧ place = spot ++ [d.freshName spot start]
      ∧ d' = d.put place (.file content ownerMode) := by
  rw [stage] at h
  cases hl : d.locate folder with
  | error e =>
      rw [hl] at h
      cases h
  | ok spot =>
      simp only [hl] at h
      cases hn : d.node? spot with
      | none =>
          rw [hn] at h
          cases h
      | some n =>
          rw [hn] at h
          cases n with
          | file content mode => cases h
          | folder mode =>
              cases hs : startFault? start with
              | some e =>
                  simp only [hs] at h
                  cases h
              | none =>
                  simp only [hs] at h
                  cases h
                  exact ⟨spot, ⟨rfl, mode, hn⟩, rfl, rfl, rfl⟩

/-- What moving a staged file does. -/
theorem commit_eq_ok
    {d d' : Disk} {staged : Place} {p : Path} (h : d.commit staged p = .ok d') :
    ∃ n, d.node? staged = some n ∧ d.locate p = .ok (p.target d.here)
      ∧ (p.isFixed = false ∧ p.wantsFolder = false)
      ∧ ¬ d.HasFolder (p.target d.here)
      ∧ d' = (d.cut staged).put (p.target d.here) n := by
  rw [commit] at h
  cases hl : d.locate p with
  | error e =>
      simp only [hl] at h
      cases h
  | ok spot =>
      simp only [hl] at h
      cases hp : d.node? staged with
      | none =>
          simp only [hp] at h
          cases h
      | some n =>
          simp only [hp] at h
          rw [target_of_locate hl]
          cases hfixed : p.isFixed with
          | true =>
              simp only [hfixed, if_true] at h
              cases h
          | false =>
              cases hwants : p.wantsFolder with
              | true =>
                  simp only [hfixed, hwants, if_true] at h
                  cases h
              | false =>
                  have hfile : ¬ d.HasFolder spot := by
                    rintro ⟨mode, hn⟩
                    simp only [hfixed, hwants, hn] at h
                    cases h
                  refine ⟨n, rfl, rfl, ⟨rfl, rfl⟩, hfile, ?_⟩
                  simp only [hfixed, hwants] at h
                  cases hn : d.node? spot with
                  | none =>
                      rw [hn] at h
                      exact (Except.ok.inj h).symm
                  | some m =>
                      cases m with
                      | folder mode => exact absurd ⟨mode, hn⟩ hfile
                      | file content mode =>
                          rw [hn] at h
                          exact (Except.ok.inj h).symm

/-! ### Files that are written -/

/-- What writing a file does. -/
theorem write_eq_ok
    {d d' : Disk} {p : Path} {content : List UInt8} (h : d.write p content = .ok d') :
    d.locate p = .ok (p.target d.here)
      ∧ p.wantsFolder = false
      ∧ ¬ d.HasFolder (p.target d.here)
      ∧ ∃ mode, d' = d.put (p.target d.here) (.file content mode) := by
  rw [write] at h
  cases hl : d.locate p with
  | error e =>
      simp only [hl] at h
      split at h <;> cases h
  | ok spot =>
      simp only [hl] at h
      rw [target_of_locate hl]
      cases hwants : p.wantsFolder with
      | true =>
          rw [if_pos hwants] at h
          cases h
      | false =>
          rw [hwants, if_neg Bool.false_ne_true] at h
          refine ⟨rfl, rfl, ?_⟩
          cases hn : d.node? spot with
          | none =>
              simp only [hn] at h
              refine ⟨not_hasFolder_of_none hn, openMode, ?_⟩
              cases hp : d.node? spot.dropLast with
              | none =>
                  rw [hp] at h
                  cases h
              | some n =>
                  rw [hp] at h
                  cases n with
                  | file other mode => cases h
                  | folder mode => exact (Except.ok.inj h).symm
          | some n =>
              rw [hn] at h
              cases n with
              | folder mode => cases h
              | file other mode =>
                  exact ⟨not_hasFolder_of_file hn, mode, (Except.ok.inj h).symm⟩

/-- What is written under a path is read there. -/
theorem read_of_write
    {d d' : Disk} {p : Path} {content : List UInt8} (h : d.write p content = .ok d') :
    d'.read p = .ok content := by
  obtain ⟨hl, hwants, hfile, mode, rfl⟩ := write_eq_ok h
  obtain ⟨htext, hw, -⟩ := (locate_eq_ok_iff d p _).1 hl
  have hplace := ne_nil_of_not_hasFolder hfile
  refine (read_eq_ok_iff _ p content).2 ⟨?_, bytes?_put_self d hplace content mode⟩
  refine (locate_eq_ok_iff _ p _).2 ⟨htext, (walk_iff (sameFolders_put hfile content mode)).2 hw, ?_⟩
  have hnode := node?_put_self d (.file content mode) hplace
  have hhere : (d.put (p.target d.here) (.file content mode)).here = d.here := rfl
  rw [hhere, hnode]
  exact hwants

/-! ### Files that are removed -/

/-- What removing a file does. -/
theorem remove_eq_ok
    {d d' : Disk} {p : Path} (h : d.remove p = .ok d') :
    d.locate p = .ok (p.target d.here)
      ∧ ¬ d.HasFolder (p.target d.here)
      ∧ d' = d.cut (p.target d.here) := by
  rw [remove] at h
  cases hl : d.locate p with
  | error e =>
      rw [hl] at h
      cases h
  | ok spot =>
      simp only [hl] at h
      rw [target_of_locate hl]
      cases hn : d.node? spot with
      | none =>
          rw [hn] at h
          cases h
      | some n =>
          rw [hn] at h
          cases n with
          | folder mode => cases h
          | file content mode =>
              exact ⟨rfl, not_hasFolder_of_file hn, (Except.ok.inj h).symm⟩

/-- A file that was removed is missing. -/
theorem read_of_remove
    {d d' : Disk} {p : Path} (h : d.remove p = .ok d') :
    d'.read p = .error .missing := by
  obtain ⟨hl, hfile, rfl⟩ := remove_eq_ok h
  obtain ⟨⟨htext, hne⟩, hw, -⟩ := (locate_eq_ok_iff d p _).1 hl
  have hway := (walk_iff (sameFolders_cut hfile)).2 hw
  have hgone := node?_cut_self d (ne_nil_of_not_hasFolder hfile)
  have hhere : (d.cut (p.target d.here)).here = d.here := rfl
  rw [read, locate, htext]
  simp only [if_neg hne, hhere, hway, hgone]
  cases p.endsInPoint with
  | true => rfl
  | false => simp [hgone]

/-- There is nothing to remove where there is nothing to read. -/
theorem read_of_remove_eq_missing
    {d : Disk} {p : Path} (h : d.remove p = .error .missing) :
    d.read p = .error .missing := by
  rw [remove] at h
  rw [read]
  cases hl : d.locate p with
  | error e =>
      simp only [hl] at h
      cases h
      rfl
  | ok spot =>
      simp only [hl] at h ⊢
      cases hn : d.node? spot with
      | none => rfl
      | some n =>
          rw [hn] at h
          cases n with
          | folder mode => cases h
          | file content mode => cases h

end Disk
end DealDesk
