import DealDesk.Disk.Basic

/-!
# What paths depend on

Where a path leads depends on the folders of a disk, and on a file only at its end.
Staging, replacing and removing a file leave the folders as they are, so that a path
that led somewhere still leads there.

**Results.** `walk_of_folders`: a way along names stays open while its folders stay.
`isFolderAt_of_walk`: the way to a file goes through its folder.
`node?_freshName`: there is always a fresh name.  `hasFolders_of_makeFolders`: once
the folders on a path were made, they are there.
-/

namespace DealDesk
namespace Disk

/-! ### Folders -/

/-- There is a folder at the place. -/
def HasFolder (d : Disk) (spot : Place) : Prop :=
  ∃ mode, d.node? spot = some (.folder mode)

/-- The disks have the same folders, and work in the same one. -/
def SameFolders (d d' : Disk) : Prop :=
  d'.here = d.here ∧ ∀ spot, d'.HasFolder spot ↔ d.HasFolder spot

theorem SameFolders.refl (d : Disk) : SameFolders d d :=
  ⟨rfl, fun _ => Iff.rfl⟩

theorem SameFolders.trans
    {a b c : Disk} (h : SameFolders a b) (h' : SameFolders b c) :
    SameFolders a c :=
  ⟨h'.1.trans h.1, fun spot => (h'.2 spot).trans (h.2 spot)⟩

theorem SameFolders.symm
    {a b : Disk} (h : SameFolders a b) :
    SameFolders b a :=
  ⟨h.1.symm, fun spot => (h.2 spot).symm⟩

theorem hasFolder_root (d : Disk) : d.HasFolder [] :=
  ⟨folderMode, rfl⟩

theorem ne_nil_of_not_hasFolder
    {d : Disk} {spot : Place} (h : ¬ d.HasFolder spot) :
    spot ≠ [] := by
  rintro rfl
  exact h d.hasFolder_root

theorem not_hasFolder_of_none
    {d : Disk} {spot : Place} (h : d.node? spot = none) :
    ¬ d.HasFolder spot := by
  rintro ⟨mode, hn⟩
  rw [h] at hn
  cases hn

theorem not_hasFolder_of_file
    {d : Disk} {spot : Place} {content : List UInt8} {mode : Nat}
    (h : d.node? spot = some (.file content mode)) :
    ¬ d.HasFolder spot := by
  rintro ⟨m, hn⟩
  rw [h] at hn
  cases hn

/-- A file in a place without a folder changes no folder. -/
theorem sameFolders_put
    {d : Disk} {spot : Place} (h : ¬ d.HasFolder spot) (content : List UInt8) (mode : Nat) :
    SameFolders d (d.put spot (.file content mode)) := by
  refine ⟨rfl, fun other => ?_⟩
  by_cases ho : other = spot
  · subst ho
    constructor
    · rintro ⟨m, hm⟩
      rw [node?_put_self d _ (ne_nil_of_not_hasFolder h)] at hm
      cases hm
    · intro hf
      exact absurd hf h
  · rw [HasFolder, HasFolder, node?_put_of_ne d _ ho]

theorem sameFolders_cut
    {d : Disk} {spot : Place} (h : ¬ d.HasFolder spot) :
    SameFolders d (d.cut spot) := by
  refine ⟨rfl, fun other => ?_⟩
  by_cases ho : other = spot
  · subst ho
    constructor
    · rintro ⟨m, hm⟩
      rw [node?_cut_self d (ne_nil_of_not_hasFolder h)] at hm
      cases hm
    · intro hf
      exact absurd hf h
  · rw [HasFolder, HasFolder, node?_cut_of_ne d ho]

theorem hasFolder_put_folder
    {d : Disk} {spot : Place} (hs : spot ≠ []) (mode : Nat) {other : Place}
    (h : d.HasFolder other) :
    (d.put spot (.folder mode)).HasFolder other := by
  by_cases ho : other = spot
  · subst ho
    exact ⟨mode, node?_put_self d _ hs⟩
  · obtain ⟨m, hm⟩ := h
    exact ⟨m, (node?_put_of_ne d _ ho).trans hm⟩

/-! ### Ways -/

/-- A way along names stays open while its folders stay. -/
theorem walk_of_folders
    {d d' : Disk} (h : ∀ spot, d.HasFolder spot → d'.HasFolder spot)
    {spot place : Place} {names : List String} (hw : d.walk spot names = .ok place) :
    d'.walk spot names = .ok place := by
  induction names generalizing spot with
  | nil => exact hw
  | cons name r ih =>
      rw [walk] at hw ⊢
      by_cases hup : name = ".."
      · rw [if_pos hup] at hw ⊢
        exact ih hw
      · rw [if_neg hup] at hw ⊢
        by_cases hlong : nameLimit < (Text.bytes name).length
        · rw [if_pos hlong] at hw
          cases hw
        · rw [if_neg hlong] at hw ⊢
          by_cases hr : r = []
          · rw [if_pos hr] at hw ⊢
            exact hw
          · rw [if_neg hr] at hw ⊢
            cases hn : d.node? (spot ++ [name]) with
            | none =>
                rw [hn] at hw
                cases hw
            | some n =>
                cases n with
                | file content mode =>
                    rw [hn] at hw
                    cases hw
                | folder mode =>
                    obtain ⟨mode', hn'⟩ := h (spot ++ [name]) ⟨mode, hn⟩
                    rw [hn] at hw
                    rw [hn']
                    exact ih hw

theorem walk_iff
    {d d' : Disk} (h : SameFolders d d') {spot place : Place} {names : List String} :
    d'.walk spot names = .ok place ↔ d.walk spot names = .ok place :=
  ⟨walk_of_folders fun s => (h.2 s).1, walk_of_folders fun s => (h.2 s).2⟩

theorem isFolder_iff (d : Disk) (place : Place) :
    ((d.node? place).map Node.isFolder).getD false = true ↔ d.HasFolder place := by
  rw [HasFolder]
  cases d.node? place with
  | none => simp
  | some n => cases n <;> simp [Node.isFolder]

theorem isFolderAt_iff
    (d : Disk) (spot : Place) (names : List String) :
    d.isFolderAt spot names = true
      ↔ ∃ place, d.walk spot names = .ok place ∧ d.HasFolder place := by
  rw [isFolderAt]
  cases d.walk spot names with
  | error e =>
      constructor
      · intro h
        cases h
      · rintro ⟨_, h, -⟩
        cases h
  | ok place =>
      constructor
      · intro h
        exact ⟨place, rfl, (isFolder_iff d place).1 h⟩
      · rintro ⟨_, h, hp⟩
        cases h
        exact (isFolder_iff d place).2 hp

theorem isFolderAt_of_sameFolders
    {d d' : Disk} (h : SameFolders d d') {spot : Place} {names : List String}
    (hf : d.isFolderAt spot names = true) :
    d'.isFolderAt spot names = true := by
  obtain ⟨place, hw, hp⟩ := (isFolderAt_iff d spot names).1 hf
  exact (isFolderAt_iff d' spot names).2 ⟨place, (walk_iff h).2 hw, (h.2 place).2 hp⟩

/-- The folder that is worked in is there, and so are the folders above it. -/
def Grounded (d : Disk) : Prop :=
  ∀ spot, spot <+: d.here → d.HasFolder spot

/-- A way along names goes through folders up to its last name. -/
theorem isFolderAt_of_walk
    {d : Disk} {spot place : Place} {names : List String} {last : String}
    (hspot : ∀ above, above <+: spot → d.HasFolder above)
    (hw : d.walk spot (names ++ [last]) = .ok place) :
    d.isFolderAt spot names = true := by
  induction names generalizing spot with
  | nil => exact (isFolderAt_iff d spot []).2 ⟨spot, rfl, hspot spot List.prefix_rfl⟩
  | cons name r ih =>
      rw [isFolderAt_iff]
      rw [List.cons_append, walk] at hw
      by_cases hup : name = ".."
      · rw [if_pos hup] at hw
        have habove : ∀ above, above <+: spot.dropLast → d.HasFolder above :=
          fun above h => hspot above (h.trans (List.dropLast_prefix spot))
        obtain ⟨place', hway, hfolder⟩ := (isFolderAt_iff d _ r).1 (ih habove hw)
        refine ⟨place', ?_, hfolder⟩
        rw [walk, if_pos hup]
        exact hway
      · rw [if_neg hup] at hw
        by_cases hlong : nameLimit < (Text.bytes name).length
        · rw [if_pos hlong] at hw
          cases hw
        · rw [if_neg hlong, if_neg (List.concat_ne_nil _ _)] at hw
          cases hn : d.node? (spot ++ [name]) with
          | none =>
              rw [hn] at hw
              cases hw
          | some n =>
              cases n with
              | file content mode =>
                  rw [hn] at hw
                  cases hw
              | folder mode =>
                  rw [hn] at hw
                  have habove : ∀ above, above <+: spot ++ [name] → d.HasFolder above := by
                    intro above h
                    rcases List.prefix_concat_iff.1 h with rfl | h
                    · exact ⟨mode, hn⟩
                    · exact hspot above h
                  obtain ⟨place', hway, hfolder⟩ := (isFolderAt_iff d _ r).1 (ih habove hw)
                  refine ⟨place', ?_, hfolder⟩
                  rw [walk, if_neg hup, if_neg hlong]
                  by_cases hr : r = []
                  · rw [if_pos hr]
                    subst hr
                    exact hway
                  · rw [if_neg hr, hn]
                    exact hway

/-- A path may lead to what stands in a place. -/
def Admits (p : Path) : Option Node → Prop
  | some (.file _ _) => p.wantsFolder = false
  | some (.folder _) => True
  | none => p.endsInPoint = false

/-- The end of a way is where the path leads if it admits what stands there. -/
theorem admitted_eq_ok_iff
    (p : Path) (place spot : Place) (n : Option Node) :
    (match n with
      | some (.file _ _) =>
          if p.wantsFolder then (.error .notFolder : Except Fault Place) else .ok place
      | some (.folder _) => .ok place
      | none => if p.endsInPoint then .error .missing else .ok place) = .ok spot
      ↔ place = spot ∧ Admits p n := by
  cases n with
  | none => cases h : p.endsInPoint <;> simp [Admits, h]
  | some n =>
      cases n with
      | folder mode => simp [Admits]
      | file content mode => cases h : p.wantsFolder <;> simp [Admits, h]

/-- Where a path leads, and when it leads there. -/
theorem locate_eq_ok_iff
    (d : Disk) (p : Path) (spot : Place) :
    d.locate p = .ok spot
      ↔ (textFault? p = none ∧ p.text ≠ "")
        ∧ d.walk (if p.isAbsolute then [] else d.here) p.names = .ok spot
        ∧ Admits p (d.node? spot) := by
  rw [locate]
  cases textFault? p with
  | some e => simp
  | none =>
      by_cases hp : p.text = ""
      · simp [hp]
      · simp only [if_neg hp]
        cases d.walk (if p.isAbsolute then [] else d.here) p.names with
        | error e => simp
        | ok place =>
            refine (admitted_eq_ok_iff p place spot (d.node? place)).trans ?_
            constructor
            · rintro ⟨rfl, h⟩
              exact ⟨⟨trivial, hp⟩, rfl, h⟩
            · rintro ⟨-, hplace, h⟩
              cases hplace
              exact ⟨rfl, h⟩

/-- Where a path to a folder leads does not depend on files. -/
theorem locate_of_sameFolders
    {d d' : Disk} (h : SameFolders d d') {p : Path} {spot : Place}
    (hl : d.locate p = .ok spot) (hf : d.HasFolder spot) :
    d'.locate p = .ok spot := by
  obtain ⟨ht, hw, -⟩ := (locate_eq_ok_iff d p spot).1 hl
  obtain ⟨mode, hn⟩ := (h.2 spot).2 hf
  refine (locate_eq_ok_iff d' p spot).2 ⟨ht, ?_, ?_⟩
  · rw [h.1]
    exact (walk_iff h).2 hw
  · rw [hn]
    trivial

/-! ### Making folders -/

/-- A folder that could be made, or was there, is there, and no other is lost. -/
theorem isFolderAt_of_ensureFolder
    {d d' : Disk} {spot : Place} {names : List String} (h : d.ensureFolder spot names = .ok d') :
    d'.isFolderAt spot names = true
      ∧ d'.here = d.here ∧ ∀ other, d.HasFolder other → d'.HasFolder other := by
  rw [ensureFolder] at h
  cases hm : d.makeFolder spot names with
  | error e =>
      rw [hm] at h
      by_cases hf : d.isFolderAt spot names = true
      · simp only [hf, if_true] at h
        cases h
        exact ⟨hf, rfl, fun _ => id⟩
      · simp only [hf] at h
        cases h
  | ok made =>
      rw [hm] at h
      cases h
      rw [makeFolder] at hm
      cases hw : d.walk spot names with
      | error e =>
          rw [hw] at hm
          cases hm
      | ok place =>
          simp only [hw] at hm
          cases hn : d.node? place with
          | some n =>
              rw [hn] at hm
              cases hm
          | none =>
              have hplace : place ≠ [] := by
                rintro rfl
                cases hn
              simp only [hn] at hm
              cases hp : d.node? place.dropLast with
              | none =>
                  rw [hp] at hm
                  cases hm
              | some n =>
                  rw [hp] at hm
                  cases n with
                  | file content mode => cases hm
                  | folder mode =>
                      cases hm
                      have hkeep : ∀ other, d.HasFolder other
                          → (d.put place (.folder folderMode)).HasFolder other :=
                        fun other => hasFolder_put_folder hplace folderMode
                      refine ⟨(isFolderAt_iff _ spot names).2 ⟨place, ?_, ?_⟩, rfl, hkeep⟩
                      · exact walk_of_folders hkeep hw
                      · exact ⟨folderMode, node?_put_self d _ hplace⟩

theorem isFolderAt_of_ensureAll
    {d d' : Disk} {spot : Place} {names : List String}
    (h : d.ensureAll spot names = (.ok (), d')) :
    d'.isFolderAt spot names = true ∧ d'.here = d.here := by
  induction hn : names.length using Nat.strongRecOn generalizing names d d' with
  | ind n ih =>
      rw [ensureAll] at h
      cases he : d.ensureFolder spot names with
      | ok made =>
          rw [he] at h
          cases h
          obtain ⟨hf, hhere, -⟩ := isFolderAt_of_ensureFolder he
          exact ⟨hf, hhere⟩
      | error e =>
          simp only [he] at h
          split at h
          · rename_i hc
            cases ha : d.ensureAll spot names.dropLast with
            | mk result above =>
                rw [ha] at h
                cases result with
                | error e' =>
                    cases h
                | ok u =>
                    have hlt : names.dropLast.length < n := by
                      have hpos := List.length_pos_iff.2 hc.2
                      rw [List.length_dropLast]
                      omega
                    obtain ⟨-, habove⟩ := ih _ hlt ha rfl
                    cases he' : above.ensureFolder spot names with
                    | error e' =>
                        simp only [he'] at h
                        cases h
                    | ok made =>
                        simp only [he'] at h
                        cases h
                        obtain ⟨hf, hhere, -⟩ := isFolderAt_of_ensureFolder he'
                        exact ⟨hf, hhere.trans habove⟩
          · cases h

theorem ensureAll_of_isFolderAt
    {d : Disk} {spot : Place} {names : List String} (h : d.isFolderAt spot names = true) :
    d.ensureAll spot names = (.ok (), d) := by
  have hmake : ∃ e, d.makeFolder spot names = .error e := by
    obtain ⟨place, hw, mode, hn⟩ := (isFolderAt_iff d spot names).1 h
    exact ⟨.exists, by simp only [makeFolder, hw, hn]⟩
  obtain ⟨e, he⟩ := hmake
  have hensure : d.ensureFolder spot names = .ok d := by
    simp only [ensureFolder, he, h, if_true]
  rw [ensureAll, hensure]

/-- The folders on a path are there. -/
def HasFolders (d : Disk) (p : Path) : Prop :=
  textFault? p = none
    ∧ (p.text ≠ "" → d.isFolderAt (if p.isAbsolute then [] else d.here) p.names = true)

/-- Once the folders on a path were made, they are there. -/
theorem hasFolders_of_makeFolders
    {d d' : Disk} {p : Path} (h : d.makeFolders p = (.ok (), d')) :
    d'.HasFolders p := by
  rw [makeFolders] at h
  cases ht : textFault? p with
  | some e =>
      rw [ht] at h
      cases h
  | none =>
      refine ⟨ht, fun hp => ?_⟩
      simp only [ht, if_neg hp] at h
      obtain ⟨hf, hhere⟩ := isFolderAt_of_ensureAll h
      rw [hhere]
      exact hf

theorem makeFolders_of_hasFolders
    {d : Disk} {p : Path} (h : d.HasFolders p) :
    d.makeFolders p = (.ok (), d) := by
  obtain ⟨ht, hf⟩ := h
  rw [makeFolders, ht]
  by_cases hp : p.text = ""
  · exact if_pos hp
  · simp only [if_neg hp]
    exact ensureAll_of_isFolderAt (hf hp)

theorem HasFolders.of_sameFolders
    {d d' : Disk} {p : Path} (h : SameFolders d d') (hf : d.HasFolders p) :
    d'.HasFolders p := by
  refine ⟨hf.1, fun hp => ?_⟩
  rw [h.1]
  exact isFolderAt_of_sameFolders h (hf.2 hp)

/-! ### Fresh names -/

theorem natText_injective
    {m n : Nat} (h : natText m = natText n) :
    m = n := by
  have hchar : ∀ d e : Digit, d.toChar = e.toChar → d = e := by decide
  have hdigits : Digit.ofNat m = Digit.ofNat n :=
    (List.map_inj_right fun _ _ => hchar _ _).1 h
  rw [← Digit.value_ofNat m, hdigits, Digit.value_ofNat]

theorem mem_nodes_of_node?
    {d : Disk} {spot : Place} (hs : spot ≠ []) {n : Node} (h : d.node? spot = some n) :
    spot ∈ d.nodes.map Prod.fst := by
  rw [node?, if_neg hs, Option.map_eq_some_iff] at h
  obtain ⟨m, hm, -⟩ := h
  have hfirst := List.find?_some hm
  simp only [decide_eq_true_eq] at hfirst
  exact List.mem_map.2 ⟨m, List.mem_of_find?_eq_some hm, hfirst⟩

/-- There is always a fresh name. -/
theorem node?_freshName (d : Disk) (spot : Place) (start : String) :
    d.node? (spot ++ [d.freshName spot start]) = none := by
  let candidate : Nat → Place := fun k => spot ++ [start ++ String.ofList (natText k)]
  have hinjective : ∀ j k, candidate j = candidate k → j = k := by
    intro j k h
    have hname := List.cons.inj (List.append_cancel_left h)
    have htext := congrArg String.toList hname.1
    rw [String.toList_append, String.toList_append, String.toList_ofList,
      String.toList_ofList] at htext
    exact natText_injective (List.append_cancel_left htext)
  simp only [freshName]
  cases hfind : ((List.range (d.nodes.length + 1)).map fun n =>
      start ++ String.ofList (natText n)).find? fun name => (d.node? (spot ++ [name])).isNone with
  | some name =>
      have h := List.find?_some hfind
      exact Option.isNone_iff_eq_none.1 h
  | none =>
      -- All candidates would be taken, and there is one more of them than there are nodes.
      have htaken : (List.range (d.nodes.length + 1)).map candidate ⊆ d.nodes.map Prod.fst := by
        intro place hplace
        obtain ⟨k, hk, rfl⟩ := List.mem_map.1 hplace
        have hnone := List.find?_eq_none.1 hfind _ (List.mem_map.2 ⟨k, hk, rfl⟩)
        cases hn : d.node? (candidate k) with
        | none =>
            rw [hn] at hnone
            exact absurd rfl hnone
        | some n => exact mem_nodes_of_node? (by simp [candidate]) hn
      have hnodup : ((List.range (d.nodes.length + 1)).map candidate).Nodup :=
        List.pairwise_map.2 (List.nodup_range.imp fun hne h => hne (hinjective _ _ h))
      have hle := hnodup.length_le_of_subset htaken
      rw [List.length_map, List.length_map, List.length_range] at hle
      omega

end Disk
end DealDesk
