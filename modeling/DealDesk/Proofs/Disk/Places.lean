import DealDesk.Disk.Basic
import Mathlib.Data.List.DropRight

/-!
# Places of paths

A path names one place, whatever stands on the disk: the one that is reached name by name
if all folders on the way are there.  The path without its last name leads to the folder
of that place; a path that ends in no name leads to a folder again, which lies no deeper.

**Results.** `Path.of_parent?`: the path without its last name has the names but for the
last one.  `Path.getLast?_target`: a path that ends in a name leads to a place that has
it.  `Path.length_target_le`: one that ends in no name leads no deeper than its folder.
-/

namespace DealDesk
namespace Disk

/-- Where names lead if all folders on the way are there. -/
def along : Place → List String → Place
  | spot, [] => spot
  | spot, name :: r =>
      if name = ".." then along spot.dropLast r else along (spot ++ [name]) r

theorem along_concat (spot : Place) (names : List String) (name : String) :
    along spot (names ++ [name])
      = if name = ".." then (along spot names).dropLast else along spot names ++ [name] := by
  induction names generalizing spot with
  | nil => rfl
  | cons first r ih =>
      rw [List.cons_append, along, along]
      split
      · exact ih _
      · exact ih _

namespace Path

/-- The place that a path names for one who works in a folder. -/
def target (p : Path) (here : Place) : Place :=
  along (if p.isAbsolute then [] else here) p.names

/-! ### The names of a path -/

/-- The names among parts. -/
def named (parts : List (List Char)) : List String :=
  (parts.filter fun part => !isVoid part).map String.ofList

theorem names_eq (p : Path) : p.names = named p.parts := by
  rw [names, named, List.filter_map]
  congr 2
  funext part
  have hpoint : String.ofList part = "." ↔ part = ['.'] :=
    ⟨fun h => String.ofList_injective h, fun h => h ▸ rfl⟩
  by_cases hempty : part = []
  · simp [isVoid, hempty]
  · by_cases hp : part = ['.']
    · simp [isVoid, hp]
    · simp [isVoid, hempty, hp, hpoint]

theorem named_append (parts parts' : List (List Char)) :
    named (parts ++ parts') = named parts ++ named parts' := by
  simp [named]

theorem named_cons (part : List Char) (parts : List (List Char)) :
    named (part :: parts) = named [part] ++ named parts :=
  named_append [part] parts

theorem named_singleton (part : List Char) :
    named [part] = if isVoid part then [] else [String.ofList part] := by
  cases h : isVoid part <;> simp [named, h]

theorem named_settled (parts : List (List Char)) :
    named (settled parts) = named parts := by
  have hvoid : named (parts.rtakeWhile isVoid) = [] := by
    rw [named, List.map_eq_nil_iff, List.filter_eq_nil_iff]
    intro part hpart
    simp [List.mem_rtakeWhile_imp hpart]
  have hsplit : settled parts ++ parts.rtakeWhile isVoid = parts :=
    List.rdropWhile_append_rtakeWhile
  conv_rhs => rw [← hsplit, named_append, hvoid, List.append_nil]

/-- The last of settled parts is a name. -/
theorem named_settled_of_ne_nil {parts : List (List Char)} (h : settled parts ≠ []) :
    ∃ last, named (settled parts) = named (settled parts).dropLast ++ [last] := by
  have hlast : isVoid ((settled parts).getLast h) = false :=
    Bool.eq_false_iff.2 (List.rdropWhile_last_not isVoid parts h)
  refine ⟨String.ofList ((settled parts).getLast h), ?_⟩
  conv_lhs => rw [← List.dropLast_append_getLast h, named_append, named_singleton, hlast]
  rfl

theorem named_dropLast_settled (parts : List (List Char)) :
    named (settled parts).dropLast = (named parts).dropLast := by
  rw [← named_settled parts]
  by_cases hnil : settled parts = []
  · rw [hnil]
    rfl
  · obtain ⟨last, hlast⟩ := named_settled_of_ne_nil hnil
    rw [hlast, List.dropLast_concat]

theorem named_ne_nil {parts : List (List Char)} (h : settled parts ≠ []) :
    named parts ≠ [] := by
  obtain ⟨last, hlast⟩ := named_settled_of_ne_nil h
  rw [← named_settled, hlast]
  exact List.concat_ne_nil _ _

theorem settled_subset (parts : List (List Char)) : settled parts ⊆ parts :=
  (List.rdropWhile_prefix isVoid parts).subset

theorem not_slash_of_mem_parts
    {p : Path} {part : List Char} (hpart : part ∈ p.parts) {c : Char} (hc : c ∈ part) :
    c ≠ '/' := by
  rw [parts] at hpart
  have hmark := Text.isMark_eq_false_of_mem_between hpart hc
  simpa using hmark

theorem isAbsolute_iff
    {p : Path} {first : List Char} {rest : List (List Char)} (h : p.parts = first :: rest) :
    p.isAbsolute = true ↔ first = [] ∧ rest ≠ [] := by
  rw [parts] at h
  rw [isAbsolute]
  cases hl : p.text.toList with
  | nil =>
      rw [hl] at h
      cases h
      simp
  | cons c r =>
      rw [hl, Text.between] at h
      by_cases hc : c = '/'
      · simp only [hc, decide_true, if_true] at h
        cases h
        simp [hc, Text.between_ne_nil]
      · simp only [hc, decide_false] at h
        cases hb : Text.between (fun c => decide (c = '/')) r with
        | nil => exact absurd hb (Text.between_ne_nil _ r)
        | cons q qs =>
            rw [hb] at h
            cases h
            simp [hc]

section Parts

variable {first : List Char} {rest : List (List Char)}
  (h : ∀ part ∈ first :: rest, ∀ c ∈ part, c ≠ '/')
include h

/-- The parts of a path that is made of parts; the root has two. -/
theorem parts_ofParts :
    (ofParts first rest).parts = if first = [] ∧ rest = [] then [[], []] else first :: rest := by
  by_cases hroot : first = [] ∧ rest = []
  · obtain ⟨rfl, rfl⟩ := hroot
    rfl
  · have hcond : (first = [] && rest.isEmpty) = false := by
      simpa using hroot
    have hmarks : ∀ part ∈ first :: rest, ∀ c ∈ part, decide (c = '/') = false :=
      fun part hpart c hc => decide_eq_false (h part hpart c hc)
    rw [if_neg hroot, ofParts, hcond, parts]
    change Text.between _ (String.ofList _).toList = _
    rw [String.toList_ofList]
    exact Text.between_intercalate rfl first rest hmarks

theorem names_ofParts : (ofParts first rest).names = named (first :: rest) := by
  rw [names_eq, parts_ofParts h]
  split
  · rename_i hroot
    rw [hroot.1, hroot.2]
    rfl
  · rfl

theorem isAbsolute_ofParts :
    (ofParts first rest).isAbsolute = true ↔ first = [] := by
  have hparts := parts_ofParts h
  by_cases hroot : first = [] ∧ rest = []
  · rw [if_pos hroot] at hparts
    rw [isAbsolute_iff hparts]
    exact ⟨fun _ => hroot.1, fun _ => ⟨rfl, List.cons_ne_nil _ _⟩⟩
  · rw [if_neg hroot] at hparts
    rw [isAbsolute_iff hparts]
    exact ⟨And.left, fun hfirst => ⟨hfirst, fun hrest => hroot ⟨hfirst, hrest⟩⟩⟩

end Parts

theorem parent?_cases (p : Path) :
    ∃ first rest, p.parts = first :: rest
      ∧ ((settled rest = [] ∧ p.parent? = if first = [] then none else some ⟨""⟩)
        ∨ (settled rest ≠ []
          ∧ p.parent? = some (ofParts first (settled (settled rest).dropLast)))) := by
  rw [parent?]
  cases hparts : p.parts with
  | nil => exact absurd hparts (Text.between_ne_nil _ _)
  | cons first rest =>
      refine ⟨first, rest, rfl, ?_⟩
      by_cases hnone : settled rest = []
      · refine .inl ⟨hnone, ?_⟩
        simp only [hnone, List.isEmpty_nil, if_true]
      · refine .inr ⟨hnone, ?_⟩
        simp only [List.isEmpty_iff, if_neg hnone]

/-- The path without its last name starts where the path does, and has the other names. -/
theorem of_parent? {p q : Path} (h : p.parent? = some q) :
    q.isAbsolute = p.isAbsolute ∧ q.names = p.names.dropLast := by
  obtain ⟨first, rest, hparts, ⟨hnone, hparent⟩ | ⟨hsome, hparent⟩⟩ := p.parent?_cases
  · rw [h] at hparent
    by_cases hfirst : first = []
    · rw [if_pos hfirst] at hparent
      cases hparent
    · rw [if_neg hfirst] at hparent
      cases hparent
      constructor
      · exact (Bool.eq_false_iff.2 fun hp => hfirst ((isAbsolute_iff hparts).1 hp).1).symm
      · rw [names_eq p, hparts, named_cons, ← named_settled rest, hnone, named_singleton]
        split
        · rfl
        · rfl
  · cases h.symm.trans hparent
    have hmarks : ∀ part ∈ first :: settled (settled rest).dropLast, ∀ c ∈ part, c ≠ '/' := by
      intro part hpart c hc
      refine not_slash_of_mem_parts (p := p) ?_ hc
      rw [hparts]
      rcases List.mem_cons.1 hpart with rfl | hpart
      · exact List.mem_cons_self
      · have hmem := List.dropLast_subset _ (settled_subset _ hpart)
        exact List.mem_cons_of_mem _ (settled_subset _ hmem)
    have hrest : rest ≠ [] := by
      rintro rfl
      exact hsome rfl
    constructor
    · rw [Bool.eq_iff_iff, isAbsolute_ofParts hmarks, isAbsolute_iff hparts]
      exact ⟨fun hfirst => ⟨hfirst, hrest⟩, And.left⟩
    · rw [names_ofParts hmarks, names_eq p, hparts, named_cons first rest,
        List.dropLast_append_of_ne_nil (named_ne_nil hsome), named_cons, named_settled,
        named_dropLast_settled]

/-- Only a path without names has no folder. -/
theorem names_eq_nil_of_parent? {p : Path} (h : p.parent? = none) : p.names = [] := by
  obtain ⟨first, rest, hparts, ⟨hnone, hparent⟩ | ⟨-, hparent⟩⟩ := p.parent?_cases
  · rw [h] at hparent
    by_cases hfirst : first = []
    · rw [names_eq, hparts, named_cons, ← named_settled rest, hnone, hfirst]
      rfl
    · rw [if_neg hfirst] at hparent
      cases hparent
  · cases h.symm.trans hparent

/-! ### Where a path ends -/

/-- A path that ends in a name leads to a place that has it. -/
theorem getLast?_target {p : Path} {name : String} (h : p.name? = some name) (here : Place) :
    (p.target here).getLast? = some name := by
  rw [name?] at h
  rw [target]
  rcases List.eq_nil_or_concat p.names with hnil | ⟨names, last, hlast⟩
  · rw [hnil] at h
    cases h
  · rw [hlast, List.concat_eq_append] at h ⊢
    rw [List.getLast?_concat] at h
    by_cases hup : last = ".."
    · simp only [if_pos hup] at h
      cases h
    · simp only [if_neg hup] at h
      cases h
      rw [along_concat, if_neg hup, List.getLast?_concat]

/-- A path that ends in no name leads no deeper than its folder. -/
theorem length_target_le
    {p q : Path} (hq : p.parent? = some q) (h : p.name? = none) (here : Place) :
    (p.target here).length ≤ (q.target here).length := by
  obtain ⟨habsolute, hnames⟩ := of_parent? hq
  rw [name?] at h
  rw [target, target, habsolute, hnames]
  rcases List.eq_nil_or_concat p.names with hnil | ⟨names, last, hlast⟩
  · rw [hnil]
    exact le_refl _
  · rw [hlast, List.concat_eq_append] at h ⊢
    rw [List.getLast?_concat] at h
    have hup : last = ".." := by
      by_contra hne
      simp only [if_neg hne] at h
      cases h
    rw [along_concat, if_pos hup, List.dropLast_concat, List.length_dropLast]
    exact Nat.sub_le _ _

end Path
end Disk
end DealDesk
