/-!
# Parts of a row

A row is split at items of a kind: the parts between such items, or the parts that
each of them ends.

**Results.** There is always a part, and no part between marks holds one; such parts,
with marks between them, are found again, and a mark parts the row in two.  The parts between
marks make up the whole row.
-/

namespace DealDesk
namespace Text

/-- The parts between marks; the marks are left out. -/
def between {α : Type} (isMark : α → Bool) : List α → List (List α)
  | [] => [[]]
  | x :: r =>
      if isMark x then [] :: between isMark r
      else
        match between isMark r with
        | [] => [[x]]
        | p :: ps => (x :: p) :: ps

/-- The parts up to each mark, with the mark, and the part after the last one unless it is empty. -/
def endedBy {α : Type} (isMark : α → Bool) : List α → List (List α)
  | [] => []
  | x :: r =>
      if isMark x then [x] :: endedBy isMark r
      else
        match endedBy isMark r with
        | [] => [[x]]
        | p :: ps => (x :: p) :: ps

theorem between_ne_nil {α : Type} (isMark : α → Bool) (l : List α) :
    between isMark l ≠ [] := by
  cases l with
  | nil => exact List.cons_ne_nil _ _
  | cons x r =>
      unfold between
      split
      · exact List.cons_ne_nil _ _
      · split <;> exact List.cons_ne_nil _ _

theorem isMark_eq_false_of_mem_between
    {α : Type} {isMark : α → Bool} {l p : List α} {x : α}
    (hp : p ∈ between isMark l) (hx : x ∈ p) :
    isMark x = false := by
  induction l generalizing p with
  | nil =>
      rw [between, List.mem_singleton] at hp
      subst hp
      exact absurd hx List.not_mem_nil
  | cons y r ih =>
      rw [between] at hp
      by_cases hy : isMark y = true
      · rw [if_pos hy] at hp
        rcases List.mem_cons.1 hp with rfl | hp
        · exact absurd hx List.not_mem_nil
        · exact ih hp hx
      · rw [if_neg hy] at hp
        cases hb : between isMark r with
        | nil => exact absurd hb (between_ne_nil isMark r)
        | cons q qs =>
            rw [hb] at hp ih
            rcases List.mem_cons.1 hp with rfl | hp
            · rcases List.mem_cons.1 hx with rfl | hx
              · exact Bool.eq_false_iff.2 hy
              · exact ih List.mem_cons_self hx
            · exact ih (List.mem_cons_of_mem _ hp) hx

/-- A part is found in the row in its order. -/
theorem sublist_of_mem_between
    {α : Type} {isMark : α → Bool} {l p : List α} (hp : p ∈ between isMark l) :
    p.Sublist l := by
  induction l generalizing p with
  | nil =>
      rw [between, List.mem_singleton] at hp
      subst hp
      exact List.Sublist.refl []
  | cons x r ih =>
      rw [between] at hp
      cases hr : between isMark r with
      | nil => exact absurd hr (between_ne_nil isMark r)
      | cons q qs =>
          rw [hr] at hp ih
          split at hp
          · rcases List.mem_cons.1 hp with rfl | hp
            · exact List.nil_sublist _
            · exact (ih hp).cons x
          · rcases List.mem_cons.1 hp with rfl | hp
            · exact (ih List.mem_cons_self).cons_cons x
            · exact (ih (List.mem_cons_of_mem q hp)).cons x

/-- A mark parts what is between the marks before it from what is between those after it. -/
theorem between_append
    {α : Type} {isMark : α → Bool} {m : α} (hm : isMark m = true) (l r : List α) :
    between isMark (l ++ m :: r) = between isMark l ++ between isMark r := by
  induction l with
  | nil => simp only [List.nil_append, between, hm, if_true, List.singleton_append]
  | cons x l ih =>
      rw [List.cons_append, between, between, ih]
      cases hl : between isMark l with
      | nil => exact absurd hl (between_ne_nil isMark l)
      | cons p ps =>
          simp only [List.cons_append]
          split <;> rfl

theorem between_of_forall
    {α : Type} {isMark : α → Bool} {p : List α} (hp : ∀ x ∈ p, isMark x = false) :
    between isMark p = [p] := by
  induction p with
  | nil => rfl
  | cons x r ih =>
      obtain ⟨hx, hr⟩ := List.forall_mem_cons.1 hp
      simp [between, hx, ih hr]

/-- A part without marks stands before the first mark. -/
theorem between_append_cons
    {α : Type} {isMark : α → Bool} {p : List α} (hp : ∀ x ∈ p, isMark x = false)
    {m : α} (hm : isMark m = true) (l : List α) :
    between isMark (p ++ m :: l) = p :: between isMark l := by
  rw [between_append hm, between_of_forall hp, List.singleton_append]

/-- Parts without marks that are joined by marks are those between them. -/
theorem between_intercalate
    {α : Type} {isMark : α → Bool} {m : α} (hm : isMark m = true) (p : List α)
    (ps : List (List α)) (hps : ∀ q ∈ p :: ps, ∀ x ∈ q, isMark x = false) :
    between isMark (List.intercalate [m] (p :: ps)) = p :: ps := by
  obtain ⟨hp, hrest⟩ := List.forall_mem_cons.1 hps
  induction ps generalizing p with
  | nil => rw [List.intercalate_singleton, between_of_forall hp]
  | cons q qs ih =>
      obtain ⟨hq, hqs⟩ := List.forall_mem_cons.1 hrest
      rw [List.intercalate_cons_cons, List.append_assoc, List.singleton_append,
        between_append_cons hp hm, ih q hrest hq hqs]

/-- The parts between marks, joined by marks, make up the row. -/
theorem intercalate_between
    {α : Type} {isMark : α → Bool} {m : α} (hm : ∀ x, isMark x = true → x = m) (l : List α) :
    List.intercalate [m] (between isMark l) = l := by
  induction l with
  | nil => rfl
  | cons x r ih =>
      rw [between]
      cases hb : between isMark r with
      | nil => exact absurd hb (between_ne_nil isMark r)
      | cons p ps =>
          rw [hb] at ih
          split
          · rename_i hx
            rw [List.intercalate_cons_cons, ih, hm x hx, List.nil_append, List.singleton_append]
          · cases ps with
            | nil =>
                rw [List.intercalate_singleton] at ih ⊢
                rw [ih]
            | cons q qs =>
                rw [List.intercalate_cons_cons] at ih ⊢
                rw [List.cons_append, List.cons_append, ih]

end Text
end DealDesk
