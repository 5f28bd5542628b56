import DealDesk.Rules.Ticket
import Mathlib.Data.List.Nodup
import Mathlib.Data.List.Perm.Basic

/-!
# The list of broken rules

The names in a table of rules are distinct, so a list that keeps the order of the table and
holds what is broken is settled: there is one such list for each request.  All ways of asking
about a request tell of this list, how it begins or whether it is empty.

**Results.** `Checked.Distinct.lists_iff`: the violations of a request are the one list of its
broken rules.  `Checked.validate_eq`, `Ticket.validate_eq`: a request is refused with that
list.
-/

namespace DealDesk

/-- What is said of a request that breaks the rule. -/
def Rule.violation {α : Type} (r : Rule α) : Violation :=
  ⟨r.id, r.fields, r.message⟩

namespace Checked

variable {α : Type} [Checked α]

/-- The rules of the table can be told apart by their names. -/
def Distinct (α : Type) [Checked α] : Prop :=
  ((rules : List (Rule α)).map Rule.id).Nodup

/-- The list is that of the rules which the request breaks, in the order of the table. -/
structure Lists (x : α) (vs : List Violation) : Prop where
  ordered : vs.Sublist ((rules : List (Rule α)).map Rule.violation)
  broken : ∀ r ∈ (rules : List (Rule α)), r.violation ∈ vs ↔ r.holds x = false

/-- The violations are the rules that do not hold. -/
theorem violations_eq_map (x : α) :
    violations x = ((rules : List (Rule α)).filter fun r => !r.holds x).map Rule.violation := by
  unfold violations
  generalize (rules : List (Rule α)) = table
  induction table with
  | nil => rfl
  | cons r table ih =>
      rw [List.filterMap_cons, List.filter_cons, Rule.check]
      cases r.holds x with
      | false => exact congrArg (r.violation :: ·) ih
      | true => exact ih

theorem Distinct.nodup_violation (h : Distinct α) :
    ((rules : List (Rule α)).map Rule.violation).Nodup := by
  refine List.Nodup.of_map Violation.rule ?_
  rw [List.map_map]
  exact h

/-- The violations keep the order of the table and are what is broken. -/
theorem Distinct.lists_violations (h : Distinct α) (x : α) :
    Lists x (violations x) where
  ordered := by
    rw [violations_eq_map]
    exact List.filter_sublist.map Rule.violation
  broken r hr := by
    have hinj := List.inj_on_of_nodup_map h.nodup_violation
    rw [violations_eq_map, List.mem_map]
    constructor
    · rintro ⟨r', hr', heq⟩
      obtain ⟨hmem, hbroken⟩ := List.mem_filter.1 hr'
      rw [hinj hmem hr heq] at hbroken
      simpa using hbroken
    · intro hbroken
      exact ⟨r, List.mem_filter.2 ⟨hr, by simp [hbroken]⟩, rfl⟩

/-- There is one such list. -/
theorem Distinct.lists_iff (h : Distinct α) {x : α} {vs : List Violation} :
    Lists x vs ↔ vs = violations x := by
  have htable := h.nodup_violation
  have hlists := h.lists_violations x
  refine ⟨fun hvs => ?_, fun heq => heq ▸ hlists⟩
  refine (List.Nodup.perm_iff_eq_of_sublist htable hvs.ordered hlists.ordered).1 ?_
  rw [List.perm_ext_iff_of_nodup (htable.sublist hvs.ordered) (htable.sublist hlists.ordered)]
  intro v
  constructor
  · intro hv
    obtain ⟨r, hr, rfl⟩ := List.mem_map.1 (hvs.ordered.subset hv)
    exact (hlists.broken r hr).2 ((hvs.broken r hr).1 hv)
  · intro hv
    obtain ⟨r, hr, rfl⟩ := List.mem_map.1 (hlists.ordered.subset hv)
    exact (hvs.broken r hr).2 ((hlists.broken r hr).1 hv)

theorem Distinct.nodup_violations (h : Distinct α) (x : α) :
    ((violations x).map Violation.rule).Nodup := by
  have hsub := (h.lists_violations x).ordered.map Violation.rule
  rw [List.map_map] at hsub
  exact h.sublist hsub

/-- A request is refused with all the rules it breaks. -/
theorem validate_eq (x : α) :
    validate x = if violations x = [] then .ok () else .error ⟨ruleSet α, violations x⟩ := by
  rw [validate]
  cases violations x with
  | nil => rfl
  | cons v r => rfl

end Checked

theorem Opening.distinct : Checked.Distinct Opening := by
  unfold Checked.Distinct
  decide

theorem Closing.distinct : Checked.Distinct Closing := by
  unfold Checked.Distinct
  decide

theorem Amendment.distinct : Checked.Distinct Amendment := by
  unfold Checked.Distinct
  decide

theorem Placement.distinct : Checked.Distinct Placement := by
  unfold Checked.Distinct
  decide

theorem Revision.distinct : Checked.Distinct Revision := by
  unfold Checked.Distinct
  decide

/-- A ticket is refused with all the rules it breaks. -/
theorem Ticket.validate_eq
    (t : Ticket) :
    t.validate = if t.violations = [] then .ok () else .error ⟨t.ruleSet, t.violations⟩ := by
  cases t with
  | opening r => exact Checked.validate_eq r
  | closing r => exact Checked.validate_eq r
  | amendment r => exact Checked.validate_eq r
  | placement r => exact Checked.validate_eq r
  | revision r => exact Checked.validate_eq r

end DealDesk
