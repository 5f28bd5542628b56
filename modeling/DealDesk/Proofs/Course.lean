import Mathlib.Data.List.Forall2

/-!
# Courses

A machine answers one input after the other and changes its state as it does.
The course of a row of inputs is the row of its moments, each with the state
before the input, the answer to it and the state after it.

**Results.** What no moment changes is the same at the end, and states that every step keeps in
order are in order; a step that changes nothing can be left out of a course; machines that
answer alike from related states give the same answers to every row of inputs, and stay
related at each of its moments.
-/

namespace DealDesk
namespace Course

variable {σ τ α β : Type}

/-- One step of a course. -/
structure Moment (σ α β : Type) where
  before : σ
  input : α
  answer : β
  after : σ

/-- The moments of a row of inputs. -/
def moments (step : σ → α → β × σ) : σ → List α → List (Moment σ α β)
  | _, [] => []
  | s, a :: r => ⟨s, a, (step s a).1, (step s a).2⟩ :: moments step (step s a).2 r

/-- The state after a row of inputs. -/
def finish (step : σ → α → β × σ) : σ → List α → σ
  | s, [] => s
  | s, a :: r => finish step (step s a).2 r

/-- The answers to a row of inputs. -/
def answers (step : σ → α → β × σ) (s : σ) (as : List α) : List β :=
  (moments step s as).map Moment.answer

theorem moments_append
    (step : σ → α → β × σ) (s : σ) (as bs : List α) :
    moments step s (as ++ bs)
      = moments step s as ++ moments step (finish step s as) bs := by
  induction as generalizing s with
  | nil => rfl
  | cons a as ih =>
      rw [List.cons_append, moments, moments, finish, ih, List.cons_append]

theorem finish_append
    (step : σ → α → β × σ) (s : σ) (as bs : List α) :
    finish step s (as ++ bs) = finish step (finish step s as) bs := by
  induction as generalizing s with
  | nil => rfl
  | cons a as ih => exact ih _

@[simp] theorem length_moments
    (step : σ → α → β × σ) (s : σ) (as : List α) :
    (moments step s as).length = as.length := by
  induction as generalizing s with
  | nil => rfl
  | cons a as ih => simp [moments, ih]

theorem step_of_mem
    {step : σ → α → β × σ} {s : σ} {as : List α} {m : Moment σ α β}
    (hm : m ∈ moments step s as) :
    step m.before m.input = (m.answer, m.after) := by
  induction as generalizing s with
  | nil => exact absurd hm List.not_mem_nil
  | cons a as ih =>
      rcases List.mem_cons.1 hm with rfl | hm
      · rfl
      · exact ih hm

theorem input_mem
    {step : σ → α → β × σ} {s : σ} {as : List α} {m : Moment σ α β}
    (hm : m ∈ moments step s as) :
    m.input ∈ as := by
  induction as generalizing s with
  | nil => exact absurd hm List.not_mem_nil
  | cons a as ih =>
      rcases List.mem_cons.1 hm with rfl | hm
      · exact List.mem_cons_self
      · exact List.mem_cons_of_mem a (ih hm)

/-- A quantity that grows by a piece at each moment has grown by all pieces in their order. -/
theorem finish_eq_append
    {γ : Type} {step : σ → α → β × σ} (f : σ → List γ) (piece : Moment σ α β → List γ)
    {s : σ} {as : List α}
    (h : ∀ m ∈ moments step s as, f m.after = f m.before ++ piece m) :
    f (finish step s as) = f s ++ (moments step s as).flatMap piece := by
  induction as generalizing s with
  | nil => simp [finish, moments]
  | cons a as ih =>
      have hhead := h ⟨s, a, (step s a).1, (step s a).2⟩ List.mem_cons_self
      have htail := ih fun m hm => h m (List.mem_cons_of_mem _ hm)
      rw [finish, htail, hhead, moments, List.flatMap_cons, List.append_assoc]

/-- What no moment changes is the same at the end. -/
theorem finish_of_unchanged
    {γ : Type} {step : σ → α → β × σ} (f : σ → γ) {s : σ} {as : List α}
    (h : ∀ m ∈ moments step s as, f m.after = f m.before) :
    f (finish step s as) = f s := by
  induction as generalizing s with
  | nil => rfl
  | cons a as ih =>
      have hhead := h ⟨s, a, (step s a).1, (step s a).2⟩ List.mem_cons_self
      have htail := ih fun m hm => h m (List.mem_cons_of_mem _ hm)
      rw [finish, htail, hhead]

/-- If every step goes forwards in an order, the states of a course are in that order. -/
theorem ordered_of_steps
    {R : σ → σ → Prop} (hrefl : ∀ s, R s s) (htrans : ∀ r s t, R r s → R s t → R r t)
    {step : σ → α → β × σ} {s : σ} {as : List α}
    (h : ∀ m ∈ moments step s as, R m.before m.after) :
    (∀ m ∈ moments step s as, R s m.before)
      ∧ (moments step s as).Pairwise fun m m' => R m.before m'.before := by
  induction as generalizing s with
  | nil => exact ⟨fun m hm => absurd hm List.not_mem_nil, .nil⟩
  | cons a as ih =>
      obtain ⟨hhead, htail⟩ := List.forall_mem_cons.1 h
      obtain ⟨hreached, hordered⟩ := ih htail
      have hlater := fun m hm => htrans _ _ _ hhead (hreached m hm)
      exact ⟨List.forall_mem_cons.2 ⟨hrefl s, hlater⟩, .cons hlater hordered⟩

/-- A step that leaves the state as it is can be left out. -/
theorem moments_eraseIdx_of_idle
    {step : σ → α → β × σ} {s : σ} {as bs : List α} {a : α}
    (h : (step (finish step s as) a).2 = finish step s as) :
    (moments step s (as ++ a :: bs)).eraseIdx as.length
      = moments step s (as ++ bs) := by
  rw [moments_append, moments_append, moments, h,
    List.eraseIdx_append_of_length_le (Nat.le_of_eq (length_moments step s as)),
    length_moments, Nat.sub_self, List.eraseIdx_cons_zero]

/--
Machines that answer alike, and whose states stay related, answer a row of inputs
alike.  Only what happens in the course of the first has to be looked at.
-/
theorem answers_eq_of_related
    {stepS : σ → α → β × σ} {stepT : τ → α → β × τ} {R : σ → τ → Prop}
    {P : Moment σ α β → Prop}
    (hstep : ∀ s t a, P ⟨s, a, (stepS s a).1, (stepS s a).2⟩ → R s t →
      (stepS s a).1 = (stepT t a).1 ∧ R (stepS s a).2 (stepT t a).2)
    {s : σ} {t : τ} (h : R s t) {as : List α} (has : ∀ m ∈ moments stepS s as, P m) :
    answers stepS s as = answers stepT t as
      ∧ R (finish stepS s as) (finish stepT t as) := by
  induction as generalizing s t with
  | nil => exact ⟨rfl, h⟩
  | cons a as ih =>
      obtain ⟨hanswer, hafter⟩ := hstep s t a (has _ List.mem_cons_self) h
      obtain ⟨htail, hend⟩ := ih hafter fun m hm => has m (List.mem_cons_of_mem _ hm)
      refine ⟨?_, hend⟩
      simp only [answers, moments, List.map_cons] at htail ⊢
      rw [hanswer, htail]

/-- Machines that answer alike, and whose states stay related, do so at every moment. -/
theorem moments_related
    {stepS : σ → α → β × σ} {stepT : τ → α → β × τ} {R : σ → τ → Prop}
    (hstep : ∀ s t a, R s t →
      (stepS s a).1 = (stepT t a).1 ∧ R (stepS s a).2 (stepT t a).2)
    {s : σ} {t : τ} (h : R s t) (as : List α) :
    List.Forall₂
      (fun m m' => m.input = m'.input ∧ m.answer = m'.answer ∧ R m.after m'.after)
      (moments stepS s as) (moments stepT t as) := by
  induction as generalizing s t with
  | nil => exact .nil
  | cons a as ih =>
      obtain ⟨hanswer, hafter⟩ := hstep s t a h
      exact .cons ⟨rfl, hanswer, hafter⟩ (ih hafter)

end Course
end DealDesk
