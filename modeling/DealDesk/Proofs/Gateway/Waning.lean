import DealDesk.Proofs.Gateway.Renewal
import DealDesk.Proofs.Session.Countdown

/-!
# How long a stored session is found

A session that would still be valid at a later instant for a longer margin is valid now: the
deadline that validity is measured by moves forwards with the clock, and once it has left the
range of the instants it does not come back.  So whoever looks into a vault again and again
finds the session that is stored there for a while and then never again, although it is still
in there.  Leap seconds are left out: in one of them the deadline is counted from the second
before, and so moves back.

**Results.** `Session.isValidAt_mono`: validity only ever ends.  `Vault.valid?_wanes`: the
answers to a row of looks into a vault.  `Scene.looks_wane`: the same while a desk is at work.
`Scene.validity_wanes` states them together.
-/

namespace DealDesk

namespace Session

/-- What is valid later for a longer margin is valid earlier for a shorter one. -/
theorem isValidAt_mono
    {s : Session} {now later : Instant} {m m' : Span}
    (hnow : now.isLeap = false) (hlater : later.isLeap = false) (hclock : now.NotAfter later)
    (hm : 0 ≤ m.nanos) (hle : m.nanos ≤ m'.nanos) (hvalid : s.isValidAt later m' = true) :
    s.isValidAt now m = true := by
  obtain ⟨deadline', hdeadline', hbefore⟩ := isValidAt_iff_exists.1 hvalid
  obtain ⟨deadline, hdeadline, hearlier⟩ :=
    Instant.add?_mono hnow hlater hclock hm hle hdeadline'
  exact isValidAt_iff_exists.2 ⟨deadline, hdeadline, hearlier.before hbefore⟩

/-- A session is not valid until after the last instant. -/
theorem isValidAt_of_late
    (s : Session) {now : Instant} {m : Span} (hnow : now.isLeap = false)
    (h : Instant.endTick ≤ now.ticks + m.nanos) :
    s.isValidAt now m = false := by
  rw [isValidAt, Instant.add?_of_late hnow h]

end Session

/-! ### Rows that wane -/

/-- The row has the first value some number of times, and from then on the second one. -/
def Wanes {α : Type} (a b : α) (row : List α) : Prop :=
  ∃ k l, row = List.replicate k a ++ List.replicate l b

/-- What holds only of earlier places holds of the first ones. -/
theorem wanes_of_pairwise
    {α β : Type} {p : α → Bool} {xs : List α}
    (h : xs.Pairwise fun x y => p y = true → p x = true) (a b : β) :
    Wanes a b (xs.map fun x => if p x then a else b) := by
  induction h with
  | nil => exact ⟨0, 0, rfl⟩
  | @cons x xs hx hxs ih =>
      cases hp : p x with
      | true =>
          obtain ⟨k, l, hrow⟩ := ih
          refine ⟨k + 1, l, ?_⟩
          rw [List.map_cons, hrow, hp, if_pos rfl, List.replicate_succ, List.cons_append]
      | false =>
          have hover : ∀ y ∈ x :: xs, (if p y then a else b) = b := by
            refine List.forall_mem_cons.2 ⟨by rw [hp]; rfl, fun y hy => ?_⟩
            refine if_neg fun hpy => ?_
            rw [hx y hy hpy] at hp
            cases hp
          exact ⟨0, (x :: xs).length, List.map_eq_replicate_iff.2 hover⟩

namespace Vault

variable {v : Vault} {s : Session}

theorem valid?_of_load
    (hload : v.load = .ok (some s)) (now : Instant) (margin : Span) :
    v.valid? now margin = if s.isValidAt now margin then .ok (some s) else .ok none := by
  simp only [valid?, hload]
  cases s.isValidAt now margin <;> rfl

/-- Looks into a vault at instants that do not go back find its session and then none. -/
theorem valid?_wanes
    {margin : Span} {ts : List Instant} (hload : v.load = .ok (some s))
    (hmargin : 0 ≤ margin.nanos) (hplain : ∀ t ∈ ts, t.isLeap = false)
    (hclock : ts.Pairwise Instant.NotAfter) :
    Wanes (.ok (some s)) (.ok none) (ts.map fun t => v.valid? t margin) := by
  simp only [valid?_of_load hload]
  refine wanes_of_pairwise (p := fun t => s.isValidAt t margin) ?_ _ _
  refine hclock.imp_of_mem fun {t u} ht hu htu hvalid => ?_
  exact Session.isValidAt_mono (hplain t ht) (hplain u hu) htu hmargin (Int.le_refl _) hvalid

end Vault

namespace Gateway
namespace Scene

/-! ### A desk at work -/

/--
A course in which no session gets into the vault or out of it, and in which the clock is not
set back, nor into a leap second.
-/
structure Undisturbed (c : Scene) (acts : List Act) : Prop where
  plain : c.now.isLeap = false
  rests : ∀ m ∈ Course.moments act c acts, m.before.Rests m.input
  forwards : ∀ m ∈ Course.moments act c acts, ∀ t, m.input = .setClock t →
    t.isLeap = false ∧ m.before.now.NotAfter t

/-- The second scene is the first one at a later time, the same as far as looks go. -/
structure Precedes (c c' : Scene) : Prop where
  vault : c'.desk.vault = c.desk.vault
  margin : c'.desk.margin = c.desk.margin
  plain : c.now.isLeap = false → c'.now.isLeap = false
  clock : c.now.NotAfter c'.now

theorem Precedes.refl (c : Scene) : c.Precedes c :=
  ⟨rfl, rfl, id, .refl c.now⟩

theorem Precedes.trans
    (c c' c'' : Scene) (h : c.Precedes c') (h' : c'.Precedes c'') :
    c.Precedes c'' where
  vault := h'.vault.trans h.vault
  margin := h'.margin.trans h.margin
  plain := h'.plain ∘ h.plain
  clock := h.clock.trans h'.clock

/-- An act that lets no session into the vault or out of it leaves its margin as it is. -/
theorem margin_act_of_rests
    {c : Scene} {a : Act} (h : c.Rests a) :
    (c.act a).2.desk.margin = c.desk.margin := by
  cases a with
  | authenticate => exact (c.desk.access_authenticate c.now).2
  | login => rfl
  | logout s => exact h.elim
  | clearVault => exact h.elim
  | put s => exact h.elim
  | setClock now => rfl

/-- One act of such a course leads to a later scene. -/
theorem precedes_act
    {c : Scene} {a : Act} (hrests : c.Rests a)
    (hforwards : ∀ t, a = .setClock t → t.isLeap = false ∧ c.now.NotAfter t) :
    c.Precedes (c.act a).2 where
  vault := vault_act_of_rests hrests
  margin := margin_act_of_rests hrests
  plain h := by
    cases a with
    | setClock t => exact (hforwards t rfl).1
    | _ => exact h
  clock := by
    cases a with
    | setClock t => exact (hforwards t rfl).2
    | _ => exact .refl c.now

namespace Undisturbed

variable {c : Scene} {acts : List Act}

theorem step
    (h : c.Undisturbed acts) :
    ∀ m ∈ Course.moments act c acts, m.before.Precedes m.after := by
  intro m hm
  have hstep := precedes_act (h.rests m hm) (h.forwards m hm)
  rw [Course.step_of_mem hm] at hstep
  exact hstep

/-- The scenes of such a course come one after the other. -/
theorem ordered
    (h : c.Undisturbed acts) :
    (∀ m ∈ Course.moments act c acts, c.Precedes m.before)
      ∧ (Course.moments act c acts).Pairwise fun m m' => m.before.Precedes m'.before :=
  Course.ordered_of_steps Precedes.refl Precedes.trans h.step

end Undisturbed

/-- What a look into the vault finds at each moment of a course. -/
def looks (c : Scene) (acts : List Act) : List (Except Vault.Fault (Option Session)) :=
  (Course.moments act c acts).map fun m => m.before.desk.kept m.before.now

section Looks

variable {c : Scene} {v : Vault} {s : Session} {acts : List Act}

/-- While nothing disturbs the vault, its session is found for a while and then no more. -/
theorem looks_wane
    (hvault : c.desk.vault = some v) (hload : v.load = .ok (some s))
    (hmargin : 0 ≤ c.desk.margin.nanos) (h : c.Undisturbed acts) :
    Wanes (.ok (some s)) (.ok none) (c.looks acts) := by
  obtain ⟨hreached, hordered⟩ := h.ordered
  have hlooks : c.looks acts = ((Course.moments act c acts).map fun m => m.before.now).map
      fun t => v.valid? t c.desk.margin := by
    rw [looks, List.map_map]
    refine List.map_congr_left fun m hm => ?_
    have hm := hreached m hm
    simp only [Desk.kept, hm.vault, hm.margin, hvault, Function.comp_apply]
  rw [hlooks]
  refine Vault.valid?_wanes hload hmargin ?_ ?_
  · rw [List.forall_mem_map]
    exact fun m hm => (hreached m hm).plain h.plain
  · rw [List.pairwise_map]
    exact hordered.imp fun hm => hm.clock

/-- The vault is never changed. -/
theorem Undisturbed.vault
    (h : c.Undisturbed acts) :
    ∀ m ∈ Course.moments act c acts, m.after.desk.vault = c.desk.vault :=
  fun m hm => (h.step m hm).vault.trans (h.ordered.1 m hm).vault

end Looks

/--
A session that is valid at a later instant for a longer margin is valid at an earlier one for a
shorter margin, and none is valid until after the last instant.  So looks into a vault, at
instants that do not go back, find the session that is stored there some number of times and
then none; and so they do throughout every course of a desk in which no session gets into its
vault or out of it, which leaves the vault as it is.
-/
theorem validity_wanes :
    (∀ (s : Session) (now later : Instant) (m m' : Span),
      now.isLeap = false → later.isLeap = false → now.NotAfter later →
      0 ≤ m.nanos → m.nanos ≤ m'.nanos →
      s.isValidAt later m' = true → s.isValidAt now m = true)
    ∧ (∀ (s : Session) (now : Instant) (m : Span), now.isLeap = false →
      Instant.endTick ≤ now.ticks + m.nanos → s.isValidAt now m = false)
    ∧ (∀ (v : Vault) (s : Session) (margin : Span) (ts : List Instant),
      v.load = .ok (some s) → 0 ≤ margin.nanos → (∀ t ∈ ts, t.isLeap = false) →
      ts.Pairwise Instant.NotAfter →
      Wanes (.ok (some s)) (.ok none) (ts.map fun t => v.valid? t margin))
    ∧ ∀ (c : Scene) (v : Vault) (s : Session) (acts : List Act),
      c.desk.vault = some v → v.load = .ok (some s) → 0 ≤ c.desk.margin.nanos →
      c.Undisturbed acts →
      Wanes (.ok (some s)) (.ok none) (c.looks acts)
        ∧ ∀ m ∈ Course.moments act c acts, m.after.desk.vault = some v := by
  refine ⟨fun s now later m m' => Session.isValidAt_mono,
    fun s now m => s.isValidAt_of_late, fun v s margin ts => Vault.valid?_wanes, ?_⟩
  intro c v s acts hvault hload hmargin h
  refine ⟨looks_wane hvault hload hmargin h, fun m hm => ?_⟩
  rw [h.vault m hm, hvault]

/-- A desk whose vault holds a session in its last second, and asks for no margin. -/
def lastSecond : Scene where
  desk :=
    { specimen.desk with
      vault := some { Vault.blank with store := .memory (some Session.endingSpecimen) }
      margin := Span.ofSeconds 0 }
  now := Session.nineSpecimen

/-- There is a login before the session expires, and one at the instant at which it does. -/
def expirySpecimen : List Act :=
  [.login, .setClock Session.endingSpecimen.expiry, .login]

theorem undisturbed_specimen : lastSecond.Undisturbed expirySpecimen where
  plain := by decide
  rests m hm := by
    simp only [expirySpecimen, Course.moments, List.mem_cons, List.not_mem_nil, or_false] at hm
    rcases hm with rfl | rfl | rfl <;> trivial
  forwards m hm t ht := by
    simp only [expirySpecimen, Course.moments, List.mem_cons, List.not_mem_nil, or_false] at hm
    rcases hm with rfl | rfl | rfl
    · cases ht
    · cases ht
      exact ⟨by decide, show Instant.before _ Session.nineSpecimen = false by decide⟩
    · cases ht

/--
The session is valid in the middle of its last second for some of the rest, and so it is when
that second begins.  It is found until it expires, and is still in the vault when it is not.
-/
theorem validity_wanes_specimen :
    let s := Session.endingSpecimen
    let half := Session.afterNine 500000000 (by decide)
    s.isValidAt half ⟨400000000⟩ = true ∧ s.isValidAt lastSecond.now lastSecond.desk.margin = true
      ∧ s.isValidAt lastSecond.now ⟨Instant.endTick⟩ = false
      ∧ s.isValidAt s.expiry lastSecond.desk.margin = false
      ∧ lastSecond.Undisturbed expirySpecimen
      ∧ Wanes (.ok (some s)) (.ok none) (lastSecond.looks expirySpecimen)
      ∧ ∀ m ∈ Course.moments act lastSecond expirySpecimen,
        m.after.desk.vault = lastSecond.desk.vault := by
  intro s half
  obtain ⟨hmono, hlate, -, hcourse⟩ := validity_wanes
  have hhalf : s.isValidAt half ⟨400000000⟩ = true := by decide +kernel
  have hclock : lastSecond.now.NotAfter half :=
    show Instant.before half Session.nineSpecimen = false by decide
  obtain ⟨hlooks, hkept⟩ := hcourse lastSecond _ s expirySpecimen rfl rfl (Int.le_refl 0)
    undisturbed_specimen
  refine ⟨hhalf, ?_, ?_, by decide +kernel, undisturbed_specimen, hlooks, hkept⟩
  · exact hmono s _ half _ _ (by decide) (by decide) hclock (Int.le_refl 0) (by decide) hhalf
  · exact hlate s _ _ (by decide) (by decide +kernel)

end Scene
end Gateway
end DealDesk
