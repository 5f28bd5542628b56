import DealDesk.Proofs.Json.Record
import Mathlib.Data.List.Nodup

/-!
# Members by their names

A record reads the members of an object one after the other, each into the place of
its field.  If no name stands twice, what is in the places at the end depends only on
which members there are, whatever their order: a field takes its own member, and for
the others that one is unknown.

**Results.** `Fields.gathered_iff`: the values of a record are those that each field finds
on its own.  `Spells.of_compact`: the compact text of an object spells its members.
`Fields.gathered_iff_takes`: what is read from the members of some fields, with others between.
-/

namespace DealDesk
namespace Json

namespace Codec

theorem bind_eq_ok_iff
    {ε α β : Type} {r : Except ε α} {f : α → Except ε β} {y : β} :
    r.bind f = .ok y ↔ ∃ x, r = .ok x ∧ f x = .ok y := by
  cases r <;> simp [Except.bind]

theorem map_eq_ok_iff_exists
    {ε α β : Type} {f : α → β} {r : Except ε α} {y : β} :
    r.map f = .ok y ↔ ∃ x, r = .ok x ∧ f x = y := by
  cases r <;> simp [Except.map]

theorem exists_map_eq_ok_iff
    {ε α β : Type} {f : α → β} {r : Except ε α} :
    (∃ y, r.map f = .ok y) ↔ ∃ x, r = .ok x := by
  cases r <;> simp [Except.map]

end Codec

/-- Members of an object that the syntax has no quarrel with, no name twice. -/
structure Orderly (ms : List (String × Doc)) : Prop where
  distinct : (ms.map Prod.fst).Nodup
  sound : ∀ m ∈ ms, m.2.isSound = true

/-- Members as they stand in an object. -/
def spelled (ms : List (String × Doc)) : List (Option String × Doc) :=
  ms.map fun m => Doc.member m.1 m.2

/-- The text is an object with these members. -/
structure Spells (s : String) (ms : List (String × Doc)) : Prop where
  reading : readText s = ⟨.obj (spelled ms), false⟩
  orderly : Orderly ms

namespace Orderly

variable {ms : List (String × Doc)}

theorem value_unique
    (h : Orderly ms) {key : String} {d d' : Doc} (hd : (key, d) ∈ ms) (hd' : (key, d') ∈ ms) :
    d = d' :=
  (Prod.ext_iff.1 (List.inj_on_of_nodup_map h.distinct hd hd' rfl)).2

theorem tail {m : String × Doc} (h : Orderly (m :: ms)) : Orderly ms where
  distinct := (List.nodup_cons.1 h.distinct).2
  sound := fun m' hm' => h.sound m' (List.mem_cons_of_mem m hm')

theorem not_mem_tail
    {key : String} {d : Doc} (h : Orderly ((key, d) :: ms)) (d' : Doc) :
    (key, d') ∉ ms := by
  intro hd'
  have hkey : key ∈ ms.map Prod.fst := List.mem_map.2 ⟨(key, d'), hd', rfl⟩
  exact (List.nodup_cons.1 h.distinct).1 hkey

end Orderly

theorem name_ne_of_absent
    {key : String} {ms : List (String × Doc)} (h : ∀ d, (key, d) ∉ ms) :
    ∀ m ∈ spelled ms, m.1 ≠ some key := by
  intro m hm hkey
  obtain ⟨⟨key', d⟩, hd, rfl⟩ := List.mem_map.1 hm
  obtain rfl : key' = key := Option.some.inj hkey
  exact h d hd

theorem legible_of_membersLegible
    {ok : Numeral → Bool} {ms : List (String × Doc)} {depth : Nat}
    (h : Doc.membersLegible ok (spelled ms) depth = true) :
    ∀ m ∈ ms, m.2.isLegible ok depth = true := by
  induction ms with
  | nil => exact fun m hm => absurd hm List.not_mem_nil
  | cons m ms ih =>
      rw [spelled, List.map_cons, Doc.membersLegible, Bool.and_eq_true] at h
      exact List.forall_mem_cons.2 ⟨h.1, ih h.2⟩

/-- The compact text of a legible object with distinct names spells its members. -/
theorem Spells.of_compact
    {ok : Numeral → Bool} (hok : ∀ n, ok n = true → n.WellFormed) (depth : Nat)
    {ms : List (String × Doc)} (hdistinct : (ms.map Prod.fst).Nodup)
    (h : Doc.membersLegible ok (spelled ms) depth = true) :
    Spells (Doc.obj (spelled ms)).compact ms := by
  have hobj : (Doc.obj (spelled ms)).isLegible ok (depth + 1) = true := h
  refine ⟨readText_compact hok hobj, hdistinct, fun m hm => ?_⟩
  exact Doc.isSound_of_isLegible (legible_of_membersLegible h m hm)

namespace Field

/-- The field has the value: from the member with its key, or from the lack of one. -/
inductive Finds {α : Type} (f : Field α) (ms : List (String × Doc)) (v : α) : Prop
  | member {d : Doc} (there : (f.key, d) ∈ ms) (reads : f.codec.read d = .ok v)
  | absence (gone : ∀ d, (f.key, d) ∉ ms) (stands : f.ifAbsent = some v)

theorem finds_iff_of_mem
    {α : Type} {f : Field α} {ms : List (String × Doc)} (h : Orderly ms) {d : Doc}
    (hd : (f.key, d) ∈ ms) (v : α) :
    f.Finds ms v ↔ f.codec.read d = .ok v := by
  constructor
  · rintro (⟨hd', hread⟩ | ⟨hgone, -⟩)
    · rwa [h.value_unique hd hd']
    · exact absurd hd (hgone d)
  · exact .member hd

theorem finds_iff_of_absent
    {α : Type} {f : Field α} {ms : List (String × Doc)} (hgone : ∀ d, (f.key, d) ∉ ms) (v : α) :
    f.Finds ms v ↔ f.ifAbsent = some v := by
  constructor
  · rintro (⟨hd, -⟩ | ⟨-, hv⟩)
    · exact absurd hd (hgone _)
    · exact hv
  · exact .absence hgone

end Field

namespace Fields

theorem put_of_not_mem
    {τ σ : Type} (fs : Fields τ σ) (slots : σ) {key : String} (h : key ∉ fs.keys) (d : Doc) :
    fs.put slots key d = .ok none := by
  induction fs with
  | nil => rfl
  | cons f rest ih =>
      obtain ⟨slot, slots⟩ := slots
      rw [keys, List.mem_cons, not_or] at h
      rw [put_cons_of_ne f rest slot slots h.1, ih slots h.2]

/--
A field takes the member with its key wherever that stands; the other fields read all
members as if the field were not there, for which its member is an unknown one.
-/
theorem putAll_cons_of_mem
    {α β σ : Type} (f : Field α) (rest : Fields β σ) (hf : f.key ∉ rest.keys) (slots : σ)
    {ms : List (String × Doc)} (h : Orderly ms) {d : Doc} (hd : (f.key, d) ∈ ms)
    (x : Option α × σ) :
    (Fields.cons f rest).putAll (none, slots) (spelled ms) = .ok x
      ↔ ∃ v, f.codec.read d = .ok v ∧ x.1 = some v
        ∧ rest.putAll slots (spelled ms) = .ok x.2 := by
  induction ms generalizing slots with
  | nil => exact absurd hd List.not_mem_nil
  | cons m ms ih =>
      obtain ⟨key, d'⟩ := m
      rw [spelled, List.map_cons, ← spelled, Doc.member, putAll, putAll]
      by_cases hkey : key = f.key
      -- The member of the field: no later one has its name, and to the rest it is unknown.
      · subst hkey
        obtain rfl : d' = d := h.value_unique List.mem_cons_self hd
        have hsound : d'.isSound = true := h.sound _ List.mem_cons_self
        have hrest := name_ne_of_absent h.not_mem_tail
        rw [put, if_pos rfl, rest.put_of_not_mem slots hf]
        simp only [if_pos hsound]
        cases f.codec.read d' with
        | error e => simp
        | ok v =>
            simp only [putAll_cons_of_not_mem f rest (some v) slots hrest, Except.ok.injEq,
              exists_eq_left']
            cases rest.putAll slots (spelled ms) with
            | error e => simp [Except.map]
            | ok slots' => simp [Except.map, Prod.ext_iff, eq_comm]
      · have hd : (f.key, d) ∈ ms := by
          rcases List.mem_cons.1 hd with heq | hd
          · exact absurd (Prod.ext_iff.1 heq).1.symm hkey
          · exact hd
        rw [put_cons_of_ne f rest none slots hkey]
        cases rest.put slots key d' with
        | error e => simp
        | ok slots' =>
            cases slots' with
            | none =>
                have hsound : d'.isSound = true := h.sound _ List.mem_cons_self
                simp only [if_pos hsound]
                exact ih slots h.tail hd
            | some slots' => exact ih slots' h.tail hd

theorem close_filled_iff
    {α β σ : Type} (f : Field α) (rest : Fields β σ) (v' : α) (slots : σ) (v : α) (w : β) :
    (Fields.cons f rest).close (some v', slots) = .ok (v, w)
      ↔ v' = v ∧ rest.close slots = .ok w := by
  rw [close]
  cases rest.close slots <;> simp [Except.map]

theorem gathered_cons_of_mem
    {α β σ : Type} (f : Field α) (rest : Fields β σ) (hf : f.key ∉ rest.keys)
    {ms : List (String × Doc)} (h : Orderly ms) {d : Doc} (hd : (f.key, d) ∈ ms)
    (v : α) (w : β) :
    (Fields.cons f rest).gathered (spelled ms) = .ok (v, w)
      ↔ f.codec.read d = .ok v ∧ rest.gathered (spelled ms) = .ok w := by
  have hput := putAll_cons_of_mem f rest hf rest.empty h hd
  rw [gathered, gathered, empty, Codec.bind_eq_ok_iff, Codec.bind_eq_ok_iff]
  constructor
  · rintro ⟨⟨slot, slots⟩, hall, hclose⟩
    obtain ⟨v', hread, hslot, hrest⟩ := (hput _).1 hall
    obtain rfl : slot = some v' := hslot
    obtain ⟨hv, hw⟩ := (close_filled_iff f rest v' slots v w).1 hclose
    exact ⟨hv ▸ hread, slots, hrest, hw⟩
  · rintro ⟨hread, slots, hrest, hw⟩
    exact ⟨(some v, slots), (hput _).2 ⟨v, hread, rfl, hrest⟩,
      (close_filled_iff f rest v slots v w).2 ⟨rfl, hw⟩⟩

theorem gathered_nil
    {ms : List (String × Doc)} (h : Orderly ms) :
    Fields.nil.gathered (spelled ms) = .ok () := by
  have hput : Fields.nil.putAll () (spelled ms) = .ok () := by
    induction ms with
    | nil => rfl
    | cons m ms ih =>
        rw [spelled, List.map_cons, ← spelled, Doc.member, putAll, put]
        simp only [if_pos (h.sound m List.mem_cons_self), ih h.tail]
  rw [gathered, empty, hput]
  rfl

/-- Each field of a record finds its value on its own. -/
theorem gathered_iff
    {τ σ : Type} {fs : Fields τ σ} (hkeys : fs.keys.Nodup) {ms : List (String × Doc)}
    (h : Orderly ms) (v : τ) :
    fs.gathered (spelled ms) = .ok v ↔ fs.Each (fun f v => f.Finds ms v) v := by
  induction fs with
  | nil => exact ⟨fun _ => trivial, fun _ => gathered_nil h⟩
  | cons f rest ih =>
      obtain ⟨v, w⟩ := v
      obtain ⟨hhead, htail⟩ := List.nodup_cons.1 hkeys
      rw [Each, ← ih htail]
      by_cases hmem : ∃ d, (f.key, d) ∈ ms
      · obtain ⟨d, hd⟩ := hmem
        rw [gathered_cons_of_mem f rest hhead h hd, Field.finds_iff_of_mem h hd]
      · rw [not_exists] at hmem
        rw [gathered_cons_of_not_mem f rest (name_ne_of_absent hmem),
          Field.finds_iff_of_absent hmem]

/-! ### Some of the fields -/

/-- The members that the values of a record are written as, none of them left out. -/
def entries : {τ σ : Type} → Fields τ σ → τ → List (String × Doc)
  | _, _, .nil, _ => []
  | _, _, .cons f rest, (v, w) => (f.key, f.codec.write v) :: rest.entries w

theorem map_fst_entries
    {τ σ : Type} (fs : Fields τ σ) (v : τ) :
    (fs.entries v).map Prod.fst = fs.keys := by
  induction fs with
  | nil => rfl
  | cons f rest ih => rw [entries, keys, List.map_cons, ih]

/-- The members with keys of fields are those of the chosen ones, in any order. -/
structure Holds
    {τ σ : Type} (fs : Fields τ σ) (chosen : String → Bool) (v : τ)
    (ms : List (String × Doc)) : Prop where
  known : (ms.filter fun m => m.1 ∈ fs.keys).Perm ((fs.entries v).filter fun m => chosen m.1)
  unknown : ∀ m ∈ ms, m.1 ∉ fs.keys → m.2.isSound = true

/-- The members of all fields hold all of them. -/
theorem holds_entries
    {τ σ : Type} (fs : Fields τ σ) (v : τ) :
    fs.Holds (fun _ => true) v (fs.entries v) := by
  have hkeys : ∀ m ∈ fs.entries v, m.1 ∈ fs.keys := fun m hm => by
    rw [← fs.map_fst_entries v]
    exact List.mem_map_of_mem hm
  refine ⟨?_, fun m hm hkey => absurd (hkeys m hm) hkey⟩
  have hknown : ((fs.entries v).filter fun m => m.1 ∈ fs.keys) = fs.entries v :=
    List.filter_eq_self.2 fun m hm => decide_eq_true (hkeys m hm)
  rw [hknown, List.filter_true]

/-- Each chosen field is read back, and each other one takes what stands for its absence. -/
def Takes
    {τ σ : Type} (fs : Fields τ σ) (chosen : String → Bool) (v w : τ) : Prop :=
  fs.Both (fun f v w => if chosen f.key then f.codec.Gives v w else f.ifAbsent = some w) v w

/-- Sound members that belong to no field can be left out. -/
theorem putAll_filter
    {τ σ : Type} (fs : Fields τ σ) (slots : σ) {ms : List (String × Doc)}
    (h : ∀ m ∈ ms, m.1 ∉ fs.keys → m.2.isSound = true) :
    fs.putAll slots (spelled (ms.filter fun m => m.1 ∈ fs.keys)) = fs.putAll slots (spelled ms) := by
  induction ms generalizing slots with
  | nil => rfl
  | cons m ms ih =>
      have hrest := fun slots => ih slots fun m' hm' => h m' (List.mem_cons_of_mem _ hm')
      obtain ⟨key, d⟩ := m
      by_cases hkey : key ∈ fs.keys
      · rw [List.filter_cons_of_pos (by simp [hkey])]
        simp only [spelled, List.map_cons, Doc.member, putAll] at hrest ⊢
        cases fs.put slots key d with
        | error e => rfl
        | ok slots' =>
            cases slots' with
            | some slots' => exact hrest slots'
            | none => rw [hrest slots]
      · have hsound := h (key, d) List.mem_cons_self hkey
        rw [List.filter_cons_of_neg (by simp [hkey])]
        simp only [spelled, List.map_cons, Doc.member, putAll] at hrest ⊢
        rw [fs.put_of_not_mem slots hkey]
        simp only [if_pos hsound]
        exact hrest slots

theorem gathered_filter
    {τ σ : Type} (fs : Fields τ σ) {ms : List (String × Doc)}
    (h : ∀ m ∈ ms, m.1 ∉ fs.keys → m.2.isSound = true) :
    fs.gathered (spelled (ms.filter fun m => m.1 ∈ fs.keys)) = fs.gathered (spelled ms) := by
  rw [gathered, gathered, putAll_filter fs fs.empty h]

/-- What each field finds among members that are those of the chosen fields. -/
theorem each_finds_iff_takes
    {τ σ : Type} {fs : Fields τ σ} {chosen : String → Bool} {ms : List (String × Doc)}
    (horderly : Orderly ms) {v : τ}
    (hthere : ∀ m ∈ fs.entries v, chosen m.1 = true → m ∈ ms)
    (hgone : ∀ key, chosen key = false → ∀ d, (key, d) ∉ ms) (w : τ) :
    fs.Each (fun f w => f.Finds ms w) w ↔ fs.Takes chosen v w := by
  induction fs with
  | nil => exact Iff.rfl
  | cons f rest ih =>
      obtain ⟨v, v'⟩ := v
      obtain ⟨w, w'⟩ := w
      have hrest := ih (v := v') (fun m hm => hthere m (List.mem_cons_of_mem _ hm)) w'
      rw [Each, Takes, Both, ← Takes, hrest]
      cases hchosen : chosen f.key with
      | true =>
          have hmem := hthere _ List.mem_cons_self hchosen
          rw [Field.finds_iff_of_mem horderly hmem, if_pos rfl, Codec.Gives]
      | false =>
          rw [Field.finds_iff_of_absent (hgone f.key hchosen), if_neg Bool.false_ne_true]

/--
From members that hold the chosen fields a record takes their values, whatever the order and
whatever stands between them, and for the other fields what stands for their absence.
-/
theorem gathered_iff_takes
    {τ σ : Type} {fs : Fields τ σ} (hkeys : fs.keys.Nodup) {chosen : String → Bool} {v : τ}
    (hsound : ∀ m ∈ fs.entries v, m.2.isSound = true) {ms : List (String × Doc)}
    (h : fs.Holds chosen v ms) (w : τ) :
    fs.gathered (spelled ms) = .ok w ↔ fs.Takes chosen v w := by
  have horderly : Orderly (ms.filter fun m => m.1 ∈ fs.keys) := by
    refine ⟨?_, fun m hm => hsound m (List.mem_filter.1 (h.known.mem_iff.1 hm)).1⟩
    rw [(h.known.map Prod.fst).nodup_iff]
    refine List.Nodup.sublist (List.filter_sublist.map Prod.fst) ?_
    rwa [map_fst_entries]
  rw [← gathered_filter fs h.unknown, gathered_iff hkeys horderly]
  refine each_finds_iff_takes horderly (fun m hm hchosen => ?_) (fun key hgone d hmem => ?_) w
  · exact h.known.mem_iff.2 (List.mem_filter.2 ⟨hm, hchosen⟩)
  · have hchosen := (List.mem_filter.1 (h.known.mem_iff.1 hmem)).2
    rw [hgone] at hchosen
    cases hchosen

end Fields

end Json
end DealDesk
