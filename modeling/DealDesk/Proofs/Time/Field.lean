import DealDesk.Proofs.Number.Spelling
import DealDesk.Time.Field

/-!
# What the fields of dates take

A field takes digits from the front of a text for as long as there is room, so what it
reads is fixed by the text: the longest row that its width admits.  In front of it there may
be blanks, and in front of a year a sign, which lifts the limit on its digits.

**Results.** `number_eq_some_iff`: the digits that are taken are the longest row.
`bounded_eq_some_iff` and `year_eq_some_iff`: what the fields take, as relations between a
text, a number and the rest of the text.  `bounded_padded`: a number with zeros in front is
read back.
-/

namespace DealDesk

namespace Digit

/-- No digit comes next. -/
def Ends (r : List Char) : Prop :=
  ∀ c r', r = c :: r' → ofChar? c = none

theorem ends_nil : Ends [] := by
  rintro c r' ⟨⟩

theorem ends_cons
    {c : Char} (h : ofChar? c = none) (r : List Char) :
    Ends (c :: r) := by
  intro d r' hd
  rw [← (List.cons.inj hd).1]
  exact h

/-- A character that shows a digit is the one that the digit is written with. -/
theorem eq_toChar_of_ofChar? {c : Char} {d : Digit} (h : ofChar? c = some d) :
    c = d.toChar := by
  rw [ofChar?] at h
  split at h
  · rename_i hrange
    have hlow : 48 ≤ c.toNat := hrange.1
    have hhigh : c.toNat ≤ 57 := hrange.2
    have hall : ∀ n : Fin 10, Char.ofNat (n.val + 48) = toChar (Fin.ofNat 10 n.val) := by
      decide
    have hn := hall ⟨c.toNat - 48, by omega⟩
    rw [Nat.sub_add_cancel hlow, Char.ofNat_toNat] at hn
    rw [hn, ← Option.some.inj h]
  · cases h

theorem toChar_not_blank (d : Digit) : Text.isBlank d.toChar = false := by
  revert d
  decide

end Digit

namespace Field

/-! ### Rows of digits -/

/-- What is taken and what is left make up the text, and nothing more could be taken. -/
theorem digits_sound (limit : Nat) (cs : List Char) :
    cs = Digit.text (digits limit cs).1 ++ (digits limit cs).2
      ∧ (digits limit cs).1.length ≤ limit
      ∧ ((digits limit cs).1.length < limit → Digit.Ends (digits limit cs).2) := by
  fun_induction digits limit cs with
  | case1 cs => exact ⟨rfl, Nat.le_refl 0, fun h => absurd h (Nat.lt_irrefl 0)⟩
  | case2 limit => exact ⟨rfl, Nat.zero_le _, fun _ => Digit.ends_nil⟩
  | case3 limit c r d hd ih =>
      obtain ⟨hcs, hlimit, hends⟩ := ih
      have hc := Digit.eq_toChar_of_ofChar? hd
      refine ⟨?_, Nat.succ_le_succ hlimit, fun h => hends (Nat.lt_of_succ_lt_succ h)⟩
      rw [hc, Digit.text, List.map_cons, List.cons_append, ← Digit.text, ← hcs]
  | case4 limit c r hc => exact ⟨rfl, Nat.zero_le _, fun _ => Digit.ends_cons hc r⟩

/-- Digits are taken as long as there is room, or until something else comes. -/
theorem digits_text
    {ds : List Digit} {limit : Nat} (hlen : ds.length ≤ limit) {r : List Char}
    (hr : ds.length < limit → Digit.Ends r) :
    digits limit (Digit.text ds ++ r) = (ds, r) := by
  induction ds generalizing limit with
  | nil =>
      cases limit with
      | zero => rfl
      | succ limit =>
          cases r with
          | nil => rfl
          | cons c r => simp [Digit.text, digits, hr (Nat.succ_pos limit) c r rfl]
  | cons d ds ih =>
      obtain ⟨limit, rfl⟩ : ∃ k, limit = k + 1 := by
        rw [List.length_cons] at hlen
        exact ⟨limit - 1, by omega⟩
      have hrest := ih (Nat.le_of_succ_le_succ hlen) fun h => hr (Nat.succ_lt_succ h)
      simp only [Digit.text, List.map_cons, List.cons_append] at hrest ⊢
      simp only [digits, Digit.ofChar?_toChar, hrest]

/--
A text starts with the digits of a number: the longest row of at most `limit` digits, and
not an empty one.
-/
inductive Starts (limit : Nat) : Nat → List Char → List Char → Prop
  | row
      (ds : List Digit) (r : List Char)
      (hsome : ds ≠ [])
      (hlimit : ds.length ≤ limit)
      (hlongest : ds.length < limit → Digit.Ends r) :
      Starts limit (Digit.value ds) (Digit.text ds ++ r) r

theorem number_eq_some_iff {limit n : Nat} {cs r : List Char} :
    number limit cs = some (n, r) ↔ Starts limit n cs r := by
  constructor
  · intro h
    obtain ⟨hcs, hlimit, hlongest⟩ := digits_sound limit cs
    rw [number] at h
    cases hds : digits limit cs with
    | mk ds r' =>
        rw [hds] at h hcs hlimit hlongest
        cases ds with
        | nil => cases h
        | cons d ds =>
            cases h
            rw [hcs]
            exact .row (d :: ds) r (List.cons_ne_nil d ds) hlimit hlongest
  · rintro ⟨ds, r, hsome, hlimit, hlongest⟩
    rw [number, digits_text hlimit hlongest]
    cases ds with
    | nil => exact absurd rfl hsome
    | cons d ds => rfl

/-- What starts with a number starts with a digit. -/
theorem Starts.exists_head
    {limit n : Nat} {cs r : List Char} (h : Starts limit n cs r) :
    ∃ (d : Digit) (cs' : List Char), cs = d.toChar :: cs' := by
  obtain ⟨ds, r, hsome, -, -⟩ := h
  cases ds with
  | nil => exact absurd rfl hsome
  | cons d ds => exact ⟨d, Digit.text ds ++ r, rfl⟩

theorem Starts.ne_cons
    {limit n : Nat} {cs r : List Char} (h : Starts limit n cs r)
    {c : Char} (hc : Digit.ofChar? c = none) (cs' : List Char) :
    cs ≠ c :: cs' := by
  obtain ⟨d, cs'', rfl⟩ := h.exists_head
  intro hcs
  exact Digit.toChar_ne hc d (List.cons.inj hcs).1

theorem Starts.trimFront
    {limit n : Nat} {cs r : List Char} (h : Starts limit n cs r)
    {blanks : List Char} (hblanks : ∀ c ∈ blanks, Text.isBlank c = true) :
    Text.trimFront (blanks ++ cs) = cs := by
  obtain ⟨d, cs', rfl⟩ := h.exists_head
  exact Text.dropWhile_framed hblanks (by simp [d.toChar_not_blank])

/-! ### Numbers and years -/

/-- A text starts with a number of at most two digits, after blanks. -/
inductive Counted (n : Nat) : List Char → List Char → Prop
  | after
      {blanks cs r : List Char}
      (hblanks : ∀ c ∈ blanks, Text.isBlank c = true)
      (h : Starts 2 n cs r) :
      Counted n (blanks ++ cs) r

/-- A text starts with a year of at most four digits, or with a sign and all digits behind it. -/
inductive Dated : Int → List Char → List Char → Prop
  | plain
      {n : Nat} {blanks cs r : List Char}
      (hblanks : ∀ c ∈ blanks, Text.isBlank c = true)
      (h : Starts 4 n cs r) :
      Dated n (blanks ++ cs) r
  | later
      {ds : List Digit} {blanks r : List Char}
      (hblanks : ∀ c ∈ blanks, Text.isBlank c = true)
      (hsome : ds ≠ [])
      (hends : Digit.Ends r) :
      Dated (Digit.value ds) (blanks ++ '+' :: (Digit.text ds ++ r)) r
  | earlier
      {ds : List Digit} {blanks r : List Char}
      (hblanks : ∀ c ∈ blanks, Text.isBlank c = true)
      (hsome : ds ≠ [])
      (hends : Digit.Ends r) :
      Dated (-(Digit.value ds : Int)) (blanks ++ '-' :: (Digit.text ds ++ r)) r

theorem Starts.counted
    {n : Nat} {cs r : List Char} (h : Starts 2 n cs r) :
    Counted n cs r :=
  .after (List.forall_mem_nil _) h

theorem Starts.dated
    {n : Nat} {cs r : List Char} (h : Starts 4 n cs r) :
    Dated n cs r :=
  .plain (List.forall_mem_nil _) h

/-- A text is what is trimmed from its front, and the rest. -/
theorem exists_blanks (cs : List Char) :
    ∃ blanks, (∀ c ∈ blanks, Text.isBlank c = true) ∧ cs = blanks ++ Text.trimFront cs :=
  ⟨cs.takeWhile Text.isBlank, List.all_eq_true.1 List.all_takeWhile,
    List.takeWhile_append_dropWhile.symm⟩

theorem counted_iff {n : Nat} {cs r : List Char} :
    Counted n cs r ↔ number 2 (Text.trimFront cs) = some (n, r) := by
  rw [number_eq_some_iff]
  constructor
  · rintro ⟨hblanks, h⟩
    rwa [h.trimFront hblanks]
  · intro h
    obtain ⟨blanks, hblanks, hcs⟩ := exists_blanks cs
    rw [hcs]
    exact .after hblanks h

/-- A text starts with at most one number. -/
theorem Counted.unique
    {m n : Nat} {cs r r' : List Char} (h : Counted m cs r) (h' : Counted n cs r') :
    m = n ∧ r = r' := by
  have heq := (counted_iff.1 h).symm.trans (counted_iff.1 h')
  exact Prod.mk.inj (Option.some.inj heq)

/-- Blanks in front of a number make no difference. -/
theorem Counted.behind
    {n : Nat} {cs r : List Char} (h : Counted n cs r)
    {gap : List Char} (hgap : ∀ c ∈ gap, Text.isBlank c = true) :
    Counted n (gap ++ cs) r := by
  obtain ⟨hblanks, h⟩ := h
  rw [← List.append_assoc]
  refine .after (fun c hc => ?_) h
  exact (List.mem_append.1 hc).elim (hgap c) (hblanks c)

theorem Counted.trimFront
    {n : Nat} {cs r : List Char} (h : Counted n cs r) :
    Counted n (Text.trimFront cs) r := by
  obtain ⟨hblanks, h⟩ := h
  rw [h.trimFront hblanks]
  exact h.counted

theorem bounded_eq_some_iff {low high n : Nat} {cs r : List Char} :
    bounded low high 2 cs = some (n, r) ↔ Counted n cs r ∧ low ≤ n ∧ n ≤ high := by
  rw [counted_iff, bounded]
  constructor
  · intro h
    obtain ⟨⟨m, r'⟩, hnumber, h⟩ := Option.bind_eq_some_iff.1 h
    simp only at h
    split at h
    · rename_i hbounds
      cases h
      exact ⟨hnumber, hbounds⟩
    · cases h
  · rintro ⟨hnumber, hbounds⟩
    rw [hnumber]
    exact if_pos hbounds

/-- Behind a sign there is room for all digits, so the row is longest if no digit comes next. -/
theorem signed_eq_some_iff
    (f : Nat → Int) {y : Int} {cs r : List Char} :
    ((number cs.length cs).map fun p => (f p.1, p.2)) = some (y, r)
      ↔ ∃ ds, ds ≠ [] ∧ Digit.Ends r ∧ f (Digit.value ds) = y ∧ cs = Digit.text ds ++ r := by
  rw [Option.map_eq_some_iff]
  constructor
  · rintro ⟨⟨n, r'⟩, hnumber, heq⟩
    cases heq
    obtain ⟨ds, _, hsome, -, hlongest⟩ := number_eq_some_iff.1 hnumber
    refine ⟨ds, hsome, ?_, rfl, rfl⟩
    rw [List.length_append, Digit.length_text] at hlongest
    cases r' with
    | nil => exact Digit.ends_nil
    | cons c r => exact hlongest (Nat.lt_add_of_pos_right (Nat.succ_pos r.length))
  · rintro ⟨ds, hsome, hends, rfl, rfl⟩
    refine ⟨(Digit.value ds, r), number_eq_some_iff.2 (.row ds r hsome ?_ fun _ => hends), rfl⟩
    rw [List.length_append, Digit.length_text]
    exact Nat.le_add_right ..

theorem year_eq_some_iff {y : Int} {cs r : List Char} :
    year cs = some (y, r) ↔ Dated y cs r := by
  have hsign {c : Char} (hc : Text.isBlank c = false) {blanks : List Char}
      (hblanks : ∀ c ∈ blanks, Text.isBlank c = true) (cs : List Char) :
      Text.trimFront (blanks ++ c :: cs) = c :: cs :=
    Text.dropWhile_framed hblanks (by simp [hc])
  constructor
  · intro h
    obtain ⟨blanks, hblanks, hcs⟩ := exists_blanks cs
    rw [hcs]
    rw [year] at h
    split at h
    · rename_i r' htrim
      obtain ⟨ds, hsome, hends, rfl, rfl⟩ := (signed_eq_some_iff fun n => -(n : Int)).1 h
      rw [htrim]
      exact .earlier hblanks hsome hends
    · rename_i r' htrim
      obtain ⟨ds, hsome, hends, rfl, rfl⟩ := (signed_eq_some_iff fun n => (n : Int)).1 h
      rw [htrim]
      exact .later hblanks hsome hends
    · obtain ⟨⟨n, r''⟩, hnumber, heq⟩ := Option.map_eq_some_iff.1 h
      cases heq
      exact .plain hblanks (number_eq_some_iff.1 hnumber)
  · intro h
    cases h with
    | plain hblanks h =>
        rw [year, h.trimFront hblanks]
        split
        · exact absurd rfl (h.ne_cons (by decide) _)
        · exact absurd rfl (h.ne_cons (by decide) _)
        · rw [number_eq_some_iff.2 h]
          rfl
    | later hblanks hsome hends =>
        rw [year, hsign (by decide) hblanks]
        exact (signed_eq_some_iff fun n => (n : Int)).2 ⟨_, hsome, hends, rfl, rfl⟩
    | earlier hblanks hsome hends =>
        rw [year, hsign (by decide) hblanks]
        exact (signed_eq_some_iff fun n => -(n : Int)).2 ⟨_, hsome, hends, rfl, rfl⟩

theorem Dated.unique
    {y z : Int} {cs r r' : List Char} (h : Dated y cs r) (h' : Dated z cs r') :
    y = z ∧ r = r' := by
  have heq := (year_eq_some_iff.2 h).symm.trans (year_eq_some_iff.2 h')
  exact Prod.mk.inj (Option.some.inj heq)

theorem mark_eq_some_iff {c : Char} {cs r : List Char} :
    mark c cs = some r ↔ cs = c :: r := by
  cases cs with
  | nil => simp [mark]
  | cons d cs =>
      rw [mark, List.cons.injEq]
      split
      · rename_i hd
        simp [hd]
      · rename_i hd
        simp [hd]

theorem mark_cons (c : Char) (r : List Char) :
    mark c (c :: r) = some r :=
  if_pos rfl

/-! ### Padded numbers -/

/-- The digits of a number with zeros in front up to a width. -/
def paddedDigits (width n : Nat) : List Digit :=
  List.replicate (width - (Digit.ofNat n).length) 0 ++ Digit.ofNat n

theorem padded_eq_text (width n : Nat) :
    padded width n = Digit.text (paddedDigits width n) := by
  have hzeros : ∀ k, Digit.text (List.replicate k 0) = List.replicate k '0' :=
    fun _ => List.map_replicate
  rw [padded, paddedDigits, Digit.text_append, natText, Digit.length_text, hzeros]

theorem value_paddedDigits (width n : Nat) :
    Digit.value (paddedDigits width n) = n := by
  rw [paddedDigits, Digit.value_replicate_append, Digit.value_ofNat]

theorem paddedDigits_ne_nil (width n : Nat) :
    paddedDigits width n ≠ [] := by
  intro h
  exact Digit.ofNat_ne_nil n (List.append_eq_nil_iff.1 h).2

theorem length_paddedDigits
    {width n : Nat} (hw : 0 < width) (h : n < Nat.pow 10 width) :
    (paddedDigits width n).length = width := by
  have hle := Digit.length_ofNat_le hw h
  rw [paddedDigits, List.length_append, List.length_replicate]
  omega

/-- A row of digits is its number, padded to the length of the row. -/
theorem padded_value
    {width : Nat} (hw : 0 < width) {ds : List Digit} (hlength : ds.length = width) :
    padded width (Digit.value ds) = Digit.text ds := by
  have hlt := Digit.value_lt ds
  rw [hlength] at hlt
  have hpadded := length_paddedDigits hw hlt
  rw [padded_eq_text,
    Digit.value_inj (hpadded.trans hlength.symm) (value_paddedDigits width (Digit.value ds))]

theorem starts_padded
    {limit width n : Nat} (hlimit : (paddedDigits width n).length ≤ limit) {r : List Char}
    (hlongest : (paddedDigits width n).length < limit → Digit.Ends r) :
    Starts limit n (padded width n ++ r) r := by
  have h := Starts.row (paddedDigits width n) r (paddedDigits_ne_nil width n) hlimit hlongest
  rwa [value_paddedDigits, ← padded_eq_text] at h

/-- Two digits leave no room for another one. -/
theorem counted_padded {n : Nat} (h : n < 100) (r : List Char) :
    Counted n (padded 2 n ++ r) r := by
  have hlength := length_paddedDigits (show 0 < 2 by decide) h
  exact (starts_padded (Nat.le_of_eq hlength) fun hlt => absurd hlength (Nat.ne_of_lt hlt)).counted

theorem dated_padded {n : Nat} (h : n < 10000) (r : List Char) :
    Dated n (padded 4 n ++ r) r := by
  have hlength := length_paddedDigits (show 0 < 4 by decide) h
  exact (starts_padded (Nat.le_of_eq hlength) fun hlt => absurd hlength (Nat.ne_of_lt hlt)).dated

theorem bounded_padded
    {low high n : Nat} (hlow : low ≤ n) (hhigh : n ≤ high) (h : high < 100) (r : List Char) :
    bounded low high 2 (padded 2 n ++ r) = some (n, r) :=
  bounded_eq_some_iff.2 ⟨counted_padded (Nat.lt_of_le_of_lt hhigh h) r, hlow, hhigh⟩

end Field

end DealDesk
