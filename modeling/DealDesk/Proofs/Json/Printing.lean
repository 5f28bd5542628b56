import DealDesk.Proofs.Json.Strings
import DealDesk.Proofs.Number.Spelling

/-!
# Documents and their texts

Both forms of a document put the same marks in the same order and differ only in
the blanks between them.  `Doc.laid` writes a document with any such blanks, and
`Gaps.tight` and `Gaps.lined` are those of the two forms.  Reading skips the
blanks, so that one induction on the document serves both forms.

**Results.** `readText_compact` and `readText_indented`: a legible document whose
numerals are well formed is read back from its compact and from its indented text.
-/

namespace DealDesk
namespace Json

/-- The blanks between the parts of a document: before a part at a level and after a colon. -/
structure Gaps where
  line : Nat → List Char
  colon : List Char
  line_blank : ∀ level, (line level).all isSpace = true
  colon_blank : colon.all isSpace = true

namespace Gaps

def tight : Gaps where
  line _ := []
  colon := []
  line_blank _ := rfl
  colon_blank := rfl

/-- A line for each part, with two blanks for each level. -/
def lined : Gaps where
  line level := '\n' :: List.replicate (2 * level) ' '
  colon := [' ']
  line_blank level := by simp [isSpace]
  colon_blank := by decide

end Gaps

def inQuotes (s : String) : List Char :=
  '"' :: (escape s.toList ++ ['"'])

namespace Doc

mutual

/-- A document at a level, with blanks. -/
def laid (g : Gaps) : Doc → Nat → List Char
  | .null, _ => "null".toList
  | .bool true, _ => "true".toList
  | .bool false, _ => "false".toList
  | .num n, _ => n.text
  | .str s, _ => inQuotes (s.getD "")
  | .arr [], _ => ['[', ']']
  | .arr (d :: r), k =>
      '[' :: (g.line (k + 1) ++ (d.laid g (k + 1) ++ (itemsLaid g r k ++ (g.line k ++ [']']))))
  | .obj [], _ => ['\x7b', '\x7d']
  | .obj (m :: r), k =>
      '\x7b' :: (g.line (k + 1)
        ++ (memberLaid g m (k + 1) ++ (membersLaid g r k ++ (g.line k ++ ['\x7d']))))
  | .misnamed _, _ => []
  | .broken, _ => []
termination_by structural d => d

def itemsLaid (g : Gaps) : List Doc → Nat → List Char
  | [], _ => []
  | d :: r, k => ',' :: (g.line (k + 1) ++ (d.laid g (k + 1) ++ itemsLaid g r k))
termination_by structural ds => ds

def membersLaid (g : Gaps) : List (Option String × Doc) → Nat → List Char
  | [], _ => []
  | m :: r, k => ',' :: (g.line (k + 1) ++ (memberLaid g m (k + 1) ++ membersLaid g r k))
termination_by structural ms => ms

def memberLaid (g : Gaps) : Option String × Doc → Nat → List Char
  | (key, d), k => inQuotes (key.getD "") ++ ':' :: (g.colon ++ d.laid g k)
termination_by structural m => m

end

mutual

theorem compactOnto_eq_laid (d : Doc) (k : Nat) (tail : List Char) :
    d.compactOnto tail = d.laid .tight k ++ tail := by
  match d with
  | .null => rfl
  | .bool true => rfl
  | .bool false => rfl
  | .num n => rfl
  | .str s => simp [compactOnto, laid, writeString, inQuotes]
  | .arr [] => rfl
  | .arr (d :: r) =>
      simp [compactOnto, laid, Gaps.tight, compactOnto_eq_laid d (k + 1),
        itemsOnto_eq_laid r k]
  | .obj [] => rfl
  | .obj (m :: r) =>
      simp [compactOnto, laid, Gaps.tight, memberOnto_eq_laid m (k + 1),
        membersOnto_eq_laid r k]
  | .misnamed _ => rfl
  | .broken => rfl

theorem itemsOnto_eq_laid (ds : List Doc) (k : Nat) (tail : List Char) :
    itemsOnto ds tail = itemsLaid .tight ds k ++ tail := by
  match ds with
  | [] => rfl
  | d :: r =>
      simp [itemsOnto, itemsLaid, Gaps.tight, compactOnto_eq_laid d (k + 1),
        itemsOnto_eq_laid r k]

theorem membersOnto_eq_laid (ms : List (Option String × Doc)) (k : Nat) (tail : List Char) :
    membersOnto ms tail = membersLaid .tight ms k ++ tail := by
  match ms with
  | [] => rfl
  | m :: r =>
      simp [membersOnto, membersLaid, Gaps.tight, memberOnto_eq_laid m (k + 1),
        membersOnto_eq_laid r k]

theorem memberOnto_eq_laid (m : Option String × Doc) (k : Nat) (tail : List Char) :
    memberOnto m tail = memberLaid .tight m k ++ tail := by
  match m with
  | (key, d) =>
      simp [memberOnto, memberLaid, writeString, inQuotes, Gaps.tight, compactOnto_eq_laid d k]

end

mutual

theorem indentedOnto_eq_laid (d : Doc) (k : Nat) (tail : List Char) :
    d.indentedOnto k tail = d.laid .lined k ++ tail := by
  match d with
  | .null => rfl
  | .bool true => rfl
  | .bool false => rfl
  | .num n => rfl
  | .str s => simp [indentedOnto, compactOnto, laid, writeString, inQuotes]
  | .arr [] => rfl
  | .arr (d :: r) =>
      simp [indentedOnto, laid, newLine, Gaps.lined, indentedOnto_eq_laid d (k + 1),
        indentedItemsOnto_eq_laid r k]
  | .obj [] => rfl
  | .obj (m :: r) =>
      simp [indentedOnto, laid, newLine, Gaps.lined, indentedMemberOnto_eq_laid m (k + 1),
        indentedMembersOnto_eq_laid r k]
  | .misnamed _ => rfl
  | .broken => rfl

theorem indentedItemsOnto_eq_laid (ds : List Doc) (k : Nat) (tail : List Char) :
    indentedItemsOnto ds k tail = itemsLaid .lined ds k ++ tail := by
  match ds with
  | [] => rfl
  | d :: r =>
      simp [indentedItemsOnto, itemsLaid, newLine, Gaps.lined, indentedOnto_eq_laid d (k + 1),
        indentedItemsOnto_eq_laid r k]

theorem indentedMembersOnto_eq_laid
    (ms : List (Option String × Doc)) (k : Nat) (tail : List Char) :
    indentedMembersOnto ms k tail = membersLaid .lined ms k ++ tail := by
  match ms with
  | [] => rfl
  | m :: r =>
      simp [indentedMembersOnto, membersLaid, newLine, Gaps.lined,
        indentedMemberOnto_eq_laid m (k + 1), indentedMembersOnto_eq_laid r k]

theorem indentedMemberOnto_eq_laid (m : Option String × Doc) (k : Nat) (tail : List Char) :
    indentedMemberOnto m k tail = memberLaid .lined m k ++ tail := by
  match m with
  | (key, d) =>
      simp [indentedMemberOnto, memberLaid, writeString, inQuotes, Gaps.lined,
        indentedOnto_eq_laid d k]

end

end Doc

/-! ### Blanks and scalars -/

theorem skipSpace_append
    {gap : List Char} (h : gap.all isSpace = true) (cs : List Char) :
    skipSpace (gap ++ cs) = skipSpace cs := by
  rw [skipSpace, List.dropWhile_append_of_pos (List.all_eq_true.1 h), skipSpace]

theorem skipSpace_cons
    {c : Char} (h : isSpace c = false) (cs : List Char) :
    skipSpace (c :: cs) = c :: cs := by
  rw [skipSpace, List.dropWhile_cons_of_neg (by simp [h])]

theorem readDoc_gap
    {gap : List Char} (h : gap.all isSpace = true) (isStray : Char → Bool) (fuel : Nat)
    (cs : List Char) :
    readDoc isStray fuel (gap ++ cs) = readDoc isStray fuel cs := by
  cases fuel with
  | zero => rfl
  | succ fuel => rw [readDoc, readDoc, skipSpace_append h]

theorem readItems_gap
    {gap : List Char} (h : gap.all isSpace = true) (isStray : Char → Bool) (fuel : Nat)
    (cs : List Char) :
    readItems isStray fuel (gap ++ cs) = readItems isStray fuel cs := by
  cases fuel with
  | zero => rfl
  | succ fuel => rw [readItems, readItems, readDoc_gap h]

theorem readMembers_gap
    {gap : List Char} (h : gap.all isSpace = true) (isStray : Char → Bool) (fuel : Nat)
    (cs : List Char) :
    readMembers isStray fuel (gap ++ cs) = readMembers isStray fuel cs := by
  cases fuel with
  | zero => rfl
  | succ fuel => rw [readMembers, readMembers, skipSpace_append h]

/-- A text that starts with neither a blank nor a bracket is that of a scalar. -/
theorem readDoc_scalar
    {c : Char} (hs : isSpace c = false) (ha : c ≠ '[') (ho : c ≠ '\x7b')
    (isStray : Char → Bool) (fuel : Nat) (cs : List Char) :
    readDoc isStray (fuel + 1) (c :: cs) = readScalar isStray (c :: cs) := by
  rw [readDoc, skipSpace_cons hs]
  split <;> simp_all

theorem inQuotes_append (s : String) (tail : List Char) :
    inQuotes s ++ tail = '"' :: (escape s.toList ++ '"' :: tail) := by
  simp [inQuotes]

/-- What follows blanks does not continue a numeral if it did not without them. -/
theorem stops_append
    {gap cs : List Char} (h : gap.all isSpace = true) (hs : Numeral.Stops cs) :
    Numeral.Stops (gap ++ cs) := by
  cases gap with
  | nil => exact hs
  | cons c gap =>
      intro d r hd
      have hc : isSpace d = true := by
        rw [← (List.cons.inj hd).1]
        exact List.all_eq_true.1 h c List.mem_cons_self
      simp only [isSpace, Bool.or_eq_true, beq_iff_eq] at hc
      rcases hc with ((rfl | rfl) | rfl) | rfl <;> decide

theorem stops_cons
    {c : Char} (h : Digit.ofChar? c = none ∧ c ≠ '.' ∧ c ≠ 'e' ∧ c ≠ 'E') (cs : List Char) :
    Numeral.Stops (c :: cs) := by
  intro d r hd
  rw [← (List.cons.inj hd).1]
  exact h

/-- The text of a numeral starts with a sign or a digit. -/
theorem Numeral.text_head
    {n : Numeral} (h : n.WellFormed) :
    ∃ c r, n.text = c :: r ∧ (c = '-' ∨ c.isDigit = true) := by
  obtain ⟨hw, -⟩ := h
  cases hn : n.negative with
  | true => exact ⟨'-', _, by simp only [Numeral.text, hn]; rfl, Or.inl rfl⟩
  | false =>
      cases hd : n.whole with
      | nil => exact absurd hd hw
      | cons d ds =>
          exact ⟨d.toChar, _, by simp only [Numeral.text, hn, hd]; rfl,
            Or.inr (Digit.toChar_isDigit d)⟩

/-- A sign or a digit is none of the other marks of a document. -/
theorem head_ne_of_numeral
    {c d : Char} (hc : c = '-' ∨ c.isDigit = true) (hd : d ≠ '-' ∧ d.isDigit = false) :
    c ≠ d := by
  rintro rfl
  rcases hc with rfl | hc
  · exact hd.1 rfl
  · rw [hd.2] at hc
    exact absurd hc (by decide)

theorem isSpace_of_numeral
    {c : Char} (hc : c = '-' ∨ c.isDigit = true) :
    isSpace c = false := by
  simp only [isSpace, Bool.or_eq_false_iff, beq_eq_false_iff_ne]
  refine ⟨⟨⟨?_, ?_⟩, ?_⟩, ?_⟩
  all_goals exact head_ne_of_numeral hc (by decide)

/-! ### Reading what was laid out -/

section Reading

variable {ok : Numeral → Bool} (hok : ∀ n, ok n = true → n.WellFormed)

namespace Doc

include hok in
/-- The text of a legible document starts with neither a blank nor a closing bracket. -/
theorem head_laid
    {d : Doc} {depth : Nat} (h : d.isLegible ok depth = true) (g : Gaps) (k : Nat) :
    ∃ c r, d.laid g k = c :: r ∧ isSpace c = false ∧ c ≠ ']' := by
  cases d with
  | null => exact ⟨'n', _, rfl, by decide, by decide⟩
  | bool b =>
      cases b with
      | true => exact ⟨'t', _, rfl, by decide, by decide⟩
      | false => exact ⟨'f', _, rfl, by decide, by decide⟩
  | num n =>
      obtain ⟨c, r, hn, hc⟩ := Numeral.text_head (hok n (by simpa [isLegible] using h))
      exact ⟨c, r, hn, isSpace_of_numeral hc, head_ne_of_numeral hc (by decide)⟩
  | str s => exact ⟨'"', _, rfl, by decide, by decide⟩
  | arr items =>
      cases items with
      | nil => exact ⟨'[', _, rfl, by decide, by decide⟩
      | cons d r => exact ⟨'[', _, rfl, by decide, by decide⟩
  | obj members =>
      cases members with
      | nil => exact ⟨'\x7b', _, rfl, by decide, by decide⟩
      | cons d r => exact ⟨'\x7b', _, rfl, by decide, by decide⟩
  | misnamed key => simp [isLegible] at h
  | broken => simp [isLegible] at h

include hok in
/-- A numeral is read up to what cannot continue it. -/
theorem readDoc_num
    {n : Numeral} (hn : ok n = true) {tail : List Char} (hs : Numeral.Stops tail) (fuel : Nat) :
    readDoc (fun _ => false) (fuel + 1) (n.text ++ tail) = (.num n, tail) := by
  obtain ⟨c, r, hr, hc⟩ := Numeral.text_head (hok n hn)
  have hread := Numeral.read_text_append (hok n hn) hs
  have hne : ∀ d, d ≠ '-' ∧ d.isDigit = false → c ≠ d := fun d => head_ne_of_numeral hc
  rw [hr, List.cons_append] at hread ⊢
  rw [readDoc_scalar (isSpace_of_numeral hc) (hne _ (by decide)) (hne _ (by decide)), readScalar,
    if_neg (hne _ (by decide)), if_neg (hne _ (by decide)), if_neg (hne _ (by decide)),
    if_neg (hne _ (by decide)), hread]

-- The bound on the recursion is twice the length of the text: a container takes one
-- step for itself and one for each part, and each of them has a mark of its own.
mutual

theorem readDoc_laid
    (hok : ∀ n, ok n = true → n.WellFormed) (d : Doc) {depth : Nat}
    (h : d.isLegible ok depth = true) (g : Gaps) (k fuel : Nat) {tail : List Char}
    (hs : Numeral.Stops tail) (hf : 2 * (d.laid g k).length ≤ fuel + 2) :
    readDoc (fun _ => false) (fuel + 1) (d.laid g k ++ tail) = (d, tail) := by
  match d, depth with
  | .null, _ => exact readDoc_scalar (by decide) (by decide) (by decide) _ _ _
  | .bool true, _ => exact readDoc_scalar (by decide) (by decide) (by decide) _ _ _
  | .bool false, _ => exact readDoc_scalar (by decide) (by decide) (by decide) _ _ _
  | .num n, _ => exact readDoc_num hok (by simpa [isLegible] using h) hs fuel
  | .str (some s), _ =>
      rw [laid, Option.getD_some, inQuotes_append,
        readDoc_scalar (by decide) (by decide) (by decide), readScalar, if_pos rfl,
        readString_escape]
  | .str none, _ => simp [isLegible] at h
  | .arr [], _ => rfl
  | .arr (d :: r), 0 => simp [isLegible] at h
  | .arr (d :: r), depth + 1 =>
      rw [isLegible] at h
      have hitems := readItems_laid hok (d :: r) h (by simp) g k fuel tail (by
        simp only [laid, itemsLaid, List.length_cons, List.length_append, List.tail_cons] at hf ⊢
        omega)
      rw [areLegible, Bool.and_eq_true] at h
      obtain ⟨c, r', hc, hsp, hne⟩ := head_laid hok h.1 g (k + 1)
      simp only [laid, itemsLaid, List.tail_cons, List.cons_append, List.append_assoc,
        List.nil_append, readItems_gap (g.line_blank (k + 1))] at hitems ⊢
      rw [readDoc, skipSpace_cons (by decide)]
      simp only [skipSpace_append (g.line_blank (k + 1))]
      rw [hc, List.cons_append] at hitems ⊢
      rw [skipSpace_cons hsp]
      split
      · rename_i heq
        exact absurd (List.cons.inj heq).1 hne
      · rw [hitems]
  | .obj [], _ => rfl
  | .obj (m :: r), 0 => simp [isLegible] at h
  | .obj ((key, d) :: r), depth + 1 =>
      rw [isLegible] at h
      have hmembers := readMembers_laid hok ((key, d) :: r) h (by simp) g k fuel tail (by
        simp only [laid, membersLaid, List.length_cons, List.length_append,
          List.tail_cons] at hf ⊢
        omega)
      simp only [laid, membersLaid, memberLaid, List.tail_cons, List.cons_append,
        List.append_assoc, inQuotes_append, List.nil_append,
        readMembers_gap (g.line_blank (k + 1))] at hmembers ⊢
      rw [readDoc, skipSpace_cons (by decide)]
      simp only [skipSpace_append (g.line_blank (k + 1)),
        skipSpace_cons (show isSpace '"' = false by decide), hmembers]
  | .misnamed _, _ => simp [isLegible] at h
  | .broken, _ => simp [isLegible] at h
termination_by structural d

theorem readItems_laid
    (hok : ∀ n, ok n = true → n.WellFormed) (ds : List Doc) {depth : Nat}
    (h : areLegible ok ds depth = true) (hne : ds ≠ []) (g : Gaps) (k fuel : Nat)
    (tail : List Char)
    (hf : 2 * ((itemsLaid g ds k).tail ++ (g.line k ++ [']'])).length ≤ fuel + 1) :
    readItems (fun _ => false) fuel ((itemsLaid g ds k).tail ++ (g.line k ++ ']' :: tail))
      = (ds, tail) := by
  match ds with
  | [] => exact absurd rfl hne
  | d :: r =>
      rw [areLegible, Bool.and_eq_true] at h
      obtain ⟨c, r', hc, -⟩ := head_laid hok h.1 g (k + 1)
      have hlen : 0 < (d.laid g (k + 1)).length := by
        rw [hc, List.length_cons]
        exact Nat.succ_pos _
      simp only [itemsLaid, List.tail_cons, List.append_assoc, List.length_append,
        List.length_cons, List.length_nil] at hf ⊢
      obtain ⟨fuel, rfl⟩ : ∃ f, fuel = f + 2 := ⟨fuel - 2, by omega⟩
      rw [readItems_gap (g.line_blank (k + 1)), readItems]
      match r with
      | [] =>
          rw [itemsLaid, List.nil_append, readDoc_laid hok d h.1 g (k + 1) fuel
            (stops_append (g.line_blank k) (stops_cons (by decide) _)) (by omega)]
          simp only [skipSpace_append (g.line_blank k),
            skipSpace_cons (show isSpace ']' = false by decide)]
      | e :: r =>
          have hitems := readItems_laid hok (e :: r) h.2 (by simp) g k (fuel + 1) tail (by
            simp only [itemsLaid, List.tail_cons, List.length_append, List.length_cons,
              List.length_nil] at hf ⊢
            omega)
          simp only [itemsLaid, List.tail_cons, List.cons_append, List.append_assoc,
            readItems_gap (g.line_blank (k + 1))] at hitems ⊢
          rw [readDoc_laid hok d h.1 g (k + 1) fuel (stops_cons (by decide) _) (by omega)]
          simp only [skipSpace_cons (show isSpace ',' = false by decide),
            readItems_gap (g.line_blank (k + 1)), hitems]
termination_by structural ds

theorem readMembers_laid
    (hok : ∀ n, ok n = true → n.WellFormed) (ms : List (Option String × Doc)) {depth : Nat}
    (h : membersLegible ok ms depth = true) (hne : ms ≠ []) (g : Gaps) (k fuel : Nat)
    (tail : List Char)
    (hf : 2 * ((membersLaid g ms k).tail ++ (g.line k ++ ['\x7d'])).length ≤ fuel + 1) :
    readMembers (fun _ => false) fuel ((membersLaid g ms k).tail ++ (g.line k ++ '\x7d' :: tail))
      = (ms, tail) := by
  match ms with
  | [] => exact absurd rfl hne
  | (none, _) :: r => simp [membersLegible, memberLegible] at h
  | (some key, d) :: r =>
      rw [membersLegible, Bool.and_eq_true] at h
      simp only [membersLaid, memberLaid, inQuotes, List.tail_cons, List.append_assoc,
        List.cons_append, List.length_append, List.length_cons, List.length_nil] at hf ⊢
      obtain ⟨fuel, rfl⟩ : ∃ f, fuel = f + 2 := ⟨fuel - 2, by omega⟩
      rw [readMembers_gap (g.line_blank (k + 1)), readMembers, skipSpace_cons (by decide)]
      simp only [Option.getD_some, List.nil_append, readString_escape,
        skipSpace_cons (show isSpace ':' = false by decide), readDoc_gap g.colon_blank]
      match r with
      | [] =>
          have hdoc := readValue_laid hok (some key, d) h.1 g (k + 1) fuel
            (stops_append (g.line_blank k) (stops_cons (c := '\x7d') (by decide) tail))
            (by simp only; omega)
          simp only [membersLaid, List.nil_append, hdoc, skipSpace_append (g.line_blank k),
            skipSpace_cons (show isSpace '\x7d' = false by decide)]
      | m :: r =>
          have hmembers := readMembers_laid hok (m :: r) h.2 (by simp) g k (fuel + 1) tail (by
            simp only [membersLaid, List.tail_cons, List.length_append, List.length_cons,
              List.length_nil] at hf ⊢
            omega)
          have hstops : Numeral.Stops (membersLaid g (m :: r) k ++ (g.line k ++ '\x7d' :: tail)) :=
            stops_cons (by decide) _
          have hdoc := readValue_laid hok (some key, d) h.1 g (k + 1) fuel hstops
            (by simp only; omega)
          simp only [membersLaid, List.tail_cons, List.cons_append, List.append_assoc,
            readMembers_gap (g.line_blank (k + 1))] at hdoc hmembers ⊢
          simp only [hdoc, skipSpace_cons (show isSpace ',' = false by decide),
            readMembers_gap (g.line_blank (k + 1)), hmembers]
termination_by structural ms

theorem readValue_laid
    (hok : ∀ n, ok n = true → n.WellFormed) (m : Option String × Doc) {depth : Nat}
    (h : memberLegible ok m depth = true) (g : Gaps) (k fuel : Nat) {tail : List Char}
    (hs : Numeral.Stops tail) (hf : 2 * (m.2.laid g k).length ≤ fuel + 2) :
    readDoc (fun _ => false) (fuel + 1) (m.2.laid g k ++ tail) = (m.2, tail) := by
  match m with
  | (key, d) =>
      rw [memberLegible, Bool.and_eq_true] at h
      exact readDoc_laid hok d h.2 g k fuel hs hf
termination_by structural m

end

end Doc

include hok in
/-- A legible document is read back from its text with any blanks. -/
theorem readChars_laid
    {d : Doc} {depth : Nat} (h : d.isLegible ok depth = true) (g : Gaps) :
    readChars (fun _ => false) (d.laid g 0) = ⟨d, false⟩ := by
  have hdoc := Doc.readDoc_laid hok d h g 0 (2 * (d.laid g 0).length + 1)
    (show Numeral.Stops [] from fun _ _ h => by cases h) (by omega)
  rw [List.append_nil] at hdoc
  rw [readChars, hdoc]
  rfl

include hok in
/-- A legible document is read back from its compact text. -/
theorem readText_compact
    {d : Doc} {depth : Nat} (h : d.isLegible ok depth = true) :
    readText d.compact = ⟨d, false⟩ := by
  rw [readText, Doc.compact, Doc.compactOnto_eq_laid d 0 [], List.append_nil, String.toList_ofList]
  exact readChars_laid hok h .tight

include hok in
/-- A legible document is read back from its indented text. -/
theorem readText_indented
    {d : Doc} {depth : Nat} (h : d.isLegible ok depth = true) :
    readText d.indented = ⟨d, false⟩ := by
  rw [readText, Doc.indented, Doc.indentedOnto_eq_laid d 0 [], List.append_nil,
    String.toList_ofList]
  exact readChars_laid hok h .lined

end Reading

end Json
end DealDesk
