/-!
# Columns and shortened texts

Padding to a column width and shortening with an ellipsis, both counted in
characters, and cutting at a number of bytes without splitting a character.

**Results.** Padding never cuts a text; a shortened text has at most the limit;
a text can be cut at the last boundary that is not past a number of bytes.
-/

namespace DealDesk
namespace Text

/-- Blanks after the text up to the width; a wider text is left as it is. -/
def padRight (width : Nat) (s : String) : String :=
  s ++ String.ofList (List.replicate (width - s.length) ' ')

/-- Blanks before the text up to the width; a wider text is left as it is. -/
def padLeft (width : Nat) (s : String) : String :=
  String.ofList (List.replicate (width - s.length) ' ') ++ s

/--
At most `limit` characters.  A longer text loses its end, and three points
stand for what is lost where the limit leaves room for more than them.
-/
def shorten (s : String) (limit : Nat) : String :=
  if s.length ≤ limit then s
  else if limit ≤ 3 then String.ofList (s.toList.take limit)
  else String.ofList (s.toList.take (limit - 3)) ++ "..."

/-- A number of bytes ends between two characters of the text, or at one of its ends. -/
def isBoundary (s : String) (n : Nat) : Bool :=
  String.Pos.Raw.isValid s ⟨n⟩

/-- The first boundary on the way from a number of bytes back to the front of the text. -/
def boundaryFrom? (s : String) : Nat → Option Nat
  | 0 => if isBoundary s 0 then some 0 else none
  | n + 1 => if isBoundary s (n + 1) then some (n + 1) else boundaryFrom? s n

theorem isBoundary_iff {s : String} {n : Nat} :
    isBoundary s n = true ↔ String.Pos.Raw.IsValid s ⟨n⟩ :=
  String.Pos.Raw.isValid_eq_true_iff

/-- The first bytes of a text, unless there are not so many or they end within a character. -/
def upTo? (s : String) (n : Nat) : Option String :=
  if h : isBoundary s n = true then some (s.sliceTo (s.pos ⟨n⟩ (isBoundary_iff.1 h))).copy
  else none

/-- Lines joined by line feeds, none after the last. -/
def lines (ls : List String) : String :=
  String.intercalate "\n" ls

@[simp] theorem length_padRight (width : Nat) (s : String) :
    (padRight width s).length = max width s.length := by
  simp [padRight]
  omega

@[simp] theorem length_padLeft (width : Nat) (s : String) :
    (padLeft width s).length = max width s.length := by
  simp [padLeft]
  omega

theorem shorten_eq_self
    {s : String} {limit : Nat} (h : s.length ≤ limit) :
    shorten s limit = s := by
  simp [shorten, h]

theorem length_shorten_le (s : String) (limit : Nat) :
    (shorten s limit).length ≤ limit := by
  unfold shorten
  split
  · assumption
  · split
    · simp only [String.length_ofList, List.length_take]
      omega
    · have hdots : "...".length = 3 := by decide
      simp only [String.length_append, String.length_ofList, List.length_take, hdots]
      omega

/-- The front of the text is a boundary, so one is found on the way there. -/
theorem isSome_boundaryFrom? (s : String) (n : Nat) :
    (boundaryFrom? s n).isSome = true := by
  induction n with
  | zero =>
      have hfront : isBoundary s 0 = true := isBoundary_iff.2 String.Pos.Raw.isValid_zero
      simp [boundaryFrom?, hfront]
  | succ n ih =>
      unfold boundaryFrom?
      split
      · rfl
      · exact ih

/-- What is found is the last boundary that is not past the start of the search. -/
theorem last_of_boundaryFrom?
    {s : String} {n k : Nat} (h : boundaryFrom? s n = some k) :
    isBoundary s k = true ∧ k ≤ n ∧ ∀ m, isBoundary s m = true → m ≤ n → m ≤ k := by
  induction n with
  | zero =>
      unfold boundaryFrom? at h
      split at h
      · rename_i hfront
        cases h
        exact ⟨hfront, Nat.le_refl 0, fun m _ hle => hle⟩
      · cases h
  | succ n ih =>
      unfold boundaryFrom? at h
      split at h
      · rename_i hhere
        cases h
        exact ⟨hhere, Nat.le_refl (n + 1), fun m _ hle => hle⟩
      · rename_i hhere
        obtain ⟨hk, hkn, hlast⟩ := ih h
        refine ⟨hk, Nat.le_succ_of_le hkn, fun m hm hle => ?_⟩
        rcases Nat.lt_or_eq_of_le hle with hlt | rfl
        · exact hlast m hm (Nat.le_of_lt_succ hlt)
        · exact absurd hm hhere

/-- A text can be cut at its boundaries, and nowhere else. -/
theorem isSome_upTo?_iff {s : String} {n : Nat} :
    (upTo? s n).isSome = true ↔ isBoundary s n = true := by
  unfold upTo?
  split
  · rename_i hboundary
    exact iff_of_true rfl hboundary
  · rename_i hinside
    exact iff_of_false Bool.false_ne_true hinside

/-- The search for a boundary ends, and at a place where the text can be cut. -/
theorem exists_cut (s : String) (n : Nat) :
    ∃ k p, boundaryFrom? s n = some k ∧ upTo? s k = some p := by
  obtain ⟨k, hk⟩ := Option.isSome_iff_exists.1 (isSome_boundaryFrom? s n)
  obtain ⟨p, hp⟩ := Option.isSome_iff_exists.1 (isSome_upTo?_iff.2 (last_of_boundaryFrom? hk).1)
  exact ⟨k, p, hk, hp⟩

/-- What is cut off is the front of the text, with as many bytes as were asked for. -/
theorem eq_append_of_upTo?
    {s p : String} {n : Nat} (h : upTo? s n = some p) :
    ∃ r, s = p ++ r ∧ p.utf8ByteSize = n := by
  unfold upTo? at h
  split at h
  · rename_i hboundary
    cases h
    refine ⟨_, String.sliceTo_append_sliceFrom.symm, ?_⟩
    simp
  · cases h

end Text
end DealDesk
