import DealDesk.Gateway.Failure
import Mathlib.Data.List.Infix

/-!
# Quoted bodies

Where a long body is cut is looked for from the limit back to the front, one byte at a time.
The boundaries of a text are the sizes of its fronts, so the place that is found belongs to
the longest front within the limit.  It lies three bytes before the limit at most: the next
character would not have fitted, and it has four bytes at most.

**Results.** `Text.isBoundary_iff_exists_front`: the boundaries are the sizes of the fronts.
`Text.isLongestFront_of_upTo?`: what is cut off where the search ends is the longest front that
fits.  `Text.IsLongestFront.lt_size`: how little of the limit it leaves.
`excerpt_longest`: what is quoted of any body.
-/

namespace DealDesk
namespace Text

/-! ### Fronts of a text -/

theorem front_iff_exists_append {p s : String} :
    p.toList <+: s.toList ↔ ∃ r, s = p ++ r := by
  constructor
  · rintro ⟨r, hr⟩
    exact ⟨String.ofList r, String.toList_injective (by simp [← hr])⟩
  · rintro ⟨r, rfl⟩
    exact ⟨r.toList, by simp⟩

/-- The boundaries of a text are the sizes of its fronts. -/
theorem isBoundary_iff_exists_front {s : String} {n : Nat} :
    isBoundary s n = true ↔ ∃ p : String, p.toList <+: s.toList ∧ p.utf8ByteSize = n := by
  rw [isBoundary_iff, String.Pos.Raw.isValid_iff_exists_append]
  constructor
  · rintro ⟨p, r, hs, hn⟩
    exact ⟨p, front_iff_exists_append.2 ⟨r, hs⟩, congrArg String.Pos.Raw.byteIdx hn.symm⟩
  · rintro ⟨p, hp, rfl⟩
    obtain ⟨r, hr⟩ := front_iff_exists_append.1 hp
    exact ⟨p, r, hr, rfl⟩

/-- Of two fronts of one text, the one that is not larger is a front of the other. -/
theorem front_of_size_le
    {p q s : String} (hp : p.toList <+: s.toList) (hq : q.toList <+: s.toList)
    (hsize : q.utf8ByteSize ≤ p.utf8ByteSize) :
    q.toList <+: p.toList := by
  rcases List.prefix_or_prefix_of_prefix hq hp with hfront | hfront
  · exact hfront
  · obtain ⟨r, rfl⟩ := front_iff_exists_append.1 hfront
    -- The rest has no byte, so it has no character.
    rw [String.utf8ByteSize_append] at hsize
    have hempty : r = "" := String.utf8ByteSize_eq_zero_iff.1 (by omega)
    simp [hempty]

/-- The text is the longest front of the other one that has at most so many bytes. -/
structure IsLongestFront (p s : String) (n : Nat) : Prop where
  front : p.toList <+: s.toList
  fits : p.utf8ByteSize ≤ n
  longest : ∀ q : String, q.toList <+: s.toList → q.utf8ByteSize ≤ n → q.toList <+: p.toList

/-- A text that is too large as a whole has a longest front with three bytes to spare at most. -/
theorem IsLongestFront.lt_size
    {p s : String} {n : Nat} (h : IsLongestFront p s n) (hs : n < s.utf8ByteSize) :
    n < p.utf8ByteSize + 4 := by
  obtain ⟨r, rfl⟩ := front_iff_exists_append.1 h.front
  cases hr : r.toList with
  | nil =>
      have hempty : r = "" := String.toList_eq_nil_iff.1 hr
      have hfits := h.fits
      simp [hempty] at hs
      omega
  | cons c rest =>
      have hnext : (p ++ String.singleton c).toList <+: (p ++ r).toList := by
        simp [hr]
      have hsize : (p ++ String.singleton c).utf8ByteSize = p.utf8ByteSize + c.utf8Size := by
        rw [String.utf8ByteSize_append, String.utf8ByteSize_singleton]
      have hc := c.utf8Size_le_four
      by_contra hle
      -- One character more would fit, and be a front of what it goes beyond.
      have hfront := (h.longest _ hnext (by omega)).length_le
      rw [String.toList_append, String.toList_singleton, List.length_append,
        List.length_singleton] at hfront
      omega

/-- What is cut off where the search ends is the longest front that fits. -/
theorem isLongestFront_of_upTo?
    {s p : String} {n k : Nat} (hk : boundaryFrom? s n = some k) (hp : upTo? s k = some p) :
    IsLongestFront p s n := by
  obtain ⟨-, hkn, hlast⟩ := last_of_boundaryFrom? hk
  obtain ⟨r, hr, hsize⟩ := eq_append_of_upTo? hp
  have hfront : p.toList <+: s.toList := front_iff_exists_append.2 ⟨r, hr⟩
  refine ⟨hfront, by omega, fun q hq hqn => front_of_size_le hfront hq ?_⟩
  rw [hsize]
  exact hlast q.utf8ByteSize (isBoundary_iff_exists_front.2 ⟨q, hq, rfl⟩) hqn

end Text

namespace Gateway

theorem excerpt?_of_le {body : String} (h : body.utf8ByteSize ≤ excerptLimit) :
    excerpt? body = some body := by
  rw [excerpt?, if_pos h]

theorem excerpt?_of_lt
    {body p : String} {k : Nat} (h : excerptLimit < body.utf8ByteSize)
    (hk : Text.boundaryFrom? body excerptLimit = some k) (hp : Text.upTo? body k = some p) :
    excerpt? body = some (p ++ cutMark body) := by
  rw [excerpt?, if_neg (Nat.not_le.2 h), hk, Option.bind_eq_bind, Option.bind_some, hp]
  rfl

theorem excerpt_eq_of_excerpt? {body quoted : String} (h : excerpt? body = some quoted) :
    excerpt body = quoted := by
  rw [excerpt]
  exact Option.get_of_eq_some _ h

/--
Quoting a body never fails.  Up to 500 bytes it is quoted in full.  Of a larger one the longest
front is quoted that 500 bytes have room for, and behind it stands how large the body is; the
front has 497 bytes at least.
-/
theorem excerpt_longest (body : String) :
    excerpt? body = some (excerpt body)
      ∧ (body.utf8ByteSize ≤ 500 → excerpt body = body)
      ∧ (500 < body.utf8ByteSize → ∃ (stop : Nat) (p : String),
        Text.boundaryFrom? body 500 = some stop ∧ Text.upTo? body stop = some p
          ∧ excerpt body
            = p ++ ("... (truncated, " ++ String.ofList (natText body.utf8ByteSize)
              ++ " total bytes)")
          ∧ Text.IsLongestFront p body 500
          ∧ 497 ≤ p.utf8ByteSize ∧ p.utf8ByteSize ≤ 500) := by
  refine ⟨Option.some_get (isSome_excerpt? body) |>.symm, fun h => ?_, fun h => ?_⟩
  · exact excerpt_eq_of_excerpt? (excerpt?_of_le h)
  · obtain ⟨stop, p, hstop, hp⟩ := Text.exists_cut body 500
    have hlongest := Text.isLongestFront_of_upTo? hstop hp
    have hsize := hlongest.lt_size h
    exact ⟨stop, p, hstop, hp, excerpt_eq_of_excerpt? (excerpt?_of_lt h hstop hp), hlongest,
      by omega, hlongest.fits⟩

/-- Of two hundred signs of three bytes each, 166 are quoted: 498 bytes. -/
theorem excerpt_longest_specimen :
    let body := String.ofList (List.replicate 200 '€')
    500 < body.utf8ByteSize ∧ ∃ (stop : Nat) (p : String),
      Text.boundaryFrom? body 500 = some stop ∧ Text.upTo? body stop = some p ∧ stop = 498
        ∧ excerpt body = p ++ "... (truncated, 600 total bytes)"
        ∧ Text.IsLongestFront p body 500 := by
  intro body
  have hsize : body.utf8ByteSize = 600 := by decide +kernel
  have hfound : Text.boundaryFrom? body 500 = some 498 := by decide +kernel
  obtain ⟨stop, p, hstop, hp, hquoted, hlongest, -⟩ := (excerpt_longest body).2.2 (by omega)
  refine ⟨by omega, stop, p, hstop, hp, Option.some.inj (hstop.symm.trans hfound), ?_, hlongest⟩
  rw [hquoted, hsize]
  rfl

end Gateway
end DealDesk
