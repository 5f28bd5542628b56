import DealDesk.Proofs.Gateway.Percent
import Mathlib.Data.List.DropRight

/-!
# Texts in the path of a URL

A URL that is sent has a scheme, a host, segments, a query and a fragment.  Behind a root,
which has a host and neither query nor fragment, a path is read name by name: a name of
points takes away a segment or none, and every other name adds one.  What is lost of a text
at the end of a path makes the last name stand for fewer bytes, so nothing is lost exactly if
it stands for the bytes of the text.

**Results.** `Url.settled?_eq`: a URL is sent as the text of its parts.
`Url.parts?_append`: what a root adds to the parts of a path.  `Url.addresses_iff`: the texts
that are addressed by the path that they stand in.  `Url.Addresses.settled`: what is sent then.
-/

namespace DealDesk
namespace Gateway
namespace Url

/-! ### The parts of a URL -/

/-- What a URL is made of. -/
structure Parts where
  /-- The scheme, with its colon. -/
  scheme : List Char
  host : List Char
  segments : List (List Char)
  /-- The query with its mark, or nothing. -/
  query : List Char
  /-- The fragment with its mark, or nothing. -/
  fragment : List Char
deriving DecidableEq

def Parts.text (p : Parts) : String :=
  String.ofList (p.scheme ++ ['/', '/'] ++ p.host
    ++ ((p.segments.flatMap fun s => '/' :: s) ++ p.query ++ p.fragment))

/-- The characters before a query and a fragment. -/
def place (cs : List Char) : List Char :=
  cs.takeWhile fun c => c ≠ '?' && c ≠ '#'

def query (cs : List Char) : List Char :=
  match (cs.drop (place cs).length).takeWhile (· ≠ '#') with
  | [] => []
  | c :: r => c :: encode inQuery r

def fragment (cs : List Char) : List Char :=
  match (cs.drop (place cs).length).drop
      ((cs.drop (place cs).length).takeWhile (· ≠ '#')).length with
  | [] => []
  | c :: r => c :: encode inFragment r

/-- The names between slashes. -/
def names (cs : List Char) : List (List Char) :=
  (Text.between isSlash cs).map (encode inPath)

/-- A character of the name of a host. -/
def isHostChar (c : Char) : Bool :=
  !isSlash c && c ≠ '?' && c ≠ '#'

/-- The parts of a URL as it is sent; none for a text that names no scheme. -/
def parts? (url : String) : Option Parts :=
  match scheme? (cleaned url.toList) with
  | none => none
  | some (scheme, r) =>
      let r := r.dropWhile isSlash
      let host := r.takeWhile isHostChar
      let rest := r.drop host.length
      some
        { scheme, host
          segments := settle [] (names ((place rest).drop 1))
          query := query rest
          fragment := fragment rest }

/-- A URL is sent as the text of its parts. -/
theorem settled?_eq (url : String) :
    settled? url = (parts? url).map Parts.text := by
  rw [settled?, parts?]
  cases scheme? (cleaned url.toList) with
  | none => rfl
  | some found => rfl

/-! ### What is cleaned -/

/-- A blank or control, which is left out at both ends. -/
def isOuter (c : Char) : Bool :=
  c.toNat ≤ 32

/-- A character other than a tab or a line break. -/
def isKept (c : Char) : Bool :=
  c ≠ '\t' && c ≠ '\n' && c ≠ '\r'

theorem isKept_iff (c : Char) :
    isKept c = true ↔ c ≠ '\t' ∧ c ≠ '\n' ∧ c ≠ '\r' := by
  simp [isKept, and_assoc]

/-- What is left of the front of a URL. -/
def opened (cs : List Char) : List Char :=
  (cs.dropWhile isOuter).filter isKept

/-- What is left of the end of a URL. -/
def closed (cs : List Char) : List Char :=
  (cs.rdropWhile isOuter).filter isKept

section Marks

variable {p : Char → Bool} {m : Char}

theorem dropWhile_append_cons
    (hm : p m = false) (cs ds : List Char) :
    (cs ++ m :: ds).dropWhile p = cs.dropWhile p ++ m :: ds := by
  rw [List.dropWhile_append]
  split
  · rename_i hcs
    rw [List.isEmpty_iff.1 hcs, List.nil_append, List.dropWhile_cons_of_neg (by simp [hm])]
  · rfl

theorem rdropWhile_append_cons
    (hm : p m = false) (cs ds : List Char) :
    (cs ++ m :: ds).rdropWhile p = cs ++ m :: ds.rdropWhile p := by
  rw [List.rdropWhile, List.reverse_append, List.reverse_cons, List.append_assoc,
    List.singleton_append, dropWhile_append_cons hm, List.reverse_append, List.reverse_cons,
    List.reverse_reverse, List.append_assoc, List.singleton_append]
  rfl

theorem takeWhile_append_cons
    (hm : p m = false) (cs ds : List Char) :
    (cs ++ m :: ds).takeWhile p = cs.takeWhile p := by
  rw [List.takeWhile_append]
  split
  · rename_i hcs
    rw [List.takeWhile_cons_of_neg (by simp [hm]), List.append_nil,
      (List.takeWhile_sublist p).eq_of_length hcs]
  · rfl

theorem drop_takeWhile_append (cs ds : List Char) :
    (cs ++ ds).drop (cs.takeWhile p).length = cs.drop (cs.takeWhile p).length ++ ds :=
  List.drop_append_of_le_length (List.takeWhile_sublist p).length_le

end Marks

theorem cleaned_append (cs ds : List Char) :
    cleaned (cs ++ '/' :: ds) = opened cs ++ '/' :: closed ds := by
  have hslash : isOuter '/' = false := by decide
  calc cleaned (cs ++ '/' :: ds)
      = (((cs ++ '/' :: ds).dropWhile isOuter).rdropWhile isOuter).filter isKept := rfl
    _ = (cs.dropWhile isOuter ++ '/' :: ds.rdropWhile isOuter).filter isKept := by
        rw [dropWhile_append_cons hslash, rdropWhile_append_cons hslash]
    _ = opened cs ++ '/' :: closed ds := by
        rw [List.filter_append]
        rfl

theorem closed_append_cons (cs ds : List Char) :
    closed (cs ++ '/' :: ds) = cs.filter isKept ++ '/' :: closed ds := by
  rw [closed, rdropWhile_append_cons (by decide), List.filter_append]
  rfl

theorem closed_sublist (cs : List Char) :
    (closed cs).Sublist cs :=
  List.filter_sublist.trans (List.rdropWhile_prefix isOuter cs).sublist

theorem closed_eq_self_iff (cs : List Char) :
    closed cs = cs ↔ (∀ c ∈ cs, c ≠ '\t' ∧ c ≠ '\n' ∧ c ≠ '\r')
      ∧ ∀ c, cs.getLast? = some c → 32 < c.toNat := by
  have hends : cs.rdropWhile isOuter = cs ↔ ∀ c, cs.getLast? = some c → 32 < c.toNat := by
    rw [List.rdropWhile_eq_self_iff]
    rcases List.eq_nil_or_concat' cs with rfl | ⟨front, c, rfl⟩
    · simp
    · simp [isOuter]
  constructor
  · intro h
    have hfront : cs.rdropWhile isOuter = cs := by
      refine (List.rdropWhile_prefix isOuter cs).sublist.eq_of_length_le ?_
      calc cs.length
          = (closed cs).length := by rw [h]
        _ ≤ (cs.rdropWhile isOuter).length := List.length_filter_le _ _
    refine ⟨?_, hends.1 hfront⟩
    rw [closed, hfront] at h
    exact fun c hc => (isKept_iff c).1 (List.filter_eq_self.1 h c hc)
  · rintro ⟨hkept, hlast⟩
    have hall : cs.filter isKept = cs :=
      List.filter_eq_self.2 fun c hc => (isKept_iff c).2 (hkept c hc)
    rw [closed, hends.2 hlast, hall]

/-! ### A path behind a root -/

/-- The scheme stands before the first slash, whatever comes after it. -/
theorem scheme?_append_cons
    {cs scheme r : List Char} (h : scheme? (cs ++ ['/']) = some (scheme, r)) :
    ∃ r', r = r' ++ ['/'] ∧ ∀ ds, scheme? (cs ++ '/' :: ds) = some (scheme, r' ++ '/' :: ds) := by
  have hslash : isSchemeChar '/' = false := by decide
  simp only [scheme?, takeWhile_append_cons hslash, drop_takeWhile_append] at h ⊢
  cases hname : (cs.takeWhile isSchemeChar).head? with
  | none =>
      rw [hname] at h
      cases h
  | some c =>
      rw [hname] at h
      cases hrest : cs.drop (cs.takeWhile isSchemeChar).length with
      | nil =>
          rw [hrest] at h
          cases h
      | cons x r' =>
          rw [hrest] at h
          by_cases hx : x = ':'
          · subst hx
            simp only [List.cons_append] at h ⊢
            split at h
            · rename_i hc
              cases h
              exact ⟨r', rfl, fun ds => by rw [if_pos hc]⟩
            · cases h
          · simp [hx] at h

section Place

variable {front : List Char} (h : ∀ c ∈ front, c ≠ '?' ∧ c ≠ '#')

include h in
theorem place_append (cs : List Char) :
    place (front ++ cs) = front ++ place cs :=
  List.takeWhile_append_of_pos (by simpa using h)

include h in
theorem query_append (cs : List Char) :
    query (front ++ cs) = query cs := by
  rw [query, query, place_append h, List.length_append, ← List.drop_drop, List.drop_left]

include h in
theorem fragment_append (cs : List Char) :
    fragment (front ++ cs) = fragment cs := by
  rw [fragment, fragment, place_append h, List.length_append, ← List.drop_drop, List.drop_left]

end Place

theorem place_eq_self_iff (cs : List Char) :
    place cs = cs ↔ ∀ c ∈ cs, c ≠ '?' ∧ c ≠ '#' := by
  rw [place, List.takeWhile_eq_self_iff]
  simp

/-- A text without a query and a fragment is all path. -/
theorem place_eq_self
    {cs : List Char} (hquery : query cs = []) (hfragment : fragment cs = []) :
    place cs = cs := by
  have hrest : cs.drop (place cs).length = [] := by
    rw [query] at hquery
    rw [fragment] at hfragment
    cases hq : (cs.drop (place cs).length).takeWhile (· ≠ '#') with
    | cons c r =>
        rw [hq] at hquery
        cases hquery
    | nil =>
        rw [hq, List.length_nil, List.drop_zero] at hfragment
        cases hr : cs.drop (place cs).length with
        | nil => rfl
        | cons c r =>
            rw [hr] at hfragment
            cases hfragment
  exact (List.takeWhile_sublist _).eq_of_length_le (List.drop_eq_nil_iff.1 hrest)

theorem query_and_fragment_of_place
    {cs : List Char} (h : place cs = cs) :
    query cs = [] ∧ fragment cs = [] := by
  rw [query, fragment, h, List.drop_length]
  exact ⟨rfl, rfl⟩

/-- The segments above, the last one first, after a row of names that more come behind. -/
def climbed : List (List Char) → List (List Char) → List (List Char)
  | above, [] => above
  | above, s :: r =>
      if points s = 0 then climbed (s :: above) r
      else climbed (if points s = 2 then above.tail else above) r

theorem settle_append
    (above front : List (List Char)) {back : List (List Char)} (h : back ≠ []) :
    settle above (front ++ back) = settle (climbed above front) back := by
  induction front generalizing above with
  | nil => rfl
  | cons s r ih =>
      have hmore : (r ++ back).isEmpty = false := by
        rw [List.isEmpty_eq_false_iff]
        exact List.append_ne_nil_of_right_ne_nil r h
      rw [List.cons_append, settle, climbed]
      split
      · exact ih _
      · simp only [hmore, Bool.false_eq_true, if_false]
        exact ih _

/-- What settles ends in the last name, or in a slash if that is points. -/
theorem getLast?_settle
    (above front : List (List Char)) (s : List Char) :
    (settle above (front ++ [s])).getLast? = some (if points s = 0 then s else []) := by
  rw [settle_append above front (List.cons_ne_nil _ _), settle]
  split
  · simp [settle]
  · simp [settle]

/-- The parts belong to a URL that can stand before a path. -/
structure Parts.IsRoot (p : Parts) : Prop where
  host : p.host ≠ []
  query : p.query = []
  fragment : p.fragment = []

/-- The parts with what is read from characters in the place of the path and all after it. -/
def Parts.behind (p : Parts) (above : List (List Char)) (cs : List Char) : Parts :=
  { p with
    segments := settle above (names (place cs))
    query := Url.query cs
    fragment := Url.fragment cs }

theorem toList_append_slash (base tail : String) :
    (base ++ "/" ++ tail).toList = base.toList ++ '/' :: tail.toList := by
  simp

/-- The scheme and the host stand before the path, whatever the path is. -/
theorem parts?_of_host
    {base : String} {p : Parts} (hp : parts? (base ++ "/") = some p) (hhost : p.host ≠ []) :
    ∃ front, ∀ tail : String, parts? (base ++ "/" ++ tail)
      = some
        { p with
          segments :=
            settle [] (names ((place (front ++ '/' :: closed tail.toList)).drop 1))
          query := query (front ++ '/' :: closed tail.toList)
          fragment := fragment (front ++ '/' :: closed tail.toList) } := by
  have hcleaned (tail : String) : cleaned (base ++ "/" ++ tail).toList
      = opened base.toList ++ '/' :: closed tail.toList := by
    rw [toList_append_slash, cleaned_append]
  have hbare : cleaned (base ++ "/").toList = opened base.toList ++ ['/'] := by
    simpa [closed] using hcleaned ""
  rw [parts?, hbare] at hp
  cases hscheme : scheme? (opened base.toList ++ ['/']) with
  | none =>
      rw [hscheme] at hp
      cases hp
  | some found =>
      obtain ⟨scheme, r⟩ := found
      rw [hscheme] at hp
      obtain ⟨r', rfl, hany⟩ := scheme?_append_cons hscheme
      cases hp
      -- What follows the scheme is not slashes alone, since there is a host.
      have hname : (r'.dropWhile isSlash).isEmpty = false := by
        rw [List.isEmpty_eq_false_iff]
        intro hslashes
        refine hhost ?_
        simp only [List.dropWhile_append, hslashes]
        rfl
      have hdrop (ds : List Char) :
          (r' ++ '/' :: ds).dropWhile isSlash = r'.dropWhile isSlash ++ '/' :: ds := by
        rw [List.dropWhile_append, hname]
        rfl
      refine ⟨(r'.dropWhile isSlash).drop ((r'.dropWhile isSlash).takeWhile isHostChar).length,
        fun tail => ?_⟩
      have hmark : isHostChar '/' = false := by decide
      rw [parts?, hcleaned, hany]
      simp only [hdrop, takeWhile_append_cons hmark, drop_takeWhile_append]

/-- Under a root the path is read behind the segments of the root. -/
theorem parts?_append
    {base : String} {p : Parts} (hp : parts? (base ++ "/") = some p) (hroot : p.IsRoot) :
    ∃ above, p.segments = above.reverse ++ [[]]
      ∧ ∀ tail : String, parts? (base ++ "/" ++ tail)
        = some (p.behind above (closed tail.toList)) := by
  obtain ⟨front, hany⟩ := parts?_of_host hp hroot.host
  have hbare := hany ""
  rw [String.append_empty, hp, Option.some.injEq] at hbare
  have hplace : ∀ c ∈ front ++ ['/'], c ≠ '?' ∧ c ≠ '#' := by
    rw [← place_eq_self_iff]
    exact place_eq_self ((congrArg Parts.query hbare).symm.trans hroot.query)
      ((congrArg Parts.fragment hbare).symm.trans hroot.fragment)
  obtain ⟨folders, hnames⟩ : ∃ folders, ∀ cs,
      names ((front ++ '/' :: cs).drop 1) = folders ++ names cs := by
    cases front with
    | nil => exact ⟨[], fun cs => rfl⟩
    | cons x front =>
        refine ⟨names front, fun cs => ?_⟩
        rw [List.cons_append, List.drop_succ_cons, List.drop_zero, names,
          Text.between_append (by decide), List.map_append]
        rfl
  have hsplit (cs : List Char) : front ++ '/' :: cs = front ++ ['/'] ++ cs := by simp
  have hsettle (cs : List Char) : settle [] (names ((place (front ++ '/' :: cs)).drop 1))
      = settle (climbed [] folders) (names (place cs)) := by
    have hne : names (place cs) ≠ [] := by
      rw [names, ne_eq, List.map_eq_nil_iff]
      exact Text.between_ne_nil isSlash _
    rw [hsplit, place_append hplace, ← hsplit, hnames, settle_append [] folders hne]
  refine ⟨climbed [] folders, ?_, fun tail => ?_⟩
  · rw [hbare, hsettle]
    simp [closed, place, names, Text.between, settle, encode, points]
  · rw [hany, Parts.behind, hsettle, hsplit, query_append hplace, fragment_append hplace]

/-! ### A text at the end of a path -/

/-- A name that a path keeps as it is. -/
def isFixed (s : List Char) : Bool :=
  points s = 0 && s.all fun c => !isSlash c && !inPath c

theorem isFixed_iff (s : List Char) :
    isFixed s = true ↔ points s = 0 ∧ ∀ c ∈ s, isSlash c = false ∧ inPath c = false := by
  simp [isFixed]

theorem encode_of_isFixed
    {s : List Char} (h : isFixed s = true) :
    encode inPath s = s := by
  have hchar : ∀ c ∈ s, encodeChar inPath c = [c] := fun c hc => by
    rw [encodeChar, (((isFixed_iff s).1 h).2 c hc).2, if_neg Bool.false_ne_true]
  rw [encode, List.flatMap_congr hchar, List.flatMap_singleton']

/-- A name that a path keeps goes to the segments above. -/
theorem behind_append_cons
    {s : List Char} (h : isFixed s = true) (p : Parts) (above : List (List Char))
    (cs : List Char) :
    p.behind above (closed (s ++ '/' :: cs)) = p.behind (s :: above) (closed cs) := by
  obtain ⟨hpoints, hchars⟩ := (isFixed_iff s).1 h
  have hother {c d : Char} (hc : c ∈ s) (hd : inPath d = true) : c ≠ d := by
    rintro rfl
    rw [(hchars c hc).2] at hd
    cases hd
  have hmarks : ∀ c ∈ s ++ ['/'], c ≠ '?' ∧ c ≠ '#' := by
    intro c hc
    rcases List.mem_append.1 hc with hc | hc
    · exact ⟨hother hc (by decide), hother hc (by decide)⟩
    · rw [List.mem_singleton.1 hc]
      decide
  have hkept : s.filter isKept = s := by
    refine List.filter_eq_self.2 fun c hc => (isKept_iff c).2 ?_
    exact ⟨hother hc (by decide), hother hc (by decide), hother hc (by decide)⟩
  have hsplit : s ++ '/' :: closed cs = s ++ ['/'] ++ closed cs := by simp
  have hnames (ds : List Char) : names (s ++ ['/'] ++ ds) = s :: names ds := by
    rw [List.append_assoc, List.singleton_append, names,
      Text.between_append_cons (fun c hc => (hchars c hc).1) (by decide), List.map_cons,
      encode_of_isFixed h]
    rfl
  rw [closed_append_cons, hkept, hsplit, Parts.behind, Parts.behind, place_append hmarks,
    query_append hmarks, fragment_append hmarks, hnames, settle, if_pos hpoints]

/-- A text of which nothing is lost at the end of a path. -/
structure Plain (cs : List Char) : Prop where
  /-- No character separates the text from itself. -/
  whole : ∀ c ∈ cs, c ≠ '/' ∧ c ≠ '\\' ∧ c ≠ '?' ∧ c ≠ '#'
  /-- No character is left out. -/
  kept : ∀ c ∈ cs, c ≠ '\t' ∧ c ≠ '\n' ∧ c ≠ '\r'
  ends : ∀ c, cs.getLast? = some c → 32 < c.toNat
  /-- The text is no row of points. -/
  named : cs ≠ ['.'] ∧ cs ≠ ['.', '.']
  /-- No byte is spelled in the text. -/
  literal : ∀ ds, ds <:+ cs → ¬ Spelt ds

theorem points_encode
    {cs : List Char} (h : Plain cs) :
    points (encode inPath cs) = 0 := by
  by_contra hpoints
  have hdecoded := decoded_of_points hpoints
  rw [decoded_encode, (decoded_eq_iff cs).2 h.literal] at hdecoded
  rcases hdecoded with hone | htwo
  · exact h.named.1 (Text.charBytes_injective hone)
  · exact h.named.2 (Text.charBytes_injective htwo)

theorem closed_of_plain
    {cs : List Char} (h : Plain cs) :
    closed cs = cs :=
  (closed_eq_self_iff cs).2 ⟨h.kept, h.ends⟩

theorem place_of_plain
    {cs : List Char} (h : Plain cs) :
    place cs = cs :=
  (place_eq_self_iff cs).2 fun c hc => ⟨(h.whole c hc).2.2.1, (h.whole c hc).2.2.2⟩

theorem names_of_plain
    {cs : List Char} (h : Plain cs) :
    names cs = [encode inPath cs] := by
  have hwhole : ∀ c ∈ cs, isSlash c = false := fun c hc => by
    simp [isSlash, (h.whole c hc).1, (h.whole c hc).2.1]
  rw [names, Text.between_of_forall hwhole, List.map_singleton]

/-- The last name stands for the whole text only if it is the text, which is no points then. -/
theorem mem_between_of_last
    {above front : List (List Char)} {last cs : List Char}
    (hsettled : settle above (names (place (closed cs))) = front ++ [last])
    (hlast : decoded last = Text.charBytes cs) :
    cs ∈ Text.between isSlash (place (closed cs)) ∧ points (encode inPath cs) = 0
      ∧ decoded cs = Text.charBytes cs := by
  obtain ⟨before, s, hparts⟩ :
      ∃ before s, Text.between isSlash (place (closed cs)) = before ++ [s] :=
    (List.eq_nil_or_concat' _).resolve_left (Text.between_ne_nil isSlash _)
  have hmem : s ∈ Text.between isSlash (place (closed cs)) := by simp [hparts]
  have hpart : s.Sublist cs :=
    (Text.sublist_of_mem_between hmem).trans
      ((List.takeWhile_sublist _).trans (closed_sublist cs))
  have hend := getLast?_settle above (before.map (encode inPath)) (encode inPath s)
  rw [names, hparts, List.map_append, List.map_singleton] at hsettled
  rw [hsettled, List.getLast?_concat, Option.some.injEq] at hend
  have hpoints : points (encode inPath s) = 0 := by
    by_contra hpoints
    -- Nothing stands in the last place then, so the text is empty; but points have bytes.
    have hsome := length_decoded_pos_of_points hpoints
    rw [decoded_encode] at hsome
    have hnone : (decoded s).length ≤ 0 := by
      calc (decoded s).length
          ≤ (Text.charBytes s).length := length_decoded_le s
        _ ≤ (Text.charBytes cs).length := Text.length_bytes_le_of_sublist hpart
        _ = (decoded last).length := by rw [hlast]
        _ = 0 := by rw [hend, if_neg hpoints]; rfl
    omega
  rw [hend, if_pos hpoints, decoded_encode] at hlast
  have hall : s = cs := by
    refine Text.eq_of_sublist_of_length_bytes hpart ?_
    rw [← hlast]
    exact length_decoded_le s
  subst hall
  exact ⟨hmem, hpoints, hlast⟩

/-- A text that is one name of what is left of it is left as it is. -/
theorem closed_and_place_of_mem
    {cs : List Char} (h : cs ∈ Text.between isSlash (place (closed cs))) :
    closed cs = cs ∧ place cs = cs := by
  have hpart : cs.Sublist (place (closed cs)) := Text.sublist_of_mem_between h
  have hplace : (place (closed cs)).Sublist (closed cs) := List.takeWhile_sublist _
  have hclosed : closed cs = cs := (closed_sublist cs).antisymm (hpart.trans hplace)
  rw [hclosed] at hpart hplace
  exact ⟨hclosed, hplace.antisymm hpart⟩

/-- A text is the last name behind a root, and nothing else, exactly if it is plain. -/
theorem behind_iff
    {p : Parts} (hp : p.IsRoot) (above : List (List Char)) (cs : List Char) :
    (∃ last, p.behind above (closed cs) = { p with segments := above.reverse ++ [last] }
        ∧ decoded last = Text.charBytes cs)
      ↔ Plain cs := by
  constructor
  · rintro ⟨last, hbehind, hlast⟩
    obtain ⟨hmem, hpoints, hliteral⟩ :=
      mem_between_of_last (congrArg Parts.segments hbehind) hlast
    obtain ⟨hclosed, hplace⟩ := closed_and_place_of_mem hmem
    obtain ⟨hkept, hends⟩ := (closed_eq_self_iff cs).1 hclosed
    refine ⟨fun c hc => ?_, hkept, hends, ?_, (decoded_eq_iff cs).1 hliteral⟩
    · have hslash := Text.isMark_eq_false_of_mem_between hmem hc
      simp only [isSlash, Bool.or_eq_false_iff, decide_eq_false_iff_not] at hslash
      exact ⟨hslash.1, hslash.2, (place_eq_self_iff cs).1 hplace c hc⟩
    · constructor
      · rintro rfl
        exact absurd hpoints (by decide)
      · rintro rfl
        exact absurd hpoints (by decide)
  · intro h
    obtain ⟨hquery, hfragment⟩ := query_and_fragment_of_place (place_of_plain h)
    refine ⟨encode inPath cs, ?_, ?_⟩
    · rw [closed_of_plain h, Parts.behind, place_of_plain h, names_of_plain h, hquery, hfragment,
        settle, if_pos (points_encode h), settle, List.reverse_cons, hp.query, hp.fragment]
    · rw [decoded_encode, (decoded_eq_iff cs).2 h.literal]

/-! ### Addresses -/

/--
The URL addresses what a text names under a root: its parts are those of the root, and its
path goes on with fixed names and one more that stands for the text.
-/
def Addresses (root : Parts) (fixed : List String) (id url : String) : Prop :=
  ∃ last,
    parts? url = some
      { root with segments := root.segments.dropLast ++ fixed.map String.toList ++ [last] }
    ∧ decoded last = Text.bytes id

/-- A URL that addresses what a text names is sent as the root, the names and one more name. -/
theorem Addresses.settled
    {root : Parts} {fixed : List String} {id url : String} (h : Addresses root fixed id url) :
    ∃ last, decoded last = Text.bytes id
      ∧ settled? url = some (Parts.text
        { root with segments := root.segments.dropLast ++ fixed.map String.toList ++ [last] }) := by
  obtain ⟨last, hparts, hlast⟩ := h
  exact ⟨last, hlast, by rw [settled?_eq, hparts, Option.map_some]⟩

/-- The path of fixed names with a text behind the last slash. -/
def pathTo (fixed : List String) (id : String) : String :=
  fixed.foldr (fun s r => s ++ "/" ++ r) id

/-- The text stands behind all that the fixed names make of the path. -/
theorem pathTo_append (fixed : List String) (id : String) :
    pathTo fixed id = pathTo fixed "" ++ id := by
  induction fixed with
  | nil => exact String.empty_append.symm
  | cons s r ih =>
      rw [pathTo, List.foldr_cons, ← pathTo, ih, ← String.append_assoc]
      rfl

theorem behind_pathTo
    {fixed : List String} (h : ∀ s ∈ fixed, isFixed s.toList = true) (p : Parts)
    (above : List (List Char)) (id : String) :
    p.behind above (closed (pathTo fixed id).toList)
      = p.behind ((fixed.map String.toList).reverse ++ above) (closed id.toList) := by
  induction fixed generalizing above with
  | nil => rfl
  | cons s r ih =>
      obtain ⟨hs, hr⟩ := List.forall_mem_cons.1 h
      rw [pathTo, List.foldr_cons, toList_append_slash, behind_append_cons hs, ← pathTo,
        ih hr, List.map_cons, List.reverse_cons, List.append_assoc, List.singleton_append]

/-- Under every root, a path that ends in a text addresses what the text names if it is plain. -/
theorem addresses_iff
    {base : String} {root : Parts} (hbase : parts? (base ++ "/") = some root)
    (hroot : root.IsRoot) {fixed : List String} (hfixed : ∀ s ∈ fixed, isFixed s.toList = true)
    (id : String) :
    Addresses root fixed id (base ++ "/" ++ pathTo fixed id) ↔ Plain id.toList := by
  obtain ⟨above, hsegments, hany⟩ := parts?_append hbase hroot
  have hbytes : Text.bytes id = Text.charBytes id.toList := by
    rw [← Text.bytes_ofList, String.ofList_toList]
  rw [← behind_iff hroot ((fixed.map String.toList).reverse ++ above) id.toList, Addresses,
    hany, behind_pathTo hfixed, hsegments, hbytes]
  simp only [Option.some.injEq, List.dropLast_concat, List.reverse_append, List.reverse_reverse]

end Url
end Gateway
end DealDesk
