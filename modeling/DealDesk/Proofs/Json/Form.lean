import DealDesk.Proofs.Json.Members

/-!
# Forms of objects

A form lists the members that a kind of object knows, each with what it has to hold
and with what its absence means.  It says nothing of the order in which members stand,
nor of members that it does not know.  A record follows a form once each of its fields
is described by an entry of it.

**Results.** `Fields.follows`: a record reads an object exactly when its form accepts the
members, and reads two objects as the same value if their members agree.
`Rewords.agree`: members agree after any number of changes of order, of unknown members
and of members that say what their absence says.
-/

namespace DealDesk
namespace Json

/-! ### Entries -/

/-- What a member has to hold. -/
inductive Want where
  | text
  | flag
  | amount
  /-- One of a few words. -/
  | word (words : List String)

/-- The values of each kind, with all the ways in which they may be put. -/
inductive Want.Suits : Want → Doc → Prop
  | text (s : String) : Suits .text (.str (some s))
  | flag (b : Bool) : Suits .flag (.bool b)
  | wholeAmount {n : Numeral} {i : Int} (h : Number.ofNumeral? n = some (.whole i)) :
      Suits .amount (.num n)
  | realAmount {n : Numeral} {f : Float} {d : Decimal} (h : Number.ofNumeral? n = some (.real f))
      (hd : Decimal.ofFloat? f = some d) : Suits .amount (.num n)
  | spelledAmount {s : String} {d : Decimal} (hd : Decimal.ofText? s = some d) :
      Suits .amount (.str (some s))
  | word {words : List String} {s : String} (h : s ∈ words) : Suits (.word words) (.str (some s))
  /-- A word may also be the name of the only member of an object, with nothing for it. -/
  | wordAsName {words : List String} {s : String} (h : s ∈ words) :
      Suits (.word words) (.obj [Doc.member s .null])

theorem Want.not_suits_null (w : Want) : ¬ w.Suits .null := by
  intro h
  cases h

/-- What the absence of a member means. -/
inductive Need where
  /-- There is no object without the member. -/
  | required
  /-- There is no value; nothing may also stand for that. -/
  | optional
  /-- The value is a no. -/
  | defaulted
deriving DecidableEq

/-- A member that a form knows. -/
structure Entry where
  key : String
  want : Want
  need : Need

namespace Entry

/-- The document may be the value of the member. -/
def Admits (e : Entry) (d : Doc) : Prop :=
  e.want.Suits d ∨ e.need = .optional ∧ d = .null

/-- Nothing fits a member that may be left out for no value, and no other one. -/
theorem admits_null_iff (e : Entry) : e.Admits .null ↔ e.need = .optional := by
  constructor
  · rintro (h | ⟨h, -⟩)
    · exact absurd h e.want.not_suits_null
    · exact h
  · exact fun h => .inr ⟨h, rfl⟩

/-- The document says what the absence of the member says. -/
inductive Tacit (e : Entry) : Doc → Prop
  | nothing (h : e.need = .optional) : e.Tacit .null
  | no (h : e.need = .defaulted) : e.Tacit (.bool false)

/-- The member is there and says something that its absence does not. -/
def Tells (e : Entry) (ms : List (String × Doc)) (d : Doc) : Prop :=
  (e.key, d) ∈ ms ∧ ¬ e.Tacit d

/-- The field is what the entry says of it. -/
structure Describes {α : Type} (e : Entry) (f : Field α) : Prop where
  key : f.key = e.key
  reads : ∀ d, (∃ v, f.codec.read d = .ok v) ↔ e.Admits d
  absence : (∃ v, f.ifAbsent = some v) ↔ e.need ≠ .required
  tacit : ∀ d, e.Tacit d → ∀ v, f.codec.read d = .ok v ↔ f.ifAbsent = some v

end Entry

/-- All required members are there, and those that are there and known are fit. -/
structure Accepts (form : List Entry) (ms : List (String × Doc)) : Prop where
  complete : ∀ e ∈ form, e.need = .required → ∃ d, (e.key, d) ∈ ms
  fit : ∀ e ∈ form, ∀ d, (e.key, d) ∈ ms → e.Admits d

/-- The members that the form knows tell the same. -/
def Agree (form : List Entry) (ms ms' : List (String × Doc)) : Prop :=
  ∀ e ∈ form, ∀ d, e.Tells ms d ↔ e.Tells ms' d

/-- The members are put in another way that is all the same to the form. -/
inductive Rewords (form : List Entry) : List (String × Doc) → List (String × Doc) → Prop
  | reordered {ms ms' : List (String × Doc)} (h : ms.Perm ms') : Rewords form ms ms'
  | unknown {key : String} (h : ∀ e ∈ form, e.key ≠ key) (d : Doc) (ms : List (String × Doc)) :
      Rewords form ms ((key, d) :: ms)
  | tacit {e : Entry} (he : e ∈ form) {d : Doc} (h : e.Tacit d) (ms : List (String × Doc)) :
      Rewords form ms ((e.key, d) :: ms)
  | back {ms ms' : List (String × Doc)} (h : Rewords form ms ms') : Rewords form ms' ms
  | twice {ms ms' ms'' : List (String × Doc)} (h : Rewords form ms ms')
      (h' : Rewords form ms' ms'') : Rewords form ms ms''

theorem Agree.symm
    {form : List Entry} {ms ms' : List (String × Doc)} (h : Agree form ms ms') :
    Agree form ms' ms :=
  fun e he d => (h e he d).symm

/-- The names of a form must be distinct, or one entry could tell what is tacit for another. -/
theorem Rewords.agree
    {form : List Entry} (hform : (form.map Entry.key).Nodup) {ms ms' : List (String × Doc)}
    (h : Rewords form ms ms') :
    Agree form ms ms' := by
  induction h with
  | reordered h =>
      intro e he d
      rw [Entry.Tells, Entry.Tells, h.mem_iff]
  | unknown h d ms =>
      intro e he d'
      rw [Entry.Tells, Entry.Tells, List.mem_cons, or_iff_right]
      rintro ⟨rfl, -⟩
      exact h e he rfl
  | @tacit e he d h ms =>
      intro e' he' d'
      rw [Entry.Tells, Entry.Tells]
      constructor
      · rintro ⟨hd, htells⟩
        exact ⟨List.mem_cons_of_mem _ hd, htells⟩
      · rintro ⟨hd, htells⟩
        rcases List.mem_cons.1 hd with heq | hd
        -- Only the entry of the new member could be told of it, and to that it is tacit.
        · obtain ⟨hkey, rfl⟩ := Prod.ext_iff.1 heq
          obtain rfl : e' = e := List.inj_on_of_nodup_map hform he' he hkey
          exact absurd h htells
        · exact ⟨hd, htells⟩
  | back h ih => exact ih.symm
  | twice h h' ih ih' => exact fun e he d => (ih e he d).trans (ih' e he d)

/-! ### Codecs and fields for entries -/

namespace Codec

/-- The codec reads exactly the documents that suit. -/
def Wants {α : Type} (c : Codec α) (w : Want) : Prop :=
  ∀ d, (∃ v, c.read d = .ok v) ↔ w.Suits d

theorem string_wants : string.Wants .text := by
  intro d
  constructor
  · rintro ⟨v, hv⟩
    simp only [string, textAs] at hv
    split at hv
    · exact .text _
    · cases hv
  · rintro ⟨s⟩
    exact ⟨s, rfl⟩

theorem flag_wants : flag.Wants .flag := by
  intro d
  constructor
  · rintro ⟨v, hv⟩
    simp only [flag] at hv
    split at hv
    · exact .flag _
    · cases hv
  · rintro ⟨⟩
    exact ⟨_, rfl⟩

/-- A whole number of a document has at most 64 bits, for which a decimal has room. -/
theorem exists_decimal_of_whole
    {n : Numeral} {i : Int} (h : Number.ofNumeral? n = some (.whole i)) :
    ∃ d, Decimal.ofInt? i = some d := by
  have hpow : Nat.pow 2 63 < Nat.pow 2 96 ∧ Nat.pow 2 64 < Nat.pow 2 96 := by decide
  have hi : i.natAbs < Nat.pow 2 96 := by
    rw [Number.ofNumeral?] at h
    split at h
    · rename_i hn
      simp only [Option.some.injEq, Number.whole.injEq] at h
      simp only [Bool.and_eq_true, decide_eq_true_eq] at hn
      omega
    · split at h
      · rename_i hn
        simp only [Option.some.injEq, Number.whole.injEq] at h
        simp only [Bool.and_eq_true, decide_eq_true_eq] at hn
        omega
      · simp only [Option.map_eq_some_iff, reduceCtorEq, and_false, exists_false] at h
  rw [Decimal.ofInt?, Decimal.ofParts?, dif_pos ⟨hi, Nat.zero_le 28⟩]
  exact ⟨_, rfl⟩

theorem decimal_wants : decimal.Wants .amount := by
  intro d
  constructor
  · rintro ⟨v, hv⟩
    simp only [decimal] at hv
    split at hv
    · split at hv
      · exact .wholeAmount ‹_›
      · split at hv
        · exact .realAmount ‹_› ‹_›
        · cases hv
      · cases hv
    · split at hv
      · exact .spelledAmount ‹_›
      · cases hv
    · cases hv
  · intro h
    cases h with
    | wholeAmount h =>
        obtain ⟨d, hd⟩ := exists_decimal_of_whole h
        exact ⟨d, by simp only [decimal, h, hd]⟩
    | @realAmount n f d h hd => exact ⟨d, by simp only [decimal, h, hd]⟩
    | @spelledAmount s d hd => exact ⟨d, by simp only [decimal, hd]⟩

theorem exists_resolve_iff
    {α : Type} {n : Names α} (hother : n.other = none) (s : String) :
    (∃ v, n.resolve s = .ok v) ↔ s ∈ n.all.map n.name := by
  rw [List.mem_map, Names.resolve, Names.find?, hother]
  cases hfind : n.all.find? fun v => n.name v = s with
  | none =>
      have hnone : ∀ v ∈ n.all, n.name v ≠ s := by simpa using hfind
      simpa using hnone
  | some v =>
      have hname : n.name v = s := by simpa using List.find?_some hfind
      simp only [Except.ok.injEq, exists_eq', true_iff]
      exact ⟨v, List.mem_of_find?_eq_some hfind, hname⟩

theorem named_wants
    {α : Type} {n : Names α} (hother : n.other = none) :
    (named n).Wants (.word (n.all.map n.name)) := by
  intro d
  constructor
  · rintro ⟨v, hv⟩
    simp only [named] at hv
    split at hv
    · exact .word ((exists_resolve_iff hother _).1 ⟨v, hv⟩)
    · rename_i s d r
      cases hs : n.resolve s with
      | error e => simp [hs] at hv
      | ok v' =>
          have hmem := (exists_resolve_iff hother s).1 ⟨v', hs⟩
          cases d with
          | null =>
              cases r with
              | nil => exact .wordAsName hmem
              | cons m r => simp [hs, Names.readNothing] at hv
          | _ => simp [hs, Names.readNothing] at hv
    · cases hv
    · cases hv
  · intro h
    cases h with
    | word h => exact (exists_resolve_iff hother _).2 h
    | wordAsName h =>
        obtain ⟨v, hv⟩ := (exists_resolve_iff hother _).2 h
        exact ⟨v, by simp only [named, Doc.member, hv]; rfl⟩

end Codec

namespace Entry.Describes

variable {α : Type} {c : Codec α} {w : Want}

theorem required (h : c.Wants w) (key : String) :
    (Entry.mk key w .required).Describes (.required key c) where
  key := rfl
  reads := fun d => by simp [Field.required, Admits, h d]
  absence := by simp [Field.required]
  tacit := by
    rintro d (h | h)
    · cases h
    · cases h

theorem withDefault (key : String) :
    (Entry.mk key .flag .defaulted).Describes (.withDefault key Codec.flag false) where
  key := rfl
  reads := fun d => by simp [Field.withDefault, Admits, Codec.flag_wants d]
  absence := by simp [Field.withDefault]
  tacit := by
    rintro d (h | -) v
    · cases h
    · simp [Field.withDefault, Codec.flag]

theorem elided (h : c.Wants w) (key : String) :
    (Entry.mk key w .optional).Describes (.elided key c) where
  key := rfl
  reads := by
    intro d
    rw [Admits, ← h d]
    cases d <;> simp [Field.elided, Codec.optional, Codec.exists_map_eq_ok_iff]
  absence := by simp [Field.elided]
  tacit := by
    rintro d (- | h) v
    · simp [Field.elided, Codec.optional]
    · cases h

end Entry.Describes

/-! ### Records described by forms -/

theorem accepts_cons_iff
    {e : Entry} {form : List Entry} {ms : List (String × Doc)} :
    Accepts (e :: form) ms
      ↔ ((e.need = .required → ∃ d, (e.key, d) ∈ ms) ∧ ∀ d, (e.key, d) ∈ ms → e.Admits d)
        ∧ Accepts form ms := by
  constructor
  · rintro ⟨hcomplete, hfit⟩
    obtain ⟨hhead, htail⟩ := List.forall_mem_cons.1 hcomplete
    obtain ⟨hfit, hfits⟩ := List.forall_mem_cons.1 hfit
    exact ⟨⟨hhead, hfit⟩, ⟨htail, hfits⟩⟩
  · rintro ⟨⟨hhead, hfit⟩, ⟨htail, hfits⟩⟩
    exact ⟨List.forall_mem_cons.2 ⟨hhead, htail⟩, List.forall_mem_cons.2 ⟨hfit, hfits⟩⟩

namespace Entry.Describes

variable {α : Type} {e : Entry} {f : Field α} {ms : List (String × Doc)}

/-- The field finds a value if its member is fit, and without one if it can do without. -/
theorem exists_finds_iff
    (he : e.Describes f) (h : Orderly ms) :
    (∃ v, f.Finds ms v)
      ↔ (e.need = .required → ∃ d, (e.key, d) ∈ ms) ∧ ∀ d, (e.key, d) ∈ ms → e.Admits d := by
  rw [← he.key]
  by_cases hmem : ∃ d, (f.key, d) ∈ ms
  · obtain ⟨d, hd⟩ := hmem
    simp only [Field.finds_iff_of_mem h hd, he.reads]
    constructor
    · intro hfit
      refine ⟨fun _ => ⟨d, hd⟩, fun d' hd' => ?_⟩
      rwa [h.value_unique hd' hd]
    · exact fun hfit => hfit.2 d hd
  · have hgone : ∀ d, (f.key, d) ∉ ms := not_exists.1 hmem
    simp only [Field.finds_iff_of_absent hgone, he.absence]
    constructor
    · exact fun hneed => ⟨fun hreq => absurd hreq hneed, fun d hd => absurd hd (hgone d)⟩
    · exact fun hfit hreq => hmem (hfit.1 hreq)

/-- A member that is tacit is read as if it were absent. -/
theorem finds_iff_of_tells
    (he : e.Describes f) (h : Orderly ms) (v : α) :
    f.Finds ms v
      ↔ (∃ d, e.Tells ms d ∧ f.codec.read d = .ok v)
        ∨ (∀ d, ¬ e.Tells ms d) ∧ f.ifAbsent = some v := by
  constructor
  · rintro (@⟨d, hd, hread⟩ | ⟨hgone, hv⟩)
    · by_cases htacit : e.Tacit d
      -- The only member with the key is the tacit one, so none tells anything.
      · refine .inr ⟨fun d' htells => ?_, (he.tacit d htacit v).1 hread⟩
        rw [he.key] at hd
        rw [h.value_unique htells.1 hd] at htells
        exact htells.2 htacit
      · rw [he.key] at hd
        exact .inl ⟨d, ⟨hd, htacit⟩, hread⟩
    · rw [he.key] at hgone
      exact .inr ⟨fun d htells => hgone d htells.1, hv⟩
  · rintro (⟨d, htells, hread⟩ | ⟨hquiet, hv⟩)
    · exact .member (he.key ▸ htells.1) hread
    · by_cases hmem : ∃ d, (f.key, d) ∈ ms
      · obtain ⟨d, hd⟩ := hmem
        have htacit : e.Tacit d := by
          by_contra htells
          exact hquiet d ⟨he.key ▸ hd, htells⟩
        exact .member hd ((he.tacit d htacit v).2 hv)
      · exact .absence (not_exists.1 hmem) hv

end Entry.Describes

namespace Fields

/-- Each field is described by the entry in its place. -/
inductive DescribedBy : {τ σ : Type} → Fields τ σ → List Entry → Prop
  | nil : DescribedBy .nil []
  | cons {α β σ : Type} {f : Field α} {rest : Fields β σ} {e : Entry} {form : List Entry}
      (he : e.Describes f) (hrest : DescribedBy rest form) :
      DescribedBy (.cons f rest) (e :: form)

namespace DescribedBy

variable {τ σ : Type} {fs : Fields τ σ} {form : List Entry} {ms ms' : List (String × Doc)}

theorem keys_eq
    (hform : fs.DescribedBy form) :
    fs.keys = form.map Entry.key := by
  induction hform with
  | nil => rfl
  | cons he hrest ih => rw [keys, ih, List.map_cons, he.key]

theorem exists_each_finds_iff
    (hform : fs.DescribedBy form) (h : Orderly ms) :
    (∃ v, fs.Each (fun f v => f.Finds ms v) v) ↔ Accepts form ms := by
  induction hform with
  | nil => exact ⟨fun _ => ⟨by simp, by simp⟩, fun _ => ⟨(), trivial⟩⟩
  | cons he hrest ih =>
      rw [accepts_cons_iff, ← he.exists_finds_iff h, ← ih]
      simp only [Each, Prod.exists, exists_and_left, exists_and_right]

theorem each_finds_iff_of_agree
    (hform : fs.DescribedBy form) (h : Orderly ms) (h' : Orderly ms') (hagree : Agree form ms ms')
    (v : τ) :
    fs.Each (fun f v => f.Finds ms' v) v ↔ fs.Each (fun f v => f.Finds ms v) v := by
  induction hform with
  | nil => exact Iff.rfl
  | cons he hrest ih =>
      obtain ⟨hhead, htail⟩ := List.forall_mem_cons.1 hagree
      rw [Each, Each, ih htail, he.finds_iff_of_tells h, he.finds_iff_of_tells h']
      simp only [hhead]

end DescribedBy
end Fields

/-- The codec reads objects as the form says. -/
structure Codec.Follows {α : Type} (c : Codec α) (form : List Entry) : Prop where
  distinct : (form.map Entry.key).Nodup
  reads_iff : ∀ {ms : List (String × Doc)}, Orderly ms →
    ((∃ v, c.read (.obj (spelled ms)) = .ok v) ↔ Accepts form ms)
  same : ∀ {ms ms' : List (String × Doc)}, Orderly ms → Orderly ms' → Agree form ms ms' →
    ∀ v, c.read (.obj (spelled ms')) = .ok v ↔ c.read (.obj (spelled ms)) = .ok v

/-- A record follows the form that describes its fields. -/
theorem Fields.follows
    {τ σ : Type} {fs : Fields τ σ} {form : List Entry} (hform : fs.DescribedBy form)
    (hdistinct : (form.map Entry.key).Nodup) (kind : String) :
    (fs.codec kind).Follows form := by
  have hkeys : fs.keys.Nodup := hform.keys_eq ▸ hdistinct
  have hread : ∀ {ms : List (String × Doc)}, Orderly ms → ∀ v,
      (fs.codec kind).read (.obj (spelled ms)) = .ok v
        ↔ fs.Each (fun f v => f.Finds ms v) v := by
    intro ms h v
    rw [← gathered_iff hkeys h, ← read_obj kind]
    rfl
  refine ⟨hdistinct, fun h => ?_, fun h h' hagree v => ?_⟩
  · simp only [hread h, hform.exists_each_finds_iff h]
  · rw [hread h, hread h', hform.each_finds_iff_of_agree h h' hagree]

namespace Codec.Follows

variable {α β : Type} {c : Codec α} {form : List Entry} {s s' : String}
  {ms ms' : List (String × Doc)}

theorem imap
    {f : α → β} {g : β → α} (hfg : ∀ y, f (g y) = y) (hgf : ∀ x, g (f x) = x)
    (h : c.Follows form) :
    (c.imap f g).Follows form := by
  have hread : ∀ (d : Doc) (y : β), (c.imap f g).read d = .ok y ↔ c.read d = .ok (g y) :=
    fun d y => map_eq_ok_iff hfg hgf
  refine ⟨h.distinct, fun hms => ?_, fun hms hms' hagree y => ?_⟩
  · rw [← h.reads_iff hms]
    constructor
    · rintro ⟨y, hy⟩
      exact ⟨g y, (hread _ y).1 hy⟩
    · rintro ⟨x, hx⟩
      exact ⟨f x, (hread _ (f x)).2 (by rw [hgf, hx])⟩
  · rw [hread, hread, h.same hms hms' hagree]

theorem exists_ofText_iff
    (h : c.Follows form) (hs : Spells s ms) :
    (∃ v, c.ofText s = .ok v) ↔ Accepts form ms := by
  simp only [ofText, hs.reading, ofReading_eq_ok_iff, h.reads_iff hs.orderly]

theorem ofText_iff_of_agree
    (h : c.Follows form) (hs : Spells s ms) (hs' : Spells s' ms') (hagree : Agree form ms ms')
    (v : α) :
    c.ofText s' = .ok v ↔ c.ofText s = .ok v := by
  rw [ofText, ofText, hs.reading, hs'.reading, ofReading_eq_ok_iff, ofReading_eq_ok_iff,
    h.same hs.orderly hs'.orderly hagree]

end Codec.Follows

end Json
end DealDesk
