import DealDesk.Json.Record
import DealDesk.Proofs.Json.Printing

/-!
# Records and what is written for them

What a record reads from the members of another one is settled field by field: a
field that is written has to read its value, and a field that is silent has to take
the absence of its member for the value.  The keys must be distinct, because a member
goes to the first field with its key.

The same is done for legibility, which is what a text needs to be read as the
document it was written for.

**Results.** `Fields.gives_iff`: what is written for the values of a record is read as
those that every field reads.  `Codec.ofText_text_iff` and
`Codec.ofText_indentedText_iff`: a value is decoded from a text exactly when it is read
from the document of the text, if that is legible.
-/

namespace DealDesk
namespace Json

namespace Codec

/-! ### Codecs of values -/

theorem map_eq_ok_iff
    {ε α β : Type} {f : α → β} {g : β → α} (hfg : ∀ y, f (g y) = y) (hgf : ∀ x, g (f x) = x)
    {r : Except ε α} {y : β} :
    r.map f = .ok y ↔ r = .ok (g y) := by
  cases r with
  | error e =>
      constructor
      · intro h
        cases h
      · intro h
        cases h
  | ok x =>
      constructor
      · intro h
        cases h
        rw [hgf]
      · intro h
        cases h
        rw [Except.map, hfg]

/-- What is written for the first value is read as the second. -/
def Gives {α : Type} (c : Codec α) (v w : α) : Prop :=
  c.read (c.write v) = .ok w

/-- A value that reads back is read as nothing but itself. -/
theorem ReadsBack.gives_iff
    {α : Type} {c : Codec α} {v w : α} (h : c.ReadsBack v) :
    c.Gives v w ↔ w = v := by
  rw [ReadsBack] at h
  rw [Gives, h, Except.ok.injEq, eq_comm]

/-- A type in different clothes reads what the type itself does. -/
theorem gives_imap_iff
    {α β : Type} {c : Codec α} {f : α → β} {g : β → α} (hfg : ∀ y, f (g y) = y)
    (hgf : ∀ x, g (f x) = x) (y z : β) :
    (c.imap f g).Gives y z ↔ c.Gives (g y) (g z) :=
  map_eq_ok_iff hfg hgf

theorem imap_write
    {α β : Type} (c : Codec α) (f : α → β) (g : β → α) (y : β) :
    (c.imap f g).write y = c.write (g y) := rfl

theorem readsBack_string (s : String) :
    string.ReadsBack s := rfl

theorem readsBack_optional_string (s : Option String) :
    (optional string).ReadsBack s := by
  cases s with
  | none => rfl
  | some s => rfl

theorem readsBack_integer
    {low high : Int} {wanted : String} {n : Int} (hlow : low ≤ n) (hhigh : n ≤ high)
    (hl : Int64.minValue.toInt ≤ low) (hh : high < UInt64.size) :
    (integer low high wanted).ReadsBack n := by
  have hn := Number.ofNumeral?_ofInt (Int.le_trans hl hlow) (Int.lt_of_le_of_lt hhigh hh)
  simp only [ReadsBack, integer, hn]
  rw [if_pos ⟨hlow, hhigh⟩]

theorem readsBack_int32 (n : Int32) :
    int32.ReadsBack n := by
  have hlow : Int32.minValue.toInt ≤ n.toInt := n.le_toInt
  have hhigh : n.toInt ≤ Int32.maxValue.toInt := Int.le_of_lt_add_one n.toInt_lt
  have h := @readsBack_integer _ _ "i32" n.toInt hlow hhigh (by decide) (by decide)
  simp only [ReadsBack] at h
  simp only [ReadsBack, int32, imap, h, Except.map, Int32.ofInt_toInt]

/-- A value comes from a whole document when it comes from the document. -/
theorem ofReading_eq_ok_iff
    {α : Type} (c : Codec α) (d : Doc) (v : α) :
    c.ofReading ⟨d, false⟩ = .ok v ↔ c.read d = .ok v := by
  simp only [ofReading]
  cases c.read d with
  | error f =>
      constructor
      · intro h
        cases h
      · intro h
        cases h
  | ok w => exact Iff.rfl

/-- The compact text of a value is read as its document is, if that is legible. -/
theorem ofText_text_iff
    {α : Type} {ok : Numeral → Bool} (hok : ∀ n, ok n = true → n.WellFormed) {c : Codec α}
    {v w : α} {depth : Nat} (h : (c.write v).isLegible ok depth = true) :
    c.ofText (c.text v) = .ok w ↔ c.Gives v w := by
  rw [ofText, text, readText_compact hok h, ofReading_eq_ok_iff, Gives]

/-- The indented text of a value is read as its document is, if that is legible. -/
theorem ofText_indentedText_iff
    {α : Type} {ok : Numeral → Bool} (hok : ∀ n, ok n = true → n.WellFormed) {c : Codec α}
    {v w : α} {depth : Nat} (h : (c.write v).isLegible ok depth = true) :
    c.ofText (c.indentedText v) = .ok w ↔ c.Gives v w := by
  rw [ofText, indentedText, readText_indented hok h, ofReading_eq_ok_iff, Gives]

end Codec

namespace Field

/-- The field reads the second value for the first: from its member, or from its absence. -/
def Gives {α : Type} (f : Field α) (v w : α) : Prop :=
  if f.isSilent v then f.ifAbsent = some w else f.codec.Gives v w

/-- The member of the field is legible. -/
def Legible (ok : Numeral → Bool) (depth : Nat) {α : Type} (f : Field α) (v : α) : Prop :=
  f.isSilent v = false → (f.codec.write v).isLegible ok depth = true

end Field

namespace Fields

/-! ### Rows of fields -/

/-- Each field has a property together with its value. -/
def Each (p : {α : Type} → Field α → α → Prop) : {τ σ : Type} → Fields τ σ → τ → Prop
  | _, _, .nil, _ => True
  | _, _, .cons f rest, (v, w) => p f v ∧ rest.Each p w

/-- Each field relates its value in one row to its value in the other. -/
def Both (p : {α : Type} → Field α → α → α → Prop) : {τ σ : Type} → Fields τ σ → τ → τ → Prop
  | _, _, .nil, _, _ => True
  | _, _, .cons f rest, (v, w), (v', w') => p f v v' ∧ rest.Both p w w'

theorem exists_key_of_mem_members
    {τ σ : Type} (fs : Fields τ σ) (v : τ) {m : Option String × Doc} (hm : m ∈ fs.members v) :
    ∃ key ∈ fs.keys, m.1 = some key := by
  induction fs with
  | nil => exact absurd hm List.not_mem_nil
  | cons f rest ih =>
      obtain ⟨a, w⟩ := v
      rw [members] at hm
      split at hm
      · obtain ⟨key, hkey, h⟩ := ih w hm
        exact ⟨key, List.mem_cons_of_mem _ hkey, h⟩
      · rcases List.mem_cons.1 hm with rfl | hm
        · exact ⟨f.key, List.mem_cons_self, rfl⟩
        · obtain ⟨key, hkey, h⟩ := ih w hm
          exact ⟨key, List.mem_cons_of_mem _ hkey, h⟩

/-- A member with another name than the first field goes to the other fields. -/
theorem put_cons_of_ne
    {α β σ : Type} (f : Field α) (rest : Fields β σ) (slot : Option α) (slots : σ)
    {key : String} (h : key ≠ f.key) (d : Doc) :
    (Fields.cons f rest).put (slot, slots) key d
      = match rest.put slots key d with
        | .error e => .error e
        | .ok none => .ok none
        | .ok (some slots') => .ok (some (slot, slots')) :=
  if_neg h

/-- A field takes none of the members that have other names. -/
theorem putAll_cons_of_not_mem
    {α β σ : Type} (f : Field α) (rest : Fields β σ) (slot : Option α) (slots : σ)
    {ms : List (Option String × Doc)} (h : ∀ m ∈ ms, m.1 ≠ some f.key) :
    (Fields.cons f rest).putAll (slot, slots) ms
      = (rest.putAll slots ms).map fun slots => (slot, slots) := by
  induction ms generalizing slots with
  | nil => rfl
  | cons m ms ih =>
      have hrest := fun slots => ih slots fun m hm => h m (List.mem_cons_of_mem _ hm)
      obtain ⟨name, d⟩ := m
      cases name with
      | none => rfl
      | some key =>
          have hkey : key ≠ f.key := fun hk => h (some key, d) List.mem_cons_self (by rw [hk])
          rw [putAll, putAll, put_cons_of_ne f rest slot slots hkey]
          cases rest.put slots key d with
          | error e => rfl
          | ok slots' =>
              cases slots' with
              | none =>
                  simp only [hrest]
                  split <;> rfl
              | some slots' => exact hrest slots'

/-- What a record reads from members. -/
def gathered {τ σ : Type} (fs : Fields τ σ) (ms : List (Option String × Doc)) :
    Except Fault τ :=
  (fs.putAll fs.empty ms).bind fs.close

theorem read_obj
    {τ σ : Type} (kind : String) (fs : Fields τ σ) (ms : List (Option String × Doc)) :
    fs.read kind (.obj ms) = fs.gathered ms := by
  rw [read, gathered]
  cases fs.putAll fs.empty ms <;> rfl

theorem gathered_cons_of_not_mem
    {α β σ : Type} (f : Field α) (rest : Fields β σ)
    {ms : List (Option String × Doc)} (h : ∀ m ∈ ms, m.1 ≠ some f.key) (v : α) (w : β) :
    (Fields.cons f rest).gathered ms = .ok (v, w)
      ↔ f.ifAbsent = some v ∧ rest.gathered ms = .ok w := by
  rw [gathered, gathered, empty, putAll_cons_of_not_mem f rest none rest.empty h]
  cases rest.putAll rest.empty ms with
  | error e => simp [Except.map, Except.bind]
  | ok slots =>
      cases ha : f.ifAbsent with
      | none => simp [Except.map, Except.bind, close, ha]
      | some a =>
          cases hc : rest.close slots with
          | error e => simp [Except.map, Except.bind, close, ha, hc]
          | ok b => simp [Except.map, Except.bind, close, ha, hc]

/-- A record with the member for its first field in front. -/
theorem gathered_cons_member
    {α β σ : Type} (f : Field α) (rest : Fields β σ) (d : Doc)
    {ms : List (Option String × Doc)} (h : ∀ m ∈ ms, m.1 ≠ some f.key) (v : α) (w : β) :
    (Fields.cons f rest).gathered (Doc.member f.key d :: ms) = .ok (v, w)
      ↔ f.codec.read d = .ok v ∧ rest.gathered ms = .ok w := by
  rw [gathered, gathered, empty, Doc.member, putAll, put, if_pos rfl]
  cases f.codec.read d with
  | error e => simp [Except.bind]
  | ok a =>
      simp only [putAll_cons_of_not_mem f rest (some a) rest.empty h]
      cases rest.putAll rest.empty ms with
      | error e => simp [Except.map, Except.bind]
      | ok slots =>
          cases hc : rest.close slots with
          | error e => simp [Except.map, Except.bind, close, hc]
          | ok b => simp [Except.map, Except.bind, close, hc]

/-- What is written for the values of a record is read as those that every field reads. -/
theorem gathered_members_iff
    {τ σ : Type} {fs : Fields τ σ} (hkeys : fs.keys.Nodup) (v v' : τ) :
    fs.gathered (fs.members v) = .ok v' ↔ fs.Both Field.Gives v v' := by
  induction fs with
  | nil => exact ⟨fun _ => trivial, fun _ => rfl⟩
  | cons f rest ih =>
      obtain ⟨a, w⟩ := v
      obtain ⟨a', w'⟩ := v'
      obtain ⟨hhead, htail⟩ := List.nodup_cons.1 hkeys
      have hother : ∀ m ∈ rest.members w, m.1 ≠ some f.key := by
        intro m hm h
        obtain ⟨key, hkey, hk⟩ := rest.exists_key_of_mem_members w hm
        rw [h, Option.some.injEq] at hk
        exact hhead (hk ▸ hkey)
      rw [members, Both, Field.Gives]
      split
      · rw [gathered_cons_of_not_mem f rest hother, ih htail]
      · rw [gathered_cons_member f rest _ hother, ih htail, Codec.Gives]

theorem gives_iff
    {τ σ : Type} {fs : Fields τ σ} (hkeys : fs.keys.Nodup) (kind : String) (v w : τ) :
    (fs.codec kind).Gives v w ↔ fs.Both Field.Gives v w := by
  have hread : (fs.codec kind).Gives v w ↔ fs.read kind (.obj (fs.members v)) = .ok w :=
    Iff.rfl
  rw [hread, read_obj, gathered_members_iff hkeys]

/-- What is written for a record is legible if the members of its fields are. -/
theorem membersLegible_members
    {τ σ : Type} {ok : Numeral → Bool} {depth : Nat} (fs : Fields τ σ) (v : τ)
    (h : fs.Each (Field.Legible ok depth) v) :
    Doc.membersLegible ok (fs.members v) depth = true := by
  induction fs with
  | nil => rfl
  | cons f rest ih =>
      obtain ⟨a, w⟩ := v
      obtain ⟨hhead, htail⟩ := h
      rw [members]
      split
      · exact ih w htail
      · rename_i hs
        rw [Doc.membersLegible, ih w htail, Bool.and_true, Doc.member, Doc.memberLegible,
          hhead (by simpa using hs)]
        rfl

theorem legible_write
    {τ σ : Type} {ok : Numeral → Bool} {depth : Nat} (fs : Fields τ σ) (kind : String) {v : τ}
    (h : fs.Each (Field.Legible ok depth) v) :
    ((fs.codec kind).write v).isLegible ok (depth + 1) = true :=
  fs.membersLegible_members v h

end Fields

end Json
end DealDesk
