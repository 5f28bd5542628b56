import DealDesk.Proofs.Session.Record

/-!
# Values and what is read from their texts

What the codecs of parts do, the codecs of optional values, of lists and of records do
with their parts: they read a value back up to what the parts are read as, and what they
write is legible if that of the parts is.

A place in a document is a row of steps into objects and arrays.  A record shows the
member of a field at the place with its key, and nothing there if the field is silent.

**Results.** `Codec.gives_optional_map_iff` and `Codec.gives_list_map_iff`: what is read for
a value in parts.  `Fields.legible`: what is written for a record is legible.
`Fields.into?_members`: what stands at a key of a record.
-/

namespace DealDesk
namespace Json

namespace Codec

/-! ### Values in parts -/

theorem optional_read_of_ne_null
    {α : Type} {c : Codec α} {d : Doc} (hd : d ≠ .null) :
    (optional c).read d = (c.read d).map some := by
  cases d with
  | null => exact absurd rfl hd
  | _ => rfl

/-- A value that may be absent is read as its codec reads it, which takes nothing for none. -/
theorem gives_optional_map_iff
    {α : Type} {c : Codec α} (hnull : ∀ v, c.read .null ≠ .ok v) (g : α → α) (o : Option α) :
    (optional c).Gives o (o.map g) ↔ ∀ v ∈ o, c.Gives v (g v) := by
  cases o with
  | none =>
      refine ⟨fun _ v hv => ?_, fun _ => rfl⟩
      cases hv
  | some v =>
      have hwrite : (optional c).write (some v) = c.write v := rfl
      simp only [Option.mem_some_iff, forall_eq', Option.map_some, Gives, hwrite]
      by_cases hw : c.write v = .null
      -- Both sides fail: the value is lost as an absent one, and its codec reads no null.
      · rw [hw]
        refine iff_of_false (fun h => ?_) (hnull (g v))
        cases h
      · rw [optional_read_of_ne_null hw]
        cases c.read (c.write v) <;> simp [Except.map]

theorem readsBack_optional
    {α : Type} {c : Codec α} (hnull : ∀ v, c.read .null ≠ .ok v) (h : ∀ v, c.ReadsBack v)
    (o : Option α) :
    (optional c).ReadsBack o := by
  have hgives := (gives_optional_map_iff hnull id o).2 fun v _ => h v
  rwa [Option.map_id] at hgives

theorem readItemsWith_map_iff
    {α : Type} {c : Codec α} (g : α → α) (vs : List α) :
    readItemsWith c.read (vs.map c.write) = .ok (vs.map g) ↔ ∀ v ∈ vs, c.Gives v (g v) := by
  induction vs with
  | nil => exact ⟨fun _ v hv => absurd hv List.not_mem_nil, fun _ => rfl⟩
  | cons v vs ih =>
      rw [List.forall_mem_cons, ← ih, List.map_cons, List.map_cons, readItemsWith, Gives]
      cases c.read (c.write v) with
      | error e => simp
      | ok w => cases readItemsWith c.read (vs.map c.write) <;> simp [Except.map]

/-- A list is read item by item. -/
theorem gives_list_map_iff
    {α : Type} {c : Codec α} (g : α → α) (vs : List α) :
    (list c).Gives vs (vs.map g) ↔ ∀ v ∈ vs, c.Gives v (g v) :=
  readItemsWith_map_iff g vs

theorem readsBack_int64 (n : Int64) :
    int64.ReadsBack n := by
  have hlow : Int64.minValue.toInt ≤ n.toInt := n.le_toInt
  have hhigh : n.toInt ≤ Int64.maxValue.toInt := Int.le_of_lt_add_one n.toInt_lt
  have h := @readsBack_integer _ _ "i64" n.toInt hlow hhigh (by decide) (by decide)
  simp only [ReadsBack] at h
  simp only [ReadsBack, int64, imap, h, Except.map, Int64.ofInt_toInt]

/-! ### Legible values -/

/-- What is written is legible, whatever the value. -/
def Legible {α : Type} (c : Codec α) (depth : Nat) : Prop :=
  ∀ v, (c.write v).isLegible Numeral.isProper depth = true

@[simp] theorem legible_decimal_codec (depth : Nat) : decimal.Legible depth :=
  fun d => legible_real d.toFloat depth

@[simp] theorem Legible.optional
    {α : Type} {c : Codec α} {depth : Nat} (h : c.Legible depth) :
    (optional c).Legible depth := by
  intro o
  cases o with
  | none => rfl
  | some v => exact h v

@[simp] theorem Legible.list
    {α : Type} {c : Codec α} {depth : Nat} (h : c.Legible depth) :
    (list c).Legible (depth + 1) :=
  fun _ => legible_list fun v _ => h v

theorem Legible.imap
    {α β : Type} {c : Codec α} {depth : Nat} (h : c.Legible depth) (f : α → β) (g : β → α) :
    (c.imap f g).Legible depth :=
  fun y => h (g y)

/-- A decimal is read from its text as it is from its document. -/
theorem ofText_text_decimal_iff (d e : Decimal) :
    decimal.ofText (decimal.text d) = .ok e ↔ decimal.Gives d e :=
  ofText_text_iff Numeral.wellFormed_of_isProper (legible_decimal_codec 0 d)

@[simp] theorem gives_optional_decimal_iff (g : Decimal → Decimal) (o : Option Decimal) :
    (optional decimal).Gives o (o.map g) ↔ ∀ d ∈ o, decimal.Gives d (g d) := by
  refine gives_optional_map_iff (fun v h => ?_) g o
  cases h

/-! ### Plain values -/

/-- Values that always read back, without an object or an array and never as nothing. -/
structure Plain {α : Type} (c : Codec α) : Prop where
  readsBack : ∀ v, c.ReadsBack v
  legible : ∀ depth, c.Legible depth
  not_null : ∀ v, c.read .null ≠ .ok v

@[simp] theorem plain_string : string.Plain where
  readsBack := readsBack_string
  legible := fun depth v => legible_string _ v depth
  not_null := by rintro _ ⟨⟩

@[simp] theorem plain_flag : flag.Plain where
  readsBack := readsBack_flag
  legible := fun depth v => legible_flag _ v depth
  not_null := by rintro _ ⟨⟩

@[simp] theorem plain_int64 : int64.Plain where
  readsBack := readsBack_int64
  legible := fun _ _ => decide_eq_true (Numeral.wellFormed_ofInt _)
  not_null := by rintro _ ⟨⟩

theorem plain_named
    {α : Type} {n : Names α} (h : ∀ v, n.find? (n.name v) = some v) :
    (named n).Plain where
  readsBack := fun v => readsBack_named (h v)
  legible := fun _ _ => rfl
  not_null := by rintro _ ⟨⟩

namespace Plain

variable {α : Type} {c : Codec α}

@[simp] theorem codec_legible (h : c.Plain) (depth : Nat) : c.Legible depth :=
  h.legible depth

@[simp] theorem gives_iff (h : c.Plain) (v w : α) : c.Gives v w ↔ w = v :=
  (h.readsBack v).gives_iff

@[simp] theorem gives_optional_iff (h : c.Plain) (o o' : Option α) :
    (optional c).Gives o o' ↔ o' = o :=
  (readsBack_optional h.not_null h.readsBack o).gives_iff

end Plain

end Codec

namespace Field

/-! ### Fields and records -/

variable {α : Type}

@[simp] theorem gives_required_iff (key : String) (c : Codec α) (v w : α) :
    (required key c).Gives v w ↔ c.Gives v w := by
  simp [Gives, required]

@[simp] theorem gives_withDefault_iff (key : String) (c : Codec α) (u v w : α) :
    (withDefault key c u).Gives v w ↔ c.Gives v w := by
  simp [Gives, withDefault]

@[simp] theorem gives_nullable_iff (key : String) (c : Codec α) (o o' : Option α) :
    (nullable key c).Gives o o' ↔ (Codec.optional c).Gives o o' := by
  simp [Gives, nullable]

/-- An absent value reads the same whether it is written as nothing or not at all. -/
@[simp] theorem gives_elided_iff (key : String) (c : Codec α) (o o' : Option α) :
    (elided key c).Gives o o' ↔ (Codec.optional c).Gives o o' := by
  cases o with
  | none => simp [Gives, elided, Codec.Gives, Codec.optional]
  | some v => simp [Gives, elided]

end Field

namespace Fields

@[simp] theorem both_nil (p : {α : Type} → Field α → α → α → Prop) (v w : Unit) :
    Fields.nil.Both p v w :=
  trivial

@[simp] theorem both_cons
    {α β σ : Type} (p : {α : Type} → Field α → α → α → Prop) (f : Field α) (rest : Fields β σ)
    (v v' : α) (w w' : β) :
    (Fields.cons f rest).Both p (v, w) (v', w') ↔ p f v v' ∧ rest.Both p w w' :=
  Iff.rfl

/-- All members are legible, whatever their values. -/
def AllLegible (depth : Nat) : {τ σ : Type} → Fields τ σ → Prop
  | _, _, .nil => True
  | _, _, .cons f rest => f.codec.Legible depth ∧ rest.AllLegible depth

theorem AllLegible.each
    {τ σ : Type} {fs : Fields τ σ} {depth : Nat} (h : fs.AllLegible depth) (v : τ) :
    fs.Each (Field.Legible Numeral.isProper depth) v := by
  induction fs with
  | nil => trivial
  | cons f rest ih =>
      obtain ⟨hhead, htail⟩ := h
      exact ⟨fun _ => hhead v.1, ih htail v.2⟩

theorem legible
    {τ σ : Type} {fs : Fields τ σ} {depth : Nat} (h : fs.AllLegible depth) (kind : String) :
    (fs.codec kind).Legible (depth + 1) :=
  fun v => fs.legible_write kind (h.each v)

end Fields

/-! ### Places in documents -/

/-- A step into an object or into an array. -/
inductive Step where
  | member (key : String)
  | item (i : Nat)

namespace Doc

/-- What stands one step into a document. -/
def into? : Doc → Step → Option Doc
  | .obj ms, .member key => (ms.find? fun m => m.1 = some key).map Prod.snd
  | .arr items, .item i => items[i]?
  | _, _ => none

/-- What stands at a place of a document. -/
def at? (d : Doc) (path : List Step) : Option Doc :=
  path.foldlM into? d

theorem at?_cons (d : Doc) (step : Step) (path : List Step) :
    d.at? (step :: path) = (d.into? step).bind fun d => d.at? path := by
  rw [at?, List.foldlM_cons]
  rfl

/-- The way into an object of a list. -/
theorem at?_listed
    {α : Type} {c : Codec α} {d d' : Doc} {vs : List α} {v : α} {i : Nat} {key key' : String}
    (hlist : d.into? (.member key) = some ((Codec.list c).write vs)) (hv : vs[i]? = some v)
    (hmember : (c.write v).into? (.member key') = some d') :
    d.at? [.member key, .item i, .member key'] = some d' := by
  have hitem : ((Codec.list c).write vs).into? (.item i) = some (c.write v) := by
    rw [Codec.list, into?, List.getElem?_map, hv]
    rfl
  rw [at?_cons, hlist, Option.bind_some, at?_cons, hitem, Option.bind_some, at?_cons, hmember]
  rfl

/-- The places of absent members of the object at a place. -/
def absentAt (path : List Step) (optionals : List (String × Bool)) : List (List Step) :=
  (optionals.filter Prod.snd).map fun o => path ++ [.member o.1]

/-- What stands at the places of absent members, if all of them are put alike. -/
theorem at?_of_mem_absentAt
    {d d' : Doc} {path : List Step} (hd : d.at? path = some d') {optionals : List (String × Bool)}
    {x : Option Doc} (h : ∀ o ∈ optionals, o.2 = true → d'.into? (.member o.1) = x)
    {place : List Step} (hplace : place ∈ absentAt path optionals) :
    d.at? place = x := by
  obtain ⟨o, ho, rfl⟩ := List.mem_map.1 hplace
  obtain ⟨hmem, habsent⟩ := List.mem_filter.1 ho
  rw [at?] at hd
  rw [at?, List.foldlM_append, hd, ← h o hmem habsent]
  simp

end Doc

namespace Fields

/-- The document of the field with a key, unless that is silent. -/
def shown? : {τ σ : Type} → Fields τ σ → τ → String → Option Doc
  | _, _, .nil, _, _ => none
  | _, _, .cons f rest, (v, w), key =>
      if key = f.key then if f.isSilent v then none else some (f.codec.write v)
      else rest.shown? w key

theorem find?_members_of_not_mem
    {τ σ : Type} (fs : Fields τ σ) (v : τ) {key : String} (h : key ∉ fs.keys) :
    (fs.members v).find? (fun m => m.1 = some key) = none := by
  refine List.find?_eq_none.2 fun m hm hkey => ?_
  obtain ⟨key', hmem, hname⟩ := fs.exists_key_of_mem_members v hm
  rw [hname, decide_eq_true_eq, Option.some.injEq] at hkey
  exact h (hkey ▸ hmem)

/-- What stands at the key of a record is what its field shows. -/
theorem into?_members
    {τ σ : Type} {fs : Fields τ σ} (hkeys : fs.keys.Nodup) (v : τ) (key : String) :
    (Doc.obj (fs.members v)).into? (.member key) = fs.shown? v key := by
  rw [Doc.into?]
  induction fs with
  | nil => rfl
  | cons f rest ih =>
      obtain ⟨a, w⟩ := v
      obtain ⟨hhead, htail⟩ := List.nodup_cons.1 hkeys
      rw [members, shown?]
      by_cases hkey : key = f.key
      · subst hkey
        split
        -- A silent field leaves its key to the others, and none of them has it.
        · rw [rest.find?_members_of_not_mem w hhead, if_pos rfl]
          rfl
        · simp [Doc.member]
      · rw [if_neg hkey, ← ih htail]
        split
        · rfl
        · rw [List.find?_cons_of_neg]
          simpa [Doc.member, eq_comm] using hkey

/-- The same for a type that is a record in different clothes. -/
theorem into?_write
    {α τ σ : Type} {fs : Fields τ σ} (hkeys : fs.keys.Nodup) (kind : String) (f : τ → α)
    (g : α → τ) (r : α) (key : String) :
    (((fs.codec kind).imap f g).write r).into? (.member key) = fs.shown? (g r) key :=
  into?_members hkeys (g r) key

end Fields

end Json
end DealDesk
