import DealDesk.Proofs.Session.Record
import DealDesk.Vault.Content

/-!
# Contents read back

A content is read in two rounds: the members are gone through for the form, the
others set aside, and then the form reads them.  The first round is settled by
`read_tagged_iff`: it comes to the same for every place of the form.

**Results.** `gives_plain_iff`: what a session in the open is read as.
`decoded_as_written`: a content is decoded from the text that is written for it exactly
if its amounts and its expiry read back from their own texts, and so is its session;
where the form stands among the members of a text makes no difference.
`not_decoded_as_written`: amounts that read back are not enough.
-/

namespace DealDesk
namespace Vault

open Json

namespace Content

/-- The member is not the form, and it can be set aside. -/
def IsOther (m : Option String × Doc) : Prop :=
  ∃ key, m.1 = some key ∧ key ≠ formatKey ∧ canWait m.2 = true

theorem collect_cons_of_ne
    (known : Option Format) {key : String} (h : key ≠ formatKey) (d : Doc)
    (ms : List (Option String × Doc)) :
    collect known ((some key, d) :: ms)
      = if canWait d then
          match collect known ms with
          | .error e => .error e
          | .ok (f, ms) => .ok (f, (some key, d) :: ms)
        else .error .malformed :=
  if_neg h

/-- A member that is not the form has to be able to wait, and is kept in its place. -/
theorem collect_cons_iff
    (known : Option Format) {m : Option String × Doc} (hm : m.1 ≠ some formatKey)
    (ms others : List (Option String × Doc)) (form : Option Format) :
    collect known (m :: ms) = .ok (form, others)
      ↔ IsOther m ∧ ∃ rest, others = m :: rest ∧ collect known ms = .ok (form, rest) := by
  obtain ⟨name, d⟩ := m
  cases name with
  | none =>
      constructor
      · intro h
        cases h
      · rintro ⟨⟨key, hkey, -⟩, -⟩
        cases hkey
  | some key =>
      have hne : key ≠ formatKey := fun h => hm (congrArg some h)
      rw [collect_cons_of_ne known hne]
      by_cases hwait : canWait d = true
      · rw [if_pos hwait]
        cases hrest : collect known ms with
        | error e =>
            constructor
            · intro h
              cases h
            · rintro ⟨-, rest, -, h⟩
              cases h
        | ok p =>
            constructor
            · intro h
              cases h
              exact ⟨⟨key, rfl, hne, hwait⟩, p.2, rfl, rfl⟩
            · rintro ⟨-, rest, rfl, h⟩
              cases h
              rfl
      · rw [if_neg hwait]
        constructor
        · intro h
          cases h
        · rintro ⟨⟨_, _, _, h⟩, -⟩
          exact absurd h hwait

theorem collect_some_form
    (known : Format) (d : Doc) (ms : List (Option String × Doc)) :
    collect (some known) ((some formatKey, d) :: ms) = .error (.repeatedMember formatKey) := by
  rw [collect, if_pos rfl]

/-- Once the form is known, only other members may follow. -/
theorem collect_some_iff
    (known : Format) (form : Option Format) (ms others : List (Option String × Doc)) :
    collect (some known) ms = .ok (form, others)
      ↔ form = some known ∧ others = ms ∧ ∀ m ∈ ms, IsOther m := by
  induction ms generalizing others with
  | nil =>
      constructor
      · intro h
        cases h
        exact ⟨rfl, rfl, fun m hm => absurd hm List.not_mem_nil⟩
      · rintro ⟨rfl, rfl, -⟩
        rfl
  | cons m ms ih =>
      by_cases hm : m.1 = some formatKey
      · obtain ⟨name, d⟩ := m
        cases hm
        rw [collect_some_form]
        constructor
        · intro h
          cases h
        · rintro ⟨-, -, h⟩
          obtain ⟨key, hkey, hne, -⟩ := h (some formatKey, d) List.mem_cons_self
          cases hkey
          exact absurd rfl hne
      · rw [collect_cons_iff (some known) hm]
        constructor
        · rintro ⟨hother, rest, rfl, h⟩
          obtain ⟨rfl, rfl, hrest⟩ := (ih rest).1 h
          exact ⟨rfl, rfl, List.forall_mem_cons.2 ⟨hother, hrest⟩⟩
        · rintro ⟨rfl, rfl, h⟩
          obtain ⟨hother, hrest⟩ := List.forall_mem_cons.1 h
          exact ⟨hother, ms, rfl, (ih ms).2 ⟨rfl, rfl, hrest⟩⟩

/-- The form is found in any place, and the others are kept in their order. -/
theorem collect_tagged_iff
    (d : Doc) (before after others : List (Option String × Doc)) (form : Option Format) :
    collect none (before ++ (some formatKey, d) :: after) = .ok (form, others)
      ↔ ∃ format, Format.read d = .ok format ∧ form = some format
        ∧ others = before ++ after ∧ ∀ m ∈ before ++ after, IsOther m := by
  induction before generalizing others with
  | nil =>
      rw [List.nil_append, List.nil_append, collect, if_pos rfl]
      cases Format.read d with
      | error e =>
          constructor
          · intro h
            cases h
          · rintro ⟨_, h, -⟩
            cases h
      | ok format =>
          simp only [collect_some_iff]
          constructor
          · rintro ⟨rfl, rfl, h⟩
            exact ⟨format, rfl, rfl, rfl, h⟩
          · rintro ⟨_, h, rfl, rfl, hothers⟩
            cases h
            exact ⟨rfl, rfl, hothers⟩
  | cons m before ih =>
      by_cases hm : m.1 = some formatKey
      · -- A form in front makes the later one a repetition.
        obtain ⟨name, e⟩ := m
        cases hm
        constructor
        · intro h
          rw [List.cons_append, collect, if_pos rfl] at h
          cases hread : Format.read e with
          | error f =>
              rw [hread] at h
              cases h
          | ok known =>
              simp only [hread, collect_some_iff] at h
              obtain ⟨-, -, hothers⟩ := h
              obtain ⟨key, hkey, hne, -⟩ := hothers (some formatKey, d) (by simp)
              cases hkey
              exact absurd rfl hne
        · rintro ⟨_, -, -, -, h⟩
          obtain ⟨key, hkey, hne, -⟩ := h (some formatKey, e) List.mem_cons_self
          cases hkey
          exact absurd rfl hne
      · rw [List.cons_append, collect_cons_iff none hm]
        constructor
        · rintro ⟨hother, rest, rfl, h⟩
          obtain ⟨format, hread, hform, rfl, hothers⟩ := (ih rest).1 h
          exact ⟨format, hread, hform, rfl, List.forall_mem_cons.2 ⟨hother, hothers⟩⟩
        · rintro ⟨format, hread, hform, rfl, h⟩
          obtain ⟨hother, hothers⟩ := List.forall_mem_cons.1 h
          exact ⟨hother, before ++ after, rfl, (ih _).2 ⟨format, hread, hform, rfl, hothers⟩⟩

/-- What an object with a form gives depends on its other members and their order only. -/
theorem read_tagged_iff
    (d : Doc) (before after : List (Option String × Doc)) (c : Content) :
    read (.obj (before ++ (some formatKey, d) :: after)) = .ok c
      ↔ ∃ format, Format.read d = .ok format ∧ (∀ m ∈ before ++ after, IsOther m)
        ∧ ofForm format (.obj (before ++ after)) = .ok c := by
  have hcollect := collect_tagged_iff d before after
  rw [read]
  cases h : collect none (before ++ (some formatKey, d) :: after) with
  | error e =>
      constructor
      · intro hc
        cases hc
      · rintro ⟨format, hread, hothers, -⟩
        have := (hcollect (before ++ after) (some format)).2 ⟨format, hread, rfl, rfl, hothers⟩
        rw [h] at this
        cases this
  | ok p =>
      obtain ⟨form, others⟩ := p
      obtain ⟨format, hread, rfl, rfl, hothers⟩ := (hcollect others form).1 h
      constructor
      · intro hc
        exact ⟨format, hread, hothers, hc⟩
      · rintro ⟨format', hread', -, hc⟩
        rw [hread] at hread'
        cases hread'
        exact hc

/-! ### What is written -/

theorem read_name (format : Format) :
    Format.read (.str (some format.name)) = .ok format := by
  cases format <;> rfl

/-- The second round gives a content exactly when its fields give the parts of it. -/
theorem setAside_map_iff
    {α : Type} {f : α → Content} (hf : ∀ v w, f v = f w → v = w) (r : Except Fault α) (v : α) :
    (match r.map f with
      | .error e => Except.error e.setAside
      | .ok c => .ok c) = .ok (f v)
      ↔ r = .ok v := by
  cases r with
  | error e =>
      constructor
      · intro h
        cases h
      · intro h
        cases h
  | ok w =>
      constructor
      · intro h
        rw [hf w v (Except.ok.inj h)]
      · intro h
        cases h
        rfl

theorem ofForm_plain_iff
    (ms : List (Option String × Doc)) (s : Session) :
    ofForm .plain (.obj ms) = .ok (.plain s) ↔ plainFields.gathered ms = .ok (s, ()) := by
  simp only [ofForm, Fields.read_obj]
  exact setAside_map_iff (fun v w h => Prod.ext (plain.inj h) rfl) _ (s, ())

theorem ofForm_sealed_iff
    (ms : List (Option String × Doc)) (nonce ciphertext : String) :
    ofForm .sealed (.obj ms) = .ok (.sealed nonce ciphertext)
      ↔ sealedFields.gathered ms = .ok (nonce, ciphertext, ()) := by
  simp only [ofForm, Fields.read_obj]
  exact setAside_map_iff
    (fun v w h => Prod.ext (sealed.inj h).1 (Prod.ext (sealed.inj h).2 rfl)) _
    (nonce, ciphertext, ())

theorem legible_of_gives
    {f g : Float} (h : Codec.real.Gives f g) (depth : Nat) :
    (Codec.real.write f).isLegible (fun n => (Number.ofNumeral? n).isSome) depth = true := by
  simp only [Codec.Gives, Codec.real, Codec.writeReal] at h ⊢
  split
  · rename_i hfinite
    simp only [hfinite, if_true] at h
    cases hn : Number.ofNumeral? (Layout.wire.spell f) with
    | none =>
        rw [hn] at h
        cases h
    | some v => simp [Doc.isLegible, hn]
  · rfl

theorem canWait_session
    {s : Session} (h : s.Readable) :
    canWait (Session.codec.write s) = true := by
  have hlow : -2147483648 ≤ s.account.timezoneOffset.toInt := s.account.timezoneOffset.le_toInt
  have hhigh : s.account.timezoneOffset.toInt < 2147483648 := s.account.timezoneOffset.toInt_lt
  have hwhole := Number.ofNumeral?_ofInt (Int.le_trans (by decide) hlow)
    (Int.lt_trans hhigh (by decide))
  refine @Session.legible_write (fun n => (Number.ofNumeral? n).isSome) s 122 ?_ ?_
  · intro f hf
    obtain ⟨g, hg⟩ := h f hf
    exact legible_of_gives ((Codec.ofText_text_real_iff f g).1 hg) _
  · simp only [hwhole, Option.isSome_some]

/-- A session in the open is read as what it is read as by itself. -/
theorem gives_plain_iff (s t : Session) :
    codec.Gives (.plain s) (.plain t) ↔ s.Reread t := by
  have hread : codec.Gives (.plain s) (.plain t)
      ↔ read (.obj ([] ++ (some formatKey, .str (some Format.plain.name))
        :: plainFields.members (s, ()))) = .ok (.plain t) := Iff.rfl
  have hfields : plainFields.gathered (plainFields.members (s, ())) = .ok (t, ())
      ↔ s.Reread t := by
    rw [Fields.gathered_members_iff (by decide), ← Session.gives_iff]
    simp [plainFields, Fields.Both, Field.Gives, Field.required]
  rw [hread, read_tagged_iff]
  simp only [read_name, List.nil_append]
  constructor
  · rintro ⟨format, hformat, -, hform⟩
    cases hformat
    exact hfields.1 ((ofForm_plain_iff _ t).1 hform)
  · intro h
    refine ⟨.plain, rfl, ?_, (ofForm_plain_iff _ t).2 (hfields.2 h)⟩
    rintro m hm
    cases List.mem_singleton.1 hm
    exact ⟨"credentials", rfl, by decide, canWait_session ((Session.readable_iff s).2 ⟨t, h⟩)⟩

/-- A sealed session always reads back; what is in it is a matter of its key. -/
theorem readsBack_sealed (nonce ciphertext : String) :
    codec.ReadsBack (.sealed nonce ciphertext) := by
  have hread : codec.ReadsBack (.sealed nonce ciphertext)
      ↔ read (.obj ([] ++ (some formatKey, .str (some Format.sealed.name))
        :: sealedFields.members (nonce, ciphertext, ()))) = .ok (.sealed nonce ciphertext) :=
    Iff.rfl
  have hfields : sealedFields.gathered (sealedFields.members (nonce, ciphertext, ()))
      = .ok (nonce, ciphertext, ()) := by
    rw [Fields.gathered_members_iff (by decide)]
    exact ⟨Codec.readsBack_string nonce, Codec.readsBack_string ciphertext, trivial⟩
  rw [hread, read_tagged_iff]
  simp only [read_name, List.nil_append]
  refine ⟨.sealed, rfl, ?_, (ofForm_sealed_iff _ nonce ciphertext).2 hfields⟩
  rintro m hm
  rcases List.mem_cons.1 hm with rfl | hm
  · exact ⟨"nonce", rfl, by decide, rfl⟩
  · cases List.mem_singleton.1 hm
    exact ⟨"ciphertext", rfl, by decide, rfl⟩

theorem legible_proper (c : Content) :
    (codec.write c).isLegible Numeral.isProper 5 = true := by
  cases c with
  | plain s =>
      have hsession : Doc.membersLegible Numeral.isProper (plainFields.members (s, ())) 4 = true :=
        Fields.membersLegible_members plainFields (s, ()) ⟨fun _ => s.legible_proper 0, trivial⟩
      simpa [codec, write, Doc.isLegible, Doc.membersLegible, Doc.memberLegible, Doc.member]
        using hsession
  | sealed nonce ciphertext => rfl

/-- A session in the open reads back; a sealed one shows nothing that would not. -/
def Exact : Content → Prop
  | .plain s => s.Exact
  | .sealed _ _ => True

theorem readsBack_iff_exact (c : Content) :
    codec.ReadsBack c ↔ c.Exact := by
  cases c with
  | plain s => exact (gives_plain_iff s s).trans s.reread_self_iff
  | sealed nonce ciphertext => exact iff_of_true (readsBack_sealed nonce ciphertext) trivial

/-- What a content is read as from its indented text. -/
theorem ofText_indentedText_iff (c c' : Content) :
    codec.ofText (codec.indentedText c) = .ok c' ↔ codec.Gives c c' :=
  Codec.ofText_indentedText_iff Numeral.wellFormed_of_isProper c.legible_proper

/-! ### The place of the form -/

theorem membersLegible_append
    (ok : Numeral → Bool) (as bs : List (Option String × Doc)) (depth : Nat) :
    Doc.membersLegible ok (as ++ bs) depth
      = (Doc.membersLegible ok as depth && Doc.membersLegible ok bs depth) := by
  induction as with
  | nil => simp [Doc.membersLegible]
  | cons m as ih => rw [List.cons_append, Doc.membersLegible, Doc.membersLegible, ih, Bool.and_assoc]

/-- Objects that differ only in the place of the form give the same content. -/
theorem read_moved_iff
    (d : Doc) {before after before' after' : List (Option String × Doc)}
    (h : before ++ after = before' ++ after') (c : Content) :
    read (.obj (before ++ (some formatKey, d) :: after)) = .ok c
      ↔ read (.obj (before' ++ (some formatKey, d) :: after')) = .ok c := by
  rw [read_tagged_iff, read_tagged_iff, h]

/-- The same for bytes whose documents differ only in the place of the form. -/
theorem ofBytes_moved
    (d : Doc) {before after before' after' : List (Option String × Doc)}
    (h : before ++ after = before' ++ after') {bs bs' : List UInt8} {trailing : Bool}
    (hbs : readBytes bs = ⟨.obj (before ++ (some formatKey, d) :: after), trailing⟩)
    (hbs' : readBytes bs' = ⟨.obj (before' ++ (some formatKey, d) :: after'), trailing⟩) :
    (codec.ofBytes bs).toOption = (codec.ofBytes bs').toOption := by
  have hread := read_moved_iff d h
  simp only [Codec.ofBytes, Codec.ofReading, hbs, hbs', codec]
  cases hl : read (.obj (before ++ (some formatKey, d) :: after)) with
  | ok c => rw [(hread c).1 hl]
  | error e =>
      cases hr : read (.obj (before' ++ (some formatKey, d) :: after')) with
      | error e' => rfl
      | ok c =>
          rw [(hread c).2 hr] at hl
          cases hl

/-- The form of a written content may stand among its other members. -/
theorem ofText_moved_iff
    {c : Content} {form : Option String × Doc} {before after : List (Option String × Doc)}
    (hw : codec.write c = .obj (form :: (before ++ after))) (c' : Content) :
    (codec.ofText (Doc.obj (before ++ form :: after)).indented = .ok c' ↔ codec.Gives c c')
      ∧ (codec.ofText (Doc.obj (before ++ form :: after)).compact = .ok c'
        ↔ codec.Gives c c') := by
  have hform : form.1 = some formatKey := by
    cases c with
    | plain s => rw [← (List.cons.inj (Doc.obj.inj hw)).1]; rfl
    | sealed nonce ciphertext => rw [← (List.cons.inj (Doc.obj.inj hw)).1]; rfl
  obtain ⟨name, d⟩ := form
  cases hform
  have hgives : codec.Gives c c'
      ↔ read (.obj ([] ++ (some formatKey, d) :: (before ++ after))) = .ok c' := by
    rw [Codec.Gives, hw]
    exact Iff.rfl
  have hmoved := read_moved_iff d (List.nil_append (before ++ after)) c'
  have hlegible : (Doc.obj (before ++ (some formatKey, d) :: after)).isLegible Numeral.isProper 5
      = true := by
    have h := c.legible_proper
    rw [hw] at h
    simp only [Doc.isLegible, Doc.membersLegible, membersLegible_append, Bool.and_eq_true] at h ⊢
    exact ⟨h.2.1, h.1, h.2.2⟩
  rw [Codec.ofText, Codec.ofText, readText_indented Numeral.wellFormed_of_isProper hlegible,
    readText_compact Numeral.wellFormed_of_isProper hlegible, Codec.ofReading_eq_ok_iff, hgives,
    hmoved]
  exact ⟨Iff.rfl, Iff.rfl⟩

/--
A content is decoded from the text that is written for it exactly if it reads back, and so is
a session; in the open a session is decoded as what it is read as.  Where the form stands
among the members of an object makes no difference.
-/
theorem decoded_as_written (c : Content) (s : Session) :
    (codec.ofBytes (Text.bytes (codec.indentedText c)) = .ok c ↔ c.Exact)
      ∧ (Session.codec.ofBytes (Text.bytes (Session.codec.text s)) = .ok s ↔ s.Exact)
      ∧ (∀ t, (codec.ofBytes (Text.bytes (codec.indentedText (.plain s))) = .ok (.plain t)
          ↔ s.Reread t)
        ∧ (Session.codec.ofBytes (Text.bytes (Session.codec.text s)) = .ok t ↔ s.Reread t))
      ∧ (∀ form before after, codec.write c = .obj (form :: (before ++ after)) → ∀ c',
        (codec.ofBytes (Text.bytes (Doc.obj (before ++ form :: after)).indented) = .ok c'
            ↔ codec.ofBytes (Text.bytes (codec.indentedText c)) = .ok c')
          ∧ (codec.ofBytes (Text.bytes (Doc.obj (before ++ form :: after)).compact) = .ok c'
            ↔ codec.ofBytes (Text.bytes (codec.indentedText c)) = .ok c'))
      ∧ ∀ bs bs' d before after before' after' trailing,
        readBytes bs = ⟨.obj (before ++ (some formatKey, d) :: after), trailing⟩ →
        readBytes bs' = ⟨.obj (before' ++ (some formatKey, d) :: after'), trailing⟩ →
        before ++ after = before' ++ after' →
        (codec.ofBytes bs).toOption = (codec.ofBytes bs').toOption := by
  refine ⟨?_, ?_, ?_, ?_, ?_⟩
  · rw [Codec.ofBytes_bytes, ofText_indentedText_iff]
    exact readsBack_iff_exact c
  · rw [Codec.ofBytes_bytes, Session.ofText_text_iff, s.reread_self_iff]
  · intro t
    rw [Codec.ofBytes_bytes, Codec.ofBytes_bytes, ofText_indentedText_iff, gives_plain_iff,
      Session.ofText_text_iff]
    exact ⟨Iff.rfl, Iff.rfl⟩
  · intro form before after hw c'
    obtain ⟨hindented, hcompact⟩ := ofText_moved_iff hw c'
    rw [Codec.ofBytes_bytes, Codec.ofBytes_bytes, Codec.ofBytes_bytes, hindented, hcompact,
      ofText_indentedText_iff]
    exact ⟨Iff.rfl, Iff.rfl⟩
  · intro bs bs' d before after before' after' trailing hbs hbs' h
    exact ofBytes_moved d h hbs hbs'

/--
All amounts of the session read back, but in the text that is written for it the expiry is
that of the next second.
-/
theorem not_decoded_as_written :
    Session.lateSpecimen.Faithful
      ∧ codec.ofBytes (Text.bytes (codec.indentedText (.plain .lateSpecimen)))
        ≠ .ok (.plain .lateSpecimen)
      ∧ codec.ofBytes (Text.bytes (codec.indentedText (.plain .lateSpecimen)))
        = .ok (.plain Session.lateRead) := by
  obtain ⟨hfaithful, hexact⟩ := Session.not_exact_lateSpecimen
  rw [Codec.ofBytes_bytes]
  refine ⟨hfaithful, fun h => hexact ?_, ?_⟩
  · rw [ofText_indentedText_iff, gives_plain_iff, Session.reread_self_iff] at h
    exact h
  · rw [ofText_indentedText_iff, gives_plain_iff]
    exact Session.reread_lateSpecimen

end Content
end Vault
end DealDesk
