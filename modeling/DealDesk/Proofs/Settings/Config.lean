import DealDesk.Proofs.Disk.Files
import DealDesk.Proofs.Json.Members
import DealDesk.Proofs.Json.Rereading
import DealDesk.Settings.Config

/-!
# Settings in files

Every field of the settings may be left out of their file, and a field that is there stands
at any place in it, among others that mean nothing.  What is loaded has the fields of the file
and is otherwise the standard.  A file that settings were saved into has all of them, so it
gives the settings back, and it depends on the disk alone whether they can be saved.

**Results.** `ofText_of_holds`: the settings in a text that holds some of the fields.
`load_of_save`: saved settings are loaded again.  `config_from_file`: both of files, and texts
that hold the fields.
-/

namespace DealDesk

namespace Json

theorem Codec.plain_textAs (wanted : String) : (Codec.textAs wanted).Plain where
  readsBack := Codec.readsBack_textAs wanted
  legible := fun _ _ => rfl
  not_null := by rintro _ ⟨⟩

/-- A field with a default takes its value if it is chosen, and the default if not. -/
theorem Field.takes_withDefault
    {α : Type} (chosen : String → Bool) (key : String) {c : Codec α} (u : α) {v : α}
    (h : c.ReadsBack v) :
    if chosen (Field.withDefault key c u).key then
      (Field.withDefault key c u).codec.Gives v (if chosen key then v else u)
    else (Field.withDefault key c u).ifAbsent = some (if chosen key then v else u) := by
  have hkey : (Field.withDefault key c u).key = key := rfl
  rw [hkey]
  cases hchosen : chosen key with
  | true => exact h
  | false => rfl

theorem Fields.legible_entries
    {τ σ : Type} {fs : Fields τ σ} {depth : Nat} (h : fs.AllLegible depth) (v : τ) :
    ∀ m ∈ fs.entries v, m.2.isLegible Numeral.isProper depth = true := by
  induction fs with
  | nil => exact fun m hm => absurd hm List.not_mem_nil
  | cons f rest ih =>
      obtain ⟨hhead, htail⟩ := h
      exact List.forall_mem_cons.2 ⟨hhead v.1, ih htail v.2⟩

theorem membersLegible_spelled
    {ok : Numeral → Bool} {depth : Nat} {ms : List (String × Doc)}
    (h : ∀ m ∈ ms, m.2.isLegible ok depth = true) :
    Doc.membersLegible ok (spelled ms) depth = true := by
  induction ms with
  | nil => rfl
  | cons m ms ih =>
      obtain ⟨hhead, htail⟩ := List.forall_mem_cons.1 h
      rw [spelled, List.map_cons, Doc.membersLegible, ← spelled, ih htail, Bool.and_true]
      exact hhead

end Json

namespace Disk

theorem isThere_of_read
    {d : Disk} {p : Path} {content : List UInt8} (h : d.read p = .ok content) :
    d.isThere p = true := by
  obtain ⟨hl, hb⟩ := (read_eq_ok_iff d p content).1 h
  obtain ⟨mode, hn⟩ := (bytes?_eq_some_iff d _ content).1 hb
  simp only [isThere, hl, hn]
  rfl

/-- Whether a file can be written does not depend on what is written. -/
theorem write_alike (d : Disk) (p : Path) (a b : List UInt8) :
    (∃ e, d.write p a = .error e ∧ d.write p b = .error e)
      ∨ (∃ d', d.write p a = .ok d') ∧ ∃ d', d.write p b = .ok d' := by
  simp only [write]
  cases d.locate p with
  | error e =>
      cases d.endsBehindName p with
      | true => exact .inl ⟨_, rfl, rfl⟩
      | false => exact .inl ⟨_, rfl, rfl⟩
  | ok spot =>
      cases p.wantsFolder with
      | true => exact .inl ⟨_, rfl, rfl⟩
      | false =>
          simp only [Bool.false_eq_true, if_false]
          cases d.node? spot with
          | none =>
              dsimp only
              cases d.node? spot.dropLast with
              | none => exact .inl ⟨_, rfl, rfl⟩
              | some n =>
                  cases n with
                  | file content mode => exact .inl ⟨_, rfl, rfl⟩
                  | folder mode => exact .inr ⟨⟨_, rfl⟩, _, rfl⟩
          | some n =>
              cases n with
              | file content mode => exact .inr ⟨⟨_, rfl⟩, _, rfl⟩
              | folder mode => exact .inl ⟨_, rfl, rfl⟩

end Disk

namespace Settings

theorem CacheMode.plain : CacheMode.codec.Plain :=
  Json.Codec.plain_named CacheMode.find?_name

end Settings

namespace Config

open Json Settings

/-- The values of the settings in the order of their fields. -/
def values (c : Config) :=
  (c.baseUrl, c.identifier, c.cache, c.cachePath, c.lifetime, c.margin, ())

/-- The standard settings, with the chosen fields of others in their places. -/
def selected (c : Config) (chosen : String → Bool) : Config where
  baseUrl := if chosen "base_url" then c.baseUrl else standard.baseUrl
  identifier := if chosen "identifier" then c.identifier else standard.identifier
  cache := if chosen "cache" then c.cache else standard.cache
  cachePath := if chosen "cache_path" then c.cachePath else standard.cachePath
  lifetime := if chosen "session_lifetime_minutes" then c.lifetime else standard.lifetime
  margin := if chosen "expiry_margin_seconds" then c.margin else standard.margin

theorem keys_eq :
    fields.keys = ["base_url", "identifier", "cache", "cache_path", "session_lifetime_minutes",
      "expiry_margin_seconds"] := rfl

theorem distinct_keys : fields.keys.Nodup := by
  decide

theorem fields_legible (depth : Nat) : fields.AllLegible depth := by
  have hmode := CacheMode.plain.legible depth
  have hpath := (Codec.plain_textAs "path string").legible depth
  simp [fields, Fields.AllLegible, Field.withDefault, hmode, hpath]

theorem takes_selected (c : Config) (chosen : String → Bool) :
    fields.Takes chosen c.values (c.selected chosen).values :=
  ⟨Field.takes_withDefault chosen _ _ (Codec.readsBack_string _),
    Field.takes_withDefault chosen _ _ (Codec.readsBack_optional_string _),
    Field.takes_withDefault chosen _ _ (CacheMode.plain.readsBack _),
    Field.takes_withDefault chosen _ _
      (Codec.readsBack_optional (Codec.plain_textAs _).not_null
        (Codec.plain_textAs _).readsBack _),
    Field.takes_withDefault chosen _ _ (Codec.readsBack_int64 _),
    Field.takes_withDefault chosen _ _ (Codec.readsBack_int64 _), trivial⟩

/-- The settings in an object that holds some of the fields. -/
theorem read_of_holds
    {c : Config} {chosen : String → Bool} {ms : List (String × Doc)}
    (h : fields.Holds chosen c.values ms) :
    codec.read (.obj (spelled ms)) = .ok (c.selected chosen) := by
  have hsound : ∀ m ∈ fields.entries c.values, m.2.isSound = true := fun m hm =>
    Doc.isSound_of_isLegible (Fields.legible_entries (fields_legible 0) c.values m hm)
  have hgathered := (Fields.gathered_iff_takes distinct_keys hsound h _).2 (takes_selected c chosen)
  have hread : codec.read (.obj (spelled ms))
      = (fields.read "struct Config" (.obj (spelled ms))).map _ := rfl
  rw [hread, Fields.read_obj, hgathered]
  rfl

/-- The settings in a text that holds some of the fields. -/
theorem ofText_of_holds
    {c : Config} {chosen : String → Bool} {ms : List (String × Doc)}
    (h : fields.Holds chosen c.values ms) {s : String}
    (hs : readText s = ⟨.obj (spelled ms), false⟩) :
    codec.ofText s = .ok (c.selected chosen) := by
  rw [Codec.ofText, hs, Codec.ofReading_eq_ok_iff]
  exact read_of_holds h

/-- Members that hold some of the fields have a text, if the others among them have. -/
theorem legible_of_holds
    {c : Config} {chosen : String → Bool} {ms : List (String × Doc)}
    (h : fields.Holds chosen c.values ms) {depth : Nat}
    (hothers : ∀ m ∈ ms, m.1 ∉ fields.keys → m.2.isLegible Numeral.isProper depth = true) :
    (Doc.obj (spelled ms)).isLegible Numeral.isProper (depth + 1) = true := by
  refine membersLegible_spelled fun m hm => ?_
  by_cases hkey : m.1 ∈ fields.keys
  · have hmem := h.known.mem_iff.1 (List.mem_filter.2 ⟨hm, decide_eq_true hkey⟩)
    exact Fields.legible_entries (fields_legible depth) c.values m (List.mem_filter.1 hmem).1
  · exact hothers m hm hkey

/-- The settings in the text of a file are those that are loaded. -/
theorem load_of_read
    {d : Disk} {path : Disk.Path} {s : String} (hread : d.read path = .ok (Text.bytes s))
    {c : Config} (h : codec.ofText s = .ok c) :
    load d path = .ok c := by
  simp only [load, Disk.isThere_of_read hread, if_true, hread, Text.ofBytes?_bytes, h]

/-- What is written for settings is read as those settings. -/
theorem ofText_indentedText (c : Config) : codec.ofText (codec.indentedText c) = .ok c := by
  have hwrite : codec.write c = .obj (spelled (fields.entries c.values)) := rfl
  have hlegible : (codec.write c).isLegible Numeral.isProper 1 = true := by
    rw [hwrite]
    exact membersLegible_spelled (Fields.legible_entries (fields_legible 0) c.values)
  rw [Codec.ofText_indentedText_iff Numeral.wellFormed_of_isProper hlegible, Codec.Gives, hwrite]
  exact read_of_holds (fields.holds_entries c.values)

/-- Settings that were saved are loaded again. -/
theorem load_of_save
    {c : Config} {d d' : Disk} {path : Disk.Path} (h : c.save d path = (.ok (), d')) :
    load d' path = .ok c := by
  refine load_of_read ?_ c.ofText_indentedText
  rw [save] at h
  cases hmade : d.makeFolders ((path.parent?).getD ⟨""⟩) with
  | mk result made =>
      rw [hmade] at h
      cases result with
      | error e => cases h
      | ok u =>
          simp only at h
          cases hwritten : made.write path (Text.bytes (codec.indentedText c)) with
          | error e =>
              rw [hwritten] at h
              cases h
          | ok written =>
              rw [hwritten] at h
              cases h
              exact Disk.read_of_write hwritten

/-- Whether settings can be saved does not depend on them. -/
theorem save_alike (c c' : Config) (d : Disk) (path : Disk.Path) :
    (c.save d path).1 = (c'.save d path).1 := by
  rw [save, save]
  cases d.makeFolders ((path.parent?).getD ⟨""⟩) with
  | mk result made =>
      cases result with
      | error e => rfl
      | ok u =>
          simp only
          rcases made.write_alike path (Text.bytes (codec.indentedText c))
            (Text.bytes (codec.indentedText c')) with ⟨e, he, he'⟩ | ⟨⟨d', hd'⟩, d'', hd''⟩
          · rw [he, he']
          · rw [hd', hd'']

/--
Members that hold some of the fields of settings, in any order and with any others between them,
are the members of an object from whose text, in any layout, the standard settings are loaded
with those fields in their places; the printed text of the object is one.  Settings that were
saved are loaded again, and whether they can be saved depends on the disk alone.
-/
theorem config_from_file :
    (∀ (c : Config) (chosen : String → Bool) (ms : List (String × Doc)),
      fields.Holds chosen c.values ms →
        (∀ s, readText s = ⟨.obj (spelled ms), false⟩ →
          ∀ (d : Disk) (path : Disk.Path), d.read path = .ok (Text.bytes s) →
            load d path = .ok (c.selected chosen))
        ∧ ∀ depth, (∀ m ∈ ms, m.1 ∉ fields.keys → m.2.isLegible Numeral.isProper depth = true) →
          readText (Doc.obj (spelled ms)).compact = ⟨.obj (spelled ms), false⟩
            ∧ readText (Doc.obj (spelled ms)).indented = ⟨.obj (spelled ms), false⟩)
      ∧ (∀ (c : Config) (d d' : Disk) (path : Disk.Path), c.save d path = (.ok (), d') →
        load d' path = .ok c)
      ∧ ∀ (c c' : Config) (d : Disk) (path : Disk.Path),
        (c.save d path).1 = (c'.save d path).1 := by
  refine ⟨fun c chosen ms h => ⟨fun s hs d path hread => ?_, fun depth hothers => ?_⟩,
    fun c d d' path => load_of_save, save_alike⟩
  · exact load_of_read hread (ofText_of_holds h hs)
  · have hlegible := legible_of_holds h hothers
    exact ⟨readText_compact Numeral.wellFormed_of_isProper hlegible,
      readText_indented Numeral.wellFormed_of_isProper hlegible⟩

/-- Settings that differ from the standard in three fields. -/
def savedSpecimen : Config :=
  { standard with baseUrl := "https://gateway", cache := .memory, margin := 5 }

/-- Two of the fields, with a member between and around them that nobody knows. -/
def memberSpecimen : List (String × Doc) :=
  [("x", .arr [.null]), ("expiry_margin_seconds", Codec.int64.write 5), ("x", .bool true),
    ("cache", CacheMode.codec.write .memory)]

/-- The fields of the specimen. -/
def chosenSpecimen (key : String) : Bool :=
  key = "cache" || key = "expiry_margin_seconds"

theorem holds_specimen : fields.Holds chosenSpecimen savedSpecimen.values memberSpecimen where
  known := by
    have hentries : (fields.entries savedSpecimen.values).filter (fun m => chosenSpecimen m.1)
        = [("cache", CacheMode.codec.write .memory),
          ("expiry_margin_seconds", Codec.int64.write 5)] := by
      simp [fields, Fields.entries, values, chosenSpecimen, savedSpecimen, Field.withDefault]
    have hknown : memberSpecimen.filter (fun m => m.1 ∈ fields.keys)
        = [("expiry_margin_seconds", Codec.int64.write 5),
          ("cache", CacheMode.codec.write .memory)] := by
      simp [memberSpecimen, keys_eq]
    rw [hentries, hknown]
    exact List.Perm.swap _ _ []
  unknown := by
    simp [memberSpecimen, keys_eq, Doc.isSound, Doc.areSound]

/-- A file with two of the fields among others, and one that the specimen was saved into. -/
theorem config_from_file_specimen :
    (∃ d : Disk,
      d.read ⟨"c.json"⟩ = .ok (Text.bytes (Doc.obj (spelled memberSpecimen)).indented)
        ∧ load d ⟨"c.json"⟩ = .ok { standard with cache := .memory, margin := 5 })
      ∧ ∃ d, savedSpecimen.save ⟨[], []⟩ ⟨"c.json"⟩ = (.ok (), d)
        ∧ load d ⟨"c.json"⟩ = .ok savedSpecimen := by
  obtain ⟨hfile, hsaved, -⟩ := config_from_file
  obtain ⟨hload, hprinted⟩ := hfile savedSpecimen chosenSpecimen memberSpecimen holds_specimen
  constructor
  · have hlegible : ∀ m ∈ memberSpecimen, m.1 ∉ fields.keys →
        m.2.isLegible Numeral.isProper 1 = true := by
      simp [memberSpecimen, keys_eq, Doc.isLegible, Doc.areLegible]
    rcases Disk.write_alike ⟨[], []⟩ ⟨"c.json"⟩ []
      (Text.bytes (Doc.obj (spelled memberSpecimen)).indented) with ⟨e, he, -⟩ | ⟨-, d, hd⟩
    · have hwritten : ((⟨[], []⟩ : Disk).write ⟨"c.json"⟩ []).toOption.isSome = true := by
        decide +kernel
      rw [he] at hwritten
      cases hwritten
    · have hread := Disk.read_of_write hd
      exact ⟨d, hread, hload _ (hprinted 1 hlegible).2 d _ hread⟩
  · have hsave : (savedSpecimen.save ⟨[], []⟩ ⟨"c.json"⟩).1.toOption = some () := by
      decide +kernel
    cases h : savedSpecimen.save ⟨[], []⟩ ⟨"c.json"⟩ with
    | mk result d =>
        rw [h] at hsave
        cases result with
        | error e => cases hsave
        | ok u => exact ⟨d, rfl, hsaved savedSpecimen ⟨[], []⟩ d ⟨"c.json"⟩ h⟩

end Config
end DealDesk
