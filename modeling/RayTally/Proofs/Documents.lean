import RayTally.Proofs.Json.RoundTrip
import RayTally.Proofs.Json.Shapes
import RayTally.Proofs.Text.Encoding
import RayTally.Proofs.Yaml.Mappings
import RayTally.Settings.Json
import RayTally.Settings.Yaml
import RayTally.Tally.Json

/-!
# Tallies and settings as documents

What is written into a document is read out of it again. A tally has a document always, and settings
have one if the path of the export is a text, since paths are bytes and documents are characters.

## Main results

* `Tally.ofText_text_toJson`, `Tally.ofJson_toJson`: tallies as JSON.
* `Settings.exists_toJson`, `Settings.toJson_of_not_hasText`: settings as JSON.
* `json_documents`: both, with settings kept apart by their texts.
* `Settings.exists_toYaml`, `Settings.toYaml_of_not_hasText`: settings as YAML.
* `yaml_documents`: settings read back from YAML, whatever their path.
-/

namespace RayTally

open Json (Exact)

/-! ### Tallies as JSON -/

namespace Tally

/-- The values of a tally, in export order. -/
theorem map_entries (t : Tally) : t.entries.map Prod.snd = t.values.toList := by
  obtain ⟨⟨⟨ns⟩, hsize⟩⟩ := t
  match ns, hsize with
  | [_, _, _, _, _, _, _, _, _, _, _, _], _ => rfl

theorem toJson_eq (t : Tally) :
    t.toJson = .object [("values".toList, .array (t.values.toList.map .unsigned))] := by
  rw [toJson, ← map_entries, List.map_map]
  rfl

/-- **The document of a tally** holds its values as they are. -/
theorem ofText_text_toJson (t : Tally) : Json.ofText t.toJson.text = .ok t.toJson := by
  refine Json.ofText_text ?_
  rw [toJson_eq]
  refine .object (List.pairwise_singleton _ _) (List.forall_mem_singleton.mpr ?_)
  refine .array fun v hv => ?_
  obtain ⟨n, -, rfl⟩ := List.mem_map.mp hv
  exact .unsigned _ n

/-- **A tally is read** from its JSON. -/
theorem ofJson_toJson (t : Tally) : ofJson t.toJson = .ok t := by
  rw [toJson_eq, ofJson_eq_ok_iff]
  exact .object rfl

end Tally

/-! ### Settings as JSON -/

namespace Settings

variable {s : Settings}

/-- The path of the export, if there is one, **is a text**. -/
def HasText (s : Settings) : Prop := ∀ p ∈ s.outputPath, ∃ cs, Utf8.encode cs = p.bytes

theorem text?_of_encode {p : Path} {cs : List Char} (h : Utf8.encode cs = p.bytes) :
    p.text? = some cs := Utf8.decode_eq_some_iff.mpr h

/-- The path is a text, or some other path whose bytes are no text. -/
theorem text?_of_not_hasText (hs : ¬s.HasText) : ∃ p, s.outputPath = some p ∧ p.text? = none := by
  obtain ⟨p, hp⟩ := not_forall.mp hs
  obtain ⟨hpath, hno⟩ := Classical.not_imp.mp hp
  refine ⟨p, hpath, Option.eq_none_iff_forall_ne_some.mpr fun cs hcs => ?_⟩
  exact hno ⟨cs, Utf8.decode_eq_some_iff.mp hcs⟩

/-- The path is a string of its characters. -/
theorem toJson_some (enabled : Bool) {p : Path} {cs : List Char} (h : Utf8.encode cs = p.bytes) :
    toJson ⟨enabled, some p⟩ =
      .ok (.object [("enabled".toList, .boolean enabled), ("output_path".toList, .string cs)]) := by
  simp only [toJson, text?_of_encode h]

theorem exact_members {depth : Nat} {v : Json} (enabled : Bool) (hv : Exact depth v) :
    Exact (depth + 1)
      (.object [("enabled".toList, .boolean enabled), ("output_path".toList, v)]) := by
  have hordered : "enabled".toList < "output_path".toList := by decide
  refine .object (List.pairwise_pair.mpr hordered) (List.forall_mem_cons.mpr ⟨.boolean _ _, ?_⟩)
  exact List.forall_mem_singleton.mpr hv

/-- **Settings are read from their JSON**, if they have one, and its text holds them as they are. -/
theorem exists_toJson (hs : s.HasText) :
    ∃ v, s.toJson = .ok v ∧ Json.ofText v.text = .ok v ∧ ofJson v = .ok s := by
  obtain ⟨enabled, path⟩ := s
  cases path with
  | none => exact ⟨_, rfl, Json.ofText_text (exact_members enabled (.null _)), rfl⟩
  | some p =>
    obtain ⟨cs, hcs⟩ := hs p rfl
    refine ⟨_, toJson_some enabled hcs, Json.ofText_text (exact_members enabled (.string _ cs)), ?_⟩
    have hpath : p = ⟨Utf8.encode cs⟩ := by rw [hcs]
    rw [hpath]
    rfl

/-- A path that is no text cannot be written. -/
theorem toJson_of_not_hasText (hs : ¬s.HasText) : s.toJson = .error .notUtf8 := by
  obtain ⟨p, hpath, htext⟩ := text?_of_not_hasText hs
  simp only [toJson, hpath, htext]

/-- Settings have JSON exactly if their path is a text. -/
theorem hasText_of_toJson {v : Json} (hv : s.toJson = .ok v) : s.HasText := by
  by_contra hs
  rw [toJson_of_not_hasText hs] at hv
  cases hv

end Settings

/-- **Tallies and settings read back from their JSON documents.**

* The document of a tally is read exactly, and holds the tally.
* Settings have a document if their path is a text, or if they have none; it is read exactly, and
  holds the settings.
* Settings with the same document are the same. So no path, an empty one and one that is called
  `null` are kept apart.
* Settings whose path is no text have no document. -/
theorem json_documents :
    (∀ t : Tally, Json.ofText t.toJson.text = .ok t.toJson ∧ Tally.ofJson t.toJson = .ok t) ∧
      (∀ s : Settings, s.HasText →
        ∃ v, s.toJson = .ok v ∧ Json.ofText v.text = .ok v ∧ Settings.ofJson v = .ok s) ∧
      (∀ (s s' : Settings) (v v' : Json), s.toJson = .ok v → s'.toJson = .ok v' →
        v.text = v'.text → s = s') ∧
      ∀ s : Settings, ¬s.HasText → s.toJson = .error .notUtf8 := by
  refine ⟨fun t => ⟨t.ofText_text_toJson, t.ofJson_toJson⟩, fun s => Settings.exists_toJson, ?_,
    fun s => Settings.toJson_of_not_hasText⟩
  intro s s' v v' hv hv' htext
  obtain ⟨w, hw, hread, hof⟩ := Settings.exists_toJson (Settings.hasText_of_toJson hv)
  obtain ⟨w', hw', hread', hof'⟩ := Settings.exists_toJson (Settings.hasText_of_toJson hv')
  obtain rfl : v = w := Except.ok.inj (hv.symm.trans hw)
  obtain rfl : v' = w' := Except.ok.inj (hv'.symm.trans hw')
  rw [htext, hread'] at hread
  obtain rfl : v' = v := Except.ok.inj hread
  exact Except.ok.inj (hof.symm.trans hof')

/-- Settings whose path is a quote, a backslash, a control and a character of four bytes. -/
def escapedSettings : Settings := ⟨true, some (.ofString "\"\\\x01😀")⟩

/-- Three of the characters are escaped, each in its way. -/
theorem json_documents_escaped :
    escapedSettings.HasText ∧
      ∃ v, escapedSettings.toJson = .ok v ∧
        v.text =
          "\x7b\"enabled\":true,\"output_path\":\"\\\"\\\\\\u0001😀\"\x7d".toList ∧
        Json.ofText v.text = .ok v ∧ Settings.ofJson v = .ok escapedSettings := by
  have htext : escapedSettings.HasText := by
    rintro p ⟨⟩
    exact ⟨_, rfl⟩
  have hwritten : escapedSettings.toJson = .ok (.object [("enabled".toList, .boolean true),
      ("output_path".toList, .string "\"\\\x01😀".toList)]) := Settings.toJson_some true rfl
  obtain ⟨v, hv, hread, hof⟩ := json_documents.2.1 escapedSettings htext
  refine ⟨htext, v, hv, ?_, hread, hof⟩
  obtain rfl := Except.ok.inj (hwritten.symm.trans hv)
  rfl

/-! ### Settings as YAML -/

namespace Settings

open Yaml Yaml.Printer

variable {s : Settings}

/-- A text that stands for itself when it is plain does not stand for nothing. -/
theorem not_null_of_standsForItself {cs : List Char} (hcs : standsForItself cs = true) :
    (cs.isEmpty || Plain.isNull cs) = false := by
  rw [Bool.eq_false_iff]
  intro hnull
  have hresolve : Plain.resolve cs = .nothing := by rw [Plain.resolve, if_pos hnull]
  rw [standsForItself, hresolve, Bool.and_false] at hcs
  cases hcs

/-- **A text is a path** in the style it is written in. -/
theorem isNoPath_style (cs : List Char) : isNoPath ⟨cs, style cs, none⟩ = .ok false := by
  have hstyled := styled_style cs
  generalize style cs = st at hstyled
  cases hstyled with
  | plain hcs =>
    obtain ⟨c, ds, rfl, htext⟩ := exists_plainText hcs
    exact congrArg Except.ok (not_null_of_standsForItself htext.standsForItself)
  | singleQuoted => rfl
  | doubleQuoted => rfl
  | literal => rfl

/-- The name of a boolean. -/
def booleanName (b : Bool) : List Char := (if b then "true" else "false").toList

theorem isKey_booleanName (b : Bool) : IsKey (booleanName b) := by
  cases b <;> decide

theorem readEntry_enabled (d : Document) (start m m' : Mark) (b : Bool) :
    readEntry d start {} (.scalar m ⟨"enabled".toList, .plain, none⟩)
      (.scalar m' ⟨booleanName b, .plain, none⟩) = .ok { enabled := some b } := by
  cases b <;> rfl

/-- The path is what its scalar stands for. -/
theorem readEntry_outputPath {style : Style} {cs : List Char} {isNone : Bool}
    (hpath : isNoPath ⟨cs, style, none⟩ = .ok isNone) (d : Document) (start m m' : Mark)
    (enabled : Option Bool) :
    readEntry d start ⟨enabled, none⟩ (.scalar m ⟨"output_path".toList, .plain, none⟩)
        (.scalar m' ⟨cs, style, none⟩) =
      .ok ⟨enabled, some (if isNone then none else some ⟨Utf8.encode cs⟩)⟩ := by
  have hread (part : Part) : readOutputPath d start part (.scalar m' ⟨cs, style, none⟩) =
      .ok (if isNone then none else some ⟨Utf8.encode cs⟩) := by
    simp only [readOutputPath, headOf, hpath]
    cases isNone <;> rfl
  change (readOutputPath d start (.valueOf _) _).map _ = _
  rw [hread]
  rfl

/-- **The two entries** hold what their values stand for. -/
theorem ofYaml_entries (enabled : Bool) {value cs : List Char} {style : Style} {isNone : Bool}
    (hvalue : Lexer.ReadsAs value (.scalar style cs)) (hallowed : ∀ c ∈ value, isAllowed c = true)
    (hpath : isNoPath ⟨cs, style, none⟩ = .ok isNone) :
    ofYaml (entry "enabled" (booleanLine enabled) ++ entry "output_path" value) =
      .ok ⟨enabled, if isNone then none else some ⟨Utf8.encode cs⟩⟩ := by
  have henabled : IsKey "enabled".toList := by decide
  have houtput : IsKey "output_path".toList := by decide
  obtain ⟨m, ns, hns, hdocument⟩ := Document.ofText_entries henabled (isKey_booleanName enabled)
    houtput hvalue hallowed
  obtain _ | ⟨⟨m₁, m₂, rfl⟩, _ | ⟨⟨m₃, m₄, rfl⟩, ⟨⟩⟩⟩ := hns
  change Document.ofText (entry "enabled" (booleanLine enabled) ++ _) = _ at hdocument
  rw [ofYaml, hdocument]
  change (ofEntries _ m {} _).mapError _ = _
  rw [ofEntries, readEntry_enabled]
  dsimp only
  rw [ofEntries, readEntry_outputPath hpath]
  rfl

/-- The path is written as a value of its characters. -/
theorem toYaml_some (enabled : Bool) {p : Path} {cs : List Char} (h : Utf8.encode cs = p.bytes) :
    toYaml ⟨enabled, some p⟩ = .ok (entry "enabled" (booleanLine enabled) ++
      entry "output_path" (line cs)) := by
  simp only [toYaml, text?_of_encode h]

/-- **Settings are read from their YAML**, if they have one. -/
theorem exists_toYaml (hs : s.HasText) : ∃ text, s.toYaml = .ok text ∧ ofYaml text = .ok s := by
  obtain ⟨enabled, path⟩ := s
  cases path with
  | none =>
    have hnull : IsKey "null".toList := by decide
    have hallowed : ∀ c ∈ nullLine, isAllowed c = true := List.all_eq_true.mp rfl
    exact ⟨_, rfl, ofYaml_entries enabled (Lexer.readsAs_name hnull) hallowed rfl⟩
  | some p =>
    obtain ⟨cs, hcs⟩ := hs p rfl
    have hpath : p = ⟨Utf8.encode cs⟩ := by rw [hcs]
    refine ⟨_, toYaml_some enabled hcs, ?_⟩
    rw [ofYaml_entries enabled (Lexer.readsAs_line cs) (isAllowed_line cs) (isNoPath_style cs),
      hpath]
    rfl

/-- A path that is no text cannot be written. -/
theorem toYaml_of_not_hasText (hs : ¬s.HasText) : s.toYaml = .error .notUtf8 := by
  obtain ⟨p, hpath, htext⟩ := text?_of_not_hasText hs
  simp only [toYaml, hpath, htext]

/-- Settings have YAML only if their path is a text. -/
theorem hasText_of_toYaml {text : List Char} (htext : s.toYaml = .ok text) : s.HasText := by
  by_contra hs
  rw [toYaml_of_not_hasText hs] at htext
  cases htext

end Settings

/-- **Settings read back from their YAML.**

* Settings have a document if their path is a text, whatever its characters, or if they have none;
  the document holds the settings.
* What a document was written for and what is read from it have the same path, or both have none.
* Settings whose path is no text have no document, for which there are words. -/
theorem yaml_documents :
    (∀ s : Settings, s.HasText → ∃ text, s.toYaml = .ok text ∧ Settings.ofYaml text = .ok s) ∧
      (∀ (s s' : Settings) (text : List Char), s.toYaml = .ok text →
        Settings.ofYaml text = .ok s' → s'.outputPath = s.outputPath) ∧
      ∀ s : Settings, ¬s.HasText →
        s.toYaml.mapError PathError.message = .error "path contains invalid UTF-8 characters" := by
  refine ⟨fun s => Settings.exists_toYaml, ?_, fun s hs => ?_⟩
  · intro s s' text htext hread
    obtain ⟨written, hwritten, hof⟩ := Settings.exists_toYaml (Settings.hasText_of_toYaml htext)
    obtain rfl : text = written := Except.ok.inj (htext.symm.trans hwritten)
    rw [Except.ok.inj (hread.symm.trans hof)]
  · rw [Settings.toYaml_of_not_hasText hs]
    rfl

/-- Settings whose path looks like lines of a document, with blanks before and breaks behind. -/
def linedSettings : Settings := ⟨false, some (.ofString "\n - null: 'x' # é\n~\n\n")⟩

/-- Settings whose path starts with a byte that starts no character. -/
def bytesSettings : Settings := ⟨true, some ⟨[0xFF, 0x2F]⟩⟩

/-- The path becomes a block that tells its indentation and keeps its last breaks. Bytes that are no
text are refused. -/
theorem yaml_documents_lined :
    linedSettings.HasText ∧
      (∃ text, linedSettings.toYaml = .ok text ∧
        text = "enabled: false\noutput_path: |2+\n\n   - null: 'x' # é\n  ~\n\n".toList ∧
        Settings.ofYaml text = .ok linedSettings) ∧
      ¬bytesSettings.HasText ∧
      bytesSettings.toYaml.mapError PathError.message =
        .error "path contains invalid UTF-8 characters" := by
  have htext : linedSettings.HasText := by
    rintro p ⟨⟩
    exact ⟨_, rfl⟩
  have hno : ¬bytesSettings.HasText := by
    intro hs
    obtain ⟨cs, hcs⟩ := hs _ rfl
    have hnone : Utf8.decode [0xFF, 0x2F] = none := by decide +kernel
    rw [Utf8.decode_eq_some_iff.mpr hcs] at hnone
    cases hnone
  have hwritten := Settings.toYaml_some false (p := .ofString "\n - null: 'x' # é\n~\n\n") rfl
  obtain ⟨text, hto, hof⟩ := yaml_documents.1 linedSettings htext
  refine ⟨htext, ⟨text, hto, ?_, hof⟩, hno, yaml_documents.2.2 bytesSettings hno⟩
  obtain rfl := Except.ok.inj (hwritten.symm.trans hto)
  rfl

end RayTally
