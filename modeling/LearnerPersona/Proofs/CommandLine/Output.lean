import LearnerPersona.CommandLine
import LearnerPersona.Proofs.CommandLine.Options
import LearnerPersona.Proofs.Dimension.Lookup
import LearnerPersona.Proofs.Store.Cache
import LearnerPersona.Proofs.Success
import LearnerPersona.Proofs.Text.Bytes
import LearnerPersona.Proofs.Wire.RoundTrip

/-!
# What a command line prints

Whichever way a profile is found, what is printed is taken from one persona, the compiled
profile with the given texts in place of its own.  The prompt, each section and the whole
persona are told by different writers, and they all tell the same.
-/

namespace LearnerPersona

open LearnerPersona.Json LearnerPersona.Wire

/-! ## Members of a document -/

namespace Json

def Document.member? (key : String) : Document → Option Document
  | .object members _ =>
      (members.find? fun member => member.1.toKey.toOption = some key).map Prod.snd
  | _ => none

/-- The text that is found by following the keys. -/
def Document.textAt? : List String → Document → Option String
  | [], document => (document.toText .text).toOption
  | key :: keys, document => (document.member? key).bind (textAt? keys)

private theorem member?_document (key : String) (members : List (String × Json)) :
    (Json.object members).document.member? key = (members.lookup key).map document := by
  rw [document, Document.member?, memberDocuments_eq_map]
  induction members with
  | nil => rfl
  | cons member members ih =>
      rcases member with ⟨other, value⟩
      rw [List.map_cons, List.find?_cons]
      by_cases hkey : other = key
      · simp [memberDocument, toKey_document, hkey, Except.toOption]
      · have hother : (key == other) = false := by simp [Ne.symm hkey]
        simp only [memberDocument, toKey_document, Except.toOption, Option.some.injEq, hkey,
          decide_false, List.lookup_cons, hother]
        exact ih

private theorem textAt?_document (text : String) :
    (Json.string text).document.textAt? [] = some text := by
  rw [Document.textAt?, toText_document]
  rfl

end Json

/-! ## Written personas -/

theorem Persona.distinct_shape : Persona.shape.Distinct := by
  simp [shape, Sections.shape, Shape.Distinct, Fields.Distinct, Fields.keys]

theorem Sections.keys_eq_names : keys = Named.names SectionKey := rfl

theorem Sections.get?_name (sections : Sections) (key : SectionKey) :
    sections.get? (name key) = some (sections.block key) := by
  cases key <;> rfl

private theorem Sections.get?_eq_none {sections : Sections} {key : String}
    (h : key ∉ keys) : sections.get? key = none := by
  simp only [keys, List.mem_cons, List.not_mem_nil, or_false, not_or] at h
  unfold get?
  split <;> simp_all

private theorem Sections.lookup_toJson (sections : Sections) (key : SectionKey) :
    ((Sections.shape.toJson sections).document.member? (name key)) =
      some (Json.string (sections.block key)).document := by
  cases key <;> exact member?_document _ _

theorem Persona.textAt?_indented (persona : Persona) (key : SectionKey) :
    (Document.read (shape.toJson persona).indented).1.textAt? ["promptSections", name key] =
      some (persona.sections.block key) := by
  have hsections : (shape.toJson persona).document.member? "promptSections" =
      some (Sections.shape.toJson persona.sections).document :=
    member?_document _ _
  rw [read_indented, Document.textAt?, hsections, Option.bind_some, Document.textAt?,
    Sections.lookup_toJson, Option.bind_some, textAt?_document]

namespace CommandLine

variable {arguments : List String} {files : Files} {options : Options} {profile : Profile}

namespace Options

/-! ## Where the profile comes from -/

/-- The profile that a command line starts from: that of a file in the format that its name
tells, a seed of the archetype with the given name, or the default one. -/
inductive StartsFrom (options : Options) (files : Files) : Profile → Prop
  | file {path text : String} {profile : Profile} (hpath : options.profile? = some path)
      (hfile : files path = .ok text.toUTF8.toList)
      (hparse : File.parse (.ofPath path) text = .ok profile) : StartsFrom options files profile
  | archetype {preset : Preset} (hpath : options.profile? = none)
      (hname : options.archetype? = some (name preset)) :
      StartsFrom options files (preset.archetype.seed "")
  | default (hpath : options.profile? = none) (hname : options.archetype? = none) :
      StartsFrom options files (.blank "")

theorem load_eq_ok_iff {path : String} :
    File.load files path = .ok profile ↔
      ∃ text : String, files path = .ok text.toUTF8.toList ∧
        File.parse (.ofPath path) text = .ok profile := by
  have hdecode {bytes : List UInt8} {text : String} :
      File.decode bytes = .ok text ↔ bytes = text.toUTF8.toList := by
    rw [← Text.fromUTF8?_eq_some_iff, File.decode]
    cases String.fromUTF8? bytes.toByteArray <;> simp
  constructor
  · intro h
    obtain ⟨text, htext, hparse⟩ := bind_eq_ok_iff.mp h
    obtain ⟨bytes, hfile, hbytes⟩ := bind_eq_ok_iff.mp (mapError_eq_ok_iff.mp htext)
    exact ⟨text, by rw [hfile, hdecode.mp hbytes], hparse⟩
  · rintro ⟨text, hfile, hparse⟩
    refine bind_eq_ok_iff.mpr ⟨text, mapError_eq_ok_iff.mpr ?_, hparse⟩
    exact bind_eq_ok_iff.mpr ⟨_, hfile, hdecode.mpr rfl⟩

theorem baseProfile_eq_ok_iff :
    options.baseProfile files = .ok profile ↔ options.StartsFrom files profile := by
  constructor
  · intro h
    unfold baseProfile at h
    split at h
    next path hpath =>
      obtain ⟨text, hfile, hparse⟩ := load_eq_ok_iff.mp (mapError_eq_ok_iff.mp h)
      exact .file hpath hfile hparse
    next text hpath hname =>
      split at h
      next archetype hfind =>
        obtain ⟨preset, rfl, rfl⟩ := Archetype.find?_eq_some_iff.mp hfind
        cases h
        exact .archetype hpath hname
      next => cases h
    next hpath hname =>
      cases h
      exact .default hpath hname
  · intro h
    unfold baseProfile
    cases h with
    | file hpath hfile hparse =>
        rw [hpath]
        exact mapError_eq_ok_iff.mpr (load_eq_ok_iff.mpr ⟨_, hfile, hparse⟩)
    | @archetype preset hpath hname =>
        have hfind := Archetype.find?_eq_some_iff.mpr ⟨preset, rfl, rfl⟩
        simp [hpath, hname, hfind]
    | default hpath hname => simp [hpath, hname]

/-- A command line without a profile to start from is refused for its file or its name. -/
theorem baseProfile_eq_error {refusal : Refusal} (h : options.baseProfile files = .error refusal) :
    (∃ path failure, options.profile? = some path ∧ File.load files path = .error failure ∧
      refusal = .unreadableProfile path failure) ∨
    ∃ text, options.archetype? = some text ∧ (∀ preset : Preset, name preset ≠ text) ∧
      refusal = .unknownArchetype text := by
  unfold baseProfile at h
  split at h
  next path hpath =>
    obtain ⟨failure, hload, rfl⟩ := mapError_eq_error_iff.mp h
    exact .inl ⟨path, failure, hpath, hload, rfl⟩
  next text _ hname =>
    split at h
    next => cases h
    next hfind =>
      cases h
      refine .inr ⟨text, hname, fun preset hpreset => ?_, rfl⟩
      rw [Archetype.find?_eq_some_iff.mpr ⟨preset, hpreset, rfl⟩] at hfind
      cases hfind
  next => cases h

/-! ## The persona -/

/-- The profile with the texts that are given in place of its own. -/
def replaced (options : Options) (profile : Profile) : Profile :=
  { profile with
    name? := options.name?.orElse fun _ => profile.name?
    knowledge :=
      { profile.knowledge with
        domain := options.domain?.getD profile.knowledge.domain
        topic := options.topic?.getD profile.knowledge.topic
        misconceptions := options.misconceptions?.getD profile.knowledge.misconceptions } }

private theorem compile_of_base (h : options.baseProfile files = .ok profile) :
    options.compile files = .ok (options.replaced profile).compile := by
  have hcurrent : Store.Current { profile } := Store.current_of_none rfl
  have hcompiled := Store.compile_eq (Store.current_apply options.overrides hcurrent)
  rw [Store.profile_apply] at hcompiled
  rw [compile, h]
  exact congrArg Except.ok hcompiled

private theorem run_of_error {refusal : Refusal} (h : options.baseProfile files = .error refusal) :
    options.run files = .error refusal := by
  rw [run, compile, h]
  rfl

private theorem run_of_base (h : options.baseProfile files = .ok profile) :
    options.run files = options.render (options.replaced profile).compile := by
  rw [run, compile_of_base h]
  rfl

/-! ## Ways of printing -/

theorem isConsistent_of_ofArguments? (h : ofArguments? arguments = some options) :
    options.isConsistent := by
  rw [ofArguments?] at h
  obtain ⟨settings, -, hsettings⟩ := Option.bind_eq_some_iff.mp h
  obtain ⟨hflags, hoptions⟩ := Option.ite_none_right_eq_some.mp hsettings
  cases hoptions
  exact (by simpa using hflags : _ ∧ _).2

private theorem json_eq_false {key : String} (h : options.isConsistent)
    (hpart : options.part? = some key) :
    options.json = false := by
  simp_all [isConsistent]

private theorem isConsistent_part (h : options.isConsistent) (key : String) :
    ({ options with json := false, part? := some key } : Options).isConsistent := by
  simp_all [isConsistent]

private theorem render_part {key : String} {persona : Persona} (h : options.json = false)
    (hpart : options.part? = some key) :
    options.render persona =
      (persona.sections.get? key).elim (.error (.unknownSection key)) .ok := by
  rw [render, h, if_neg Bool.false_ne_true, hpart]
  cases h : persona.sections.get? key <;> simp [h]

end Options

private theorem run_of_ok {text : String} (hread : Options.ofArguments? arguments = some options)
    (h : options.run files = .ok text) : run arguments files = .printed (text ++ "\n") := by
  simp [run, hread, h]

private theorem run_of_error {refusal : Refusal}
    (hread : Options.ofArguments? arguments = some options)
    (h : options.run files = .error refusal) : run arguments files = .refused refusal := by
  simp [run, hread, h]

private theorem run_of_part {key : String} (hread : Options.ofArguments? arguments = some options)
    (hbase : options.baseProfile files = .ok profile) (hpart : options.part? = some key) :
    run arguments files =
      ((options.replaced profile).compile.sections.get? key).elim
        (.refused (.unknownSection key)) fun block => .printed (block ++ "\n") := by
  have hjson := Options.json_eq_false (Options.isConsistent_of_ofArguments? hread) hpart
  have hrun := Options.run_of_base hbase
  rw [Options.render_part hjson hpart] at hrun
  cases hget : (options.replaced profile).compile.sections.get? key with
  | none => exact run_of_error hread (by rw [hrun, hget]; rfl)
  | some block => exact run_of_ok hread (by rw [hrun, hget]; rfl)

/--
The profile comes from a file, an archetype or the defaults, and a command line is refused
if what it names there gives none.  What is printed is the persona of the profile with the
given texts replaced, whatever its identifier: its prompt, the section asked for, or the
whole of it as a document, in which each section is the text that is printed if one asks
for it.
-/
theorem run_prints_compiled (hread : Options.ofArguments? arguments = some options) :
    (∀ profile, options.baseProfile files = .ok profile ↔ options.StartsFrom files profile) ∧
    ((∀ profile, ¬ options.StartsFrom files profile) →
      (∃ path failure, options.profile? = some path ∧ File.load files path = .error failure ∧
        run arguments files = .refused (.unreadableProfile path failure)) ∨
      ∃ text, options.archetype? = some text ∧ (∀ preset : Preset, name preset ≠ text) ∧
        run arguments files = .refused (.unknownArchetype text)) ∧
    ∀ profile, options.StartsFrom files profile →
      let persona := (options.replaced profile).compile
      options.compile files = .ok persona ∧
      (∀ id, { options.replaced profile with id }.compile = persona) ∧
      (options.json = false → options.part? = none →
        run arguments files = .printed (persona.prompt ++ "\n")) ∧
      (∀ key ∈ Sections.keys, options.part? = some key →
        ∃ block, persona.sections.get? key = some block ∧
          run arguments files = .printed (block ++ "\n")) ∧
      (∀ key ∉ Sections.keys, options.part? = some key →
        run arguments files = .refused (.unknownSection key)) ∧
      (options.json = true →
        ∃ text, run arguments files = .printed (text ++ "\n") ∧
          Persona.shape.ofJson text = .ok persona ∧
          ∀ key ∈ Sections.keys, ∃ block,
            (Document.read text).1.textAt? ["promptSections", key] = some block ∧
            run ({ options with json := false, part? := some key } : Options).arguments files =
              .printed (block ++ "\n")) := by
  refine ⟨fun _ => Options.baseProfile_eq_ok_iff, fun hnone => ?refused,
    fun profile hstart => ?printed⟩
  case refused =>
    cases hbase : options.baseProfile files with
    | ok profile => exact absurd (Options.baseProfile_eq_ok_iff.mp hbase) (hnone profile)
    | error refusal =>
        have hrefused := run_of_error hread (Options.run_of_error hbase)
        rcases Options.baseProfile_eq_error hbase with
          ⟨path, failure, hpath, hload, rfl⟩ | ⟨text, hname, hunknown, rfl⟩
        · exact .inl ⟨path, failure, hpath, hload, hrefused⟩
        · exact .inr ⟨text, hname, hunknown, hrefused⟩
  case printed =>
    intro persona
    have hbase := Options.baseProfile_eq_ok_iff.mpr hstart
    have hrun : options.run files = options.render persona := Options.run_of_base hbase
    refine ⟨Options.compile_of_base hbase, fun _ => rfl, fun hjson hpart => ?prompt,
      fun key hkey hpart => ?part, fun key hkey hpart => ?unknown, fun hjson => ?document⟩
    case prompt =>
      apply run_of_ok hread
      rw [hrun, Options.render, hjson, hpart]
      rfl
    case part =>
      obtain ⟨found, -, rfl⟩ := List.mem_map.mp (Sections.keys_eq_names ▸ hkey)
      have hget := persona.sections.get?_name found
      refine ⟨_, hget, (run_of_part hread hbase hpart).trans ?_⟩
      rw [hget]
      rfl
    case unknown =>
      rw [run_of_part hread hbase hpart, Sections.get?_eq_none hkey]
      rfl
    case document =>
      refine ⟨(Persona.shape.toJson persona).indented, run_of_ok hread ?_,
        Persona.shape.ofJson_indented Persona.distinct_shape persona, fun key hkey => ?_⟩
      · rw [hrun, Options.render, if_pos hjson]
      · obtain ⟨found, -, rfl⟩ := List.mem_map.mp (Sections.keys_eq_names ▸ hkey)
        have hasks := Options.ofArguments?_arguments (Options.isConsistent_part
          (Options.isConsistent_of_ofArguments? hread) (name found))
        -- The ways of printing differ, the profile and the texts to replace do not.
        refine ⟨_, persona.textAt?_indented found,
          (@run_of_part _ files _ profile _ hasks hbase rfl).trans ?_⟩
        change (persona.sections.get? (name found)).elim _ _ = _
        rw [persona.sections.get?_name found]
        rfl

/-- An archetype whose domain is replaced by an odd text, printed as a document. -/
theorem run_prints_compiled_odd_domain :
    let arguments := ["--archetype=silent-struggler", "--domain=\"\n\x7bé\x7d=", "--json"]
    let files : Files := fun _ => .error .missing
    let options : Options :=
      { archetype? := some "silent-struggler", domain? := some "\"\n\x7bé\x7d=", json := true }
    let profile := Preset.silentStruggler.archetype.seed ""
    Options.ofArguments? arguments = some options ∧ options.StartsFrom files profile ∧
    ∃ text, run arguments files = .printed (text ++ "\n") ∧
      Persona.shape.ofJson text =
        .ok { profile with knowledge := { domain := "\"\n\x7bé\x7d=" } }.compile := by
  intro arguments files options profile
  have hread : Options.ofArguments? arguments = some options := by decide +kernel
  have hstart : options.StartsFrom files profile := .archetype rfl rfl
  obtain ⟨-, -, hprints⟩ := @run_prints_compiled _ files _ hread
  obtain ⟨text, hrun, htext, -⟩ := (hprints profile hstart).2.2.2.2.2 rfl
  exact ⟨hread, hstart, text, hrun, htext⟩

end CommandLine

end LearnerPersona
