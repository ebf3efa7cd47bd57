import LearnerPersona.CommandLine.Options
import Mathlib.Data.List.Basic

/-!
# Options written out and read back

Every option can be spelled as one argument, with its value behind an equals sign.  The
value may be any text: nothing in it is taken for an option or for the end of one.
-/

namespace LearnerPersona.CommandLine

/-! ## One argument -/

theorem Flag.ofLongName?_longName (flag : Flag) :
    ofLongName? flag.longName.toList = some flag := by
  cases flag <;> decide

theorem Flag.mem_all (flag : Flag) : flag ∈ all := by
  cases flag <;> decide

theorem Flag.nodup_all : all.Nodup := by
  decide

private theorem Flag.longName_ne_nil (flag : Flag) : flag.longName.toList ≠ [] := by
  cases flag <;> decide

private theorem Flag.equals_not_mem (flag : Flag) : '=' ∉ flag.longName.toList := by
  cases flag <;> decide

namespace Setting

def Fits (setting : Setting) : Prop := setting.flag.takesValue = false → setting.value = ""

def argumentChars (setting : Setting) : List Char :=
  setting.flag.longName.toList ++
    if setting.flag.takesValue then '=' :: setting.value.toList else []

def argument (setting : Setting) : String :=
  String.ofList ('-' :: '-' :: setting.argumentChars)

private theorem argumentChars_ne_nil (setting : Setting) : setting.argumentChars ≠ [] :=
  List.append_ne_nil_of_left_ne_nil setting.flag.longName_ne_nil _

private theorem takeWhile_argumentChars (setting : Setting) :
    setting.argumentChars.takeWhile (· ≠ '=') = setting.flag.longName.toList := by
  have hname : ∀ char ∈ setting.flag.longName.toList, decide (char ≠ '=') = true := by
    intro char hchar
    exact decide_eq_true (ne_of_mem_of_not_mem hchar setting.flag.equals_not_mem)
  rw [argumentChars, List.takeWhile_append_of_pos hname]
  split <;> simp

end Setting

theorem Argument.long_argumentChars {setting : Setting} (h : setting.Fits) :
    long setting.argumentChars = some { settings := [setting] } := by
  have hvalue : setting.argumentChars.drop setting.flag.longName.toList.length =
      if setting.flag.takesValue then '=' :: setting.value.toList else [] := by
    rw [Setting.argumentChars, List.drop_left]
  rw [long]
  simp only [setting.takeWhile_argumentChars, Flag.ofLongName?_longName, hvalue,
    Option.bind_some]
  cases htakes : setting.flag.takesValue with
  | true => simp
  | false => simp [← h htakes]

theorem Argument.read_argument {setting : Setting} (h : setting.Fits) :
    read setting.argument = some { settings := [setting] } := by
  obtain ⟨char, chars, hchars⟩ := List.exists_cons_of_ne_nil setting.argumentChars_ne_nil
  have hlong := long_argumentChars h
  rw [hchars] at hlong
  rw [read, Setting.argument, String.toList_ofList, hchars]
  exact hlong

private theorem Setting.argument_ne_separator (setting : Setting) : setting.argument ≠ "--" := by
  intro hargument
  have hchars := congrArg String.toList hargument
  rw [argument, String.toList_ofList] at hchars
  exact setting.argumentChars_ne_nil (List.cons.inj (List.cons.inj hchars).2).2

/-! ## All arguments -/

private theorem settings_arguments {list : List Setting} (h : ∀ setting ∈ list, setting.Fits) :
    settings (list.map Setting.argument) = some list := by
  induction list with
  | nil => rfl
  | cons setting list ih =>
      have hread := Argument.read_argument (h setting List.mem_cons_self)
      have hlist := ih fun other hother => h other (List.mem_cons_of_mem _ hother)
      rw [List.map_cons, settings]
      simp [setting.argument_ne_separator, hread, hlist]

namespace Options

def value? (options : Options) : Flag → Option String
  | .profile => options.profile?
  | .archetype => options.archetype?
  | .name => options.name?
  | .domain => options.domain?
  | .topic => options.topic?
  | .misconceptions => options.misconceptions?
  | .json => if options.json then some "" else none
  | .part => options.part?
  | .debug => if options.debug then some "" else none

def setting? (options : Options) (flag : Flag) : Option Setting :=
  (options.value? flag).map (⟨flag, ·⟩)

def settings (options : Options) : List Setting := Flag.all.filterMap options.setting?

/-- A command line that says just this. -/
def arguments (options : Options) : List String := options.settings.map Setting.argument

variable {options : Options}

private theorem flag_of_mem_setting? {flag : Flag} {setting : Setting}
    (h : options.setting? flag = some setting) : setting.flag = flag := by
  obtain ⟨value, -, rfl⟩ := Option.map_eq_some_iff.mp h
  rfl

private theorem fits_of_mem_settings {setting : Setting} (h : setting ∈ options.settings) :
    setting.Fits := by
  obtain ⟨flag, -, hsetting⟩ := List.mem_filterMap.mp h
  obtain ⟨value, hvalue, rfl⟩ := Option.map_eq_some_iff.mp hsetting
  intro htakes
  cases flag with
  | json | debug => simp_all [value?]
  | profile | archetype | name | domain | topic | misconceptions | part => cases htakes

private theorem find?_filterMap_setting? (flag : Flag) (flags : List Flag) :
    ((flags.filterMap options.setting?).find? fun setting => setting.flag = flag) =
      if flag ∈ flags then options.setting? flag else none := by
  -- A flag that comes twice does no harm, as its value depends on the flag alone.
  induction flags with
  | nil => rfl
  | cons other flags ih =>
      by_cases hflag : other = flag
      · subst hflag
        cases hother : options.setting? other with
        | none => simp [hother, ih]
        | some setting => simp [hother, flag_of_mem_setting? hother]
      · cases hother : options.setting? other with
        | none => simp [hother, ih, Ne.symm hflag]
        | some setting => simp [hother, ih, flag_of_mem_setting? hother, hflag, Ne.symm hflag]

private theorem find?_settings (flag : Flag) :
    (options.settings.find? fun setting => setting.flag = flag) = options.setting? flag := by
  rw [settings, find?_filterMap_setting?, if_pos flag.mem_all]

private theorem map_value_find?_settings (flag : Flag) :
    (options.settings.find? fun setting => setting.flag = flag).map Setting.value =
      options.value? flag := by
  rw [find?_settings, setting?, Option.map_map]
  exact congrFun Option.map_id _

private theorem mem_flags_settings {flag : Flag} :
    flag ∈ options.settings.map Setting.flag ↔ (options.value? flag).isSome := by
  rw [← map_value_find?_settings, Option.isSome_map, List.find?_isSome, List.mem_map]
  simp

private theorem nodup_flags_settings : (options.settings.map Setting.flag).Nodup := by
  have hflags : ∀ flags : List Flag,
      (flags.filterMap options.setting?).map Setting.flag |>.Sublist flags := by
    intro flags
    induction flags with
    | nil => exact .slnil
    | cons flag flags ih =>
        cases hflag : options.setting? flag with
        | none => simpa [hflag] using ih.cons flag
        | some setting =>
            simpa [hflag, flag_of_mem_setting? hflag] using ih
  exact Flag.nodup_all.sublist (hflags Flag.all)

/-- Options that go together are read back from the arguments that spell them. -/
theorem ofArguments?_arguments (h : options.isConsistent) :
    ofArguments? options.arguments = some options := by
  have hread : CommandLine.settings options.arguments = some options.settings :=
    settings_arguments fun _ hsetting => fits_of_mem_settings hsetting
  have hjson : (options.settings.map Setting.flag).contains .json = options.json := by
    rw [Bool.eq_iff_iff, List.contains_iff_mem, mem_flags_settings]
    cases h : options.json <;> simp [value?, h]
  have hdebug : (options.settings.map Setting.flag).contains .debug = options.debug := by
    rw [Bool.eq_iff_iff, List.contains_iff_mem, mem_flags_settings]
    cases h : options.debug <;> simp [value?, h]
  rw [ofArguments?, hread]
  simp only [Option.bind_eq_bind, Option.bind_some, map_value_find?_settings, hjson, hdebug]
  exact if_pos (by simpa using ⟨nodup_flags_settings, h⟩)

end Options

end LearnerPersona.CommandLine
