import Mathlib.Data.List.Induction
import TrustZoneSdk.CargoOptee.BuildUuid

/-!
# Publishing a plugin

`copy_plugin` reads the UUID out of the library that Cargo left in its output
directory, copies the library into a temporary file and renames that to
`<uuid>.plugin.so`.  Any number of runs go on at once in one directory; Cargo
replaces the libraries at any time; every step may fail and a run may be killed
between any two.  The library is read once for its UUID and once more for its
contents, so a published file is always some whole library, but it has the UUID
in its name only if no rebuild between the two gave the library another one.
-/

namespace TrustZoneSdk.CargoOptee.PluginCopy

open TrustZoneSdk.Foundation

/-! ## File names -/

def libraryName (crate : FileName) : FileName :=
  'l' :: 'i' :: 'b' :: crate ++ ['.', 's', 'o']

def tempName (uuid : UuidOctets) (random : FileName) : FileName :=
  pluginName uuid ++ '.' :: random

/-! ## Runs of `copy_plugin` -/

/-- How far a run has come, with the temporary file it has in hand. -/
inductive Phase where
  | ready
  | identified (library : FileName) (uuid : UuidOctets)
  | created (library : FileName) (uuid : UuidOctets) (tmp : FileName)
  /-- `fs::copy` has opened the library and goes on with what it opened. -/
  | copying (uuid : UuidOctets) (tmp : FileName) (source : Contents)
  | copied (uuid : UuidOctets) (tmp : FileName) (source : Contents)
  | ended
  deriving DecidableEq

def Phase.tmp : Phase → Option FileName
  | created _ _ tmp => some tmp
  | copying _ tmp _ => some tmp
  | copied _ tmp _ => some tmp
  | _ => none

/--
The directory, the runs, all names ever given to temporary files, and the
contents of all libraries built so far.
-/
structure System where
  files : Directory FileName Contents
  runs : Nat → Phase
  used : List FileName
  built : List Contents

def System.initial (files : Directory FileName Contents) : System :=
  ⟨files, fun _ => .ready, [], []⟩

inductive Event where
  | rebuild (crate : FileName) (contents : Option Contents)
  | readUuid (run : Nat) (crate : FileName)
  | createTemp (run : Nat) (random : FileName)
  | openLibrary (run : Nat)
  | writePart (run : Nat) (count : Nat)
  | copyDone (run : Nat)
  | publish (run : Nat) (success : Bool)
  | fail (run : Nat)
  | kill (run : Nat)
  deriving DecidableEq

namespace System

variable (system : System) (run : Nat)

def enter (phase : Phase) : System :=
  { system with runs := Function.update system.runs run phase }

def store (name : FileName) (contents : Option Contents) : System :=
  { system with files := Function.update system.files name contents }

def fail : System :=
  -- An error return drops the temporary file.
  match (system.runs run).tmp with
  | some tmp => (system.store tmp none).enter run .ended
  | none => system.enter run .ended

end System

def Event.exec (readPluginUuid : Contents → Option UuidOctets)
    (system : System) : Event → System
  -- An event that does not fit the phase of its run does not happen.
  | .rebuild crate contents =>
      { system.store (libraryName crate) contents with
        built := contents.toList ++ system.built }
  | .readUuid run crate =>
      match system.runs run with
      | .ready =>
          match (system.files (libraryName crate)).bind readPluginUuid with
          | some uuid => system.enter run (.identified (libraryName crate) uuid)
          | none => system.fail run
      | _ => system
  | .createTemp run random =>
      match system.runs run with
      | .identified library uuid =>
          let tmp := tempName uuid random
          if system.used.contains tmp ∨ (system.files tmp).isSome then system
          else
            { (system.store tmp (some [])).enter run
                (.created library uuid tmp) with
              used := tmp :: system.used }
      | _ => system
  | .openLibrary run =>
      match system.runs run with
      | .created library uuid tmp =>
          match system.files library with
          | some source => system.enter run (.copying uuid tmp source)
          | none => system.fail run
      | _ => system
  | .writePart run count =>
      match system.runs run with
      | .copying _ tmp source => system.store tmp (some (source.take count))
      | _ => system
  | .copyDone run =>
      match system.runs run with
      | .copying uuid tmp source =>
          (system.store tmp (some source)).enter run (.copied uuid tmp source)
      | _ => system
  -- `publish_tempfile` keeps the temporary file first, so a rename that fails
  -- leaves it behind.
  | .publish run success =>
      match system.runs run with
      | .copied uuid tmp _ =>
          if success then
            { system.enter run .ended with
              files := system.files.rename tmp (pluginName uuid) }
          else system.enter run .ended
      | _ => system
  | .fail run => system.fail run
  | .kill run => system.enter run .ended

def runEvents (readPluginUuid : Contents → Option UuidOctets)
    (events : List Event) (system : System) : System :=
  events.foldl (Event.exec readPluginUuid) system

/-! ## Effects -/

/-- All that an event can do, in the phase that it fits. -/
inductive Effect (readPluginUuid : Contents → Option UuidOctets)
    (system : System) : Event → System → Prop
  | none (event : Event) : Effect readPluginUuid system event system
  | rebuild (crate : FileName) (contents : Option Contents) :
      Effect readPluginUuid system (.rebuild crate contents)
        { system.store (libraryName crate) contents with
          built := contents.toList ++ system.built }
  | identify {run : Nat} {crate : FileName} {uuid : UuidOctets}
      (hphase : system.runs run = .ready)
      (huuid : (system.files (libraryName crate)).bind readPluginUuid =
        some uuid) :
      Effect readPluginUuid system (.readUuid run crate)
        (system.enter run (.identified (libraryName crate) uuid))
  | createTemp {run : Nat} {library : FileName} {uuid : UuidOctets}
      (random : FileName)
      (hphase : system.runs run = .identified library uuid)
      (hfresh : tempName uuid random ∉ system.used) :
      Effect readPluginUuid system (.createTemp run random)
        { (system.store (tempName uuid random) (some [])).enter run
            (.created library uuid (tempName uuid random)) with
          used := tempName uuid random :: system.used }
  | openLibrary {run : Nat} {library tmp : FileName} {uuid : UuidOctets}
      {source : Contents}
      (hphase : system.runs run = .created library uuid tmp)
      (hsource : system.files library = some source) :
      Effect readPluginUuid system (.openLibrary run)
        (system.enter run (.copying uuid tmp source))
  | writePart {run : Nat} {tmp : FileName} {uuid : UuidOctets}
      {source : Contents} (count : Nat)
      (hphase : system.runs run = .copying uuid tmp source) :
      Effect readPluginUuid system (.writePart run count)
        (system.store tmp (some (source.take count)))
  | copyDone {run : Nat} {tmp : FileName} {uuid : UuidOctets}
      {source : Contents}
      (hphase : system.runs run = .copying uuid tmp source) :
      Effect readPluginUuid system (.copyDone run)
        ((system.store tmp (some source)).enter run (.copied uuid tmp source))
  | publish {run : Nat} {tmp : FileName} {uuid : UuidOctets}
      {source : Contents}
      (hphase : system.runs run = .copied uuid tmp source) :
      Effect readPluginUuid system (.publish run true)
        { system.enter run .ended with
          files := system.files.rename tmp (pluginName uuid) }
  | fail (event : Event) (run : Nat) :
      Effect readPluginUuid system event (system.fail run)
  | finish (event : Event) (run : Nat) :
      Effect readPluginUuid system event (system.enter run .ended)

theorem exec_effect (readPluginUuid : Contents → Option UuidOctets)
    (system : System) (event : Event) :
    Effect readPluginUuid system event (event.exec readPluginUuid system) := by
  cases event with
  | rebuild crate contents => exact .rebuild crate contents
  | readUuid run crate =>
      rw [Event.exec]
      split
      · rename_i hphase
        split
        · rename_i uuid huuid
          exact .identify hphase huuid
        · exact .fail _ run
      · exact .none _
  | createTemp run random =>
      rw [Event.exec]
      split
      · rename_i library uuid hphase
        dsimp only
        split
        · exact .none _
        · rename_i hnew
          exact .createTemp random hphase fun hmem =>
            hnew (Or.inl (List.contains_iff_mem.mpr hmem))
      · exact .none _
  | openLibrary run =>
      rw [Event.exec]
      split
      · rename_i library uuid tmp hphase
        split
        · rename_i source hsource
          exact .openLibrary hphase hsource
        · exact .fail _ run
      · exact .none _
  | writePart run count =>
      rw [Event.exec]
      split
      · rename_i uuid tmp source hphase
        exact .writePart count hphase
      · exact .none _
  | copyDone run =>
      rw [Event.exec]
      split
      · rename_i uuid tmp source hphase
        exact .copyDone hphase
      · exact .none _
  | publish run success =>
      rw [Event.exec]
      split
      · rename_i uuid tmp source hphase
        split
        · rename_i hsuccess
          rw [hsuccess]
          exact .publish hphase
        · exact .finish _ run
      · exact .none _
  | fail run => exact .fail _ run
  | kill run => exact .finish _ run

/-! ## Names apart -/

theorem pluginName_injective {first second : UuidOctets}
    (h : pluginName first = pluginName second) : first = second :=
  UuidOctets.text_injective (List.append_cancel_right h)

def IsPlugin (name : FileName) : Prop := ∃ uuid, name = pluginName uuid

def IsTemp (name : FileName) : Prop :=
  ∃ uuid random, name = tempName uuid random

theorem length_pluginName (uuid : UuidOctets) :
    (pluginName uuid).length = 46 := by
  rw [pluginName, List.length_append, UuidOctets.length_text]
  rfl

theorem IsTemp.not_plugin {name : FileName} (h : IsTemp name) :
    ¬ IsPlugin name := by
  obtain ⟨uuid, random, rfl⟩ := h
  rintro ⟨other, heq⟩
  have hlength := congrArg List.length heq
  rw [tempName, List.length_append, length_pluginName, length_pluginName,
    List.length_cons] at hlength
  omega

theorem libraryName_ne (crate : FileName) (uuid : UuidOctets)
    (rest : FileName) : libraryName crate ≠ uuid.text ++ rest := by
  intro heq
  rw [← octets_ofOctets uuid, ← uuidText_eq_text] at heq
  obtain ⟨nibble, digits, hnibble, htext⟩ :=
    uuidText_head (Uuid.ofOctets uuid)
  have hdigit : ∀ nibble < 16, 'l' ≠ hexDigit nibble := by decide
  rw [htext, libraryName] at heq
  exact hdigit nibble hnibble (List.cons.inj heq).1

theorem libraryName_not_plugin (crate : FileName) :
    ¬ IsPlugin (libraryName crate) := by
  rintro ⟨uuid, heq⟩
  exact libraryName_ne crate uuid _ heq

theorem libraryName_not_temp (crate : FileName) :
    ¬ IsTemp (libraryName crate) := by
  rintro ⟨uuid, random, heq⟩
  rw [tempName, pluginName, List.append_assoc] at heq
  exact libraryName_ne crate uuid _ heq

/-! ## The invariant -/

section Invariant

variable (initial : Directory FileName Contents)

/-- The contents of a library at the start or after a rebuild. -/
def IsLibrary (built : List Contents) (contents : Contents) : Prop :=
  (∃ crate, initial (libraryName crate) = some contents) ∨ contents ∈ built

def Phase.Holds (files : Directory FileName Contents)
    (built : List Contents) : Phase → Prop
  | .identified library _ => ∃ crate, library = libraryName crate
  | .created library _ _ => ∃ crate, library = libraryName crate
  | .copying _ _ source => IsLibrary initial built source
  | .copied _ tmp source =>
      files tmp = some source ∧ IsLibrary initial built source
  | _ => True

structure Sound (system : System) : Prop where
  library : ∀ crate contents,
    system.files (libraryName crate) = some contents →
      IsLibrary initial system.built contents
  temp : ∀ name ∈ system.used, IsTemp name
  used : ∀ run, ∀ tmp ∈ (system.runs run).tmp, tmp ∈ system.used
  apart : ∀ first second, first ≠ second →
    ∀ tmp ∈ (system.runs first).tmp, tmp ∉ (system.runs second).tmp
  holds : ∀ run, (system.runs run).Holds initial system.files system.built

end Invariant

variable {readPluginUuid : Contents → Option UuidOctets}
  {initial files next : Directory FileName Contents}
  {built later : List Contents} {phase : Phase} {system : System}

theorem IsLibrary.mono {contents : Contents}
    (h : IsLibrary initial built contents) (hbuilt : built ⊆ later) :
    IsLibrary initial later contents :=
  h.imp_right fun hmem => hbuilt hmem

theorem Phase.Holds.frame (h : phase.Holds initial files built)
    (hfiles : ∀ tmp ∈ phase.tmp, next tmp = files tmp)
    (hbuilt : built ⊆ later) : phase.Holds initial next later := by
  cases phase with
  | copying uuid tmp source => exact IsLibrary.mono h hbuilt
  | copied uuid tmp source =>
      exact ⟨(hfiles tmp rfl).trans h.1, h.2.mono hbuilt⟩
  | ready => trivial
  | identified library uuid => exact h
  | created library uuid tmp => exact h
  | ended => trivial

namespace Sound

theorem start : Sound initial (System.initial initial) where
  library := fun crate _ hcontents => Or.inl ⟨crate, hcontents⟩
  temp := nofun
  used := nofun
  apart := nofun
  holds := fun _ => trivial

theorem move {used : List FileName} (h : Sound initial system) (run : Nat)
    (hlibrary : ∀ crate, files (libraryName crate) =
      system.files (libraryName crate))
    (hfiles : ∀ name ∈ system.used, name ∉ (system.runs run).tmp →
      files name = system.files name)
    (htemp : ∀ name ∈ used, IsTemp name) (hused : system.used ⊆ used)
    (hmine : ∀ tmp ∈ phase.tmp, tmp ∈ used)
    (hown : ∀ tmp ∈ phase.tmp, tmp ∈ system.used →
      tmp ∈ (system.runs run).tmp)
    (hholds : phase.Holds initial files system.built) :
    Sound initial
      ⟨files, Function.update system.runs run phase, used, system.built⟩ := by
  have hapart : ∀ other ≠ run, ∀ tmp ∈ (system.runs other).tmp,
      tmp ∉ phase.tmp := by
    intro other hother tmp htmp hmem
    exact h.apart other run hother tmp htmp
      (hown tmp hmem (h.used other tmp htmp))
  refine ⟨fun crate contents hcontents => ?_, htemp, fun other tmp htmp => ?_,
    fun first second hne tmp hfirst hsecond => ?_, fun other => ?_⟩
  · exact h.library crate contents ((hlibrary crate).symm.trans hcontents)
  · dsimp only at htmp ⊢
    by_cases hother : other = run
    · rw [hother, Function.update_self] at htmp
      exact hmine tmp htmp
    · rw [Function.update_of_ne hother] at htmp
      exact hused (h.used other tmp htmp)
  · dsimp only at hfirst hsecond
    by_cases heq : first = run
    · rw [heq] at hne
      rw [heq, Function.update_self] at hfirst
      rw [Function.update_of_ne hne.symm] at hsecond
      exact hapart second hne.symm tmp hsecond hfirst
    · rw [Function.update_of_ne heq] at hfirst
      by_cases hsame : second = run
      · rw [hsame, Function.update_self] at hsecond
        exact hapart first heq tmp hfirst hsecond
      · rw [Function.update_of_ne hsame] at hsecond
        exact h.apart first second hne tmp hfirst hsecond
  · dsimp only
    by_cases hother : other = run
    · rw [hother, Function.update_self]
      exact hholds
    · rw [Function.update_of_ne hother]
      refine (h.holds other).frame (fun tmp htmp => ?_)
        (List.Subset.refl _)
      exact hfiles tmp (h.used other tmp htmp)
        (h.apart other run hother tmp htmp)

theorem temp_of_mem (h : Sound initial system) {run : Nat} {tmp : FileName}
    (htmp : tmp ∈ (system.runs run).tmp) : IsTemp tmp :=
  h.temp tmp (h.used run tmp htmp)

theorem change (h : Sound initial system) (run : Nat)
    (hfiles : ∀ name, name ∉ (system.runs run).tmp →
      files name = system.files name)
    (hown : ∀ tmp ∈ phase.tmp, tmp ∈ (system.runs run).tmp)
    (hholds : phase.Holds initial files system.built) :
    Sound initial
      ⟨files, Function.update system.runs run phase, system.used,
        system.built⟩ := by
  refine h.move run (fun crate => hfiles _ fun hmem => ?_)
    (fun name _ => hfiles name) h.temp (List.Subset.refl _)
    (fun tmp htmp => h.used run tmp (hown tmp htmp))
    (fun tmp htmp _ => hown tmp htmp) hholds
  exact libraryName_not_temp crate (h.temp_of_mem hmem)

theorem enter (h : Sound initial system) (run : Nat)
    (hown : ∀ tmp ∈ phase.tmp, tmp ∈ (system.runs run).tmp)
    (hholds : phase.Holds initial system.files system.built) :
    Sound initial (system.enter run phase) :=
  h.change run (fun _ _ => rfl) hown hholds

theorem identify (h : Sound initial system) (run : Nat) (crate : FileName)
    (uuid : UuidOctets) :
    Sound initial
      (system.enter run (.identified (libraryName crate) uuid)) :=
  h.enter run nofun ⟨crate, rfl⟩

theorem finish (h : Sound initial system) (run : Nat) :
    Sound initial (system.enter run .ended) :=
  h.enter run nofun trivial

theorem store_enter (h : Sound initial system) {run : Nat} {tmp : FileName}
    (htmp : tmp ∈ (system.runs run).tmp) {contents : Option Contents}
    (hown : ∀ tmp ∈ phase.tmp, tmp ∈ (system.runs run).tmp)
    (hholds : phase.Holds initial
      (Function.update system.files tmp contents) system.built) :
    Sound initial ((system.store tmp contents).enter run phase) := by
  refine h.change run (fun name hname => ?_) hown hholds
  have hne : name ≠ tmp := fun heq => hname (heq ▸ htmp)
  exact Function.update_of_ne hne _ _

theorem fail (h : Sound initial system) (run : Nat) :
    Sound initial (system.fail run) := by
  rw [System.fail]
  split
  · rename_i tmp htmp
    exact h.store_enter htmp nofun trivial
  · exact h.finish run

theorem rebuild (h : Sound initial system) (crate : FileName)
    (contents : Option Contents) :
    Sound initial
      { system.store (libraryName crate) contents with
        built := contents.toList ++ system.built } where
  library := by
    intro other source hsource
    simp only [System.store, Function.update_apply] at hsource
    split at hsource
    · exact Or.inr (List.mem_append_left _ (Option.mem_toList.mpr hsource))
    · exact (h.library other source hsource).mono
        (List.subset_append_right _ _)
  temp := h.temp
  used := h.used
  apart := h.apart
  holds := by
    intro run
    refine (h.holds run).frame (fun tmp htmp => ?_)
      (List.subset_append_right _ _)
    have hne : tmp ≠ libraryName crate := by
      rintro rfl
      exact libraryName_not_temp crate (h.temp_of_mem htmp)
    exact Function.update_of_ne hne _ _

theorem createTemp (h : Sound initial system) {run : Nat}
    {library : FileName} {uuid : UuidOctets}
    (hphase : system.runs run = .identified library uuid)
    {random : FileName} (hfresh : tempName uuid random ∉ system.used) :
    Sound initial
      { (system.store (tempName uuid random) (some [])).enter run
          (.created library uuid (tempName uuid random)) with
        used := tempName uuid random :: system.used } := by
  have htemp : IsTemp (tempName uuid random) := ⟨uuid, random, rfl⟩
  have hholds := h.holds run
  rw [hphase] at hholds
  refine h.move run (fun crate => ?_) (fun name hname _ => ?_)
    (fun name hname => ?_) (List.subset_cons_self _ _) ?_ ?_ hholds
  · have hne : libraryName crate ≠ tempName uuid random :=
      fun heq => libraryName_not_temp crate (heq ▸ htemp)
    exact Function.update_of_ne hne _ _
  · exact Function.update_of_ne (ne_of_mem_of_not_mem hname hfresh) _ _
  · rcases List.mem_cons.mp hname with rfl | hmem
    · exact htemp
    · exact h.temp name hmem
  · rintro tmp ⟨⟩
    exact List.mem_cons_self
  · rintro tmp ⟨⟩ hmem
    exact absurd hmem hfresh

theorem openLibrary (h : Sound initial system) {run : Nat}
    {library tmp : FileName} {uuid : UuidOctets} {source : Contents}
    (hphase : system.runs run = .created library uuid tmp)
    (hsource : system.files library = some source) :
    Sound initial (system.enter run (.copying uuid tmp source)) := by
  have hholds := h.holds run
  rw [hphase] at hholds
  obtain ⟨crate, rfl⟩ := hholds
  refine h.enter run ?_ (h.library crate source hsource)
  rw [hphase]
  exact fun _ htmp => htmp

theorem copyDone (h : Sound initial system) {run : Nat} {tmp : FileName}
    {uuid : UuidOctets} {source : Contents}
    (hphase : system.runs run = .copying uuid tmp source) :
    Sound initial ((system.store tmp (some source)).enter run
      (.copied uuid tmp source)) := by
  have hholds := h.holds run
  rw [hphase] at hholds
  have htmp : (system.runs run).tmp = some tmp := by rw [hphase]; rfl
  refine h.store_enter htmp ?_ ⟨Function.update_self _ _ _, hholds⟩
  rw [hphase]
  exact fun _ htmp => htmp

theorem writePart (h : Sound initial system) {run : Nat} {tmp : FileName}
    {uuid : UuidOctets} {source : Contents}
    (hphase : system.runs run = .copying uuid tmp source) (count : Nat) :
    Sound initial (system.store tmp (some (source.take count))) := by
  have hholds := h.holds run
  rw [hphase] at hholds
  have htmp : (system.runs run).tmp = some tmp := by rw [hphase]; rfl
  have hsound : Sound initial
      ((system.store tmp (some (source.take count))).enter run
        (.copying uuid tmp source)) := by
    refine h.store_enter htmp ?_ hholds
    rw [hphase]
    exact fun _ hmem => hmem
  rw [System.enter, System.store, ← hphase, Function.update_eq_self] at hsound
  exact hsound

theorem publish (h : Sound initial system) {run : Nat} {tmp : FileName}
    {uuid : UuidOctets} {source : Contents}
    (hphase : system.runs run = .copied uuid tmp source) :
    Sound initial
      { system.enter run .ended with
        files := system.files.rename tmp (pluginName uuid) } := by
  have htmp : (system.runs run).tmp = some tmp := by rw [hphase]; rfl
  have htemp : IsTemp tmp := h.temp_of_mem htmp
  refine h.move run (fun crate => ?_) (fun name hname hother => ?_) h.temp
    (List.Subset.refl _) nofun nofun trivial
  · rw [Directory.rename, Function.update_of_ne, Function.update_of_ne]
    · exact fun heq => libraryName_not_plugin crate ⟨uuid, heq⟩
    · exact fun heq => libraryName_not_temp crate (heq ▸ htemp)
  · rw [Directory.rename, Function.update_of_ne, Function.update_of_ne]
    · exact fun heq => (h.temp name hname).not_plugin ⟨uuid, heq⟩
    · exact fun heq => hother (heq ▸ htmp)

theorem effect (h : Sound initial system) {event : Event} {after : System}
    (heffect : Effect readPluginUuid system event after) :
    Sound initial after := by
  cases heffect with
  | none => exact h
  | rebuild crate contents => exact h.rebuild crate contents
  | identify hphase huuid => exact h.identify _ _ _
  | createTemp random hphase hfresh => exact h.createTemp hphase hfresh
  | openLibrary hphase hsource => exact h.openLibrary hphase hsource
  | writePart count hphase => exact h.writePart hphase count
  | copyDone hphase => exact h.copyDone hphase
  | publish hphase => exact h.publish hphase
  | fail _ run => exact h.fail run
  | finish _ run => exact h.finish run

theorem exec (h : Sound initial system) (event : Event) :
    Sound initial (event.exec readPluginUuid system) :=
  h.effect (exec_effect readPluginUuid system event)

end Sound

/-! ## What is published -/

def Event.Publishes (system : System) (uuid : UuidOctets)
    (source : Contents) (event : Event) : Prop :=
  ∃ run tmp, event = .publish run true ∧
    system.runs run = .copied uuid tmp source

theorem fail_files (h : Sound initial system) (run : Nat) {name : FileName}
    (hname : ¬ IsTemp name) :
    (system.fail run).files name = system.files name := by
  rw [System.fail]
  split
  · rename_i tmp htmp
    have hne : name ≠ tmp := fun heq => hname (heq ▸ h.temp_of_mem htmp)
    exact Function.update_of_ne hne _ _
  · rfl

/-- Only a publishing run changes a published file. -/
theorem Effect.published_files {event : Event} {after : System}
    (heffect : Effect readPluginUuid system event after)
    (h : Sound initial system)
    (uuid : UuidOctets) :
    after.files (pluginName uuid) = system.files (pluginName uuid) ∨
      ∃ source, event.Publishes system uuid source := by
  have hplugin : IsPlugin (pluginName uuid) := ⟨uuid, rfl⟩
  have hname : ¬ IsTemp (pluginName uuid) :=
    fun htemp => htemp.not_plugin hplugin
  have hstore : ∀ tmp contents, IsTemp tmp →
      (system.store tmp contents).files (pluginName uuid) =
        system.files (pluginName uuid) := by
    intro tmp contents htemp
    have hne : pluginName uuid ≠ tmp := fun heq => hname (heq ▸ htemp)
    exact Function.update_of_ne hne _ _
  cases heffect with
  | rebuild crate contents =>
      have hne : pluginName uuid ≠ libraryName crate :=
        fun heq => libraryName_not_plugin crate (heq ▸ hplugin)
      exact Or.inl (Function.update_of_ne hne _ _)
  | createTemp random hphase hfresh =>
      exact Or.inl (hstore _ _ ⟨_, random, rfl⟩)
  | writePart count hphase =>
      exact Or.inl (hstore _ _ (h.temp_of_mem (by rw [hphase]; rfl)))
  | copyDone hphase =>
      exact Or.inl (hstore _ _ (h.temp_of_mem (by rw [hphase]; rfl)))
  | @publish run tmp other source hphase =>
      have htemp : IsTemp tmp := h.temp_of_mem (by rw [hphase]; rfl)
      by_cases heq : uuid = other
      · exact Or.inr ⟨source, run, tmp, rfl, heq ▸ hphase⟩
      · left
        dsimp only
        rw [Directory.rename, Function.update_of_ne, Function.update_of_ne]
        · exact fun hsame => heq (pluginName_injective hsame)
        · exact fun hsame => hname (hsame ▸ htemp)
  | fail _ run => exact Or.inl (fail_files h run hname)
  | none => exact Or.inl rfl
  | identify => exact Or.inl rfl
  | openLibrary => exact Or.inl rfl
  | finish => exact Or.inl rfl

theorem Event.Publishes.published {event : Event} {uuid : UuidOctets}
    {source : Contents} (hevent : event.Publishes system uuid source)
    (h : Sound initial system)
    (readPluginUuid : Contents → Option UuidOctets) :
    (event.exec readPluginUuid system).files (pluginName uuid) =
        some source ∧
      IsLibrary initial system.built source := by
  obtain ⟨run, tmp, rfl, hphase⟩ := hevent
  have hholds := h.holds run
  rw [hphase] at hholds
  obtain ⟨hsource, hlibrary⟩ := hholds
  have htemp : IsTemp tmp := h.temp_of_mem (by rw [hphase]; rfl)
  refine ⟨?_, hlibrary⟩
  simp only [Event.exec, hphase, if_pos]
  rw [Directory.rename, Function.update_of_ne, Function.update_self, hsource]
  exact fun heq => htemp.not_plugin ⟨uuid, heq.symm⟩

theorem fail_built (system : System) (run : Nat) :
    (system.fail run).built = system.built := by
  rw [System.fail]
  split
  · rfl
  · rfl

theorem Effect.built_subset {event : Event} {after : System}
    (heffect : Effect readPluginUuid system event after) :
    system.built ⊆ after.built := by
  cases heffect with
  | rebuild crate contents => exact List.subset_append_right _ _
  | fail _ run => exact (fail_built system run) ▸ List.Subset.refl _
  | _ => exact List.Subset.refl _

theorem certified_exec (readPluginUuid : Contents → Option UuidOctets)
    {Good Better : FileName → Contents → Prop} (h : Sound initial system)
    (hcertified : Certified system.files IsPlugin initial Good)
    (hmono : ∀ name contents, Good name contents → Better name contents)
    {event : Event}
    (hevent : ∀ uuid source, event.Publishes system uuid source →
      IsLibrary initial system.built source →
        Better (pluginName uuid) source ∨
          initial (pluginName uuid) = some source) :
    Certified (event.exec readPluginUuid system).files IsPlugin initial
      Better := by
  rintro name ⟨uuid, rfl⟩
  rcases (exec_effect readPluginUuid system event).published_files h uuid with
    hsame | ⟨source, hpublishes⟩
  · rw [hsame]
    exact hcertified.mono hmono (pluginName uuid) ⟨uuid, rfl⟩
  · obtain ⟨hfile, hlibrary⟩ := hpublishes.published h readPluginUuid
    rcases hevent uuid source hpublishes hlibrary with hgood | hsame
    · exact Or.inr ⟨source, hfile, hgood⟩
    · exact Or.inl (hfile.trans hsame.symm)

section Named

variable (readPluginUuid : Contents → Option UuidOctets)
  (initial : Directory FileName Contents)

def CopyOf (built : List Contents) (name : FileName)
    (contents : Contents) : Prop :=
  ∃ uuid, name = pluginName uuid ∧ readPluginUuid contents = some uuid ∧
    IsLibrary initial built contents

def Named (system : System) : Prop :=
  Certified system.files IsPlugin initial
    (CopyOf readPluginUuid initial system.built)

end Named

/-- A right name stays right exactly if what is published has it. -/
theorem Named.exec_iff {event : Event} (h : Sound initial system)
    (hnamed : Named readPluginUuid initial system) :
    Named readPluginUuid initial (event.exec readPluginUuid system) ↔
      ∀ uuid source, event.Publishes system uuid source →
        readPluginUuid source = some uuid ∨
          initial (pluginName uuid) = some source := by
  have hbuilt := (exec_effect readPluginUuid system event).built_subset
  constructor
  · intro hnext uuid source hevent
    obtain ⟨hfile, -⟩ := hevent.published h readPluginUuid
    rcases hnext (pluginName uuid) ⟨uuid, rfl⟩ with hsame | hcopy
    · exact Or.inr (hsame.symm.trans hfile)
    · obtain ⟨contents, hcontents, other, hname, hread, -⟩ := hcopy
      obtain rfl : uuid = other := pluginName_injective hname
      obtain rfl : source = contents :=
        Option.some.inj (hfile.symm.trans hcontents)
      exact Or.inl hread
  · intro hhonest
    refine certified_exec readPluginUuid h hnamed ?_ ?_
    · rintro name contents ⟨uuid, hname, hread, hlibrary⟩
      exact ⟨uuid, hname, hread, hlibrary.mono hbuilt⟩
    · intro uuid source hevent hlibrary
      refine (hhonest uuid source hevent).imp_left fun hread => ?_
      exact ⟨uuid, rfl, hread, hlibrary.mono hbuilt⟩

theorem named_iff :
    Named readPluginUuid initial system ↔ ∀ uuid,
      system.files (pluginName uuid) = initial (pluginName uuid) ∨
        ∃ contents, system.files (pluginName uuid) = some contents ∧
          readPluginUuid contents = some uuid ∧
          IsLibrary initial system.built contents := by
  constructor
  · intro h uuid
    refine (h (pluginName uuid) ⟨uuid, rfl⟩).imp_right ?_
    rintro ⟨contents, hcontents, other, hname, hcopy⟩
    obtain rfl : uuid = other := pluginName_injective hname
    exact ⟨contents, hcontents, hcopy⟩
  · rintro h name ⟨uuid, rfl⟩
    refine (h uuid).imp_right ?_
    rintro ⟨contents, hcontents, hcopy⟩
    exact ⟨contents, hcontents, uuid, rfl, hcopy⟩

/-! ## Histories -/

section History

variable (readPluginUuid : Contents → Option UuidOctets)
  (initial : Directory FileName Contents)

def systemAfter (events : List Event) : System :=
  runEvents readPluginUuid events (System.initial initial)

def libraryAfter (crate : FileName) (events : List Event) : Option Contents :=
  events.foldl (fun library event =>
      match event with
      | .rebuild other contents => if other = crate then contents else library
      | _ => library)
    (initial (libraryName crate))

variable {readPluginUuid initial} {events : List Event}

theorem systemAfter_append (before after : List Event) :
    systemAfter readPluginUuid initial (before ++ after) =
      runEvents readPluginUuid after
        (systemAfter readPluginUuid initial before) :=
  List.foldl_append ..

theorem systemAfter_concat (before : List Event) (event : Event) :
    systemAfter readPluginUuid initial (before ++ [event]) =
      event.exec readPluginUuid (systemAfter readPluginUuid initial before) :=
  systemAfter_append before [event]

theorem sound_after (events : List Event) :
    Sound initial (systemAfter readPluginUuid initial events) := by
  induction events using List.reverseRecOn with
  | nil => exact Sound.start
  | append_singleton events event ih =>
      rw [systemAfter_concat]
      exact ih.exec event

theorem libraryName_injective {first second : FileName}
    (h : libraryName first = libraryName second) : first = second := by
  simpa [libraryName] using h

theorem Effect.library_files {event : Event} {after : System}
    (heffect : Effect readPluginUuid system event after)
    (h : Sound initial system)
    (hrebuild : ∀ crate contents, event ≠ .rebuild crate contents)
    (crate : FileName) :
    after.files (libraryName crate) = system.files (libraryName crate) := by
  have hname : ¬ IsTemp (libraryName crate) := libraryName_not_temp crate
  have hstore : ∀ tmp contents, IsTemp tmp →
      (system.store tmp contents).files (libraryName crate) =
        system.files (libraryName crate) := by
    intro tmp contents htemp
    have hne : libraryName crate ≠ tmp := fun heq => hname (heq ▸ htemp)
    exact Function.update_of_ne hne _ _
  cases heffect with
  | rebuild crate contents => exact absurd rfl (hrebuild crate contents)
  | createTemp random hphase hfresh => exact hstore _ _ ⟨_, random, rfl⟩
  | writePart count hphase =>
      exact hstore _ _ (h.temp_of_mem (by rw [hphase]; rfl))
  | copyDone hphase => exact hstore _ _ (h.temp_of_mem (by rw [hphase]; rfl))
  | @publish run tmp uuid source hphase =>
      have htemp : IsTemp tmp := h.temp_of_mem (by rw [hphase]; rfl)
      dsimp only
      rw [Directory.rename, Function.update_of_ne, Function.update_of_ne]
      · exact fun heq => libraryName_not_plugin crate ⟨uuid, heq⟩
      · exact fun heq => hname (heq ▸ htemp)
  | fail _ run => exact fail_files h run hname
  | none => rfl
  | identify => rfl
  | openLibrary => rfl
  | finish => rfl

theorem systemAfter_library (crate : FileName) (events : List Event) :
    (systemAfter readPluginUuid initial events).files (libraryName crate) =
      libraryAfter initial crate events := by
  induction events using List.reverseRecOn with
  | nil => rfl
  | append_singleton events event ih =>
      rw [systemAfter_concat, libraryAfter, List.foldl_append,
        ← libraryAfter, ← ih]
      have heffect := exec_effect readPluginUuid
        (systemAfter readPluginUuid initial events) event
      cases event with
      | rebuild other contents =>
          by_cases hsame : other = crate
          · simp [Event.exec, System.store, hsame]
          · have hne : libraryName crate ≠ libraryName other :=
              fun heq => hsame (libraryName_injective heq).symm
            simp [Event.exec, System.store, hsame, Function.update_of_ne hne]
      | _ => exact heffect.library_files (sound_after events) nofun crate

theorem libraryAfter_append {crate : FileName} {before between : List Event}
    {source : Contents}
    (h : libraryAfter initial crate (before ++ between) = some source) :
    libraryAfter initial crate before = some source ∨
      .rebuild crate (some source) ∈ between := by
  induction between using List.reverseRecOn with
  | nil => exact Or.inl (by simpa using h)
  | append_singleton between event ih =>
      rw [← List.append_assoc, libraryAfter, List.foldl_append,
        ← libraryAfter] at h
      have hmore := fun hrest => (ih hrest).imp_right
        fun hmem => List.mem_append_left [event] hmem
      cases event with
      | rebuild other contents =>
          by_cases hsame : other = crate
          · have hcontents : contents = some source := by simpa [hsame] using h
            rw [hsame, hcontents]
            exact Or.inr (List.mem_append_right _ List.mem_cons_self)
          · exact hmore (by simpa [hsame] using h)
      | _ => exact hmore h

/-! ### How a run moves on -/

inductive Moves (readPluginUuid : Contents → Option UuidOctets)
    (system : System) (run : Nat) : Event → Phase → Prop
  | identify {crate : FileName} {uuid : UuidOctets}
      (hphase : system.runs run = .ready)
      (huuid : (system.files (libraryName crate)).bind readPluginUuid =
        some uuid) :
      Moves readPluginUuid system run (.readUuid run crate)
        (.identified (libraryName crate) uuid)
  | createTemp {library : FileName} {uuid : UuidOctets} (random tmp : FileName)
      (hphase : system.runs run = .identified library uuid) :
      Moves readPluginUuid system run (.createTemp run random)
        (.created library uuid tmp)
  | openLibrary {library tmp : FileName} {uuid : UuidOctets}
      {source : Contents}
      (hphase : system.runs run = .created library uuid tmp)
      (hsource : system.files library = some source) :
      Moves readPluginUuid system run (.openLibrary run)
        (.copying uuid tmp source)
  | copyDone {tmp : FileName} {uuid : UuidOctets} {source : Contents}
      (hphase : system.runs run = .copying uuid tmp source) :
      Moves readPluginUuid system run (.copyDone run)
        (.copied uuid tmp source)

theorem Effect.moves {event : Event} {after : System}
    (heffect : Effect readPluginUuid system event after) (run : Nat) :
    after.runs run = system.runs run ∨ after.runs run = .ended ∨
      Moves readPluginUuid system run event (after.runs run) := by
  have henter : ∀ (other : Nat) (phase : Phase) {P : Phase → Prop},
      (other = run → P phase) →
        Function.update system.runs other phase run = system.runs run ∨
          P (Function.update system.runs other phase run) := by
    intro other phase P h
    by_cases hsame : other = run
    · rw [hsame, Function.update_self]
      exact Or.inr (h hsame)
    · exact Or.inl (Function.update_of_ne (Ne.symm hsame) _ _)
  have hended : ∀ other,
      (system.enter other .ended).runs run = system.runs run ∨
        (system.enter other .ended).runs run = .ended :=
    fun other => henter (P := (· = .ended)) other .ended fun _ => rfl
  cases heffect with
  | none => exact Or.inl rfl
  | rebuild => exact Or.inl rfl
  | writePart => exact Or.inl rfl
  | identify hphase huuid =>
      refine (henter _ _ fun hsame => ?_).imp_right Or.inr
      subst hsame
      exact .identify hphase huuid
  | createTemp random hphase hfresh =>
      refine (henter _ _ fun hsame => ?_).imp_right Or.inr
      subst hsame
      exact .createTemp random _ hphase
  | openLibrary hphase hsource =>
      refine (henter _ _ fun hsame => ?_).imp_right Or.inr
      subst hsame
      exact .openLibrary hphase hsource
  | copyDone hphase =>
      refine (henter _ _ fun hsame => ?_).imp_right Or.inr
      subst hsame
      exact .copyDone hphase
  | publish hphase => exact (hended _).imp_right Or.inl
  | finish _ other => exact (hended other).imp_right Or.inl
  | fail _ other =>
      have hfail : (system.fail other).runs =
          (system.enter other .ended).runs := by
        rw [System.fail]
        split <;> rfl
      rw [hfail]
      exact (hended other).imp_right Or.inl

/-! ### The two reads of a run -/

variable (readPluginUuid initial) in
/-- In these events the run has read `uuid` from the library of `crate`. -/
structure HasRead (run : Nat) (crate : FileName) (uuid : UuidOctets)
    (before : List Event) : Prop where
  ready : (systemAfter readPluginUuid initial before).runs run = .ready
  uuid : (libraryAfter initial crate before).bind readPluginUuid = some uuid

def Phase.IsCreated : Phase → Prop
  | .created _ _ _ => True
  | _ => False

def Phase.IsCopied : Phase → Prop
  | .copied _ _ _ => True
  | _ => False

variable (readPluginUuid initial) in
/-- What a run that has come to this phase has read, and when. -/
def Phase.Origin (history : List Event) (run : Nat) : Phase → Prop
  | .identified library uuid | .created library uuid _ =>
      ∃ crate before between, library = libraryName crate ∧
        history = before ++ .readUuid run crate :: between ∧
        HasRead readPluginUuid initial run crate uuid before
  | .copying uuid _ source | .copied uuid _ source =>
      ∃ crate before between later,
        history = before ++ .readUuid run crate ::
          (between ++ .openLibrary run :: later) ∧
        HasRead readPluginUuid initial run crate uuid before ∧
        ((systemAfter readPluginUuid initial
          (before ++ .readUuid run crate :: between)).runs run).IsCreated ∧
        libraryAfter initial crate (before ++ between) = some source
  | _ => True

theorem libraryAfter_readUuid (crate other : FileName) (run : Nat)
    (before between : List Event) :
    libraryAfter initial crate (before ++ .readUuid run other :: between) =
      libraryAfter initial crate (before ++ between) := by
  simp [libraryAfter]

theorem Phase.Origin.append {history : List Event} {run : Nat}
    (h : phase.Origin readPluginUuid initial history run) (event : Event) :
    phase.Origin readPluginUuid initial (history ++ [event]) run := by
  have hread : ∀ library uuid, Phase.Origin readPluginUuid initial history run
      (.identified library uuid) →
      Phase.Origin readPluginUuid initial (history ++ [event]) run
        (.identified library uuid) := by
    rintro library uuid ⟨crate, before, between, hlibrary, rfl, hread⟩
    exact ⟨crate, before, between ++ [event], hlibrary, by simp, hread⟩
  have hopened : ∀ uuid tmp source, Phase.Origin readPluginUuid initial history
      run (.copying uuid tmp source) →
      Phase.Origin readPluginUuid initial (history ++ [event]) run
        (.copying uuid tmp source) := by
    rintro uuid tmp source ⟨crate, before, between, later, rfl, hrest⟩
    exact ⟨crate, before, between, later ++ [event], by simp, hrest⟩
  cases phase with
  | identified library uuid => exact hread library uuid h
  | created library uuid tmp => exact hread library uuid h
  | copying uuid tmp source => exact hopened uuid tmp source h
  | copied uuid tmp source => exact hopened uuid tmp source h
  | ready => trivial
  | ended => trivial

theorem origin_after (history : List Event) (run : Nat) :
    ((systemAfter readPluginUuid initial history).runs run).Origin
      readPluginUuid initial history run := by
  induction history using List.reverseRecOn with
  | nil => trivial
  | append_singleton history event ih =>
      have hmoves := (exec_effect readPluginUuid
        (systemAfter readPluginUuid initial history) event).moves run
      rw [← systemAfter_concat] at hmoves
      rcases hmoves with hsame | hended | hmoves
      · rw [hsame]
        exact Phase.Origin.append ih event
      · rw [hended]
        trivial
      · generalize (systemAfter readPluginUuid initial
          (history ++ [event])).runs run = phase at hmoves
        cases hmoves with
        | @identify crate uuid hphase huuid =>
            rw [systemAfter_library] at huuid
            exact ⟨crate, history, [], rfl, rfl, hphase, huuid⟩
        | createTemp random tmp hphase =>
            rw [hphase] at ih
            exact Phase.Origin.append ih _
        | @openLibrary library tmp uuid source hphase hsource =>
            have horigin := ih
            rw [hphase] at horigin
            obtain ⟨crate, before, between, rfl, rfl, hread⟩ := horigin
            rw [systemAfter_library, libraryAfter_readUuid] at hsource
            exact ⟨crate, before, between, [], by simp, hread,
              hphase ▸ trivial, hsource⟩
        | copyDone hphase =>
            rw [hphase] at ih
            exact Phase.Origin.append ih _

def Phase.Keeps (library : FileName) (uuid : UuidOctets)
    (source : Option Contents) : Phase → Prop
  | .identified name other | .created name other _ =>
      name = library ∧ other = uuid ∧ source = none
  | .copying other _ contents | .copied other _ contents =>
      other = uuid ∧ ∀ expected ∈ source, contents = expected
  | .ended => True
  | .ready => False

theorem keeps_after {run : Nat} {library : FileName} {uuid : UuidOctets}
    {source : Option Contents} {before : List Event} (later : List Event)
    (h : ((systemAfter readPluginUuid initial before).runs run).Keeps library
      uuid source) :
    ((systemAfter readPluginUuid initial (before ++ later)).runs run).Keeps
      library uuid source := by
  induction later using List.reverseRecOn with
  | nil => simpa using h
  | append_singleton later event ih =>
      rw [← List.append_assoc, systemAfter_concat]
      rcases (exec_effect readPluginUuid (systemAfter readPluginUuid initial
        (before ++ later)) event).moves run with hsame | hended | hmoves
      · rw [hsame]
        exact ih
      · rw [hended]
        trivial
      · generalize (event.exec readPluginUuid _).runs run = phase at hmoves ⊢
        cases hmoves with
        | identify hphase huuid =>
            rw [hphase] at ih
            exact ih.elim
        | createTemp random tmp hphase =>
            rw [hphase] at ih
            exact ih
        | openLibrary hphase hsource =>
            rw [hphase] at ih
            obtain ⟨-, huuid, rfl⟩ := ih
            exact ⟨huuid, nofun⟩
        | copyDone hphase =>
            rw [hphase] at ih
            exact ih

variable (readPluginUuid initial)

/--
A run reads the UUID after `before`, opens the library after `between`, and
publishes its copy after `later`.
-/
structure Publication (events before between later : List Event) (run : Nat)
    (crate : FileName) : Prop where
  order : before ++ .readUuid run crate ::
    (between ++ .openLibrary run :: (later ++ [.publish run true])) <+: events
  ready : (systemAfter readPluginUuid initial before).runs run = .ready
  created : ((systemAfter readPluginUuid initial
    (before ++ .readUuid run crate :: between)).runs run).IsCreated
  copied : ((systemAfter readPluginUuid initial
    (before ++ .readUuid run crate ::
      (between ++ .openLibrary run :: later))).runs run).IsCopied

/--
Each library that is published has the same UUID when it is opened as when its
UUID was read, or is what the published file was from the start.
-/
def Steady (events : List Event) : Prop :=
  ∀ before between later run crate,
    Publication readPluginUuid initial events before between later run crate →
      ∀ uuid source,
        (libraryAfter initial crate before).bind readPluginUuid = some uuid →
        libraryAfter initial crate (before ++ between) = some source →
          readPluginUuid source = some uuid ∨
            initial (pluginName uuid) = some source

def Undisturbed (events : List Event) : Prop :=
  ∀ before between run crate,
    before ++ .readUuid run crate :: (between ++ [.openLibrary run]) <+:
        events →
      ∀ uuid contents,
        (libraryAfter initial crate before).bind readPluginUuid = some uuid →
        .rebuild crate (some contents) ∈ between →
          readPluginUuid contents = some uuid

variable {readPluginUuid initial}

theorem Undisturbed.steady
    (h : Undisturbed readPluginUuid initial events) :
    Steady readPluginUuid initial events := by
  intro before between later run crate hpublication uuid source huuid hsource
  have hreads : before ++ .readUuid run crate ::
      (between ++ [.openLibrary run]) <+: events := by
    refine List.IsPrefix.trans ⟨later ++ [.publish run true], ?_⟩
      hpublication.order
    simp
  rcases libraryAfter_append hsource with hsame | hrebuild
  · rw [hsame] at huuid
    exact Or.inl huuid
  · exact Or.inl (h before between run crate hreads uuid source huuid hrebuild)

theorem Publication.copied_source {before between later : List Event}
    {run : Nat} {crate : FileName} {uuid : UuidOctets} {source : Contents}
    (h : Publication readPluginUuid initial events before between later run
      crate)
    (huuid : (libraryAfter initial crate before).bind readPluginUuid =
      some uuid)
    (hsource : libraryAfter initial crate (before ++ between) = some source) :
    ∃ tmp, (systemAfter readPluginUuid initial
      (before ++ .readUuid run crate ::
        (between ++ .openLibrary run :: later))).runs run =
          .copied uuid tmp source := by
  have hread : ((systemAfter readPluginUuid initial
      (before ++ [.readUuid run crate])).runs run).Keeps (libraryName crate)
        uuid none := by
    rw [← @systemAfter_library readPluginUuid] at huuid
    simp [systemAfter_concat, Event.exec, h.ready, huuid, System.enter,
      Phase.Keeps]
  have hcreated := keeps_after between hread
  rw [List.append_assoc, List.singleton_append] at hcreated
  have hisCreated := h.created
  generalize hphase : (systemAfter readPluginUuid initial
    (before ++ .readUuid run crate :: between)).runs run = phase
    at hcreated hisCreated
  cases phase with
  | created library other tmp =>
      obtain ⟨rfl, rfl, -⟩ := hcreated
      have hopened : ((systemAfter readPluginUuid initial
          (before ++ .readUuid run crate :: between ++
            [.openLibrary run])).runs run).Keeps (libraryName crate) other
              (some source) := by
        rw [← libraryAfter_readUuid crate crate run,
          ← @systemAfter_library readPluginUuid] at hsource
        rw [systemAfter_concat]
        simp [Event.exec, hphase, hsource, System.enter, Phase.Keeps]
      have hlater := keeps_after later hopened
      rw [List.append_assoc, List.append_assoc, List.singleton_append,
        List.cons_append] at hlater
      have hisCopied := h.copied
      generalize (systemAfter readPluginUuid initial
        (before ++ .readUuid run crate ::
          (between ++ .openLibrary run :: later))).runs run = last
        at hlater hisCopied ⊢
      cases last with
      | copied uuid tmp contents =>
          obtain ⟨rfl, hcontents⟩ := hlater
          exact ⟨tmp, by rw [hcontents source rfl]⟩
      | _ => exact hisCopied.elim
  | _ => exact hisCreated.elim

theorem named_throughout_iff (events : List Event) :
    (∀ before, before <+: events → Named readPluginUuid initial
        (systemAfter readPluginUuid initial before)) ↔
      ∀ before run uuid tmp source,
        before ++ [.publish run true] <+: events →
        (systemAfter readPluginUuid initial before).runs run =
          .copied uuid tmp source →
        readPluginUuid source = some uuid ∨
          initial (pluginName uuid) = some source := by
  constructor
  · intro hall before run uuid tmp source hstart hphase
    have hnext := hall _ hstart
    rw [systemAfter_concat] at hnext
    have hnow := hall before ((List.prefix_append _ _).trans hstart)
    exact (hnow.exec_iff (sound_after before)).mp hnext uuid source
      ⟨run, tmp, rfl, hphase⟩
  · intro hrenames before
    induction before using List.reverseRecOn with
    | nil => exact fun _ => Certified.start
    | append_singleton before event ih =>
        intro hstart
        have hnow := ih ((List.prefix_append _ _).trans hstart)
        rw [systemAfter_concat, hnow.exec_iff (sound_after before)]
        rintro uuid source ⟨run, tmp, rfl, hphase⟩
        exact hrenames before run uuid tmp source hstart hphase

theorem named_throughout_iff_steady (events : List Event) :
    (∀ before, before <+: events → Named readPluginUuid initial
        (systemAfter readPluginUuid initial before)) ↔
      Steady readPluginUuid initial events := by
  rw [named_throughout_iff]
  constructor
  · intro hrenames before between later run crate hpublication uuid source
      huuid hsource
    obtain ⟨tmp, hphase⟩ := hpublication.copied_source huuid hsource
    refine hrenames _ run uuid tmp source ?_ hphase
    simpa using hpublication.order
  · intro hsteady history run uuid tmp source horder hphase
    have horigin := @origin_after readPluginUuid initial history run
    rw [hphase] at horigin
    obtain ⟨crate, before, between, later, rfl, hread, hcreated, hsource⟩ :=
      horigin
    refine hsteady before between later run crate
      ⟨by simpa using horder, hread.ready, hcreated, ?_⟩ uuid source
      hread.uuid hsource
    rw [hphase]
    trivial

end History

theorem published_whole_library (events : List Event) :
    Certified (systemAfter readPluginUuid initial events).files IsPlugin
      initial fun _ => IsLibrary initial
        (systemAfter readPluginUuid initial events).built := by
  induction events using List.reverseRecOn with
  | nil => exact Certified.start
  | append_singleton events event ih =>
      have hbuilt := (exec_effect readPluginUuid
        (systemAfter readPluginUuid initial events) event).built_subset
      rw [systemAfter_concat]
      refine certified_exec readPluginUuid (sound_after events) ih ?_ ?_
      · exact fun name contents hlibrary => hlibrary.mono hbuilt
      · exact fun uuid source _ hlibrary => Or.inl (hlibrary.mono hbuilt)

/--
At every moment each `<uuid>.plugin.so` is what it was at the start or a whole
library.  It is a library with that UUID exactly if no library that is
published changes its UUID between the two reads, for which it is enough that
no rebuild in between gives it another one.
-/
theorem published_uuid_iff (readPluginUuid : Contents → Option UuidOctets)
    (initial : Directory FileName Contents) (events : List Event) :
    ((∀ before, before <+: events → ∀ uuid,
        let now := systemAfter readPluginUuid initial before
        now.files (pluginName uuid) = initial (pluginName uuid) ∨
          ∃ contents, now.files (pluginName uuid) = some contents ∧
            readPluginUuid contents = some uuid ∧
            IsLibrary initial now.built contents) ↔
      Steady readPluginUuid initial events) ∧
    (Undisturbed readPluginUuid initial events →
      Steady readPluginUuid initial events) ∧
    ∀ before, before <+: events → ∀ uuid,
      let now := systemAfter readPluginUuid initial before
      now.files (pluginName uuid) = initial (pluginName uuid) ∨
        ∃ contents, now.files (pluginName uuid) = some contents ∧
          IsLibrary initial now.built contents := by
  refine ⟨?_, Undisturbed.steady, fun before _ uuid => ?_⟩
  · rw [← named_throughout_iff_steady]
    exact forall_congr' fun before => forall_congr' fun _ => named_iff.symm
  · exact published_whole_library before (pluginName uuid) ⟨uuid, rfl⟩

/-! ## A rebuild between the two reads -/

section Rebuild

variable (host : Host) (parse : List UInt8 → Option Elf)

def pluginUuid (contents : Contents) : Option UuidOctets :=
  match readPluginUuidFromBytes host parse contents with
  | some (.ok uuid) => some uuid
  | _ => none

end Rebuild

def twosUuid : UuidOctets := ⟨List.replicate 16 2, rfl⟩

def library (uuid : UuidOctets) : Contents :=
  oneObjectFile ((generateBinding uuid 0x2000 0x3000 0x4000).bytes 8)

def rebuiltEvents : List Event :=
  [.rebuild ['p'] (some (library countingUuid)), .readUuid 0 ['p'],
    .rebuild ['p'] (some (library twosUuid)), .createTemp 0 ['x'],
    .openLibrary 0, .copyDone 0, .publish 0 true]

theorem rebuild_publishes_wrong_uuid :
    let readUuid := pluginUuid host64
      fun _ => some (oneObject "plugin_method" 40)
    let final := runEvents readUuid rebuiltEvents (.initial fun _ => none)
    final.files (pluginName countingUuid) = some (library twosUuid) ∧
      readUuid (library countingUuid) = some countingUuid ∧
      readUuid (library twosUuid) = some twosUuid ∧
      twosUuid ≠ countingUuid := by
  refine ⟨?_, ?_, ?_, ?_⟩
  · decide +kernel
  · decide +kernel
  · decide +kernel
  · decide +kernel

end TrustZoneSdk.CargoOptee.PluginCopy
