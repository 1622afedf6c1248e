import KeySheet.CommandLine.Run
import Mathlib.Data.List.DropRight

/-! Command lines made of whole groups: an option with its value, a command with its object, or the
word that asks for all transpositions of a sheet. Of each option the last value counts, and the last
command; a value is never taken for an option, however it is spelled. The word for all
transpositions needs a sheet as the latest command before it. Options may stand anywhere. -/
namespace KeySheet.CommandLine

open Media (Device)

/-- A text that names a device. -/
structure DeviceName where
  text : String
  known : Text.foldCase text.toList ∈ ["cpu".toList, "cuda".toList, "gpu".toList]
  deriving DecidableEq

/-- All names but one are of the same device. -/
def DeviceName.device (n : DeviceName) : Device :=
  if Text.foldCase n.text.toList = "cpu".toList then .cpu else .cuda

/-- Arguments that belong together. The options have a short form. -/
inductive Group where
  | server (short : Bool) (value : String)
  | device (short : Bool) (name : DeviceName)
  | log (value : String)
  | convert (value : String)
  | colorize (value : String)
  | sheet (value : String)
  | multi
  deriving DecidableEq

/-- What a group has a say in. -/
inductive Topic where
  | server
  | device
  | log
  | command
  deriving DecidableEq, Repr

namespace Group

/-- As it is typed. -/
def arguments : Group → List String
  | server short value => [if short then "-s" else "--server", value]
  | device short name => [if short then "-d" else "--device", name.text]
  | log value => ["--log", value]
  | convert value => ["convert", value]
  | colorize value => ["colorize", value]
  | sheet value => ["sheet", value]
  | multi => ["--multi"]

def topic : Group → Topic
  | server _ _ => .server
  | device _ _ => .device
  | log _ => .log
  | convert _ | colorize _ | sheet _ | multi => .command

def server? : Group → Option String
  | server _ value => some value
  | _ => none

def device? : Group → Option Device
  | device _ name => some name.device
  | _ => none

def log? : Group → Option String
  | log value => some value
  | _ => none

/-- The command that a group gives; a sheet alone is not for all transpositions. -/
def command? : Group → Option Command
  | convert value => some (.convert value)
  | colorize value => some (.colorize value)
  | sheet value => some (.sheet value false)
  | _ => none

/-- What a group makes of the options read so far, unless it is out of place. -/
def apply (o : Options) : Group → Option Options
  | server _ value => some { o with server := value }
  | device _ name => some { o with device := name.device }
  | log value => some { o with logFile := some value }
  | convert value => some { o with command := .convert value }
  | colorize value => some { o with command := .colorize value }
  | sheet value => some { o with command := .sheet value false }
  | multi => o.setMulti

end Group

/-- The arguments of a command line. -/
def spell (gs : List Group) : List String := gs.flatMap Group.arguments

def lastCommand? (gs : List Group) : Option Command := (gs.filterMap Group.command?).getLast?

/-- The groups behind the last command. -/
def behindCommand (gs : List Group) : List Group := gs.rtakeWhile (fun g => g.command?.isNone)

/-- The latest command is a sheet. -/
def EndsInSheet (gs : List Group) : Prop :=
  ∃ midi multi, lastCommand? gs = some (.sheet midi multi)

/-- Wherever all transpositions are asked for, the latest command before is a sheet. -/
def MultiInPlace (gs : List Group) : Prop :=
  ∀ front back, gs = front ++ .multi :: back → EndsInSheet front

/-- The last command, for all transpositions if that is asked for behind it. -/
def askedCommand (gs : List Group) : Command :=
  match lastCommand? gs with
  | none => .interactive
  | some (.sheet midi _) => .sheet midi (.multi ∈ behindCommand gs)
  | some command => command

/-- Of each option the last value, and the last command. -/
def asked (server : String) (gs : List Group) : Options where
  server := (gs.filterMap Group.server?).getLast?.getD server
  device := (gs.filterMap Group.device?).getLast?.getD .cuda
  logFile := (gs.filterMap Group.log?).getLast?
  command := askedCommand gs

/-- The options before an argument is read: the server of the environment, or the usual one. -/
def unread (env : Option String) : Options := { server := env.getD defaultServer }

/-- The same groups, those on each topic in the same order. -/
def Rearranged (gs hs : List Group) : Prop :=
  ∀ t, gs.filter (fun g => g.topic = t) = hs.filter (fun g => g.topic = t)

variable {m : Type → Type} [Monad m] {gs hs front back : List Group} {g : Group} {server : String}

/-! ## Reading groups -/

theorem ofName?_device (n : DeviceName) : Device.ofName? n.text = some n.device := by
  have known := n.known
  simp only [List.mem_cons, List.not_mem_nil, or_false] at known
  rcases known with cpu | cuda | gpu
  · simp only [Device.ofName?, DeviceName.device, cpu, String.ofList_toList]
    rfl
  · simp only [Device.ofName?, DeviceName.device, cuda, String.ofList_toList]
    rfl
  · simp only [Device.ofName?, DeviceName.device, gpu, String.ofList_toList]
    rfl

/-- A flag with a value sets it, however the value is spelled. -/
theorem readArguments_set (flag : Flag) {arg value : String} {o next : Options}
    (named : Flag.ofText? arg = some flag) (takes : flag ≠ .help ∧ flag ≠ .multi)
    (set : o.set value flag = .ok next) (rest : List String) :
    readArguments o (arg :: value :: rest) = readArguments next rest := by
  cases flag with
  | help => exact absurd rfl takes.1
  | multi => exact absurd rfl takes.2
  | server | device | log | convert | colorize | sheet => simp only [readArguments, named, set]

/-- One group is read, and its value is not looked at as an argument. -/
theorem readArguments_group (o : Options) (g : Group) (rest : List String) :
    readArguments o (g.arguments ++ rest) =
      match g.apply o with
      | some next => readArguments next rest
      | none => .mistake .strayMulti := by
  cases g with
  | server short value =>
      cases short <;> exact readArguments_set .server rfl (by decide) rfl rest
  | device short name =>
      have known : o.set name.text .device = .ok { o with device := name.device } := by
        rw [Options.set, ofName?_device]
      cases short <;> exact readArguments_set .device rfl (by decide) known rest
  | log value => exact readArguments_set .log rfl (by decide) rfl rest
  | convert value => exact readArguments_set .convert rfl (by decide) rfl rest
  | colorize value => exact readArguments_set .colorize rfl (by decide) rfl rest
  | sheet value => exact readArguments_set .sheet rfl (by decide) rfl rest
  | multi => rfl

theorem readArguments_spell (o : Options) (gs : List Group) (rest : List String) :
    readArguments o (spell gs ++ rest) =
      match gs.foldlM Group.apply o with
      | some next => readArguments next rest
      | none => .mistake .strayMulti := by
  induction gs generalizing o with
  | nil => rfl
  | cons g gs ih =>
      rw [spell, List.flatMap_cons, List.append_assoc, readArguments_group, List.foldlM_cons]
      cases applied : g.apply o with
      | none => rfl
      | some next => exact ih next

/-! ## The last of each -/

theorem last_concat {α : Type} (value? : Group → Option α) (gs : List Group) (g : Group) :
    ((gs ++ [g]).filterMap value?).getLast? = (value? g).or (gs.filterMap value?).getLast? := by
  rw [List.filterMap_append, List.getLast?_append]
  cases given : value? g with
  | none => rw [List.filterMap_cons_none given]; rfl
  | some value => rw [List.filterMap_cons_some given]; rfl

theorem lastCommand?_concat (gs : List Group) (g : Group) :
    lastCommand? (gs ++ [g]) = g.command?.or (lastCommand? gs) :=
  last_concat Group.command? gs g

theorem behindCommand_concat (gs : List Group) (g : Group) :
    behindCommand (gs ++ [g]) = if g.command?.isNone then behindCommand gs ++ [g] else [] :=
  List.rtakeWhile_concat _ _ _

/-- A group that is no command and does not ask for all transpositions. -/
theorem option_of_topic (option : g.topic ≠ .command) : g.command? = none ∧ g ≠ .multi := by
  cases g with
  | server | device | log => exact ⟨rfl, nofun⟩
  | convert | colorize | sheet | multi => exact absurd rfl option

theorem multiInPlace_concat (gs : List Group) (g : Group) :
    MultiInPlace (gs ++ [g]) ↔ MultiInPlace gs ∧ (g = .multi → EndsInSheet gs) := by
  constructor
  · intro h
    refine ⟨?_, ?_⟩
    · rintro front back rfl
      exact h front (back ++ [g]) (by rw [List.append_assoc, List.cons_append])
    · rintro rfl
      exact h gs [] rfl
  · rintro ⟨early, last⟩ front back split
    rcases List.eq_nil_or_concat back with rfl | ⟨back, g', rfl⟩
    · obtain ⟨rfl, same⟩ := List.append_inj' split rfl
      exact last (List.singleton_inj.mp same)
    · rw [List.concat_eq_append, ← List.cons_append, ← List.append_assoc] at split
      exact early front back (List.append_inj' split rfl).1

theorem multi_behindCommand_option (option : g.topic ≠ .command) :
    .multi ∈ behindCommand (gs ++ [g]) ↔ .multi ∈ behindCommand gs := by
  obtain ⟨none, other⟩ := option_of_topic option
  rw [behindCommand_concat, none, Option.isNone_none, if_pos rfl, List.mem_append,
    List.mem_singleton, or_iff_left (Ne.symm other)]

theorem askedCommand_option (option : g.topic ≠ .command) :
    askedCommand (gs ++ [g]) = askedCommand gs := by
  simp only [askedCommand, lastCommand?_concat, (option_of_topic option).1, Option.none_or,
    multi_behindCommand_option option]

theorem askedCommand_command {command : Command} (given : g.command? = some command) :
    askedCommand (gs ++ [g]) = command := by
  have nothing : behindCommand (gs ++ [g]) = [] := by
    rw [behindCommand_concat, given]
    rfl
  rw [askedCommand, lastCommand?_concat, given, nothing]
  cases g <;> cases given <;> rfl

theorem askedCommand_multi {midi : String} {multi : Bool}
    (last : lastCommand? gs = some (.sheet midi multi)) :
    askedCommand gs = .sheet midi (decide (.multi ∈ behindCommand gs)) ∧
      askedCommand (gs ++ [.multi]) = .sheet midi true := by
  have behind : .multi ∈ behindCommand (gs ++ [.multi]) := by
    rw [behindCommand_concat]
    exact List.mem_append_right _ (List.mem_singleton_self _)
  refine ⟨by rw [askedCommand, last], ?_⟩
  rw [askedCommand, lastCommand?_concat, last]
  exact congrArg _ (decide_eq_true behind)

theorem asked_append (server : String) (gs : List Group) (g : Group) :
    asked server (gs ++ [g]) =
      { server := g.server?.getD (asked server gs).server
        device := g.device?.getD (asked server gs).device
        logFile := g.log?.or (asked server gs).logFile
        command := askedCommand (gs ++ [g]) } := by
  simp only [asked, last_concat, Option.getD_or]

/-- One more group changes what its topic says. -/
theorem asked_concat (place : g = .multi → EndsInSheet gs) :
    g.apply (asked server gs) = some (asked server (gs ++ [g])) := by
  rw [asked_append]
  cases g with
  | server | device | log =>
      rw [askedCommand_option]
      · rfl
      · nofun
  | convert | colorize | sheet =>
      rw [askedCommand_command rfl]
      rfl
  | multi =>
      obtain ⟨midi, multi, last⟩ := place rfl
      obtain ⟨before, behind⟩ := askedCommand_multi last
      have command : (asked server gs).command = askedCommand gs := rfl
      rw [Group.apply, Options.setMulti, command, before, behind]
      rfl

theorem foldlM_asked (place : MultiInPlace gs) (server : String) :
    gs.foldlM Group.apply { server := server } = some (asked server gs) := by
  induction gs using List.reverseRecOn with
  | nil => rfl
  | append_singleton gs g ih =>
      obtain ⟨early, last⟩ := (multiInPlace_concat gs g).mp place
      rw [List.foldlM_append, ih early]
      simp only [Option.bind_eq_bind, Option.bind_some, List.foldlM_cons, asked_concat last]
      rfl

/-- The first place where all transpositions are asked for without a sheet. -/
theorem exists_stray (stray : ¬ MultiInPlace gs) :
    ∃ front back, gs = front ++ .multi :: back ∧ MultiInPlace front ∧ ¬ EndsInSheet front := by
  induction gs using List.reverseRecOn with
  | nil => exact absurd (fun front back split => by simp at split) stray
  | append_singleton gs g ih =>
      by_cases early : MultiInPlace gs
      · rw [multiInPlace_concat, not_and, Classical.not_imp] at stray
        obtain ⟨rfl, sheetless⟩ := stray early
        exact ⟨gs, [], rfl, early, sheetless⟩
      · obtain ⟨front, back, rfl, place, sheetless⟩ := ih early
        exact ⟨front, back ++ [g], by rw [List.append_assoc, List.cons_append], place, sheetless⟩

theorem setMulti_eq_none (sheetless : ¬ EndsInSheet gs) : (asked server gs).setMulti = none := by
  have command : (asked server gs).command = askedCommand gs := rfl
  rw [Options.setMulti, command, askedCommand]
  cases last : lastCommand? gs with
  | none => rfl
  | some c =>
      cases c with
      | interactive | colorize | convert => rfl
      | sheet midi multi => exact absurd ⟨midi, multi, last⟩ sheetless

/-! ## Rearrangements -/

theorem topic_of_server? {value : String} (h : g.server? = some value) : g.topic = .server := by
  cases g <;> cases h
  rfl

theorem topic_of_device? {device : Device} (h : g.device? = some device) : g.topic = .device := by
  cases g <;> cases h
  rfl

theorem topic_of_log? {value : String} (h : g.log? = some value) : g.topic = .log := by
  cases g <;> cases h
  rfl

theorem topic_of_command? {command : Command} (h : g.command? = some command) :
    g.topic = .command := by
  cases g <;> cases h <;> rfl

/-- What only groups on one topic say is said by them alone. -/
theorem filterMap_topic {α : Type} {value? : Group → Option α} {t : Topic}
    (own : ∀ {g value}, value? g = some value → g.topic = t) (gs : List Group) :
    (gs.filter (fun g => g.topic = t)).filterMap value? = gs.filterMap value? := by
  rw [List.filterMap_filter]
  congr 1
  funext g
  cases said : value? g with
  | none => exact ite_self _
  | some value => rw [if_pos (decide_eq_true (own said))]

/-- The groups with a say in the command. -/
abbrev commands (gs : List Group) : List Group := gs.filter (fun g => g.topic = .command)

theorem commands_concat (gs : List Group) (g : Group) :
    commands (gs ++ [g]) = if g.topic = .command then commands gs ++ [g] else commands gs := by
  by_cases here : g.topic = .command <;> simp [commands, List.filter_append, here]

theorem lastCommand?_commands (gs : List Group) : lastCommand? (commands gs) = lastCommand? gs := by
  rw [lastCommand?, filterMap_topic topic_of_command?, lastCommand?]

theorem multi_behindCommand_commands (gs : List Group) :
    .multi ∈ behindCommand (commands gs) ↔ .multi ∈ behindCommand gs := by
  induction gs using List.reverseRecOn with
  | nil => rfl
  | append_singleton gs g ih =>
      rw [commands_concat]
      by_cases here : g.topic = .command
      · rw [if_pos here, behindCommand_concat, behindCommand_concat]
        split
        · simp only [List.mem_append, ih]
        · rfl
      · rw [if_neg here, ih, multi_behindCommand_option here]

theorem multiInPlace_commands (gs : List Group) : MultiInPlace (commands gs) ↔ MultiInPlace gs := by
  induction gs using List.reverseRecOn with
  | nil => rfl
  | append_singleton gs g ih =>
      rw [commands_concat, multiInPlace_concat]
      by_cases here : g.topic = .command
      · rw [if_pos here, multiInPlace_concat, ih]
        simp only [EndsInSheet, lastCommand?_commands]
      · have other := (option_of_topic here).2
        rw [if_neg here, ih, and_iff_left (fun same => absurd same other)]

/-- What is asked for does not depend on where the options stand. -/
theorem Rearranged.asked (h : Rearranged gs hs) (server : String) :
    (MultiInPlace gs ↔ MultiInPlace hs) ∧
      CommandLine.asked server gs = CommandLine.asked server hs := by
  have same {α : Type} {value? : Group → Option α} {t : Topic}
      (own : ∀ {g value}, value? g = some value → g.topic = t) :
      gs.filterMap value? = hs.filterMap value? := by
    rw [← filterMap_topic own gs, h t, filterMap_topic own hs]
  have command : askedCommand gs = askedCommand hs := by
    simp only [askedCommand, ← lastCommand?_commands gs, ← lastCommand?_commands hs,
      ← multi_behindCommand_commands gs, ← multi_behindCommand_commands hs, commands, h .command]
  refine ⟨?_, ?_⟩
  · rw [← multiInPlace_commands gs, ← multiInPlace_commands hs, commands, commands, h .command]
  · rw [CommandLine.asked, CommandLine.asked, command, same topic_of_server?,
      same topic_of_device?, same topic_of_log?]

/-- A group moved past groups on other topics. -/
theorem rearranged_move {mid : List Group} (apart : ∀ other ∈ mid, other.topic ≠ g.topic) :
    Rearranged (front ++ g :: (mid ++ back)) (front ++ (mid ++ g :: back)) := by
  intro t
  simp only [List.filter_append, List.filter_cons]
  by_cases own : g.topic = t
  · have nothing : mid.filter (fun other => other.topic = t) = [] := by
      simpa [List.filter_eq_nil_iff, ← own] using apart
    rw [nothing, List.nil_append, List.nil_append]
  · rw [if_neg (by rwa [decide_eq_true_iff]), if_neg (by rwa [decide_eq_true_iff])]

/-! ## Whole command lines -/

theorem readArguments_inPlace (place : MultiInPlace gs) (server : String) :
    readArguments { server := server } (spell gs) = .run (asked server gs) := by
  have read := readArguments_spell { server := server } gs []
  rw [List.append_nil, foldlM_asked place] at read
  exact read

/-- What stands behind a word out of place is not read. -/
theorem readArguments_stray (place : MultiInPlace front) (sheetless : ¬ EndsInSheet front)
    (server : String) (rest : List String) :
    readArguments { server := server } (spell front ++ "--multi" :: rest) =
      .mistake .strayMulti := by
  have read := readArguments_group (asked server front) .multi rest
  rw [Group.apply, setMulti_eq_none sheetless] at read
  rw [readArguments_spell, foldlM_asked place]
  exact read

theorem readArguments_outOfPlace (stray : ¬ MultiInPlace gs) (server : String) :
    readArguments { server := server } (spell gs) = .mistake .strayMulti := by
  obtain ⟨front, back, rfl, place, sheetless⟩ := exists_stray stray
  rw [spell, List.flatMap_append, List.flatMap_cons]
  exact readArguments_stray place sheetless server (spell back)

theorem readArguments_rearranged (h : Rearranged gs hs) (server : String) :
    readArguments { server := server } (spell hs) =
      readArguments { server := server } (spell gs) := by
  obtain ⟨alike, same⟩ := h.asked server
  by_cases place : MultiInPlace gs
  · rw [readArguments_inPlace place, readArguments_inPlace (alike.mp place), same]
  · rw [readArguments_outOfPlace place, readArguments_outOfPlace (mt alike.mpr place)]

/-- A command line of groups. Where every word for all transpositions has a sheet as the latest
command before it, what is run has the last value of each option and the last command; else the
first such word out of place ends the reading, whatever stands behind it, with a message and exit
code one. Options may be moved, past each other and past commands. -/
theorem last_of_each_wins (host : Host m) (program : String) (env : Option String)
    (gs : List Group) :
    (MultiInPlace gs →
      readArguments (unread env) (spell gs) = .run (asked (env.getD defaultServer) gs) ∧
      run host program env (spell gs) = perform host (asked (env.getD defaultServer) gs)) ∧
    (¬ MultiInPlace gs →
      (∃ front back, gs = front ++ .multi :: back ∧ MultiInPlace front ∧ ¬ EndsInSheet front ∧
        ∀ rest, readArguments (unread env) (spell front ++ "--multi" :: rest) =
          .mistake .strayMulti) ∧
      run host program env (spell gs) = (do
        host.printError "Error: --multi only applies to the sheet command\n"
        return 1)) ∧
    (∀ hs, Rearranged gs hs →
      readArguments (unread env) (spell hs) = readArguments (unread env) (spell gs)) ∧
    ∀ front g mid back, gs = front ++ g :: (mid ++ back) →
      (∀ other ∈ mid, other.topic ≠ g.topic) →
      readArguments (unread env) (spell (front ++ (mid ++ g :: back))) =
        readArguments (unread env) (spell gs) := by
  refine ⟨?_, ?_, ?_, ?_⟩
  · intro place
    have read := readArguments_inPlace place (env.getD defaultServer)
    exact ⟨read, by rw [run, read]⟩
  · intro stray
    refine ⟨?_, by rw [run, readArguments_outOfPlace stray]; rfl⟩
    obtain ⟨front, back, split, place, sheetless⟩ := exists_stray stray
    exact ⟨front, back, split, place, sheetless, readArguments_stray place sheetless _⟩
  · intro hs moved
    exact readArguments_rearranged moved _
  · rintro front g mid back rfl apart
    exact readArguments_rearranged (rearranged_move apart) _

/-- Values that are spelled as options or commands are values. -/
example :
    readArguments { server := "a" } (spell [.sheet "--multi", .server true "convert", .multi]) =
      .run { server := "convert", command := .sheet "--multi" true } := by
  rfl

end KeySheet.CommandLine
