import DeskConfig.Program
import DeskConfig.Proofs.Load.Provenance

/-!
What a dump writes to the standard stream. By default that stream shows information and nothing
less, and of all that can happen in a load only one thing is information: that the first root
file cannot be read and the other one is taken. So the written configuration stands alone or
after the one line that says so.
-/

namespace DeskConfig

section Streams

variable {env : Environment} {verbose : Bool} {e : Entry}

theorem Filter.ofEnvironment_of_unset (hunset : env.value? "JWMRC_LOG".toList = none) :
    ofEnvironment env verbose = default verbose := by
  rw [ofEnvironment, hunset]
  rfl

/-- The default filter treats all channels alike. -/
theorem Filter.threshold_default (verbose : Bool) (channel : String) :
    (default verbose).threshold channel = if verbose then 4 else 3 := by
  have hfits : ∀ n, Directive.fits channel.toList { threshold := n } = true := fun _ => rfl
  simp [threshold, default, hfits, better]

theorem Screen.stdout_append (f : Filter) (ls ms : List Line) :
    stdout f (ls ++ ms) = stdout f ls ++ stdout f ms := by
  simp only [stdout, List.map_append, String.join_append]

theorem Screen.stdout_cons (f : Filter) (l : Line) (ls : List Line) :
    stdout f (l :: ls) = outText f l ++ stdout f ls := by
  simp only [stdout, List.map_cons, String.join_cons]

/-- What is worse than information goes to the other stream, what is less is not shown. -/
theorem Screen.outText_eq_empty (he : e.level ≠ .info) :
    outText (Filter.default false) (.entry e) = "" := by
  have hnever : (Filter.shows (Filter.default false) e && !e.isProblem) = false := by
    simp only [Filter.shows, Entry.isProblem, Filter.threshold_default]
    cases hlevel : e.level with
    | info => exact absurd hlevel he
    | _ => rfl
  simp only [outText, hnever, Bool.false_eq_true, if_false]

theorem Screen.stdout_eq_empty {es : List Entry} (hes : ∀ e ∈ es, e.level ≠ .info) :
    stdout (Filter.default false) (es.map .entry) = "" := by
  induction es with
  | nil => rfl
  | cons e es ih =>
    obtain ⟨he, hrest⟩ := List.forall_mem_cons.mp hes
    rw [List.map_cons, stdout_cons, outText_eq_empty he, ih hrest]
    rfl

end Streams

section Loads

variable (world : World) (o : Options)

theorem Event.level_entry_ne {event : Event}
    (hother : ∀ primary fallback, event ≠ .fellBack primary fallback) :
    event.entry.level ≠ .info := by
  intro hlevel
  cases event with
  | fellBack primary fallback => exact hother primary fallback rfl
  | _ => simp [Event.entry, Event.debug] at hlevel

/-- In a walk there are only warnings and what a verbose console shows. -/
theorem Event.level_entry_of_walk {event : Event} (h : event.isOfWalk = true) :
    event.entry.level ≠ .info := by
  refine level_entry_ne fun primary fallback hevent => ?_
  rw [hevent] at h
  contradiction

/-- A root document is loaded without a word of information. -/
theorem level_ne_info_of_mem_loadFile {path text : String} {event : Event}
    (hevent : event ∈ (loadFile world o path text).journal) : event.entry.level ≠ .info := by
  have hwalked := (sound_walkText world o path text).journal.walked
  have hfile : event ∈ Event.loading path :: (loadText world o path text).journal := hevent
  rcases List.mem_cons.mp hfile with rfl | htext
  · exact Event.level_entry_ne (by simp)
  unfold loadText Load.ofProgress at htext
  split at htext
  · rcases List.mem_append.mp htext with htext | htext
    · exact Event.level_entry_of_walk (hwalked event htext)
    · rw [List.mem_singleton.mp htext]
      exact Event.level_entry_ne (by simp)
  · simp only [Load.finish, List.mem_append] at htext
    obtain (htext | htext) | htext := htext
    · exact Event.level_entry_of_walk (hwalked event htext)
    · obtain ⟨d, -, rfl⟩ := List.mem_map.mp htext
      exact Event.level_entry_ne (by simp)
    · rw [List.mem_singleton.mp htext]
      exact Event.level_entry_ne (by simp)

/-- The line of a load that cannot read its first root file. -/
def fallbackNotice : String :=
  match world.readText [] o.configPath with
  | .ok _ => ""
  | .error _ => s!"  could not open {o.configPath}, using {o.fallbackPath}\n"

theorem Screen.outText_fellBack (primary fallback : String) :
    outText (Filter.default false) (.entry (Event.fellBack primary fallback).entry) =
      s!"  could not open {primary}, using {fallback}\n" := by
  have hshown : (Filter.shows (Filter.default false) (Event.fellBack primary fallback).entry &&
      !(Event.fellBack primary fallback).entry.isProblem) = true := by
    simp only [Filter.shows, Filter.threshold_default]
    rfl
  have hchannel : (Channel.loader == Channel.stage) = false := by decide
  simp only [outText, hshown, if_true]
  rw [← String.toList_inj]
  simp [Entry.render, Event.entry, hchannel, toString]

/-- One line of information among what is not shown there. -/
theorem Screen.stdout_fellBack (before : List Entry) {after : List Entry}
    (hbefore : ∀ e ∈ before, e.level ≠ .info) (hafter : ∀ e ∈ after, e.level ≠ .info)
    (primary fallback : String) :
    stdout (Filter.default false)
        ((before ++ (Event.fellBack primary fallback).entry :: after).map .entry) =
      s!"  could not open {primary}, using {fallback}\n" := by
  rw [List.map_append, List.map_cons, stdout_append, stdout_cons, stdout_eq_empty hbefore,
    stdout_eq_empty hafter, outText_fellBack, String.empty_append, String.append_empty]

/-- Of a whole load, whatever comes of it, the notice is all that is shown. -/
theorem stdout_journal :
    Screen.stdout (Filter.default false) (((load world o).journal.map Event.entry).map .entry) =
      fallbackNotice world o := by
  have hloading : ∀ path text, ∀ e ∈ (loadFile world o path text).journal.map Event.entry,
      e.level ≠ .info := by
    intro path text e he
    obtain ⟨event, hevent, rfl⟩ := List.mem_map.mp he
    exact level_ne_info_of_mem_loadFile world o hevent
  have hunreadable : ∀ e ∈ [(Event.unreadableRoot o.configPath).entry], e.level ≠ .info :=
    List.forall_mem_singleton.mpr (Event.level_entry_ne (by simp))
  unfold fallbackNotice load
  cases hprimary : world.readText [] o.configPath with
  | ok text => exact Screen.stdout_eq_empty (hloading o.configPath text)
  | error cause =>
    cases hfallback : world.readText [] o.fallbackPath with
    | ok text =>
      exact Screen.stdout_fellBack _ hunreadable (hloading o.fallbackPath text) _ _
    | error cause' =>
      refine Screen.stdout_fellBack _ hunreadable ?_ _ _
      refine List.forall_mem_cons.mpr ⟨Event.level_entry_ne (by simp), ?_⟩
      exact List.forall_mem_singleton.mpr (Event.level_entry_ne (by simp))

end Loads

section Dumps

variable {world : World} {o : Options} {args : List String} {i : Invocation} {loaded : Loaded}

/-- A dump fails only with its load. -/
theorem exists_loaded_of_dump (h : (Report.dump world o).failure = none) :
    ∃ loaded, (load world o).outcome = .ok loaded := by
  cases houtcome : (load world o).outcome with
  | ok loaded => exact ⟨loaded, rfl⟩
  | error cause =>
    simp only [Report.dump, houtcome] at h
    contradiction

theorem stdout_dump (hok : (load world o).outcome = .ok loaded) :
    Screen.stdout (Filter.default false) (Report.dump world o).allLines =
      fallbackNotice world o ++ (loaded.config.dump ++ "\n") := by
  have hdebug : ∀ message, Screen.outText (Filter.default false) (Report.debug message) = "" :=
    fun message => Screen.outText_eq_empty (by simp)
  have hlines : Screen.stdout (Filter.default false) (Report.loadLines o (load world o)) =
      fallbackNotice world o := by
    rw [Report.loadLines, List.cons_append, List.cons_append, List.nil_append,
      Screen.stdout_cons, Screen.stdout_cons, hdebug, hdebug, String.empty_append,
      String.empty_append, ← stdout_journal, List.map_map]
    rfl
  have hreport : (Report.dump world o).allLines = Report.loadLines o (load world o) ++
      [Report.debug s!"loaded {loaded.source}", .result loaded.config.dump] := by
    simp only [Report.allLines, Report.dump, hok]
    exact List.append_nil _
  rw [hreport, Screen.stdout_append, hlines, Screen.stdout_cons, hdebug, String.empty_append]
  rfl

/-- A dump without more to show is the report of one load, through the default filter. -/
theorem run_dump (hparse : Invocation.parse args = .ok i) (hcommand : i.command = .dump)
    (hquiet : i.verbose = false) (hunset : world.environment.value? "JWMRC_LOG".toList = none) :
    run world args = .ofReport (Filter.default false)
      (Report.dump world (i.options world.environment)) := by
  unfold run
  rw [hparse]
  simp only [Report.ofInvocation, hcommand, hquiet, Filter.ofEnvironment_of_unset hunset]

theorem exists_loaded_of_run (hparse : Invocation.parse args = .ok i)
    (hcommand : i.command = .dump) (hquiet : i.verbose = false)
    (hunset : world.environment.value? "JWMRC_LOG".toList = none)
    (hcode : (run world args).code = 0) :
    ∃ loaded, (load world (i.options world.environment)).outcome = .ok loaded ∧
      (run world args).stdout =
        fallbackNotice world (i.options world.environment) ++ (loaded.config.dump ++ "\n") := by
  rw [run_dump hparse hcommand hquiet hunset] at hcode ⊢
  have hfailure : (Report.dump world (i.options world.environment)).failure = none := by
    by_contra hfailure
    rw [Run.ofReport, if_pos (Option.isSome_iff_ne_none.mpr hfailure)] at hcode
    contradiction
  obtain ⟨loaded, hok⟩ := exists_loaded_of_dump hfailure
  exact ⟨loaded, hok, stdout_dump hok⟩

/-- A dump of a root document that is walked to its end ends well. -/
theorem code_dump_of_not_stopped {label text : String} (hparse : Invocation.parse args = .ok i)
    (hcommand : i.command = .dump)
    (hload : LoadOf world (i.options world.environment) label text
      (load world (i.options world.environment)))
    (hwalked : (Load.walkText world (i.options world.environment) label text).stopped = false) :
    (run world args).code = 0 := by
  obtain ⟨loaded, hok⟩ := exists_loaded_of_not_stopped hwalked
  have houtcome := hload.outcome_eq.trans hok
  simp only [run, hparse, Report.ofInvocation, hcommand, Run.ofReport, Report.dump, houtcome]
  rfl

end Dumps

/-- A dump that ends well writes the configuration of its load to the standard stream, and a line
feed; before that, exactly if the first root file cannot be read, one line that says which file
is taken instead. This is so if nothing more is to be shown than by default. -/
theorem dump_writes_configuration (world : World) (args : List String) (i : Invocation)
    (hparse : Invocation.parse args = .ok i) (hcommand : i.command = .dump)
    (hquiet : i.verbose = false) (hunset : world.environment.value? "JWMRC_LOG".toList = none)
    (hcode : (run world args).code = 0) :
    let o := i.options world.environment
    ∃ loaded, (load world o).outcome = .ok loaded ∧
      (∀ text, world.readText [] o.configPath = .ok text →
        (run world args).stdout = loaded.config.dump ++ "\n") ∧
      ∀ cause, world.readText [] o.configPath = .error cause →
        (run world args).stdout =
          s!"  could not open {o.configPath}, using {o.fallbackPath}\n" ++
            (loaded.config.dump ++ "\n") := by
  intro o
  obtain ⟨loaded, hok, hstdout⟩ := exists_loaded_of_run hparse hcommand hquiet hunset hcode
  refine ⟨loaded, hok, ?_, ?_⟩
  · intro text hprimary
    rw [hstdout, fallbackNotice, hprimary]
    exact String.empty_append
  · intro cause hprimary
    rw [hstdout, fallbackNotice, hprimary]

section Shared

/-- A home without a file of its own, and a file for all. -/
def sharedWorld : World :=
  { World.holding "sys" "<JWM/>" with environment := { entries := [("HOME", "/home/user")] } }

/-- A dump of the given root files. -/
def sharedDump (config fallback : Option String) : Invocation :=
  { command := .dump, verbose := false, config, fallback, includeDepth := none }

theorem readText_sharedWorld : sharedWorld.readText [] "sys" = .ok "<JWM/>" := by
  have hfile : sharedWorld.files [] "sys" = some (Text.asciiBytes "<JWM/>".toList) := by rfl
  exact readText_of_ascii hfile (by decide +kernel)

theorem parse_fallback : Invocation.parse ["--fallback", "sys", "dump"] =
    .ok (sharedDump none (some "sys")) := by decide +kernel

theorem code_fallback : (run sharedWorld ["--fallback", "sys", "dump"]).code = 0 :=
  code_dump_of_not_stopped parse_fallback rfl (.fallback rfl readText_sharedWorld)
    (by decide +kernel)

/-- This dump is more than the configuration: that the file for all is taken is said as well. -/
theorem dump_of_fallback_says_more :
    Invocation.parse ["--fallback", "sys", "dump"] = .ok (sharedDump none (some "sys")) ∧
    sharedWorld.environment.value? "JWMRC_LOG".toList = none ∧
    (run sharedWorld ["--fallback", "sys", "dump"]).code = 0 ∧
    ∃ loaded, (load sharedWorld ((sharedDump none (some "sys")).options
        sharedWorld.environment)).outcome = .ok loaded ∧
      (run sharedWorld ["--fallback", "sys", "dump"]).stdout =
        "  could not open /home/user/.jwmrc, using sys\n" ++ (loaded.config.dump ++ "\n") ∧
      (run sharedWorld ["--fallback", "sys", "dump"]).stdout ≠ loaded.config.dump ++ "\n" := by
  obtain ⟨loaded, hok, hstdout⟩ := exists_loaded_of_run parse_fallback rfl rfl rfl code_fallback
  have hnotice : fallbackNotice sharedWorld ((sharedDump none (some "sys")).options
      sharedWorld.environment) = "  could not open /home/user/.jwmrc, using sys\n" := by rfl
  rw [hnotice] at hstdout
  refine ⟨parse_fallback, rfl, code_fallback, loaded, hok, hstdout, ?_⟩
  intro halone
  have hlength := congrArg String.length (hstdout.symm.trans halone)
  rw [String.length_append] at hlength
  have hnonempty : 0 < "  could not open /home/user/.jwmrc, using sys\n".length := by decide
  omega

/-- The same file, as one's own and as the one for all. -/
theorem dump_writes_configuration_shared :
    (∃ loaded, (load sharedWorld ((sharedDump (some "sys") none).options
        sharedWorld.environment)).outcome = .ok loaded ∧
      (run sharedWorld ["-c", "sys", "dump"]).stdout = loaded.config.dump ++ "\n") ∧
    ∃ loaded, (load sharedWorld ((sharedDump none (some "sys")).options
        sharedWorld.environment)).outcome = .ok loaded ∧
      (run sharedWorld ["--fallback", "sys", "dump"]).stdout =
        "  could not open /home/user/.jwmrc, using sys\n" ++ (loaded.config.dump ++ "\n") := by
  have hparse : Invocation.parse ["-c", "sys", "dump"] = .ok (sharedDump (some "sys") none) := by
    decide +kernel
  have hcode : (run sharedWorld ["-c", "sys", "dump"]).code = 0 :=
    code_dump_of_not_stopped hparse rfl (.primary readText_sharedWorld) (by decide +kernel)
  obtain ⟨own, hown, hprimary, -⟩ :=
    dump_writes_configuration sharedWorld _ _ hparse rfl rfl rfl hcode
  obtain ⟨shared, hshared, -, hfallback⟩ :=
    dump_writes_configuration sharedWorld _ _ parse_fallback rfl rfl rfl code_fallback
  exact ⟨⟨own, hown, hprimary _ readText_sharedWorld⟩, shared, hshared, hfallback _ rfl⟩

end Shared

end DeskConfig
