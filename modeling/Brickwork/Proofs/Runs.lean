import Brickwork.CommandLine.Run
import Brickwork.Proofs.Document.Interruption

/-!
# What a run leaves behind

A run that fails leaves all files as they were and prints nothing to standard output. A run that
succeeds puts the sketch to standard output or into one file, and leaves all other files as they
were.

Files are looked at through `node?`: what a tree holds at each place below its root.
-/

namespace Brickwork.CommandLine

namespace FileTree

variable {tree : FileTree}

/-! ## Trees -/

lemma lookup_replace_self {nodes : List (Path × Node)} {place : Path} {node : Node}
    (present : ∃ entry ∈ nodes, entry.1 = place) :
    (nodes.map fun entry => if entry.1 = place then (place, node) else entry).lookup place =
      some node := by
  induction nodes with
  | nil =>
    obtain ⟨_, mem, _⟩ := present
    cases mem
  | cons entry nodes ih =>
    rw [List.map_cons]
    by_cases here : entry.1 = place
    · rw [if_pos here, List.lookup_cons, beq_self_eq_true]
    · rw [if_neg here, List.lookup_cons, beq_eq_false_iff_ne.mpr (Ne.symm here)]
      obtain ⟨other, mem, eq⟩ := present
      obtain rfl | mem := List.mem_cons.mp mem
      · exact absurd eq here
      · exact ih ⟨other, mem, eq⟩

lemma lookup_replace_of_ne {nodes : List (Path × Node)} {place other : Path} {node : Node}
    (ne : other ≠ place) :
    (nodes.map fun entry => if entry.1 = place then (place, node) else entry).lookup other =
      nodes.lookup other := by
  induction nodes with
  | nil => rfl
  | cons entry nodes ih =>
    rw [List.map_cons]
    by_cases here : entry.1 = place
    · rw [if_pos here, List.lookup_cons, List.lookup_cons, here, beq_eq_false_iff_ne.mpr ne, ih]
    · rw [if_neg here, List.lookup_cons, List.lookup_cons, ih]

/-- The directories on the way to the working directory are there. -/
lemma node?_take_working (tree : FileTree) (n : Nat) :
    tree.node? (tree.working.take n) = some .directory := by
  rw [node?, if_pos]
  rw [List.length_take, ← List.take_take, List.take_length]

lemma node?_insert_self (tree : FileTree) {place : Path} (node : Node)
    (vacant : tree.node? place ≠ some .directory) :
    (tree.insert place node).node? place = some node := by
  have aside : ¬tree.working.take place.length = place := fun way => vacant (if_pos way)
  show (if tree.working.take place.length = place then _ else _) = _
  rw [if_neg aside, insert]
  dsimp only
  split
  case isTrue present =>
    obtain ⟨entry, mem, eq⟩ := List.any_eq_true.mp present
    exact lookup_replace_self ⟨entry, mem, of_decide_eq_true eq⟩
  case isFalse absent =>
    have missing : tree.nodes.lookup place = none := by
      refine List.lookup_eq_none_iff.mpr fun entry mem => bne_iff_ne.mpr fun eq => ?_
      exact absent (List.any_eq_true.mpr ⟨entry, mem, decide_eq_true eq.symm⟩)
    rw [List.lookup_append, missing, Option.none_or, List.lookup_cons, beq_self_eq_true]

lemma node?_insert_of_ne (tree : FileTree) {place other : Path} (node : Node) (ne : other ≠ place) :
    (tree.insert place node).node? other = tree.node? other := by
  rw [node?, node?, insert]
  dsimp only
  split
  · rfl
  split
  · exact lookup_replace_of_ne ne
  · rw [List.lookup_append, List.lookup_cons, beq_eq_false_iff_ne.mpr ne, List.lookup_nil,
      Option.or_none]

/-! ## Paths -/

/-- Every directory on the way is one of the tree, so that a path leads into a directory of the
tree. -/
lemma parent_of_walk {directory place : Path} {parts : List String}
    (way : ∀ n, tree.node? (directory.take n) = some .directory)
    (h : tree.walk directory parts = .ok place) : tree.node? place.dropLast = some .directory := by
  induction parts generalizing directory with
  | nil =>
    cases h
    rw [List.dropLast_eq_take]
    exact way _
  | cons part rest ih =>
    rw [walk] at h
    split at h
    · exact ih way h
    split at h
    · apply ih _ h
      intro n
      rw [List.dropLast_eq_take, List.take_take]
      exact way _
    split at h
    · cases h
      rw [List.dropLast_concat]
      have whole := way directory.length
      rwa [List.take_length] at whole
    split at h
    case h_1 found =>
      apply ih _ h
      intro n
      rcases Nat.lt_or_ge directory.length n with beyond | within
      · rwa [List.take_of_length_le (by rwa [List.length_append])]
      · rw [List.take_append_of_le_length within]
        exact way n
    case h_2 => cases h
    case h_3 => cases h

lemma parent_of_locate {path : String} {place : Path} (h : tree.locate path = .ok place) :
    tree.node? place.dropLast = some .directory := by
  rw [locate] at h
  split at h
  · cases h
  · apply parent_of_walk _ h
    intro n
    rw [List.take_nil]
    exact tree.node?_take_working 0
  · exact parent_of_walk tree.node?_take_working h

/-- A path leads to a place where a file can be written: in a directory of the tree, and no
directory itself. -/
structure Writable (tree : FileTree) (path : String) (place : Path) : Prop where
  /-- Only a directory can be named with a slash at the end. -/
  bare : withoutSlashes path = path
  leads : tree.locate path = .ok place
  parent : tree.node? place.dropLast = some .directory
  vacant : tree.node? place ≠ some .directory
  short : path.utf8ByteSize ≤ maxPath
  name_short : (place.getLastD "").utf8ByteSize ≤ maxName

lemma write_eq_ok {path : String} {bytes : List UInt8} {after : FileTree} :
    tree.write path bytes = .ok after ↔
      ∃ place, tree.Writable path place ∧ after = tree.insert place (.file bytes) := by
  constructor
  · intro h
    rw [write] at h
    split at h
    · cases h
    case isFalse short =>
      split at h
      case h_1 place leads =>
        split at h
        · cases h
        case isFalse vacant =>
          split at h
          · cases h
          case isFalse name_short =>
            rw [not_or, not_not] at vacant
            rw [vacant.2] at leads
            cases h
            exact ⟨place, ⟨vacant.2, leads, parent_of_locate leads, vacant.1,
              Nat.le_of_not_lt short, Nat.le_of_not_lt name_short⟩, rfl⟩
      case h_2 => cases h
  · rintro ⟨place, writable, rfl⟩
    rw [write, if_neg (Nat.not_lt_of_le writable.short), writable.bare, writable.leads]
    dsimp only
    rw [if_neg, if_neg (Nat.not_lt_of_le writable.name_short)]
    rintro (directory | slashes)
    · exact writable.vacant directory
    · exact slashes rfl

end FileTree

/-! ## Runs -/

namespace Arguments

variable {arguments : Arguments} {tree : FileTree} {standard : List UInt8} {app : App}
  {sketch : String} {outcome : Outcome}

/-- The model is read as the app, from standard input or from a file. -/
inductive Loads (arguments : Arguments) (tree : FileTree) (standard : List UInt8) (app : App) : Prop
  | standard (named : arguments.model = "-")
    (loaded : App.load "<stdin>" ⟨standard, .complete⟩ = .ok app)
  | file {bytes : List UInt8} (named : arguments.model ≠ "-")
    (found : tree.find arguments.model = .ok (.file bytes))
    (loaded : App.load arguments.model ⟨bytes, .complete⟩ = .ok app)

/-- There is a reason for the run to fail. -/
inductive Fails (arguments : Arguments) (tree : FileTree) (standard : List UInt8) : Prop
  | tooVerbose (verbose : 4 < arguments.verbosity)
  | unloaded (unread : ∀ app, ¬arguments.Loads tree standard app)
  | ungenerated {app : App} (loads : arguments.Loads tree standard app)
    (unmade : ∀ sketch, generate app ⟨arguments.board, arguments.debounce⟩ ≠ .ok sketch)
  | unwritable (named : arguments.output ≠ "-")
    (barred : ∀ place, ¬tree.Writable arguments.output place)

/-- A directory can be opened, but no model is read from it. -/
lemma not_load_directory {source cause : String} :
    App.load source ⟨[], .failing cause⟩ ≠ .ok app := by
  rw [Ne, App.load_eq_ok]
  obtain cut | ⟨⟨reason, position, malformed⟩, _⟩ :=
    Document.Reader.run_failing (Document.Reader.spends_app Document.maxRoom) cause [] []
  · rw [cut]
    exact nofun
  · rw [malformed]
    exact nofun

/-- What the model is read from. -/
def input (arguments : Arguments) (tree : FileTree) (standard : List UInt8) :
    Except String Document.Input :=
  if arguments.readsStandard then .ok ⟨standard, .complete⟩ else tree.read arguments.model

lemma loads_iff : arguments.Loads tree standard app ↔
    ∃ input, arguments.input tree standard = .ok input ∧
      App.load arguments.source input = .ok app := by
  by_cases named : arguments.model = "-"
  · have reads : arguments.readsStandard = true := decide_eq_true named
    rw [input, source, if_pos reads, if_pos reads]
    constructor
    · rintro (⟨_, loaded⟩ | ⟨other, _, _⟩)
      · exact ⟨_, rfl, loaded⟩
      · exact absurd named other
    · rintro ⟨_, ⟨⟩, loaded⟩
      exact .standard named loaded
  · have reads : ¬arguments.readsStandard = true := fun reads => named (of_decide_eq_true reads)
    rw [input, source, if_neg reads, if_neg reads, FileTree.read]
    constructor
    · rintro (⟨other, _⟩ | ⟨_, found, loaded⟩)
      · exact absurd other named
      · rw [found]
        exact ⟨_, rfl, loaded⟩
    · rintro ⟨input, opened, loaded⟩
      split at opened
      case h_1 bytes found =>
        cases opened
        exact .file named found loaded
      case h_2 =>
        cases opened
        exact absurd loaded not_load_directory
      case h_3 => cases opened

lemma Loads.unique {app' : App} (loads : arguments.Loads tree standard app)
    (loads' : arguments.Loads tree standard app') : app = app' := by
  obtain ⟨input, opened, loaded⟩ := loads_iff.mp loads
  obtain ⟨input', opened', loaded'⟩ := loads_iff.mp loads'
  cases opened.symm.trans opened'
  cases loaded.symm.trans loaded'
  rfl

lemma sketch_eq_ok {input : Document.Input} : arguments.sketch input = .ok (app, sketch) ↔
    App.load arguments.source input = .ok app ∧ generate app arguments.options = .ok sketch := by
  rw [Arguments.sketch, bind_eq_ok]
  constructor
  · rintro ⟨app', loaded, h⟩
    obtain ⟨sketch', generated, h⟩ := bind_eq_ok.mp h
    cases h
    exact ⟨mapError_eq_ok.mp loaded, mapError_eq_ok.mp generated⟩
  · rintro ⟨loaded, generated⟩
    exact ⟨app, mapError_eq_ok.mpr loaded,
      bind_eq_ok.mpr ⟨sketch, mapError_eq_ok.mpr generated, rfl⟩⟩

/-- A run that shows a log it can show comes to its model. -/
lemma perform_script_of_ok {input : Document.Input} (quiet : arguments.verbosity ≤ maxVerbosity)
    (opened : arguments.input outcome.tree standard = .ok input) :
    arguments.script.perform standard outcome =
      (arguments.convert input).perform standard outcome := by
  rw [Arguments.input] at opened
  rw [script, if_neg (Nat.not_lt_of_le quiet)]
  split at opened
  case isTrue reads =>
    cases opened
    rw [if_pos reads, Script.perform]
  case isFalse reads => rw [if_neg reads, Script.perform, opened]

lemma perform_script_of_error {cause : String} (quiet : arguments.verbosity ≤ maxVerbosity)
    (unopened : arguments.input outcome.tree standard = .error cause) :
    arguments.script.perform standard outcome =
      (Script.failed (.unopened arguments.model cause)).perform standard outcome := by
  rw [Arguments.input] at unopened
  rw [script, if_neg (Nat.not_lt_of_le quiet)]
  split at unopened
  case isTrue => cases unopened
  case isFalse reads => rw [if_neg reads, Script.perform, unopened]

/-- A run fails before it comes to the output, or it has a sketch to put there. -/
lemma script_cases (arguments : Arguments) (tree : FileTree) (standard : List UInt8) :
    (∃ log, arguments.script.perform standard { tree } = { code := 1, stderr := log, tree }) ∧
      (4 < arguments.verbosity ∨ ∀ app sketch, arguments.Loads tree standard app →
        generate app arguments.options ≠ .ok sketch) ∨
    ∃ app sketch log, arguments.verbosity ≤ 4 ∧ arguments.Loads tree standard app ∧
      generate app arguments.options = .ok sketch ∧
      arguments.script.perform standard { tree } =
        (arguments.deliver app sketch).perform standard { stderr := log, tree } := by
  rcases Nat.lt_or_ge maxVerbosity arguments.verbosity with verbose | quiet
  · rw [script, if_pos verbose]
    exact .inl ⟨⟨_, rfl⟩, .inl verbose⟩
  cases opened : arguments.input tree standard with
  | error cause =>
    refine .inl ⟨⟨_, perform_script_of_error quiet opened⟩, .inr fun app sketch loads => ?_⟩
    obtain ⟨input, opened', _⟩ := loads_iff.mp loads
    cases opened.symm.trans opened'
  | ok input =>
    rw [perform_script_of_ok quiet opened, convert, Script.perform]
    cases made : arguments.sketch input with
    | error error =>
      refine .inl ⟨⟨_, rfl⟩, .inr fun app sketch loads generated => ?_⟩
      obtain ⟨input', opened', loaded⟩ := loads_iff.mp loads
      cases opened.symm.trans opened'
      cases made.symm.trans (sketch_eq_ok.mpr ⟨loaded, generated⟩)
    | ok result =>
      obtain ⟨app, sketch⟩ := result
      obtain ⟨loaded, generated⟩ := sketch_eq_ok.mp made
      have loads := loads_iff.mpr ⟨input, opened, loaded⟩
      exact .inr ⟨app, sketch, _, quiet, loads, generated, rfl⟩

/-- A sketch goes to standard output, or into the file at the place that the output path leads to,
if it can be written there. -/
lemma deliver_cases (arguments : Arguments) (tree : FileTree) (log : String) (app : App)
    (sketch : String) :
    (arguments.output = "-" ∧
      (arguments.deliver app sketch).perform standard { stderr := log, tree } =
        { code := 0, stdout := sketch, stderr := log, tree }) ∨
    (∃ log' place, arguments.output ≠ "-" ∧ tree.Writable arguments.output place ∧
      (arguments.deliver app sketch).perform standard { stderr := log, tree } =
        { code := 0, stderr := log', tree := tree.insert place (.file (Text.encode sketch)) }) ∨
    ∃ log', arguments.output ≠ "-" ∧ (∀ place, ¬tree.Writable arguments.output place) ∧
      (arguments.deliver app sketch).perform standard { stderr := log, tree } =
        { code := 1, stderr := log', tree } := by
  rw [deliver]
  split
  case isTrue writes =>
    refine .inl ⟨of_decide_eq_true writes, ?_⟩
    rw [Script.perform, Script.perform, String.empty_append]
  case isFalse writes =>
    have named : arguments.output ≠ "-" := fun named => writes (decide_eq_true named)
    rw [Script.perform]
    split
    case h_1 after written =>
      obtain ⟨place, writable, rfl⟩ := FileTree.write_eq_ok.mp written
      exact .inr (.inl ⟨_, place, named, writable, rfl⟩)
    case h_2 error unwritten =>
      refine .inr (.inr ⟨_, named, fun place writable => ?_, rfl⟩)
      rw [FileTree.write_eq_ok.mpr ⟨place, writable, rfl⟩] at unwritten
      cases unwritten

/-- With a sketch at hand, only the output is left to fail. -/
lemma Fails.output (fails : arguments.Fails tree standard) (quiet : arguments.verbosity ≤ 4)
    (loads : arguments.Loads tree standard app)
    (generated : generate app arguments.options = .ok sketch) :
    arguments.output ≠ "-" ∧ ∀ place, ¬tree.Writable arguments.output place := by
  cases fails with
  | tooVerbose verbose => exact absurd verbose (Nat.not_lt_of_le quiet)
  | unloaded unread => exact absurd loads (unread app)
  | ungenerated loads' unmade =>
    cases loads.unique loads'
    exact absurd generated (unmade sketch)
  | unwritable named barred => exact ⟨named, barred⟩

lemma failed_of_fails (fails : arguments.Fails tree standard) :
    ∃ log, arguments.script.perform standard { tree } = { code := 1, stderr := log, tree } := by
  obtain ⟨failed, _⟩ | ⟨app, sketch, log, quiet, loads, generated, eq⟩ :=
    arguments.script_cases tree standard
  · exact failed
  rw [eq]
  obtain ⟨named, barred⟩ := fails.output quiet loads generated
  obtain ⟨named', _⟩ | ⟨_, place, _, writable, _⟩ | ⟨log', _, _, failed⟩ :=
    arguments.deliver_cases tree log app sketch
  · exact absurd named' named
  · exact absurd writable (barred place)
  · exact ⟨log', failed⟩

lemma delivered_of_not_fails (lasts : ¬arguments.Fails tree standard) :
    ∃ app sketch log, arguments.Loads tree standard app ∧
      generate app arguments.options = .ok sketch ∧
      (arguments.output = "-" ∧
        arguments.script.perform standard { tree } =
          { code := 0, stdout := sketch, stderr := log, tree } ∨
      arguments.output ≠ "-" ∧ ∃ place, tree.Writable arguments.output place ∧
        arguments.script.perform standard { tree } =
          { code := 0, stderr := log,
            tree := tree.insert place (.file (Text.encode sketch)) }) := by
  obtain ⟨_, verbose | unmade⟩ | ⟨app, sketch, log, _, loads, generated, eq⟩ :=
    arguments.script_cases tree standard
  · exact absurd (.tooVerbose verbose) lasts
  · by_cases loaded : ∃ app, arguments.Loads tree standard app
    · obtain ⟨app, loads⟩ := loaded
      exact absurd (.ungenerated loads fun sketch => unmade app sketch loads) lasts
    · exact absurd (.unloaded fun app loads => loaded ⟨app, loads⟩) lasts
  rw [eq]
  obtain ⟨named, ends⟩ | ⟨log', place, named, writable, ends⟩ | ⟨_, named, barred, _⟩ :=
    arguments.deliver_cases tree log app sketch
  · exact ⟨app, sketch, log, loads, generated, .inl ⟨named, ends⟩⟩
  · exact ⟨app, sketch, log', loads, generated, .inr ⟨named, place, writable, ends⟩⟩
  · exact absurd (.unwritable named barred) lasts

end Arguments

/-- A run that is asked for a sketch fails if it is asked for too much of the log, if no model is
loaded, if there is no sketch of the model, or if the output cannot be written. Then all files are
as before, and nothing is printed. Otherwise the sketch goes to standard output or into the one file
that the output path leads to, and all else is as before. -/
theorem run_leaves_files {words : List String} {arguments : Arguments}
    (accepted : Request.ofArguments words = .run arguments) (tree : FileTree)
    (standard : List UInt8) :
    (arguments.Fails tree standard →
      (run words tree standard).code ≠ 0 ∧ (run words tree standard).tree = tree ∧
        (run words tree standard).stdout = "") ∧
    (¬arguments.Fails tree standard →
      (run words tree standard).code = 0 ∧
      ∃ app sketch, arguments.Loads tree standard app ∧
        generate app ⟨arguments.board, arguments.debounce⟩ = .ok sketch ∧
        (arguments.output = "-" →
          (run words tree standard).stdout = sketch ∧ (run words tree standard).tree = tree) ∧
        (arguments.output ≠ "-" → (run words tree standard).stdout = "" ∧
          ∃ place, tree.Writable arguments.output place ∧
            (run words tree standard).tree.node? place = some (.file (Text.encode sketch)) ∧
            ∀ other ≠ place, (run words tree standard).tree.node? other = tree.node? other)) := by
  have runs : run words tree standard = arguments.script.perform standard { tree } := by
    rw [run, script, accepted]
  rw [runs]
  constructor
  · intro fails
    obtain ⟨log, ends⟩ := Arguments.failed_of_fails fails
    rw [ends]
    have failure : (1 : UInt32) ≠ 0 := by decide
    exact ⟨failure, rfl, rfl⟩
  · intro lasts
    obtain ⟨app, sketch, log, loads, generated, ends⟩ := Arguments.delivered_of_not_fails lasts
    obtain ⟨named, ends⟩ | ⟨named, place, writable, ends⟩ := ends
    · rw [ends]
      exact ⟨rfl, app, sketch, loads, generated, fun _ => ⟨rfl, rfl⟩,
        fun other => absurd named other⟩
    · rw [ends]
      refine ⟨rfl, app, sketch, loads, generated, fun other => absurd other named, fun _ => ?_⟩
      exact ⟨rfl, place, writable, tree.node?_insert_self _ writable.vacant,
        fun other ne => tree.node?_insert_of_ne _ ne⟩

/-- A model of one state. -/
def lamp : List UInt8 :=
  Document.object [("name", Document.quote "lamp"), ("initial", Document.quote "on"),
    ("states", Document.array [Document.object [("name", Document.quote "on")]])]

/-- A tree whose working directory holds the model, another file and a directory. -/
def desk : FileTree where
  nodes := [(["home", "lamp.json"], .file lamp), (["home", "out"], .directory),
    (["home", "notes.txt"], .file (Text.encode "buy bulbs")), (["srv"], .directory)]
  working := ["home"]

/-- The model is overwritten by its own sketch, and its sketch goes into another directory by a path
from the root; a directory is not overwritten. -/
theorem run_leaves_files_desk :
    ((run ["-o", "lamp.json", "lamp.json"] desk []).code = 0 ∧
      ∃ app sketch, App.load "lamp.json" ⟨lamp, .complete⟩ = .ok app ∧
        generate app ⟨.uno, 200⟩ = .ok sketch ∧
        (run ["-o", "lamp.json", "lamp.json"] desk []).tree.node? ["home", "lamp.json"] =
          some (.file (Text.encode sketch)) ∧
        (run ["-o", "lamp.json", "lamp.json"] desk []).tree.node? ["home", "notes.txt"] =
          some (.file (Text.encode "buy bulbs"))) ∧
    ((run ["-o", "/srv/lamp.ino", "../home/lamp.json"] desk []).code = 0 ∧
      ∃ app sketch, App.load "../home/lamp.json" ⟨lamp, .complete⟩ = .ok app ∧
        generate app ⟨.uno, 200⟩ = .ok sketch ∧
        (run ["-o", "/srv/lamp.ino", "../home/lamp.json"] desk []).tree.node? ["srv", "lamp.ino"] =
          some (.file (Text.encode sketch)) ∧
        (run ["-o", "/srv/lamp.ino", "../home/lamp.json"] desk []).tree.node?
          ["home", "notes.txt"] = some (.file (Text.encode "buy bulbs"))) ∧
    (run ["-o", "out", "lamp.json"] desk []).code ≠ 0 ∧
      (run ["-o", "out", "lamp.json"] desk []).tree = desk := by
  have writes : ∀ {output model : String} {place : Path},
      Request.ofArguments ["-o", output, model] = .run { output, model } →
      output ≠ "-" → model ≠ "-" → desk.find model = .ok (.file lamp) →
      (Arguments.sketch { output, model } ⟨lamp, .complete⟩).isOk = true →
      desk.Writable output place → ["home", "notes.txt"] ≠ place →
      (run ["-o", output, model] desk []).code = 0 ∧
      ∃ app sketch, App.load model ⟨lamp, .complete⟩ = .ok app ∧
        generate app ⟨.uno, 200⟩ = .ok sketch ∧
        (run ["-o", output, model] desk []).tree.node? place =
          some (.file (Text.encode sketch)) ∧
        (run ["-o", output, model] desk []).tree.node? ["home", "notes.txt"] =
          some (.file (Text.encode "buy bulbs")) := by
    intro output model place accepted toFile fromFile found made writable aside
    obtain ⟨app, sketch, made⟩ : ∃ app sketch,
        Arguments.sketch { output, model } ⟨lamp, .complete⟩ = .ok (app, sketch) := by
      cases eq : Arguments.sketch { output, model } ⟨lamp, .complete⟩ with
      | error =>
        rw [eq] at made
        cases made
      | ok result => exact ⟨result.1, result.2, rfl⟩
    obtain ⟨loaded, generated⟩ := Arguments.sketch_eq_ok.mp made
    have named : Arguments.source { output, model } = model :=
      if_neg fun reads => fromFile (of_decide_eq_true reads)
    rw [named] at loaded
    have loads : Arguments.Loads { output, model } desk [] app := .file fromFile found loaded
    obtain ⟨code, app', sketch', loads', generated', _, written⟩ :=
      (run_leaves_files accepted desk []).2 fun fails =>
        (fails.output (Nat.zero_le 4) loads generated).2 place writable
    cases loads.unique loads'
    cases generated.symm.trans generated'
    obtain ⟨_, place', leads, holds, others⟩ := written toFile
    cases writable.leads.symm.trans leads.leads
    refine ⟨code, app, sketch, loaded, generated, holds, ?_⟩
    rw [others ["home", "notes.txt"] aside]
    decide +kernel
  refine ⟨?_, ?_, ?_⟩
  · have writable : desk.Writable "lamp.json" ["home", "lamp.json"] := by
      constructor <;> decide +kernel
    apply writes _ _ _ _ _ writable
    all_goals decide +kernel
  · have writable : desk.Writable "/srv/lamp.ino" ["srv", "lamp.ino"] := by
      constructor <;> decide +kernel
    apply writes _ _ _ _ _ writable
    all_goals decide +kernel
  · have accepted : Request.ofArguments ["-o", "out", "lamp.json"] =
        .run { output := "out", model := "lamp.json" } := by
      decide +kernel
    have occupied : desk.locate "out" = .ok ["home", "out"] := by
      decide +kernel
    have fails : Arguments.Fails { output := "out", model := "lamp.json" } desk [] := by
      refine .unwritable (by decide) fun place writable => ?_
      cases occupied.symm.trans writable.leads
      exact writable.vacant rfl
    obtain ⟨code, tree, _⟩ := (run_leaves_files accepted desk []).1 fails
    exact ⟨code, tree⟩

end Brickwork.CommandLine
