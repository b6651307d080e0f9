import DialogueScript.Proofs.CommandLine.Loop
import DialogueScript.Proofs.Script.Written
/-!
# Processes

A process that runs a script finds the script in a file (`Setup.Finds`), begins
afresh or takes up the checkpoint in another file (`Setup.Begins`), and then
goes through its loop over turns (`perform_of_begins`). If it does not come
that far it ends with a failure that is none of an evaluation
(`loadScript_cases`, `beginRun_cases`).

Processes that follow one another share a `Setup`. Their script has to stay
where it is, so checkpoints must not be written over it (`Setup.Ready`). Both
files are below the working directory, since a world of plain data has no other
ones.
-/

namespace DialogueScript

namespace CommandLine

open Host Interpreter

/-- What processes have in common. -/
structure Setup where
  settings : Settings
  environment : List (String × String)
  path : String
  checkpoint : Option String

/-- A process: whether all turns are wanted at once, whether it goes on from a checkpoint, what it
has for input, and the orders in which its host lists tables. -/
structure Process where
  all : Bool
  resume : Bool
  input : Input := {}
  orders : List Order := []

namespace Setup

variable {s : Setup} {script : Instruction} {files files' : Files} {p : Process} {i : Interpreter}

/-- The file for checkpoints, if there is one. -/
def file? (s : Setup) : Option String := s.checkpoint.orElse fun _ => s.settings.checkpointPath

/-- What a process finds. -/
def world (s : Setup) (files : Files) (p : Process) : World :=
  { files, environment := s.environment, input := p.input, orders := p.orders }

/-- What a process does, once its arguments are read and its settings are loaded. So what is said
of processes in the same setup is said of ones whose settings stay as they are, and `executeIn`
comes to it from any arguments that ask for it (`executeIn_eq_perform`). -/
def perform (s : Setup) (files : Files) (p : Process) : Status × World :=
  (carryOut s.settings (.run s.path p.all s.checkpoint p.resume) : StateM World Status)
    (s.world files p)

/-- **A process does what its arguments ask for**, with the settings that are loaded. -/
theorem executeIn_eq_perform {args : List String} {config : Option String}
    (hargs : Invocation.parse args = some ⟨config, .run s.path p.all s.checkpoint p.resume⟩)
    (hsettings : (Settings.load config : StateM World _) (s.world files p) =
      (.ok s.settings, s.world files p)) :
    executeIn (s.world files p) args = s.perform files p := by
  change (execute args : StateM World Status) (s.world files p) = _
  rw [execute, hargs]
  dsimp only
  rw [bind_apply, hsettings]
  rfl

/-! ## What a process finds -/

/-- The script that a process finds. -/
def Finds (s : Setup) (files : Files) (script : Instruction) : Prop :=
  ∃ source, files.read s.path = .ok (.text source) ∧ Instruction.read source = .ok script

/-- The run a process begins with: a fresh one, or the one whose checkpoint is in the file. -/
def Begins (s : Setup) (files : Files) (p : Process) (script : Instruction) (i : Interpreter) :
    Prop :=
  (p.resume = false ∧ i = .fresh script) ∨
    (p.resume = true ∧ ∃ file text c, s.file? = some file ∧ files.read file = .ok (.text text) ∧
      Checkpoint.read text = .ok c ∧ Interpreter.resume script c = .ok i)

/-- A script is found where it is written. -/
theorem finds_of_read_write (hread : files.read s.path = .ok (.text script.write))
    (hdepth : script.toJson.depth ≤ Json.depthLimit)
    (hnumbers : ∀ x ∈ script.numbers, Json.Reproduced x) : s.Finds files script :=
  ⟨script.write, hread,
    Instruction.read_of_spells hdepth hnumbers (Json.spells_compactChars script.toJson)⟩

theorem readText_of_read {w : World} {path text : String}
    (h : w.files.read path = .ok (.text text)) :
    (readText path : StateM World _) w = (.ok text, w) := by
  have hhost : (Host.readFile path : StateM World _) w = (.ok (.text text), w) :=
    congrArg (·, w) h
  rw [readText, bind_apply, hhost]
  rfl

theorem loadScript_of_read {w : World} {path source : String}
    (hread : w.files.read path = .ok (.text source))
    (hsource : Instruction.read source = .ok script) :
    (loadScript path : StateM World _) w = (.ok script, w) := by
  rw [loadScript, bind_apply, readText_of_read hread]
  dsimp only
  rw [hsource]
  rfl

/-- A process that finds its script runs it. -/
theorem perform_eq_runScript (h : s.Finds files script) :
    s.perform files p =
      (runScript s.settings script p.all s.checkpoint p.resume : StateM World _)
        (s.world files p) := by
  obtain ⟨source, hread, hsource⟩ := h
  have hload : (loadScript s.path : StateM World _) (s.world files p) =
      (.ok script, s.world files p) := loadScript_of_read hread hsource
  rw [perform, carryOut, bind_apply, hload]

theorem beginRun_of_begins (h : s.Begins files p script i) :
    (beginRun script p.resume s.file? : StateM World _) (s.world files p) =
      (.ok i, s.world files p) := by
  rcases h with ⟨hresume, rfl⟩ | ⟨hresume, file, text, c, hfile, hread, hparse, hi⟩
  · unfold beginRun
    rw [hresume]
    rfl
  · have hread' : (s.world files p).files.read file = .ok (.text text) := hread
    unfold beginRun
    rw [hresume, hfile]
    simp only [Bool.not_true, Bool.false_eq_true, if_false]
    rw [bind_apply, readText_of_read hread']
    simp only [hparse, hi]
    rfl

/-- **A process that finds its script and its checkpoint goes through its turns.** -/
theorem perform_of_begins (hfinds : s.Finds files script) (h : s.Begins files p script i) :
    s.perform files p =
      (runTurns p.all s.settings.echoVars s.file? (i.stepper.bound + 1) i : StateM World _)
        (s.world files p) := by
  rw [perform_eq_runScript hfinds, runScript]
  change (beginRun script p.resume s.file? >>= _ : StateM World _) _ = _
  rw [bind_apply, beginRun_of_begins h]
  rfl

/-! What a process does that does not find them is something else than to fail in a turn. -/

theorem readText_cases (path : String) (w : World) :
    (∃ e, (readText path : StateM World _) w = (.error e, w)) ∨
      ∃ text, w.files.read path = .ok (.text text) := by
  have hhost : (Host.readFile path : StateM World _) w = (w.files.read path, w) := rfl
  rcases hread : w.files.read path with e | content
  · exact .inl ⟨e, by rw [readText, bind_apply, hhost, hread]; rfl⟩
  · cases content with
    | text text => exact .inr ⟨text, rfl⟩
    | binary bytes =>
      exact .inl ⟨.notText, by rw [readText, bind_apply, hhost, hread]; rfl⟩

theorem loadScript_cases (path : String) (w : World) :
    (∃ f, (loadScript path : StateM World _) w = (.error f, w) ∧ ∀ e, f ≠ .run e) ∨
      ∃ source script, w.files.read path = .ok (.text source) ∧
        Instruction.read source = .ok script := by
  rcases readText_cases path w with ⟨e, htext⟩ | ⟨source, hread⟩
  · exact .inl ⟨.readScript path e, by rw [loadScript, bind_apply, htext]; rfl, by rintro _ ⟨⟩⟩
  · rcases hsource : Instruction.read source with fault | script
    · refine .inl ⟨.parseScript path fault, ?_, by rintro _ ⟨⟩⟩
      rw [loadScript, bind_apply, readText_of_read hread]
      dsimp only
      rw [hsource]
      rfl
    · exact .inr ⟨source, script, hread, hsource⟩

theorem beginRun_cases (s : Setup) (files : Files) (p : Process) (script : Instruction) :
    (∃ f, (beginRun script p.resume s.file? : StateM World _) (s.world files p) =
        (.error f, s.world files p) ∧ ∀ path err, f ≠ .run (.eval path err)) ∨
      ∃ i, s.Begins files p script i := by
  cases hresume : p.resume with
  | false => exact .inr ⟨_, .inl ⟨hresume, rfl⟩⟩
  | true =>
    unfold beginRun
    simp only [Bool.not_true, Bool.false_eq_true, if_false]
    cases hfile : s.file? with
    | none => exact .inl ⟨.noCheckpoint, rfl, by rintro _ _ ⟨⟩⟩
    | some file =>
      dsimp only
      rcases readText_cases file (s.world files p) with ⟨e, htext⟩ | ⟨text, hread⟩
      · exact .inl ⟨.readCheckpoint file e, by rw [bind_apply, htext]; rfl, by rintro _ _ ⟨⟩⟩
      rw [bind_apply, readText_of_read hread]
      dsimp only
      rcases hparse : Checkpoint.read text with fault | c
      · exact .inl ⟨.parseCheckpoint file fault, rfl, by rintro _ _ ⟨⟩⟩
      rcases hi : Interpreter.resume script c with e | i
      · refine .inl ⟨.run e, by simp only [hi]; rfl, ?_⟩
        -- what is wrong with a checkpoint is where it says the run stands
        rintro path err ⟨⟩
        unfold Interpreter.resume at hi
        split at hi <;> cases hi
      · exact .inr ⟨i, .inr ⟨hresume, file, text, c, hfile, hread, hparse, hi⟩⟩

/-! ## What stays -/

/-- Files in which the script can be found, and a file for checkpoints, if there is one, can be
written and is another than that of the script. -/
structure Ready (s : Setup) (script : Instruction) (files : Files) : Prop where
  finds : s.Finds files script
  writable : Writable files s.file?
  apart : ∀ file, s.file? = some file →
    files.target? .writing file ≠ files.target? .reading s.path

/-- Saving a turn leaves the files ready. -/
theorem Ready.of_write {file text : String} (h : s.Ready script files) (hfile : s.file? = some file)
    (hwrite : files.write file text = .ok files') : s.Ready script files' := by
  obtain ⟨source, hread, hsource⟩ := h.finds
  obtain ⟨-, htarget⟩ := Files.read_of_write hwrite
  -- the script is not what is written, so it is still there
  obtain ⟨hread', htarget'⟩ := Files.read_of_write_ne hwrite hread (h.apart file hfile)
  refine ⟨⟨source, hread', hsource⟩, ?_, ?_⟩
  · intro other hother
    obtain rfl : file = other := Option.some.inj (hfile.symm.trans hother)
    rw [htarget]
    exact h.writable file hfile
  · intro other hother
    obtain rfl : file = other := Option.some.inj (hfile.symm.trans hother)
    rw [htarget, htarget']
    exact h.apart file hfile

/-- **Saving turns leaves the files ready.** -/
theorem Ready.of_saved {turns : List Interpreter} (h : s.Ready script files)
    (hsaved : Saved s.file? files turns files') : s.Ready script files' := by
  cases hfile : s.file? with
  | none =>
    rw [hfile, Saved] at hsaved
    rwa [hsaved]
  | some file =>
    rw [hfile] at hsaved
    induction turns generalizing files with
    | nil => rwa [eq_of_saved_nil hsaved]
    | cons j rest ih =>
      obtain ⟨text, files₁, -, hwrite, hsaved⟩ := hsaved
      exact ih (h.of_write hfile hwrite) hsaved

end Setup

end CommandLine

end DialogueScript
