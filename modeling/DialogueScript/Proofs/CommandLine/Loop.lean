import DialogueScript.CommandLine.Run
import DialogueScript.Proofs.Host.Files
import DialogueScript.Proofs.Host.World
import DialogueScript.Proofs.Session.Reopening
import DialogueScript.Proofs.Session.Turns
/-!
# The loop over turns

A process runs turn by turn. One round of its loop prints the turn, saves its
checkpoint if there is a file for it, and then waits for a line of input unless
all turns are wanted at once or none is left. What a round leaves is `Told`, and
there are two ways for the loop to go on from there: without a line
(`runTurns_goes`), or with one if it can be read (`runTurns_waits`).

A checkpoint is written with its variables in whatever order the host lists
them. So all that is said of a file in which turns have been saved (`Saved`) is
that each text was one for the checkpoint of its turn.
-/

namespace DialogueScript

namespace CommandLine

open Host Interpreter

/-- One step after another, in surroundings that are plain data. -/
theorem bind_apply {α β : Type} (x : StateM World α) (f : α → StateM World β) (w : World) :
    (x >>= f) w = f (x w).1 (x w).2 := rfl

/-! ## What is saved -/

/-- What is written for a checkpoint is what some order gives. -/
theorem written_iff {c : Checkpoint} {text : String} :
    c.Written text ↔
      ∃ order : Order, text = (c.arranged (order.arrange c.scope.vars.entries)).pretty := by
  constructor
  · rintro ⟨entries, hperm, rfl⟩
    obtain ⟨order, rfl⟩ := Order.exists_arrange_eq hperm
    exact ⟨order, rfl⟩
  · rintro ⟨order, rfl⟩
    exact ⟨_, order.perm_arrange _, rfl⟩

/-- Files when turns have been saved one after the other, if there is a file for it. -/
def Saved : Option String → Files → List Interpreter → Files → Prop
  | none, files, _, files' => files' = files
  | some _, files, [], files' => files' = files
  | some path, files, i :: rest, files' =>
    ∃ text files₁, i.checkpoint.Written text ∧ files.write path text = .ok files₁ ∧
      Saved (some path) files₁ rest files'

theorem saved_nil (checkpoint : Option String) (files : Files) :
    Saved checkpoint files [] files := by
  cases checkpoint <;> simp [Saved]

theorem eq_of_saved_nil {checkpoint : Option String} {files files' : Files}
    (h : Saved checkpoint files [] files') : files' = files := by
  cases checkpoint <;> simpa only [Saved] using h

/-- The last turn that was saved is in the file. -/
theorem exists_read_of_saved {path : String} {turns : List Interpreter} {files files' : Files}
    {i : Interpreter} (h : Saved (some path) files turns files') (hlast : turns.getLast? = some i) :
    ∃ text, i.checkpoint.Written text ∧ files'.read path = .ok (.text text) := by
  induction turns generalizing files with
  | nil => cases hlast
  | cons j rest ih =>
    obtain ⟨text, files₁, hwritten, hwrite, hsaved⟩ := h
    cases rest with
    | nil =>
      cases hlast
      rw [eq_of_saved_nil hsaved]
      exact ⟨text, hwritten, (Files.read_of_write hwrite).1⟩
    | cons j' rest => exact ih hsaved (by simpa using hlast)

/-- A file that can be written. -/
def Writable (files : Files) (checkpoint : Option String) : Prop :=
  ∀ path, checkpoint = some path → files.target? .writing path ≠ none

variable {checkpoint : Option String} {all echoVars : Bool} {i j : Interpreter}
variable {w w' : World} {fuel : Nat}

/-- What is left when a turn has been printed and saved. -/
structure Told (checkpoint : Option String) (echoVars : Bool) (j : Interpreter) (w w' : World) :
    Prop where
  output : w'.output = w.output ++ turnReport echoVars j.scope
  input : w'.input = w.input
  writable : Writable w'.files checkpoint
  saved : ∀ rest files, Saved checkpoint w'.files rest files →
    Saved checkpoint w.files (j :: rest) files

/-- Saving lists the variables in the order that the host gives, and writes the text. -/
theorem saveRun_eq {path : String} {order : Order} {orders : List Order}
    (horder : w.takeOrder = (order, { w with orders })) :
    (saveRun (some path) j : StateM World _) w =
      match w.files.write path
        (j.checkpoint.arranged (order.arrange j.checkpoint.scope.vars.entries)).pretty with
      | .ok files => (.ok (), { w with orders, files })
      | .error e => (.error (.writeCheckpoint path e), { w with orders }) := by
  have hhost : (Host.order : StateM World _) w = (order, { w with orders }) := horder
  rw [saveRun, bind_apply, hhost]
  change ((fun w => World.writeFile w path _) >>= _ : StateM World _) _ = _
  rw [bind_apply, World.writeFile]
  dsimp only
  cases w.files.write path
    (j.checkpoint.arranged (order.arrange j.checkpoint.scope.vars.entries)).pretty with
  | ok files => rfl
  | error e => rfl

/-- A checkpoint is written, and the next one can be. -/
theorem exists_told (echoVars : Bool) (j : Interpreter) (h : Writable w.files checkpoint) :
    ∃ w', (saveRun checkpoint j : StateM World _) (w.print (turnReport echoVars j.scope)) =
        (.ok (), w') ∧ Told checkpoint echoVars j w w' := by
  cases checkpoint with
  | none =>
    refine ⟨_, rfl, rfl, rfl, h, fun rest files hsaved => ?_⟩
    rw [Saved] at hsaved ⊢
    exact hsaved
  | some path =>
    obtain ⟨name, hname⟩ := Option.ne_none_iff_exists'.1 (h path rfl)
    obtain ⟨order, orders, horder⟩ :=
      (w.print (turnReport echoVars j.scope)).exists_takeOrder
    let text := (j.checkpoint.arranged (order.arrange j.checkpoint.scope.vars.entries)).pretty
    have hwritten : j.checkpoint.Written text := written_iff.2 ⟨order, rfl⟩
    have hwrite : w.files.write path text = .ok (w.files.put name (.text text)) :=
      Files.write_eq_ok_iff.2 ⟨name, hname, rfl⟩
    refine ⟨{ w.print (turnReport echoVars j.scope) with
      orders, files := w.files.put name (.text text) }, ?_, rfl, rfl, ?_,
      fun rest files hsaved => ⟨text, _, hwritten, hwrite, hsaved⟩⟩
    · rw [saveRun_eq horder,
        show (w.print (turnReport echoVars j.scope)).files.write path _ = _ from hwrite]
    · -- a path leads where it led before the file was written
      rintro _ ⟨⟩
      rw [(Files.read_of_write hwrite).2]
      exact h path rfl

/-- A checkpoint for which there is no place is not written. -/
theorem exists_saveRun_error (j : Interpreter) (h : ¬ Writable w.files checkpoint) :
    ∃ file e, ((saveRun checkpoint j : StateM World _) w).1 =
      .error (.writeCheckpoint file e) := by
  obtain ⟨file, rfl, htarget⟩ : ∃ file, checkpoint = some file ∧
      w.files.target? .writing file = none := by
    simpa [Writable] using h
  obtain ⟨order, orders, horder⟩ := w.exists_takeOrder
  let text := (j.checkpoint.arranged (order.arrange j.checkpoint.scope.vars.entries)).pretty
  rcases hwrite : w.files.write file text with e | files'
  · refine ⟨file, e, ?_⟩
    rw [saveRun_eq horder, show w.files.write file _ = _ from hwrite]
  · obtain ⟨name, hname, -⟩ := Files.write_eq_ok_iff.1 hwrite
    rw [htarget] at hname
    cases hname

/-! ## How a loop ends -/

/-- How a process ends that waits for a line when no more can be read: well at the end of its
input, and with a failure in front of a line that is no text. -/
def stop (input : Input) : Status :=
  if ∀ line ∈ input.lines, IsText line then .done else .failed (.readLine .notText)

theorem stop_ne_run (input : Input) (e : RunError) : stop input ≠ .failed (.run e) := by
  intro h
  unfold stop at h
  split at h <;> cases h

/-- How a loop ends that has so many turns before it. -/
def ending (all : Bool) (input : Input) (count : Nat) : Status :=
  if all = true ∨ count ≤ input.readable + 1 then .done else stop input

theorem ending_cases (all : Bool) (input : Input) (count : Nat) :
    ending all input count = .done ∨ ending all input count = stop input := by
  unfold ending
  split
  · exact .inl rfl
  · exact .inr rfl

theorem ending_of_goes {input : Input} {count : Nat} (h : all = true ∨ count = 0) :
    ending all input (count + 1) = ending all input count := by
  rcases h with rfl | rfl
  · rfl
  · simp [ending]

/-- Behind a turn where no line can be read. -/
theorem ending_of_unreadable {input : Input} {count : Nat} (hall : all = false) (hcount : 0 < count)
    (h : input.readable = 0) : ending all input (count + 1) = stop input := by
  rw [ending, if_neg]
  rintro (hyes | hle)
  · rw [hall] at hyes
    cases hyes
  · omega

/-- Behind a turn where one is. -/
theorem ending_of_read {input input' : Input} {count : Nat}
    (h : input.readable = input'.readable + 1) (hstop : stop input = stop input') :
    ending all input (count + 1) = ending all input' count := by
  have hiff : (all = true ∨ count + 1 ≤ input.readable + 1) ↔
      (all = true ∨ count ≤ input'.readable + 1) := by
    rw [h, Nat.add_le_add_iff_right]
  unfold ending
  rw [if_congr hiff rfl hstop]

/-! ## One round -/

/-- One round of the loop over turns: the report, the checkpoint, and then a line of input unless
there is no need to wait for one. -/
theorem runTurns_turn (hnext : i.next = (.ok (.yielded j.scope), j))
    (hsave : (saveRun checkpoint j : StateM World _) (w.print (turnReport echoVars j.scope)) =
      (.ok (), w')) :
    (runTurns all echoVars checkpoint (fuel + 1) i : StateM World _) w =
      if all || j.isDone then (runTurns all echoVars checkpoint fuel j : StateM World _) w'
      else
        match (w'.print prompt).takeLine with
        | (.error e, w'') => (.failed (.readLine e), w'')
        | (.ok none, w'') => (.done, w'')
        | (.ok (some _), w'') =>
          (runTurns all echoVars checkpoint fuel j : StateM World _) w'' := by
  have hprint : (Host.print (turnReport echoVars j.scope) : StateM World _) w =
      ((), w.print (turnReport echoVars j.scope)) := rfl
  have hprompt : (Host.print prompt : StateM World _) w' = ((), w'.print prompt) := rfl
  have hline : (Host.readLine : StateM World _) (w'.print prompt) =
      (w'.print prompt).takeLine := rfl
  rw [runTurns, hnext]
  dsimp only
  rw [bind_apply, hprint, bind_apply, hsave]
  dsimp only
  split
  · rfl
  · rw [bind_apply, hprompt, bind_apply, hline]
    rcases (w'.print prompt).takeLine with ⟨e | line, w''⟩
    · rfl
    · cases line with
      | none => rfl
      | some text => rfl

/-- A round without a line to wait for. -/
theorem runTurns_goes (hnext : i.next = (.ok (.yielded j.scope), j))
    (hsave : (saveRun checkpoint j : StateM World _) (w.print (turnReport echoVars j.scope)) =
      (.ok (), w')) (hgoes : (all || j.isDone) = true) :
    (runTurns all echoVars checkpoint (fuel + 1) i : StateM World _) w =
      (runTurns all echoVars checkpoint fuel j : StateM World _) w' := by
  rw [runTurns_turn hnext hsave, if_pos hgoes]

/-- **A round that waits for a line** goes on with the rest of the input if it can read one, and
ends the loop if it cannot. -/
theorem runTurns_waits (fuel : Nat) (hnext : i.next = (.ok (.yielded j.scope), j))
    (hsave : (saveRun checkpoint j : StateM World _) (w.print (turnReport echoVars j.scope)) =
      (.ok (), w')) (hwaits : (all || j.isDone) = false) :
    (w'.input.readable = 0 ∧ ∃ w'',
      (runTurns all echoVars checkpoint (fuel + 1) i : StateM World _) w = (stop w'.input, w'') ∧
        w''.output = w'.output ++ prompt ∧ w''.files = w'.files) ∨
    ∃ w'', w'.input.readable = w''.input.readable + 1 ∧ stop w'.input = stop w''.input ∧
      (runTurns all echoVars checkpoint (fuel + 1) i : StateM World _) w =
        (runTurns all echoVars checkpoint fuel j : StateM World _) w'' ∧
      w''.output = w'.output ++ prompt ∧ w''.files = w'.files := by
  have hnot : ¬ (all || j.isDone) = true := by rw [hwaits]; exact Bool.false_ne_true
  rw [runTurns_turn hnext hsave, if_neg hnot]
  rcases (w'.print prompt).takeLine_cases with ⟨hlines, hline⟩ | ⟨line, input, hlines, hline⟩ <;>
    rw [hline] <;> replace hlines : w'.input.lines = _ := hlines
  · -- the input is at its end
    have hstop : stop w'.input = .done := by
      rw [stop, hlines, if_pos (List.forall_mem_nil _)]
    refine .inl ⟨Input.readable_of_nil hlines, w'.print prompt, ?_, rfl, rfl⟩
    rw [hstop]
  · by_cases htext : IsText line
    · obtain ⟨text, hread⟩ := exists_lineText htext
      have hstop : stop w'.input = stop input := by
        simp only [stop, hlines, List.forall_mem_cons, htext, true_and]
      refine .inr ⟨{ w'.print prompt with input }, Input.readable_of_isText hlines htext, hstop, ?_,
        rfl, rfl⟩
      rw [hread]
      rfl
    · -- the line is taken off, but what it says is never asked for
      have hstop : stop w'.input = .failed (.readLine .notText) := by
        rw [stop, hlines, if_neg]
        exact fun hall => htext (hall line List.mem_cons_self)
      refine .inl ⟨Input.readable_of_not hlines htext, { w'.print prompt with input }, ?_, rfl, rfl⟩
      rw [lineText_of_not htext, hstop]
      rfl

/-- A loop that finds the run over ends there. -/
theorem runTurns_over (h : i.isDone = true) :
    (runTurns all echoVars checkpoint (fuel + 1) i : StateM World _) w = (.done, w) := by
  rw [runTurns, next_of_isDone h]
  rfl

end CommandLine

end DialogueScript
