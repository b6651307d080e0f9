import DialogueScript.Host.World
/-!
# What writing a file changes

A file that is written lies in a directory that is there, so writing it makes
no new directories, and a path leads where it led before. What changes is the
content of the one file that was written: it is read back as it was written
(`read_of_write`), and every other file is read as before (`read_of_write_ne`).
-/

namespace DialogueScript

namespace Host

namespace Files

variable {files files' : Files} {name n dir : List String} {content : Content}

/-! ## Other content under a name -/

/-- Replacing the content of a name, as `put` does if there is one. -/
theorem lookup_replace (entries : List (List String × Content)) (name n : List String)
    (content : Content) :
    (entries.map fun (m, c) => if m == name then (m, content) else (m, c)).lookup n =
      if n = name then (entries.lookup name).map fun _ => content else entries.lookup n := by
  induction entries with
  | nil => simp
  | cons e entries ih =>
    obtain ⟨m, c⟩ := e
    simp only [List.map_cons]
    by_cases hm : m = name
    · subst hm
      by_cases hn : n = m
      · simp [hn]
      · simp only [beq_self_eq_true, if_true, List.lookup_cons, beq_false_of_ne hn, ih,
          if_neg hn]
    · by_cases hn : n = m
      · simp [hn, hm]
      · simp only [beq_false_of_ne hm, beq_false_of_ne hn, beq_false_of_ne (Ne.symm hm),
          Bool.false_eq_true, if_false, List.lookup_cons, ih]

/-- The name that was put has the content that was put. -/
theorem content?_put_self (files : Files) (name : List String) (content : Content) :
    (files.put name content).content? name = some content := by
  unfold put
  split
  · rename_i hsome
    obtain ⟨c, hc⟩ := Option.isSome_iff_exists.1 hsome
    rw [content?] at hc
    rw [content?, lookup_replace, if_pos rfl, hc]
    rfl
  · rename_i hnone
    rw [Option.not_isSome_iff_eq_none, content?] at hnone
    rw [content?, List.lookup_append, hnone]
    simp

/-- Every other name has the content it had. -/
theorem content?_put_ne (files : Files) (content : Content) (h : n ≠ name) :
    (files.put name content).content? n = files.content? n := by
  unfold put
  split
  · rw [content?, lookup_replace, if_neg h, content?]
  · rw [content?, List.lookup_append, content?]
    simp [List.lookup_cons, beq_false_of_ne h]

/-! ## Directories -/

/-- What is a directory depends on the names of the files only. -/
theorem isDirectory_iff : files.isDirectory n = true ↔
    n = [] ∨ ∃ m ∈ files.entries.map Prod.fst, n.length < m.length ∧ n <+: m := by
  simp [isDirectory]

/-- What a directory lies in is a directory. -/
theorem isDirectory_of_prefix (hdir : files.isDirectory dir = true) (h : n <+: dir) :
    files.isDirectory n = true := by
  rw [isDirectory_iff] at hdir ⊢
  rcases hdir with rfl | ⟨m, hm, hlength, hprefix⟩
  · exact .inl (List.prefix_nil.1 h)
  · exact .inr ⟨m, hm, Nat.lt_of_le_of_lt h.length_le hlength, h.trans hprefix⟩

/-- A name whose parent is a directory. -/
def Placed (files : Files) (name : List String) : Prop :=
  ∃ dir part, name = dir ++ [part] ∧ files.isDirectory dir = true

/-- A file put into a directory makes no directories. -/
theorem isDirectory_put (content : Content) (h : files.Placed name) (n : List String) :
    (files.put name content).isDirectory n = files.isDirectory n := by
  rw [Bool.eq_iff_iff]
  unfold put
  split
  · -- the names stay as they are
    have hnames : (files.entries.map fun (m, c) =>
        if m == name then (m, content) else (m, c)).map Prod.fst = files.entries.map Prod.fst := by
      rw [List.map_map]
      refine List.map_congr_left fun e _ => ?_
      simp only [Function.comp]
      split <;> rfl
    rw [isDirectory_iff, isDirectory_iff, hnames]
  · -- the new name adds only what its parent lies in
    obtain ⟨dir, part, rfl, hdir⟩ := h
    constructor
    · intro hn
      rcases isDirectory_iff.1 hn with rfl | ⟨m, hm, hlength, hprefix⟩
      · rfl
      rw [List.map_append] at hm
      rcases List.mem_append.1 hm with hm | hm
      · exact isDirectory_iff.2 (.inr ⟨m, hm, hlength, hprefix⟩)
      · rw [List.mem_singleton.1 hm] at hlength hprefix
        rw [List.length_append, List.length_singleton] at hlength
        exact isDirectory_of_prefix hdir
          (List.prefix_of_prefix_length_le hprefix (List.prefix_append _ _) (by omega))
    · intro hn
      rcases isDirectory_iff.1 hn with rfl | ⟨m, hm, hlength, hprefix⟩
      · rfl
      · refine isDirectory_iff.2 (.inr ⟨m, ?_, hlength, hprefix⟩)
        rw [List.map_append]
        exact List.mem_append_left _ hm

/-! ## Where paths lead -/

/-- A part that names something in a directory, and that may do so with these parts behind it. -/
structure Names (purpose : Purpose) (asDirectory : Bool) (part : String) (rest : List String) :
    Prop where
  ne_dot : part ≠ "."
  ne_up : part ≠ ".."
  no_slash : purpose = .writing → asDirectory = true → rest ≠ []
  short : part.utf8ByteSize ≤ partLimit

/-- Parts lead from a directory, or from outside the working directory, to a place. -/
inductive Leads (files : Files) (purpose : Purpose) (asDirectory : Bool) :
    Option (List String) → List String → Place → Prop
  | arrive {here : Option (List String)} : Leads files purpose asDirectory here [] .directory
  | stay {here : Option (List String)} {rest : List String} {place : Place} :
      Leads files purpose asDirectory here rest place →
      Leads files purpose asDirectory here ("." :: rest) place
  | up {p : String} {ps rest : List String} {place : Place} :
      Leads files purpose asDirectory (some (p :: ps).dropLast) rest place →
      Leads files purpose asDirectory (some (p :: ps)) (".." :: rest) place
  | leave {here : Option (List String)} {rest : List String} {place : Place} :
      (∀ p ps, here ≠ some (p :: ps)) → Leads files purpose asDirectory none rest place →
      Leads files purpose asDirectory here (".." :: rest) place
  | down {dir rest : List String} {part : String} {place : Place} :
      Names purpose asDirectory part rest → files.isDirectory (dir ++ [part]) = true →
      Leads files purpose asDirectory (some (dir ++ [part])) rest place →
      Leads files purpose asDirectory (some dir) (part :: rest) place
  | file {dir : List String} {part : String} {content : Content} :
      Names purpose asDirectory part [] → files.isDirectory (dir ++ [part]) = false →
      files.content? (dir ++ [part]) = some content → asDirectory = false →
      Leads files purpose asDirectory (some dir) [part] (.file (dir ++ [part]) content)
  | vacant {dir : List String} {part : String} :
      Names purpose asDirectory part [] → files.isDirectory (dir ++ [part]) = false →
      files.content? (dir ++ [part]) = none →
      Leads files purpose asDirectory (some dir) [part] (.vacant (dir ++ [part]))

variable {purpose : Purpose} {asDirectory : Bool} {here : Option (List String)}
variable {parts : List String} {place : Place}

theorem Names.not_slash {part : String} {rest : List String}
    (h : Names purpose asDirectory part rest) :
    (purpose == .writing && asDirectory && rest.isEmpty) = false := by
  simpa using h.no_slash

theorem names_of_walk {part : String} {rest : List String} (hdot : ¬ (part == ".") = true)
    (hup : ¬ (part == "..") = true)
    (hslash : ¬ (purpose == .writing && asDirectory && rest.isEmpty) = true)
    (hlimit : ¬ partLimit < part.utf8ByteSize) : Names purpose asDirectory part rest :=
  ⟨by simpa using hdot, by simpa using hup, by simpa using hslash, Nat.le_of_not_lt hlimit⟩

/-- **Following parts is being led by them.** -/
theorem walk_eq_ok_iff : files.walk purpose asDirectory here parts = .ok place ↔
    Leads files purpose asDirectory here parts place := by
  constructor
  · intro h
    fun_induction files.walk purpose asDirectory here parts with
    | case1 here =>
      cases h
      exact .arrive
    | case2 here part rest hdot ih =>
      rw [beq_iff_eq.1 hdot]
      exact .stay (ih h)
    | case3 part rest hdot hup p ps ih =>
      rw [beq_iff_eq.1 hup]
      exact .up (ih h)
    | case4 here part rest hdot hup hout ih =>
      rw [beq_iff_eq.1 hup]
      exact .leave (fun p ps heq => hout p ps heq) (ih h)
    | case8 part rest hdot hup hslash hlimit dir name hdir ih =>
      exact .down (names_of_walk hdot hup hslash hlimit) hdir (ih h)
    | case10 part hdot hup hlimit dir name hdir content hcontent hfile hslash =>
      cases h
      exact .file (names_of_walk hdot hup hslash hlimit) (Bool.eq_false_iff.2 hdir) hcontent
        (Bool.eq_false_iff.2 hfile)
    | case12 part hdot hup hlimit dir name hdir hcontent hslash =>
      cases h
      exact .vacant (names_of_walk hdot hup hslash hlimit) (Bool.eq_false_iff.2 hdir) hcontent
    -- in all others the walk fails
    | case5 | case6 | case7 | case9 | case11 | case13 => cases h
  · intro h
    induction h with
    | arrive => rfl
    | stay _ ih => simpa [walk] using ih
    | up _ ih => simpa [walk] using ih
    | @leave here rest place hout _ ih =>
      rcases here with _ | _ | ⟨p, ps⟩
      · simpa [walk] using ih
      · simpa [walk] using ih
      · exact (hout p ps rfl).elim
    | @down dir rest part place hnames hdir _ ih =>
      simpa [walk, hnames.ne_dot, hnames.ne_up, hnames.not_slash, Nat.not_lt.2 hnames.short, hdir]
        using ih
    | @file dir part content hnames hdir hcontent hfile =>
      simp [walk, hnames.ne_dot, hnames.ne_up, Nat.not_lt.2 hnames.short, hdir, hcontent, hfile]
    | @vacant dir part hnames hdir hcontent =>
      have hslash : purpose = .writing → asDirectory = false := by simpa using hnames.no_slash
      simpa [walk, hnames.ne_dot, hnames.ne_up, Nat.not_lt.2 hnames.short, hdir, hcontent]

/-! ## Placing a file -/

/-- A place when a name has been given other content. -/
def Place.updated (name : List String) (content : Content) : Place → Place
  | .directory => .directory
  | .file n c => if n = name then .file n content else .file n c
  | .vacant n => if n = name then .file n content else .vacant n

/-- **Parts lead to the same place when a file has been put into a directory.** Only a file that
is asked for as a directory could get in the way. -/
theorem Leads.put (content : Content) (hplaced : files.Placed name)
    (h : Leads files purpose asDirectory here parts place)
    (hvacant : place = .vacant name → asDirectory = false) :
    Leads (files.put name content) purpose asDirectory here parts (place.updated name content) := by
  induction h with
  | arrive => exact .arrive
  | stay _ ih => exact .stay (ih hvacant)
  | up _ ih => exact .up (ih hvacant)
  | leave hout _ ih => exact .leave hout (ih hvacant)
  | down hnames hdir _ ih =>
    rw [← isDirectory_put content hplaced] at hdir
    exact .down hnames hdir (ih hvacant)
  | @file dir part c hnames hdir hcontent hfile =>
    rw [← isDirectory_put content hplaced] at hdir
    rw [Place.updated]
    split
    · rename_i hname
      exact .file hnames hdir (hname ▸ content?_put_self ..) hfile
    · rename_i hname
      exact .file hnames hdir ((content?_put_ne files content hname).trans hcontent) hfile
  | @vacant dir part hnames hdir hcontent =>
    rw [← isDirectory_put content hplaced] at hdir
    rw [Place.updated]
    split
    · rename_i hname
      exact .file hnames hdir (hname ▸ content?_put_self ..) (hvacant (congrArg _ hname))
    · rename_i hname
      exact .vacant hnames hdir ((content?_put_ne files content hname).trans hcontent)

/-- The name of a file that is there, or that could be. -/
def Place.name? : Place → Option (List String)
  | .directory => none
  | .file name _ => some name
  | .vacant name => some name

/-- What is named lies in a directory. -/
theorem Leads.placed (h : Leads files purpose asDirectory here parts place)
    (hhere : ∀ dir, here = some dir → files.isDirectory dir = true)
    (hname : place.name? = some name) : files.Placed name := by
  induction h with
  | arrive => cases hname
  | stay _ ih => exact ih hhere hname
  | @up p ps rest place _ ih =>
    refine ih ?_ hname
    rintro dir ⟨⟩
    exact isDirectory_of_prefix (hhere _ rfl) (List.dropLast_prefix _)
  | leave _ _ ih => exact ih nofun hname
  | down _ hdir _ ih =>
    refine ih ?_ hname
    rintro dir ⟨⟩
    exact hdir
  | file =>
    cases hname
    exact ⟨_, _, rfl, hhere _ rfl⟩
  | vacant =>
    cases hname
    exact ⟨_, _, rfl, hhere _ rfl⟩

theorem Names.reading {part : String} {rest : List String}
    (h : Names .writing asDirectory part rest) : Names .reading asDirectory part rest :=
  ⟨h.ne_dot, h.ne_up, nofun, h.short⟩

/-- What can be written is found in the same place when it is read, and is not asked for as a
directory. -/
theorem Leads.reading (h : Leads files .writing asDirectory here parts place)
    (hname : place.name? = some name) :
    asDirectory = false ∧ Leads files .reading asDirectory here parts place := by
  induction h with
  | arrive => cases hname
  | stay _ ih => exact ⟨(ih hname).1, .stay (ih hname).2⟩
  | up _ ih => exact ⟨(ih hname).1, .up (ih hname).2⟩
  | leave hout _ ih => exact ⟨(ih hname).1, .leave hout (ih hname).2⟩
  | down hnames hdir _ ih => exact ⟨(ih hname).1, .down hnames.reading hdir (ih hname).2⟩
  | file hnames hdir hcontent hfile =>
    exact ⟨hfile, .file hnames.reading hdir hcontent hfile⟩
  | vacant hnames hdir hcontent =>
    refine ⟨?_, .vacant hnames.reading hdir hcontent⟩
    simpa using hnames.no_slash

/-! ## Paths -/

variable {path path' text : String}

/-- A path that can lead anywhere. -/
def Usable (path : String) : Prop :=
  path.isEmpty = false ∧ path.toList.contains '\x00' = false ∧ path.utf8ByteSize ≤ pathLimit

/-- Where the parts of a path are followed from. -/
def start (path : String) : Option (List String) := if path.startsWith "/" then none else some []

theorem locate_eq_ok_iff : files.locate purpose path = .ok place ↔
    Usable path ∧
      Leads files purpose (path.endsWith "/") (start path) (Files.parts path) place := by
  rw [← walk_eq_ok_iff]
  unfold locate Usable start
  split
  · rename_i hempty
    simp [hempty]
  split
  · rename_i _ hnul
    simp only [hnul, reduceCtorEq, Bool.true_eq_false, false_and, and_false]
  split
  · rename_i _ _ hlimit
    simp only [reduceCtorEq, Nat.not_le.2 hlimit, false_and, and_false]
  · rename_i hempty hnul hlimit
    simp only [Bool.eq_false_iff.2 hempty, Bool.eq_false_iff.2 hnul, Nat.not_lt.1 hlimit,
      true_and]

theorem isDirectory_start : ∀ dir, start path = some dir → files.isDirectory dir = true := by
  intro dir hdir
  unfold start at hdir
  split at hdir
  · cases hdir
  · cases hdir
    rfl

/-- The name of the file that a path leads to, whether it is there or not. -/
def target? (files : Files) (purpose : Purpose) (path : String) : Option (List String) :=
  (files.locate purpose path).toOption.bind Place.name?

theorem target?_eq_some_iff : files.target? purpose path = some name ↔
    ∃ place, files.locate purpose path = .ok place ∧ place.name? = some name := by
  unfold target?
  cases files.locate purpose path <;> simp [Except.toOption]

/-- Writing puts the text where the path leads. -/
theorem write_eq_ok_iff : files.write path text = .ok files' ↔
    ∃ name, files.target? .writing path = some name ∧ files' = files.put name (.text text) := by
  unfold write target?
  rcases files.locate .writing path with e | place
  · simp [Except.toOption]
  · cases place <;> simp [Except.toOption, Place.name?, eq_comm]

/-- What is read is the content of a file. -/
theorem read_eq_ok_iff : files.read path = .ok content ↔
    ∃ name, files.locate .reading path = .ok (.file name content) := by
  unfold read
  rcases files.locate .reading path with e | place
  · simp
  · cases place <;> simp

/-- **A file that is written is read back**, and can be written again. -/
theorem read_of_write (h : files.write path text = .ok files') :
    files'.read path = .ok (.text text) ∧
      files'.target? .writing path = files.target? .writing path := by
  obtain ⟨name, htarget, rfl⟩ := write_eq_ok_iff.1 h
  obtain ⟨place, hlocate, hname⟩ := target?_eq_some_iff.1 htarget
  obtain ⟨husable, hleads⟩ := locate_eq_ok_iff.1 hlocate
  have hplaced := hleads.placed isDirectory_start hname
  obtain ⟨hslash, hreading⟩ := hleads.reading hname
  -- the place is now the file that was put there
  have hupdated : place.updated name (.text text) = .file name (.text text) := by
    cases place <;> cases hname <;> simp [Place.updated]
  have hnow := hleads.put (.text text) hplaced fun _ => hslash
  have hread := hreading.put (.text text) hplaced fun _ => hslash
  rw [hupdated] at hnow hread
  refine ⟨read_eq_ok_iff.2 ⟨name, locate_eq_ok_iff.2 ⟨husable, hread⟩⟩, ?_⟩
  rw [htarget]
  exact target?_eq_some_iff.2 ⟨_, locate_eq_ok_iff.2 ⟨husable, hnow⟩, rfl⟩

/-- **Any other file is read as before.** -/
theorem read_of_write_ne (h : files.write path text = .ok files')
    (hread : files.read path' = .ok content)
    (hne : files.target? .writing path ≠ files.target? .reading path') :
    files'.read path' = .ok content ∧
      files'.target? .reading path' = files.target? .reading path' := by
  obtain ⟨name, htarget, rfl⟩ := write_eq_ok_iff.1 h
  obtain ⟨place, hlocate, hname⟩ := target?_eq_some_iff.1 htarget
  have hplaced := (locate_eq_ok_iff.1 hlocate).2.placed isDirectory_start hname
  obtain ⟨other, hother⟩ := read_eq_ok_iff.1 hread
  have htarget' : files.target? .reading path' = some other :=
    target?_eq_some_iff.2 ⟨_, hother, rfl⟩
  rw [htarget, htarget'] at hne
  obtain ⟨husable, hleads⟩ := locate_eq_ok_iff.1 hother
  have hnow := hleads.put (.text text) hplaced nofun
  rw [Place.updated, if_neg fun heq => hne (congrArg some heq.symm)] at hnow
  have hlocate' := locate_eq_ok_iff.2 ⟨husable, hnow⟩
  refine ⟨read_eq_ok_iff.2 ⟨other, hlocate'⟩, ?_⟩
  rw [htarget']
  exact target?_eq_some_iff.2 ⟨_, hlocate', rfl⟩

end Files

end Host

end DialogueScript
