import DialogueScript.Script.Value
/-!
# Scopes

What a run of a script reads and writes: the dialogue of the current turn and
the variables. Variables are kept in the order of their names, each name once,
so two collections with the same contents are equal.
-/

namespace DialogueScript

/-- The variables of a script, ordered by name. -/
structure Variables where
  entries : List (String × Value)
  ordered : entries.Pairwise fun a b => a.1 < b.1

namespace Variables

/-- No variables. -/
def empty : Variables := ⟨[], .nil⟩

instance : Inhabited Variables := ⟨empty⟩

/-- The value of a variable. -/
def get? (vars : Variables) (name : String) : Option Value :=
  vars.entries.lookup name

/-- An entry put in its place among ordered entries, in place of the one of the
same name. -/
def place (name : String) (value : Value) : List (String × Value) → List (String × Value)
  | [] => [(name, value)]
  | (n, v) :: rest =>
    if name < n then (name, value) :: (n, v) :: rest
    else if name = n then (name, value) :: rest
    else (n, v) :: place name value rest

/-- Placing adds no name but its own. -/
theorem mem_place {name : String} {value : Value} {e : String × Value}
    {entries : List (String × Value)} (h : e ∈ place name value entries) :
    e.1 = name ∨ e ∈ entries := by
  induction entries with
  | nil => simp_all [place]
  | cons d rest ih =>
    obtain ⟨n, v⟩ := d
    simp only [place] at h
    split at h
    · simp only [List.mem_cons] at h ⊢
      rcases h with rfl | h
      · exact .inl rfl
      · exact .inr h
    · split at h
      · simp only [List.mem_cons] at h ⊢
        rcases h with rfl | h
        · exact .inl rfl
        · exact .inr (.inr h)
      · simp only [List.mem_cons] at h ⊢
        rcases h with h | h
        · exact .inr (.inl h)
        · exact (ih h).imp id .inr

/-- Placing keeps the order. -/
theorem pairwise_place (name : String) (value : Value) {entries : List (String × Value)}
    (h : entries.Pairwise fun a b => a.1 < b.1) :
    (place name value entries).Pairwise fun a b => a.1 < b.1 := by
  induction entries with
  | nil => simp [place]
  | cons d rest ih =>
    obtain ⟨n, v⟩ := d
    have hrest := List.pairwise_cons.1 h
    simp only [place]
    split
    · rename_i hlt
      refine List.pairwise_cons.2 ⟨fun e he => ?_, h⟩
      rcases List.mem_cons.1 he with rfl | he
      · exact hlt
      · exact String.lt_trans hlt (hrest.1 e he)
    · split
      · rename_i heq
        subst heq
        exact List.pairwise_cons.2 ⟨fun e he => hrest.1 e he, hrest.2⟩
      · rename_i hnlt hne
        refine List.pairwise_cons.2 ⟨fun e he => ?_, ih hrest.2⟩
        rcases mem_place he with hname | he
        · have : n < name := by grind
          simpa [hname] using this
        · exact hrest.1 e he

/-- Gives a variable a value. -/
def set (vars : Variables) (name : String) (value : Value) : Variables :=
  ⟨place name value vars.entries, pairwise_place name value vars.ordered⟩

/-- Placing changes what is found under its own name and nothing else. -/
theorem lookup_place (name : String) (value : Value) (n : String)
    (entries : List (String × Value)) :
    (place name value entries).lookup n = if n = name then some value else entries.lookup n := by
  have hbeq : ∀ m : String, (n == m) = decide (n = m) := fun m => rfl
  induction entries with
  | nil => by_cases hn : n = name <;> simp [place, List.lookup_cons, hbeq, hn]
  | cons d rest ih =>
    obtain ⟨m, v⟩ := d
    simp only [place]
    split
    · by_cases hn : n = name <;> simp [List.lookup_cons, hbeq, hn]
    · split
      · rename_i heq
        subst heq
        by_cases hn : n = name <;> simp [List.lookup_cons, hbeq, hn]
      · rename_i hne
        by_cases hn : n = m
        · subst hn
          simp [Ne.symm hne]
        · simp [List.lookup_cons, hbeq, hn, ih]

/-- A variable has the value it was given last. -/
@[simp]
theorem get?_set (vars : Variables) (name : String) (value : Value) (n : String) :
    (vars.set name value).get? n = if n = name then some value else vars.get? n :=
  lookup_place name value n vars.entries

/-- The variables of a list of names and values; of a repeated name the last
value counts. -/
def ofList (entries : List (String × Value)) : Variables :=
  entries.foldl (fun vars (name, value) => vars.set name value) empty

instance : BEq Variables := ⟨fun a b => a.entries == b.entries⟩

end Variables

/-- What a run reads and writes. -/
structure Scope where
  /-- The dialogue since the turn began. -/
  dialog : String := ""
  vars : Variables := .empty
deriving Inhabited, BEq

namespace Scope

/-- A scope with the given variables and no dialogue. -/
def withVars (vars : Variables) : Scope := ⟨"", vars⟩

/-- The value of a variable. -/
def get? (s : Scope) (name : String) : Option Value := s.vars.get? name

/-- Gives a variable a value. -/
def set (s : Scope) (name : String) (value : Value) : Scope :=
  { s with vars := s.vars.set name value }

/-- Appends to the dialogue. -/
def say (s : Scope) (text : String) : Scope := { s with dialog := s.dialog ++ text }

/-- Empties the dialogue. -/
def clearDialog (s : Scope) : Scope := { s with dialog := "" }

/-- A variable is no part of the dialogue. -/
@[simp]
theorem dialog_set (s : Scope) (name : String) (value : Value) :
    (s.set name value).dialog = s.dialog := rfl

end Scope

end DialogueScript
