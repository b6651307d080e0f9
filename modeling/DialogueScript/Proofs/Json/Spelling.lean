import DialogueScript.Proofs.Json.Reading
/-!
# Spellings of JSON values

A value has many texts: blanks may stand in front of every item and every
closing bracket, and behind a colon. `Spells` relates a value to all those
in which scalars are written as this library writes them. The compact and
the pretty form are two of them, so what is proved of every spelling holds
of both.
-/

namespace DialogueScript

namespace Json

open Reader

mutual

/-- The texts of a value. -/
inductive Spells : Json → List Char → Prop
  | null : Spells .null "null".toList
  | boolean (b : Bool) : Spells (.boolean b) (writtenBoolean b)
  | number (n : Number) : Spells (.number n) n.written.toList
  | string (s : String) : Spells (.string s) (writeString s)
  | array {items : List Json} {before after : List Char} {lines : List (List Char)} :
      Blank before → Blank after → SpellsItems items lines →
      Spells (.array items) (enclosed '[' ']' before after lines)
  | object {fields : List (String × Json)} {before after : List Char}
      {lines : List (List Char)} :
      Blank before → Blank after → SpellsFields fields lines →
      Spells (.object fields) (enclosed '\x7b' '\x7d' before after lines)

/-- The lines of the items of a list. -/
inductive SpellsItems : List Json → List (List Char) → Prop
  | nil : SpellsItems [] []
  | cons {v : Json} {vs : List Json} {text : List Char} {lines : List (List Char)} :
      Spells v text → SpellsItems vs lines → SpellsItems (v :: vs) (text :: lines)

/-- The lines of the fields of an object. -/
inductive SpellsFields : List (String × Json) → List (List Char) → Prop
  | nil : SpellsFields [] []
  | cons {k : String} {v : Json} {fs : List (String × Json)} {gap text : List Char}
      {lines : List (List Char)} :
      Blank gap → Spells v text → SpellsFields fs lines →
      SpellsFields ((k, v) :: fs) (fieldLine k gap text :: lines)

end

/-! ## The compact form -/

mutual

/-- **The compact form is a spelling.** -/
theorem spells_compactChars : ∀ v : Json, Spells v v.compactChars
  | .null => .null
  | .boolean b => .boolean b
  | .number n => .number n
  | .string s => .string s
  | .array items => by
    have h := Spells.array blank_nil blank_nil (spells_compactItems items)
    simpa [enclosed, compactChars] using h
  | .object fields => by
    have h := Spells.object blank_nil blank_nil (spells_compactFields fields)
    simpa [enclosed, compactChars] using h

theorem spells_compactItems : ∀ items : List Json, SpellsItems items (compactItems items)
  | [] => .nil
  | v :: vs => .cons (spells_compactChars v) (spells_compactItems vs)

theorem spells_compactFields :
    ∀ fields : List (String × Json), SpellsFields fields (compactFields fields)
  | [] => .nil
  | (_, v) :: fs => .cons blank_nil (spells_compactChars v) (spells_compactFields fs)

end

/-! ## The pretty form -/

/-- A line begins with blanks. -/
theorem blank_indent (level : Nat) : Blank (indent level) := by
  intro c hc
  rcases List.mem_cons.1 hc with rfl | hc
  · rfl
  · rw [List.eq_of_mem_replicate hc]
    rfl

/-- Lines in a block are enclosed between blanks. -/
theorem exists_enclosed_eq_block (opening closing : Char) (level : Nat)
    (lines : List (List Char)) :
    ∃ before after, Blank before ∧ Blank after ∧
      block opening closing level lines = enclosed opening closing before after lines := by
  cases lines with
  | nil => exact ⟨[], [], blank_nil, blank_nil, rfl⟩
  | cons l ls =>
    refine ⟨_, _, blank_indent (level + 1), blank_indent level, ?_⟩
    simp [block, enclosed]

mutual

/-- **The pretty form is a spelling.** -/
theorem spells_prettyChars : ∀ (level : Nat) (v : Json), Spells v (v.prettyChars level)
  | _, .null => .null
  | _, .boolean b => .boolean b
  | _, .number n => .number n
  | _, .string s => .string s
  | level, .array items => by
    obtain ⟨before, after, hbefore, hafter, hblock⟩ :=
      exists_enclosed_eq_block '[' ']' level (prettyItems (level + 1) items)
    rw [prettyChars, hblock]
    exact .array hbefore hafter (spells_prettyItems (level + 1) items)
  | level, .object fields => by
    obtain ⟨before, after, hbefore, hafter, hblock⟩ :=
      exists_enclosed_eq_block '\x7b' '\x7d' level (prettyFields (level + 1) fields)
    rw [prettyChars, hblock]
    exact .object hbefore hafter (spells_prettyFields (level + 1) fields)

theorem spells_prettyItems :
    ∀ (level : Nat) (items : List Json), SpellsItems items (prettyItems level items)
  | _, [] => .nil
  | level, v :: vs => .cons (spells_prettyChars level v) (spells_prettyItems level vs)

theorem spells_prettyFields :
    ∀ (level : Nat) (fields : List (String × Json)),
      SpellsFields fields (prettyFields level fields)
  | _, [] => .nil
  | level, (k, v) :: fs => by
    have hgap : Blank [' '] := by
      intro c hc
      rw [List.mem_singleton.1 hc]
      rfl
    exact .cons hgap (spells_prettyChars level v) (spells_prettyFields level fs)

end

end Json

end DialogueScript
