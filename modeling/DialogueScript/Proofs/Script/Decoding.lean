import DialogueScript.Proofs.Json.Roots
import DialogueScript.Script.FromJson
/-!
# What decoding asks of a value

Scripts are decoded by going through their fields in the order of the text, with
the depth of the value to bound the way down. None of this is left in what the
decoding gives: a value is decoded as a node exactly if its tags name the node's
kind, a list holds no more than the slots of that kind, and in each slot there
is what belongs there (`Expr.ofJson_eq_ok_iff`, `Instruction.ofJson_eq_ok_iff`).
A whole text is decoded as its value is, if the tag of its root is a name
(`Instruction.read_eq_ok_iff`).

The slots of each kind are written down in its `layout`, and with them what is
decoded from each member of a value (`memberRole`).
-/

namespace DialogueScript

open Json

/-! ## Roles and layouts -/

/-- The sorts of nodes a script is made of. -/
inductive Node
  | instruction
  | expression
deriving DecidableEq

/-- What a value is decoded as. -/
inductive Role
  | node (sort : Node)
  /-- A list of instructions. -/
  | instructions
  /-- A value without nodes in it, such as a tag. -/
  | data
deriving DecidableEq

/-- The slots of a form of expression, in the order of their positions. -/
def Expr.Form.layout : Expr.Form → List (String × Role)
  | .null => [("type", .data)]
  | .boolean => [("type", .data), ("v", .data)]
  | .number => [("type", .data), ("v", .data)]
  | .string => [("type", .data), ("v", .data)]
  | .ident => [("type", .data), ("name", .data)]
  | .assign => [("type", .data), ("name", .data), ("value", .node .expression)]
  | .unary => [("type", .data), ("op", .data), ("operand", .node .expression)]
  | .binary =>
    [("type", .data), ("op", .data), ("left", .node .expression), ("right", .node .expression)]

/-- The slots of a kind of instruction, in the order of their positions. -/
def Kind.layout : Kind → List (String × Role)
  | .script => [("type", .data), ("instructions", .instructions)]
  | .ifBlock => [("type", .data), ("cmdType", .data), ("chain", .instructions)]
  | .ifChainLink => [("type", .data), ("cmdType", .data), ("block", .instructions)]
  | .eachBlock => [("type", .data), ("cmdType", .data), ("block", .instructions)]
  | .command => [("type", .data), ("cmdType", .data)]
  | .dialog => [("type", .data), ("text", .data)]
  | .expression => [("type", .data), ("expr", .node .expression)]
  | .pause => [("type", .data)]
  | .unknown => [("type", .data)]

/-! ## Lists -/

section Lists

variable {α β ε : Type}

/-- A list is decoded item by item. -/
theorem mapM_eq_ok_iff {f : α → Except ε β} {as : List α} {bs : List β} :
    as.mapM f = .ok bs ↔ List.Forall₂ (fun a b => f a = .ok b) as bs := by
  induction as generalizing bs with
  | nil =>
    change Except.ok [] = Except.ok bs ↔ _
    simp [eq_comm]
  | cons a as ih =>
    rw [List.mapM_cons]
    constructor
    · intro h
      obtain ⟨b, hb, h⟩ := exists_of_bind_ok h
      obtain ⟨bs', hbs, h⟩ := exists_of_bind_ok h
      cases h
      exact .cons hb (ih.1 hbs)
    · intro h
      cases h with
      | cons hb hbs =>
        rw [hb, ok_bind, ih.2 hbs]
        rfl

theorem asList_eq_ok_iff {f : Json → Except Mismatch β} {v : Json} {bs : List β} :
    asList f v = .ok bs ↔
      ∃ items, v = .array items ∧ List.Forall₂ (fun a b => f a = .ok b) items bs := by
  cases v with
  | array items => simp [asList, mapM_eq_ok_iff]
  | null | boolean | number | string => simp [asList]
  | object fields => simp [asList]

/-- What a list is decoded as hangs on what its items are decoded as. -/
theorem asList_congr {f g : Json → Except Mismatch β} {v : Json} {bs : List β}
    (h : ∀ x ∈ v.members, ∀ b, f x = .ok b ↔ g x = .ok b) :
    asList f v = .ok bs ↔ asList g v = .ok bs := by
  rw [asList_eq_ok_iff, asList_eq_ok_iff]
  refine exists_congr fun items => and_congr_right ?_
  rintro rfl
  have hmem : ∀ R : Json → β → Prop,
      List.Forall₂ R items bs ↔ List.Forall₂ (fun a b => a ∈ items ∧ R a b) items bs := by
    intro R
    rw [List.forall₂_and_left]
    exact (and_iff_right fun _ ha => ha).symm
  rw [hmem, hmem fun a b => g a = .ok b]
  constructor
  · exact List.Forall₂.imp fun a b hab => ⟨hab.1, (h a hab.1 b).1 hab.2⟩
  · exact List.Forall₂.imp fun a b hab => ⟨hab.1, (h a hab.1 b).2 hab.2⟩

end Lists

/-! ## Expressions -/

namespace Expr

/-- The form of an expression. -/
def form : Expr → Form
  | .null => .null
  | .boolean _ => .boolean
  | .number _ => .number
  | .string _ => .string
  | .ident _ => .ident
  | .assign _ _ => .assign
  | .unary _ _ => .unary
  | .binary _ _ _ => .binary

/-- The parts of an expression are in their slots, with operands decoded by `nested`. -/
def Parts (nested : Json → Except Mismatch Expr) : Expr → Json → Prop
  | .null, _ => True
  | .boolean b, v => v.Gives 1 ⟨"v", asBoolean⟩ b
  | .number x, v => v.Gives 1 ⟨"v", asFloat⟩ x
  | .string s, v => v.Gives 1 ⟨"v", asString⟩ s
  | .ident name, v => v.Gives 1 ⟨"name", asString⟩ name
  | .assign name e, v => v.Gives 1 ⟨"name", asString⟩ name ∧ v.Gives 2 ⟨"value", nested⟩ e
  | .unary op e, v =>
    v.Gives 1 ⟨"op", asChoice UnaryOp.names⟩ op ∧ v.Gives 2 ⟨"operand", nested⟩ e
  | .binary op l r, v =>
    v.Gives 1 ⟨"op", asChoice BinaryOp.names⟩ op ∧ v.Gives 2 ⟨"left", nested⟩ l ∧
      v.Gives 3 ⟨"right", nested⟩ r

variable {nested nested' : Json → Except Mismatch Expr} {v : Json} {e : Expr} {body : Body}

/-- What is left without the tag is decoded if the parts are in their slots. -/
theorem ofBody_eq_ok_iff {form : Form} (hrest : v.rest? tagName = some body) :
    ofBody nested form body = .ok e ↔
      form = e.form ∧ v.AtMost e.form.layout.length ∧ e.Parts nested v := by
  constructor
  · intro h
    cases form with
    | null =>
      obtain ⟨⟨⟩, hzero, h⟩ := exists_of_bind_ok h
      cases h
      exact ⟨rfl, (Fields.zero_of_rest? hrest).1 hzero, trivial⟩
    | boolean =>
      obtain ⟨b, hone, rfl⟩ := exists_of_map_ok h
      exact ⟨rfl, (Fields.one_of_rest? hrest (by simp [tagName])).1 hone⟩
    | number =>
      obtain ⟨x, hone, rfl⟩ := exists_of_map_ok h
      exact ⟨rfl, (Fields.one_of_rest? hrest (by simp [tagName])).1 hone⟩
    | string =>
      obtain ⟨s, hone, rfl⟩ := exists_of_map_ok h
      exact ⟨rfl, (Fields.one_of_rest? hrest (by simp [tagName])).1 hone⟩
    | ident =>
      obtain ⟨name, hone, rfl⟩ := exists_of_map_ok h
      exact ⟨rfl, (Fields.one_of_rest? hrest (by simp [tagName])).1 hone⟩
    | assign =>
      obtain ⟨⟨name, o⟩, htwo, h⟩ := exists_of_bind_ok h
      cases h
      exact ⟨rfl, (Fields.two_of_rest? hrest (by simp [tagName]) (by simp [tagName])
        (by simp)).1 htwo⟩
    | unary =>
      obtain ⟨⟨op, o⟩, htwo, h⟩ := exists_of_bind_ok h
      cases h
      exact ⟨rfl, (Fields.two_of_rest? hrest (by simp [tagName]) (by simp [tagName])
        (by simp)).1 htwo⟩
    | binary =>
      obtain ⟨⟨op, l, r⟩, hthree, h⟩ := exists_of_bind_ok h
      cases h
      exact ⟨rfl, (Fields.three_of_rest? hrest (by simp [tagName]) (by simp [tagName])
        (by simp [tagName]) (by simp) (by simp) (by simp)).1 hthree⟩
  · rintro ⟨rfl, h⟩
    cases e with
    | null => exact congrArg (· >>= _) ((Fields.zero_of_rest? hrest).2 h.1)
    | boolean b =>
      exact congrArg (_ <$> ·) ((Fields.one_of_rest? hrest (by simp [tagName])).2 h)
    | number x =>
      exact congrArg (_ <$> ·) ((Fields.one_of_rest? hrest (by simp [tagName])).2 h)
    | string s =>
      exact congrArg (_ <$> ·) ((Fields.one_of_rest? hrest (by simp [tagName])).2 h)
    | ident name =>
      exact congrArg (_ <$> ·) ((Fields.one_of_rest? hrest (by simp [tagName])).2 h)
    | assign name e =>
      exact congrArg (· >>= _) ((Fields.two_of_rest? hrest (by simp [tagName]) (by simp [tagName])
        (by simp)).2 h)
    | unary op e =>
      exact congrArg (· >>= _) ((Fields.two_of_rest? hrest (by simp [tagName]) (by simp [tagName])
        (by simp)).2 h)
    | binary op l r =>
      exact congrArg (· >>= _) ((Fields.three_of_rest? hrest (by simp [tagName])
        (by simp [tagName]) (by simp [tagName]) (by simp) (by simp) (by simp)).2 h)

/-- **A node is its form and its parts.** -/
theorem splitTag_ofBody_eq_ok_iff :
    (do
      let (form, body) ← splitTag tagName expected Form.ofTag v
      ofBody nested form body) = .ok e ↔
      v.tagAt? Form.ofTag 0 tagName = some e.form ∧ v.AtMost e.form.layout.length ∧
        e.Parts nested v := by
  constructor
  · intro h
    obtain ⟨⟨form, body⟩, hsplit, h⟩ := exists_of_bind_ok h
    obtain ⟨hform, hrest⟩ := splitTag_eq_ok_iff.1 hsplit
    obtain ⟨rfl, hparts⟩ := (ofBody_eq_ok_iff hrest).1 h
    exact ⟨hform, hparts⟩
  · rintro ⟨hform, hparts⟩
    obtain ⟨body, hrest⟩ := exists_rest?_of_tagAt? hform
    rw [splitTag_eq_ok_iff.2 ⟨hform, hrest⟩, ok_bind]
    exact (ofBody_eq_ok_iff hrest).2 ⟨rfl, hparts⟩

/-- The parts hang on what the values right inside the node are decoded as. -/
theorem parts_congr (h : ∀ x, x.depth < v.depth → ∀ o, nested x = .ok o ↔ nested' x = .ok o) :
    e.Parts nested v ↔ e.Parts nested' v := by
  have hgives : ∀ {i : Nat} {name : String} {o : Expr},
      v.Gives i ⟨name, nested⟩ o ↔ v.Gives i ⟨name, nested'⟩ o := by
    intro i name o
    refine exists_congr fun x => and_congr_right fun hx => ?_
    exact h x (depth_lt_of_mem_members (mem_members_of_slot? hx)) o
  cases e with
  | assign name o => exact and_congr_right fun _ => hgives
  | unary op o => exact and_congr_right fun _ => hgives
  | binary op l r => exact and_congr_right fun _ => and_congr hgives hgives
  | null => exact Iff.rfl
  | boolean b => exact Iff.rfl
  | number x => exact Iff.rfl
  | string s => exact Iff.rfl
  | ident name => exact Iff.rfl

/-- The bound on the way down does not matter, if it is above the depth of the value. -/
theorem ofJsonWithin_eq_ok_iff {k : Nat} (hk : v.depth < k) :
    ofJsonWithin k v = .ok e ↔ ofJson v = .ok e := by
  induction k using Nat.strong_induction_on generalizing v e with
  | _ k ih =>
    cases k with
    | zero => cases hk
    | succ k =>
      rw [ofJson, ofJsonWithin, ofJsonWithin, splitTag_ofBody_eq_ok_iff, splitTag_ofBody_eq_ok_iff]
      refine and_congr_right fun _ => and_congr_right fun _ => parts_congr fun x hx o => ?_
      -- either bound is above the depth of what is inside
      rw [ih k (by omega) (by omega), ih v.depth (by omega) hx]

/-- **A value is decoded as an expression exactly if its tag names the form and each part is in its
slot.** -/
theorem ofJson_eq_ok_iff :
    ofJson v = .ok e ↔
      v.tagAt? Form.ofTag 0 tagName = some e.form ∧ v.AtMost e.form.layout.length ∧
        e.Parts ofJson v := by
  rw [ofJson, ofJsonWithin, splitTag_ofBody_eq_ok_iff]
  exact and_congr_right fun _ => and_congr_right fun _ => parts_congr fun x hx o =>
    ofJsonWithin_eq_ok_iff hx

end Expr

/-! ## Instructions -/

/-- The slot of a composite that holds its instructions. -/
def Composite.slot : Composite → Nat × String
  | .script => (1, "instructions")
  | .ifBlock => (2, "chain")
  | .ifChainLink => (2, "block")
  | .eachBlock => (2, "block")

namespace Instruction

/-- The kind of a command, by its name. -/
def CommandForm.kind : CommandForm → Kind
  | .ifBlock => .ifBlock
  | .ifChainLink => .ifChainLink
  | .eachBlock => .eachBlock
  | .unknown => .command

/-- The form that the first tag of a kind names. -/
def formOfKind : Kind → Form
  | .script => .script
  | .ifBlock => .command
  | .ifChainLink => .command
  | .eachBlock => .command
  | .command => .command
  | .dialog => .dialog
  | .expression => .expression
  | .pause => .pause
  | .unknown => .unknown

/-- The kind of instruction that the tags of a value name. -/
def kind? (v : Json) : Option Kind :=
  match v.tagAt? Form.ofTag 0 tagName with
  | none => none
  | some .script => some .script
  | some .command => (v.tagAt? CommandForm.ofTag 1 commandTagName).map CommandForm.kind
  | some .dialog => some .dialog
  | some .expression => some .expression
  | some .pause => some .pause
  | some .unknown => some .unknown

/-- The parts of an instruction are in their slots, with instructions decoded by `nested`. -/
def Parts (nested : Json → Except Mismatch Instruction) : Instruction → Json → Prop
  | .composite form body, v => v.Gives form.slot.1 ⟨form.slot.2, asList nested⟩ body
  | .dialog text, v => v.Gives 1 ⟨"text", asString⟩ text
  | .expression e, v => v.Gives 1 ⟨"expr", Expr.ofJson⟩ e
  | .pause, _ => True
  | .unknownCommand, _ => True
  | .unknown, _ => True

variable {nested nested' : Json → Except Mismatch Instruction} {v : Json} {i : Instruction}
variable {body : Body}

theorem tagAt?_of_kind? {k : Kind} (h : kind? v = some k) :
    v.tagAt? Form.ofTag 0 tagName = some (formOfKind k) := by
  unfold kind? at h
  split at h
  all_goals rename_i htag
  · cases h
  · cases h
    exact htag
  · obtain ⟨form, -, rfl⟩ := Option.map_eq_some_iff.1 h
    cases form <;> exact htag
  all_goals
    cases h
    exact htag

theorem slot?_bodyJson (body : Body) (j : Nat) (name : String) :
    (bodyJson body).slot? j name = body.slot? j name := by
  cases body <;> rfl

theorem atMost_bodyJson (body : Body) (n : Nat) : (bodyJson body).AtMost n ↔ body.AtMost n := by
  cases body <;> exact Iff.rfl

/-- Only a composite is of the kind of one. -/
theorem exists_of_kind_eq (form : Composite) (h : i.kind = form.kind) :
    ∃ body, i = .composite form body := by
  cases i with
  | composite form' body =>
    refine ⟨body, ?_⟩
    cases form <;> cases form' <;> first | rfl | cases h
  | dialog text => cases form <;> cases h
  | expression e => cases form <;> cases h
  | pause => cases form <;> cases h
  | unknownCommand => cases form <;> cases h
  | unknown => cases form <;> cases h

theorem eq_unknownCommand_of_kind_eq (h : i.kind = .command) : i = .unknownCommand := by
  cases i with
  | unknownCommand => rfl
  | composite form body => cases form <;> cases h
  | dialog text => cases h
  | expression e => cases h
  | pause => cases h
  | unknown => cases h

section Commands

variable {body' : Body}

/-- Instructions in the slot of a composite command, with both tags taken off. -/
theorem one_of_command (form : Composite) {message : String} {is : List Instruction}
    (hform : form.slot.1 = 2) (hrest : v.rest? tagName = some body)
    (hrest' : (bodyJson body).rest? commandTagName = some body') :
    Fields.one message ⟨form.slot.2, asList nested⟩ body' = .ok is ↔
      v.AtMost 3 ∧ (composite form is).Parts nested v := by
  have hname : form.slot.2 ≠ tagName := by cases form <;> decide
  have hname' : form.slot.2 ≠ commandTagName := by cases form <;> decide
  rw [Fields.one_of_rest? hrest' hname', atMost_bodyJson, atMost_of_rest? hrest]
  refine and_congr_right fun _ => ?_
  rw [Parts, hform, Json.Gives, slot?_bodyJson, slot?_of_rest? hrest hname]
  rfl

/-- What is left of a command is decoded if its tag names a kind and its parts are in their
slots. -/
theorem commandOfBody_eq_ok_iff (hrest : v.rest? tagName = some body) :
    commandOfBody nested body = .ok i ↔
      (v.tagAt? CommandForm.ofTag 1 commandTagName).map CommandForm.kind = some i.kind ∧
        v.AtMost i.kind.layout.length ∧ i.Parts nested v := by
  have htag : (bodyJson body).tagAt? CommandForm.ofTag 0 commandTagName =
      v.tagAt? CommandForm.ofTag 1 commandTagName := by
    rw [tagAt?, slot?_bodyJson, slot?_of_rest? hrest (by decide)]
    rfl
  constructor
  · intro h
    obtain ⟨⟨form, body'⟩, hsplit, h⟩ := exists_of_bind_ok h
    obtain ⟨hform, hrest'⟩ := splitTag_eq_ok_iff.1 hsplit
    rw [← htag, hform]
    cases form with
    | ifBlock =>
      obtain ⟨is, hone, rfl⟩ := exists_of_map_ok h
      exact ⟨rfl, (one_of_command .ifBlock rfl hrest hrest').1 hone⟩
    | ifChainLink =>
      obtain ⟨is, hone, rfl⟩ := exists_of_map_ok h
      exact ⟨rfl, (one_of_command .ifChainLink rfl hrest hrest').1 hone⟩
    | eachBlock =>
      obtain ⟨is, hone, rfl⟩ := exists_of_map_ok h
      exact ⟨rfl, (one_of_command .eachBlock rfl hrest hrest').1 hone⟩
    | unknown =>
      obtain ⟨⟨⟩, hzero, h⟩ := exists_of_bind_ok h
      cases h
      rw [Fields.zero_of_rest? hrest', atMost_bodyJson, atMost_of_rest? hrest] at hzero
      exact ⟨rfl, hzero, trivial⟩
  · rintro ⟨hkind, h⟩
    obtain ⟨form, hform, hkind⟩ := Option.map_eq_some_iff.1 hkind
    rw [← htag] at hform
    obtain ⟨body', hrest'⟩ := exists_rest?_of_tagAt? hform
    rw [commandOfBody, splitTag_eq_ok_iff.2 ⟨hform, hrest'⟩, ok_bind]
    cases form with
    | ifBlock =>
      obtain ⟨is, rfl⟩ := exists_of_kind_eq .ifBlock hkind.symm
      exact congrArg (_ <$> ·) ((one_of_command .ifBlock rfl hrest hrest').2 h)
    | ifChainLink =>
      obtain ⟨is, rfl⟩ := exists_of_kind_eq .ifChainLink hkind.symm
      exact congrArg (_ <$> ·) ((one_of_command .ifChainLink rfl hrest hrest').2 h)
    | eachBlock =>
      obtain ⟨is, rfl⟩ := exists_of_kind_eq .eachBlock hkind.symm
      exact congrArg (_ <$> ·) ((one_of_command .eachBlock rfl hrest hrest').2 h)
    | unknown =>
      cases eq_unknownCommand_of_kind_eq hkind.symm
      have hzero : Fields.zero body' = .ok () := by
        rw [Fields.zero_of_rest? hrest', atMost_bodyJson, atMost_of_rest? hrest]
        exact h.1
      exact congrArg (· >>= _) hzero

end Commands

/-- **A node is its kind and its parts.** -/
theorem splitTag_ofBody_eq_ok_iff :
    (do
      let (form, body) ← splitTag tagName expected Form.ofTag v
      ofBody nested form body) = .ok i ↔
      kind? v = some i.kind ∧ v.AtMost i.kind.layout.length ∧ i.Parts nested v := by
  constructor
  · intro h
    obtain ⟨⟨form, body⟩, hsplit, h⟩ := exists_of_bind_ok h
    obtain ⟨hform, hrest⟩ := splitTag_eq_ok_iff.1 hsplit
    rw [kind?, hform]
    cases form with
    | script =>
      obtain ⟨is, hone, rfl⟩ := exists_of_map_ok h
      exact ⟨rfl, (Fields.one_of_rest? hrest (by simp [tagName, Composite.slot])).1 hone⟩
    | command => exact (commandOfBody_eq_ok_iff hrest).1 h
    | dialog =>
      obtain ⟨text, hone, rfl⟩ := exists_of_map_ok h
      exact ⟨rfl, (Fields.one_of_rest? hrest (by simp [tagName])).1 hone⟩
    | expression =>
      obtain ⟨e, hone, rfl⟩ := exists_of_map_ok h
      exact ⟨rfl, (Fields.one_of_rest? hrest (by simp [tagName])).1 hone⟩
    | pause =>
      obtain ⟨⟨⟩, hzero, h⟩ := exists_of_bind_ok h
      cases h
      exact ⟨rfl, (Fields.zero_of_rest? hrest).1 hzero, trivial⟩
    | unknown =>
      obtain ⟨⟨⟩, hzero, h⟩ := exists_of_bind_ok h
      cases h
      exact ⟨rfl, (Fields.zero_of_rest? hrest).1 hzero, trivial⟩
  · rintro ⟨hkind, h⟩
    have hform := tagAt?_of_kind? hkind
    obtain ⟨body, hrest⟩ := exists_rest?_of_tagAt? hform
    rw [kind?, hform] at hkind
    rw [splitTag_eq_ok_iff.2 ⟨hform, hrest⟩, ok_bind]
    cases i with
    | composite form is =>
      cases form with
      | script =>
        exact congrArg (_ <$> ·)
          ((Fields.one_of_rest? hrest (by simp [tagName, Composite.slot])).2 h)
      | ifBlock => exact (commandOfBody_eq_ok_iff hrest).2 ⟨hkind, h⟩
      | ifChainLink => exact (commandOfBody_eq_ok_iff hrest).2 ⟨hkind, h⟩
      | eachBlock => exact (commandOfBody_eq_ok_iff hrest).2 ⟨hkind, h⟩
    | dialog text =>
      exact congrArg (_ <$> ·) ((Fields.one_of_rest? hrest (by simp [tagName])).2 h)
    | expression e =>
      exact congrArg (_ <$> ·) ((Fields.one_of_rest? hrest (by simp [tagName])).2 h)
    | pause => exact congrArg (· >>= _) ((Fields.zero_of_rest? hrest).2 h.1)
    | unknownCommand => exact (commandOfBody_eq_ok_iff hrest).2 ⟨hkind, h⟩
    | unknown => exact congrArg (· >>= _) ((Fields.zero_of_rest? hrest).2 h.1)

/-- The parts hang on what the instructions further inside the node are decoded as. -/
theorem parts_congr (h : ∀ x, x.depth < v.depth → ∀ j, nested x = .ok j ↔ nested' x = .ok j) :
    i.Parts nested v ↔ i.Parts nested' v := by
  cases i with
  | composite form is =>
    refine exists_congr fun x => and_congr_right fun hx => ?_
    have hdepth := depth_lt_of_mem_members (mem_members_of_slot? hx)
    exact asList_congr fun y hy => h y (lt_trans (depth_lt_of_mem_members hy) hdepth)
  | dialog text => exact Iff.rfl
  | expression e => exact Iff.rfl
  | pause => exact Iff.rfl
  | unknownCommand => exact Iff.rfl
  | unknown => exact Iff.rfl

/-- The bound on the way down does not matter, if it is above the depth of the value. -/
theorem ofJsonWithin_eq_ok_iff {k : Nat} (hk : v.depth < k) :
    ofJsonWithin k v = .ok i ↔ ofJson v = .ok i := by
  induction k using Nat.strong_induction_on generalizing v i with
  | _ k ih =>
    cases k with
    | zero => cases hk
    | succ k =>
      rw [ofJson, ofJsonWithin, ofJsonWithin, splitTag_ofBody_eq_ok_iff, splitTag_ofBody_eq_ok_iff]
      refine and_congr_right fun _ => and_congr_right fun _ => parts_congr fun x hx j => ?_
      -- either bound is above the depth of what is inside
      rw [ih k (by omega) (by omega), ih v.depth (by omega) hx]

/-- **A value is decoded as an instruction exactly if its tags name the kind and each part is in
its slot.** -/
theorem ofJson_eq_ok_iff :
    ofJson v = .ok i ↔
      kind? v = some i.kind ∧ v.AtMost i.kind.layout.length ∧ i.Parts ofJson v := by
  rw [ofJson, ofJsonWithin, splitTag_ofBody_eq_ok_iff]
  exact and_congr_right fun _ => and_congr_right fun _ => parts_congr fun x hx j =>
    ofJsonWithin_eq_ok_iff hx

/-- **A text is read as its value is decoded**, if the tag of its root is a name. -/
theorem read_eq_ok_iff {text : String} :
    read text = .ok i ↔
      ∃ v, Json.read text = .ok v ∧ (∃ name, v.slot? 0 tagName = some (.string name)) ∧
        ofJson v = .ok i := by
  rw [read, run_readTagged_eq_ok_iff]
  simp only [splitTag_ofBody_eq_ok_iff, ofJson_eq_ok_iff]

end Instruction

/-! ## The roles of members -/

/-- The slots of the node that a value is to be decoded as. Where its tags name no kind, the tags
are all that is known. -/
def layout : Node → Json → List (String × Role)
  | .instruction, v =>
    match Instruction.kind? v with
    | some k => k.layout
    | none => [("type", .data), ("cmdType", .data)]
  | .expression, v =>
    match v.tagAt? Expr.Form.ofTag 0 Expr.tagName with
    | some f => f.layout
    | none => [("type", .data)]

/-- What a member of a value is decoded as, if at all. -/
def memberRole : Role → Json → Nat → Option Role
  | .instructions, .array _, _ => some (.node .instruction)
  | .node sort, .array items, m => (layout sort (.array items))[m]?.map (·.2)
  | .node sort, .object fields, m =>
    fields[m]?.bind fun f => (layout sort (.object fields)).lookup f.1
  | _, _, _ => none

section Members

variable {sort : Node} {v w x : Json} {r r' : Role} {m j j' : Nat} {name name' : String}

theorem layout_zero (sort : Node) (v : Json) : (layout sort v)[0]? = some ("type", .data) := by
  cases sort with
  | instruction =>
    rw [layout]
    split
    · rename_i k _
      cases k <;> rfl
    · rfl
  | expression =>
    rw [layout]
    split
    · rename_i f _
      cases f <;> rfl
    · rfl

theorem nodup_layout (sort : Node) (v : Json) : ((layout sort v).map (·.1)).Nodup := by
  cases sort with
  | instruction =>
    rw [layout]
    split
    · rename_i k _
      cases k <;> decide
    · decide
  | expression =>
    rw [layout]
    split
    · rename_i f _
      cases f <;> decide
    · decide

/-- A composite holds its instructions in its slot. -/
theorem layout_of_kind? {form : Composite} (h : Instruction.kind? v = some form.kind) :
    (layout .instruction v)[form.slot.1]? = some (form.slot.2, .instructions) := by
  rw [layout, h]
  cases form <;> rfl

/-- A member with a role is for a slot of that role. -/
theorem exists_slot_of_memberRole (h : memberRole (.node sort) v m = some r) :
    ∃ j name, (layout sort v)[j]? = some (name, r) ∧ v.Fills m j name := by
  cases v with
  | array items =>
    obtain ⟨⟨name, r'⟩, hslot, rfl⟩ := Option.map_eq_some_iff.1 h
    exact ⟨m, name, hslot, rfl⟩
  | object fields =>
    obtain ⟨⟨name, x⟩, hfield, h⟩ := Option.bind_eq_some_iff.1 h
    obtain ⟨before, after, hlayout, -⟩ := List.lookup_eq_some_iff.1 h
    obtain ⟨j, hj⟩ := List.mem_iff_getElem?.1 (hlayout ▸ List.mem_append_cons_self)
    exact ⟨j, name, hj, x, hfield⟩
  | null | boolean | number | string => cases h

/-- And a member that is for a slot has the role of the slot. -/
theorem memberRole_of_fills (hj : (layout sort v)[j]? = some (name, r)) (h : v.Fills m j name) :
    memberRole (.node sort) v m = some r := by
  cases v with
  | array items =>
    cases h
    exact Option.map_eq_some_iff.2 ⟨_, hj, rfl⟩
  | object fields =>
    obtain ⟨x, hx⟩ := h
    refine Option.bind_eq_some_iff.2 ⟨_, hx, ?_⟩
    obtain ⟨before, after, hlayout⟩ := List.append_of_mem (List.mem_of_getElem? hj)
    have hnodup := nodup_layout sort (.object fields)
    rw [hlayout, List.map_append, List.nodup_append] at hnodup
    refine List.lookup_eq_some_iff.2 ⟨before, after, hlayout, fun slot hslot => ?_⟩
    have hne := hnodup.2.2 slot.1 (List.mem_map_of_mem hslot) name (by simp)
    simpa using hne.symm
  | null | boolean | number | string => cases h

/-- No other slot is for it. -/
theorem role_eq_of_fills (hj : (layout sort v)[j]? = some (name, r))
    (hj' : (layout sort v)[j']? = some (name', r')) (h : v.Fills m j name)
    (h' : v.Fills m j' name') : r = r' := by
  cases v with
  | array items =>
    cases h
    cases h'
    cases hj.symm.trans hj'
    rfl
  | object fields =>
    obtain ⟨x, hx⟩ := h
    obtain ⟨x', hx'⟩ := h'
    cases hx.symm.trans hx'
    have hslot := List.inj_on_of_nodup_map (nodup_layout sort _) (List.mem_of_getElem? hj)
      (List.mem_of_getElem? hj') rfl
    exact congrArg Prod.snd hslot
  | null | boolean | number | string => cases h

/-- **With another member in the place of one, the slots of the member's role may hold the other
one, and what is in the others stays.** -/
theorem rel_slot?_setMember {R : Role → Json → Json → Prop} {y : Json} (hrefl : ∀ r x, R r x x)
    (hrole : memberRole (.node sort) v m = some r) (hx : v.members[m]? = some x) (hxy : R r x y)
    (hj : (layout sort v)[j]? = some (name, r')) :
    Option.Rel (R r') (v.slot? j name) ((v.setMember m y).slot? j name) := by
  by_cases hfills : v.Fills m j name
  · obtain ⟨j', name', hj', hfills'⟩ := exists_slot_of_memberRole hrole
    have hr := role_eq_of_fills hj hj' hfills hfills'
    subst hr
    rw [slot?_setMember hx hfills]
    cases hslot : v.slot? j name with
    | none => exact .none
    | some z =>
      cases eq_of_fills hx hfills hslot
      exact .some hxy
  · rw [slot?_setMember_of_not_fills hx hfills]
    cases v.slot? j name with
    | none => exact .none
    | some z => exact .some (hrefl r' z)

/-- Where the tags are the same, so is the kind. -/
theorem kind?_congr (h : ∀ j name, (layout .instruction v)[j]? = some (name, .data) →
    w.slot? j name = v.slot? j name) : Instruction.kind? w = Instruction.kind? v := by
  have htag : w.tagAt? Instruction.Form.ofTag 0 Instruction.tagName =
      v.tagAt? Instruction.Form.ofTag 0 Instruction.tagName := by
    rw [tagAt?, Instruction.tagName, h 0 _ (layout_zero _ _)]
    rfl
  rw [Instruction.kind?, Instruction.kind?, htag]
  cases hform : v.tagAt? Instruction.Form.ofTag 0 Instruction.tagName with
  | none => rfl
  | some form =>
    cases form with
    | command =>
      have hslot : (layout .instruction v)[1]? = some (Instruction.commandTagName, .data) := by
        rw [layout]
        split
        · rename_i k hk
          rw [Instruction.tagAt?_of_kind? hk] at hform
          cases k <;> first | rfl | cases hform
        · rfl
      simp only [tagAt?, h 1 _ hslot]
    | script => rfl
    | dialog => rfl
    | expression => rfl
    | pause => rfl
    | unknown => rfl

end Members

end DialogueScript
