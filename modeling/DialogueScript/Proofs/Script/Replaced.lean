import DialogueScript.Proofs.Script.Decoding
import DialogueScript.Script.Path
/-!
# Nodes of an unfamiliar kind

A node of a script text can be exchanged for an object of a kind that the
library does not know, whatever else this object holds: the text is still
accepted, and is read as the same script with a leaf in the place of the node.

`NodeAt` says where in a value the node of a path stands. A step of a path goes
through a member that holds a list of instructions and an item of that list, so
with another node there the one around it is decoded as before, with the child
replaced (`exists_of_instructions`). Over a whole path this is
`exists_node_of_nodeAt`, and over a text it is the main statement, by the
exchange of a part of the text.
-/

namespace DialogueScript

open Json

/-! ## Lists, item by item -/

section Lists

variable {α β : Type} {R : α → β → Prop} {as : List α} {bs : List β} {n : Nat} {a : α} {b : β}

theorem exists_of_forall₂_left (h : List.Forall₂ R as bs) (ha : as[n]? = some a) :
    ∃ b, bs[n]? = some b ∧ R a b := by
  induction h generalizing n with
  | nil => cases ha
  | @cons a' b' as bs hab _ ih =>
    cases n with
    | zero =>
      cases ha
      exact ⟨b', rfl, hab⟩
    | succ n => exact ih ha

theorem exists_of_forall₂_right (h : List.Forall₂ R as bs) (hb : bs[n]? = some b) :
    ∃ a, as[n]? = some a ∧ R a b :=
  exists_of_forall₂_left (@List.Forall₂.flip _ _ (flip R) _ _ h) hb

theorem forall₂_set (h : List.Forall₂ R as bs) (hab : R a b) (n : Nat) :
    List.Forall₂ R (as.set n a) (bs.set n b) := by
  induction h generalizing n with
  | nil => exact .nil
  | cons hab' hrest ih =>
    cases n with
    | zero => exact .cons hab hrest
    | succ n => exact .cons hab' (ih n)

end Lists

/-! ## Positions -/

/-- Where in a value the node of a path stands: for each step the member that holds a list of
instructions, and the item of that list. -/
inductive NodeAt : Json → Path → List Nat → Prop
  | root (v : Json) : NodeAt v [] []
  | step {v x : Json} {items : List Json} {m n : Nat} {p : Path} {q : List Nat} :
      memberRole (.node .instruction) v m = some .instructions →
      v.members[m]? = some (.array items) → items[n]? = some x → NodeAt x p q →
      NodeAt v (n :: p) (m :: n :: q)

theorem NodeAt.length {v : Json} {p : Path} {q : List Nat} (h : NodeAt v p q) :
    q.length = 2 * p.length := by
  induction h with
  | root v => rfl
  | step _ _ _ _ ih =>
    simp only [List.length_cons, ih]
    omega

/-- The instructions of a node are in the slot of a composite. -/
theorem Kind.exists_of_layout {k : Kind} {j : Nat} {name : String}
    (h : k.layout[j]? = some (name, .instructions)) :
    ∃ form : Composite, k = form.kind ∧ form.slot = (j, name) := by
  have hbound : j < 3 := by
    have hlength : k.layout.length ≤ 3 := by cases k <;> decide
    exact lt_of_lt_of_le (List.getElem?_eq_some_iff.1 h).1 hlength
  cases k with
  | script =>
    refine ⟨.script, rfl, ?_⟩
    interval_cases j <;> cases h
    rfl
  | ifBlock =>
    refine ⟨.ifBlock, rfl, ?_⟩
    interval_cases j <;> cases h
    rfl
  | ifChainLink =>
    refine ⟨.ifChainLink, rfl, ?_⟩
    interval_cases j <;> cases h
    rfl
  | eachBlock =>
    refine ⟨.eachBlock, rfl, ?_⟩
    interval_cases j <;> cases h
    rfl
  | command => interval_cases j <;> cases h
  | dialog => interval_cases j <;> cases h
  | expression => interval_cases j <;> cases h
  | pause => interval_cases j <;> cases h
  | unknown => interval_cases j <;> cases h

namespace Instruction

/-- A tree with another in the place of the one at a path. -/
def replace : Instruction → Path → Instruction → Instruction
  | _, [], j => j
  | .composite form body, n :: p, j =>
    match body[n]? with
    | some c => .composite form (body.set n (c.replace p j))
    | none => .composite form body
  | i, _ :: _, _ => i

variable {v x y : Json} {i j node script : Instruction} {m n : Nat} {items : List Json}
variable {p : Path} {q : List Nat}

/-- Other instructions in a node leave its tags. -/
theorem slot?_setMember_instructions {name : String} {k : Nat}
    (hrole : memberRole (.node .instruction) v m = some .instructions)
    (hx : v.members[m]? = some x) (hk : (layout .instruction v)[k]? = some (name, .data)) :
    (v.setMember m y).slot? k name = v.slot? k name := by
  refine slot?_setMember_of_not_fills hx fun hfills => ?_
  obtain ⟨k', name', hk', hfills'⟩ := exists_slot_of_memberRole hrole
  cases role_eq_of_fills hk hk' hfills hfills'

/-- **A node with a list of instructions is a composite of them**, and with another list in its
place it is the composite of the others. -/
theorem exists_of_instructions (hv : ofJson v = .ok i)
    (hrole : memberRole (.node .instruction) v m = some .instructions)
    (hx : v.members[m]? = some (.array items)) :
    ∃ form body, i = .composite form body ∧
      List.Forall₂ (fun a b => ofJson a = .ok b) items body ∧
      ∀ items' body', List.Forall₂ (fun a b => ofJson a = .ok b) items' body' →
        ofJson (v.setMember m (.array items')) = .ok (.composite form body') := by
  obtain ⟨hkind, hmost, hparts⟩ := ofJson_eq_ok_iff.1 hv
  have hlayout : layout .instruction v = i.kind.layout := by rw [layout, hkind]
  -- no slot but that of a composite holds instructions
  obtain ⟨k, name, hk, hfills⟩ := exists_slot_of_memberRole hrole
  rw [hlayout] at hk
  obtain ⟨form, hform, hslot⟩ := Kind.exists_of_layout hk
  obtain ⟨body, rfl⟩ := exists_of_kind_eq form hform
  obtain ⟨u, hu, hbody⟩ := hparts
  simp only [hslot] at hu
  cases eq_of_fills hx hfills hu
  refine ⟨form, body, rfl, mapM_eq_ok_iff.1 hbody, fun items' body' hbody' => ?_⟩
  refine ofJson_eq_ok_iff.2 ⟨?_, atMost_setMember.2 hmost, .array items', ?_, ?_⟩
  · -- the tags are in other slots
    rw [kind?_congr fun k name hk => slot?_setMember_instructions hrole hx hk]
    exact hkind
  · simp only [hslot]
    rw [slot?_setMember hx hfills, hu]
    rfl
  · exact mapM_eq_ok_iff.2 hbody'

theorem resolve_composite {form : Composite} {body : List Instruction} {c : Instruction}
    (hc : body[n]? = some c) (p : Path) : (composite form body).resolve (n :: p) = c.resolve p := by
  cases body with
  | nil => cases hc
  | cons b body =>
    have hchildren : (composite form (b :: body)).children = some (b :: body) := rfl
    rw [resolve_cons hchildren, hc]
    rfl

/-- **With another node in the place of one, a value is decoded as the script with that node
replaced.** -/
theorem exists_node_of_nodeAt (h : NodeAt v p q) (hv : ofJson v = .ok script) :
    ∃ x node, v.part? q = some x ∧ ofJson x = .ok node ∧ script.resolve p = some node ∧
      ∀ y j, ofJson y = .ok j → ofJson (v.put q y) = .ok (script.replace p j) := by
  induction h generalizing script with
  | root v => exact ⟨v, script, rfl, hv, rfl, fun y j hy => hy⟩
  | @step v x items m n p q hrole hitems hx _ ih =>
    obtain ⟨form, body, rfl, hbody, hother⟩ := exists_of_instructions hv hrole hitems
    obtain ⟨c, hc, hdecoded⟩ := exists_of_forall₂_left hbody hx
    obtain ⟨z, node, hz, hnode, hresolve, hreplace⟩ := ih hdecoded
    -- one step of the path is two levels of the value: the list, and the item in it
    have hitem : (array items).members[n]? = some x := hx
    refine ⟨z, node, ?_, hnode, ?_, fun y j hy => ?_⟩
    · simp only [part?, hitems, hitem, Option.bind_some, hz]
    · rw [resolve_composite hc, hresolve]
    · have hput : v.put (m :: n :: q) y =
          v.setMember m (.array (items.set n (x.put q y))) := by
        simp only [put, hitems, hitem, setMember]
      have hreplaced : (composite form body).replace (n :: p) j =
          .composite form (body.set n (c.replace p j)) := by
        simp only [replace, hc]
      rw [hput, hreplaced]
      exact hother _ _ (forall₂_set hbody (hreplace y j hy) n)

/-- **Every node of a script stands somewhere in the value it is decoded from.** -/
theorem exists_nodeAt_of_resolve (hv : ofJson v = .ok script)
    (hnode : script.resolve p = some node) : ∃ q, NodeAt v p q := by
  induction p generalizing v script with
  | nil => exact ⟨[], .root v⟩
  | cons n p ih =>
    cases hchildren : script.children with
    | none =>
      rw [resolve, hchildren] at hnode
      cases hnode
    | some body =>
      rw [resolve_cons hchildren] at hnode
      obtain ⟨c, hc, hresolve⟩ := Option.bind_eq_some_iff.1 hnode
      obtain ⟨form, b, rest, rfl, rfl⟩ := children_eq_some hchildren
      obtain ⟨hkind, -, u, hu, hbody⟩ := ofJson_eq_ok_iff.1 hv
      obtain ⟨items, rfl, hitems⟩ := asList_eq_ok_iff.1 hbody
      obtain ⟨m, hm, hfills⟩ := exists_fills hu
      obtain ⟨x, hx, hdecoded⟩ := exists_of_forall₂_right hitems hc
      obtain ⟨q, hq⟩ := ih hdecoded hresolve
      exact ⟨m :: n :: q, .step (memberRole_of_fills (layout_of_kind? hkind) hfills) hm hx hq⟩

/-! ## Unfamiliar kinds -/

section Unfamiliar

variable {fields : List (String × Json)} {name : String}

theorem lookup_eq_none_of_not_mem {τ : Type} {names : List (String × τ)}
    (h : name ∉ names.map (·.1)) : names.lookup name = none := by
  refine List.lookup_eq_none_iff.2 fun f hf => ?_
  have hne : name ≠ f.1 := by
    rintro rfl
    exact h (List.mem_map_of_mem hf)
  simpa using hne

/-- An object of an unknown kind is a leaf, whatever its other fields hold. -/
theorem ofJson_unknown (htag : sole tagName fields = some (.string name))
    (hname : name ∉ Form.names.map (·.1)) : ofJson (.object fields) = .ok .unknown := by
  have hform : Form.ofTag (.name name) = .ok .unknown := by
    rw [Form.ofTag, lookup_eq_none_of_not_mem hname]
    rfl
  have hslot : (object fields).slot? 0 tagName = some (.string name) := htag
  refine ofJson_eq_ok_iff.2 ⟨?_, trivial, trivial⟩
  rw [kind?, (tagAt?_eq_some_iff hslot).2 hform]
  rfl

/-- So is an unknown command. -/
theorem ofJson_unknownCommand (htag : sole tagName fields = some (.string "Command"))
    (hcommand : sole commandTagName fields = some (.string name))
    (hname : name ∉ CommandForm.names.map (·.1)) :
    ofJson (.object fields) = .ok .unknownCommand := by
  have hform : CommandForm.ofTag (.name name) = .ok .unknown := by
    rw [CommandForm.ofTag, lookup_eq_none_of_not_mem hname]
    rfl
  have hslot : (object fields).slot? 0 tagName = some (.string "Command") := htag
  have hslot' : (object fields).slot? 1 commandTagName = some (.string name) := hcommand
  have hcommandForm : Form.ofTag (.name "Command") = .ok .command := rfl
  refine ofJson_eq_ok_iff.2 ⟨?_, trivial, trivial⟩
  rw [kind?, (tagAt?_eq_some_iff hslot).2 hcommandForm]
  dsimp only
  rw [(tagAt?_eq_some_iff hslot').2 hform]
  rfl

end Unfamiliar

/-! ## Texts -/

/-- The tag at the root of a value is that of the exchanged node, or stays. -/
theorem exists_name_of_put (h : NodeAt v p q) (hv : ∃ name, v.slot? 0 tagName = some (.string name))
    (hy : ∃ name, y.slot? 0 tagName = some (.string name)) :
    ∃ name, (v.put q y).slot? 0 tagName = some (.string name) := by
  cases h with
  | root => exact hy
  | @step _ x items m n p q hrole hitems hx _ =>
    have hput : v.put (m :: n :: q) y = v.setMember m ((array items).put (n :: q) y) := by
      simp only [put, hitems]
    have hslot : (v.put (m :: n :: q) y).slot? 0 tagName = v.slot? 0 tagName := by
      rw [hput]
      exact slot?_setMember_instructions hrole hitems (layout_zero _ _)
    rwa [hslot]

/-- **A node of a text can be exchanged for one of an unfamiliar kind**: the text is accepted, and
read as the script with a leaf in that place. This goes for every node of the script, each of which
stands somewhere in the text, and for every object with such a tag that keeps the limit on nesting,
two levels of which are taken by each step of the path. -/
theorem read_exchange_unfamiliar {text : String} (h : read text = .ok script) :
    ∃ v, Json.read text = .ok v ∧
      (∀ path node, script.resolve path = some node → ∃ place, NodeAt v path place) ∧
      ∀ path place, NodeAt v path place →
        ∃ (before old after : String) (x : Json) (node : Instruction),
          text = before ++ old ++ after ∧ Json.read old = .ok x ∧ v.part? place = some x ∧
          ofJson x = .ok node ∧ script.resolve path = some node ∧
          ∀ new fields, Json.read new = .ok (.object fields) →
            (Json.object fields).depth + 2 * path.length ≤ depthLimit →
            Json.read (before ++ new ++ after) = .ok (v.put place (.object fields)) ∧
            (∀ name, sole "type" fields = some (.string name) →
              name ∉ ["Script", "Command", "Dialog", "Expression", "Pause"] →
              read (before ++ new ++ after) = .ok (script.replace path .unknown)) ∧
            (∀ name, sole "type" fields = some (.string "Command") →
              sole "cmdType" fields = some (.string name) →
              name ∉ ["IfBlock", "IfChainLink", "EachBlock"] →
              read (before ++ new ++ after) = .ok (script.replace path .unknownCommand)) := by
  obtain ⟨v, hv, htag, hdecoded⟩ := read_eq_ok_iff.1 h
  refine ⟨v, hv, fun path node => exists_nodeAt_of_resolve hdecoded, fun path place hplace => ?_⟩
  obtain ⟨x, node, hx, hnode, hresolve, hreplace⟩ := exists_node_of_nodeAt hplace hdecoded
  obtain ⟨before, old, after, htext, hold, hexchange⟩ := exists_exchange_of_read hv hx
  refine ⟨before, old, after, x, node, htext, hold, hx, hnode, hresolve, ?_⟩
  intro new fields hnew hdepth
  have hread := hexchange new _ hnew (by rwa [hplace.length])
  refine ⟨hread, fun name hname hunknown => ?_, fun name hname hcommand hunknown => ?_⟩
  · exact read_eq_ok_iff.2 ⟨_, hread, exists_name_of_put hplace htag ⟨name, hname⟩,
      hreplace _ _ (ofJson_unknown hname hunknown)⟩
  · exact read_eq_ok_iff.2 ⟨_, hread, exists_name_of_put hplace htag ⟨"Command", hname⟩,
      hreplace _ _ (ofJson_unknownCommand hname hcommand hunknown)⟩

/-- In the list of a conditional inside a script, for objects whose other fields would be malformed
in a node of a known kind. -/
theorem read_exchange_unfamiliar_nested :
    let text := "\x7b\"type\":\"Script\",\"instructions\":[\x7b\"type\":\"Command\"," ++
      "\"cmdType\":\"IfBlock\",\"chain\":[\x7b\"type\":\"Pause\"\x7d]\x7d,[\"Dialog\",\"a\"]]\x7d"
    let choice := "\x7b\"block\":[\x7b\"type\":\"Dialog\"\x7d],\"type\":\"Choice\"\x7d"
    let label := "\x7b\"block\":true,\"cmdType\":\"Label\",\"type\":\"Command\"\x7d"
    ∃ before old after, text = before ++ old ++ after ∧
      Json.read old = .ok (.object [("type", .string "Pause")]) ∧
      read (before ++ choice ++ after) =
        .ok (.composite .script [.composite .ifBlock [.unknown], .dialog "a"]) ∧
      read (before ++ label ++ after) =
        .ok (.composite .script [.composite .ifBlock [.unknownCommand], .dialog "a"]) := by
  intro text choice label
  let v := Json.object [("type", .string "Script"), ("instructions", .array [
    .object [("type", .string "Command"), ("cmdType", .string "IfBlock"),
      ("chain", .array [.object [("type", .string "Pause")]])],
    .array [.string "Dialog", .string "a"]])]
  let choiceFields :=
    [("block", Json.array [.object [("type", .string "Dialog")]]), ("type", Json.string "Choice")]
  let labelFields :=
    [("block", Json.boolean true), ("cmdType", .string "Label"), ("type", .string "Command")]
  have hwritten : ∀ u : Json, u.depth ≤ depthLimit → (∀ n ∈ u.numbers, n.Kept) → ∀ text,
      text = u.compact → Json.read text = .ok u := by
    rintro u hdepth hkept _ rfl
    exact read_compact hdepth hkept
  have hv : Json.read text = .ok v := hwritten v (by decide) nofun text (by decide +kernel)
  have hchoice : Json.read choice = .ok (.object choiceFields) :=
    hwritten (.object choiceFields) (by decide) nofun choice (by decide +kernel)
  have hlabel : Json.read label = .ok (.object labelFields) :=
    hwritten (.object labelFields) (by decide) nofun label (by decide +kernel)
  have hread : read text = .ok (.composite .script [.composite .ifBlock [.pause], .dialog "a"]) :=
    read_eq_ok_iff.2 ⟨v, hv, ⟨"Script", rfl⟩, rfl⟩
  obtain ⟨v', hv', -, hexchange⟩ := read_exchange_unfamiliar hread
  cases hv.symm.trans hv'
  obtain ⟨before, old, after, x, node, htext, hold, hx, -, -, hnew⟩ := hexchange [0, 0] [1, 0, 2, 0]
    (.step rfl rfl rfl (.step rfl rfl rfl (.root _)))
  cases hx
  exact ⟨before, old, after, htext, hold,
    (hnew choice choiceFields hchoice (by decide)).2.1 "Choice" rfl (by decide),
    (hnew label labelFields hlabel (by decide)).2.2 "Label" rfl rfl (by decide)⟩

end Instruction

end DialogueScript
