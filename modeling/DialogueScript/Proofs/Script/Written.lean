import DialogueScript.Proofs.Json.Tagging
import DialogueScript.Script.ToJson
/-!
# Written scripts are read back

A script can be spelt in many ways: nodes as objects or as lists, tags by name
or by number, keys in any order and others among them. Writing a decoded script
settles on one of these. It is decoded as the same script (`ofJson_toJson`), and
it nests no deeper than the text it was decoded from (`depth_toJson_of_read`),
so it never runs into the limit that the first text kept.

Both facts are proved for one node at a time, with what is proved of the nodes
inside it as a hypothesis on the decoder for these.
-/

namespace DialogueScript

open Json Reader

/-! ## Expressions -/

theorem UnaryOp.asChoice_name (op : UnaryOp) :
    asChoice UnaryOp.names (.string op.name) = .ok op := by
  cases op <;> rfl

theorem BinaryOp.asChoice_name (op : BinaryOp) :
    asChoice BinaryOp.names (.string op.name) = .ok op := by
  cases op <;> rfl

namespace Expr

/-- The numbers in an expression. -/
def numbers : Expr → List Float
  | .number x => [x]
  | .assign _ e => e.numbers
  | .unary _ e => e.numbers
  | .binary _ l r => l.numbers ++ r.numbers
  | _ => []

theorem numbers_toJson (e : Expr) : e.toJson.numbers = e.numbers.map Number.float := by
  induction e <;> simp_all [toJson, numbers, Json.numbers, numbersFields]

/-! ### Decoding what is written -/

/-- An expression is decoded from its form and fields if its operands are decoded. -/
theorem exists_carries (e : Expr) : ∃ form fields,
    Carries tagName Form.ofTag form fields e.toJson ∧
      ∀ nested : Json → Except Mismatch Expr,
        (∀ o : Expr, o.toJson.depth < e.toJson.depth → nested o.toJson = .ok o) →
          ofBody nested form (.named fields) = .ok e := by
  cases e with
  | null => exact ⟨_, _, ⟨_, rfl, rfl, by simp⟩, fun _ _ => rfl⟩
  | boolean b => exact ⟨_, _, ⟨_, rfl, rfl, by simp [tagName]⟩, fun _ _ => rfl⟩
  | number x => exact ⟨_, _, ⟨_, rfl, rfl, by simp [tagName]⟩, fun _ _ => rfl⟩
  | string s => exact ⟨_, _, ⟨_, rfl, rfl, by simp [tagName]⟩, fun _ _ => rfl⟩
  | ident name => exact ⟨_, _, ⟨_, rfl, rfl, by simp [tagName]⟩, fun _ _ => rfl⟩
  | assign name e =>
    refine ⟨_, _, ⟨_, rfl, rfl, by simp [tagName]⟩, fun nested hnested => ?_⟩
    have he := hnested e (by simp [toJson, depth, depthFields])
    have hfields : Fields.two "Expr::Assign" ⟨"name", asString⟩ ⟨"value", nested⟩
        (.named [("name", .string name), ("value", e.toJson)]) = .ok (name, e) :=
      Fields.two_named (by simp) rfl he
    rw [ofBody, hfields]
    rfl
  | unary op e =>
    refine ⟨_, _, ⟨_, rfl, rfl, by simp [tagName]⟩, fun nested hnested => ?_⟩
    have he := hnested e (by simp [toJson, depth, depthFields])
    have hfields : Fields.two "Expr::Unary" ⟨"op", asChoice UnaryOp.names⟩ ⟨"operand", nested⟩
        (.named [("op", .string op.name), ("operand", e.toJson)]) = .ok (op, e) :=
      Fields.two_named (by simp) op.asChoice_name he
    rw [ofBody, hfields]
    rfl
  | binary op l r =>
    refine ⟨_, _, ⟨_, rfl, rfl, by simp [tagName]⟩, fun nested hnested => ?_⟩
    have hl := hnested l (by simp only [toJson, depth, depthFields]; omega)
    have hr := hnested r (by simp only [toJson, depth, depthFields]; omega)
    have hfields : Fields.three "Expr::Binary" ⟨"op", asChoice BinaryOp.names⟩ ⟨"left", nested⟩
        ⟨"right", nested⟩ (.named [("op", .string op.name), ("left", l.toJson),
          ("right", r.toJson)]) = .ok (op, l, r) :=
      Fields.three_named (by simp) (by simp) (by simp) op.asChoice_name hl hr
    rw [ofBody, hfields]
    rfl

theorem ofJsonWithin_toJson {k : Nat} (e : Expr) (h : e.toJson.depth < k) :
    ofJsonWithin k e.toJson = .ok e := by
  induction k generalizing e with
  | zero => cases h
  | succ k ih =>
    obtain ⟨form, fields, hcarries, hbody⟩ := exists_carries e
    rw [ofJsonWithin, splitTag_of_carries hcarries]
    exact hbody (ofJsonWithin k) fun o ho => ih o (by omega)

/-- **An expression is decoded from the value it is written as.** -/
theorem ofJson_toJson (e : Expr) : ofJson e.toJson = .ok e :=
  ofJsonWithin_toJson e (Nat.lt_succ_self _)

/-! ### What is decoded nests no deeper -/

variable {nested : Json → Except Mismatch Expr} {form : Form} {body : Body} {e : Expr} {d : Nat}

/-- One level is added to those of the values of the body, and none by an operand. -/
theorem depth_toJson_of_ofBody (hnested : ∀ v o, nested v = .ok o → o.toJson.depth ≤ v.depth)
    (hbody : ∀ v ∈ body.values, v.depth ≤ d) (h : ofBody nested form body = .ok e) :
    e.toJson.depth ≤ d + 1 := by
  -- what an operand is decoded from is in the body
  have hoperand : ∀ o, (∃ v ∈ body.values, nested v = .ok o) → o.toJson.depth ≤ d := by
    rintro o ⟨v, hv, ho⟩
    exact le_trans (hnested v o ho) (hbody v hv)
  cases form with
  | null =>
    obtain ⟨-, -, h⟩ := exists_of_bind_ok h
    cases h
    simp [toJson, depth, depthFields]
  | boolean =>
    obtain ⟨b, -, rfl⟩ := exists_of_map_ok h
    simp [toJson, depth, depthFields]
  | number =>
    obtain ⟨x, -, rfl⟩ := exists_of_map_ok h
    simp [toJson, depth, depthFields]
  | string =>
    obtain ⟨s, -, rfl⟩ := exists_of_map_ok h
    simp [toJson, depth, depthFields]
  | ident =>
    obtain ⟨name, -, rfl⟩ := exists_of_map_ok h
    simp [toJson, depth, depthFields]
  | assign =>
    obtain ⟨⟨name, o⟩, hfields, h⟩ := exists_of_bind_ok h
    cases h
    have ho := hoperand o (Fields.exists_of_two hfields).2
    simp only [toJson, depth, depthFields]
    omega
  | unary =>
    obtain ⟨⟨op, o⟩, hfields, h⟩ := exists_of_bind_ok h
    cases h
    have ho := hoperand o (Fields.exists_of_two hfields).2
    simp only [toJson, depth, depthFields]
    omega
  | binary =>
    obtain ⟨⟨op, l, r⟩, hfields, h⟩ := exists_of_bind_ok h
    cases h
    have hl := hoperand l (Fields.exists_of_three hfields).2.1
    have hr := hoperand r (Fields.exists_of_three hfields).2.2
    simp only [toJson, depth, depthFields]
    omega

theorem depth_toJson_of_ofJsonWithin {k : Nat} {v : Json} (h : ofJsonWithin k v = .ok e) :
    e.toJson.depth ≤ v.depth := by
  induction k generalizing v e with
  | zero => cases h
  | succ k ih =>
    obtain ⟨⟨form, body⟩, hsplit, h⟩ := exists_of_bind_ok h
    obtain ⟨d, hd, hbody⟩ := exists_depth_of_splitTag hsplit
    rw [hd]
    exact depth_toJson_of_ofBody (fun v o => ih) hbody h

theorem beq_self (e : Expr) (h : ∀ x ∈ e.numbers, Reproduced x) : (e == e) = true := by
  change beq e e = true
  induction e with
  | null => rfl
  | boolean b => exact beq_self_eq_true b
  | number x => exact beq_self_of_reproduced (h x (by simp [numbers]))
  | string s => exact beq_self_eq_true s
  | ident name => exact beq_self_eq_true name
  | assign name e ih => simp [beq, ih h]
  | unary op e ih => simp [beq, ih h]
  | binary op l r ihl ihr =>
    rw [numbers, List.forall_mem_append] at h
    simp [beq, ihl h.1, ihr h.2]

end Expr

/-! ## Instructions -/

namespace Instruction

mutual

/-- The numbers in an instruction. -/
def numbers : Instruction → List Float
  | .composite _ body => numbersList body
  | .expression e => e.numbers
  | _ => []

/-- The numbers in instructions. -/
def numbersList : List Instruction → List Float
  | [] => []
  | i :: is => numbers i ++ numbersList is

end

theorem toJsonList_eq_map (is : List Instruction) : toJsonList is = is.map toJson := by
  induction is with
  | nil => rfl
  | cons i is ih => rw [toJsonList, ih, List.map_cons]

mutual

theorem numbers_toJson : ∀ i : Instruction, i.toJson.numbers = i.numbers.map Number.float
  | .composite form body => by
    have hbody := numbers_toJsonList body
    cases form <;>
      simpa [toJson, Composite.tags, numbers, Json.numbers, numbersFields] using hbody
  | .dialog _ => rfl
  | .expression e => by
    simpa [toJson, numbers, Json.numbers, numbersFields] using e.numbers_toJson
  | .pause => rfl
  | .unknownCommand => rfl
  | .unknown => rfl

theorem numbers_toJsonList : ∀ is : List Instruction,
    numbersItems (toJsonList is) = (numbersList is).map Number.float
  | [] => rfl
  | i :: is => by
    rw [toJsonList, numbersItems, numbers_toJson i, numbers_toJsonList is, numbersList,
      List.map_append]

end

/-- The instructions inside a composite one nest less deep. -/
theorem depth_toJson_lt {form : Composite} {body : List Instruction} {i : Instruction}
    (h : i ∈ body) : i.toJson.depth < (toJson (.composite form body)).depth := by
  have hi : i.toJson.depth ≤ depthItems (toJsonList body) := by
    rw [toJsonList_eq_map]
    exact depthItems_le_iff.1 le_rfl _ (List.mem_map_of_mem h)
  cases form <;> simp only [toJson, Composite.tags, List.cons_append, List.nil_append, depth,
    depthFields] <;> omega

/-- The instructions inside a composite one are decoded from its body. -/
theorem asList_toJsonList {nested : Json → Except Mismatch Instruction} {body : List Instruction}
    (h : ∀ i ∈ body, nested i.toJson = .ok i) :
    asList nested (.array (toJsonList body)) = .ok body := by
  rw [toJsonList_eq_map]
  exact mapM_ok h

/-- A command is decoded from what stands behind its first tag. -/
theorem commandOfBody_composite {nested : Json → Except Mismatch Instruction} {form : Composite}
    {body : List Instruction} {v : Json} (hform : form ≠ .script)
    (hbody : asList nested v = .ok body) :
    commandOfBody nested (.named (form.tags.1.drop 1 ++ [(form.tags.2, v)])) =
      .ok (.composite form body) := by
  have hsplit : ∀ cform name, Carries commandTagName CommandForm.ofTag cform [(name, v)]
        (bodyJson (.named (form.tags.1.drop 1 ++ [(form.tags.2, v)]))) →
      splitTag commandTagName expectedCommand CommandForm.ofTag
        (bodyJson (.named (form.tags.1.drop 1 ++ [(form.tags.2, v)]))) =
          .ok (cform, .named [(name, v)]) :=
    fun _ _ hcarries => splitTag_of_carries hcarries
  unfold commandOfBody
  cases form with
  | script => exact absurd rfl hform
  | ifBlock =>
    rw [hsplit .ifBlock "chain" ⟨"IfBlock", rfl, rfl, by simp [commandTagName]⟩]
    exact congrArg (Functor.map _) (Fields.one_named hbody)
  | ifChainLink =>
    rw [hsplit .ifChainLink "block" ⟨"IfChainLink", rfl, rfl, by simp [commandTagName]⟩]
    exact congrArg (Functor.map _) (Fields.one_named hbody)
  | eachBlock =>
    rw [hsplit .eachBlock "block" ⟨"EachBlock", rfl, rfl, by simp [commandTagName]⟩]
    exact congrArg (Functor.map _) (Fields.one_named hbody)

/-- An instruction is decoded from its form and fields if those inside it are decoded. -/
theorem exists_carries (i : Instruction) : ∃ form fields,
    Carries tagName Form.ofTag form fields i.toJson ∧
      ∀ nested : Json → Except Mismatch Instruction,
        (∀ j : Instruction, j.toJson.depth < i.toJson.depth → nested j.toJson = .ok j) →
          ofBody nested form (.named fields) = .ok i := by
  cases i with
  | composite form body =>
    have hlist : ∀ nested : Json → Except Mismatch Instruction,
        (∀ j : Instruction, j.toJson.depth < (toJson (.composite form body)).depth →
          nested j.toJson = .ok j) → asList nested (.array (toJsonList body)) = .ok body :=
      fun nested hnested => asList_toJsonList fun j hj => hnested j (depth_toJson_lt hj)
    cases form with
    | script =>
      refine ⟨.script, _, ⟨_, rfl, rfl, by simp [tagName, Composite.tags]⟩, fun nested h => ?_⟩
      exact congrArg (Functor.map _) (Fields.one_named (hlist nested h))
    | ifBlock =>
      exact ⟨.command, _, ⟨_, rfl, rfl, by simp [tagName, Composite.tags]⟩, fun nested h =>
        commandOfBody_composite (show Composite.ifBlock ≠ .script by decide) (hlist nested h)⟩
    | ifChainLink =>
      exact ⟨.command, _, ⟨_, rfl, rfl, by simp [tagName, Composite.tags]⟩, fun nested h =>
        commandOfBody_composite (show Composite.ifChainLink ≠ .script by decide) (hlist nested h)⟩
    | eachBlock =>
      exact ⟨.command, _, ⟨_, rfl, rfl, by simp [tagName, Composite.tags]⟩, fun nested h =>
        commandOfBody_composite (show Composite.eachBlock ≠ .script by decide) (hlist nested h)⟩
  | dialog text => exact ⟨_, _, ⟨_, rfl, rfl, by simp [tagName]⟩, fun _ _ => rfl⟩
  | expression e =>
    refine ⟨_, _, ⟨_, rfl, rfl, by simp [tagName]⟩, fun nested _ => ?_⟩
    exact congrArg (Functor.map _) (Fields.one_named e.ofJson_toJson)
  | pause => exact ⟨_, _, ⟨_, rfl, rfl, by simp⟩, fun _ _ => rfl⟩
  | unknownCommand => exact ⟨_, _, ⟨_, rfl, rfl, by simp [tagName]⟩, fun _ _ => rfl⟩
  | unknown => exact ⟨_, _, ⟨_, rfl, rfl, by simp⟩, fun _ _ => rfl⟩

theorem ofJsonWithin_toJson {k : Nat} (i : Instruction) (h : i.toJson.depth < k) :
    ofJsonWithin k i.toJson = .ok i := by
  induction k generalizing i with
  | zero => cases h
  | succ k ih =>
    obtain ⟨form, fields, hcarries, hbody⟩ := exists_carries i
    rw [ofJsonWithin, splitTag_of_carries hcarries]
    exact hbody (ofJsonWithin k) fun j hj => ih j (by omega)

/-- **An instruction is decoded from the value it is written as.** -/
theorem ofJson_toJson (i : Instruction) : ofJson i.toJson = .ok i :=
  ofJsonWithin_toJson i (Nat.lt_succ_self _)

/-! ### What is decoded nests no deeper -/

variable {nested : Json → Except Mismatch Instruction} {form : Form} {body : Body}
variable {i : Instruction} {d : Nat}

/-- A composite instruction is written with a list inside, as it was decoded from one. -/
theorem depth_toJson_composite {composite : Composite} {is : List Instruction}
    (hnested : ∀ v i, nested v = .ok i → i.toJson.depth ≤ v.depth)
    (h : ∃ v : Json, v.depth ≤ d ∧ asList nested v = .ok is) :
    (toJson (.composite composite is)).depth ≤ d + 1 := by
  obtain ⟨v, hv, hlist⟩ := h
  cases v with
  | array items =>
    have hitems : depthItems (toJsonList is) ≤ depthItems items := by
      rw [depthItems_le_iff, toJsonList_eq_map, List.forall_mem_map]
      intro i hi
      obtain ⟨v, hv, hdecoded⟩ := exists_of_mem_mapM hlist i hi
      exact le_trans (hnested v i hdecoded) (depthItems_le_iff.1 le_rfl v hv)
    rw [depth] at hv
    cases composite <;> simp only [toJson, Composite.tags, List.cons_append, List.nil_append,
      depth, depthFields] <;> omega
  | null => cases hlist
  | boolean b => cases hlist
  | number n => cases hlist
  | string s => cases hlist
  | object fields => cases hlist

theorem depth_toJson_of_commandOfBody
    (hnested : ∀ v i, nested v = .ok i → i.toJson.depth ≤ v.depth)
    (hbody : ∀ v ∈ body.values, v.depth ≤ d) (h : commandOfBody nested body = .ok i) :
    i.toJson.depth ≤ d + 1 := by
  obtain ⟨⟨form, rest⟩, hsplit, h⟩ := exists_of_bind_ok h
  have hrest : ∀ v ∈ rest.values, v.depth ≤ d := by
    intro v hv
    have hmem := mem_members_of_splitTag hsplit hv
    cases body with
    | named fields => exact hbody v hmem
    | positional items => exact hbody v hmem
  have hlist : ∀ what name is,
      Fields.one what ⟨name, asList nested⟩ rest = .ok is →
        ∃ v : Json, v.depth ≤ d ∧ asList nested v = .ok is := by
    intro what name is hone
    obtain ⟨v, hv, hdecoded⟩ := Fields.exists_of_one hone
    exact ⟨v, hrest v hv, hdecoded⟩
  cases form with
  | ifBlock =>
    obtain ⟨is, hone, rfl⟩ := exists_of_map_ok h
    exact depth_toJson_composite hnested (hlist _ _ is hone)
  | ifChainLink =>
    obtain ⟨is, hone, rfl⟩ := exists_of_map_ok h
    exact depth_toJson_composite hnested (hlist _ _ is hone)
  | eachBlock =>
    obtain ⟨is, hone, rfl⟩ := exists_of_map_ok h
    exact depth_toJson_composite hnested (hlist _ _ is hone)
  | unknown =>
    obtain ⟨-, -, h⟩ := exists_of_bind_ok h
    cases h
    simp [toJson, depth, depthFields]

/-- One level is added to those of the values of the body, and none by an instruction inside. -/
theorem depth_toJson_of_ofBody (hnested : ∀ v i, nested v = .ok i → i.toJson.depth ≤ v.depth)
    (hbody : ∀ v ∈ body.values, v.depth ≤ d) (h : ofBody nested form body = .ok i) :
    i.toJson.depth ≤ d + 1 := by
  cases form with
  | script =>
    obtain ⟨is, hone, rfl⟩ := exists_of_map_ok h
    obtain ⟨v, hv, hdecoded⟩ := Fields.exists_of_one hone
    exact depth_toJson_composite hnested ⟨v, hbody v hv, hdecoded⟩
  | command => exact depth_toJson_of_commandOfBody hnested hbody h
  | dialog =>
    obtain ⟨text, -, rfl⟩ := exists_of_map_ok h
    simp [toJson, depth, depthFields]
  | expression =>
    obtain ⟨e, hone, rfl⟩ := exists_of_map_ok h
    obtain ⟨v, hv, hdecoded⟩ := Fields.exists_of_one hone
    have he : e.toJson.depth ≤ v.depth := Expr.depth_toJson_of_ofJsonWithin hdecoded
    have := hbody v hv
    simp only [toJson, depth, depthFields]
    omega
  | pause =>
    obtain ⟨-, -, h⟩ := exists_of_bind_ok h
    cases h
    simp [toJson, depth, depthFields]
  | unknown =>
    obtain ⟨-, -, h⟩ := exists_of_bind_ok h
    cases h
    simp [toJson, depth, depthFields]

theorem depth_toJson_of_ofJsonWithin {k : Nat} {v : Json} (h : ofJsonWithin k v = .ok i) :
    i.toJson.depth ≤ v.depth := by
  induction k generalizing v i with
  | zero => cases h
  | succ k ih =>
    obtain ⟨⟨form, body⟩, hsplit, h⟩ := exists_of_bind_ok h
    obtain ⟨d, hd, hbody⟩ := exists_depth_of_splitTag hsplit
    rw [hd]
    exact depth_toJson_of_ofBody (fun v i => ih) hbody h

/-! ### Whole texts -/

/-- **A decoded script is written within the limit that its text kept.** -/
theorem depth_toJson_of_read {text : String} (h : read text = .ok i) :
    i.toJson.depth ≤ depthLimit := by
  refine run_of_yields (P := fun i => i.toJson.depth ≤ depthLimit) ?_ h
  refine yields_bind (yields_readTagged _ _ _) ?_
  rintro ⟨form, body⟩ hbody
  refine yields_check fun i hi => ?_
  exact depth_toJson_of_ofBody (fun v j => depth_toJson_of_ofJsonWithin) hbody hi

/-- **A script is read back from every spelling of the value it is written as.** -/
theorem read_of_spells {text : List Char} (hdepth : i.toJson.depth ≤ depthLimit)
    (hnumbers : ∀ x ∈ i.numbers, Reproduced x) (h : Spells i.toJson text) :
    read (String.ofList text) = .ok i := by
  obtain ⟨form, fields, hcarries, hbody⟩ := exists_carries i
  have hkept : ∀ n ∈ i.toJson.numbers, n.Kept := by
    rw [numbers_toJson, List.forall_mem_map]
    exact hnumbers
  refine run_of_reads fun gap rest hgap hrest => ?_
  rw [bind_ok (reads_readTagged hcarries hdepth hkept h gap rest hgap hrest)]
  change Reader.check (ofBody ofJson form (.named fields)) rest = _
  rw [hbody ofJson fun j _ => ofJson_toJson j]
  rfl

mutual

theorem beq_self : ∀ i : Instruction, (∀ x ∈ i.numbers, Reproduced x) → beq i i = true
  | .composite form body, h => by simp [beq, beqList_self body h]
  | .dialog text, _ => by simp [beq]
  | .expression e, h => e.beq_self h
  | .pause, _ => rfl
  | .unknownCommand, _ => rfl
  | .unknown, _ => rfl

theorem beqList_self :
    ∀ is : List Instruction, (∀ x ∈ numbersList is, Reproduced x) → beqList is is = true
  | [], _ => rfl
  | i :: is, h => by
    rw [numbersList, List.forall_mem_append] at h
    rw [beqList, beq_self i h.1, beqList_self is h.2]
    rfl

end

/-- **Writing a script and reading it again changes nothing**, if its numbers are reproduced: what
is written keeps the limit on nesting, in either layout it is read as the script it was written
from, which is also equal to it, and it is written in the same way again. -/
theorem read_write_of_read {text : String} {script : Instruction} (hread : read text = .ok script)
    (hnumbers : ∀ x ∈ script.numbers, Reproduced x) :
    script.toJson.depth ≤ depthLimit ∧
      read script.write = .ok script ∧ read script.toJson.pretty = .ok script ∧
      (script == script) = true ∧ (read script.write).map write = .ok script.write := by
  have hdepth := depth_toJson_of_read hread
  have hwrite : read script.write = .ok script :=
    read_of_spells hdepth hnumbers (spells_compactChars _)
  have hpretty : read script.toJson.pretty = .ok script :=
    read_of_spells hdepth hnumbers (spells_prettyChars 0 _)
  refine ⟨hdepth, hwrite, hpretty, beq_self script hnumbers, ?_⟩
  rw [hwrite]
  rfl

/-- A script given as a list, in which nodes are lists and objects by turns, tags are numbers or
unknown, keys come in any order with others among them, and an operator stands as an object. -/
theorem read_write_of_read_mixed :
    let text := "[\"Script\", [[2, \"a\"], \x7b\"x\": [0], \"expr\": [6, \x7b\"Neg\": null\x7d, " ++
      "[2, 0.5]], \"type\": \"Expression\"\x7d, [\"Command\", 0, [\x7b\"y\": 1, " ++
      "\"type\": \"Later\"\x7d]], [1, \"Other\"]]]"
    let written := "\x7b\"type\":\"Script\",\"instructions\":[" ++
      "\x7b\"type\":\"Dialog\",\"text\":\"a\"\x7d," ++
      "\x7b\"type\":\"Expression\",\"expr\":\x7b\"type\":\"Unary\",\"op\":\"Neg\",\"operand\":" ++
      "\x7b\"type\":\"LitNum\",\"v\":0.5\x7d\x7d\x7d," ++
      "\x7b\"type\":\"Command\",\"cmdType\":\"IfBlock\",\"chain\":[" ++
      "\x7b\"type\":\"Unknown\"\x7d]\x7d," ++
      "\x7b\"type\":\"Command\",\"cmdType\":\"Unknown\"\x7d]\x7d"
    ∃ script, read text = .ok script ∧ script.write = written ∧ read written = .ok script := by
  intro text written
  have hresult : (read text).toOption.map (fun s => (s.write, s.numbers)) =
      some (written, [0.5]) := by decide +kernel
  rcases hread : read text with e | script
  · rw [hread] at hresult
    cases hresult
  rw [hread] at hresult
  obtain ⟨hwrite, hnumbers⟩ := Prod.mk.inj (Option.some.inj hresult)
  have hreproduced : ∀ x ∈ script.numbers, Reproduced x := by
    rw [hnumbers]
    decide
  have hagain := (read_write_of_read hread hreproduced).2.1
  rw [hwrite] at hagain
  exact ⟨script, rfl, hwrite, hagain⟩

end Instruction

end DialogueScript
