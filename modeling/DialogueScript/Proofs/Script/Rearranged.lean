import DialogueScript.Proofs.Script.Decoding
/-!
# Scripts with rearranged fields

`Rearranged` relates values that differ in the order of the fields of their
instructions and expressions, at any depth, and in fields that belong to no slot
of the node they stand in. The main statement is that such values are decoded as
the same script, or none of them as any. A tag may therefore stand behind the
fields it governs.

The argument is about one node at a time. What a node is decoded as hangs on
its slots alone (`alike_of_slots`), and each way of rearranging one leaves in
every slot what was in it, or something that is decoded alike.
-/

namespace DialogueScript

open Json

variable {sort : Node} {r : Role} {v w x y : Json}

/-- Values that differ in the order of the fields of their nodes and in fields that belong to no
slot, both when they are decoded in the given role. -/
inductive Rearranged : Role → Json → Json → Prop
  | refl (r : Role) (v : Json) : Rearranged r v v
  | symm {r : Role} {v w : Json} : Rearranged r v w → Rearranged r w v
  | trans {r : Role} {u v w : Json} : Rearranged r u v → Rearranged r v w → Rearranged r u w
  /-- The fields of a node in another order. -/
  | permute {sort : Node} {fields fields' : List (String × Json)} :
      fields.Perm fields' → Rearranged (.node sort) (.object fields) (.object fields')
  /-- A node with a further field, whose name is none of a tag or a field of its kind. -/
  | add {sort : Node} {fields : List (String × Json)} {k : String} {x : Json} :
      k ∉ (layout sort (.object fields)).map (·.1) →
      Rearranged (.node sort) (.object fields) (.object ((k, x) :: fields))
  /-- A change further inside, in a member that is decoded as something itself. -/
  | inside {r r' : Role} {v x y : Json} {m : Nat} :
      memberRole r v m = some r' → v.members[m]? = some x → Rearranged r' x y →
      Rearranged r v (v.setMember m y)

/-- Values that are decoded alike in a role. At the root of a text the tag matters besides, since
it must be a name there. -/
def Alike : Role → Json → Json → Prop
  | .node .instruction, v, w =>
    (∀ i, Instruction.ofJson v = .ok i ↔ Instruction.ofJson w = .ok i) ∧
      v.slot? 0 "type" = w.slot? 0 "type"
  | .node .expression, v, w => ∀ e, Expr.ofJson v = .ok e ↔ Expr.ofJson w = .ok e
  | .instructions, v, w =>
    ∀ is, asList Instruction.ofJson v = .ok is ↔ asList Instruction.ofJson w = .ok is
  | .data, v, w => v = w

namespace Alike

theorem refl (r : Role) (v : Json) : Alike r v v := by
  cases r with
  | node sort =>
    cases sort with
    | instruction => exact ⟨fun _ => Iff.rfl, rfl⟩
    | expression => exact fun _ => Iff.rfl
  | instructions => exact fun _ => Iff.rfl
  | data => rfl

theorem symm (h : Alike r v w) : Alike r w v := by
  cases r with
  | node sort =>
    cases sort with
    | instruction => exact ⟨fun i => (h.1 i).symm, h.2.symm⟩
    | expression => exact fun e => (h e).symm
  | instructions => exact fun is => (h is).symm
  | data => exact Eq.symm h

theorem trans {u : Json} (h : Alike r u v) (h' : Alike r v w) : Alike r u w := by
  cases r with
  | node sort =>
    cases sort with
    | instruction => exact ⟨fun i => (h.1 i).trans (h'.1 i), h.2.trans h'.2⟩
    | expression => exact fun e => (h e).trans (h' e)
  | instructions => exact fun is => (h is).trans (h' is)
  | data => exact Eq.trans h h'

end Alike

/-! ## One node -/

/-- Each slot of a node holds what is decoded alike, and a list holds as much. -/
structure SlotsAlike (sort : Node) (v w : Json) : Prop where
  slots : ∀ j name r, (layout sort v)[j]? = some (name, r) →
    Option.Rel (Alike r) (v.slot? j name) (w.slot? j name)
  atMost : ∀ n, v.AtMost n ↔ w.AtMost n

namespace SlotsAlike

theorem slot?_eq (h : SlotsAlike sort v w) {j : Nat} {name : String}
    (hj : (layout sort v)[j]? = some (name, .data)) : w.slot? j name = v.slot? j name := by
  have hrel := h.slots j name .data hj
  generalize v.slot? j name = a, w.slot? j name = b at hrel
  cases hrel with
  | none => rfl
  | some hxy => exact congrArg some (Eq.symm hxy)

/-- The tags are the same, so the kind of the node is. -/
theorem layout_eq (h : SlotsAlike sort v w) : layout sort w = layout sort v := by
  cases sort with
  | instruction => rw [layout, layout, kind?_congr fun j name => h.slot?_eq]
  | expression =>
    have htag : w.slot? 0 Expr.tagName = v.slot? 0 Expr.tagName := h.slot?_eq (layout_zero _ _)
    rw [layout, layout, tagAt?, tagAt?, htag]

theorem symm (h : SlotsAlike sort v w) : SlotsAlike sort w v := by
  refine ⟨fun j name r hj => ?_, fun n => (h.atMost n).symm⟩
  rw [h.layout_eq] at hj
  have hrel := h.slots j name r hj
  generalize v.slot? j name = a, w.slot? j name = b at hrel ⊢
  cases hrel with
  | none => exact .none
  | some hxy => exact .some hxy.symm

/-- What a field gives, it gives in the other value too. -/
theorem gives {α : Type} {a : Json.Field α} {b : α} {j : Nat} (h : SlotsAlike sort v w)
    (hj : (layout sort v)[j]? = some (a.name, r))
    (hdecode : ∀ x y, Alike r x y → a.decode x = .ok b → a.decode y = .ok b)
    (hb : v.Gives j a b) : w.Gives j a b := by
  obtain ⟨x, hx, hdecoded⟩ := hb
  have hrel := h.slots j a.name r hj
  rw [hx] at hrel
  cases hrel' : w.slot? j a.name with
  | none =>
    rw [hrel'] at hrel
    cases hrel
  | some y =>
    rw [hrel'] at hrel
    cases hrel with
    | some hxy => exact ⟨y, hrel', hdecode x y hxy hdecoded⟩

theorem gives_data {α : Type} {a : Json.Field α} {b : α} {j : Nat} (h : SlotsAlike sort v w)
    (hj : (layout sort v)[j]? = some (a.name, .data)) (hb : v.Gives j a b) : w.Gives j a b :=
  h.gives hj (fun _ _ hxy hx => hxy ▸ hx) hb

theorem gives_expr {name : String} {e : Expr} {j : Nat} (h : SlotsAlike sort v w)
    (hj : (layout sort v)[j]? = some (name, .node .expression))
    (hb : v.Gives j ⟨name, Expr.ofJson⟩ e) : w.Gives j ⟨name, Expr.ofJson⟩ e :=
  h.gives hj (fun _ _ hxy => (hxy e).1) hb

theorem ofJson_expr {e : Expr} (h : SlotsAlike .expression v w) (hv : Expr.ofJson v = .ok e) :
    Expr.ofJson w = .ok e := by
  obtain ⟨hform, hmost, hparts⟩ := Expr.ofJson_eq_ok_iff.1 hv
  have hlayout : layout .expression v = e.form.layout := by rw [layout, hform]
  have htag : w.slot? 0 Expr.tagName = v.slot? 0 Expr.tagName := h.slot?_eq (layout_zero _ _)
  refine Expr.ofJson_eq_ok_iff.2 ⟨?_, (h.atMost _).1 hmost, ?_⟩
  · rw [tagAt?, htag]
    exact hform
  · cases e with
    | null => trivial
    | boolean b => exact h.gives_data (by rw [hlayout]; rfl) hparts
    | number x => exact h.gives_data (by rw [hlayout]; rfl) hparts
    | string s => exact h.gives_data (by rw [hlayout]; rfl) hparts
    | ident name => exact h.gives_data (by rw [hlayout]; rfl) hparts
    | assign name e =>
      exact ⟨h.gives_data (by rw [hlayout]; rfl) hparts.1,
        h.gives_expr (by rw [hlayout]; rfl) hparts.2⟩
    | unary op e =>
      exact ⟨h.gives_data (by rw [hlayout]; rfl) hparts.1,
        h.gives_expr (by rw [hlayout]; rfl) hparts.2⟩
    | binary op l r =>
      exact ⟨h.gives_data (by rw [hlayout]; rfl) hparts.1,
        h.gives_expr (by rw [hlayout]; rfl) hparts.2.1,
        h.gives_expr (by rw [hlayout]; rfl) hparts.2.2⟩

theorem ofJson_instruction {i : Instruction} (h : SlotsAlike .instruction v w)
    (hv : Instruction.ofJson v = .ok i) : Instruction.ofJson w = .ok i := by
  obtain ⟨hkind, hmost, hparts⟩ := Instruction.ofJson_eq_ok_iff.1 hv
  have hlayout : layout .instruction v = i.kind.layout := by rw [layout, hkind]
  refine Instruction.ofJson_eq_ok_iff.2 ⟨?_, (h.atMost _).1 hmost, ?_⟩
  · rw [kind?_congr fun j name => h.slot?_eq]
    exact hkind
  · cases i with
    | composite form body =>
      exact h.gives (layout_of_kind? hkind) (fun _ _ hxy => (hxy body).1) hparts
    | dialog text => exact h.gives_data (by rw [hlayout]; rfl) hparts
    | expression e => exact h.gives_expr (by rw [hlayout]; rfl) hparts
    | pause => trivial
    | unknownCommand => trivial
    | unknown => trivial

end SlotsAlike

/-- **What a node is decoded as hangs on its slots alone.** -/
theorem alike_of_slots (h : SlotsAlike sort v w) : Alike (.node sort) v w := by
  cases sort with
  | instruction =>
    exact ⟨fun i => ⟨h.ofJson_instruction, h.symm.ofJson_instruction⟩,
      (h.slot?_eq (layout_zero _ _)).symm⟩
  | expression => exact fun e => ⟨h.ofJson_expr, h.symm.ofJson_expr⟩

/-! ## The ways of rearranging -/

theorem forall₂_set_iff {α β : Type} {R : α → β → Prop} {as : List α} {bs : List β} {a a' : α}
    {m : Nat} (ha : as[m]? = some a) (haa' : ∀ b, R a b ↔ R a' b) :
    List.Forall₂ R as bs ↔ List.Forall₂ R (as.set m a') bs := by
  induction as generalizing m bs with
  | nil => cases ha
  | cons c as ih =>
    cases m with
    | zero =>
      cases ha
      simp only [List.set_cons_zero, List.forall₂_cons_left_iff, haa']
    | succ m =>
      simp only [List.set_cons_succ, List.forall₂_cons_left_iff]
      exact exists_congr fun b => exists_congr fun bs' =>
        and_congr_right fun _ => and_congr_left fun _ => ih ha

/-- An item of a list that is decoded alike. -/
theorem alike_set {items : List Json} {m : Nat} (hx : items[m]? = some x)
    (h : Alike (.node .instruction) x y) :
    Alike .instructions (.array items) (.array (items.set m y)) := by
  intro is
  change items.mapM _ = Except.ok is ↔ (items.set m y).mapM _ = Except.ok is
  rw [mapM_eq_ok_iff, mapM_eq_ok_iff]
  exact forall₂_set_iff hx h.1

/-- **Rearranged values are decoded alike.** -/
theorem Rearranged.alike (h : Rearranged r v w) : Alike r v w := by
  have hrel : ∀ (r : Role) (o : Option Json), Option.Rel (Alike r) o o := by
    intro r o
    cases o with
    | none => exact .none
    | some x => exact .some (.refl r x)
  induction h with
  | refl r v => exact .refl r v
  | symm _ ih => exact ih.symm
  | trans _ _ ih ih' => exact ih.trans ih'
  | @permute sort fields fields' hperm =>
    refine alike_of_slots ⟨fun j name r _ => ?_, fun _ => Iff.rfl⟩
    have hslot : (object fields').slot? j name = (object fields).slot? j name :=
      (sole_perm hperm).symm
    rw [hslot]
    exact hrel r _
  | @add sort fields k x hk =>
    refine alike_of_slots ⟨fun j name r hj => ?_, fun _ => Iff.rfl⟩
    have hname : k ≠ name := by
      rintro rfl
      exact hk (List.mem_map_of_mem (f := Prod.fst) (List.mem_of_getElem? hj))
    have hslot : (object ((k, x) :: fields)).slot? j name = (object fields).slot? j name :=
      sole_cons_of_ne hname
    rw [hslot]
    exact hrel r _
  | @inside r r' v x y m hrole hx _ ih =>
    cases r with
    | node sort =>
      -- the member is decoded in the role of its slot, and the other slots stay
      exact alike_of_slots ⟨fun j name r hj => rel_slot?_setMember Alike.refl hrole hx ih hj,
        fun n => atMost_setMember.symm⟩
    | instructions =>
      cases v with
      | array items =>
        cases hrole
        exact alike_set hx ih
      | null | boolean | number | string => cases hrole
      | object fields => cases hrole
    | data => cases hrole

/-! ## Scripts -/

namespace Instruction

/-- **Rearranged values are decoded as the same script, or neither as any**, and so are texts of
them. -/
theorem ofJson_rearranged (h : Rearranged (.node .instruction) v w) :
    (∀ i, ofJson v = .ok i ↔ ofJson w = .ok i) ∧
      ∀ text text', Json.read text = .ok v → Json.read text' = .ok w →
        ∀ i, read text = .ok i ↔ read text' = .ok i := by
  obtain ⟨hdecoded, htag⟩ := h.alike
  refine ⟨hdecoded, fun text text' hv hw i => ?_⟩
  have htag' : v.slot? 0 tagName = w.slot? 0 tagName := htag
  simp only [read_eq_ok_iff, hv, hw, Except.ok.injEq, exists_eq_left']
  rw [htag', hdecoded i]

/-- With the tags behind the fields they govern, and in the expression a field that is none of
its kind. -/
theorem ofJson_rearranged_tags_last :
    let text := "\x7b\"type\":\"Script\",\"instructions\":[\x7b\"type\":\"Expression\"," ++
      "\"expr\":\x7b\"type\":\"Ident\",\"name\":\"x\"\x7d\x7d]\x7d"
    let text' := "\x7b\"instructions\":[\x7b\"expr\":\x7b\"name\":\"x\",\"note\":[true]," ++
      "\"type\":\"Ident\"\x7d,\"type\":\"Expression\"\x7d],\"type\":\"Script\"\x7d"
    let script := Instruction.composite .script [.expression (.ident "x")]
    read text = .ok script ∧ read text' = .ok script := by
  intro text text' script
  let expr := Json.object [("type", .string "Ident"), ("name", .string "x")]
  let expr' := Json.object
    [("name", .string "x"), ("note", .array [.boolean true]), ("type", .string "Ident")]
  let v := Json.object [("type", .string "Script"),
    ("instructions", .array [.object [("type", .string "Expression"), ("expr", expr)]])]
  let w := Json.object [("instructions",
    .array [.object [("expr", expr'), ("type", .string "Expression")]]), ("type", .string "Script")]
  have hexpr : Rearranged (.node .expression) expr expr' :=
    .trans (.add (by decide)) (.permute (@List.perm_append_comm _ [_, _] [_]))
  have hnode : Rearranged (.node .instruction)
      (.object [("type", .string "Expression"), ("expr", expr)])
      (.object [("expr", expr'), ("type", .string "Expression")]) :=
    .trans (.inside (m := 1) rfl rfl hexpr) (.permute (.swap _ _ _))
  have hscript : Rearranged (.node .instruction) v w :=
    .trans (.inside (m := 1) rfl rfl (.inside (m := 0) rfl rfl hnode)) (.permute (.swap _ _ _))
  have hv : Json.read text = .ok v := by
    have htext : text = v.compact := by decide +kernel
    rw [htext]
    exact read_compact (by decide) nofun
  have hw : Json.read text' = .ok w := by
    have htext : text' = w.compact := by decide +kernel
    rw [htext]
    exact read_compact (by decide) nofun
  have hread : read text = .ok script := read_eq_ok_iff.2 ⟨v, hv, ⟨"Script", rfl⟩, rfl⟩
  exact ⟨hread, ((ofJson_rearranged hscript).2 text text' hv hw script).1 hread⟩

end Instruction

end DialogueScript
