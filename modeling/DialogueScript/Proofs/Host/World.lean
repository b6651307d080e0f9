import DialogueScript.Host.World
/-!
# What a world gives

A world gives orders for tables and lines of input. An order loses no entry
(`Order.perm_arrange`), and there is one for every way to list the entries
(`Order.exists_arrange_eq`), so what holds whatever orders a world gives holds
however a table may be listed.

Input is taken line by line (`World.takeLine_cases`). What counts for a program
that waits for lines is how many it can read, up to the end of the input or up
to a line that is no text (`Input.readable`).
-/

namespace DialogueScript

namespace Host

/-! ## Orders -/

namespace Order

variable {α : Type}

/-- An order keeps the entries. -/
theorem perm_arrange (order : Order) (entries : List α) :
    (order.arrange entries).Perm entries := by
  induction entries generalizing order with
  | nil => cases order <;> exact .nil
  | cons a entries ih =>
    cases order with
    | nil => exact .refl _
    | cons n order =>
      have hfirst : (arrange (n :: order) (a :: entries)).Perm (a :: arrange order entries) := by
        have hmiddle := @List.perm_middle _ a ((arrange order entries).take n)
          ((arrange order entries).drop n)
        rwa [List.take_append_drop] at hmiddle
      exact hfirst.trans ((ih order).cons a)

/-- **However the entries are listed, some order lists them so.** -/
theorem exists_arrange_eq {l entries : List α} (h : l.Perm entries) :
    ∃ order : Order, order.arrange entries = l := by
  induction entries generalizing l with
  | nil => exact ⟨[], h.eq_nil.symm⟩
  | cons a entries ih =>
    -- the first entry is somewhere among those listed, and the order says behind how many
    obtain ⟨before, after, rfl⟩ := List.append_of_mem (h.mem_iff.2 List.mem_cons_self)
    have hrest : (before ++ after).Perm entries :=
      (List.perm_middle.symm.trans h).cons_inv
    obtain ⟨order, horder⟩ := ih hrest
    refine ⟨before.length :: order, ?_⟩
    rw [arrange, horder, List.take_left, List.drop_left]

end Order

/-- Taking an order leaves the other things in the world. -/
theorem World.exists_takeOrder (w : World) :
    ∃ order orders, w.takeOrder = (order, { w with orders }) := by
  unfold takeOrder
  split
  · exact ⟨[], w.orders, rfl⟩
  · exact ⟨_, _, rfl⟩

/-! ## Lines of input -/

/-- The lines of bytes. The last one need not end. -/
def linesOf : List UInt8 → List (List UInt8)
  | [] => []
  | b :: bytes =>
    if b = newline then [] :: linesOf bytes
    else
      match linesOf bytes with
      | [] => [[b]]
      | line :: rest => (b :: line) :: rest

/-- The first line ends in front of the first end of a line, and the others come behind it. -/
theorem linesOf_of_ne_nil {bytes : List UInt8} (h : bytes ≠ []) :
    linesOf bytes = bytes.takeWhile (· != newline) ::
      linesOf ((bytes.dropWhile (· != newline)).drop 1) := by
  induction bytes with
  | nil => exact absurd rfl h
  | cons b bytes ih =>
    rw [linesOf]
    by_cases hb : b = newline
    · subst hb
      simp
    · rw [if_neg hb, List.takeWhile_cons_of_pos (by simpa using hb),
        List.dropWhile_cons_of_pos (by simpa using hb)]
      cases bytes with
      | nil => rfl
      | cons c bytes => rw [ih (List.cons_ne_nil c bytes)]

/-- A line that can be read. -/
def IsText (line : List UInt8) : Prop := (Text.decode? line).isSome = true

instance (line : List UInt8) : Decidable (IsText line) := inferInstanceAs (Decidable (_ = true))

theorem exists_lineText {line : List UInt8} (h : IsText line) :
    ∃ text, lineText line = .ok text := by
  obtain ⟨text, htext⟩ := Option.isSome_iff_exists.1 h
  exact ⟨text, by rw [lineText, Content.ofBytes, htext]; rfl⟩

theorem lineText_of_not {line : List UInt8} (h : ¬ IsText line) :
    lineText line = .error .notText := by
  have hnone : Text.decode? line = none := by simpa [IsText] using h
  rw [lineText, Content.ofBytes, hnone]
  rfl

namespace Input

/-- The lines of an input. -/
def lines (input : Input) : List (List UInt8) := linesOf input.bytes

/-- How many lines of an input can be read, up to the end of the input or up to a line that is no
text. -/
def readable (input : Input) : Nat := (input.lines.takeWhile fun line => IsText line).length

variable {input input' : Input} {line : List UInt8} {rest : List (List UInt8)}

theorem readable_of_nil (h : input.lines = []) : input.readable = 0 := by
  rw [readable, h]
  rfl

theorem readable_of_isText (h : input.lines = line :: input'.lines) (hline : IsText line) :
    input.readable = input'.readable + 1 := by
  simp [readable, h, hline]

theorem readable_of_not (h : input.lines = line :: rest) (hline : ¬ IsText line) :
    input.readable = 0 := by
  simp [readable, h, hline]

end Input

/-- **A line is taken off unless there is none.** -/
theorem World.takeLine_cases (w : World) :
    (w.input.lines = [] ∧ w.takeLine = (.ok none, w)) ∨
      ∃ line input, w.input.lines = line :: input.lines ∧
        w.takeLine = (some <$> lineText line, { w with input }) := by
  unfold takeLine Input.lines
  cases hbytes : w.input.bytes with
  | nil => exact .inl ⟨rfl, rfl⟩
  | cons b bytes => exact .inr ⟨_, ⟨_⟩, linesOf_of_ne_nil (List.cons_ne_nil b bytes), rfl⟩

end Host

end DialogueScript
