import Benchmarker.Async.Prog

/-!
# Every event of a history

* `Each Q past es`: every event of `es` satisfies `Q` at the events before it, those of `past` included.
  **`each_append`**: the condition composes.
-/

namespace Async

variable {Op : Type} {Ans : Op → Type} {W : Type}

/-- Every event of the history satisfies `Q` at the events before it. -/
def Each (Q : List (Event Ans W) → Event Ans W → Prop) : List (Event Ans W) → List (Event Ans W) → Prop
  | _, [] => True
  | past, e :: es => Q past e ∧ Each Q (past ++ [e]) es

variable {Q : List (Event Ans W) → Event Ans W → Prop} {past es fs : List (Event Ans W)}

instance decidableEach [∀ past e, Decidable (Q past e)] :
    ∀ past es : List (Event Ans W), Decidable (Each Q past es)
  | _, [] => inferInstanceAs (Decidable True)
  | past, e :: es => @instDecidableAnd _ _ inferInstance (decidableEach (past ++ [e]) es)

@[simp] theorem each_nil : Each Q past [] := trivial

theorem each_cons {e : Event Ans W} : Each Q past (e :: es) ↔ Q past e ∧ Each Q (past ++ [e]) es := Iff.rfl

/-- **The condition holds of two histories in a row when it holds of both.** -/
theorem each_append : Each Q past (es ++ fs) ↔ Each Q past es ∧ Each Q (past ++ es) fs := by
  induction es generalizing past with
  | nil => simp
  | cons e es ih => rw [List.cons_append, each_cons, each_cons, ih, and_assoc, List.append_assoc]; rfl

end Async
