/-
  OrderBy.Value.Order
  ───────────────────
  **ASKING WHETHER ONE VALUE IS LESS OR GREATER THAN ANOTHER.**

  Two questions can be asked of two values, and each can be refused.

      numbers, texts, bytes   by their exact order, each kind in itself
      sequences of one kind   skip the items that are the same, then ask about
                              the first pair that differs; without one the
                              lengths decide
      sets                    proper inclusion
      probes                  recorded, then refused or passed to what they hold

  All other pairs are incomparable.  A question about probes leaves an event, and
  so does every question about the values of two keys.
-/
import OrderBy.Traced

namespace OrderBy

/-- What a comparison leaves in the trace. -/
inductive Comparison where
  /-- The values at one position of two keys were compared. -/
  | values (left : Value) (question : Question) (right : Value)
  /-- Two probes were compared; these are their labels. -/
  | probes (left : String) (question : Question) (right : String)

/-- The answer to a question about two items of an order in which `less` is
known. -/
def Question.answer {α : Type} (less : α → α → Bool) : Question → α → α → Bool
  | .less, a, b => less a b
  | .greater, a, b => less b a

/-- The answer to a question about two lengths. -/
def Question.ofLengths : Question → Nat → Nat → Bool :=
  Question.answer (fun m n => decide (m < n))

namespace Value

/-- Proper inclusion of sets, in the direction of the question. -/
def includes (question : Question) (xs ys : List Value) : Bool :=
  match question with
  | .less => xs.length < ys.length && membersOf xs ys
  | .greater => ys.length < xs.length && ys.all (fun y => xs.any (fun x => same x y))

/-- The answer for scalars of one kind and for sets; all else is incomparable. -/
def askFlat (question : Question) (a b : Value) : Traced Comparison Bool :=
  let refused := Traced.fail (.incomparable question a.typeName b.typeName)
  match a, b with
  | .set xs, .set ys => pure (includes question xs ys)
  | _, _ =>
    match a.scalar?, b.scalar? with
    | some x, some y =>
      let answer := match question with
        | .less => x.less? y
        | .greater => y.less? x
      match answer with
      | some r => pure r
      | none => refused
    | _, _ => refused

mutual

/-- Ask whether `a` is less, or greater, than `b`. -/
def ask (question : Question) : Value → Value → Traced Comparison Bool
  | probe _ l a raises, probe _ m b _ => do
    Traced.emit (.probes l question m)
    match raises with
    | some r => Traced.fail (.raised r)
    | none => ask question a b
  | list xs, list ys => askItems question xs ys
  | tuple xs, tuple ys => askItems question xs ys
  | a, b => askFlat question a b
termination_by structural a => a

/-- The same of two sequences. -/
def askItems (question : Question) : List Value → List Value → Traced Comparison Bool
  | x :: xs, y :: ys => if same x y then askItems question xs ys else ask question x y
  | xs, ys => pure (question.ofLengths xs.length ys.length)
termination_by structural xs => xs

end

end Value

end OrderBy
