import Declarator.Parsing.Combinator

/-!
# Parser trees

A parser tree says how a parser is put together. Its evaluation is the parser; what the parser
reads is a value of the same shape.

- `Tree.eval` : the parser that a tree describes.
- `Tree.erase` : the tree without its cuts.
-/

namespace Declarator.Parsing

/-- Why a tree did not match: the label of the rule or cut, and the text from the place on, if the
label belongs to a place. -/
structure Flaw where
  label : Text
  place : Option Text
  deriving DecidableEq

instance : RuleError Flaw where
  ofRule rule input := ⟨rule.name, some input⟩

/-- What a tree reads. -/
inductive Value where
  | null
  | text (t : Text)
  | list (items : List Value)

/-- A parser, put together. -/
inductive Tree where
  | tag (s : Text)
  | streamTag (s : Text)
  | seq (parts : List Tree)
  | alt (choices : List Tree)
  | many (item : Tree)
  | opt (item : Tree)
  | cut (label : Text) (inner : Tree)
  | fail (label : Text)

namespace Tree

mutual

/-- The parser that a tree describes. -/
def eval : Tree → Parser Flaw Value
  | .tag s => Value.text <$> Parsing.tag s
  | .streamTag s => Value.text <$> Parsing.streamTag s
  | .seq parts => Value.list <$> evalAll parts
  | .alt choices => evalFirst choices
  | .many item => Value.list <$> Parsing.many .many0 (eval item)
  | .opt item => (·.getD .null) <$> Parsing.opt (eval item)
  | .cut label inner => Parsing.cut (fun input => ⟨label, some input⟩) (eval inner)
  | .fail label => Parsing.fail ⟨label, none⟩

/-- All trees, one after another. -/
def evalAll : List Tree → Parser Flaw (List Value)
  | [] => pure []
  | t :: ts => do
      let v ← eval t
      let vs ← evalAll ts
      return v :: vs

/-- The first tree that does anything but mismatch, or else the last. -/
def evalFirst : List Tree → Parser Flaw Value
  | [] => reject .alt
  | [t] => eval t
  | t :: u :: ts => orElse (eval t) (evalFirst (u :: ts))

end

mutual

/-- The tree with every cut replaced by what it commits to. -/
def erase : Tree → Tree
  | .tag s => .tag s
  | .streamTag s => .streamTag s
  | .seq parts => .seq (eraseAll parts)
  | .alt choices => .alt (eraseAll choices)
  | .many item => .many (erase item)
  | .opt item => .opt (erase item)
  | .cut _ inner => erase inner
  | .fail label => .fail label

/-- Every tree without its cuts. -/
def eraseAll : List Tree → List Tree
  | [] => []
  | t :: ts => erase t :: eraseAll ts

end

end Tree

end Declarator.Parsing
