/-
# Reading a selector

Brackets that are open at the end of the text are closed there. A selector with a part that
has no meaning is none, except in the lists that leave such parts out.
-/

import ClassroomClient.Selector.Basic

namespace ClassroomClient.Selector

/-- The bracket that closes another one. -/
def closingOf (c : Char) : Char := if c == '(' then ')' else if c == '[' then ']' else '\x7d'

/-- Splits tokens at the end of a block. `expected` holds the closing brackets of the blocks
that are open, the innermost one first; the last one of them ends the block. -/
def splitBlock (expected : List Char) : List Token → List Token × List Token
  | [] => ([], [])
  | token :: rest =>
    let go (expected : List Char) :=
      let (inside, behind) := splitBlock expected rest
      (token :: inside, behind)
    match token with
    | .function _ => go (')' :: expected)
    | .opening c => go (closingOf c :: expected)
    | .closing c =>
      match expected with
      | [last] => if c == last then ([], rest) else go expected
      | inner :: outer => if c == inner then go outer else go expected
      | [] => go []
    | _ => go expected

/-- Splits tokens at the commas outside of blocks. -/
def splitCommas (expected : List Char) : List Token → List (List Token)
  | [] => [[]]
  | token :: rest =>
    let add (parts : List (List Token)) : List (List Token) :=
      match parts with
      | part :: parts => (token :: part) :: parts
      | [] => [[token]]
    match token with
    | .function _ => add (splitCommas (')' :: expected) rest)
    | .opening c => add (splitCommas (closingOf c :: expected) rest)
    | .closing c =>
      add (splitCommas (if expected.head? == some c then expected.tail else expected) rest)
    | .delimiter ',' =>
      if expected.isEmpty then [] :: splitCommas [] rest else add (splitCommas expected rest)
    | _ => add (splitCommas expected rest)

/-- Leaves out blanks. -/
def skipSpace : List Token → List Token
  | .space :: rest => skipSpace rest
  | tokens => tokens

/-! ## Attributes -/

/-- Reads the comparison of an attribute. -/
def comparison? : Token → Option Comparison
  | .delimiter '=' => some .equal
  | .matcher '~' => some .word
  | .matcher '|' => some .dashed
  | .matcher '^' => some .start
  | .matcher '$' => some .finish
  | .matcher '*' => some .part
  | _ => none

/-- Reads the mark for the case of letters. -/
def caseRule? (tokens : List Token) : Option CaseRule :=
  match skipSpace tokens with
  | [] => some .byAttribute
  | .name mark :: rest =>
    if (skipSpace rest).isEmpty then
      match mark.toLower with
      | "i" => some .anyCase
      | "s" => some .exact
      | _ => none
    else none
  | _ => none

/-- Reads what follows the name of an attribute. -/
def attributeRest? (name : String) (anyGroup : Bool) (tokens : List Token) :
    Option AttributeTest :=
  match skipSpace tokens with
  | [] => some { name, anyGroup }
  | token :: rest => do
    let comparison ← comparison? token
    match skipSpace rest with
    | .string value :: rest | .name value :: rest =>
      let caseRule ← caseRule? rest
      return { name, anyGroup, comparison := some (comparison, value), caseRule }
    | _ => none

/-- Reads the inside of the brackets around an attribute. -/
def attributeTest? (tokens : List Token) : Option AttributeTest :=
  match skipSpace tokens with
  | .delimiter '*' :: .delimiter '|' :: .name name :: rest => attributeRest? name true rest
  | .delimiter '|' :: .name name :: rest => attributeRest? name false rest
  | .name name :: rest => attributeRest? name false rest
  | _ => none

/-! ## Places among siblings -/

/-- The number in a name such as `n-3`. -/
def dashedNumber? (text : String) : Option Int :=
  match text.toLower.toList with
  | 'n' :: '-' :: digits =>
    if digits.isEmpty || !digits.all Char.isDigit then none
    else
      let size := digits.foldl (fun value c => value * 10 + (c.toNat - '0'.toNat)) 0
      some (-(min size (largestNumber + 1) : Nat))
  | _ => none

/-- Reads a number without a sign at the end of places. -/
def unsignedOffset? (sign : Int) (tokens : List Token) : Option Int :=
  match skipSpace tokens with
  | .number (some value) false "" :: rest =>
    if (skipSpace rest).isEmpty then some (sign * value) else none
  | _ => none

/-- Reads the offset of places. -/
def offset? (tokens : List Token) : Option Int :=
  match skipSpace tokens with
  | [] => some 0
  | .delimiter '+' :: rest => unsignedOffset? 1 rest
  | .delimiter '-' :: rest => unsignedOffset? (-1) rest
  | .number (some value) true "" :: rest => if (skipSpace rest).isEmpty then some value else none
  | _ => none

/-- Reads places after their step has been read. -/
def placesAfterStep? (step : Int) (unit : String) (rest : List Token) : Option (Int × Int) :=
  match unit.toLower with
  | "n" => (offset? rest).map (step, ·)
  | "n-" => (unsignedOffset? (-1) rest).map (step, ·)
  | _ =>
    if (skipSpace rest).isEmpty then (dashedNumber? unit).map (step, ·) else none

/-- Reads the step and the offset of places. -/
def places? (tokens : List Token) : Option (Int × Int) :=
  let word (text : String) (rest : List Token) : Option (Int × Int) :=
    match text.toLower with
    | "even" => if (skipSpace rest).isEmpty then some (2, 0) else none
    | "odd" => if (skipSpace rest).isEmpty then some (2, 1) else none
    | _ => placesAfterStep? 1 text rest
  match skipSpace tokens with
  | .number (some value) _ "" :: rest =>
    if (skipSpace rest).isEmpty then some (0, value) else none
  | .number (some step) _ unit :: rest => placesAfterStep? step unit rest
  | .name text :: rest =>
    match text.toList with
    | '-' :: unit => placesAfterStep? (-1) (String.ofList unit) rest
    | _ => word text rest
  | .delimiter '+' :: .name text :: rest => word text rest
  | _ => none

/-- The condition that a pseudo-class without arguments stands for. -/
def plainPseudo? (name : String) : Option (List Simple) :=
  let first : Places := { step := 0, offset := 1 }
  match name.toLower with
  | "root" | "scope" => some [.outermost]
  | "empty" => some [.empty]
  | "first-child" => some [.place first]
  | "last-child" => some [.place { first with fromEnd := true }]
  | "only-child" => some [.place first, .place { first with fromEnd := true }]
  | "first-of-type" => some [.place { first with sameName := true }]
  | "last-of-type" => some [.place { first with sameName := true, fromEnd := true }]
  | "only-of-type" =>
    some [.place { first with sameName := true },
      .place { first with sameName := true, fromEnd := true }]
  | _ => none

/-- The condition that a function with places as arguments stands for. -/
def placesFunction? (name : String) (arguments : List Token) : Option Simple := do
  let (step, offset) ← places? arguments
  match name.toLower with
  | "nth-child" => some (.place { step, offset })
  | "nth-last-child" => some (.place { step, offset, fromEnd := true })
  | "nth-of-type" => some (.place { step, offset, sameName := true })
  | "nth-last-of-type" => some (.place { step, offset, sameName := true, fromEnd := true })
  | _ => none

/-! ## Compounds and chains -/

/-- Reads the name of an element at the start of a compound. -/
def elementName? (tokens : List Token) : Option (List Simple × List Token) :=
  match tokens with
  | .name _ :: .delimiter '|' :: _ => none
  | .name name :: rest => some ([.named name], rest)
  | .delimiter '*' :: .delimiter '|' :: .name name :: rest => some ([.named name], rest)
  | .delimiter '*' :: .delimiter '|' :: .delimiter '*' :: rest => some ([.any], rest)
  | .delimiter '*' :: .delimiter '|' :: _ => none
  | .delimiter '*' :: rest => some ([.any], rest)
  | .delimiter '|' :: .name _ :: rest => some ([.never], rest)
  | .delimiter '|' :: .delimiter '*' :: rest => some ([.never], rest)
  | .delimiter '|' :: _ => none
  | _ => some ([], tokens)

/-- The combinator that tokens start with, if there is one. -/
def combinator? : List Token → Option (Combinator × List Token)
  | .delimiter '>' :: rest => some (.child, rest)
  | .delimiter '+' :: rest => some (.next, rest)
  | .delimiter '~' :: rest => some (.later, rest)
  | _ => none

mutual

/-- Reads the conditions of a compound after the name of the element. The fuel of this and of
the other readers bounds the number of tokens. -/
def conditions? (nested : Bool) : Nat → List Simple → List Token →
    Option (List Simple × List Token)
  | 0, _, _ => none
  | fuel + 1, read, tokens =>
    match tokens with
    | .hash value true :: rest => conditions? nested fuel (read ++ [.id value]) rest
    | .delimiter '.' :: .name value :: rest =>
      conditions? nested fuel (read ++ [.className value]) rest
    | .delimiter '.' :: _ => none
    | .opening '[' :: rest => do
      let (inside, behind) := splitBlock [']'] rest
      let test ← attributeTest? inside
      conditions? nested fuel (read ++ [.attributeTest test]) behind
    | .delimiter ':' :: .name name :: rest => do
      let simple ← plainPseudo? name
      conditions? nested fuel (read ++ simple) rest
    | .delimiter ':' :: .function name :: rest => do
      let (inside, behind) := splitBlock [')'] rest
      let simple ← functionCondition? nested fuel name inside
      conditions? nested fuel (read ++ [simple]) behind
    | .delimiter ':' :: _ => none
    | _ => some (read, tokens)

/-- Reads the condition that a function stands for. -/
def functionCondition? (nested : Bool) : Nat → String → List Token → Option Simple
  | 0, _, _ => none
  | fuel + 1, name, arguments =>
    match name.toLower with
    | "is" | "where" =>
      some (.anyOf ((splitCommas [] arguments).filterMap (wholeChain? nested fuel none)))
    | "not" => do
      let choices ← (splitCommas [] arguments).mapM (wholeChain? nested fuel none)
      return .noneOf choices
    | "has" =>
      if nested then none
      else do
        let choices ← (splitCommas [] arguments).mapM (relativeChain? fuel)
        return .contains choices
    | _ => placesFunction? name arguments

/-- Reads a chain that may start with a combinator. -/
def relativeChain? : Nat → List Token → Option Chain
  | 0, _ => none
  | fuel + 1, tokens =>
    match combinator? (skipSpace tokens) with
    | some (combinator, rest) =>
      wholeChain? true fuel (some (.first [.anchor], combinator)) rest
    | none => wholeChain? true fuel (some (.first [.anchor], .descendant)) tokens

/-- Reads a chain to the end of the tokens. `left` holds what stands on its left so far. -/
def wholeChain? (nested : Bool) : Nat → Option (Chain × Combinator) → List Token →
    Option Chain
  | 0, _, _ => none
  | fuel + 1, left, tokens => do
    let (name, rest) ← elementName? (skipSpace tokens)
    let (compound, rest) ← conditions? nested fuel name rest
    if compound.isEmpty then none
    let chain := match left with
      | none => Chain.first compound
      | some (left, combinator) => .after left combinator compound
    let behind := skipSpace rest
    if behind.isEmpty then return chain
    match combinator? behind with
    | some (combinator, rest) => wholeChain? nested fuel (some (chain, combinator)) rest
    | none =>
      if rest.head? == some .space then
        wholeChain? nested fuel (some (chain, .descendant)) behind
      else none

end

/-- Reads the alternatives of a selector. -/
def ofText? (text : String) : Option (List Chain) :=
  let tokens := tokensOf text
  (splitCommas [] tokens).mapM (wholeChain? false (4 * tokens.length + 8) none)

end ClassroomClient.Selector
