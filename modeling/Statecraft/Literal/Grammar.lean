import Statecraft.Literal.Peg

/-!
# The grammar of literals

The expressions that literals are a part of, and what messages say about those that are
written wrongly.
-/

namespace Statecraft.Literal

/-- The rules. Those that begin with `wrong` only tell what is wrong. -/
inductive Rule where
  | whole | field | expressions | expression | wrongExpression | oldStatement | plainExpression
  | yielding | starExpressions | starExpression | starNameds | starNamed
  | assigning | named | wrongNamed
  | disjunction | conjunction | inversion | comparing
  | bitOr | bitXor | bitAnd | shift | sum | term | factor | power | awaiting | primary
  | atom | group | wrongGroup | tuple | generator | dict | set | dictComp | setComp
  | strings | entries | entry | pair | wrongEntries | wrongPair
  | loops | loop | wrongLoop | wrongComp | wrongDictComp
  | arguments | args | namedArgs | starredArg | namedOrStarred | namedOrSpread | wrongArguments
  | wrongNamedArg
  | targets | target | plainTarget | targetAtom | targetTuple | targetHead
  | lambda | parameters | wrongParameters | positional | positionalWithDefaults | starParameters
  | wrongStar | spread | wrongSpread | parameter | parameterWithDefault | anyParameter | default
  deriving DecidableEq, Repr

namespace Rule

open Peg

abbrev P := Peg Rule

/-! ## Pieces of rules -/

def w (text : String) : P := .word text

def seq (parts : List P) : P := .chain parts

/-- What is read, as one node. -/
def as (node : Node) (p : P) : P := .make p fun _ _ => .nodes [node]

/-- What is read, made into nodes. -/
def into (f : List Node → List Node) (p : P) : P := .make p fun _ ns => .nodes (f ns)

/-- What is read is wrong. -/
def wrong (message : String) (p : P) : P := .make p fun _ _ => .message message

/-- What is read is wrong, which only shows from what follows. -/
def wrongAtLast (message : String) (p : P) : P := .make p fun _ _ => .messageAtLast message

/-- What is read is wrong; `f` tells it from the nodes. -/
def wrongBy (f : List Node → Built) (p : P) : P := .make p fun _ ns => f ns

/-- Nothing of what is read is kept. -/
def skip (p : P) : P := into (fun _ => []) p

def nameToken : P := .token .name fun t => .nodes [.name t.lexeme]

def textToken : P := .token .text fun t => .nodes [.written t]

/-- Values with operators between them; several make an operation. -/
def operated (operators : List String) (part : P) : P :=
  into (fun ns => if ns.length ≤ 1 then ns else [.operation])
    (seq [part, .many (.choice (operators.map fun o => seq [w o, part]))])

/-- Items with commas between them, and one behind them if wanted. -/
def listed (p : P) : P := seq [separated (w ",") p, opt (w ",")]

/-- The first node's kind in a message. -/
def naming (before after : String) (ns : List Node) : Built :=
  .message (before ++ ((Node.first? ns).map Node.kind).getD "" ++ after)

/-! ## Numbers -/

/-- The value of an integer in some base, without underscores. -/
def integerOf (digits : List Char) : Nat :=
  match digits.map Char.toLower with
  | '0' :: 'x' :: r => Text.ofBase 16 r
  | '0' :: 'o' :: r => Text.ofBase 8 r
  | '0' :: 'b' :: r => Text.ofBase 2 r
  | r => Text.ofBase 10 r

/-- The number that is written. -/
def numberOf (lexeme : List Char) : Built :=
  let digits := (lexeme.filter (· != '_')).map Char.toLower
  let based := digits.take 2 == ['0', 'x'] || digits.take 2 == ['0', 'o'] || digits.take 2 == ['0', 'b']
  if !based && digits.getLast? == some 'j' then .nodes [.number .imaginary]
  else if !based && digits.any fun c => c == '.' || c == 'e' then .nodes [.number .real]
  else if !based && Decimal.digitLimit < digits.length && digits.any (· != '0') then
    .halt (.message ((Decimal.LimitError.reading digits.length).message
      ++ " - Consider hexadecimal for huge integer literals to avoid decimal conversion limits.")
      .nothing)
  else .nodes [.number (.integer (integerOf digits))]

def numberToken : P := .token .number fun t => numberOf t.lexeme

/-! ## Rules for what is wrong -/

/-- Words that some other languages use as they use names. -/
def softWords : List String := ["_", "case", "match"]

def oldWords : List String := ["exec", "print"]

def isWordIn (words : List String) : Node → Bool
  | .name id => words.contains (String.ofList id)
  | _ => false

/-- Two values in a row within brackets. -/
def forgottenComma (level : Nat) (ns : List Node) : Built :=
  if ((Node.first? ns).map (isWordIn oldWords)).getD false || level == 0 then .nothing
  else .message "invalid syntax. Perhaps you forgot a comma?"

/-- A name that is a beginning of such a word. -/
def softWord : P := .token .name fun t =>
  if softWords.any fun word => t.lexeme.isPrefixOf word.toList then .nodes [] else .nothing

def oldStatementOf (ns : List Node) : Built :=
  match ns.head? with
  | some (.name id) =>
    let word := String.ofList id
    if oldWords.contains word then
      .message ("Missing parentheses in call to '" ++ word ++ "'. Did you mean " ++ word ++ "(...)?")
    else .nothing
  | _ => .nothing

def equalsInstead : String := "invalid syntax. Maybe you meant '==' or ':=' instead of '='?"

def parenthesized : String := "Generator expression must be parenthesized"

/-- A loop whose target cannot be assigned to. -/
def wrongTargetOf (ns : List Node) : Built :=
  match (Node.first? ns).bind Node.wrongTarget? with
  | some n => .message ("cannot assign to " ++ n.kind)
  | none => .nothing

/-- A value for each of several things among other arguments. -/
def wrongLoopArgument (ns : List Node) : Built :=
  match ns.head? with
  | some (.arguments (last :: _ :: _) _) => .halt (.message parenthesized (.token last))
  | _ => .nothing

def misplacedArgument (ns : List Node) : Built :=
  match ns.head? with
  | some (.arguments _ true) =>
    .messageAtLast "positional argument follows keyword argument unpacking"
  | _ => .messageAtLast "positional argument follows keyword argument"

def wrongDefault : String := "expected default value expression"

/-! ## The grammar -/

def r (name : Rule) : P := .rule name

/-- A name at the end of the parameters, or before a comma. -/
def endsParameter : P := .choice [w ",", .ahead (w ":")]

def noSlash : P := .choice [r .positional, r .positionalWithDefaults]

/-- An argument without a name. -/
def plainArg : P := .mark (.choice [
  r .starredArg,
  seq [.choice [r .assigning, seq [r .expression, .notAhead (w ":=")]], .notAhead (w "=")]])

/-- What a rule stands for; `joined` tells what texts in a row are. -/
def body (joined : List Token → Built) : Rule → P
  | .whole => seq [r .expressions, .many (.token .lineEnd fun _ => .nodes []),
      .token .finish fun _ => .nodes []]
  | .field => r .starExpressions
  | .expressions => .choice [
      into (fun ns => [.tuple ns])
        (seq [r .expression, repeated (seq [w ",", r .expression]), opt (w ",")]),
      into (fun ns => [.tuple ns]) (seq [r .expression, w ","]),
      r .expression]
  | .expression => .choice [
      .tell (r .wrongExpression),
      .tell (r .oldStatement),
      as .conditional (seq [r .disjunction, w "if", r .disjunction, w "else", r .expression]),
      r .disjunction,
      r .lambda]
  | .wrongExpression => .choice [
      .make (seq [.notAhead (.choice [seq [nameToken, textToken], softWord]),
        .mark (r .disjunction), r .plainExpression]) forgottenComma,
      wrong "expected 'else' after 'if' expression"
        (seq [.mark (r .disjunction), w "if", r .disjunction,
          .notAhead (.choice [w "else", w ":"])])]
  | .oldStatement =>
      wrongBy oldStatementOf (seq [nameToken, .notAhead (w "("), r .starExpressions])
  | .plainExpression => .quiet (.choice [
      as .conditional (seq [r .disjunction, w "if", r .disjunction, w "else", r .expression]),
      r .disjunction,
      r .lambda])
  | .yielding => .choice [
      as .yield (seq [w "yield", w "from", r .expression]),
      as .yield (seq [w "yield", opt (r .starExpressions)])]
  | .starExpressions => .choice [
      into (fun ns => [.tuple ns])
        (seq [r .starExpression, repeated (seq [w ",", r .starExpression]), opt (w ",")]),
      into (fun ns => [.tuple ns]) (seq [r .starExpression, w ","]),
      r .starExpression]
  | .starExpression => .choice [
      into (fun ns => ns.map .starred) (seq [w "*", r .bitOr]),
      r .expression]
  | .starNameds => listed (r .starNamed)
  | .starNamed => .choice [
      into (fun ns => ns.map .starred) (seq [w "*", r .bitOr]),
      r .named]
  | .assigning => as .assignment (seq [nameToken, w ":=", r .expression])
  | .named => .choice [
      r .assigning,
      .tell (r .wrongNamed),
      seq [r .expression, .notAhead (w ":=")]]
  | .wrongNamed => .choice [
      wrongBy (naming "cannot use assignment expressions with " "")
        (seq [.mark (r .expression), w ":=", r .expression]),
      wrong equalsInstead
        (seq [nameToken, w "=", r .bitOr, .notAhead (.choice [w "=", w ":="])]),
      wrongBy (naming "cannot assign to " " here. Maybe you meant '==' instead of '='?")
        (seq [.notAhead (.choice [r .tuple, r .generator, w "True", w "None", w "False"]),
          .mark (r .bitOr), w "=", r .bitOr, .notAhead (.choice [w "=", w ":="])])]
  | .disjunction => operated ["or"] (r .conjunction)
  | .conjunction => operated ["and"] (r .inversion)
  | .inversion => .choice [as .operation (seq [w "not", r .inversion]), r .comparing]
  | .comparing =>
      let others : P := skip (.choice ((["==", "!=", "<=", "<", ">=", ">"].map fun o =>
        seq [w o, r .bitOr]) ++ [seq [w "not", w "in", r .bitOr], seq [w "in", r .bitOr],
        seq [w "is", w "not", r .bitOr], seq [w "is", r .bitOr]]))
      .choice [
        into (fun ns => [.comparison ns])
          (seq [r .bitOr, skip (seq [w "in", r .bitOr]), .many others]),
        as (.comparison []) (seq [r .bitOr, repeated others]),
        r .bitOr]
  | .bitOr => operated ["|"] (r .bitXor)
  | .bitXor => operated ["^"] (r .bitAnd)
  | .bitAnd => operated ["&"] (r .shift)
  | .shift => operated ["<<", ">>"] (r .sum)
  | .sum => into Node.sumOf (seq [r .term, .many (.choice [
      into (fun ns => ns.map .addend) (seq [w "+", r .term]),
      into (fun ns => ns.map .addend) (seq [w "-", r .term])])])
  | .term => operated ["*", "/", "//", "%", "@"] (r .factor)
  | .factor => .choice [
      into (fun ns => ns.map .plus) (seq [w "+", r .factor]),
      into (fun ns => ns.map .minus) (seq [w "-", r .factor]),
      as .operation (seq [w "~", r .factor]),
      r .power]
  | .power => .choice [as .operation (seq [r .awaiting, w "**", r .factor]), r .awaiting]
  | .awaiting => .choice [as .await (seq [w "await", r .primary]), r .primary]
  | .primary => into Node.ofPrimary (seq [r .atom, .many (.choice [
      as .attribute (seq [w ".", nameToken]),
      as (.call false) (r .generator),
      as (.call true) (seq [w "(", w ")"]),
      as (.call false) (seq [w "(", r .arguments, w ")"])])])
  | .atom => .choice [
      nameToken,
      as (.truth true) (w "True"),
      as (.truth false) (w "False"),
      as .none (w "None"),
      r .strings,
      numberToken,
      seq [.ahead (w "("), .choice [r .tuple, r .group, r .generator]],
      seq [.ahead (w "\x7b"), .choice [r .dict, r .set, r .dictComp, r .setComp]],
      as .ellipsis (w "...")]
  | .group => .choice [
      seq [w "(", .choice [r .yielding, r .named], w ")"],
      .tell (r .wrongGroup)]
  | .wrongGroup => .choice [
      wrong "cannot use starred expression here" (seq [w "(", .mark (r .starredArg), w ")"]),
      wrong "cannot use double starred expression here"
        (seq [w "(", .mark (w "**"), r .expression, w ")"])]
  | .tuple => into (fun ns => [.tuple ns])
      (seq [w "(", opt (seq [r .starNamed, w ",", opt (r .starNameds)]), w ")"])
  | .generator => .choice [
      as .generator (seq [w "(",
        .choice [r .assigning, seq [r .expression, .notAhead (w ":=")]], r .loops, w ")"]),
      .tell (r .wrongComp)]
  | .dict => .choice [
      into (fun ns => [.dict ns]) (seq [w "\x7b", opt (r .entries), w "\x7d"]),
      seq [w "\x7b", r .wrongEntries, w "\x7d"]]
  | .set => into (fun ns => [.set ns]) (seq [w "\x7b", r .starNameds, w "\x7d"])
  | .dictComp => .choice [
      as .dictComprehension (seq [w "\x7b", r .pair, r .loops, w "\x7d"]),
      .tell (r .wrongDictComp)]
  | .setComp => .choice [
      as .setComprehension (seq [w "\x7b", r .named, r .loops, w "\x7d"]),
      .tell (r .wrongComp)]
  | .strings => .make (repeated textToken) fun _ ns => joined (ns.filterMap Node.written?)
  | .entries => listed (r .entry)
  | .entry => .choice [
      into (fun ns => .noKey :: ns) (seq [w "**", r .bitOr]),
      r .pair]
  | .pair => seq [r .expression, w ":", r .expression]
  | .wrongEntries => .choice [
      seq [separated (w ",") (r .entry), w ",", r .wrongPair],
      wrong "cannot use a starred expression in a dictionary value"
        (seq [r .expression, w ":", .mark (w "*"), r .bitOr]),
      wrong "expression expected after dictionary key and ':'"
        (seq [r .expression, .mark (w ":"), .ahead (.choice [w "\x7d", w ","])])]
  | .wrongPair => .choice [
      .make (seq [.mark (r .expression), .notAhead (w ":")]) fun _ _ =>
        .messageBehind "':' expected after dictionary key",
      wrong "cannot use a starred expression in a dictionary value"
        (seq [r .expression, w ":", .mark (w "*"), r .bitOr]),
      wrong "expression expected after dictionary key and ':'"
        (seq [r .expression, .mark (w ":"), .ahead (.choice [w "\x7d", w ","])])]
  | .loops => repeated (r .loop)
  | .loop =>
      let start := seq [opt (w "async"), w "for", r .targets, w "in"]
      .choice [
        skip (seq [start, r .disjunction, .many (seq [w "if", r .disjunction])]),
        .tell (seq [.notAhead start, r .wrongLoop])]
  | .wrongLoop => wrongBy wrongTargetOf (seq [opt (w "async"), w "for", .mark (r .starExpressions)])
  | .wrongComp => .choice [
      wrong "iterable unpacking cannot be used in comprehension"
        (seq [.choice [w "(", w "\x7b"], .mark (r .starredArg), r .loops]),
      wrong "did you forget parentheses around the comprehension target?"
        (seq [w "\x7b", .mark (r .starNamed), w ",", r .starNameds, r .loops]),
      wrong "did you forget parentheses around the comprehension target?"
        (seq [w "\x7b", .mark (r .starNamed), w ",", r .loops])]
  | .wrongDictComp => wrong "dict unpacking cannot be used in dict comprehension"
      (seq [w "\x7b", .mark (w "**"), r .bitOr, r .loops, w "\x7d"])
  | .arguments => .choice [
      seq [r .args, opt (w ","), .ahead (w ")")],
      .tell (r .wrongArguments)]
  | .args =>
      into (fun ns => [Node.argumentsOf ns]) (.choice [
        seq [separated (w ",") plainArg, opt (seq [w ",", r .namedArgs])],
        r .namedArgs])
  | .namedArgs => .choice [
      seq [separated (w ",") (r .namedOrStarred), w ",", separated (w ",") (r .namedOrSpread)],
      separated (w ",") (r .namedOrStarred),
      separated (w ",") (r .namedOrSpread)]
  | .starredArg => .choice [
      into (fun ns => ns.map .starred) (seq [w "*", r .expression]),
      wrongAtLast "Invalid star expression" (w "*")]
  | .namedOrStarred => .choice [
      .tell (r .wrongNamedArg),
      as .named (seq [nameToken, w "=", r .expression]),
      .mark (r .starredArg)]
  | .namedOrSpread => .choice [
      .tell (r .wrongNamedArg),
      as .named (seq [nameToken, w "=", r .expression]),
      as .unpacked (seq [w "**", r .expression])]
  | .wrongArguments => .choice [
      wrong "iterable argument unpacking follows keyword argument unpacking"
        (seq [
          .choice [seq [separated (w ",") plainArg, w ",", r .namedArgs], r .namedArgs], w ",",
          separated (w ",") (seq [r .starredArg, .notAhead (w "=")])]),
      wrong parenthesized (seq [.mark (r .expression), r .loops, w ",",
        opt (.choice [r .args, seq [r .expression, r .loops]])]),
      wrong equalsInstead (seq [nameToken, w "=", r .expression, r .loops]),
      wrongBy wrongLoopArgument (seq [r .args, r .loops]),
      wrong parenthesized (seq [r .args, w ",", .mark (r .expression), r .loops]),
      wrongBy misplacedArgument (seq [r .args, w ",", r .args])]
  | .wrongNamedArg => .choice [
      wrong "cannot assign to True" (seq [w "True", w "="]),
      wrong "cannot assign to False" (seq [w "False", w "="]),
      wrong "cannot assign to None" (seq [w "None", w "="]),
      wrong equalsInstead (seq [nameToken, w "=", r .expression, r .loops]),
      wrong "expression cannot contain assignment, perhaps you meant \"==\"?"
        (seq [.notAhead (seq [nameToken, w "="]), .mark (r .expression), w "="])]
  | .targets => .choice [
      seq [r .target, .notAhead (w ",")],
      seq [r .target, .many (seq [w ",", r .target]), opt (w ",")]]
  | .target => .choice [
      seq [w "*", .notAhead (w "*"), r .target],
      r .plainTarget]
  | .plainTarget => .choice [
      seq [r .targetHead, w ".", nameToken, .notAhead (.choice [w "(", w "."])],
      r .targetAtom]
  | .targetAtom => .choice [
      nameToken,
      seq [w "(", r .plainTarget, w ")"],
      seq [w "(", opt (r .targetTuple), w ")"]]
  | .targetTuple => .choice [
      seq [r .target, repeated (seq [w ",", r .target]), opt (w ",")],
      seq [r .target, w ","]]
  | .targetHead =>
      let on : P := .ahead (.choice [w "(", w "."])
      seq [r .atom, on, .many (.choice [
        seq [w ".", nameToken, on],
        seq [r .generator, on],
        seq [w "(", opt (r .arguments), w ")", on]])]
  | .lambda => as .lambda (seq [w "lambda", opt (r .parameters), w ":", r .expression])
  | .parameters => .choice [
      .tell (r .wrongParameters),
      seq [r .positional, .many (r .parameter), .many (r .parameterWithDefault),
        opt (r .starParameters)],
      seq [r .positionalWithDefaults, .many (r .parameterWithDefault), opt (r .starParameters)],
      seq [repeated (r .parameter), .many (r .parameterWithDefault), opt (r .starParameters)],
      seq [repeated (r .parameterWithDefault), opt (r .starParameters)],
      r .starParameters]
  | .wrongParameters => .choice [
      wrong "at least one argument must precede /" (seq [w "/", w ","]),
      wrong "/ may appear only once" (seq [noSlash, .many (r .anyParameter), .mark (w "/")]),
      wrong "non-default argument follows default argument"
        (seq [opt (r .positional), .many (r .parameter),
          .choice [r .positionalWithDefaults, repeated (r .parameterWithDefault)],
          .mark (r .parameter)]),
      wrong "Lambda expression parameters cannot be parenthesized"
        (seq [.many (r .parameter), .mark (w "("), separated (w ",") nameToken, opt (w ","), w ")"]),
      wrong "/ must be ahead of *"
        (seq [opt noSlash, .many (r .anyParameter), w "*", .choice [w ",", r .parameter],
          .many (r .anyParameter), .mark (w "/")]),
      wrong "expected comma between / and *"
        (seq [repeated (r .anyParameter), w "/", .mark (w "*")])]
  | .positional => seq [repeated (r .parameter), w "/", endsParameter]
  | .positionalWithDefaults =>
      seq [.many (r .parameter), repeated (r .parameterWithDefault), w "/", endsParameter]
  | .starParameters => .choice [
      .tell (r .wrongStar),
      seq [w "*", r .parameter, .many (r .anyParameter), opt (r .spread)],
      seq [w "*", w ",", repeated (r .anyParameter), opt (r .spread)],
      r .spread]
  | .wrongStar => .choice [
      wrongAtLast "named arguments must follow bare *"
        (seq [w "*", .choice [w ":", seq [w ",", .choice [w ":", w "**"]]]]),
      wrong "var-positional argument cannot have default value"
        (seq [w "*", nameToken, .mark (w "=")]),
      wrong "* argument may appear only once"
        (seq [w "*", .choice [r .parameter, w ","], .many (r .anyParameter), .mark (w "*"),
          .choice [r .parameter, w ","]])]
  | .spread => .choice [.tell (r .wrongSpread), seq [w "**", r .parameter]]
  | .wrongSpread => .choice [
      wrong "var-keyword argument cannot have default value"
        (seq [w "**", nameToken, .mark (w "=")]),
      wrong "arguments cannot follow var-keyword argument"
        (seq [w "**", nameToken, w ",", .mark (.choice [nameToken, w "*", w "**", w "/"])])]
  | .parameter => seq [nameToken, endsParameter]
  | .parameterWithDefault => seq [nameToken, r .default, endsParameter]
  | .anyParameter => seq [nameToken, opt (r .default), endsParameter]
  | .default => .choice [
      seq [w "=", r .expression],
      .tell (wrong wrongDefault (seq [w "=", .ahead (.choice [w ")", w ","])]))]

/-- The rules whose readings are kept. -/
def isKept : Rule → Bool
  | .expression | .starExpression | .disjunction | .conjunction | .inversion | .bitOr | .bitXor
  | .bitAnd | .shift | .sum | .term | .factor | .awaiting | .primary | .strings | .arguments
  | .wrongNamed | .target | .plainTarget | .targetHead => true
  | _ => false

end Rule

/-- The grammar of literals, given what texts in a row are. -/
def grammarWith (joined : List Token → Built) : Grammar Rule :=
  ⟨Rule.body joined, Rule.ctorIdx, Rule.isKept⟩

end Statecraft.Literal
